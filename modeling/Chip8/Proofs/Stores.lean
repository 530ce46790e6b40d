import Chip8.Proofs.Memory

/-!
# Reading back what was stored

A store of one value and a store of a block both come to single values at integer addresses, one
after the other. Addresses that are congruent modulo the size stand for one cell, so a read finds
the value that came last at an address congruent to its own, whatever was written in between and
however a block overlaps itself: `shows_performAll` says so of any number of stores. What a block
leaves in its own cells is the case of a single store, and there the last value is told by its
offset alone.
-/

namespace Chip8

namespace Ram

variable {e : Extent}

/-- What memory may be told to store. -/
inductive Store
  | single (address value : Int)
  | block (address : Int) (values : List Int)

/-- The single values that are stored, each with its address. -/
def Store.writes : Store → List (Int × Int)
  | .single address value => [(address, value)]
  | .block address values =>
      values.zipIdx.map fun (value, offset) => (address + (offset : Nat), value)

def perform (m : Ram e) : Store → Ram e
  | .single address value => m.store address value
  | .block address values => m.storeBlock address values

def performAll (m : Ram e) (stores : List Store) : Ram e := stores.foldl perform m

/-- The value that was written last at an address congruent to the given one. -/
def latest? (period : Nat) (writes : List (Int × Int)) (address : Int) : Option Int :=
  (writes.reverse.find? fun write => write.1 % period = address % period).map Prod.snd

/-! ### The latest value -/

theorem latest?_append (period : Nat) (first second : List (Int × Int)) (address : Int) :
    latest? period (first ++ second) address
      = (latest? period second address).or (latest? period first address) := by
  simp only [latest?, List.reverse_append, List.find?_append, Option.map_or]

theorem latest?_singleton (period : Nat) (a value address : Int) :
    latest? period [(a, value)] address
      = if a % period = address % period then some value else none := by
  by_cases same : a % period = address % period <;> simp [latest?, same]

theorem writes_block_cons (address value : Int) (rest : List Int) :
    (Store.block address (value :: rest)).writes
      = [(address, value)] ++ (Store.block (address + 1) rest).writes := by
  simp only [Store.writes, List.zipIdx_cons, List.zipIdx_succ, List.map_cons, List.map_map,
    Int.natCast_zero, Int.add_zero, List.singleton_append, List.cons.injEq, true_and]
  refine List.map_congr_left fun (value, offset) _ => ?_
  simp only [Function.comp_apply, Int.natCast_add, Int.natCast_one, Prod.mk.injEq, and_true]
  omega

/-! ### What is read after the writes -/

/-- The second memory is the first after the writes: each address reads the latest value, or what it
read before if there is none. -/
def Shows (before after : Ram e) (writes : List (Int × Int)) : Prop :=
  ∀ a, after.load a = ((latest? e.size writes a).map UInt8.ofInt).getD (before.load a)

theorem Shows.refl (m : Ram e) : Shows m m [] := fun _ => rfl

theorem Shows.trans {m n k : Ram e} {first second : List (Int × Int)} (earlier : Shows m n first)
    (later : Shows n k second) : Shows m k (first ++ second) := by
  intro a
  rw [later a, earlier a, latest?_append]
  cases latest? e.size second a <;> rfl

theorem shows_store (m : Ram e) (address value : Int) :
    Shows m (m.store address value) [(address, value)] := by
  intro a
  rw [store, load_set, latest?_singleton]
  split <;> rfl

theorem shows_storeBlock (m : Ram e) (address : Int) (values : List Int) :
    Shows m (m.storeBlock address values) (Store.block address values).writes := by
  induction values generalizing m address with
  | nil => exact Shows.refl m
  | cons value rest ih =>
      rw [writes_block_cons]
      exact (m.shows_store address value).trans (ih _ _)

theorem shows_performAll (m : Ram e) (stores : List Store) :
    Shows m (m.performAll stores) (stores.flatMap Store.writes) := by
  induction stores generalizing m with
  | nil => exact Shows.refl m
  | cons store rest ih =>
      have first : Shows m (m.perform store) store.writes := by
        cases store with
        | single address value => exact m.shows_store address value
        | block address values => exact m.shows_storeBlock address values
      rw [List.flatMap_cons]
      exact first.trans (ih _)

/-! ### A block in its own cells -/

theorem toNat_ofInt (value : Int) : ((UInt8.ofInt value).toNat : Int) = value % 256 := by
  rw [UInt8.ofInt, UInt8.toNat_ofNat']
  omega

/-- Of the offsets of a block that are congruent to one of them there is a last one. -/
theorem exists_last_offset {period count k : Nat} (pos : 0 < period) (hk : k < count) :
    ∃ j < count, j % period = k % period ∧
      ∀ i, j < i → i < count → i % period ≠ k % period := by
  have split := Nat.div_add_mod (count - 1 - k) period
  have short := Nat.mod_lt (count - 1 - k) pos
  have congruent := Nat.add_mul_mod_self_left k period ((count - 1 - k) / period)
  refine ⟨k + period * ((count - 1 - k) / period), by omega, congruent,
    fun i later inside same => ?_⟩
  -- the next congruent offset lies a whole period further
  have apart := Nat.sub_mod_eq_zero_of_mod_eq (same.trans congruent.symm)
  have := Nat.le_of_dvd (by omega) (Nat.dvd_of_mod_eq_zero apart)
  omega

/-- What a block reads as right after it was stored. -/
def readBack (m : Ram e) (address : Int) (values : List Int) : List Int :=
  ((m.storeBlock address values).loadBlock address values.length).map fun byte => (byte.toNat : Int)

theorem readBack_getElem? (m : Ram e) (address : Int) {values : List Int} {j k : Nat}
    (hk : k < values.length) (hj : j < values.length) (congruent : j % e.size = k % e.size)
    (last : ∀ i, j < i → i < values.length → i % e.size ≠ k % e.size) :
    (m.readBack address values)[k]? = some (values[j] % 256) := by
  have same_cell (i : Nat) : (address + i) % e.size = (address + k) % e.size ↔
      i % e.size = k % e.size := by
    rw [Int.emod_add_cancel_left]
    omega
  have read : (m.storeBlock address values).load (address + k) = UInt8.ofInt values[j] := by
    rw [storeBlock, load_setBlock_of_last m address _ _ (by simpa using hj)
      ((same_cell j).mpr congruent)]
    · exact List.getElem_map _
    · intro i later inside
      exact mt (same_cell i).mp (last i later (by simpa using inside))
  rw [readBack, loadBlock, List.map_map, List.getElem?_map, List.getElem?_range hk]
  exact congrArg some ((congrArg (fun byte => (byte.toNat : Int)) read).trans (toNat_ofInt _))

/-- Memory reads as if every address had a cell of its own and a store reached all the cells that
lie a multiple of the size apart: each address shows the low byte of the value stored last at an
address congruent to it, and zero before any. A word is two neighbouring bytes, the first cell being
the neighbour of the last, and a block is the bytes at consecutive addresses. A block that has just
been stored reads as its own low bytes if it is no longer than the memory, and in any case each
offset reads the last value at an offset congruent to it. -/
theorem reads_latest_store (e : Extent) (stores : List Store) :
    let m := (blank e).performAll stores
    (∀ a, ((m.load a).toNat : Int)
      = (latest? e.size (stores.flatMap Store.writes) a).getD 0 % 256) ∧
    (∀ a, (m.loadWord a).toNat = 256 * (m.load a).toNat + (m.load (a + 1)).toNat ∧
      m.load (a + 1) = m.cells.get (e.next (e.position a))) ∧
    (∀ a count, m.loadBlock a count = (List.range count).map fun k => m.load (a + (k : Nat))) ∧
    (∀ a values, values.length ≤ e.size → m.readBack a values = values.map (· % 256)) ∧
    ∀ a values (k : Nat), k < values.length →
      ∃ j, ∃ inside : j < values.length, j % e.size = k % e.size ∧
        (∀ i, j < i → i < values.length → i % e.size ≠ k % e.size) ∧
        (m.readBack a values)[k]? = some (values[j] % 256) := by
  intro m
  refine ⟨fun a => ?_, fun a => ⟨m.toNat_loadWord a, ?_⟩, fun a count => rfl,
    fun a values fits => ?_, fun a values k hk => ?_⟩
  · have read := (blank e).shows_performAll stores a
    rw [load_blank] at read
    rw [read]
    cases latest? e.size (stores.flatMap Store.writes) a with
    | none => rfl
    | some value => exact toNat_ofInt value
  · rw [← e.position_add_one]
    rfl
  · refine List.ext_getElem? fun k => ?_
    by_cases hk : k < values.length
    · rw [m.readBack_getElem? a hk hk rfl, List.getElem?_map, List.getElem?_eq_getElem hk]
      · rfl
      · intro i later inside
        rw [Nat.mod_eq_of_lt (by omega), Nat.mod_eq_of_lt (by omega)]
        omega
    · rw [List.getElem?_eq_none (by simp [readBack]; omega), List.getElem?_eq_none (by simp; omega)]
  · obtain ⟨j, inside, congruent, last⟩ := exists_last_offset e.size_pos hk
    exact ⟨j, inside, congruent, last, m.readBack_getElem? a hk inside congruent last⟩

/-- Three cells from address 2 on. The value at address -1 lies under that at 8, and a block of five
values overwrites its own first two. -/
theorem reads_latest_store_of_overlap :
    let m := (blank ⟨2, 3, by decide⟩).performAll [.single (-1) 7, .block 7 [1, -1]]
    (m.load 5).toNat = 255 ∧ (m.load 1).toNat = 1 ∧ (m.load 0).toNat = 0 ∧
      [10, 300].length ≤ 3 ∧ m.readBack (-4) [10, 300] = [10, 44] ∧
      0 < [1, 2, 3, 4, 5].length ∧ (m.readBack 6 [1, 2, 3, 4, 5])[0]? = some 4 := by
  intro m
  obtain ⟨reads, -, -, fits, overlaps⟩ :=
    reads_latest_store ⟨2, 3, by decide⟩ [.single (-1) 7, .block 7 [1, -1]]
  obtain ⟨j, inside, congruent, last, read⟩ := overlaps 6 [1, 2, 3, 4, 5] 0 (by decide)
  obtain rfl : j = 3 := by
    have short : j < 5 := inside
    have := last 3
    simp only [List.length_cons, List.length_nil] at congruent this
    omega
  exact ⟨Int.ofNat_inj.mp (reads 5), Int.ofNat_inj.mp (reads 1), Int.ofNat_inj.mp (reads 0),
    by decide, fits (-4) [10, 300] (by decide), by decide, read⟩

end Ram

end Chip8
