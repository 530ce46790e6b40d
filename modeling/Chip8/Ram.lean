/-!
# Wrapping memory

A block of byte cells answers for every integer address: an address stands for the cell at its
distance from the block's first address, modulo the block's size. So the block looks like a store
over all integers that repeats with the size as its period, and no access can miss. A store keeps
the low eight bits of the value it is given.
-/

namespace Chip8

/-- Where a block of memory lies. It has at least one cell. -/
structure Extent where
  start : Nat
  size : Nat
  size_pos : 0 < size := by decide

namespace Extent

inductive Error
  /-- The block would start below zero or hold no cell. -/
  | invalidRange
  deriving DecidableEq, Repr

def Error.message : Error → String
  | .invalidRange => "invalid memory range"

def of? (start length : Int) : Except Error Extent :=
  if h : 0 ≤ start ∧ 0 < length then
    .ok ⟨start.toNat, length.toNat, by omega⟩
  else
    .error .invalidRange

/-- The cell an address stands for. -/
def position (e : Extent) (address : Int) : Fin e.size :=
  ⟨((address - e.start) % e.size).toNat, by
    have pos : (0 : Int) < e.size := by exact_mod_cast e.size_pos
    have lower := Int.emod_nonneg (address - e.start) (Int.ne_of_gt pos)
    have upper := Int.emod_lt_of_pos (address - e.start) pos
    omega⟩

/-- The cell after a cell, which is the first one after the last. -/
def next (e : Extent) (cell : Fin e.size) : Fin e.size :=
  ⟨(cell + 1) % e.size, Nat.mod_lt _ e.size_pos⟩

theorem position_add_mul (e : Extent) (address k : Int) :
    e.position (address + e.size * k) = e.position address := by
  apply Fin.ext
  simp only [position]
  rw [show address + e.size * k - e.start = address - e.start + e.size * k by omega,
    Int.add_mul_emod_self_left]

theorem position_eq_iff (e : Extent) (a b : Int) :
    e.position a = e.position b ↔ a % e.size = b % e.size := by
  have pos : (0 : Int) < e.size := by exact_mod_cast e.size_pos
  have ha := Int.emod_nonneg (a - e.start) (Int.ne_of_gt pos)
  have hb := Int.emod_nonneg (b - e.start) (Int.ne_of_gt pos)
  constructor
  · intro h
    have same : (a - e.start) % e.size = (b - e.start) % e.size := by
      have := congrArg Fin.val h
      simp only [position] at this
      omega
    exact (Int.emod_sub_cancel_right (e.start : Int)).mp same
  · intro h
    apply Fin.ext
    simp only [position]
    rw [(Int.emod_sub_cancel_right (e.start : Int)).mpr h]

theorem position_add_one (e : Extent) (address : Int) :
    e.position (address + 1) = e.next (e.position address) := by
  have pos : (0 : Int) < e.size := by exact_mod_cast e.size_pos
  have lower := Int.emod_nonneg (address - e.start) (Int.ne_of_gt pos)
  apply Fin.ext
  simp only [position, next]
  rw [show address + 1 - e.start = address - e.start + 1 by omega, ← Int.emod_add_emod]
  generalize (address - e.start) % e.size = cell at lower ⊢
  obtain ⟨n, rfl⟩ := Int.eq_ofNat_of_zero_le lower
  rw [Int.toNat_natCast, ← Int.natCast_succ, ← Int.natCast_emod, Int.toNat_natCast]

end Extent

structure Ram (e : Extent) where
  cells : Vector UInt8 e.size
  deriving DecidableEq

namespace Ram

variable {e : Extent}

def blank (e : Extent) : Ram e := ⟨Vector.replicate e.size 0⟩

def load (m : Ram e) (address : Int) : UInt8 := m.cells[e.position address]

def set (m : Ram e) (address : Int) (byte : UInt8) : Ram e :=
  ⟨m.cells.set (e.position address) byte⟩

/-- Stores the low eight bits of `value`. -/
def store (m : Ram e) (address value : Int) : Ram e := m.set address (UInt8.ofInt value)

/-- The word at `address`, its high byte first. The low byte is in the next cell. -/
def loadWord (m : Ram e) (address : Int) : UInt16 :=
  let cell := e.position address
  UInt16.ofNat (256 * m.cells[cell].toNat + m.cells[e.next cell].toNat)

def setBlock (m : Ram e) (address : Int) : List UInt8 → Ram e
  | [] => m
  | byte :: rest => (m.set address byte).setBlock (address + 1) rest

/-- Stores values at consecutive addresses; of a block longer than the memory the later values
overwrite the earlier ones. -/
def storeBlock (m : Ram e) (address : Int) (values : List Int) : Ram e :=
  m.setBlock address (values.map UInt8.ofInt)

def loadBlock (m : Ram e) (address : Int) (count : Nat) : List UInt8 :=
  (List.range count).map fun offset => m.load (address + (offset : Nat))

theorem loadWord_eq (m : Ram e) (address : Int) :
    m.loadWord address =
      UInt16.ofNat (256 * (m.load address).toNat + (m.load (address + 1)).toNat) := by
  simp only [loadWord, load, e.position_add_one]

@[simp] theorem load_blank (e : Extent) (address : Int) : (blank e).load address = 0 := by
  simp [load, blank]

theorem load_set (m : Ram e) (a b : Int) (byte : UInt8) :
    (m.set a byte).load b = if a % e.size = b % e.size then byte else m.load b := by
  simp only [load, set, Fin.getElem_fin, Vector.getElem_set]
  by_cases h : a % e.size = b % e.size
  · rw [if_pos h, if_pos (congrArg Fin.val ((e.position_eq_iff a b).mpr h))]
  · rw [if_neg h, if_neg (fun same => h ((e.position_eq_iff a b).mp (Fin.ext same)))]

@[simp] theorem length_loadBlock (m : Ram e) (address : Int) (count : Nat) :
    (m.loadBlock address count).length = count := by
  simp [loadBlock]

@[simp] theorem loadBlock_zero (m : Ram e) (address : Int) : m.loadBlock address 0 = [] := rfl

end Ram

end Chip8
