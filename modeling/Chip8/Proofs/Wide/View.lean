import Chip8.Proofs.Bounds
import Chip8.Proofs.Wide.Core

/-!
# The core without its widths

A core of bytes and words has a view without widths: the same numbers as integers, the same tables
as lists. An action of the interpreter without widths runs from one core to another if it takes the
view of the first to the view of the second and raises no error. Runs compose, and every access to
a table runs, because the tables of a view are exactly as long as those of its core.
-/

namespace Chip8

namespace Core

def wide (c : Core) : Wide where
  v := c.v.toList.map fun byte => (byte.toNat : Int)
  index := c.index.toNat
  pc := c.pc.toNat
  stack := c.stack.slots.toList.map fun word => (word.toNat : Int)
  depth := c.stack.depth
  delay := c.delay.toNat
  sound := c.sound.toNat
  waiting := c.waiting
  memory := c.memory.cells.toList.map fun byte => (byte.toNat : Int)
  pixels := c.screen.pixels.toList
  keys := c.keypad.keys.toList
  random := c.random

private theorem mem_bytes_le {bytes : List UInt8} :
    ∀ a ∈ bytes.map (fun byte => (byte.toNat : Int)), 0 ≤ a ∧ a ≤ 255 := by
  intro a ha
  obtain ⟨byte, -, rfl⟩ := List.mem_map.mp ha
  have := byte.toNat_lt
  omega

/-- What the types do not say of a view, the bounds of its core do. -/
theorem Bounded.inRange {c : Core} (h : c.Bounded) : c.wide.InRange where
  registers := ⟨by simp [wide], mem_bytes_le⟩
  index := by
    have := c.index.toNat_lt
    simp only [wide]
    omega
  pc := by
    have := h.pc
    simp only [wide]
    omega
  depth := by
    have := c.stack.depth_le
    simp only [wide]
    omega
  stack := by
    refine ⟨by simp [wide], fun word hword => ?_⟩
    obtain ⟨word, member, rfl⟩ := List.mem_map.mp hword
    have := h.words word member
    omega
  delay := by
    have := c.delay.toNat_lt
    simp only [wide]
    omega
  sound := by
    have := c.sound.toNat_lt
    simp only [wide]
    omega
  memory := ⟨by simp [wide], mem_bytes_le⟩
  pixels := by simp [wide]
  keys := by simp [wide]

end Core

namespace Wide

/-! ### Runs -/

/-- From the view of `c` the action returns `a` and leaves the view of `d`. -/
def Runs {α : Type} (action : Action α) (c : Core) (a : α) (d : Core) : Prop :=
  action.run c.wide = .ok a d.wide

section Runs

variable {α β : Type} {c d e : Core} {a : α} {b : β}

theorem Runs.bind {action : Action α} {next : α → Action β} (h : Runs action c a d)
    (hnext : Runs (next a) d b e) : Runs (action >>= next) c b e := by
  simp only [Runs, EStateM.run_bind] at *
  rw [h]
  exact hnext

/-- An error in what follows a run is an error of the whole. -/
theorem Runs.bind_error {action : Action α} {next : α → Action β} {error : Error} {w : Wide}
    (h : Runs action c a d) (hnext : (next a).run d.wide = .error error w) :
    (action >>= next).run c.wide = .error error w := by
  rw [EStateM.run_bind, h]
  exact hnext

theorem error_bind {action : Action α} {next : α → Action β} {error : Error} {w : Wide}
    (h : action.run c.wide = .error error w) :
    (action >>= next).run c.wide = .error error w := by
  rw [EStateM.run_bind, h]

theorem Runs.get_bind {next : Wide → Action β} (h : Runs (next c.wide) c b d) :
    Runs (get >>= next) c b d := h

theorem Runs.set_of_eq {w : Wide} (h : w = d.wide) : Runs (set w) c () d := by
  rw [h]
  rfl

theorem Runs.modify_of_eq {f : Wide → Wide} (h : f c.wide = d.wide) : Runs (modify f) c () d := by
  rw [Runs, ← h]
  rfl

theorem runs_pure : Runs (pure a) c a c := rfl

theorem runs_entry {xs : List α} {k : Nat} (h : xs[k]? = some a) : Runs (entry xs k) c a c := by
  simp only [entry, Int.natCast_nonneg, if_true, Int.toNat_natCast, h]
  exact runs_pure

theorem runs_replaced {xs : List α} {k : Nat} (h : k < xs.length) :
    Runs (replaced xs k a) c (xs.set k a) c := by
  have inside : (0 : Int) ≤ k ∧ (k : Int) < xs.length := by omega
  simp only [replaced, if_pos inside, Int.toNat_natCast]
  exact runs_pure

end Runs

/-! ### Registers -/

variable {c : Core}

theorem runs_reg (x : Fin 16) : Runs (reg x.val) c (c.reg x).toNat c := by
  refine Runs.get_bind (runs_entry ?_)
  simp [Core.wide, Core.reg, Vector.get]

theorem runs_setReg {x : Fin 16} {value : Int} {byte : UInt8} (h : value = byte.toNat) :
    Runs (setReg x.val value) c () (c.setReg x byte) := by
  have inside : x.val < c.wide.v.length := by simp [Core.wide]
  refine Runs.get_bind ((runs_replaced inside).bind (Runs.set_of_eq ?_))
  simp [Core.wide, Core.setReg, Vector.toList_set, List.map_set, h]

theorem runs_setFlag (on : Bool) : Runs (setFlag on) c () (c.setFlag on) := by
  refine runs_setReg (x := Core.flag) ?_
  cases on <;> rfl

/-! ### Memory -/

/-- Cutting a byte to a byte changes nothing. -/
theorem toNat_emod (byte : UInt8) : (byte.toNat : Int) % 256 = byte.toNat := by
  have := byte.toNat_lt
  omega

/-- Both interpreters wrap an address to the same cell. -/
theorem emod_eq_position (address : Int) : address % 4096 = (mainMemory.position address).val := by
  have nonneg := Int.emod_nonneg address (show (4096 : Int) ≠ 0 by decide)
  simp only [Extent.position]
  omega

theorem runs_cell (address : Int) : Runs (cell address) c (c.memory.load address).toNat c := by
  have found : Runs (entry c.wide.memory (address % 4096)) c
      ((c.memory.load address).toNat : Int) c := by
    rw [emod_eq_position]
    refine runs_entry ?_
    simp [Core.wide, Ram.load]
  refine Runs.get_bind (found.bind ?_)
  rw [toNat_emod]
  exact runs_pure

theorem runs_setCell {address value : Int} {byte : UInt8} (h : value % 256 = byte.toNat) :
    Runs (setCell address value) c () { c with memory := c.memory.set address byte } := by
  have inside : (mainMemory.position address).val < c.wide.memory.length := by simp [Core.wide]
  refine Runs.get_bind ?_
  rw [emod_eq_position]
  refine (runs_replaced inside).bind (Runs.set_of_eq ?_)
  simp [Core.wide, Ram.set, Vector.toList_set, List.map_set, h]

theorem runs_block (address : Int) (count : Nat) :
    Runs (block address count) c
      ((c.memory.loadBlock address count).map fun byte => (byte.toNat : Int)) c := by
  induction count generalizing address with
  | zero => exact runs_pure
  | succ count ih =>
      rw [c.memory.loadBlock_succ]
      exact (runs_cell address).bind ((ih (address + 1)).bind runs_pure)

theorem runs_setBlock (address : Int) (bytes : List UInt8) :
    Runs (setBlock address (bytes.map fun byte => (byte.toNat : Int))) c ()
      { c with memory := c.memory.setBlock address bytes } := by
  induction bytes generalizing c address with
  | nil => exact runs_pure
  | cons byte rest ih =>
      exact (runs_setCell (toNat_emod byte)).bind (ih (address + 1))

/-! ### Keys -/

theorem runs_isPressed (key : Int) : Runs (isPressed key) c (c.keypad.isPressed key) c := by
  refine Runs.get_bind ?_
  by_cases on : 0 ≤ key ∧ key < 16
  · obtain ⟨k, rfl⟩ := Int.eq_ofNat_of_zero_le on.1
    rw [if_pos on]
    refine runs_entry ?_
    have short : k < 16 := by omega
    simp [Core.wide, Keypad.isPressed, on, Vector.get, short]
  · rw [if_neg on]
    simp only [Keypad.isPressed, dif_neg on]
    exact runs_pure

theorem runs_setKey (key : Int) (pressed : Bool) :
    Runs (setKey key pressed) c () { c with keypad := c.keypad.set key pressed } := by
  refine Runs.get_bind ?_
  by_cases on : 0 ≤ key ∧ key < 16
  · obtain ⟨k, rfl⟩ := Int.eq_ofNat_of_zero_le on.1
    rw [if_pos on]
    have inside : k < c.wide.keys.length := by
      simp only [Core.wide, Vector.length_toList]
      omega
    refine (runs_replaced inside).bind (Runs.set_of_eq ?_)
    simp [Core.wide, Keypad.set, on, Vector.toList_set]
  · rw [if_neg on]
    simp only [Keypad.set, dif_neg on]
    exact runs_pure

end Wide

end Chip8
