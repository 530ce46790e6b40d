import Chip8.Machine

/-!
# Which keys are held

The list of held keys read through `isPressed`, and its head as the smallest of them. A keypad is
what `isPressed` says of the sixteen keys, so keys may go down in any order and more than once.
-/

namespace Chip8.Keypad

variable {k : Keypad} {key : Fin 16}

theorem isPressed_val (k : Keypad) (key : Fin 16) : k.isPressed key.val = k.keys.get key := by
  have inside : 0 ≤ (key.val : Int) ∧ (key.val : Int) < 16 := by omega
  rw [isPressed, dif_pos inside]
  rfl

theorem mem_pressed_iff : key ∈ k.pressed ↔ k.isPressed key.val = true := by
  rw [isPressed_val, pressed, List.mem_filter]
  exact and_iff_right (List.mem_finRange key)

theorem firstPressed_eq_none_iff :
    k.firstPressed = none ↔ ∀ key : Fin 16, k.isPressed key.val = false := by
  rw [firstPressed, List.head?_eq_none_iff, List.eq_nil_iff_forall_not_mem]
  simp only [mem_pressed_iff, Bool.not_eq_true]

/-- The keys are searched in ascending order, so the one found is the smallest. -/
theorem le_of_firstPressed (h : k.firstPressed = some key) {other : Fin 16}
    (held : k.isPressed other.val = true) : key ≤ other := by
  obtain ⟨rest, split⟩ := List.head?_eq_some_iff.mp h
  have ascending : k.pressed.Pairwise (· < ·) := (List.pairwise_lt_finRange 16).filter _
  rw [split, List.pairwise_cons] at ascending
  have member : other ∈ key :: rest := split ▸ mem_pressed_iff.mpr held
  rcases List.mem_cons.mp member with rfl | later
  · exact Fin.le_refl other
  · exact Fin.le_of_lt (ascending.1 other later)

theorem isPressed_of_firstPressed (h : k.firstPressed = some key) :
    k.isPressed key.val = true :=
  mem_pressed_iff.mp (List.mem_of_mem_head? h)

/-! ### Keys that go down -/

theorem ext_of_isPressed {k k' : Keypad}
    (same : ∀ key : Fin 16, k.isPressed key.val = k'.isPressed key.val) : k = k' := by
  obtain ⟨keys⟩ := k
  obtain ⟨keys'⟩ := k'
  refine congrArg Keypad.mk (Vector.ext fun i inside => ?_)
  have read := same ⟨i, inside⟩
  rwa [isPressed_val, isPressed_val] at read

theorem isPressed_set (k : Keypad) (index : Int) (pressed : Bool) (key : Fin 16) :
    (k.set index pressed).isPressed key.val =
      if index = key.val then pressed else k.isPressed key.val := by
  rw [set]
  split
  · rename_i inside
    have same : index.toNat = key.val ↔ index = key.val := by omega
    rw [isPressed_val, isPressed_val]
    change (k.keys.set index.toNat pressed (by omega))[key.val] =
      if index = key.val then pressed else k.keys[key.val]
    simp only [Vector.getElem_set, same]
  · rw [if_neg (by omega)]

/-- Holds the keys with these numbers down. -/
def press (k : Keypad) (keys : List Nat) : Keypad :=
  keys.foldl (fun k (key : Nat) => k.set key true) k

theorem isPressed_press_iff (keys : List Nat) (k : Keypad) (key : Fin 16) :
    (k.press keys).isPressed key.val = true ↔
      key.val ∈ keys ∨ k.isPressed key.val = true := by
  induction keys generalizing k with
  | nil => simp [press]
  | cons down rest ih =>
      have first : (k.set down true).isPressed key.val = true ↔
          key.val = down ∨ k.isPressed key.val = true := by
        rw [isPressed_set]
        split <;> rename_i same <;> simp <;> omega
      calc ((k.set down true).press rest).isPressed key.val = true
          ↔ key.val ∈ rest ∨ key.val = down ∨ k.isPressed key.val = true := by rw [ih, first]
        _ ↔ key.val ∈ down :: rest ∨ k.isPressed key.val = true := by
          rw [List.mem_cons, or_left_comm, or_assoc]

theorem press_congr {keys keys' : List Nat}
    (same : ∀ key : Fin 16, key.val ∈ keys ↔ key.val ∈ keys') (k : Keypad) :
    k.press keys = k.press keys' :=
  ext_of_isPressed fun key => by
    rw [Bool.eq_iff_iff, isPressed_press_iff, isPressed_press_iff, same key]

end Chip8.Keypad

namespace Chip8

/-- Holds the keys with these numbers down. -/
def Machine.press (m : Machine) (keys : List Nat) : Machine :=
  keys.foldl (fun m (key : Nat) => m.setKey key true) m

theorem Machine.press_eq (keys : List Nat) (m : Machine) :
    m.press keys = { m with core := { m.core with keypad := m.core.keypad.press keys } } := by
  induction keys generalizing m with
  | nil => rfl
  | cons key rest ih => exact ih (m.setKey key true)

theorem Machine.press_congr {keys keys' : List Nat}
    (same : ∀ key : Fin 16, key.val ∈ keys ↔ key.val ∈ keys') (m : Machine) :
    m.press keys = m.press keys' := by
  rw [press_eq, press_eq, Keypad.press_congr same]

end Chip8
