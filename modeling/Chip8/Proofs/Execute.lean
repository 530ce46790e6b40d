import Chip8.Core.Step
import Chip8.Proofs.Decode

/-!
# What a step can do

The cases of an instruction and of a step, stated once. Only the two instructions that use the call
stack can fault. A step of the core has three endings: the program counter has left memory, the
fetched instruction faults, or it is carried out and the timers count down.
-/

namespace Chip8

namespace Core

/-- The core as a step finds it: no longer waiting. -/
def awake (c : Core) : Core := { c with waiting := false }

/-- The core as an instruction finds it: the program counter is past the word. -/
def fetched (c : Core) : Core := { c with waiting := false, pc := c.pc + 2 }

theorem toNat_add_two {word : UInt16} (room : word.toNat + 2 < 65536) :
    (word + 2).toNat = word.toNat + 2 := by
  rw [UInt16.toNat_add, show (2 : UInt16).toNat = 2 from rfl]
  omega

/-- Within memory the address after a word is plainly two further. -/
theorem toNat_pc_add_two {c : Core} (inside : c.pc < memoryEnd) :
    (c.pc + 2).toNat = c.pc.toNat + 2 := by
  have inside : c.pc.toNat < 4096 := inside
  exact toNat_add_two (by omega)

/-! ### Results as updates of the core

With the conditions moved into the fields, a field that an instruction does not name is plainly the
old one. -/

theorem skipIf_eq (c : Core) (condition : Bool) :
    c.skipIf condition = { c with pc := if condition then c.pc + 2 else c.pc } := by
  cases condition <;> rfl

theorem awaitKey_eq (c : Core) (x : Fin 16) :
    c.awaitKey x =
      { c with
        v := (c.keypad.firstPressed.map fun key => (c.setReg x (UInt8.ofNat key.val)).v).getD c.v
        pc := if c.keypad.firstPressed = none then c.pc - 2 else c.pc
        waiting := if c.keypad.firstPressed = none then true else c.waiting } := by
  unfold awaitKey
  cases c.keypad.firstPressed <;> rfl

/-! ### The call stack -/

theorem execute_ret_eq_ok_iff (c d : Core) :
    c.execute .ret = .ok d ↔
      ∃ word stack, c.stack.pop? = some (word, stack) ∧ d = { c with pc := word, stack } := by
  simp only [execute]
  cases c.stack.pop? with
  | none => simp
  | some popped =>
      constructor
      · intro h
        cases h
        exact ⟨popped.1, popped.2, rfl, rfl⟩
      · rintro ⟨word, stack, hpopped, rfl⟩
        cases hpopped
        rfl

theorem execute_call_eq_ok_iff (c d : Core) (target : UInt16) :
    c.execute (.call target) = .ok d ↔
      ∃ stack, c.stack.push? c.pc = some stack ∧ d = { c with stack, pc := target } := by
  simp only [execute]
  cases c.stack.push? c.pc with
  | none => simp
  | some pushed => simp [eq_comm]

/-- The two ways to fault. -/
theorem execute_eq_error_iff (c : Core) (i : Instruction) (reason : FaultReason) :
    c.execute i = .error reason ↔
      (∃ target, i = .call target) ∧ c.stack.depth = 16 ∧ reason = .stackOverflow ∨
        i = .ret ∧ c.stack.depth = 0 ∧ reason = .stackUnderflow := by
  cases i
  case ret =>
    rw [← c.stack.pop?_eq_none_iff]
    simp only [execute]
    cases c.stack.pop? <;> simp [eq_comm]
  case call target =>
    rw [← c.stack.push?_eq_none_iff c.pc]
    simp only [execute]
    cases c.stack.push? c.pc <;> simp [eq_comm]
  all_goals simp [execute]

/-! ### Steps of the core -/

theorem step_of_halted {c : Core} (out : memoryEnd ≤ c.pc) :
    c.step = (c.awake.tick, .ok ⟨c.pc, none, .halted⟩) := by
  simp only [step, ge_iff_le, out, if_true]
  rfl

theorem step_of_error {c : Core} {reason : FaultReason} (inside : c.pc < memoryEnd)
    (h : c.fetched.execute c.opcode.decode = .error reason) :
    c.step = (c.awake, .error ⟨reason, c.pc, c.opcode⟩) := by
  have stays : ¬ c.pc ≥ memoryEnd := UInt16.not_le.mpr inside
  simp only [fetched, opcode] at h
  simp only [step, stays, if_false, opcode, h]
  rfl

theorem step_of_ok {c d : Core} (inside : c.pc < memoryEnd)
    (h : c.fetched.execute c.opcode.decode = .ok d) :
    c.step = (d.tick, .ok ⟨c.pc, some c.opcode, d.statusAfter c.opcode.decode⟩) := by
  have stays : ¬ c.pc ≥ memoryEnd := UInt16.not_le.mpr inside
  simp only [fetched, opcode] at h
  simp only [step, stays, if_false, opcode, h]

theorem step_cases (c : Core) :
    (memoryEnd ≤ c.pc ∧ c.step = (c.awake.tick, .ok ⟨c.pc, none, .halted⟩)) ∨
    (∃ reason, c.pc < memoryEnd ∧ c.fetched.execute c.opcode.decode = .error reason ∧
      c.step = (c.awake, .error ⟨reason, c.pc, c.opcode⟩)) ∨
    (∃ d, c.pc < memoryEnd ∧ c.fetched.execute c.opcode.decode = .ok d ∧
      c.step = (d.tick, .ok ⟨c.pc, some c.opcode, d.statusAfter c.opcode.decode⟩)) := by
  by_cases out : memoryEnd ≤ c.pc
  · exact .inl ⟨out, step_of_halted out⟩
  · have inside := UInt16.not_le.mp out
    cases h : c.fetched.execute c.opcode.decode with
    | error reason => exact .inr (.inl ⟨reason, inside, rfl, step_of_error inside h⟩)
    | ok d => exact .inr (.inr ⟨d, inside, rfl, step_of_ok inside h⟩)

end Core

end Chip8
