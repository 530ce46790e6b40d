import Chip8.Proofs.Fault
import Chip8.Proofs.StepsTaken
import Mathlib.Data.List.Forall2

/-!
# The trace

A machine that traces does what it does without the trace: an operation on it is the same operation
on the machine that does not trace, and one more line if a step was taken. So a history with the
trace on writes one line for each step that runs the core, in order. The line is told by the core
that the step finds: its program counter, the word there, and how the step ends.
-/

namespace Chip8

/-! ### Numerals -/

namespace Hex

def upperDigits : List Char :=
  ['0', '1', '2', '3', '4', '5', '6', '7', '8', '9', 'A', 'B', 'C', 'D', 'E', 'F']

/-- The text is a numeral of so many upper-case digits. -/
structure Shows (width n : Nat) (text : String) : Prop where
  length : text.toList.length = width
  upper : ∀ c ∈ text.toList, c ∈ upperDigits
  value : read? text.toList = some n

theorem digit_mem_upperDigits (n : Nat) : digit n ∈ upperDigits := by
  have all : ∀ k : Fin 16, digit k.val ∈ upperDigits := by decide
  have low := all ⟨n % 16, Nat.mod_lt n (by decide)⟩
  rwa [show digit (n % 16) = digit n by rw [digit, digit, Nat.mod_mod]] at low

theorem mem_upperDigits_of_mem_digits {width n : Nat} {c : Char} (h : c ∈ digits width n) :
    c ∈ upperDigits := by
  induction width generalizing n with
  | zero => cases h
  | succ width ih =>
      rcases List.mem_append.mp h with high | low
      · exact ih high
      · rw [List.mem_singleton.mp low]
        exact digit_mem_upperDigits n

theorem shows_text {width n : Nat} (fits : n < Nat.pow 16 width) :
    Shows width n (text width n) := by
  have chars : (text width n).toList = digits width n := String.toList_ofList
  constructor
  · rw [chars, length_digits]
  · rw [chars]
    exact fun c => mem_upperDigits_of_mem_digits
  · rw [chars, read?_digits, Nat.mod_eq_of_lt fits]

/-- Four digits show every word. -/
theorem shows_word (word : UInt16) : Shows 4 word.toNat (text 4 word.toNat) :=
  shows_text word.toNat_lt

end Hex

/-! ### Lines -/

namespace Core

/-- How a step with a word ends, as the trace tells it. -/
def endNote (c : Core) : String :=
  match c.step.2 with
  | .error fault => fault.reason.message
  | .ok result =>
      c.opcode.decode.mnemonic
        ++ if result.status = .waitingForKey then " (waiting for key)" else ""

/-- What the line of a step says of the core that the step found. -/
def TracedAs (c : Core) (line : String) : Prop :=
  ∃ address, Hex.Shows 4 c.pc.toNat address ∧
    (4096 ≤ c.pc.toNat → line = address ++ ": " ++ "---- halted") ∧
    (c.pc.toNat < 4096 → ∃ word,
      Hex.Shows 4
        (256 * (c.memory.load c.pc.toNat).toNat
          + (c.memory.load ((c.pc.toNat + 1) % 4096 : Nat)).toNat) word ∧
      line = address ++ ": " ++ word ++ " " ++ c.endNote)

theorem tracedAs_traceLine (c : Core) : c.TracedAs (Machine.traceLine c.step.2) := by
  refine ⟨_, Hex.shows_word c.pc, fun out => ?_, fun inside => ⟨c.opcode.text, ?_, ?_⟩⟩
  · have tail : ": ---- " ++ Status.halted.text = ": " ++ "---- halted" := by decide
    rw [step_of_halted out, Machine.traceLine, StepResult.trace, String.append_assoc,
      String.append_assoc, tail]
  · rw [← c.toNat_opcode_word]
    exact Hex.shows_word c.opcode.word
  · rcases c.step_cases with ⟨out, -⟩ | ⟨reason, -, -, hstep⟩ | ⟨d, -, -, hstep⟩
    · exact absurd inside (Nat.not_lt.mpr out)
    · simp only [endNote, hstep, Machine.traceLine, Fault.trace]
    · simp only [endNote, hstep, Machine.traceLine, StepResult.trace, String.append_assoc]

end Core

/-- The operation, but one that turns the trace on or off keeps it as given here. -/
def Operation.traced (on : Bool) : Operation → Operation
  | .enableTrace _ => .enableTrace on
  | op => op

namespace Machine

/-- The core that the step of an operation finds, if the operation takes one. -/
def found? (m : Machine) : Operation → Option Core
  | .step => if m.runState = .running then some m.core else none
  | _ => none

/-- The cores that the steps of a history find, in order. -/
def found (m : Machine) : List Operation → List Core
  | [] => []
  | op :: rest => (m.found? op).toList ++ (m.apply op).machine.found rest

theorem taken?_eq_map_found? (m : Machine) (op : Operation) :
    m.taken? op = (m.found? op).map (·.step.2) := by
  cases op with
  | step =>
      by_cases running : m.runState = .running
      · rw [taken?_step_of_running running, found?, if_pos running]
        rfl
      · rw [taken?_step_of_resting running, found?, if_neg running]
        rfl
  | _ => rfl

theorem taken_eq_map_found (m : Machine) (history : List Operation) :
    m.taken history = (m.found history).map (·.step.2) := by
  induction history generalizing m with
  | nil => rfl
  | cons op rest ih =>
      rw [taken, found, List.map_append, ih, taken?_eq_map_found?, Option.toList_map]

/-! ### With the trace and without -/

/-- The trace decides the line alone. -/
theorem apply_traced (m : Machine) (on : Bool) (op : Operation) :
    (m.enableTrace on).apply (op.traced on) =
      { machine := (m.apply op).machine.enableTrace on
        response := (m.apply op).response
        line := if on then (m.taken? op).map traceLine else none } := by
  cases op with
  | step =>
      have same : (m.enableTrace on).runState = m.runState := rfl
      change (m.enableTrace on).apply .step = _
      by_cases running : m.runState = .running
      · rw [apply_step, apply_step, step_of_running (same.trans running), step_of_running running,
          taken?_step_of_running running]
        rfl
      · rw [apply_step, apply_step, step_of_resting (same ▸ running), step_of_resting running,
          taken?_step_of_resting running]
        cases on <;> rfl
  | load name bytes =>
      simp only [Operation.traced, apply, load]
      cases Rom.ofBytes name bytes <;> cases on <;> rfl
  | togglePause =>
      simp only [Operation.traced, apply, togglePause_eq]
      cases on <;> rfl
  | _ => cases on <;> rfl

theorem found?_traced (m : Machine) (on : Bool) (op : Operation) :
    (m.enableTrace on).found? (op.traced on) = m.found? op := by
  cases op <;> rfl

section

variable (m : Machine) (on : Bool) (history : List Operation)

theorem after_traced :
    (m.enableTrace on).after (history.map (.traced on)) = (m.after history).enableTrace on := by
  induction history generalizing m with
  | nil => rfl
  | cons op rest ih => rw [List.map_cons, after_cons, apply_traced, ih, after_cons]

theorem responses_traced :
    (m.enableTrace on).responses (history.map (.traced on)) = m.responses history := by
  induction history generalizing m with
  | nil => rfl
  | cons op rest ih => rw [List.map_cons, responses, apply_traced, ih, responses]

theorem found_traced :
    (m.enableTrace on).found (history.map (.traced on)) = m.found history := by
  induction history generalizing m with
  | nil => rfl
  | cons op rest ih => rw [List.map_cons, found, apply_traced, found?_traced, ih, found]

theorem lines_untraced :
    (m.enableTrace false).lines (history.map (.traced false)) = [] := by
  induction history generalizing m with
  | nil => rfl
  | cons op rest ih =>
      rw [List.map_cons, lines, apply_traced, ih]
      rfl

theorem lines_traced :
    (m.enableTrace true).lines (history.map (.traced true)) =
      (m.found history).map fun core => traceLine core.step.2 := by
  induction history generalizing m with
  | nil => rfl
  | cons op rest ih =>
      rw [List.map_cons, lines, apply_traced, ih, found, List.map_append, if_pos rfl,
        taken?_eq_map_found?, Option.map_map, Option.toList_map]
      rfl

end

/-- Run with the trace on throughout and with it off throughout, a history gives the same answers
and leads to the same machine but for the trace. With the trace off nothing is written. With it on
there is one line for each step that a running machine is told to take, in order, and the line tells
where the step was, the word it fetched and how it ended. -/
theorem trace_only_observes (m : Machine) (history : List Operation) :
    let on := m.enableTrace true
    let off := m.enableTrace false
    let traced := history.map (.traced true)
    let untraced := history.map (.traced false)
    on.responses traced = off.responses untraced ∧
      on.after traced = (off.after untraced).enableTrace true ∧
      off.lines untraced = [] ∧
      (on.found traced).map (·.step.2) = on.taken traced ∧
      List.Forall₂ Core.TracedAs (on.found traced) (on.lines traced) := by
  intro on off traced untraced
  refine ⟨?_, ?_, m.lines_untraced history, (taken_eq_map_found on traced).symm, ?_⟩
  · rw [responses_traced, responses_traced]
  · rw [after_traced, after_traced]
    rfl
  · rw [lines_traced, found_traced, List.forall₂_map_right_iff]
    exact List.forall₂_same.mpr fun core _ => core.tracedAs_traceLine

end Machine

end Chip8
