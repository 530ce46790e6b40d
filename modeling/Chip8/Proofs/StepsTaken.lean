import Chip8.Proofs.Operation

/-!
# The steps that a history takes

Only a running machine takes a step, whatever it is told. So the operations of a history fall into
those that run the core, each with an outcome, and those that do not. The latter leave the core
alone but for the keypad and for what a load writes: they touch neither the timers nor the waiting
flag.
-/

namespace Chip8.Machine

/-- The outcome of the step that an operation takes, if it takes one. -/
def taken? (m : Machine) : Operation → Option (Except Fault StepResult)
  | .step => if m.runState = .running then some m.step.outcome else none
  | _ => none

/-- The outcomes of the steps that a history takes, in order. -/
def taken (m : Machine) : List Operation → List (Except Fault StepResult)
  | [] => []
  | op :: rest => (m.taken? op).toList ++ (m.apply op).machine.taken rest

/-- The number of times that a history counts the timers down: once in each step that does not
fault. -/
def ticks (m : Machine) (history : List Operation) : Nat :=
  (m.taken history).countP Except.isOk

variable {m : Machine} {op : Operation} {outcome : Except Fault StepResult}

theorem taken?_step_of_running (running : m.runState = .running) :
    m.taken? .step = some m.core.step.2 := by
  rw [taken?, if_pos running, step_of_running running]

theorem taken?_step_of_resting (resting : m.runState ≠ .running) : m.taken? .step = none :=
  if_neg resting

/-- A step that is taken is a step of the core. -/
theorem taken?_eq_some_iff :
    m.taken? op = some outcome ↔
      op = .step ∧ m.runState = .running ∧ m.core.step.2 = outcome := by
  constructor
  · intro h
    cases op with
    | step =>
        by_cases running : m.runState = .running
        · rw [taken?_step_of_running running] at h
          exact ⟨rfl, running, Option.some.inj h⟩
        · rw [taken?_step_of_resting running] at h
          cases h
    | _ => cases h
  · rintro ⟨rfl, running, rfl⟩
    exact taken?_step_of_running running

theorem core_of_taken (h : m.taken? op = some outcome) :
    (m.apply op).machine.core = m.core.step.1 := by
  obtain ⟨rfl, running, -⟩ := taken?_eq_some_iff.mp h
  rw [apply_step, step_of_running running]

theorem response_of_taken (h : m.taken? op = some outcome) :
    (m.apply op).response = .stepped outcome := by
  obtain ⟨rfl, running, rfl⟩ := taken?_eq_some_iff.mp h
  rw [apply_step, step_of_running running]

theorem taken?_of_ne_step (h : op ≠ .step) : m.taken? op = none := by
  cases op with
  | step => exact absurd rfl h
  | _ => rfl

theorem core_of_not_taken (h : m.taken? op = none) :
    (m.apply op).machine.core =
      { m.core with
        memory := (m.apply op).machine.core.memory
        pc := (m.apply op).machine.core.pc
        keypad := (m.apply op).machine.core.keypad } := by
  cases op with
  | step =>
      have resting : m.runState ≠ .running := by
        intro running
        rw [taken?_step_of_running running] at h
        cases h
      rw [apply_step, step_of_resting resting]
  | load name bytes =>
      have loads : (Operation.load name bytes).isLoad = true := rfl
      rcases apply_core_of_load (m := m) loads with same | ⟨rom, same⟩
      all_goals rw [same]
  | togglePause => simp only [apply, togglePause_eq]
  | _ => rfl

/-- Carrying out an instruction takes a step. -/
theorem executed?_of_not_taken (h : m.taken? op = none) :
    (m.apply op).response.executed? = none := by
  cases done : (m.apply op).response.executed? with
  | none => rfl
  | some i =>
      obtain ⟨rfl, running, -⟩ := (m.executed?_eq_some_iff op i).mp done
      rw [taken?_step_of_running running] at h
      cases h

/-! ### Counting -/

theorem ticks_cons (m : Machine) (op : Operation) (rest : List Operation) :
    m.ticks (op :: rest) = m.ticks [op] + (m.apply op).machine.ticks rest := by
  simp only [ticks, taken, List.countP_append, List.append_nil]

theorem ticks_of_not_taken (h : m.taken? op = none) : m.ticks [op] = 0 := by
  simp [ticks, taken, h]

theorem ticks_of_taken (h : m.taken? op = some outcome) :
    m.ticks [op] = if outcome.isOk then 1 else 0 := by
  simp [ticks, taken, h, List.countP_cons]

end Chip8.Machine
