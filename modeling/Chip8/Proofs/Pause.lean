import Chip8.Proofs.StepsTaken

/-!
# Pauses and quitting

A machine at rest does nothing when it is told to step, and pausing, resuming and quitting change
the run state alone. So take these operations out of a history, together with the steps asked of a
machine at rest, and let what is left act on the same machine running: it leads to the same machine
but for the run state, by the same steps and with the same trace. The run state in turn depends on
the pauses and quits only, and no operation leaves the state that a quit leads to.
-/

namespace Chip8

/-- The operations that concern the run state. -/
def Operation.controls : Operation → Bool
  | .togglePause | .quit => true
  | _ => false

namespace Machine

/-- The machine set to running. -/
def resumed (m : Machine) : Machine := { m with runState := .running }

/-- Does the operation do nothing, the run state apart? -/
def passesOver (m : Machine) (op : Operation) : Bool :=
  match op with
  | .step => m.runState ≠ .running
  | _ => op.controls

/-- The history without the operations that do nothing. -/
def active (m : Machine) : List Operation → List Operation
  | [] => []
  | op :: rest =>
      if m.passesOver op then (m.apply op).machine.active rest
      else op :: (m.apply op).machine.active rest

variable {m n : Machine} {op : Operation}

/-! ### Without pauses -/

theorem apply_of_passed (h : m.passesOver op = true) :
    (m.apply op).machine.resumed = m.resumed ∧ (m.apply op).line = none ∧
      m.taken? op = none := by
  cases op with
  | step =>
      have resting : m.runState ≠ .running := of_decide_eq_true h
      rw [apply_step, step_of_resting resting]
      exact ⟨rfl, rfl, taken?_step_of_resting resting⟩
  | togglePause =>
      refine ⟨?_, rfl, rfl⟩
      simp only [apply, togglePause_eq]
      rfl
  | quit => exact ⟨rfl, rfl, rfl⟩
  | _ => cases h

/-- Every other operation does the same to the running machine. -/
theorem apply_resumed (h : m.passesOver op = false) :
    m.resumed.apply op = { m.apply op with machine := (m.apply op).machine.resumed } ∧
      m.resumed.taken? op = m.taken? op := by
  cases op with
  | step =>
      have running : m.runState = .running := Classical.byContradiction (of_decide_eq_false h)
      have same : m.resumed = m := by rw [resumed, ← running]
      rw [same, apply_step, step_of_running running, resumed]
      simp only [running, and_self]
  | load name bytes =>
      refine ⟨?_, rfl⟩
      simp only [apply, load]
      cases Rom.ofBytes name bytes <;> rfl
  | togglePause => cases h
  | quit => cases h
  | _ => exact ⟨rfl, rfl⟩

/-- By induction on the history, with the machine set to running as the simulating one. -/
theorem after_active (m : Machine) (history : List Operation) :
    m.resumed.after (m.active history) = (m.after history).resumed ∧
      m.resumed.taken (m.active history) = m.taken history ∧
      m.resumed.lines (m.active history) = m.lines history := by
  induction history generalizing m with
  | nil => exact ⟨rfl, rfl, rfl⟩
  | cons op rest ih =>
      obtain ⟨machine, outcomes, trace⟩ := ih (m.apply op).machine
      rw [active, after_cons, taken, lines]
      cases passed : m.passesOver op with
      | true =>
          obtain ⟨same, silent, untaken⟩ := apply_of_passed passed
          rw [same] at machine outcomes trace
          rw [if_pos rfl, silent, untaken]
          exact ⟨machine, outcomes, trace⟩
      | false =>
          obtain ⟨same, step⟩ := apply_resumed passed
          rw [if_neg Bool.false_ne_true, after_cons, taken, lines, same, step]
          exact ⟨machine, by rw [outcomes], by rw [trace]⟩

/-! ### The run state -/

theorem runState_apply_of_not_control (h : op.controls = false) :
    (m.apply op).machine.runState = m.runState := by
  cases op with
  | step => exact m.runState_step
  | load name bytes =>
      simp only [apply, load]
      cases Rom.ofBytes name bytes <;> rfl
  | togglePause => cases h
  | quit => cases h
  | _ => rfl

theorem runState_apply_of_control (same : m.runState = n.runState) (h : op.controls = true) :
    (m.apply op).machine.runState = (n.apply op).machine.runState := by
  cases op with
  | togglePause => simp only [apply, togglePause_eq, same]
  | quit => rfl
  | _ => cases h

theorem runState_after_filter (same : m.runState = n.runState) (history : List Operation) :
    (m.after history).runState = (n.after (history.filter Operation.controls)).runState := by
  induction history generalizing m n with
  | nil => exact same
  | cons op rest ih =>
      cases control : op.controls
      · rw [List.filter_cons_of_neg (by simp [control]), after_cons]
        exact ih ((runState_apply_of_not_control control).trans same)
      · rw [List.filter_cons_of_pos control, after_cons, after_cons]
        exact ih (runState_apply_of_control same control)

theorem runState_apply_of_quit (h : m.runState = .quit) (op : Operation) :
    (m.apply op).machine.runState = .quit := by
  cases control : op.controls
  · exact (runState_apply_of_not_control control).trans h
  · cases op with
    | togglePause => simp only [apply, togglePause_eq, h, RunState.toggled]
    | quit => rfl
    | _ => cases control

theorem runState_after_of_quit (h : m.runState = .quit) (history : List Operation) :
    (m.after history).runState = .quit := by
  induction history generalizing m with
  | nil => exact h
  | cons op rest ih => exact ih (runState_apply_of_quit h op)

/-- A history acts as it does without its pauses and quits and without the steps asked of a machine
at rest, on the machine set to running: the machines it leads to differ in the run state alone, and
the steps taken and the trace are the same. The run state depends on where it was and on the pauses
and quits only, a quit is final, and a step of a machine at rest answers with the program counter
and the reason and does nothing. -/
theorem pauses_unseen_and_quit_final :
    (∀ (m : Machine) (history : List Operation),
      (m.after history).resumed = m.resumed.after (m.active history) ∧
        (m.after history).core = (m.resumed.after (m.active history)).core ∧
        m.taken history = m.resumed.taken (m.active history) ∧
        m.lines history = m.resumed.lines (m.active history)) ∧
    (∀ (m n : Machine) (first second : List Operation), m.runState = n.runState →
      first.filter Operation.controls = second.filter Operation.controls →
        (m.after first).runState = (n.after second).runState) ∧
    (∀ (m : Machine) (history : List Operation), m.runState = .quit →
      (m.after history).runState = .quit) ∧
    (∀ m : Machine, m.runState ≠ .running →
      m.apply .step =
        { machine := m
          response := .stepped (.ok
            ⟨m.core.pc, none, if m.runState = .paused then .paused else .stopped⟩)
          line := none }) := by
  refine ⟨fun m history => ?_, fun m n first second same controls => ?_,
    fun m history quit => runState_after_of_quit quit history, fun m resting => ?_⟩
  · obtain ⟨machine, outcomes, trace⟩ := after_active m history
    exact ⟨machine.symm, by rw [machine]; rfl, outcomes.symm, trace.symm⟩
  · rw [runState_after_filter rfl first, controls, runState_after_filter same.symm second]
  · rw [apply_step, step_of_resting resting]
    cases state : m.runState with
    | running => exact absurd state resting
    | paused => rfl
    | quit => rfl

/-- A wait for a key that is paused, with a step asked in vain, before the key is pressed; after the
last step the machine is told to quit. -/
theorem pauses_unseen_and_quit_final_of_wait :
    let m := (initial ⟨fun _ => 0, 0⟩).insert ⟨"", [0xF5, 0x0A], by decide⟩
    let history : List Operation :=
      [.step, .togglePause, .step, .setKey 3 true, .togglePause, .step, .quit]
    let ended := m.after history
    (m.after (history.take 2)).runState = .paused ∧
      (m.after (history.take 2)).step.outcome = .ok ⟨0x200, none, .paused⟩ ∧
      ended.core = (m.resumed.after [.step, .setKey 3 true, .step]).core ∧
      ended.core.reg 5 = 3 ∧
      ended.runState
        = ((initial ⟨fun _ => 0, 0⟩).after [.togglePause, .togglePause, .quit]).runState ∧
      (ended.after [.togglePause, .step]).runState = .quit := by
  intro m history ended
  have paused : (m.after (history.take 2)).runState = .paused := rfl
  have still : (m.after (history.take 2)).core.pc = 0x200 := by decide +kernel
  obtain ⟨unseen, states, final, resting⟩ := pauses_unseen_and_quit_final
  have answer := congrArg Applied.response
    (resting (m.after (history.take 2)) (by rw [paused]; nofun))
  rw [paused, still] at answer
  exact ⟨paused, Response.stepped.inj answer, (unseen m history).2.1, by decide +kernel,
    states m _ _ _ rfl rfl, final ended [.togglePause, .step] rfl⟩

end Machine

end Chip8
