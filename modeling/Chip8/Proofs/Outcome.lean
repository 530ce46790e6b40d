import Chip8.Proofs.Stopping

/-!
# The outcome of a run as flags

The runner's own loop keeps a count of steps and three flags. It looks at its limit before every
step, sets at most one flag and returns at once, or breaks off with the fault of a step. `loop` is
that loop, and `Run.returned` says what the reason of a stop is for it: with both, what is proved
of `runUntil` and its single reason holds of the loop and its flags.
-/

namespace Chip8

/-- What the runner's loop returns. -/
structure RunOutcome where
  steps : Nat := 0
  breakHit : Bool := false
  halted : Bool := false
  limitHit : Bool := false
  deriving DecidableEq

def RunOutcome.flags (o : RunOutcome) : List Bool := [o.breakHit, o.halted, o.limitHit]

namespace Machine

/-- The loop with its outcome so far, followed for so many rounds. It returns an outcome, or a fault
if a step faults, together with the machine that it leaves. -/
def loop (breakpoints : List Int) (limit : Option Int) :
    Nat → Machine → RunOutcome → Option (Machine × Except Fault RunOutcome)
  | 0, _, _ => none
  | rounds + 1, m, outcome =>
      if limit.all fun steps => (outcome.steps : Int) < steps then
        let stepped := m.step
        match stepped.outcome with
        | .error fault => some (stepped.machine, .error fault)
        | .ok result =>
            let counted := { outcome with steps := outcome.steps + 1 }
            if result.status = .halted then
              some (stepped.machine, .ok { counted with halted := true })
            else if stepped.machine.atBreakpoint breakpoints then
              some (stepped.machine, .ok { counted with breakHit := true })
            else loop breakpoints limit rounds stepped.machine counted
      else some (m, .ok { outcome with limitHit := true })

/-- The loop from its start. With a limit it needs one round more than steps, to see that the limit
is reached; without one it is followed for `patience` steps. -/
def runLoop (m : Machine) (breakpoints : List Int) (limit : Option Int) (patience : Nat) :
    Option (Machine × Except Fault RunOutcome) :=
  loop breakpoints limit (limit.elim patience fun steps => steps.toNat + 1) m {}

/-- What the loop returns, or breaks off with, at a stop. -/
def Run.returned (run : Run) : Stop → Except Fault RunOutcome
  | .fault fault => .error fault
  | .halted => .ok { steps := run.steps, halted := true }
  | .breakpoint => .ok { steps := run.steps, breakHit := true }
  | .limit => .ok { steps := run.steps, limitHit := true }

variable {limit : Option Int}

theorem within_iff_all {number : Nat} :
    Within limit number ↔ (limit.all fun steps => (number : Int) < steps) = true := by
  cases limit <;> simp [Within]

theorem steps_of_resume_none {breakpoints : List Int} {count : Nat} {m : Machine} {ended : Run}
    (unstopped : resume breakpoints count { machine := m } = (ended, none)) :
    ended.steps = count := by
  have unlimited : (m.runUntil breakpoints none count).2 = none := congrArg Prod.snd unstopped
  obtain ⟨-, goesOn⟩ := (runUntil_eq_none_iff count).mp unlimited
  have followed := resume_of_goesOn { machine := m } goesOn 0
  rw [Nat.add_zero, unstopped] at followed
  obtain ⟨rfl, -⟩ := Prod.mk.inj followed
  rw [Run.steps_follow, Nat.zero_add]

/-- As long as the limit admits the steps, the loop does what `resume` does, and goes on from there
if nothing has stopped it. -/
theorem loop_eq_resume (breakpoints : List Int) (limit : Option Int) (count more : Nat) (run : Run)
    (admits : ∀ k < count, Within limit (run.steps + k)) :
    loop breakpoints limit (count + more) run.machine { steps := run.steps } =
      match resume breakpoints count run with
      | (ended, some stop) => some (ended.machine, ended.returned stop)
      | (ended, none) => loop breakpoints limit more ended.machine { steps := ended.steps } := by
  induction count generalizing run with
  | zero => rw [Nat.zero_add]; rfl
  | succ count ih =>
      have admitted := within_iff_all.mp (admits 0 (by omega))
      rw [Nat.add_zero] at admitted
      rw [show count + 1 + more = count + more + 1 by omega]
      cases outcome : run.machine.step.outcome with
      | error fault =>
          simp only [loop, admitted, outcome, if_true, resume_of_fault outcome]
          rfl
      | ok result =>
          by_cases halted : result.status = .halted
          · simp only [loop, admitted, outcome, halted, if_true, resume_of_halted outcome halted]
            rfl
          · cases broken : run.machine.step.machine.atBreakpoint breakpoints with
            | true =>
                simp only [loop, admitted, outcome, halted, broken, if_true, if_false,
                  resume_of_breakpoint outcome halted broken]
                rfl
            | false =>
                have steps (k : Nat) :
                    (run.advance run.machine.step).steps + k = run.steps + (k + 1) :=
                  Nat.add_right_comm run.steps 1 k
                have rest := ih (run.advance run.machine.step) fun k early => by
                  rw [steps]
                  exact admits (k + 1) (by omega)
                simp only [loop, admitted, outcome, halted, broken, if_true, if_false,
                  Bool.false_eq_true, resume_of_ok outcome halted broken]
                exact rest

theorem runLoop_eq (m : Machine) (breakpoints : List Int) (limit : Option Int) (patience : Nat) :
    m.runLoop breakpoints limit patience =
      (m.runUntil breakpoints limit patience).2.map fun stop =>
        let run := (m.runUntil breakpoints limit patience).1
        (run.machine, run.returned stop) := by
  cases limit with
  | none =>
      have admits : ∀ k < patience, Within none (0 + k) := by simp [Within]
      have followed := loop_eq_resume breakpoints none patience 0 { machine := m } admits
      rw [Nat.add_zero] at followed
      rw [runLoop, runUntil, Option.elim_none, followed]
      rcases resume breakpoints patience { machine := m } with ⟨ended, _ | stop⟩ <;> rfl
  | some steps =>
      have admits : ∀ k < steps.toNat, Within (some steps) (0 + k) := by
        rintro k early _ ⟨⟩
        omega
      have followed := loop_eq_resume breakpoints (some steps) steps.toNat 1 { machine := m } admits
      rw [runLoop, runUntil, Option.elim_some, followed]
      rcases ran : resume breakpoints steps.toNat { machine := m } with ⟨ended, _ | stop⟩
      · have used : ended.steps = steps.toNat := steps_of_resume_none ran
        have reached : ¬ (some steps).all (fun steps => (ended.steps : Int) < steps) = true := by
          simp only [Option.all_some, decide_eq_true_eq]
          omega
        exact if_neg reached
      · rfl

/-- The flags of an outcome tell the reason of the stop, and just one of them is set. -/
theorem Run.flags_of_returned {run : Run} {stop : Stop} {outcome : RunOutcome}
    (returned : run.returned stop = .ok outcome) :
    outcome.flags.count true = 1 ∧ outcome.steps = run.steps ∧
      (outcome.halted = true ↔ stop = .halted) ∧
      (outcome.breakHit = true ↔ stop = .breakpoint) ∧
      (outcome.limitHit = true ↔ stop = .limit) := by
  cases stop with
  | fault fault => cases returned
  | halted | breakpoint | limit =>
      cases returned
      simp [RunOutcome.flags]

end Machine

end Chip8
