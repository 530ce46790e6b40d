import Chip8.Proofs.Operation
import Chip8.Machine.Run
import Mathlib.Data.Nat.Find

/-!
# When a run stops

The steps of a machine are numbered from zero, and each one faults, finds the machine halted, leaves
the program counter at a breakpoint, or goes on. A run ends at the first of them that does not go
on, unless its limit is used up before: `Ends` says so of the steps alone, and `runUntil` follows
them to just this end, with the machine and the trace of exactly these steps.
-/

namespace Chip8.Machine

/-- The machine after so many steps. -/
def afterSteps (m : Machine) (count : Nat) : Machine := m.after (List.replicate count .step)

variable {m : Machine} {breakpoints : List Int} {limit : Option Int} {number : Nat} {stop : Stop}

theorem afterSteps_succ' (m : Machine) (count : Nat) :
    m.afterSteps (count + 1) = (m.afterSteps count).step.machine := by
  rw [afterSteps, List.replicate_succ', after_append]
  rfl

theorem runState_afterSteps (m : Machine) (count : Nat) :
    (m.afterSteps count).runState = m.runState := by
  induction count with
  | zero => rfl
  | succ count ih => rw [afterSteps_succ', runState_step, ih]

/-! ### What a step does to a run -/

/-- The step with this number faults. -/
def FaultsAt (m : Machine) (number : Nat) (fault : Fault) : Prop :=
  (m.afterSteps number).step.outcome = .error fault

/-- The step with this number finds that the program counter has left memory. -/
def HaltsAt (m : Machine) (number : Nat) : Prop :=
  ∃ result, (m.afterSteps number).step.outcome = .ok result ∧ result.status = .halted

/-- The step with this number is taken and leaves the program counter at a breakpoint. -/
def BreaksAt (m : Machine) (breakpoints : List Int) (number : Nat) : Prop :=
  (∃ result, (m.afterSteps number).step.outcome = .ok result ∧ result.status ≠ .halted) ∧
    ((m.afterSteps (number + 1)).core.pc.toNat : Int) ∈ breakpoints

/-- The step with this number does not end a run. -/
structure GoesOn (m : Machine) (breakpoints : List Int) (number : Nat) : Prop where
  noFault : ∀ fault, ¬ m.FaultsAt number fault
  noHalt : ¬ m.HaltsAt number
  noBreak : ¬ m.BreaksAt breakpoints number

theorem goesOn_of_outcome {result : StepResult}
    (ok : (m.afterSteps number).step.outcome = .ok result) (awake : result.status ≠ .halted)
    (unbroken : ((m.afterSteps (number + 1)).core.pc.toNat : Int) ∉ breakpoints) :
    m.GoesOn breakpoints number where
  noFault fault faults := by
    rw [FaultsAt, ok] at faults
    cases faults
  noHalt := by
    rintro ⟨other, same, halted⟩
    cases ok.symm.trans same
    exact awake halted
  noBreak broken := unbroken broken.2

/-- The limit, if there is one, admits a step with this number. -/
def Within (limit : Option Int) (number : Nat) : Prop :=
  ∀ steps, limit = some steps → number < steps

/-- A run ends after so many steps for this reason: it is the reason of its last step, none before
it being one, or the limit is used up by steps that all go on. -/
inductive Ends (m : Machine) (breakpoints : List Int) (limit : Option Int) : Nat → Stop → Prop
  | fault {number : Nat} {fault : Fault} (within : Within limit number)
      (before : ∀ k < number, m.GoesOn breakpoints k) (faults : m.FaultsAt number fault) :
      Ends m breakpoints limit (number + 1) (.fault fault)
  | halted {number : Nat} (within : Within limit number)
      (before : ∀ k < number, m.GoesOn breakpoints k) (halts : m.HaltsAt number) :
      Ends m breakpoints limit (number + 1) .halted
  | breakpoint {number : Nat} (within : Within limit number)
      (before : ∀ k < number, m.GoesOn breakpoints k) (breaks : m.BreaksAt breakpoints number) :
      Ends m breakpoints limit (number + 1) .breakpoint
  | limit {steps : Int} (limited : limit = some steps)
      (before : ∀ k < steps.toNat, m.GoesOn breakpoints k) :
      Ends m breakpoints limit steps.toNat .limit

/-- A run with a limit ends, and so does a run in which some step does not go on. -/
theorem exists_ends {patience : Nat}
    (stops : limit = none → ∃ k < patience, ¬ m.GoesOn breakpoints k) :
    ∃ number stop, m.Ends breakpoints limit number stop ∧ (limit = none → number ≤ patience) := by
  classical
  by_cases some_ends : ∃ k, Within limit k ∧ ¬ m.GoesOn breakpoints k
  · obtain ⟨within, ends⟩ := Nat.find_spec some_ends
    have before : ∀ k < Nat.find some_ends, m.GoesOn breakpoints k := by
      intro k earlier
      refine Classical.byContradiction fun ends => Nat.find_min some_ends earlier ⟨?_, ends⟩
      intro steps limited
      have := within steps limited
      omega
    have inTime : limit = none → Nat.find some_ends + 1 ≤ patience := by
      intro unlimited
      obtain ⟨k, early, ends⟩ := stops unlimited
      have := Nat.find_min' some_ends ⟨by rw [unlimited]; exact nofun, ends⟩
      omega
    by_cases faults : ∃ fault, m.FaultsAt (Nat.find some_ends) fault
    · obtain ⟨fault, faults⟩ := faults
      exact ⟨_, _, .fault within before faults, inTime⟩
    · by_cases halts : m.HaltsAt (Nat.find some_ends)
      · exact ⟨_, _, .halted within before halts, inTime⟩
      · have breaks : m.BreaksAt breakpoints (Nat.find some_ends) :=
          Classical.byContradiction fun goesOn => ends ⟨not_exists.mp faults, halts, goesOn⟩
        exact ⟨_, _, .breakpoint within before breaks, inTime⟩
  · have allGoOn : ∀ k, Within limit k → m.GoesOn breakpoints k := fun k within =>
      Classical.byContradiction fun ends => some_ends ⟨k, within, ends⟩
    cases limit with
    | none =>
        obtain ⟨k, -, ends⟩ := stops rfl
        exact absurd (allGoOn k nofun) ends
    | some steps =>
        refine ⟨_, _, .limit rfl fun k early => allGoOn k ?_, nofun⟩
        intro steps' same
        cases same
        omega

/-- All steps but the last go on. -/
theorem Ends.goesOn (ends : m.Ends breakpoints limit number stop) {k : Nat}
    (early : k + 1 < number) :
    m.GoesOn breakpoints k := by
  cases ends with
  | fault _ before _ | halted _ before _ | breakpoint _ before _ => exact before k (by omega)
  | limit _ before => exact before k (by omega)

theorem Ends.le_limit (ends : m.Ends breakpoints limit number stop) {steps : Int}
    (limited : limit = some steps) : number ≤ steps.toNat := by
  cases ends with
  | fault within _ _ | halted within _ _ | breakpoint within _ _ =>
      have := within steps limited
      omega
  | limit same _ =>
      exact Nat.le_of_eq (congrArg Int.toNat (Option.some.inj (same.symm.trans limited)))

/-- A run does not go on past its end. -/
theorem Ends.le {number' : Nat} {stop' : Stop} (ends : m.Ends breakpoints limit number stop)
    (other : m.Ends breakpoints limit number' stop') : number' ≤ number := by
  refine Nat.le_of_not_lt fun longer => ?_
  cases ends with
  | fault _ _ faults => exact (other.goesOn longer).noFault _ faults
  | halted _ _ halts => exact (other.goesOn longer).noHalt halts
  | breakpoint _ _ breaks => exact (other.goesOn longer).noBreak breaks
  | limit limited _ => exact Nat.not_le_of_lt longer (other.le_limit limited)

/-! ### Following the steps -/

variable {remaining : Nat} {run : Run}

theorem resume_of_fault {fault : Fault} (error : run.machine.step.outcome = .error fault) :
    resume breakpoints (remaining + 1) run =
      (run.faulted run.machine.step, some (.fault fault)) := by
  simp only [resume, error]

theorem resume_of_halted {result : StepResult} (ok : run.machine.step.outcome = .ok result)
    (halted : result.status = .halted) :
    resume breakpoints (remaining + 1) run = (run.advance run.machine.step, some .halted) := by
  simp only [resume, ok, halted, if_true]

theorem resume_of_breakpoint {result : StepResult} (ok : run.machine.step.outcome = .ok result)
    (awake : result.status ≠ .halted)
    (broken : run.machine.step.machine.atBreakpoint breakpoints = true) :
    resume breakpoints (remaining + 1) run =
      (run.advance run.machine.step, some .breakpoint) := by
  simp only [resume, ok, awake, broken, if_false, if_true]

theorem resume_of_ok {result : StepResult} (ok : run.machine.step.outcome = .ok result)
    (awake : result.status ≠ .halted)
    (unbroken : run.machine.step.machine.atBreakpoint breakpoints = false) :
    resume breakpoints (remaining + 1) run =
      resume breakpoints remaining (run.advance run.machine.step) := by
  simp only [resume, ok, awake, unbroken, if_false, Bool.false_eq_true]

theorem atBreakpoint_iff (m : Machine) :
    m.atBreakpoint breakpoints = true ↔ (m.core.pc.toNat : Int) ∈ breakpoints :=
  List.contains_iff_mem

/-- A run with so many further steps completed. -/
def Run.follow (r : Run) : Nat → Run
  | 0 => r
  | count + 1 => (r.advance r.machine.step).follow count

theorem Run.follow_succ' (r : Run) (count : Nat) :
    r.follow (count + 1) = (r.follow count).advance (r.follow count).machine.step := by
  induction count generalizing r with
  | zero => rfl
  | succ count ih => exact ih (r.advance r.machine.step)

theorem Run.machine_follow (r : Run) (count : Nat) :
    (r.follow count).machine = r.machine.afterSteps count := by
  induction count generalizing r with
  | zero => rfl
  | succ count ih => exact ih (r.advance r.machine.step)

theorem Run.lines_follow (r : Run) (count : Nat) :
    (r.follow count).lines.toList
      = r.lines.toList ++ r.machine.lines (List.replicate count .step) := by
  induction count generalizing r with
  | zero => simp [follow, Machine.lines]
  | succ count ih =>
      rw [follow, ih, List.replicate_succ, Machine.lines, ← List.append_assoc]
      simp [advance, apply_step]

theorem Run.steps_follow (r : Run) (count : Nat) : (r.follow count).steps = r.steps + count := by
  induction count generalizing r with
  | zero => rfl
  | succ count ih =>
      rw [follow, ih]
      exact Nat.add_right_comm r.steps 1 count

/-- The run that ends with so many further steps for this reason. -/
def Run.ended (r : Run) (number : Nat) : Stop → Run
  | .fault _ =>
      let before := r.follow (number - 1)
      before.faulted before.machine.step
  | _ => r.follow number

theorem GoesOn.step (goesOn : m.GoesOn breakpoints (number + 1)) :
    m.step.machine.GoesOn breakpoints number :=
  ⟨goesOn.noFault, goesOn.noHalt, goesOn.noBreak⟩

theorem GoesOn.outcome (goesOn : m.GoesOn breakpoints number) :
    ∃ result, (m.afterSteps number).step.outcome = .ok result ∧ result.status ≠ .halted ∧
      (m.afterSteps number).step.machine.atBreakpoint breakpoints = false := by
  cases outcome : (m.afterSteps number).step.outcome with
  | error fault => exact absurd outcome (goesOn.noFault fault)
  | ok result =>
      have awake : result.status ≠ .halted := fun halted => goesOn.noHalt ⟨result, outcome, halted⟩
      refine ⟨result, rfl, awake, Bool.eq_false_iff.mpr fun broken => goesOn.noBreak ?_⟩
      rw [← afterSteps_succ', atBreakpoint_iff] at broken
      exact ⟨⟨result, outcome, awake⟩, broken⟩

/-- Steps that go on are followed. -/
theorem resume_of_goesOn {count : Nat} (run : Run)
    (before : ∀ k < count, run.machine.GoesOn breakpoints k) (remaining : Nat) :
    resume breakpoints (count + remaining) run
      = resume breakpoints remaining (run.follow count) := by
  induction count generalizing run with
  | zero => rw [Nat.zero_add, Run.follow]
  | succ count ih =>
      obtain ⟨result, ok, awake, unbroken⟩ := (before 0 (Nat.succ_pos count)).outcome
      rw [Nat.add_right_comm, resume_of_ok ok awake unbroken, Run.follow]
      exact ih (run.advance run.machine.step) fun k early => (before (k + 1) (by omega)).step

/-- The step that ends a run is the last that is followed. -/
theorem resume_of_ends (ends : m.Ends breakpoints limit number stop) (reason : stop ≠ .limit)
    {budget : Nat} (enough : number ≤ budget) :
    resume breakpoints budget { machine := m }
      = (Run.ended { machine := m } number stop, some stop) := by
  let start : Run := { machine := m }
  have split : ∀ count, count + 1 ≤ budget → budget = count + (budget - (count + 1) + 1) := by omega
  cases ends with
  | @fault count fault within before faults =>
      rw [split count enough, resume_of_goesOn start before]
      exact resume_of_fault (by rw [Run.machine_follow]; exact faults)
  | @halted count within before halts =>
      obtain ⟨result, ok, halted⟩ := halts
      rw [split count enough, resume_of_goesOn start before, Run.ended, Run.follow_succ']
      · exact resume_of_halted (by rw [Run.machine_follow]; exact ok) halted
      · simp
  | @breakpoint count within before breaks =>
      obtain ⟨⟨result, ok, awake⟩, broken⟩ := breaks
      rw [split count enough, resume_of_goesOn start before, Run.ended, Run.follow_succ']
      · refine resume_of_breakpoint (by rw [Run.machine_follow]; exact ok) awake ?_
        rw [Run.machine_follow, ← afterSteps_succ', atBreakpoint_iff]
        exact broken
      · simp
  | limit => exact absurd rfl reason

/-- A run stops where it ends. -/
theorem runUntil_eq_of_ends (ends : m.Ends breakpoints limit number stop) {patience : Nat}
    (patient : limit = none → number ≤ patience) :
    m.runUntil breakpoints limit patience
      = (Run.ended { machine := m } number stop, some stop) := by
  by_cases used : stop = .limit
  · subst used
    cases ends with
    | @limit steps limited before =>
        let start : Run := { machine := m }
        have all : resume breakpoints steps.toNat start = (start.follow steps.toNat, none) :=
          resume_of_goesOn start before 0
        simp only [runUntil, limited]
        rw [all]
        rfl
  · cases limited : limit with
    | none => exact resume_of_ends ends used (patient limited)
    | some steps =>
        simp only [runUntil, resume_of_ends ends used (ends.le_limit limited)]
        rfl

/-- A step that faults has been taken, though it does not count. -/
theorem shown_ended (ends : m.Ends breakpoints limit number stop) :
    (Run.ended { machine := m } number stop).machine = m.afterSteps number ∧
      (Run.ended { machine := m } number stop).lines.toList
        = m.lines (List.replicate number .step) := by
  have followed (count : Nat) : (Run.follow { machine := m } count).machine = m.afterSteps count ∧
      (Run.follow { machine := m } count).lines.toList
        = m.lines (List.replicate count .step) := by
    rw [Run.machine_follow, Run.lines_follow]
    exact ⟨rfl, List.nil_append _⟩
  cases ends with
  | @fault count =>
      have last := followed (count + 1)
      rw [Run.follow_succ'] at last
      exact last
  | _ => exact followed _

/-- A run stops where it ends, and shows the machine and the trace of the steps up to there. -/
theorem runUntil_of_ends (ends : m.Ends breakpoints limit number stop) {patience : Nat}
    (patient : limit = none → number ≤ patience) :
    ∃ run, m.runUntil breakpoints limit patience = (run, some stop) ∧
      run.machine = m.afterSteps number ∧
      run.lines.toList = m.lines (List.replicate number .step) :=
  ⟨_, runUntil_eq_of_ends ends patient, shown_ended ends⟩

/-- A run ends in one way only. -/
theorem Ends.unique {number' : Nat} {stop' : Stop} (ends : m.Ends breakpoints limit number stop)
    (other : m.Ends breakpoints limit number' stop') : number' = number ∧ stop' = stop := by
  obtain rfl : number' = number := Nat.le_antisymm (ends.le other) (other.le ends)
  obtain ⟨_, ran, -⟩ := runUntil_of_ends ends fun _ => Nat.le_refl number'
  obtain ⟨_, ran', -⟩ := runUntil_of_ends other fun _ => Nat.le_refl number'
  have same := congrArg Prod.snd (ran'.symm.trans ran)
  exact ⟨rfl, Option.some.inj same⟩

theorem Ends.eq_iff (ends : m.Ends breakpoints limit number stop) (reason : Stop) :
    stop = reason ↔ ∃ number, m.Ends breakpoints limit number reason := by
  constructor
  · rintro rfl
    exact ⟨number, ends⟩
  · rintro ⟨number', other⟩
    exact (ends.unique other).2.symm

/-- Only a run without a limit is given up, after steps that all go on. -/
theorem runUntil_eq_none_iff (patience : Nat) :
    (m.runUntil breakpoints limit patience).2 = none ↔
      limit = none ∧ ∀ k < patience, m.GoesOn breakpoints k := by
  constructor
  · intro unstopped
    have noEnd : ¬ (limit = none → ∃ k < patience, ¬ m.GoesOn breakpoints k) := by
      intro stops
      obtain ⟨number, stop, ends, patient⟩ := exists_ends stops
      obtain ⟨run, ran, -⟩ := runUntil_of_ends ends patient
      rw [ran] at unstopped
      cases unstopped
    obtain ⟨unlimited, goesOn⟩ := Classical.not_imp.mp noEnd
    exact ⟨unlimited, fun k early => Classical.byContradiction fun ends => goesOn ⟨k, early, ends⟩⟩
  · rintro ⟨rfl, goesOn⟩
    let start : Run := { machine := m }
    have all : resume breakpoints patience start = (start.follow patience, none) :=
      resume_of_goesOn start goesOn 0
    exact congrArg Prod.snd all

end Chip8.Machine
