import Chip8.Proofs.Outcome

/-!
# Limits and the first step that stops a run

Without a limit a run would end at the first step that faults, finds the machine halted or leaves
the program counter at a breakpoint. A limit decides only whether the run gets there. So a run that
has got there ends in the same way under every limit that admits the step, and one that has used up
its limit has taken steps that all go on: run again from where it was left, it does what a run with
the sum of the limits does.
-/

namespace Chip8

/-- The steps that a run has taken if it completed so many. A step that faults is not completed. -/
def Stop.taken (completed : Nat) : Stop → Nat
  | .fault _ => completed + 1
  | _ => completed

namespace Machine

/-- The run ended after so many steps of the machine, of which so many count. -/
structure Run.Took (run : Run) (m : Machine) (steps counted : Nat) : Prop where
  machine : run.machine = m.afterSteps steps
  lines : run.lines.toList = m.lines (List.replicate steps .step)
  counted : run.steps = counted

/-- The step with this number, counted from zero, faults, finds the machine halted, or leaves the
program counter at a breakpoint. -/
def StopsAt (m : Machine) (breakpoints : List Int) (number : Nat) : Prop :=
  (∃ fault, m.FaultsAt number fault) ∨ m.HaltsAt number ∨
    ((m.afterSteps (number + 1)).core.pc.toNat : Int) ∈ breakpoints

/-- The first step that does so. -/
structure FirstStop (m : Machine) (breakpoints : List Int) (number : Nat) : Prop where
  stops : m.StopsAt breakpoints number
  first : ∀ k < number, ¬ m.StopsAt breakpoints k

variable {m : Machine} {breakpoints : List Int} {limit limit' : Option Int} {number : Nat}
  {stop : Stop}

theorem goesOn_iff_not_stopsAt : m.GoesOn breakpoints number ↔ ¬ m.StopsAt breakpoints number := by
  constructor
  · rintro goesOn (⟨fault, faults⟩ | halts | broken)
    · exact goesOn.noFault fault faults
    · exact goesOn.noHalt halts
    · obtain ⟨result, ok, awake, -⟩ := goesOn.outcome
      exact goesOn.noBreak ⟨⟨result, ok, awake⟩, broken⟩
  · intro never
    exact ⟨fun fault faults => never (.inl ⟨fault, faults⟩), fun halts => never (.inr (.inl halts)),
      fun breaks => never (.inr (.inr breaks.2))⟩

theorem FirstStop.before (at_ : m.FirstStop breakpoints number) :
    ∀ k < number, m.GoesOn breakpoints k :=
  fun k early => goesOn_iff_not_stopsAt.mpr (at_.first k early)

/-- A step that neither faults nor halts stops a run at a breakpoint. -/
theorem FirstStop.breaksAt (at_ : m.FirstStop breakpoints number)
    (noFault : ∀ fault, ¬ m.FaultsAt number fault) (noHalt : ¬ m.HaltsAt number) :
    m.BreaksAt breakpoints number :=
  Classical.byContradiction fun noBreak =>
    goesOn_iff_not_stopsAt.mp ⟨noFault, noHalt, noBreak⟩ at_.stops

/-! ### Ends under other limits -/

/-- The limit matters to the end of a run only if it is the end. -/
theorem Ends.of_limit (ends : m.Ends breakpoints limit number stop) (reason : stop ≠ .limit)
    (admits : ∀ steps, limit' = some steps → (number : Int) ≤ steps) :
    m.Ends breakpoints limit' number stop := by
  have within {count : Nat} (last : number = count + 1) : Within limit' count := by
    intro steps limited
    have := admits steps limited
    omega
  cases ends with
  | fault _ before faults => exact .fault (within rfl) before faults
  | halted _ before halts => exact .halted (within rfl) before halts
  | breakpoint _ before breaks => exact .breakpoint (within rfl) before breaks
  | limit => exact absurd rfl reason

theorem Ends.of_used {steps : Nat} (ends : m.Ends breakpoints (some steps) number .limit) :
    number = steps ∧ ∀ k < steps, m.GoesOn breakpoints k := by
  cases ends with
  | limit limited before =>
      cases limited
      exact ⟨rfl, before⟩

theorem afterSteps_add (m : Machine) (first second : Nat) :
    m.afterSteps (first + second) = (m.afterSteps first).afterSteps second := by
  rw [afterSteps, ← List.replicate_append_replicate, after_append]
  rfl

/-! ### Going on from where a run was left -/

section Later

variable {first : Nat}

theorem faultsAt_later_iff {fault : Fault} :
    (m.afterSteps first).FaultsAt number fault ↔ m.FaultsAt (first + number) fault := by
  rw [FaultsAt, FaultsAt, afterSteps_add]

theorem haltsAt_later_iff :
    (m.afterSteps first).HaltsAt number ↔ m.HaltsAt (first + number) := by
  rw [HaltsAt, HaltsAt, afterSteps_add]

theorem breaksAt_later_iff :
    (m.afterSteps first).BreaksAt breakpoints number ↔
      m.BreaksAt breakpoints (first + number) := by
  rw [BreaksAt, BreaksAt, Nat.add_assoc, afterSteps_add m first number, afterSteps_add m first]

theorem GoesOn.later (goesOn : (m.afterSteps first).GoesOn breakpoints number) :
    m.GoesOn breakpoints (first + number) where
  noFault fault := mt faultsAt_later_iff.mpr (goesOn.noFault fault)
  noHalt := mt haltsAt_later_iff.mpr goesOn.noHalt
  noBreak := mt breaksAt_later_iff.mpr goesOn.noBreak

/-- After steps that all go on a run with the rest of the limit ends as the whole run does. -/
theorem Ends.later {second : Nat} (before : ∀ k < first, m.GoesOn breakpoints k)
    (ends : (m.afterSteps first).Ends breakpoints (some second) number stop) :
    m.Ends breakpoints (some (first + second : Nat)) (first + number) stop := by
  have within {count : Nat} (early : Within (some second) count) :
      Within (some (first + second : Nat)) (first + count) := by
    have := early second rfl
    rintro steps ⟨⟩
    omega
  have all {count : Nat} (after : ∀ k < count, (m.afterSteps first).GoesOn breakpoints k) :
      ∀ k < first + count, m.GoesOn breakpoints k := by
    intro k early
    by_cases past : k < first
    · exact before k past
    · obtain ⟨j, rfl⟩ := Nat.exists_eq_add_of_le (Nat.le_of_not_lt past)
      exact (after j (by omega)).later
  cases ends with
  | fault early after faults =>
      exact .fault (within early) (all after) (faultsAt_later_iff.mp faults)
  | halted early after halts =>
      exact .halted (within early) (all after) (haltsAt_later_iff.mp halts)
  | breakpoint early after breaks =>
      exact .breakpoint (within early) (all after) (breaksAt_later_iff.mp breaks)
  | limit same after =>
      cases same
      have ends : m.Ends breakpoints (some (first + second : Nat))
          ((first + second : Nat) : Int).toNat .limit := .limit rfl (all after)
      exact ends

end Later

/-! ### Where runs end -/

theorem taken_ended (ends : m.Ends breakpoints limit number stop) :
    stop.taken (Run.ended { machine := m } number stop).steps = number := by
  have followed (count : Nat) : (Run.follow { machine := m } count).steps = count :=
    (Run.steps_follow _ count).trans (Nat.zero_add count)
  cases ends with
  | @fault count => exact congrArg Nat.succ (followed count)
  | _ => exact followed _

theorem runUntil_took {patience counted : Nat} (ends : m.Ends breakpoints limit number stop)
    (patient : limit = none → number ≤ patience) (took : number = stop.taken counted) :
    ∃ run, m.runUntil breakpoints limit patience = (run, some stop) ∧
      run.Took m number counted := by
  obtain ⟨machine, lines⟩ := shown_ended ends
  refine ⟨_, runUntil_eq_of_ends ends patient, machine, lines, ?_⟩
  have taken := (taken_ended ends).trans took
  cases stop with
  | fault f => exact Nat.succ_inj.mp taken
  | _ => exact taken

/-- Whatever a run returned is where it ends. -/
theorem ends_of_runUntil {patience : Nat} {run : Run}
    (ran : m.runUntil breakpoints limit patience = (run, some stop)) :
    m.Ends breakpoints limit (stop.taken run.steps) stop ∧
      run = Run.ended { machine := m } (stop.taken run.steps) stop := by
  have stops : limit = none → ∃ k < patience, ¬ m.GoesOn breakpoints k := by
    intro unlimited
    refine Classical.byContradiction fun none => ?_
    have unstopped : (m.runUntil breakpoints limit patience).2 = .none :=
      (runUntil_eq_none_iff patience).mpr ⟨unlimited, fun k early =>
        Classical.byContradiction fun ends => none ⟨k, early, ends⟩⟩
    rw [ran] at unstopped
    cases unstopped
  obtain ⟨number, stop', ends, patient⟩ := exists_ends stops
  obtain ⟨rfl, rfl⟩ : run = Run.ended { machine := m } number stop' ∧ stop = stop' := by
    have same := ran.symm.trans (runUntil_eq_of_ends ends patient)
    exact ⟨congrArg Prod.fst same, Option.some.inj (congrArg Prod.snd same)⟩
  rw [taken_ended ends]
  exact ⟨ends, rfl⟩

/-- A run that has used up its limit is continued by another one. -/
theorem runUntil_later {first second patience : Nat} {run : Run}
    (used : m.runUntil breakpoints (some first) patience = (run, some .limit)) :
    ∃ rest whole stop,
      run.machine.runUntil breakpoints (some second) patience = (rest, some stop) ∧
        m.runUntil breakpoints (some (first + second : Nat)) patience = (whole, some stop) ∧
        whole.machine = rest.machine ∧ whole.steps = run.steps + rest.steps := by
  obtain ⟨ends, ended⟩ := ends_of_runUntil used
  obtain ⟨all, before⟩ := ends.of_used
  have left : run.machine = m.afterSteps first := by
    rw [ended, (shown_ended ends).1, all]
  rw [left]
  obtain ⟨number, stop, ends', -⟩ :=
    @exists_ends (m.afterSteps first) breakpoints (some second) patience (by simp)
  refine ⟨_, _, stop, runUntil_eq_of_ends ends' (by simp),
    runUntil_eq_of_ends (ends'.later before) (by simp), ?_, ?_⟩
  · rw [(shown_ended ends').1, (shown_ended (ends'.later before)).1, afterSteps_add]
  · have rest := taken_ended ends'
    have whole := taken_ended (ends'.later before)
    have steps : run.steps = first := all
    cases stop <;> simp only [Stop.taken] at rest whole <;> omega

/-- A run ends at the first step that faults, finds the machine halted or leaves the program counter
at a breakpoint, and for the reason of that step, provided that its limit admits the step. Otherwise
it ends with the limit, after as many steps as that allows, or goes on for as long as it is
followed. So a run that uses up its limit can be continued by another as if the limits had been one,
and the limit is of no consequence to a run that ends for another reason. The loop with its flags
does the same: it breaks off with the fault, or it returns with just one flag set, that of the
reason. -/
theorem run_ends_at_first_stop (m : Machine) (breakpoints : List Int) (limit : Option Int)
    (patience : Nat) :
    (∀ number, m.FirstStop breakpoints number → Within limit number →
        (limit = none → number < patience) →
      (∀ fault, m.FaultsAt number fault →
        ∃ run, m.runUntil breakpoints limit patience = (run, some (.fault fault)) ∧
          run.Took m (number + 1) number) ∧
      (m.HaltsAt number →
        ∃ run, m.runUntil breakpoints limit patience = (run, some .halted) ∧
          run.Took m (number + 1) (number + 1)) ∧
      ((∀ fault, ¬ m.FaultsAt number fault) → ¬ m.HaltsAt number →
        ∃ run, m.runUntil breakpoints limit patience = (run, some .breakpoint) ∧
          run.Took m (number + 1) (number + 1))) ∧
    (∀ steps, limit = some steps → (∀ k : Nat, k < steps → ¬ m.StopsAt breakpoints k) →
      ∃ run count, m.runUntil breakpoints limit patience = (run, some .limit) ∧
        run.Took m count count ∧ (count : Int) = max steps 0) ∧
    (limit = none →
      ((m.runUntil breakpoints limit patience).2 = none ↔
        ∀ k < patience, ¬ m.StopsAt breakpoints k)) ∧
    (∀ (first second : Nat) (run : Run),
      m.runUntil breakpoints (some first) patience = (run, some .limit) →
      ∃ rest whole stop,
        run.machine.runUntil breakpoints (some second) patience = (rest, some stop) ∧
          m.runUntil breakpoints (some (first + second : Nat)) patience = (whole, some stop) ∧
          whole.machine = rest.machine ∧ whole.steps = run.steps + rest.steps) ∧
    (m.runLoop breakpoints limit patience =
      (m.runUntil breakpoints limit patience).2.map fun stop =>
        let run := (m.runUntil breakpoints limit patience).1
        (run.machine, run.returned stop)) ∧
    (∀ ended outcome, m.runLoop breakpoints limit patience = some (ended, .ok outcome) →
      outcome.flags.count true = 1 ∧
      ∃ run stop, m.runUntil breakpoints limit patience = (run, some stop) ∧
        run.machine = ended ∧ outcome.steps = run.steps ∧
        (outcome.halted = true ↔ stop = .halted) ∧
        (outcome.breakHit = true ↔ stop = .breakpoint) ∧
        (outcome.limitHit = true ↔ stop = .limit)) ∧
    ∀ (run : Run) (stop : Stop),
      m.runUntil breakpoints limit patience = (run, some stop) → stop ≠ .limit →
      ∀ limit' patience',
        (∀ steps, limit' = some steps → (stop.taken run.steps : Int) ≤ steps) →
        (limit' = none → stop.taken run.steps ≤ patience') →
        m.runUntil breakpoints limit' patience' = (run, some stop) := by
  refine ⟨fun number at_ within patient => ⟨fun fault faults => ?_, fun halts => ?_,
    fun noFault noHalt => ?_⟩, fun steps limited goesOn => ?_, fun unlimited => ?_,
    fun first second run => runUntil_later, runLoop_eq m breakpoints limit patience,
    fun ended outcome returned => ?_,
    fun run stop ran reason limit' patience' admits patient => ?_⟩
  · exact runUntil_took (.fault within at_.before faults) patient rfl
  · exact runUntil_took (.halted within at_.before halts) patient rfl
  · exact runUntil_took (.breakpoint within at_.before (at_.breaksAt noFault noHalt)) patient rfl
  · have ends : m.Ends breakpoints limit steps.toNat .limit :=
      .limit limited fun k early => goesOn_iff_not_stopsAt.mpr (goesOn k (by omega))
    have patient : limit = none → steps.toNat ≤ patience := by simp [limited]
    obtain ⟨run, ran, took⟩ := runUntil_took ends patient rfl
    exact ⟨run, _, ran, took, Int.ofNat_toNat steps⟩
  · rw [runUntil_eq_none_iff, and_iff_right unlimited]
    simp only [goesOn_iff_not_stopsAt]
  · rw [runLoop_eq] at returned
    obtain ⟨stop, stopped, same⟩ := Option.map_eq_some_iff.mp returned
    obtain ⟨machine, result⟩ := Prod.mk.inj same
    obtain ⟨one, steps, flags⟩ := Run.flags_of_returned result
    exact ⟨one, _, stop, Prod.ext rfl stopped, machine, steps, flags⟩
  · obtain ⟨ends, ended⟩ := ends_of_runUntil ran
    rw [runUntil_eq_of_ends (ends.of_limit reason admits) patient, ← ended]

/-- A loop of two jumps that starts at its only breakpoint comes back to it with the second step,
under a limit of five, without a limit, and if a limit of one is used up before. The flag that is
set is the breakpoint's. -/
theorem run_ends_at_first_stop_of_loop :
    let m := (initial ⟨fun _ => 0, 0⟩).insert ⟨"", [0x12, 0x02, 0x12, 0x00], by decide⟩
    (m.core.pc.toNat : Int) ∈ [0x200] ∧ m.FirstStop [0x200] 1 ∧
      ∃ run used rest, m.runUntil [0x200] (some 5) 0 = (run, some .breakpoint) ∧
        run.Took m 2 2 ∧
        m.runLoop [0x200] (some 5) 0 =
          some (run.machine, .ok { steps := 2, breakHit := true }) ∧
        m.runUntil [0x200] none 2 = (run, some .breakpoint) ∧
        m.runUntil [0x200] (some 1) 0 = (used, some .limit) ∧ used.steps = 1 ∧
        used.machine.runUntil [0x200] (some 4) 0 = (rest, some .breakpoint) ∧
        rest.machine = run.machine ∧ rest.steps = 1 := by
  intro m
  have jumps : ∀ k < 2, ∃ result, (m.afterSteps k).step.outcome = .ok result ∧
      result.status ≠ .halted := by
    intro k early
    obtain rfl | rfl : k = 0 ∨ k = 1 := by omega
    · have outcome : (m.afterSteps 0).step.outcome = .ok ⟨0x200, some ⟨0x1202⟩, .executed⟩ := by
        decide +kernel
      exact ⟨_, outcome, by decide⟩
    · have outcome : (m.afterSteps 1).step.outcome = .ok ⟨0x202, some ⟨0x1200⟩, .executed⟩ := by
        decide +kernel
      exact ⟨_, outcome, by decide⟩
  have goesOn : ∀ k : Nat, (k : Int) < 1 → ¬ m.StopsAt [0x200] k := by
    intro k early
    obtain rfl : k = 0 := by omega
    obtain ⟨_, outcome, awake⟩ := jumps 0 (by decide)
    exact goesOn_iff_not_stopsAt.mp (goesOn_of_outcome outcome awake (by decide +kernel))
  have back : m.FirstStop [0x200] 1 :=
    ⟨.inr (.inr (by decide +kernel)), fun k early => goesOn k (by omega)⟩
  have within : Within (some 5) 1 := by
    rintro steps ⟨⟩
    decide
  obtain ⟨stops, -, -, -, flagged, -, other⟩ := run_ends_at_first_stop m [0x200] (some 5) 0
  obtain ⟨-, -, breaks⟩ := stops 1 back within (by simp)
  obtain ⟨_, taken, awake⟩ := jumps 1 (by decide)
  obtain ⟨run, ran, took⟩ := breaks
    (fun fault faults => by cases taken.symm.trans faults)
    (fun ⟨_, halts, halted⟩ => by cases taken.symm.trans halts; exact awake halted)
  have unlimited := other run _ ran (by simp) none 2 (by simp) fun _ => by
    rw [took.counted]
    decide
  have looped : m.runLoop [0x200] (some 5) 0 =
      some (run.machine, .ok { steps := 2, breakHit := true }) := by
    have two : run.steps = 2 := took.counted
    rw [flagged, ran, ← two]
    rfl
  obtain ⟨-, uses, -, later, -⟩ := run_ends_at_first_stop m [0x200] (some 1) 0
  obtain ⟨used, count, hit, tookOne, one⟩ := uses 1 rfl goesOn
  obtain ⟨rest, whole, stop, continued, summed, machine, steps⟩ := later 1 4 used hit
  obtain ⟨rfl, rfl⟩ : whole = run ∧ stop = .breakpoint := by
    have same := summed.symm.trans ran
    exact ⟨congrArg Prod.fst same, Option.some.inj (congrArg Prod.snd same)⟩
  have counted := took.counted
  have countedOne : used.steps = 1 := tookOne.counted.trans (by omega)
  exact ⟨by decide, back, whole, used, rest, ran, took, looped, unlimited, hit, countedOne,
    continued, machine.symm, by omega⟩

end Machine

end Chip8
