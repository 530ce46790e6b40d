import Chip8.Main
import Chip8.Proofs.Frame
import Chip8.Proofs.Report
import Chip8.Proofs.Stopping

/-!
# The window and the headless runner drive the machine alike

Both step the machine until a step faults or their steps are used up. Frame by frame a session
stays `Abreast` of a run of the headless runner, and it `EndsAs` that run does: with the same core,
the same lines written, and the same words about a fault. The two differ at a halted machine, where
the runner stops and a session goes on.
-/

namespace Chip8

open Window Window.Session

variable {t : Toolkit}

/-! ### Machines that do not halt -/

namespace Machine

/-- No step but the last of `limit` steps finds the machine halted. Steps after one that faults
fault too, so only those up to the first fault matter. -/
def Unhalted (m : Machine) (limit : Nat) : Prop :=
  ∀ number, number + 1 < limit → ∀ result,
    (m.after (List.replicate number .step)).step.outcome = .ok result → result.status ≠ .halted

theorem Unhalted.step {m : Machine} {limit : Nat} (unhalted : m.Unhalted (limit + 1)) :
    m.step.machine.Unhalted limit := by
  intro number before
  exact unhalted (number + 1) (by omega)

end Machine

/-! ### Sessions beside runs -/

/-- A session that has come as far as a run. -/
structure Window.Session.Abreast (s : Session) (run : Machine.Run) : Prop where
  machine : s.console.machine = run.machine
  output : s.output = run.lines
  complaints : s.complaints = #[]
  frames : s.framesPolled = List.range run.steps
  standard : s.console.beeper.Standard

/-- A session that is over as a run is, after `limit` steps unless one of them faulted. The last
frame is the one after the steps that the run completed. -/
structure Window.Session.EndsAs (s : Session) (progress : Progress) (run : Machine.Run)
    (stop : Stop) (limit : Nat) : Prop where
  core : s.console.machine.core = run.machine.core
  output : s.output = run.lines
  complaints : s.complaints.toList = Headless.faultNote stop
  frames : s.framesPolled = List.range (run.steps + 1)
  fault : ∀ fault, stop = .fault fault → progress = .faulted
  limit : (∀ fault, stop ≠ .fault fault) → progress = .quit ∧ run.steps = limit

namespace Window.Session

theorem Abreast.aside {s s' : Session} {run : Machine.Run} (abreast : s.Abreast run)
    (aside : Aside s s') : s'.Abreast run where
  machine := aside.machine.trans abreast.machine
  output := aside.output.trans abreast.output
  complaints := aside.complaints.trans abreast.complaints
  frames := aside.frames.trans abreast.frames
  standard := aside.standard abreast.standard

theorem EndsAs.aside {s s' : Session} {progress : Progress} {run : Machine.Run} {stop : Stop}
    {limit : Nat} (ends : s.EndsAs progress run stop limit) (aside : Aside s s') :
    s'.EndsAs progress run stop limit where
  core := (congrArg Machine.core aside.machine).trans ends.core
  output := aside.output.trans ends.output
  complaints := (congrArg Array.toList aside.complaints).trans ends.complaints
  frames := aside.frames.trans ends.frames
  fault := ends.fault
  limit := ends.limit

theorem Abreast.framesPolled_polled {s : Session} {run : Machine.Run} (abreast : s.Abreast run) :
    (s.tell [.polled run.steps]).framesPolled = List.range (run.steps + 1) := by
  rw [framesPolled_tell, abreast.frames, List.range_succ]
  rfl

/-! ### One frame, one step -/

theorem Abreast.advanced {s : Session} {run : Machine.Run} (abreast : s.Abreast run) :
    (s.advanced run.steps).Abreast (run.advance run.machine.step) where
  machine := congrArg (·.step.machine) abreast.machine
  output := by
    have written : (s.advanced run.steps).output
        = s.output ++ s.console.machine.step.line.toList := rfl
    rw [written, abreast.output, abreast.machine]
    rfl
  complaints := abreast.complaints
  frames := abreast.framesPolled_polled
  standard := abreast.standard

theorem Abreast.frame_of_ok (willing : t.Willing) {s : Session} {run : Machine.Run}
    (abreast : s.Abreast run) (running : run.machine.runState = .running) {result : StepResult}
    (ok : run.machine.step.outcome = .ok result) (settings : Settings) :
    ∃ next, s.frame t settings run.steps [] = (next, .going) ∧
      next.Abreast (run.advance run.machine.step) := by
  rw [← abreast.machine] at running ok
  obtain ⟨next, framed, aside⟩ :=
    Session.frame_of_ok willing s run.steps running abreast.standard ok
  exact ⟨next, framed, abreast.advanced.aside aside⟩

theorem Abreast.frame_of_fault {s : Session} {run : Machine.Run} (abreast : s.Abreast run)
    (running : run.machine.runState = .running) {fault : Fault}
    (error : run.machine.step.outcome = .error fault) (settings : Settings) (limit : Nat) :
    ∃ last, s.frame t settings run.steps [] = (last, .faulted) ∧
      last.EndsAs .faulted (run.faulted run.machine.step) (.fault fault) limit := by
  have advanced := abreast.advanced
  rw [← abreast.machine] at running error
  refine ⟨_, Session.frame_of_fault s run.steps running error, ?_⟩
  exact {
    core := by
      show s.console.machine.step.machine.core = run.machine.step.machine.core
      rw [abreast.machine]
    output := advanced.output
    complaints := by rw [abreast.complaints]; rfl
    frames := abreast.framesPolled_polled
    fault := fun _ _ => rfl
    limit := fun noFault => absurd rfl (noFault fault) }

/-- The window is closed before the next step. -/
theorem Abreast.frame_of_close {s : Session} {run : Machine.Run} (abreast : s.Abreast run)
    (settings : Settings) (stop : Stop) (noFault : ∀ fault, stop ≠ .fault fault) :
    ∃ last, s.frame t settings run.steps [.close] = (last, .quit) ∧
      last.EndsAs .quit run stop run.steps := by
  refine ⟨_, Session.frame_of_close s run.steps, ?_⟩
  exact {
    core := by
      show s.console.machine.core = run.machine.core
      rw [abreast.machine]
    output := abreast.output
    complaints := by
      rw [Headless.faultNote_of_ne_fault noFault]
      exact congrArg Array.toList abreast.complaints
    frames := abreast.framesPolled_polled
    fault := fun fault is => absurd is (noFault fault)
    limit := fun _ => ⟨rfl, rfl⟩ }

/-! ### All frames, all steps -/

/-- By induction on the steps that are left: a frame is a step, and the closing frame is none. -/
theorem frames_endsAs_resume (willing : t.Willing) (settings : Settings) (limit : Nat) {s : Session}
    {run : Machine.Run} (abreast : s.Abreast run) (running : run.machine.runState = .running)
    (unhalted : run.machine.Unhalted limit) :
    ∃ last progress, s.frames t settings run.steps (List.replicate limit []) = (last, progress) ∧
      last.EndsAs progress (Machine.resume [] limit run).1
        ((Machine.resume [] limit run).2.getD .limit) (run.steps + limit) := by
  induction limit generalizing s run with
  | zero =>
      obtain ⟨last, closed, ends⟩ := abreast.frame_of_close (t := t) settings .limit (by simp)
      exact ⟨last, .quit, closed, ends⟩
  | succ limit ih =>
      rw [List.replicate_succ, frames]
      cases outcome : run.machine.step.outcome with
      | error fault =>
          obtain ⟨last, framed, ends⟩ :=
            abreast.frame_of_fault (t := t) running outcome settings (run.steps + (limit + 1))
          refine ⟨last, .faulted, by simp only [framed, andThen], ?_⟩
          rw [Machine.resume_of_fault outcome]
          exact ends
      | ok result =>
          obtain ⟨next, framed, abreast'⟩ := abreast.frame_of_ok willing running outcome settings
          by_cases halted : result.status = .halted
          -- the runner stops here, and the session after the last step, which this one is
          · obtain rfl : limit = 0 :=
              Nat.eq_zero_of_not_pos fun more => unhalted 0 (by omega) result outcome halted
            obtain ⟨last, closed, ends⟩ :=
              abreast'.frame_of_close (t := t) settings .halted (by simp)
            refine ⟨last, .quit, by simp only [framed, andThen]; exact closed, ?_⟩
            rw [Machine.resume_of_halted outcome halted]
            exact ends
          · have running' : (run.advance run.machine.step).machine.runState = .running := by
              show run.machine.step.machine.runState = .running
              rw [Machine.step_of_running running]
              exact running
            obtain ⟨last, progress, rest, ends⟩ := ih abreast' running' unhalted.step
            refine ⟨last, progress, by simp only [framed, andThen]; exact rest, ?_⟩
            rw [Machine.resume_of_ok outcome halted rfl,
              show run.steps + (limit + 1) = run.steps + 1 + limit by omega]
            exact ends

/-! ### A whole session -/

theorem EndsAs.over {s : Session} {progress : Progress} {run : Machine.Run} {stop : Stop}
    {limit : Nat} (ends : s.EndsAs progress run stop limit) :
    progress = .faulted ∨ progress = .quit := by
  cases stop with
  | fault fault => exact .inl (ends.fault fault rfl)
  | halted | breakpoint | limit => exact .inr (ends.limit nofun).1

theorem abreast_begin (settings : Settings) (m : Machine) :
    (begin settings m).Abreast { machine := m } where
  machine := rfl
  output := rfl
  complaints := rfl
  frames := rfl
  standard := Beeper.standard_new m.volume settings.audio

theorem Abreast.withMachine {s : Session} {run : Machine.Run} (abreast : s.Abreast run)
    (m : Machine) : (s.withMachine m).Abreast { run with machine := m } where
  machine := rfl
  output := abreast.output
  complaints := abreast.complaints
  frames := abreast.frames
  standard := abreast.standard

theorem run_endsAs_runUntil (willing : t.Willing) (settings : Settings) (m : Machine)
    (running : m.runState = .running) {codes : List Int}
    (mapped : ∀ code ∈ codes, (Console.padKey? code).isSome) {steps : Nat} (positive : 0 < steps)
    (unhalted : (m.press (padKeys codes)).Unhalted steps) (patience : Nat) :
    ∃ last progress run stop,
      Session.run t settings m (codes.map .keyDown :: List.replicate (steps - 1) []) =
          (last, progress) ∧
        (m.press (padKeys codes)).runUntil [] (some (steps : Int)) patience = (run, some stop) ∧
        last.EndsAs progress run stop steps := by
  obtain ⟨others, rfl⟩ : ∃ others, steps = others + 1 := ⟨steps - 1, by omega⟩
  let begun := (begin settings m).tell [.started]
  obtain ⟨opened, opens, asideOpen⟩ := aside_openWindow willing begun settings.scale
  have started : begun.Abreast { machine := m } :=
    (abreast_begin settings m).aside (aside_tell_one _ rfl)
  have titled := (started.aside asideOpen).aside opened.aside_showTitle
  -- the keys of the first frame are down before its step, so they are as good as held
  have pressed := titled.withMachine (m.press (padKeys codes))
  have running' : (m.press (padKeys codes)).runState = .running := by
    rw [Machine.press_eq]
    exact running
  obtain ⟨last, progress, framed, ends⟩ :=
    frames_endsAs_resume willing settings (others + 1) pressed running' unhalted
  rw [show 0 + (others + 1) = others + 1 by omega] at ends
  have played : opened.showTitle.frames t settings 0
      (codes.map .keyDown :: List.replicate others []) = (last, progress) := by
    rw [← framed, List.replicate_succ, frames, frames,
      frame_of_keyDowns opened.showTitle 0 mapped, titled.machine]
  refine ⟨last.finish, progress, _, _, ?_, rfl, ends.aside last.aside_finish⟩
  rw [Nat.add_sub_cancel]
  rcases ends.over with isOver | isOver <;>
    simp only [Session.run, andThen, opens, begun, played, isOver]

end Window.Session

/-! ### The two programs -/

theorem Window.play_of_run (willing : t.Willing) {settings : Window.Settings} {m : Machine}
    {frames : List (List Input)} {last : Session} {progress : Progress}
    (played : Session.run t settings m frames = (last, progress)) :
    (play t settings m frames).report.ending = endingOf progress ∧
      (play t settings m frames).report.complaints = last.complaints.toList := by
  have present : t.missing = none := willing.1
  simp only [play, present, played, and_self]

/-- A session in whose first frame the keys of some set go down, and which has no other events in
`steps` frames, beside a run of the headless runner with the same keys held, a limit of `steps`
steps and no breakpoint. Unless a step before the last finds the machine halted, both leave the same
core, the supply of random bytes in it, and have written the same lines. If a step faults, it is the
same step in both and they say the same about it. Both programs then end with code 4, the runner as
long as its dump file, if it has one, can be written. Otherwise both take all their steps. -/
theorem window_agrees_with_headless (willing : t.Willing) (settings : Window.Settings)
    (options : Headless.Settings) (rom : Rom) (random : RandomBytes) (codes : List Int)
    (steps patience : Nat) (positive : 0 < steps)
    (mapped : ∀ code ∈ codes, (Console.padKey? code).isSome)
    (sameKeys : ∀ key : Fin 16,
      (∃ code ∈ codes, Console.padKey? code = some key) ↔ key.val ∈ options.pressed)
    (sameTrace : options.trace = settings.trace) (limit : options.stepLimit = some (steps : Int))
    (noBreakpoint : options.breakpoints = [])
    (unhalted : (options.machine rom random).Unhalted steps) :
    let loaded := ((Machine.initial random).insert rom).enableTrace settings.trace
    let frames := codes.map Input.keyDown :: List.replicate (steps - 1) []
    let played := Session.run t settings loaded frames
    let ran := (options.machine rom random).runUntil (options.breakpoints.map Int.ofNat)
      options.stepLimit patience
    ∃ stop, ran.2 = some stop ∧
      played.1.console.machine.core = ran.1.machine.core ∧
      played.1.output = ran.1.lines ∧
      played.1.framesPolled = List.range (ran.1.steps + 1) ∧
      (∀ fault, stop = .fault fault →
        let report := (play t settings loaded frames).report
        let words := ["Execution stopped: " ++ fault.message]
        report.complaints = words ∧ Main.windowCode report.ending = 4 ∧
          ∀ fs, (options.report fs ran.1 stop).complaints = words ∧
            ((∀ text, options.dump = some text → fs.writeFile (Path.ofText text) = .ok ()) →
              Main.headlessCode (options.report fs ran.1 stop).ending = 4)) ∧
      ((∀ fault, stop ≠ .fault fault) → ran.1.steps = steps ∧ played.2 = .quit ∧
        played.1.complaints.toList = []) := by
  intro loaded frames played ran
  have held : options.machine rom random = loaded.press (padKeys codes) := by
    rw [Machine.press_congr fun key => mem_padKeys_iff.trans (sameKeys key),
      Headless.Settings.machine, sameTrace]
    rfl
  rw [held] at unhalted
  obtain ⟨last, progress, run, stop, session, headless, ends⟩ :=
    run_endsAs_runUntil willing settings loaded rfl mapped positive unhalted patience
  have ranEq : ran = (run, some stop) := by
    rw [← headless, ← held, ← limit]
    simp only [ran, noBreakpoint, List.map_nil]
  have playedEq : played = (last, progress) := session
  rw [ranEq, playedEq]
  refine ⟨stop, rfl, ends.core, ends.output, ends.frames, ?_, fun noFault => ?_⟩
  · rintro fault rfl
    obtain ⟨ending, complaints⟩ := play_of_run willing session
    refine ⟨complaints.trans ends.complaints, ?_, fun fs => ?_⟩
    · rw [ending, ends.fault fault rfl]
      rfl
    · refine ⟨Headless.complaints_report_of_fault options fs run fault, fun writable => ?_⟩
      rw [Headless.report_of_writable writable]
      rfl
  · obtain ⟨quit, all⟩ := ends.limit noFault
    exact ⟨all, quit, ends.complaints.trans (Headless.faultNote_of_ne_fault noFault)⟩

/-- The key `5`, which the host key `w` stands for, ends a wait at once, and the second step is a
return without a call. The runner dumps its memory to a file. -/
theorem window_agrees_with_headless_of_fault :
    let settings : Window.Settings :=
      { rom := "", scale := 4, fps := 60, fg := .white, bg := .black
        audio := true, keypad := false, trace := true, scale_pos := by decide }
    let options : Headless.Settings :=
      { rom := "", stepLimit := some 3, breakpoints := [], pressed := [5], dump := some "d"
        ranges := [], format := .hex, screen := false, trace := true, seed := none }
    let rom : Rom := ⟨"", [0xF5, 0x0A, 0x00, 0xEE], by decide⟩
    let random : RandomBytes := ⟨fun _ => 0, 0⟩
    let fault : Fault := ⟨.stackUnderflow, 0x202, ⟨0x00EE⟩⟩
    let loaded := ((Machine.initial random).insert rom).enableTrace true
    let frames := [[Input.keyDown 'w'.toNat], [], []]
    let played := Session.run {} settings loaded frames
    let ran := (options.machine rom random).runUntil [] (some 3) 0
    ran.2 = some (.fault fault) ∧
      played.1.console.machine.core = ran.1.machine.core ∧
      played.1.output = ran.1.lines ∧
      played.1.framesPolled = [0, 1] ∧
      (play {} settings loaded frames).report.complaints =
        ["Execution stopped: " ++ fault.message] ∧
      Main.windowCode (play {} settings loaded frames).report.ending = 4 ∧
      ∀ fs : FileSystem, fs.writeFile (Path.ofText "d") = .ok () →
        Main.headlessCode (options.report fs ran.1 (.fault fault)).ending = 4 := by
  intro settings options rom random fault loaded frames played ran
  have willing : Toolkit.Willing {} :=
    ⟨rfl, ⟨false, rfl⟩, rfl, rfl, fun _ => rfl, rfl⟩
  have sameKeys : ∀ key : Fin 16,
      (∃ code ∈ [('w'.toNat : Int)], Console.padKey? code = some key) ↔ key.val ∈ [5] := by
    decide
  have awake : ∀ number < 2,
      ((options.machine rom random).after (List.replicate number .step)).step.outcome.toOption.all
        (·.status ≠ .halted) = true := by
    decide +kernel
  have unhalted : (options.machine rom random).Unhalted 3 := by
    intro number before result ok
    have here := awake number (by omega)
    rw [ok] at here
    exact of_decide_eq_true here
  have stopped : ran.2 = some (.fault fault) := by decide +kernel
  have oneStep : ran.1.steps = 1 := by decide +kernel
  obtain ⟨stop, stops, core, output, polled, faults, -⟩ :=
    window_agrees_with_headless willing settings options rom random [('w'.toNat : Int)] 3 0
      (by decide) (by decide) sameKeys rfl rfl rfl unhalted
  obtain rfl : stop = .fault fault := Option.some.inj (stops.symm.trans stopped)
  obtain ⟨complaint, code, reports⟩ := faults fault rfl
  refine ⟨stopped, core, output, polled.trans (congrArg (List.range <| · + 1) oneStep), complaint,
    code, fun fs written => ?_⟩
  exact (reports fs).2 fun text named => Option.some.inj named ▸ written

end Chip8
