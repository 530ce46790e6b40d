import Chip8.Main
import Chip8.Proofs.Frame
import Chip8.Proofs.InTune
import Chip8.Proofs.Pause

/-!
# A session played through

A frame does to the machine what its events ask for, in order, and then takes one step, unless the
player quit. `Framed` gives the three ways in which a frame at a willing toolkit goes; the beeper is
only told how to sound when the step did not fault. A session goes from frame to frame until one of
them is the last, and whichever way that one goes, it leaves the machine told to quit.
-/

namespace Chip8

namespace Machine

theorem lines_append (m : Machine) (first second : List Operation) :
    m.lines (first ++ second) = m.lines first ++ (m.after first).lines second := by
  induction first generalizing m with
  | nil => rfl
  | cons op rest ih => rw [List.cons_append, lines, lines, ih, List.append_assoc, after_cons]

theorem runState_apply_eq_quit_iff (m : Machine) (op : Operation) :
    (m.apply op).machine.runState = .quit ↔ m.runState = .quit ∨ op = .quit := by
  cases op with
  | quit => exact ⟨fun _ => .inr rfl, fun _ => rfl⟩
  | togglePause =>
      simp only [apply, togglePause_eq]
      cases m.runState <;> simp [RunState.toggled]
  | _ => rw [runState_apply_of_not_control rfl]; simp

/-- Nothing but a quit makes the machine quit, and nothing undoes it. -/
theorem runState_after_eq_quit_iff (m : Machine) (history : List Operation) :
    (m.after history).runState = .quit ↔ m.runState = .quit ∨ .quit ∈ history := by
  induction history generalizing m with
  | nil => simp
  | cons op rest ih =>
      rw [after_cons, ih, runState_apply_eq_quit_iff, List.mem_cons, or_assoc, eq_comm (a := op)]

end Machine

/-! ### What events ask of the machine -/

def Console.Control.operations : Console.Control → List Operation
  | .quit => [.quit]
  | .pause => [.togglePause]
  | .overlay => []
  | .volumeUp => [.volumeUp]
  | .volumeDown => [.volumeDown]

namespace Console

/-- What the pad key that a host key stands for does, if it stands for one. -/
def keyOperations (code : Int) (pressed : Bool) : List Operation :=
  (padKey? code).toList.map fun key => .setKey key.val pressed

def controlOperations (code : Int) : List Operation :=
  (control? code).toList.flatMap Control.operations

theorem machine_handleKey (c : Console) (code : Int) (pressed : Bool) :
    (c.handleKey code pressed).machine = c.machine.after (keyOperations code pressed) := by
  rw [handleKey, keyOperations]
  cases padKey? code <;> rfl

theorem machine_handleControl (c : Console) (code : Int) :
    (c.handleControl code).console.machine = c.machine.after (controlOperations code) := by
  rw [handleControl, controlOperations]
  cases control? code with
  | none => rfl
  | some control => cases control <;> rfl

theorem quit_mem_controlOperations_iff (code : Int) :
    .quit ∈ controlOperations code ↔ code = 27 := by
  rw [controlOperations, control?]
  by_cases escape : code = 27
  · simp [escape, Control.operations]
  · rw [if_neg escape]
    repeat' split
    all_goals simp [escape, Control.operations]

theorem quit_not_mem_keyOperations (code : Int) (pressed : Bool) :
    .quit ∉ keyOperations code pressed := by
  simp [keyOperations]

end Console

namespace Window

def Input.operations : Input → List Operation
  | .keyDown code => Console.controlOperations code ++ Console.keyOperations code true
  | .keyUp code => Console.keyOperations code false
  | .close => [.quit]
  | .other => []

/-- Does the player quit? The window is closed, or the escape key goes down. -/
def Input.quits : Input → Bool
  | .keyDown code => code = 27
  | .close => true
  | _ => false

theorem quit_mem_operations_iff (inputs : List Input) :
    .quit ∈ inputs.flatMap Input.operations ↔ ∃ input ∈ inputs, input.quits = true := by
  have each (input : Input) : .quit ∈ input.operations ↔ input.quits = true := by
    cases input with
    | keyDown code =>
        simp [Input.operations, Input.quits, Console.quit_mem_controlOperations_iff,
          Console.quit_not_mem_keyOperations]
    | keyUp code => simp [Input.operations, Input.quits, Console.quit_not_mem_keyOperations]
    | close => simp [Input.operations, Input.quits]
    | other => simp [Input.operations, Input.quits]
  simp only [List.mem_flatMap, each]

namespace Session

variable {t : Toolkit} {settings : Settings} {s : Session}

/-- From one session to the next the machine went through a history, and what was written is the
trace of it. -/
structure Drives (s s' : Session) (history : List Operation) : Prop where
  machine : s'.console.machine = s.console.machine.after history
  output : s'.output.toList = s.output.toList ++ s.console.machine.lines history

theorem Aside.drives {s s' : Session} (aside : Aside s s') : Drives s s' [] where
  machine := aside.machine
  output := by rw [aside.output, Machine.lines, List.append_nil]

theorem Drives.trans {s s' s'' : Session} {first second : List Operation}
    (before : Drives s s' first) (after : Drives s' s'' second) :
    Drives s s'' (first ++ second) where
  machine := by rw [after.machine, before.machine, Machine.after_append]
  output := by
    rw [after.output, before.output, before.machine, Machine.lines_append, List.append_assoc]

theorem Drives.aside {s s' s'' : Session} {history : List Operation} (drives : Drives s s' history)
    (aside : Aside s' s'') : Drives s s'' history :=
  List.append_nil history ▸ drives.trans aside.drives

/-! ### Events -/

theorem drives_handleKey (s : Session) (code : Int) (pressed : Bool) :
    Drives s { s with console := s.console.handleKey code pressed }
      (Console.keyOperations code pressed) where
  machine := Console.machine_handleKey s.console code pressed
  output := by
    rw [Console.keyOperations]
    cases Console.padKey? code <;> exact (List.append_nil _).symm

theorem drives_controlled (s : Session) (code : Int) :
    Drives s (s.controlled code) (Console.controlOperations code) where
  machine := Console.machine_handleControl s.console code
  output := by
    rw [Console.controlOperations]
    rcases Console.control? code with _ | _ | _ | _ | _ | _ <;> exact (List.append_nil _).symm

theorem handle_of_willing (willing : t.Willing) (s : Session) (scale : Nat) (input : Input) :
    ∃ next, s.handle t scale input = (next, .going) ∧ Drives s next input.operations := by
  cases input with
  | keyDown code =>
      have resized : ∃ next, (if (s.console.handleControl code).resize then
          (s.controlled code).openWindow t scale else (s.controlled code, .going)) =
            (next, .going) ∧ Aside (s.controlled code) next := by
        split
        · exact aside_openWindow willing _ scale
        · exact ⟨_, rfl, rfl, rfl, rfl, rfl, id⟩
      obtain ⟨next, going, aside⟩ := resized
      refine ⟨_, by rw [handle, keyDown_eq_andThen, going]; rfl, ?_⟩
      exact ((s.drives_controlled code).aside aside).trans (next.drives_handleKey code true)
  | keyUp code => exact ⟨_, rfl, s.drives_handleKey code false⟩
  | close => exact ⟨_, rfl, rfl, (List.append_nil _).symm⟩
  | other => exact ⟨_, rfl, rfl, (List.append_nil _).symm⟩

theorem handleAll_of_willing (willing : t.Willing) (s : Session) (scale : Nat)
    (inputs : List Input) :
    ∃ next, s.handleAll t scale inputs = (next, .going) ∧
      Drives s next (inputs.flatMap Input.operations) := by
  induction inputs generalizing s with
  | nil => exact ⟨s, rfl, rfl, (List.append_nil _).symm⟩
  | cons input rest ih =>
      obtain ⟨next, handled, first⟩ := handle_of_willing willing s scale input
      obtain ⟨last, others, second⟩ := ih next
      exact ⟨last, by rw [handleAll_cons, handled]; exact others, first.trans second⟩

/-! ### One frame -/

/-- How a frame with these events goes. The player quits, whatever else the events ask for, and no
step is taken; or one step is taken, and the beeper told to sound if the sound timer runs and the
machine is running; or that step faults. -/
inductive Framed (s : Session) (inputs : List Input) : Session → Progress → Prop
  | quit {last : Session} (quits : ∃ input ∈ inputs, input.quits = true)
      (drives : Drives s last (inputs.flatMap Input.operations))
      (rests : last.console.machine.runState = .quit) : Framed s inputs last .quit
  | stepped {next : Session} {result : StepResult} (stays : ∀ input ∈ inputs, input.quits = false)
      (drives : Drives s next (inputs.flatMap Input.operations ++ [.step]))
      (ok : (s.console.machine.after (inputs.flatMap Input.operations)).step.outcome = .ok result)
      (sounds : next.console.beeper.playing = true ↔
        next.console.machine.core.sound ≠ 0 ∧ next.console.machine.runState = .running) :
      Framed s inputs next .going
  | faulted {last : Session} {fault : Fault} (stays : ∀ input ∈ inputs, input.quits = false)
      (drives : Drives s last (inputs.flatMap Input.operations ++ [.step, .quit]))
      (error : (s.console.machine.after (inputs.flatMap Input.operations)).step.outcome =
        .error fault) : Framed s inputs last .faulted

theorem stepMachine_of_ok {result : StepResult} (ok : s.console.machine.step.outcome = .ok result) :
    ∃ next, s.stepMachine = (next, .going) ∧ Drives s next [.step] ∧
      next.console.beeper = s.console.beeper := by
  simp only [stepMachine, ok]
  refine ⟨_, rfl, ⟨rfl, ?_⟩, rfl⟩
  simp [Machine.lines, Machine.apply_step]

theorem stepMachine_of_error {fault : Fault}
    (error : s.console.machine.step.outcome = .error fault) :
    ∃ last, s.stepMachine = (last, .faulted) ∧ Drives s last [.step, .quit] := by
  simp only [stepMachine, error]
  refine ⟨_, rfl, rfl, ?_⟩
  simp [Machine.lines, Machine.apply]

/-- Told so at the end of a frame, the beeper sounds when it should. -/
theorem updateBeeper_of_willing (willing : t.Willing) (s : Session)
    (standard : s.console.beeper.Standard) :
    ∃ next, s.updateBeeper t = (next, .going) ∧ Aside s next ∧
      (next.console.beeper.playing = true ↔
        next.console.machine.core.sound ≠ 0 ∧ next.console.machine.runState = .running) := by
  obtain ⟨next, updated, aside⟩ := aside_updateBeeper willing s standard
  refine ⟨next, updated, aside, ?_⟩
  have told : (s.updateBeeper t).1.console.beeper = (s.console.beeper.update t
      (s.console.machine.soundActive && s.console.machine.runState = .running)).beeper := by
    simp only [updateBeeper]
    split <;> rfl
  rw [updated] at told
  rw [told, Beeper.playing_update, aside.machine, Bool.and_eq_true, Machine.soundActive,
    decide_eq_true_iff, decide_eq_true_iff, UInt8.pos_iff_ne_zero]

theorem handled_of_willing (willing : t.Willing) (inTune : s.InTune) (number scale : Nat)
    (inputs : List Input) :
    ∃ handled, (s.tell [.polled number]).handleAll t scale inputs = (handled, .going) ∧
      Drives s handled (inputs.flatMap Input.operations) ∧ handled.InTune := by
  have polled : (s.tell [.polled number]).InTune := inTune.tell (by simp)
  obtain ⟨handled, going, drives⟩ := handleAll_of_willing willing _ scale inputs
  have kept := kept_handleAll (t := t) polled scale inputs
  rw [going] at kept
  exact ⟨handled, going, ⟨drives.machine, drives.output⟩, kept.inTune⟩

theorem framed (willing : t.Willing) (inTune : s.InTune)
    (awake : s.console.machine.runState ≠ .quit) (settings : Settings) (number : Nat)
    (inputs : List Input) :
    Framed s inputs (s.frame t settings number inputs).1 (s.frame t settings number inputs).2 := by
  obtain ⟨handled, going, drives, inTune'⟩ :=
    handled_of_willing willing inTune number settings.scale inputs
  have quits : handled.console.machine.runState = .quit ↔
      ∃ input ∈ inputs, input.quits = true := by
    rw [drives.machine, Machine.runState_after_eq_quit_iff, or_iff_right awake,
      quit_mem_operations_iff]
  by_cases rests : handled.console.machine.runState = .quit
  · have checked : handled.checkQuit = (handled, .quit) := by rw [checkQuit, if_pos rests]
    simp only [frame, going, andThen, checked]
    exact .quit (quits.mp rests) drives rests
  · have checked : handled.checkQuit = (handled, .going) := by rw [checkQuit, if_neg rests]
    have stays : ∀ input ∈ inputs, input.quits = false := fun input mem =>
      Bool.eq_false_iff.mpr fun quit => rests (quits.mpr ⟨input, mem, quit⟩)
    cases outcome : handled.console.machine.step.outcome with
    | error fault =>
        obtain ⟨last, faulted, stepped⟩ := stepMachine_of_error outcome
        simp only [frame, going, andThen, checked, faulted]
        exact .faulted stays (drives.trans stepped) (drives.machine ▸ outcome)
    | ok result =>
        obtain ⟨stepped, stepping, step, beeper⟩ := stepMachine_of_ok outcome
        have standard : stepped.console.beeper.Standard := beeper ▸ inTune'.beeper.standard
        obtain ⟨updated, updating, aside, sounds⟩ :=
          updateBeeper_of_willing willing stepped standard
        have shown := updated.aside_showTitle.trans (updated.showTitle.aside_present settings)
        simp only [frame, going, andThen, checked, stepping, updating]
        exact .stepped stays ((drives.trans step).aside (aside.trans shown))
          (drives.machine ▸ outcome) sounds

/-! ### From frame to frame -/

/-- The session as its first frame finds it. -/
def opened (t : Toolkit) (settings : Settings) (m : Machine) : Session :=
  (((begin settings m).tell [.started]).openWindow t settings.scale).1.showTitle

/-- The events of a frame. After all that were planned the window is closed. -/
def inputsOf (schedule : List (List Input)) (number : Nat) : List Input :=
  schedule[number]?.getD [.close]

def scheduledFrame (s : Session) (t : Toolkit) (settings : Settings) (schedule : List (List Input))
    (number : Nat) : Session × Progress :=
  s.frame t settings number (inputsOf schedule number)

/-- The sessions that the frames find, by the number of the frame. -/
inductive Reached (t : Toolkit) (settings : Settings) (m : Machine) (schedule : List (List Input)) :
    Nat → Session → Prop
  | first : Reached t settings m schedule 0 (opened t settings m)
  | next {number : Nat} {s next : Session} (reached : Reached t settings m schedule number s)
      (going : s.scheduledFrame t settings schedule number = (next, .going)) :
      Reached t settings m schedule (number + 1) next

variable {m : Machine} {schedule : List (List Input)} {number : Nat}

theorem inTune_opened (t : Toolkit) (settings : Settings) (m : Machine) :
    (opened t settings m).InTune :=
  (kept_openWindow (t := t) (inTune_started settings m) settings.scale).inTune.showTitle

theorem machine_opened (t : Toolkit) (settings : Settings) (m : Machine) :
    (opened t settings m).console.machine = m := by
  simp only [opened, openWindow]
  cases t.openWindow <;> rfl

theorem Reached.inTune (reached : Reached t settings m schedule number s) : s.InTune := by
  induction reached with
  | first => exact inTune_opened t settings m
  | @next number s _ _ going ih =>
      have kept := kept_frame (t := t) ih settings number (inputsOf schedule number)
      rw [← scheduledFrame, going] at kept
      exact kept.inTune

theorem Framed.awake {inputs : List Input} {next : Session} (framed : Framed s inputs next .going)
    (awake : s.console.machine.runState ≠ .quit) : next.console.machine.runState ≠ .quit := by
  cases framed with
  | stepped stays drives =>
      rw [drives.machine, Ne, Machine.runState_after_eq_quit_iff, or_iff_right awake,
        List.mem_append, quit_mem_operations_iff]
      rintro (⟨input, mem, quits⟩ | step)
      · exact Bool.false_ne_true ((stays input mem).symm.trans quits)
      · simp at step

theorem Reached.awake (willing : t.Willing) (start : m.runState ≠ .quit)
    (reached : Reached t settings m schedule number s) :
    s.console.machine.runState ≠ .quit := by
  induction reached with
  | first => rwa [machine_opened]
  | @next number s next reached going ih =>
      have framed := framed willing reached.inTune ih settings number (inputsOf schedule number)
      rw [← scheduledFrame, going] at framed
      exact framed.awake ih

theorem Reached.framed (willing : t.Willing) (start : m.runState ≠ .quit)
    (reached : Reached t settings m schedule number s) :
    Framed s (inputsOf schedule number) (s.scheduledFrame t settings schedule number).1
      (s.scheduledFrame t settings schedule number).2 :=
  Session.framed willing reached.inTune (reached.awake willing start) settings number _

/-! ### The last frame -/

theorem inputsOf_of_le (past : schedule.length ≤ number) : inputsOf schedule number = [.close] := by
  rw [inputsOf, List.getElem?_eq_none past, Option.getD_none]

theorem frames_drop (s : Session) (t : Toolkit) (settings : Settings) (schedule : List (List Input))
    (number : Nat) :
    s.frames t settings number (schedule.drop number) =
      andThen (s.scheduledFrame t settings schedule number) fun s =>
        s.frames t settings (number + 1) (schedule.drop (number + 1)) := by
  rw [scheduledFrame]
  by_cases planned : number < schedule.length
  · rw [List.drop_eq_getElem_cons planned, frames, inputsOf, List.getElem?_eq_getElem planned,
      Option.getD_some]
  · have past : schedule.length ≤ number := Nat.le_of_not_lt planned
    rw [List.drop_eq_nil_of_le past, frames, inputsOf_of_le past, frame_of_close]
    rfl

theorem Reached.frames (reached : Reached t settings m schedule number s) :
    (opened t settings m).frames t settings 0 schedule =
      s.frames t settings number (schedule.drop number) := by
  induction reached with
  | first => rfl
  | next _ going ih => rw [ih, frames_drop, going, andThen]

theorem Reached.frames_of_last (reached : Reached t settings m schedule number s)
    (final : (s.scheduledFrame t settings schedule number).2 ≠ .going) :
    (opened t settings m).frames t settings 0 schedule =
      s.scheduledFrame t settings schedule number := by
  rw [reached.frames, frames_drop]
  rcases framed : s.scheduledFrame t settings schedule number with ⟨last, progress⟩
  rw [framed] at final
  cases progress with
  | going => exact absurd rfl final
  | quit | faulted | broken => rfl

/-- By induction on the frames that are planned still: the one after them is the last at the
latest. -/
theorem exists_last (t : Toolkit) (settings : Settings) (m : Machine)
    (schedule : List (List Input)) :
    ∃ number s, Reached t settings m schedule number s ∧
      (s.scheduledFrame t settings schedule number).2 ≠ .going := by
  have later (remaining : Nat) : ∀ number s, Reached t settings m schedule number s →
      schedule.length ≤ number + remaining → ∃ number s, Reached t settings m schedule number s ∧
        (s.scheduledFrame t settings schedule number).2 ≠ .going := by
    induction remaining with
    | zero =>
        intro number s reached past
        have closes : inputsOf schedule number = [.close] := inputsOf_of_le past
        exact ⟨number, s, reached, by rw [scheduledFrame, closes, frame_of_close]; nofun⟩
    | succ remaining ih =>
        intro number s reached more
        rcases framed : s.scheduledFrame t settings schedule number with ⟨next, progress⟩
        cases progress with
        | going => exact ih (number + 1) next (.next reached framed) (by omega)
        | quit | faulted | broken => exact ⟨number, s, reached, by rw [framed]; nofun⟩
  exact later schedule.length 0 _ .first (by omega)

theorem Framed.runState_of_last {inputs : List Input} {last : Session} {progress : Progress}
    (framed : Framed s inputs last progress) (final : progress ≠ .going) :
    last.console.machine.runState = .quit := by
  cases framed with
  | quit _ _ quit => exact quit
  | stepped => exact absurd rfl final
  | faulted _ drives =>
      rw [drives.machine, Machine.runState_after_eq_quit_iff]
      exact .inr (by simp)

/-- A session at a willing toolkit ends as its last frame does, with the tone off. -/
theorem Reached.run_of_last (willing : t.Willing) (start : m.runState ≠ .quit)
    (reached : Reached t settings m schedule number s)
    (final : (s.scheduledFrame t settings schedule number).2 ≠ .going) :
    run t settings m schedule = ((s.scheduledFrame t settings schedule number).1.finish,
      (s.scheduledFrame t settings schedule number).2) := by
  obtain ⟨asked, opens, -⟩ :=
    aside_openWindow willing ((begin settings m).tell [.started]) settings.scale
  have played : asked.showTitle.frames t settings 0 schedule =
      s.scheduledFrame t settings schedule number := by
    rw [← reached.frames_of_last final, opened, opens]
  have framed := reached.framed willing start
  rcases goes : s.scheduledFrame t settings schedule number with ⟨last, progress⟩
  rw [goes] at framed played
  simp only [run, opens, andThen, played]
  cases framed <;> rfl

end Session

open Session

/-- Every frame at a willing toolkit goes as `Framed` says: one in which the player quits takes no
step, and every other one step, after which the beeper sounds if the sound timer and the machine
run. Starts and stops of the beeper take turns. The first frame in which the player quits or a step
faults is the last. Then the machine has quit, the tone is off, the toolkit has been ended once, and
the program's code is 4 after a fault and 0 otherwise. -/
theorem beeper_follows_machine {t : Toolkit} (willing : t.Willing) (settings : Settings) (rom : Rom)
    (random : RandomBytes) (schedule : List (List Input)) :
    let loaded := ((Machine.initial random).insert rom).enableTrace settings.trace
    let played := Session.run t settings loaded schedule
    let code := Main.windowCode (play t settings loaded schedule).report.ending
    (∀ number s, Reached t settings loaded schedule number s →
      let framed := s.scheduledFrame t settings schedule number
      Framed s (inputsOf schedule number) framed.1 framed.2 ∧
        s.console.beeper.InTurn ∧
        (framed.2 ≠ .going → played = (framed.1.finish, framed.2)) ∧
        (framed.2 = .faulted → code = 4)) ∧
    played.1.console.machine.runState = .quit ∧
    played.1.Over ∧
    ((∀ number s, Reached t settings loaded schedule number s →
      (s.scheduledFrame t settings schedule number).2 ≠ .faulted) → code = 0) := by
  intro loaded played code
  have start : loaded.runState ≠ .quit := nofun
  have coded : code = Main.windowCode (endingOf played.2) := by
    have present : t.missing = none := willing.1
    simp only [code, play, present, played]
  obtain ⟨last, s, reached, final⟩ := exists_last t settings loaded schedule
  have ended := reached.run_of_last willing start final
  refine ⟨fun number s reached => ⟨reached.framed willing start, reached.inTune.beeper.inTurn,
    reached.run_of_last willing start, fun faulted => ?_⟩, ?_, ?_, fun unfaulted => ?_⟩
  · have ended := reached.run_of_last willing start (by rw [faulted]; nofun)
    rw [coded, show played = _ from ended, faulted]
    rfl
  · rw [show played = _ from ended, (aside_finish _).machine]
    exact (reached.framed willing start).runState_of_last final
  · rw [show played = _ from ended]
    exact (kept_frame reached.inTune settings last (inputsOf schedule last)).inTune.over_finish
  · have framed := reached.framed willing start
    have unfaulted := unfaulted last s reached
    rw [coded, show played = _ from ended]
    generalize s.scheduledFrame t settings schedule last = goes at framed final unfaulted
    obtain ⟨_, progress⟩ := goes
    cases framed with
    | quit => rfl
    | stepped => exact absurd rfl final
    | faulted => exact absurd rfl unfaulted

/-- A program that turns on the sound and then returns without a call. The beeper sounds after the
second step, and is off when the third has faulted. -/
theorem beeper_follows_machine_of_tone :
    let settings : Settings :=
      { rom := "", scale := 4, fps := 60, fg := .white, bg := .black
        audio := false, keypad := false, trace := false, scale_pos := by decide }
    let rom : Rom := ⟨"", [0x6A, 0x05, 0xFA, 0x18, 0x00, 0xEE], by decide⟩
    let random : RandomBytes := ⟨fun _ => 0, 0⟩
    let loaded := (Machine.initial random).insert rom
    let schedule := [[Input.keyDown 'p'.toNat, .keyDown 'p'.toNat], [.other], []]
    let played := Session.run {} settings loaded schedule
    (∃ s, Reached {} settings loaded schedule 2 s ∧ s.console.beeper.playing = true) ∧
      played.1.console.machine.runState = .quit ∧
      played.1.Over ∧
      Main.windowCode (play {} settings loaded schedule).report.ending = 4 := by
  intro settings rom random loaded schedule played
  have willing : Toolkit.Willing {} :=
    ⟨rfl, ⟨false, rfl⟩, rfl, rfl, fun _ => rfl, rfl⟩
  obtain ⟨frames, quit, isOver, -⟩ := beeper_follows_machine willing settings rom random schedule
  let first := opened {} settings loaded
  let second := (first.scheduledFrame {} settings schedule 0).1
  let third := (second.scheduledFrame {} settings schedule 1).1
  have goesFirst : (first.scheduledFrame {} settings schedule 0).2 = .going := by decide +kernel
  have goesSecond : (second.scheduledFrame {} settings schedule 1).2 = .going := by decide +kernel
  have faults : (third.scheduledFrame {} settings schedule 2).2 = .faulted := by decide +kernel
  have toSecond : Reached {} settings loaded schedule 1 second :=
    .next .first (Prod.ext rfl goesFirst)
  have toThird : Reached {} settings loaded schedule 2 third :=
    .next toSecond (Prod.ext rfl goesSecond)
  obtain ⟨framed, -, -, -⟩ := frames 1 second toSecond
  have sounds : third.console.machine.core.sound ≠ 0 := by decide +kernel
  have running : third.console.machine.runState = .running := by decide +kernel
  rw [goesSecond] at framed
  cases framed with
  | stepped _ _ _ sounding =>
      exact ⟨⟨third, toThird, sounding.mpr ⟨sounds, running⟩⟩, quit, isOver,
        (frames 2 third toThird).2.2.2 faults⟩

end Window

end Chip8
