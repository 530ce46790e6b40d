import Chip8.Proofs.Beeper
import Chip8.Window.Session

/-!
# The beeper of a session stays in tune

Whatever the toolkit answers, a beeper with the default tone is told to start and to stop in turn,
and plays from a start to the next stop. A session is made of parts, and `Kept` says what each of
them hands on: a beeper in tune and a toolkit that has not been ended. A part breaks off only when
the toolkit refuses a window or a sound. A mixer that cannot be opened is no reason to.
-/

namespace Chip8

/-- What a toolkit that is there may refuse so that a session breaks off. -/
inductive Toolkit.Refuses (t : Toolkit) : String → Prop
  | window {complaint : String} (refused : t.openWindow = some complaint) : Refuses t complaint
  | sound {n : Nat} {complaint : String} (refused : t.makeSound n = some complaint) :
      Refuses t complaint

/-! ### Starts and stops -/

/-- Is the entry a start or a stop, and not a change of the volume? -/
def BeeperEntry.isTurn : BeeperEntry → Bool
  | .setVolume _ => false
  | _ => true

/-- The `k`-th of starts and stops in turn, of which the first is a start. -/
def BeeperEntry.turn (k : Nat) : BeeperEntry := if k % 2 = 0 then .start else .stop

namespace Beeper

variable {t : Toolkit} {b : Beeper}

/-- The starts and stops of a beeper so far. -/
def turns (b : Beeper) : List BeeperEntry := b.history.filter BeeperEntry.isTurn

/-- Starts and stops took turns, and a start was first. -/
def InTurn (b : Beeper) : Prop := b.turns = (List.range b.turns.length).map .turn

structure InTune (b : Beeper) : Prop where
  standard : b.Standard
  inTurn : b.InTurn
  playing : b.playing = decide (b.turns.length % 2 = 1)

theorem inTune_new (volume : Volume) (audio : Bool) : (new 44100 440 volume audio).InTune :=
  ⟨standard_new volume audio, rfl, rfl⟩

theorem turns_record (b : Beeper) (entry : BeeperEntry) :
    (b.record entry).turns = b.turns ++ if entry.isTurn then [entry] else [] := by
  rw [turns, record, List.filter_append, turns]
  cases entry <;> rfl

/-- The next turn is taken: a start if the beeper is silent, or else a stop. -/
theorem InTune.take (inTune : b.InTune) {entry : BeeperEntry}
    (next : entry = .turn b.turns.length) (playing : Bool)
    (follows : playing = !b.playing) : { b.record entry with playing }.InTune := by
  have turn : entry.isTurn = true := by
    rw [next, BeeperEntry.turn]
    split <;> rfl
  have taken : { b.record entry with playing }.turns = b.turns ++ [entry] := by
    change (b.record entry).turns = _
    rw [turns_record, if_pos turn]
  refine ⟨inTune.standard, ?_, ?_⟩
  · rw [InTurn, taken, List.length_append, List.length_singleton, List.range_succ, List.map_append,
      ← inTune.inTurn, next]
    rfl
  · rw [taken, List.length_append, List.length_singleton]
    change playing = _
    rw [follows, inTune.playing, ← decide_not, decide_eq_decide]
    omega

theorem InTune.setVolume (inTune : b.InTune) (v : Volume) : (b.setVolume v).beeper.InTune := by
  have same : (b.setVolume v).beeper.turns = b.turns := by
    change ({ b with volume := v }.record (.setVolume v)).turns = _
    rw [turns_record]
    exact List.append_nil _
  exact ⟨inTune.standard, by rw [InTurn, same]; exact inTune.inTurn,
    by rw [same]; exact inTune.playing⟩

theorem InTune.withAudio (inTune : b.InTune) (audio : AudioState) : { b with audio }.InTune :=
  ⟨inTune.standard, inTune.inTurn, inTune.playing⟩

/-! ### Calls -/

/-- A call that keeps the beeper in tune, does not end the toolkit, and is cut short only when the
toolkit refuses a sound. -/
structure Call.Kept (t : Toolkit) (c : Call) : Prop where
  inTune : c.beeper.InTune
  failure : ∀ failure, c.failure = some failure → t.Refuses failure.message
  unended : .ended ∉ c.events

theorem unended_openChannel (t : Toolkit) (sampleRate : Int) :
    .ended ∉ (openChannel t sampleRate).1 := by
  simp only [openChannel, openChannel.channel]
  repeat' split
  all_goals simp

theorem kept_ensureChannel (t : Toolkit) (inTune : b.InTune) : (ensureChannel t b).Kept t := by
  have opening := unended_openChannel t b.sampleRate
  rw [ensureChannel]
  split
  · exact ⟨inTune, by simp, by simp⟩
  · exact ⟨inTune, by simp, by simp⟩
  · split
    · rename_i answer
      rw [answer] at opening
      exact ⟨inTune.withAudio _, by simp, opening⟩
    · rename_i answer
      rw [answer] at opening
      exact ⟨inTune.withAudio _, by simp, opening⟩

theorem kept_playTone (inTune : b.InTune) : (playTone t b).Kept t := by
  rw [playTone]
  split
  · exact ⟨inTune, by simp, by simp⟩
  · exact ⟨inTune, by simp, by simp⟩
  · exact ⟨inTune, by simp, by simp⟩
  · obtain ⟨samples, tone⟩ := inTune.standard.tone_eq_ok
    simp only [tone]
    split
    · rename_i refused
      refine ⟨inTune, fun failure failed => ?_, by simp⟩
      obtain rfl : .toolkit _ = failure := Option.some.inj failed
      exact .sound refused
    · exact ⟨inTune.withAudio _, by simp, by simp⟩

theorem kept_start (inTune : b.InTune) (silent : b.playing = false) : (b.start t).Kept t := by
  have even : b.turns.length % 2 = 0 := by
    have odd := inTune.playing.symm.trans silent
    have := of_decide_eq_false odd
    omega
  have started : { b.record .start with playing := true }.InTune :=
    inTune.take (by rw [BeeperEntry.turn, if_pos even]) true (by rw [silent]; rfl)
  have ready := kept_ensureChannel t started
  have played := kept_playTone (t := t) ready.inTune
  refine ⟨played.inTune, played.failure, fun ended => ?_⟩
  rcases List.mem_append.mp ended with opening | playing
  · exact ready.unended opening
  · exact played.unended playing

theorem kept_stop (inTune : b.InTune) (sounding : b.playing = true) : b.stop.Kept t := by
  have odd : ¬ b.turns.length % 2 = 0 := by
    have := of_decide_eq_true (inTune.playing.symm.trans sounding)
    omega
  refine ⟨?_, by simp [stop], ?_⟩
  · exact inTune.take (by rw [BeeperEntry.turn, if_neg odd]) false (by rw [sounding]; rfl)
  · simp only [stop]
    split <;> simp

theorem kept_update (inTune : b.InTune) (active : Bool) : (b.update t active).Kept t := by
  rw [update]
  cases sounding : b.playing <;> cases active
  · exact ⟨inTune, by simp, by simp⟩
  · exact kept_start inTune sounding
  · exact kept_stop inTune sounding
  · exact ⟨inTune, by simp, by simp⟩

theorem playing_ensureChannel (t : Toolkit) (b : Beeper) :
    (ensureChannel t b).beeper.playing = b.playing := by
  rw [ensureChannel]
  split
  · rfl
  · rfl
  · split <;> rfl

theorem playing_playTone (t : Toolkit) (b : Beeper) :
    (playTone t b).beeper.playing = b.playing := by
  rw [playTone]
  split
  · rfl
  · rfl
  · rfl
  · split
    · rfl
    · split <;> rfl

/-- The beeper follows what it is told, even if it cannot be heard. -/
theorem playing_update (t : Toolkit) (b : Beeper) (active : Bool) :
    (b.update t active).beeper.playing = active := by
  rw [update]
  cases sounding : b.playing <;> cases active
  · exact sounding
  · change (playTone t _).beeper.playing = true
    rw [playing_playTone, playing_ensureChannel]
  · rfl
  · exact sounding

end Beeper

/-! ### Parts of a session -/

namespace Console

theorem beeper_handleKey (c : Console) (code : Int) (pressed : Bool) :
    (c.handleKey code pressed).beeper = c.beeper := by
  rw [handleKey]
  split <;> rfl

/-- A control leaves the beeper alone or sets its volume. -/
theorem inTune_handleControl {c : Console} (inTune : c.beeper.InTune) (code : Int) :
    (c.handleControl code).console.beeper.InTune ∧ .ended ∉ (c.handleControl code).events := by
  have quieter (m : Machine) : (c.changeVolume m).console.beeper.InTune ∧
      .ended ∉ (c.changeVolume m).events := by
    refine ⟨inTune.setVolume m.volume, ?_⟩
    simp only [changeVolume, Beeper.setVolume]
    split <;> simp
  rw [handleControl]
  split
  · rename_i control _
    cases control with
    | volumeUp => exact quieter c.machine.volumeUp
    | volumeDown => exact quieter c.machine.volumeDown
    | quit | pause | overlay => exact ⟨inTune, by simp [Console.control]⟩
  · exact ⟨inTune, by simp⟩

end Console

namespace Window.Session

variable {t : Toolkit} {s : Session} {settings : Settings}

structure InTune (s : Session) : Prop where
  beeper : s.console.beeper.InTune
  unended : .ended ∉ s.log.toList

/-- A part of a session that hands it on in tune, or breaks off for what the toolkit refused. -/
structure Kept (t : Toolkit) (part : Session × Progress) : Prop where
  inTune : part.1.InTune
  refusal : ∀ complaint, part.2 = .broken complaint → t.Refuses complaint

theorem Kept.of_going (inTune : s.InTune) : Kept t (s, .going) := ⟨inTune, nofun⟩

theorem Kept.andThen {part : Session × Progress} {next : Session → Session × Progress}
    (kept : Kept t part) (follows : ∀ s, s.InTune → Kept t (next s)) :
    Kept t (Session.andThen part next) := by
  obtain ⟨s, progress⟩ := part
  cases progress with
  | going => exact follows s kept.inTune
  | quit | faulted | broken => exact kept

theorem InTune.tell (inTune : s.InTune) {events : List ToolkitEvent}
    (unended : .ended ∉ events) : (s.tell events).InTune := by
  refine ⟨inTune.beeper, ?_⟩
  simp only [Session.tell, Array.toList_appendList, List.mem_append, not_or]
  exact ⟨inTune.unended, unended⟩

theorem InTune.withConsole (inTune : s.InTune) {console : Console}
    (beeper : console.beeper.InTune) : { s with console }.InTune :=
  ⟨beeper, inTune.unended⟩

theorem InTune.withBeeper (inTune : s.InTune) {beeper : Beeper} (kept : beeper.InTune)
    {events : List ToolkitEvent} (unended : .ended ∉ events) (output : Array String) :
    ({ s with console := { s.console with beeper }, output }.tell events).InTune := by
  have changed : { s with console := { s.console with beeper }, output }.InTune :=
    ⟨kept, inTune.unended⟩
  exact changed.tell unended

theorem inTune_started (settings : Settings) (m : Machine) :
    ((begin settings m).tell [.started]).InTune := by
  have begun : (begin settings m).InTune :=
    ⟨Beeper.inTune_new m.volume settings.audio, by simp [begin]⟩
  exact begun.tell (by simp)

theorem kept_openWindow (inTune : s.InTune) (scale : Nat) : Kept t (s.openWindow t scale) := by
  have asked : (s.tell [.windowRequested (s.windowSize scale).1 (s.windowSize scale).2]).InTune :=
    inTune.tell (by simp)
  cases answer : t.openWindow with
  | none =>
      simp only [openWindow, answer]
      exact .of_going asked
  | some complaint =>
      simp only [openWindow, answer]
      refine ⟨asked, fun complaint' broken => ?_⟩
      cases broken
      exact .window answer

/-! ### Events -/

theorem inTune_handleKey (inTune : s.InTune) (code : Int) (pressed : Bool) :
    { s with console := s.console.handleKey code pressed }.InTune :=
  inTune.withConsole (by rw [Console.beeper_handleKey]; exact inTune.beeper)

/-- The session after the control that a host key stands for, and before the key of the pad. -/
def controlled (s : Session) (code : Int) : Session :=
  { s with console := (s.console.handleControl code).console }.tell
    (s.console.handleControl code).events

theorem keyDown_eq_andThen (s : Session) (t : Toolkit) (scale : Nat) (code : Int) :
    s.keyDown t scale code =
      andThen (if (s.console.handleControl code).resize then (s.controlled code).openWindow t scale
        else (s.controlled code, .going)) fun s =>
          ({ s with console := s.console.handleKey code true }, .going) := by
  simp only [keyDown, andThen, controlled]
  generalize (if (s.console.handleControl code).resize = true then _ else _) = resized
  rcases resized with ⟨resized, _ | _ | _ | complaint⟩ <;> rfl

theorem handleAll_cons (s : Session) (t : Toolkit) (scale : Nat) (input : Input)
    (rest : List Input) :
    s.handleAll t scale (input :: rest) =
      andThen (s.handle t scale input) fun s => s.handleAll t scale rest := rfl

theorem kept_handle (inTune : s.InTune) (scale : Nat) (input : Input) :
    Kept t (s.handle t scale input) := by
  cases input with
  | keyDown code =>
      obtain ⟨beeper, unended⟩ := Console.inTune_handleControl inTune.beeper code
      have controlled : (s.controlled code).InTune := (inTune.withConsole beeper).tell unended
      rw [handle, keyDown_eq_andThen]
      refine Kept.andThen ?_ fun s inTune => .of_going (inTune_handleKey inTune code true)
      split
      · exact kept_openWindow controlled scale
      · exact .of_going controlled
  | keyUp code => exact .of_going (inTune_handleKey inTune code false)
  | close => exact .of_going (inTune.withConsole inTune.beeper)
  | other => exact .of_going inTune

theorem kept_handleAll (inTune : s.InTune) (scale : Nat) (inputs : List Input) :
    Kept t (s.handleAll t scale inputs) := by
  induction inputs generalizing s with
  | nil => exact .of_going inTune
  | cons input rest ih =>
      rw [handleAll_cons]
      exact (kept_handle inTune scale input).andThen fun s inTune => ih inTune

/-! ### Frames -/

theorem kept_checkQuit (inTune : s.InTune) : Kept t s.checkQuit := by
  rw [checkQuit]
  split
  · exact ⟨inTune, nofun⟩
  · exact .of_going inTune

theorem kept_stepMachine (inTune : s.InTune) : Kept t s.stepMachine := by
  rw [stepMachine]
  cases outcome : s.console.machine.step.outcome with
  | ok result => exact .of_going ⟨inTune.beeper, inTune.unended⟩
  | error fault => exact ⟨⟨inTune.beeper, inTune.unended⟩, nofun⟩

theorem kept_updateBeeper (inTune : s.InTune) : Kept t (s.updateBeeper t) := by
  have call := Beeper.kept_update (t := t) inTune.beeper
    (s.console.machine.soundActive && s.console.machine.runState = .running)
  have updated := inTune.withBeeper call.inTune call.unended
  simp only [updateBeeper]
  split
  · rename_i failure failed
    refine ⟨updated _, fun complaint broken => ?_⟩
    cases broken
    exact call.failure failure failed
  · exact .of_going (updated _)

theorem InTune.showTitle (inTune : s.InTune) : s.showTitle.InTune := inTune.tell (by simp)

theorem InTune.present (inTune : s.InTune) (settings : Settings) : (s.present settings).InTune :=
  inTune.tell (by simp [picture, Surface.events])

theorem kept_frame (inTune : s.InTune) (settings : Settings) (number : Nat) (inputs : List Input) :
    Kept t (s.frame t settings number inputs) :=
  (kept_handleAll (inTune.tell (by simp)) settings.scale inputs).andThen fun _ handled =>
  (kept_checkQuit handled).andThen fun _ awake =>
  (kept_stepMachine awake).andThen fun _ stepped =>
  (kept_updateBeeper stepped).andThen fun _ updated =>
    .of_going (updated.showTitle.present settings)

theorem kept_frames (inTune : s.InTune) (settings : Settings) (number : Nat)
    (schedule : List (List Input)) : Kept t (s.frames t settings number schedule) := by
  induction schedule generalizing s number with
  | nil => exact kept_frame inTune settings number [.close]
  | cons inputs rest ih =>
      exact (kept_frame inTune settings number inputs).andThen fun _ next => ih next (number + 1)

/-- The tone is off and the toolkit has been ended, once. -/
structure Over (s : Session) : Prop where
  inTurn : s.console.beeper.InTurn
  silent : s.console.beeper.playing = false
  ended : s.log.toList.count .ended = 1

theorem count_ended_tell (inTune : s.InTune) : (s.tell [.ended]).log.toList.count .ended = 1 := by
  rw [Session.tell, Array.toList_appendList, List.count_append,
    List.count_eq_zero_of_not_mem inTune.unended]
  rfl

theorem InTune.over_finish (inTune : s.InTune) : s.finish.Over := by
  rw [finish]
  split
  · rename_i sounding
    have call := Beeper.kept_stop (t := {}) inTune.beeper sounding
    have stopped := inTune.withBeeper call.inTune call.unended s.output
    exact ⟨stopped.beeper.inTurn, rfl, count_ended_tell stopped⟩
  · rename_i silent
    exact ⟨inTune.beeper.inTurn, Bool.eq_false_iff.mpr silent, count_ended_tell inTune⟩

/-- A whole session breaks off for what the toolkit refused, or is over. -/
theorem run_cases (t : Toolkit) (settings : Settings) (m : Machine)
    (schedule : List (List Input)) :
    (∃ s complaint, run t settings m schedule = (s, .broken complaint) ∧ t.Refuses complaint) ∨
      ∃ s progress, run t settings m schedule = (s, progress) ∧ s.Over ∧
        ∀ complaint, progress ≠ .broken complaint := by
  have kept := (kept_openWindow (t := t) (inTune_started settings m) settings.scale).andThen
    fun _ opened => kept_frames opened.showTitle settings 0 schedule
  simp only [run]
  split
  · rename_i s complaint broken
    exact .inl ⟨s, complaint, rfl, kept.refusal complaint (by rw [broken])⟩
  · rename_i s progress unbroken ended
    rw [ended] at kept
    exact .inr ⟨s.finish, progress, rfl, kept.inTune.over_finish, unbroken⟩

end Window.Session

end Chip8
