import Chip8.Proofs.Channel

/-!
# Starts that fail

A call of a beeper fails in one way: it starts the tone, the beeper has a channel but no sound yet,
and the sound cannot be made. By then the start is recorded, so the beeper counts as playing what
the mixer was never asked to play, and an update that finds it playing does not try again. A start
does. What a beeper counts as playing and remembers is what it would be without audio, whether its
calls fail or not (`muted_serve`).
-/

namespace Chip8

def ToolkitEvent.isPlay : ToolkitEvent → Bool
  | .played _ => true
  | _ => false

namespace Beeper

variable {t : Toolkit} {b : Beeper} {failure : BeeperFailure}

/-- Does the request start the tone? -/
def Starts (b : Beeper) : Request → Prop
  | .start => True
  | .update active => active = true ∧ b.playing = false
  | .stop => False
  | .setVolume _ => False

/-- Once the toolkit has been asked, the beeper has a channel but no sound. -/
def LacksSound (b : Beeper) (t : Toolkit) : Prop :=
  b.audio = .opened false ∨ b.audio = .unopened ∧ (openChannel t b.sampleRate).2 = none

/-- Why no sound can be made, if none can: there is no such tone, or the toolkit refuses it. -/
def soundFailure? (b : Beeper) (t : Toolkit) : Option BeeperFailure :=
  match b.tone? toneDuration with
  | .error e => some (.tone e)
  | .ok _ => (t.makeSound b.history.length).map .toolkit

/-- The beeper once a start is recorded that has got no further than the channel. -/
def stranded (b : Beeper) : Beeper := { b.started with audio := .opened false }

/-! ### A start that lacks its sound -/

theorem played_openChannel (t : Toolkit) (sampleRate : Int) :
    ∀ event ∈ (openChannel t sampleRate).1, event.isPlay = false := by
  obtain ⟨asked, asks, ⟨complaint, refused⟩ | opened⟩ := openChannel_eq t sampleRate
  · rw [refused]
    obtain rfl | rfl := asks <;> simp [ToolkitEvent.isPlay]
  · rw [opened]
    obtain rfl | rfl := asks <;> simp [ToolkitEvent.isPlay]

theorem ensureChannel_of_lacksSound (lacks : b.LacksSound t) :
    ∃ events, (∀ event ∈ events, event.isPlay = false) ∧
      ensureChannel t b = { beeper := { b with audio := .opened false }, events } := by
  rcases lacks with audio | ⟨audio, opens⟩
  · refine ⟨[], nofun, ?_⟩
    simp only [ensureChannel, audio]
    rw [← audio]
  · have quiet := played_openChannel t b.sampleRate
    rcases asked : openChannel t b.sampleRate with ⟨events, complaint⟩
    rw [asked] at opens quiet
    obtain rfl : complaint = none := opens
    refine ⟨events, quiet, ?_⟩
    simp only [ensureChannel, audio, asked]

theorem soundFailure?_of_standard (standard : b.Standard) {complaint : String}
    (refused : t.makeSound b.history.length = some complaint) :
    b.soundFailure? t = some (.toolkit complaint) := by
  obtain ⟨samples, tone⟩ := standard.tone_eq_ok
  simp only [soundFailure?, tone, refused, Option.map_some]

theorem playTone_of_failure (audio : b.audio = .opened false)
    (failed : b.soundFailure? t = some failure) :
    playTone t b = { beeper := b, failure := some failure } := by
  rw [soundFailure?] at failed
  cases tone : b.tone? toneDuration with
  | error e =>
      simp only [tone, Option.some.injEq] at failed
      simp only [playTone, audio, tone, failed]
  | ok samples =>
      simp only [tone] at failed
      obtain ⟨complaint, refused, rfl⟩ := Option.map_eq_some_iff.mp failed
      simp only [playTone, audio, tone, refused]

theorem failure_playTone_of_sound (sound : b.soundFailure? t = none) :
    (playTone t b).failure = none := by
  rw [soundFailure?] at sound
  cases tone : b.tone? toneDuration with
  | error e => simp only [tone, reduceCtorEq] at sound
  | ok samples =>
      simp only [tone, Option.map_eq_none_iff] at sound
      simp only [playTone, tone, sound]
      split <;> rfl

theorem start_of_failure (lacks : b.LacksSound t)
    (failed : b.started.soundFailure? t = some failure) :
    ∃ events, (∀ event ∈ events, event.isPlay = false) ∧
      b.start t = { beeper := b.stranded, events, failure := some failure } := by
  have lacks' : b.started.LacksSound t := lacks
  obtain ⟨events, quiet, ready⟩ := ensureChannel_of_lacksSound lacks'
  have strands : playTone t b.stranded = { beeper := b.stranded, failure := some failure } :=
    playTone_of_failure rfl failed
  refine ⟨events, quiet, ?_⟩
  rw [start, ← started, ready, ← stranded, strands]
  simp only [List.append_nil]

theorem failure_start_of_sound (sound : b.started.soundFailure? t = none) :
    (b.start t).failure = none := by
  -- opening the channel changes nothing that the sound is made of
  have ready : (ensureChannel t b.started).beeper.soundFailure? t = none := by
    show (ensureChannel t b.started).beeper.muted.soundFailure? t = none
    rw [muted_ensureChannel]
    exact sound
  exact failure_playTone_of_sound ready

theorem failure_start_of_not_lacksSound (equipped : ¬ b.LacksSound t) :
    (b.start t).failure = none := by
  cases audio : b.audio with
  | disabled => rw [start_of_disabled audio]
  | opened soundMade =>
      cases soundMade with
      | false => exact absurd (.inl audio) equipped
      | true => rw [start_of_opened audio]
  | unopened =>
      rcases asked : openChannel t b.sampleRate with ⟨events, _ | complaint⟩
      · exact absurd (.inr ⟨audio, by rw [asked]⟩) equipped
      · rw [start_of_refused audio asked]

theorem failure_start_eq_some_iff :
    (b.start t).failure = some failure ↔
      b.LacksSound t ∧ b.started.soundFailure? t = some failure := by
  constructor
  · intro failed
    by_cases lacks : b.LacksSound t
    · refine ⟨lacks, ?_⟩
      cases sound : b.started.soundFailure? t with
      | none =>
          rw [failure_start_of_sound sound] at failed
          cases failed
      | some reason =>
          obtain ⟨events, -, fails⟩ := start_of_failure lacks sound
          rw [fails] at failed
          exact failed
    · rw [failure_start_of_not_lacksSound lacks] at failed
      cases failed
  · rintro ⟨lacks, sound⟩
    obtain ⟨events, -, fails⟩ := start_of_failure lacks sound
    rw [fails]

/-! ### Calls that fail -/

theorem serve_of_starts {request : Request} (starts : b.Starts request) :
    b.serve t request = b.start t := by
  cases request with
  | start => rfl
  | update active =>
      obtain ⟨rfl, silent⟩ := starts
      rw [serve, update, silent]
      rfl
  | stop => exact starts.elim
  | setVolume v => exact starts.elim

theorem failure_serve_of_not_starts {request : Request} (other : ¬ b.Starts request) :
    (b.serve t request).failure = none := by
  cases request with
  | start => exact absurd trivial other
  | update active =>
      rw [serve, update]
      split
      · rename_i begins
        simp only [Bool.and_eq_true, Bool.not_eq_eq_eq_not, Bool.not_true] at begins
        exact absurd begins other
      · split <;> rfl
  | stop => rfl
  | setVolume v => rfl

theorem failure_serve_eq_some_iff {request : Request} :
    (b.serve t request).failure = some failure ↔
      b.Starts request ∧ b.LacksSound t ∧ b.started.soundFailure? t = some failure := by
  by_cases starts : b.Starts request
  · rw [serve_of_starts starts, failure_start_eq_some_iff]
    exact (and_iff_right starts).symm
  · rw [failure_serve_of_not_starts starts]
    exact iff_of_false nofun fun fails => starts fails.1

theorem serve_of_failure {request : Request}
    (failed : (b.serve t request).failure = some failure) :
    ∃ events, (∀ event ∈ events, event.isPlay = false) ∧
      b.serve t request = { beeper := b.stranded, events, failure := some failure } := by
  obtain ⟨starts, lacks, sound⟩ := failure_serve_eq_some_iff.mp failed
  rw [serve_of_starts starts]
  exact start_of_failure lacks sound

/-- Updates that find the beeper playing and tell it to play ask nobody for anything. -/
theorem serveAll_updates_of_playing (playing : b.playing = true) (toolkits : List Toolkit) :
    b.serveAll (toolkits.map fun t => (t, .update true)) =
      toolkits.map fun _ => { beeper := b } := by
  have ignored (t : Toolkit) : b.serve t (.update true) = { beeper := b } := by
    rw [serve, update, playing]
    rfl
  induction toolkits with
  | nil => rfl
  | cons t rest ih => rw [List.map_cons, serveAll, ignored, ih, List.map_cons]

/-- A call fails when it starts the tone, the toolkit gives the beeper a channel or has given it
one, and a sound that was not made before cannot be made; no other call does. A call that fails has
recorded the start: the history has grown by it and the beeper counts as playing, though nothing was
played. Updates then leave it at that, while a start asks for the sound again. In what it counts as
playing and in its history, a call that fails differs in nothing from a call without audio. -/
theorem failed_start_is_recorded (b : Beeper) (before : List (Toolkit × Request)) (t : Toolkit)
    (request : Request) :
    let asked := b.afterAll before
    let call := asked.serve t request
    let silent := (b.muted.afterAll before).serve t request
    (∀ failure, call.failure = some failure ↔
      asked.Starts request ∧ asked.LacksSound t ∧ asked.started.soundFailure? t = some failure) ∧
    (call.failure ≠ none →
      call.beeper.history = asked.history ++ [.start] ∧
      call.beeper.playing = true ∧
      (∀ event ∈ call.events, event.isPlay = false) ∧
      (∀ toolkits : List Toolkit,
        call.beeper.serveAll (toolkits.map fun t => (t, .update true)) =
          toolkits.map fun _ => { beeper := call.beeper }) ∧
      ∀ t' : Toolkit, (call.beeper.start t').failure = call.beeper.started.soundFailure? t') ∧
    call.beeper.history = silent.beeper.history ∧
    call.beeper.playing = silent.beeper.playing := by
  intro asked call silent
  have alike : call.beeper.muted = silent.beeper := by
    show (asked.serve t request).beeper.muted = _
    rw [muted_serve, muted_afterAll]
  refine ⟨fun failure => failure_serve_eq_some_iff, fun failed => ?_, ?_, ?_⟩
  · obtain ⟨failure, fails⟩ := Option.ne_none_iff_exists'.mp failed
    obtain ⟨events, quiet, outcome⟩ := serve_of_failure fails
    have stranded : call = { beeper := asked.stranded, events, failure := some failure } := outcome
    rw [stranded]
    refine ⟨rfl, rfl, quiet, fun toolkits => serveAll_updates_of_playing rfl toolkits, fun t' => ?_⟩
    refine Option.ext fun reason => ?_
    rw [failure_start_eq_some_iff]
    exact and_iff_right (.inl rfl)
  · rw [← alike]
    rfl
  · rw [← alike]
    rfl

/-- A mixer that opens and then refuses the sound to a beeper whose volume was changed before. -/
theorem failed_start_is_recorded_of_refusal :
    let soundless : Toolkit := { makeSound := fun _ => some "cannot create sound" }
    let asked := (new 44100 440 .full true).afterAll [(soundless, .setVolume .silent)]
    let call := asked.serve soundless .start
    call.failure = some (.toolkit "cannot create sound") ∧
    call.beeper.history = [.setVolume .silent, .start] ∧
    call.beeper.playing = true ∧
    call.beeper.serveAll [(soundless, .update true)] = [{ beeper := call.beeper }] := by
  intro soundless asked call
  obtain ⟨fails, records, -⟩ := failed_start_is_recorded (new 44100 440 .full true)
    [(soundless, .setVolume .silent)] soundless .start
  have sound : asked.started.soundFailure? soundless = some (.toolkit "cannot create sound") :=
    soundFailure?_of_standard ⟨rfl, rfl⟩ rfl
  have failed : call.failure = some (.toolkit "cannot create sound") :=
    (fails _).mpr ⟨trivial, .inr ⟨rfl, rfl⟩, sound⟩
  obtain ⟨history, playing, -, updates, -⟩ := records (by rw [failed]; nofun)
  exact ⟨failed, history, playing, updates [soundless]⟩

/-- A start is recorded before the sound is asked for. So when a mixer that opens refuses the sound
to a fresh beeper, the beeper is not what it was before the call, and it does not try again. -/
theorem failed_start_counts_as_playing :
    let fresh := new 44100 440 .full true
    let soundless : Toolkit := { makeSound := fun _ => some "cannot create sound" }
    let call := fresh.update soundless true
    call.failure = some (.toolkit "cannot create sound") ∧
    (fresh.playing = false ∧ call.beeper.playing = true) ∧
    (fresh.history = [] ∧ call.beeper.history = [.start]) ∧
    ∀ later : Toolkit, call.beeper.update later true = { beeper := call.beeper } := by
  intro fresh soundless call
  have sound : fresh.started.soundFailure? soundless = some (.toolkit "cannot create sound") :=
    soundFailure?_of_standard ⟨rfl, rfl⟩ rfl
  obtain ⟨events, -, fails⟩ := start_of_failure (.inr ⟨rfl, rfl⟩) sound
  have outcome : call = { beeper := fresh.stranded, events,
                          failure := some (.toolkit "cannot create sound") } := fails
  rw [outcome]
  exact ⟨rfl, ⟨rfl, rfl⟩, ⟨rfl, rfl⟩, fun later => rfl⟩

end Beeper

end Chip8
