import Chip8.Proofs.Beeper

/-!
# The beeper, variable by variable

A second beeper in which nothing is coherent by its type. Whether audio is enabled, whether the
mixer is ready, the channel, the sound and whether the beeper plays are variables of their own. Each
is written where its turn comes, and an error keeps what was written before it. A mixer that raises
on the way is caught, and three of the variables are put back by hand.

`run_serve` says that this beeper does what the one with a single state of its audio does, whatever
it is asked, and keeps its variables as `Beeper.wide` tells: these are the values that they have
together, and what the single state stands for.
-/

namespace Chip8

/-- The beeper as plain variables, with what the toolkit was told and what was printed since the
call began. -/
structure WideBeeper where
  sampleRate : Int
  frequency : Float
  volume : Volume
  audioEnabled : Bool
  audioInitialized : Bool
  /-- The number of the channel that the mixer gave. -/
  channel : Option Nat
  sound : Option (List Int)
  playing : Bool
  history : List BeeperEntry
  told : List ToolkitEvent
  printed : List String

namespace WideBeeper

inductive Error
  | failure (f : BeeperFailure)
  /-- There is no channel that could be told. The mixer is opened without telling one. -/
  | noChannel
  deriving DecidableEq

def Error.message : Error → String
  | .failure f => f.message
  | .noChannel => "no channel"

/-- An action changes the beeper in place and may raise an error on the way. -/
abbrev Action := EStateM Error WideBeeper

/-- A fresh beeper that may use the mixer. -/
def fresh (volume : Volume) : WideBeeper where
  sampleRate := 44100
  frequency := 440
  volume := volume
  audioEnabled := true
  audioInitialized := false
  channel := none
  sound := none
  playing := false
  history := []
  told := []
  printed := []

/-! ### The mixer -/

/-- The beeper after the toolkit was told more. -/
def heard (w : WideBeeper) (events : List ToolkitEvent) : WideBeeper :=
  { w with told := w.told ++ events }

def tell (event : ToolkitEvent) : Action Unit := modify fun w => w.heard [event]

def print (line : String) : Action Unit := modify fun w => { w with printed := w.printed ++ [line] }

/-- A request that the toolkit refuses with a complaint, or grants. -/
def demand : Option String → Action Unit
  | none => pure ()
  | some complaint => throw (.failure (.toolkit complaint))

def mixerOpen (t : Toolkit) : Action Bool :=
  match t.mixerOpen with
  | .ok isOpen => pure isOpen
  | .error complaint => throw (.failure (.toolkit complaint))

def openMixer (t : Toolkit) : Action Unit := do
  demand t.missing
  let isOpen ← mixerOpen t
  if !isOpen then
    tell (.mixerRequested (← get).sampleRate (-16) 1)
    demand t.openMixer
  demand t.openChannel
  tell (.channelOpened 0)
  modify fun w => { w with channel := some 0 }
  modify fun w => { w with audioInitialized := true }

/-- Whatever the mixer raises is printed, and costs the beeper its audio. -/
def ensureMixer (t : Toolkit) : Action Bool := do
  if !(← get).audioEnabled then pure false
  else if (← get).audioInitialized then pure true
  else
    try
      openMixer t
    catch e =>
      print ("audio disabled: " ++ e.message)
      modify fun w => { w with audioEnabled := false }
      modify fun w => { w with channel := none }
      modify fun w => { w with audioInitialized := false }
    pure (← get).audioInitialized

/-! ### Calls -/

def tellChannel (event : ToolkitEvent) : Action Unit := do
  match (← get).channel with
  | none => throw .noChannel
  | some _ => tell event

def makeSound (t : Toolkit) : Action Unit := do
  demand t.missing
  let w ← get
  match Tone.samples? w.sampleRate w.frequency Beeper.toneDuration with
  | .error e => throw (.failure (.tone e))
  | .ok samples =>
      demand (t.makeSound w.history.length)
      tell (.soundMade samples)
      modify fun w => { w with sound := some samples }

def record (entry : BeeperEntry) : Action Unit :=
  modify fun w => { w with history := w.history ++ [entry] }

def playSound : Action Unit := do
  tellChannel (.channelVolume (← get).volume)
  tellChannel (.played (-1))

def playTone (t : Toolkit) : Action Unit := do
  if (← get).sound.isNone then makeSound t
  playSound

def start (t : Toolkit) : Action Unit := do
  record .start
  modify fun w => { w with playing := true }
  if ← ensureMixer t then playTone t

def stop : Action Unit := do
  record .stop
  modify fun w => { w with playing := false }
  if (← get).channel.isSome then tellChannel .silenced

def setVolume (v : Volume) : Action Unit := do
  modify fun w => { w with volume := v }
  record (.setVolume v)
  if (← get).channel.isSome then tellChannel (.channelVolume v)

def update (t : Toolkit) (active : Bool) : Action Unit := do
  if active && !(← get).playing then start t
  else if !active && (← get).playing then stop

def serve (t : Toolkit) : Beeper.Request → Action Unit
  | .update active => update t active
  | .start => start t
  | .stop => stop
  | .setVolume v => setVolume v

/-- A call from outside, and the error that it ends with if it does not come to its end. -/
def call (w : WideBeeper) (t : Toolkit) (request : Beeper.Request) : WideBeeper × Option Error :=
  match (serve t request).run { w with told := [], printed := [] } with
  | .ok _ after => (after, none)
  | .error e after => (after, some e)

def serveAll (w : WideBeeper) :
    List (Toolkit × Beeper.Request) → List (WideBeeper × Option Error)
  | [] => []
  | (t, request) :: rest => w.call t request :: (w.call t request).1.serveAll rest

/-- What the variables have to do with each other between two calls: there is a channel and a sound
once the mixer is ready, and only then, and a beeper with its mixer ready has its audio. -/
structure Consistent (w : WideBeeper) : Prop where
  channel : w.channel.isSome = w.audioInitialized
  sound : w.sound.isSome = w.audioInitialized
  enabled : w.audioInitialized = true → w.audioEnabled = true

end WideBeeper

namespace Beeper

/-- The variables of a beeper between two calls. The sound that it has made is the tone of its
settings. -/
def wide (b : Beeper) : WideBeeper where
  sampleRate := b.sampleRate
  frequency := b.frequency
  volume := b.volume
  audioEnabled := b.audioEnabled
  audioInitialized := b.channelOpen
  channel := if b.channelOpen then some 0 else none
  sound := if b.audio = .opened true then (b.tone? toneDuration).toOption else none
  playing := b.playing
  history := b.history
  told := []
  printed := []

/-- The variables that a call left behind. -/
def Call.wide (c : Call) : WideBeeper :=
  { c.beeper.wide with told := c.events, printed := c.printed }

end Beeper

namespace WideBeeper

open Beeper

variable {t : Toolkit} {b : Beeper}

/-- How a call ends. -/
def ending (c : Call) : EStateM.Result Error WideBeeper Unit :=
  match c.failure with
  | none => .ok () c.wide
  | some f => .error (.failure f) c.wide

theorem heard_heard (w : WideBeeper) (first second : List ToolkitEvent) :
    (w.heard first).heard second = w.heard (first ++ second) := by
  simp only [heard, List.append_assoc]

theorem missing_of_openChannel {events : List ToolkitEvent} {sampleRate : Int}
    (opens : openChannel t sampleRate = (events, none)) : t.missing = none := by
  obtain ⟨_ | missing, mixerOpen, openMixer, openChannel, makeSound, openWindow⟩ := t
  · rfl
  · cases opens

theorem run_ensureMixer (t : Toolkit) (b : Beeper) :
    (ensureMixer t).run b.wide =
      .ok (ensureChannel t b).beeper.channelOpen (ensureChannel t b).wide := by
  obtain ⟨sampleRate, frequency, volume, audio, playing, history⟩ := b
  cases audio with
  | disabled => rfl
  | opened soundMade => rfl
  | unopened =>
      rcases t with
        ⟨_ | missing, _ | _ | _, _ | openMixer, _ | openChannel, makeSound, openWindow⟩ <;> rfl

section

variable {w : WideBeeper} {number : Nat} {samples : List Int}

theorem run_playSound (channel : w.channel = some number) :
    playSound.run w = .ok () (w.heard [.channelVolume w.volume, .played (-1)]) := by
  have plays : playSound.run w =
      .ok () ((w.heard [.channelVolume w.volume]).heard [.played (-1)]) := by
    obtain ⟨sampleRate, frequency, volume, audioEnabled, audioInitialized, _, sound⟩ := w
    subst channel
    rfl
  rw [plays, heard_heard]
  rfl

theorem run_makeSound (present : t.missing = none)
    (tone : Tone.samples? w.sampleRate w.frequency toneDuration = .ok samples) :
    (makeSound t).run w =
      match t.makeSound w.history.length with
      | some complaint => .error (.failure (.toolkit complaint)) w
      | none => .ok () ({ w with sound := some samples }.heard [.soundMade samples]) := by
  simp only [makeSound, present, tone, demand, EStateM.run_bind, EStateM.run_pure,
    EStateM.run_get]
  cases t.makeSound w.history.length <;> rfl

theorem run_playTone_of_sound (channel : w.channel = some number) (sound : w.sound = some samples) :
    (playTone t).run w = .ok () (w.heard [.channelVolume w.volume, .played (-1)]) := by
  have asked : (playTone t).run w = playSound.run w := by
    simp only [playTone, EStateM.run_bind, EStateM.run_get, sound]
    rfl
  rw [asked, run_playSound channel]

theorem run_playTone_of_silence (channel : w.channel = some number) (silent : w.sound = none)
    (present : t.missing = none)
    (tone : Tone.samples? w.sampleRate w.frequency toneDuration = .ok samples) :
    (playTone t).run w =
      match t.makeSound w.history.length with
      | some complaint => .error (.failure (.toolkit complaint)) w
      | none =>
          .ok () ({ w with sound := some samples }.heard
            [.soundMade samples, .channelVolume w.volume, .played (-1)]) := by
  have asked : (playTone t).run w = (makeSound t >>= fun _ => playSound).run w := by
    simp only [playTone, EStateM.run_bind, EStateM.run_get, silent]
    rfl
  rw [asked, EStateM.run_bind, run_makeSound present tone]
  cases t.makeSound w.history.length with
  | some complaint => rfl
  | none =>
      have plays := run_playSound (w := { w with sound := some samples }.heard [.soundMade samples])
        channel
      rw [heard_heard] at plays
      exact plays

end

/-- The toolkit is looked for a second time only where it was found before. -/
theorem run_playTone (standard : b.Standard) {ready : Call} (same : ready.beeper = b)
    (opened : b.channelOpen = true) (imports : b.audio = .opened false → t.missing = none) :
    (playTone t).run ready.wide =
      ending { Beeper.playTone t b with
        events := ready.events ++ (Beeper.playTone t b).events,
        printed := ready.printed ++ (Beeper.playTone t b).printed } := by
  subst same
  obtain ⟨samples, tone⟩ := standard.tone_eq_ok
  have channel : ready.wide.channel = some 0 := if_pos opened
  cases audio : ready.beeper.audio with
  | disabled => simp [channelOpen, audio] at opened
  | unopened => simp [channelOpen, audio] at opened
  | opened soundMade =>
      cases soundMade with
      | true =>
          have sound : ready.wide.sound = some samples := by
            show (if _ then (ready.beeper.tone? toneDuration).toOption else none) = _
            rw [if_pos audio, tone]
            rfl
          rw [run_playTone_of_sound channel sound]
          simp only [Beeper.playTone, audio, List.append_nil]
          rfl
      | false =>
          have silent : ready.wide.sound = none := if_neg (by simp [audio])
          rw [run_playTone_of_silence channel silent (imports audio) tone]
          simp only [Beeper.playTone, audio, tone]
          have kept : { ready.beeper with audio := .opened true }.wide =
              { ready.beeper.wide with sound := some samples } := by
            have tone' :
                tone? { ready.beeper with audio := .opened true } toneDuration = .ok samples := tone
            simp [wide, channelOpen, Beeper.audioEnabled, audio, tone', Except.toOption]
          show (match t.makeSound ready.beeper.history.length with | some c => _ | none => _) = _
          cases t.makeSound ready.beeper.history.length with
          | some complaint =>
              simp only [List.append_nil]
              rfl
          | none =>
              simp only [List.append_nil, ending, Call.wide, kept]
              rfl

theorem run_start (standard : b.Standard) (imports : b.audio = .opened false → t.missing = none) :
    (start t).run b.wide = ending (b.start t) := by
  have asked : (start t).run b.wide =
      (ensureMixer t >>= fun ready => if ready then playTone t else pure ()).run b.started.wide :=
    rfl
  have audio' : b.started.audio = b.audio := rfl
  rw [asked, EStateM.run_bind, run_ensureMixer, Beeper.start, ← started]
  cases audio : b.audio with
  | disabled =>
      rw [audio] at audio'
      simp only [ensureChannel, Beeper.playTone, channelOpen, audio']
      rfl
  | opened soundMade =>
      rw [audio] at audio'
      have opened : b.started.channelOpen = true := by rw [channelOpen, audio']
      simp only [ensureChannel, audio', opened]
      exact run_playTone (b := b.started) standard rfl opened imports
  | unopened =>
      rw [audio] at audio'
      rcases opening : openChannel t b.started.sampleRate with ⟨events, _ | complaint⟩
      · simp only [ensureChannel, audio', opening]
        exact run_playTone (b := { b.started with audio := .opened false }) standard rfl rfl
          fun _ => missing_of_openChannel opening
      · simp only [ensureChannel, Beeper.playTone, channelOpen, audio', opening, List.append_nil]
        rfl

theorem run_stop (b : Beeper) : stop.run b.wide = ending b.stop := by
  obtain ⟨sampleRate, frequency, volume, audio, playing, history⟩ := b
  cases audio <;> rfl

theorem run_setVolume (b : Beeper) (v : Volume) :
    (setVolume v).run b.wide = ending (b.setVolume v) := by
  obtain ⟨sampleRate, frequency, volume, audio, playing, history⟩ := b
  cases audio <;> rfl

/-- Whatever is asked of the two beepers, they do the same. -/
theorem run_serve (standard : b.Standard) (imports : b.audio = .opened false → t.missing = none)
    (request : Request) : (serve t request).run b.wide = ending (b.serve t request) := by
  cases request with
  | start => exact run_start standard imports
  | stop => exact run_stop b
  | setVolume v => exact run_setVolume b v
  | update active =>
      have asked : (update t active).run b.wide =
          (if active && !b.playing then start t
            else if !active && b.playing then stop else pure ()).run b.wide := by
        obtain ⟨sampleRate, frequency, volume, audio, playing, history⟩ := b
        cases active <;> cases playing <;> rfl
      rw [serve, asked, Beeper.serve, Beeper.update]
      split
      · exact run_start standard imports
      · split
        · exact run_stop b
        · rfl

theorem call_wide {c : Call} (standard : c.beeper.Standard)
    (imports : c.beeper.audio = .opened false → t.missing = none) (request : Request) :
    c.wide.call t request =
      ((c.beeper.serve t request).wide, (c.beeper.serve t request).failure.map .failure) := by
  have cleared : { c.wide with told := [], printed := [] } = c.beeper.wide := rfl
  rw [call, cleared, run_serve standard imports request, ending]
  cases (c.beeper.serve t request).failure <;> rfl

end WideBeeper

end Chip8
