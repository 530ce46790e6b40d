import Chip8.Audio.Tone
import Chip8.Window.Toolkit

/-!
# The beeper

The beeper plays a tone while the machine's sound timer runs. It opens the mixer's channel and makes
its sound at the first start and keeps both. A mixer that cannot be opened disables the audio for
good, and the beeper goes on without it: what it has been told to do stays in its history.

A start is recorded before the mixer is asked, so if the sound cannot be made the history already
holds the start and the beeper counts as playing.
-/

namespace Chip8

inductive BeeperEntry
  | start
  | stop
  | setVolume (v : Volume)
  deriving DecidableEq

/-- How far a beeper has come with the mixer. `Beeper.wide` spells each state out in the variables
that it stands for. -/
inductive AudioState
  | disabled
  /-- Enabled, and the mixer not asked yet. -/
  | unopened
  /-- The channel is open; `soundMade` tells whether there is a sound to play. -/
  | opened (soundMade : Bool)
  deriving DecidableEq, Repr

structure Beeper where
  sampleRate : Int := 44100
  frequency : Float := 440
  volume : Volume := .full
  audio : AudioState := .disabled
  playing : Bool := false
  history : List BeeperEntry := []

/-- Why a start did not come to an end. -/
inductive BeeperFailure
  | tone (e : Tone.Error)
  | toolkit (complaint : String)
  deriving DecidableEq, Repr

def BeeperFailure.message : BeeperFailure → String
  | .tone e => e.message
  | .toolkit complaint => complaint

namespace Beeper

/-- A fresh beeper; `audio` tells whether the mixer may be used. -/
def new (sampleRate : Int) (frequency : Float) (volume : Volume) (audio : Bool) : Beeper where
  sampleRate := sampleRate
  frequency := frequency
  volume := volume
  audio := if audio then .unopened else .disabled

def audioEnabled (b : Beeper) : Bool := b.audio ≠ .disabled

def channelOpen (b : Beeper) : Bool :=
  match b.audio with
  | .opened _ => true
  | _ => false

def record (b : Beeper) (entry : BeeperEntry) : Beeper := { b with history := b.history ++ [entry] }

/-- What a call left behind: the beeper, what the toolkit was told, the lines printed, and the
reason if the call was cut short. -/
structure Call where
  beeper : Beeper
  events : List ToolkitEvent := []
  printed : List String := []
  failure : Option BeeperFailure := none

/-! ### The mixer -/

/-- Opening the channel: what the toolkit was told, and its complaint if it refused. -/
def openChannel (t : Toolkit) (sampleRate : Int) : List ToolkitEvent × Option String :=
  match t.missing, t.mixerOpen with
  | some complaint, _ => ([], some complaint)
  | none, .error complaint => ([], some complaint)
  | none, .ok true => channel []
  | none, .ok false =>
      let request := [ToolkitEvent.mixerRequested sampleRate (-16) 1]
      match t.openMixer with
      | some complaint => (request, some complaint)
      | none => channel request
where
  channel (before : List ToolkitEvent) : List ToolkitEvent × Option String :=
    match t.openChannel with
    | some complaint => (before, some complaint)
    | none => (before ++ [.channelOpened 0], none)

/-- Makes sure that the channel is open, or disables the audio. -/
def ensureChannel (t : Toolkit) (b : Beeper) : Call :=
  match b.audio with
  | .disabled | .opened _ => { beeper := b }
  | .unopened =>
      match openChannel t b.sampleRate with
      | (events, none) => { beeper := { b with audio := .opened false }, events }
      | (events, some complaint) =>
          { beeper := { b with audio := .disabled }, events,
            printed := ["audio disabled: " ++ complaint] }

/-- Seconds of tone in the sound that is repeated. -/
def toneDuration : Float := 1.0

def tone? (b : Beeper) (duration : Float) : Except Tone.Error (List Int) :=
  Tone.samples? b.sampleRate b.frequency duration

def playTone (t : Toolkit) (b : Beeper) : Call :=
  let play : List ToolkitEvent := [.channelVolume b.volume, .played (-1)]
  match b.audio with
  | .disabled | .unopened => { beeper := b }
  | .opened true => { beeper := b, events := play }
  | .opened false =>
      match b.tone? toneDuration with
      | .error e => { beeper := b, failure := some (.tone e) }
      | .ok samples =>
          match t.makeSound b.history.length with
          | some complaint => { beeper := b, failure := some (.toolkit complaint) }
          | none =>
              { beeper := { b with audio := .opened true }, events := .soundMade samples :: play }

/-! ### Calls -/

def start (t : Toolkit) (b : Beeper) : Call :=
  let started := { b.record .start with playing := true }
  let ready := ensureChannel t started
  let played := playTone t ready.beeper
  { played with
    events := ready.events ++ played.events, printed := ready.printed ++ played.printed }

def stop (b : Beeper) : Call where
  beeper := { b.record .stop with playing := false }
  events := if b.channelOpen then [.silenced] else []

/-- Starts or stops the tone when `active` differs from what the beeper does. -/
def update (t : Toolkit) (b : Beeper) (active : Bool) : Call :=
  if active && !b.playing then b.start t
  else if !active && b.playing then b.stop
  else { beeper := b }

def setVolume (b : Beeper) (v : Volume) : Call where
  beeper := { b with volume := v }.record (.setVolume v)
  events := if b.channelOpen then [.channelVolume v] else []

end Beeper

end Chip8
