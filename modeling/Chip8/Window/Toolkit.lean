import Chip8.Screen.Surface
import Chip8.Volume

/-!
# The window and audio toolkit

The front end shows its window and plays its tone through a toolkit that may be missing or may
refuse what it is asked for. What the front end does to the toolkit is a list of events; what the
toolkit may answer is a record. A request for a window or for the mixer is an event even when it is
refused, while a channel or a sound is one only when it comes about.

A refusal is a runtime error that the toolkit raises at the request, of the kind that the front end
reports, and its complaint is the error's text. Only what has a field of `Toolkit` may be refused:
to set a channel's volume, to play a sound on it and to stop it never are. A missing toolkit is not
a refusal. It fails where it is looked for, with an error of another kind.
-/

namespace Chip8

inductive Target
  | window
  | surface
  deriving DecidableEq, Repr

inductive ToolkitEvent
  | started
  | ended
  | windowRequested (width height : Nat)
  | captioned (text : String)
  /-- The events of a frame were asked for, the first frame being number 0. -/
  | polled (frame : Nat)
  | flipped
  | paced (framesPerSecond : Nat)
  | surfaceMade (width height : Nat)
  | filled (target : Target) (fill : Fill)
  /-- A surface was copied into the window. -/
  | copied (x y : Nat)
  | mixerRequested (frequency sampleSize channels : Int)
  | channelOpened (index : Nat)
  | soundMade (samples : List Int)
  | channelVolume (v : Volume)
  /-- The sound plays, repeated that many times, for ever if negative. -/
  | played (loops : Int)
  | silenced
  deriving DecidableEq

/-- How the toolkit answers. A text is the complaint of a request that is refused, and what has no
field here is never refused. -/
structure Toolkit where
  /-- The complaint when the toolkit is not there at all. -/
  missing : Option String := none
  /-- Whether the mixer is open before anyone asked for it. -/
  mixerOpen : Except String Bool := .ok false
  openMixer : Option String := none
  openChannel : Option String := none
  /-- Asked by the number of things that the beeper has done so far, so that two requests may be
  answered differently. -/
  makeSound : Nat → Option String := fun _ => none
  openWindow : Option String := none

/-- A toolkit that refuses nothing. -/
def Toolkit.Willing (t : Toolkit) : Prop :=
  t.missing = none ∧ (∃ isOpen, t.mixerOpen = .ok isOpen) ∧ t.openMixer = none ∧
    t.openChannel = none ∧ (∀ n, t.makeSound n = none) ∧ t.openWindow = none

def Surface.events (s : Surface) : List ToolkitEvent :=
  .surfaceMade s.width s.height :: s.fills.map (.filled .surface)

inductive SurfaceError
  | scaleNotPositive
  | noToolkit
  deriving DecidableEq, Repr

def SurfaceError.message : SurfaceError → String
  | .scaleNotPositive => "scaling factor must be positive"
  | .noToolkit => "pygame is required for render_pygame_surface"

/-- The screen as a surface of the toolkit. The scale is checked before the toolkit is needed. -/
def Toolkit.surface? (t : Toolkit) {width height : Nat} (s : Screen width height) (scale : Int)
    (fg bg : Color) : Except SurfaceError Surface :=
  if scale ≤ 0 then .error .scaleNotPositive
  else if t.missing.isSome then .error .noToolkit
  else .ok (s.surface scale.toNat fg bg)

end Chip8
