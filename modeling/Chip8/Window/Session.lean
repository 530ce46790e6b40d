import Chip8.Window.Console
import Chip8.Window.Options

/-!
# A session at the window

A session is a sequence of frames. Each frame handles the events that have come in, steps the
machine once, tells the beeper whether to sound, and shows the screen. A frame in which the player
quits takes no step and is the last, and so is a frame whose step faults. After the last frame the
tone is stopped and the toolkit ended. When the toolkit refuses a window or a sound the session
breaks off where it is.
-/

namespace Chip8.Window

/-- An event of the host. Events of other kinds have no effect. -/
inductive Input
  | keyDown (code : Int)
  | keyUp (code : Int)
  | close
  | other
  deriving DecidableEq, Repr

/-- A session so far: the console, what the toolkit was told, and the lines written. -/
structure Session where
  console : Console
  log : Array ToolkitEvent := #[]
  output : Array String := #[]
  complaints : Array String := #[]

inductive Progress
  | going
  | quit
  | faulted
  /-- The toolkit refused something. -/
  | broken (complaint : String)
  deriving DecidableEq, Repr

namespace Session

def tell (s : Session) (events : List ToolkitEvent) : Session := { s with log := s.log ++ events }

def windowSize (s : Session) (scale : Nat) : Nat × Nat :=
  (64 * scale, 32 * scale + s.console.overlay.extraHeight)

def openWindow (s : Session) (t : Toolkit) (scale : Nat) : Session × Progress :=
  let (width, height) := s.windowSize scale
  let asked := s.tell [.windowRequested width height]
  match t.openWindow with
  | some complaint => (asked, .broken complaint)
  | none => (asked, .going)

def showTitle (s : Session) : Session := s.tell [.captioned s.console.machine.windowTitle]

/-! ### Events -/

/-- A key that goes down acts as a control first and as a key of the pad then. -/
def keyDown (s : Session) (t : Toolkit) (scale : Nat) (code : Int) : Session × Progress :=
  let controlled := s.console.handleControl code
  let acted := { s with console := controlled.console }.tell controlled.events
  let (resized, progress) := if controlled.resize then acted.openWindow t scale else (acted, .going)
  match progress with
  | .going => ({ resized with console := resized.console.handleKey code true }, .going)
  | _ => (resized, progress)

def handle (s : Session) (t : Toolkit) (scale : Nat) : Input → Session × Progress
  | .keyDown code => s.keyDown t scale code
  | .keyUp code => ({ s with console := s.console.handleKey code false }, .going)
  | .close =>
      ({ s with console := { s.console with machine := s.console.machine.quit } }, .going)
  | .other => (s, .going)

/-- Handles all events, also those after the player has quit. -/
def handleAll (s : Session) (t : Toolkit) (scale : Nat) : List Input → Session × Progress
  | [] => (s, .going)
  | input :: rest =>
      match s.handle t scale input with
      | (next, .going) => next.handleAll t scale rest
      | broken => broken

/-! ### One frame -/

def stepMachine (s : Session) : Session × Progress :=
  let stepped := s.console.machine.step
  let after := { s with
    console := { s.console with machine := stepped.machine }
    output := s.output ++ stepped.line.toList }
  match stepped.outcome with
  | .ok _ => (after, .going)
  | .error fault =>
      ({ after with
          console := { after.console with machine := after.console.machine.quit }
          complaints := after.complaints.push ("Execution stopped: " ++ fault.message) },
        .faulted)

/-- Starts or stops the tone: it sounds while the sound timer runs and the machine is running. -/
def updateBeeper (s : Session) (t : Toolkit) : Session × Progress :=
  let machine := s.console.machine
  let call := s.console.beeper.update t (machine.soundActive && machine.runState = .running)
  let updated := { s with
    console := { s.console with beeper := call.beeper }
    output := s.output ++ call.printed }.tell call.events
  match call.failure with
  | some failure => (updated, .broken failure.message)
  | none => (updated, .going)

/-- What is drawn in a frame: the background, the screen and the keypad over it. -/
def picture (s : Session) (settings : Settings) : List ToolkitEvent :=
  let core := s.console.machine.core
  let surface := core.screen.surface settings.scale settings.fg settings.bg
  [.filled .window { color := settings.bg.withoutAlpha }] ++ surface.events ++ [.copied 0 0]
    ++ (s.console.overlay.fills core.keypad).map (.filled .window)

def present (s : Session) (settings : Settings) : Session :=
  s.tell (s.picture settings ++ [.flipped, .paced settings.fps])

/-- Continues with the next part of a frame if the last one let it go on. -/
def andThen (part : Session × Progress) (next : Session → Session × Progress) :
    Session × Progress :=
  match part with
  | (s, .going) => next s
  | stopped => stopped

def checkQuit (s : Session) : Session × Progress :=
  if s.console.machine.runState = .quit then (s, .quit) else (s, .going)

def frame (s : Session) (t : Toolkit) (settings : Settings) (number : Nat) (inputs : List Input) :
    Session × Progress :=
  andThen ((s.tell [.polled number]).handleAll t settings.scale inputs) fun s =>
  andThen s.checkQuit fun s =>
  andThen s.stepMachine fun s =>
  andThen (s.updateBeeper t) fun s =>
    (s.showTitle.present settings, .going)

/-! ### The session -/

/-- The frames with these events, and then one in which the window is closed. -/
def frames (s : Session) (t : Toolkit) (settings : Settings) (number : Nat) :
    List (List Input) → Session × Progress
  | [] => s.frame t settings number [.close]
  | inputs :: rest =>
      andThen (s.frame t settings number inputs) fun s => s.frames t settings (number + 1) rest

def finish (s : Session) : Session :=
  let beeper := s.console.beeper
  let stopped :=
    if beeper.playing then
      { s with console := { s.console with beeper := beeper.stop.beeper } }.tell beeper.stop.events
    else s
  stopped.tell [.ended]

def begin (settings : Settings) (machine : Machine) : Session where
  console :=
    { machine
      overlay :=
        { scale := settings.scale, visible := settings.keypad, scale_pos := settings.scale_pos }
      beeper := .new 44100 440 machine.volume settings.audio }

/-- A whole session: the state it ends in and how it came to an end. -/
def run (t : Toolkit) (settings : Settings) (machine : Machine) (inputs : List (List Input)) :
    Session × Progress :=
  let opened := ((begin settings machine).tell [.started]).openWindow t settings.scale
  let ended := andThen opened fun s => s.showTitle.frames t settings 0 inputs
  match ended with
  | (s, .broken complaint) => (s, .broken complaint)
  | (s, progress) => (s.finish, progress)

end Session

end Chip8.Window
