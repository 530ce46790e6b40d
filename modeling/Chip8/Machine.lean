import Chip8.Core.Step
import Chip8.Rom
import Chip8.Volume

/-!
# The machine

A machine is a core with a run state, a volume, the name of its program and the choice whether to
trace. Only a running machine steps. It can be paused and resumed until it is told to quit, which is
final. Traced steps each report one line: the address, the word, and the mnemonic or the reason of
the fault.
-/

namespace Chip8

inductive RunState
  | running
  | paused
  | quit
  deriving DecidableEq, Repr

def RunState.text : RunState → String
  | .running => "running"
  | .paused => "paused"
  | .quit => "quit"

structure Machine where
  core : Core
  runState : RunState := .running
  volume : Volume := .full
  romName : String := ""
  tracing : Bool := false

def StepResult.trace (r : StepResult) : String :=
  let address := Hex.text 4 r.address.toNat
  match r.opcode with
  | none => address ++ ": ---- " ++ r.status.text
  | some opcode =>
      address ++ ": " ++ opcode.text ++ " " ++ opcode.decode.mnemonic
        ++ (if r.status = .waitingForKey then " (waiting for key)" else "")

def Fault.trace (f : Fault) : String :=
  Hex.text 4 f.address.toNat ++ ": " ++ f.opcode.text ++ " " ++ f.reason.message

namespace Machine

/-- Steps, and frames of the window, per second. -/
def stepsPerSecond : Nat := 60

def initial (random : RandomBytes) : Machine where
  core := .initial random

/-! ### Programs -/

/-- Copies a program to the entry point and sets the program counter there. Nothing else is
reset. -/
def insert (m : Machine) (rom : Rom) : Machine :=
  { m with
    core := { m.core with
      memory := m.core.memory.setBlock Memory.entryPoint rom.data
      pc := UInt16.ofNat Memory.entryPoint }
    romName := rom.name }

/-- Loads an image, or refuses it if it does not fit. -/
def load (m : Machine) (name : String) (bytes : List UInt8) : Except RomTooLarge Machine :=
  (Rom.ofBytes name bytes).map m.insert

/-! ### Steps -/

structure Stepped where
  machine : Machine
  outcome : Except Fault StepResult
  /-- The trace line, if the machine traces and the step was taken. -/
  line : Option String

def traceLine : Except Fault StepResult → String
  | .ok result => result.trace
  | .error fault => fault.trace

/-- The report of a machine that is not running. -/
def restingStatus : RunState → Status
  | .quit => .stopped
  | _ => .paused

def step (m : Machine) : Stepped :=
  if m.runState = .running then
    let (core, outcome) := m.core.step
    ⟨{ m with core }, outcome, if m.tracing then some (traceLine outcome) else none⟩
  else
    ⟨m, .ok ⟨m.core.pc, none, restingStatus m.runState⟩, none⟩

def enableTrace (m : Machine) (on : Bool) : Machine := { m with tracing := on }

/-! ### Run state, keys and volume -/

def togglePause (m : Machine) : Machine :=
  match m.runState with
  | .running => { m with runState := .paused }
  | .paused => { m with runState := .running }
  | .quit => m

def quit (m : Machine) : Machine := { m with runState := .quit }

def setKey (m : Machine) (index : Int) (pressed : Bool) : Machine :=
  { m with core := { m.core with keypad := m.core.keypad.set index pressed } }

def keyPressed (m : Machine) (index : Int) : Bool := m.core.keypad.isPressed index

def adjustVolume (m : Machine) (delta : Float) : Machine :=
  { m with volume := m.volume.adjust delta }

def volumeUp (m : Machine) : Machine := { m with volume := m.volume.up }

def volumeDown (m : Machine) : Machine := { m with volume := m.volume.down }

/-! ### Views -/

def soundActive (m : Machine) : Bool := 0 < m.core.sound

def windowTitle (m : Machine) : String :=
  "CHIP-8 Emulator: " ++ m.romName ++ " " ++ m.runState.text

def readMemory (m : Machine) (address length : Int) : List UInt8 :=
  m.core.memory.loadBlock address length.toNat

end Machine

end Chip8
