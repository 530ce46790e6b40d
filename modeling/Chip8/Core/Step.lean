import Chip8.Core.Execute
import Chip8.Instruction.Mnemonic

/-!
# One step of the core

A step fetches the word at the program counter, executes it and counts both timers down. When the
program counter has left memory nothing is fetched and only the timers run. A fault leaves the core
as it was before the step, apart from the waiting flag, which every step clears first.
-/

namespace Chip8

/-- How a step ended. The last two are steps that a machine at rest did not take. -/
inductive Status
  | executed
  | waitingForKey
  | unknownOpcode
  | halted
  | paused
  | stopped
  deriving DecidableEq, Repr

def Status.text : Status → String
  | .executed => "executed"
  | .waitingForKey => "waiting for key"
  | .unknownOpcode => "unknown opcode"
  | .halted => "halted"
  | .paused => "paused"
  | .stopped => "stopped"

/-- What a step did, where, and with which word if it fetched one. -/
structure StepResult where
  address : UInt16
  opcode : Option Opcode
  status : Status
  deriving DecidableEq

/-- An instruction that could not be carried out, with its address. -/
structure Fault where
  reason : FaultReason
  address : UInt16
  opcode : Opcode
  deriving DecidableEq

def Fault.message (f : Fault) : String :=
  f.reason.message ++ " at " ++ Hex.text 4 f.address.toNat ++ " (opcode " ++ f.opcode.text ++ ")"

namespace Core

/-- The first address past memory. -/
def memoryEnd : UInt16 := 0x1000

def statusAfter (after : Core) (i : Instruction) : Status :=
  if i.kind = .unknown then .unknownOpcode
  else if after.waiting then .waitingForKey
  else .executed

def step (c : Core) : Core × Except Fault StepResult :=
  let c := { c with waiting := false }
  if c.pc ≥ memoryEnd then
    (c.tick, .ok ⟨c.pc, none, .halted⟩)
  else
    let opcode := c.opcode
    match { c with pc := c.pc + 2 }.execute opcode.decode with
    | .error reason => (c, .error ⟨reason, c.pc, opcode⟩)
    | .ok after => (after.tick, .ok ⟨c.pc, some opcode, after.statusAfter opcode.decode⟩)

end Core

end Chip8
