import Chip8.Core
import Chip8.Instruction

/-!
# The effect of each instruction

`execute` is applied after the program counter has moved past the instruction, so a skip adds two
once more and a wait takes two back. Where an instruction writes both the flag register and its
destination, the operands are read first and the destination is written last: with `VF` as the
destination the result stays and the flag is lost.
-/

namespace Chip8

inductive FaultReason
  | stackOverflow
  | stackUnderflow
  deriving DecidableEq, Repr

def FaultReason.message : FaultReason → String
  | .stackOverflow => "stack overflow"
  | .stackUnderflow => "stack underflow"

namespace Core

def skipIf (c : Core) (condition : Bool) : Core :=
  if condition then { c with pc := c.pc + 2 } else c

/-- Writes the flag, then the result. -/
def setFlagged (c : Core) (x : Fin 16) (on : Bool) (result : UInt8) : Core :=
  (c.setFlag on).setReg x result

/-- The decimal digits of a byte, hundreds first. -/
def decimalDigits (byte : UInt8) : List UInt8 := [byte / 100, byte / 10 % 10, byte % 10]

/-- Waits by going back to the instruction until a key is held. -/
def awaitKey (c : Core) (x : Fin 16) : Core :=
  match c.keypad.firstPressed with
  | some key => c.setReg x (UInt8.ofNat key.val)
  | none => { c with pc := c.pc - 2, waiting := true }

def drawSprite (c : Core) (x y rows : Fin 16) : Core :=
  let sprite := (c.memory.loadBlock c.index.toNat rows.val).map fun b => (b.toNat : Int)
  let (screen, collision) := c.screen.draw (c.reg x).toNat (c.reg y).toNat sprite
  { c with screen }.setFlag collision

/-- Registers `V0` to `Vx`. -/
def lowRegisters (c : Core) (x : Fin 16) : List UInt8 := c.v.toList.take (x.val + 1)

def loadRegisters (c : Core) (x : Fin 16) : Core :=
  { c with v := Vector.ofFn fun k : Fin 16 =>
      if k ≤ x then c.memory.load (c.index.toNat + k.val : Nat) else c.reg k }

def execute (c : Core) : Instruction → Except FaultReason Core
  | .cls => .ok { c with screen := .blank 64 32 }
  | .ret =>
      match c.stack.pop? with
      | some (pc, stack) => .ok { c with pc, stack }
      | none => .error .stackUnderflow
  | .jp target => .ok { c with pc := target }
  | .call target =>
      match c.stack.push? c.pc with
      | some stack => .ok { c with stack, pc := target }
      | none => .error .stackOverflow
  | .seByte x byte => .ok (c.skipIf (c.reg x = byte))
  | .sneByte x byte => .ok (c.skipIf (c.reg x ≠ byte))
  | .seReg x y => .ok (c.skipIf (c.reg x = c.reg y))
  | .sneReg x y => .ok (c.skipIf (c.reg x ≠ c.reg y))
  | .ldByte x byte => .ok (c.setReg x byte)
  | .addByte x byte => .ok (c.setReg x (c.reg x + byte))
  | .ldReg x y => .ok (c.setReg x (c.reg y))
  | .or x y => .ok (c.setReg x (c.reg x ||| c.reg y))
  | .and x y => .ok (c.setReg x (c.reg x &&& c.reg y))
  | .xor x y => .ok (c.setReg x (c.reg x ^^^ c.reg y))
  | .addReg x y =>
      .ok (c.setFlagged x ((c.reg x).toNat + (c.reg y).toNat > 255) (c.reg x + c.reg y))
  | .sub x y => .ok (c.setFlagged x (c.reg x ≥ c.reg y) (c.reg x - c.reg y))
  | .subn x y => .ok (c.setFlagged x (c.reg y ≥ c.reg x) (c.reg y - c.reg x))
  | .shr x => .ok (c.setFlagged x (c.reg x % 2 = 1) (c.reg x / 2))
  | .shl x => .ok (c.setFlagged x (c.reg x ≥ 128) (c.reg x * 2))
  | .ldI address => .ok { c with index := address }
  | .jpV0 base => .ok { c with pc := base + (c.reg 0).toUInt16 }
  | .rnd x mask =>
      let (byte, random) := c.random.next
      .ok ({ c with random }.setReg x (byte &&& mask))
  | .drw x y rows => .ok (c.drawSprite x y rows)
  | .skp x => .ok (c.skipIf (c.keypad.isPressed (c.reg x).toNat))
  | .sknp x => .ok (c.skipIf (c.reg x < 16 && !c.keypad.isPressed (c.reg x).toNat))
  | .ldVxDt x => .ok (c.setReg x c.delay)
  | .ldVxK x => .ok (c.awaitKey x)
  | .ldDtVx x => .ok { c with delay := c.reg x }
  | .ldStVx x => .ok { c with sound := c.reg x }
  | .addI x => .ok { c with index := c.index + (c.reg x).toUInt16 }
  | .ldF x => .ok { c with index := Memory.glyphAddress (c.reg x) }
  | .ldB x => .ok { c with memory := c.memory.setBlock c.index.toNat (decimalDigits (c.reg x)) }
  | .store x => .ok { c with memory := c.memory.setBlock c.index.toNat (c.lowRegisters x) }
  | .load x => .ok (c.loadRegisters x)
  | .unknown _ => .ok c

end Core

end Chip8
