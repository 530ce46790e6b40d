import Chip8.Opcode

/-!
# Instructions

The thirty-four instruction forms with their operands, and one form for every word that is none of
them. Each form has a pattern of four characters: a capital letter or a figure stands for that
digit, a lower-case letter for an operand digit.
-/

namespace Chip8

/-- The forms, named by their assembler mnemonics and operands. -/
inductive Kind
  | cls | ret | jp | call | seByte | sneByte | seReg | ldByte | addByte
  | ldReg | or | and | xor | addReg | sub | shr | subn | shl | sneReg
  | ldI | jpV0 | rnd | drw | skp | sknp
  | ldVxDt | ldVxK | ldDtVx | ldStVx | addI | ldF | ldB | store | load
  | unknown
  deriving DecidableEq, Repr

def Kind.pattern : Kind → String
  | .cls => "00E0"
  | .ret => "00EE"
  | .jp => "1nnn"
  | .call => "2nnn"
  | .seByte => "3xnn"
  | .sneByte => "4xnn"
  | .seReg => "5xy0"
  | .ldByte => "6xnn"
  | .addByte => "7xnn"
  | .ldReg => "8xy0"
  | .or => "8xy1"
  | .and => "8xy2"
  | .xor => "8xy3"
  | .addReg => "8xy4"
  | .sub => "8xy5"
  | .shr => "8xy6"
  | .subn => "8xy7"
  | .shl => "8xyE"
  | .sneReg => "9xy0"
  | .ldI => "Annn"
  | .jpV0 => "Bnnn"
  | .rnd => "Cxnn"
  | .drw => "Dxyn"
  | .skp => "Ex9E"
  | .sknp => "ExA1"
  | .ldVxDt => "Fx07"
  | .ldVxK => "Fx0A"
  | .ldDtVx => "Fx15"
  | .ldStVx => "Fx18"
  | .addI => "Fx1E"
  | .ldF => "Fx29"
  | .ldB => "Fx33"
  | .store => "Fx55"
  | .load => "Fx65"
  | .unknown => "????"

/-- An instruction with its operands. The shifts work on `x` alone, so their second register digit
is no operand. -/
inductive Instruction
  | cls
  | ret
  | jp (target : UInt16)
  | call (target : UInt16)
  | seByte (x : Fin 16) (byte : UInt8)
  | sneByte (x : Fin 16) (byte : UInt8)
  | seReg (x y : Fin 16)
  | ldByte (x : Fin 16) (byte : UInt8)
  | addByte (x : Fin 16) (byte : UInt8)
  | ldReg (x y : Fin 16)
  | or (x y : Fin 16)
  | and (x y : Fin 16)
  | xor (x y : Fin 16)
  | addReg (x y : Fin 16)
  | sub (x y : Fin 16)
  | shr (x : Fin 16)
  | subn (x y : Fin 16)
  | shl (x : Fin 16)
  | sneReg (x y : Fin 16)
  | ldI (address : UInt16)
  | jpV0 (base : UInt16)
  | rnd (x : Fin 16) (mask : UInt8)
  | drw (x y rows : Fin 16)
  | skp (x : Fin 16)
  | sknp (x : Fin 16)
  | ldVxDt (x : Fin 16)
  | ldVxK (x : Fin 16)
  | ldDtVx (x : Fin 16)
  | ldStVx (x : Fin 16)
  | addI (x : Fin 16)
  | ldF (x : Fin 16)
  | ldB (x : Fin 16)
  | store (x : Fin 16)
  | load (x : Fin 16)
  | unknown (opcode : Opcode)
  deriving DecidableEq

def Instruction.kind : Instruction → Kind
  | .cls => .cls
  | .ret => .ret
  | .jp _ => .jp
  | .call _ => .call
  | .seByte _ _ => .seByte
  | .sneByte _ _ => .sneByte
  | .seReg _ _ => .seReg
  | .ldByte _ _ => .ldByte
  | .addByte _ _ => .addByte
  | .ldReg _ _ => .ldReg
  | .or _ _ => .or
  | .and _ _ => .and
  | .xor _ _ => .xor
  | .addReg _ _ => .addReg
  | .sub _ _ => .sub
  | .shr _ => .shr
  | .subn _ _ => .subn
  | .shl _ => .shl
  | .sneReg _ _ => .sneReg
  | .ldI _ => .ldI
  | .jpV0 _ => .jpV0
  | .rnd _ _ => .rnd
  | .drw _ _ _ => .drw
  | .skp _ => .skp
  | .sknp _ => .sknp
  | .ldVxDt _ => .ldVxDt
  | .ldVxK _ => .ldVxK
  | .ldDtVx _ => .ldDtVx
  | .ldStVx _ => .ldStVx
  | .addI _ => .addI
  | .ldF _ => .ldF
  | .ldB _ => .ldB
  | .store _ => .store
  | .load _ => .load
  | .unknown _ => .unknown

/-- Family `8`: arithmetic between registers, told apart by the last digit. -/
def Opcode.decodeArithmetic (o : Opcode) : Instruction :=
  match o.n.val with
  | 0x0 => .ldReg o.x o.y
  | 0x1 => .or o.x o.y
  | 0x2 => .and o.x o.y
  | 0x3 => .xor o.x o.y
  | 0x4 => .addReg o.x o.y
  | 0x5 => .sub o.x o.y
  | 0x6 => .shr o.x
  | 0x7 => .subn o.x o.y
  | 0xE => .shl o.x
  | _ => .unknown o

/-- Family `F`: timers, keys and memory, told apart by the low byte. -/
def Opcode.decodeMisc (o : Opcode) : Instruction :=
  match o.nn.toNat with
  | 0x07 => .ldVxDt o.x
  | 0x0A => .ldVxK o.x
  | 0x15 => .ldDtVx o.x
  | 0x18 => .ldStVx o.x
  | 0x1E => .addI o.x
  | 0x29 => .ldF o.x
  | 0x33 => .ldB o.x
  | 0x55 => .store o.x
  | 0x65 => .load o.x
  | _ => .unknown o

def Opcode.decode (o : Opcode) : Instruction :=
  match o.family with
  | 0x0 => if o.word = 0x00E0 then .cls else if o.word = 0x00EE then .ret else .unknown o
  | 0x1 => .jp o.nnn
  | 0x2 => .call o.nnn
  | 0x3 => .seByte o.x o.nn
  | 0x4 => .sneByte o.x o.nn
  | 0x5 => if o.n.val = 0 then .seReg o.x o.y else .unknown o
  | 0x6 => .ldByte o.x o.nn
  | 0x7 => .addByte o.x o.nn
  | 0x8 => o.decodeArithmetic
  | 0x9 => if o.n.val = 0 then .sneReg o.x o.y else .unknown o
  | 0xA => .ldI o.nnn
  | 0xB => .jpV0 o.nnn
  | 0xC => .rnd o.x o.nn
  | 0xD => .drw o.x o.y o.n
  | 0xE => if o.nn = 0x9E then .skp o.x else if o.nn = 0xA1 then .sknp o.x else .unknown o
  | _ => o.decodeMisc

end Chip8
