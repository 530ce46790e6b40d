import Chip8.Instruction

/-!
# Mnemonics

The assembler text of an instruction, as the execution trace shows it: the operation, a space, and
the operands separated by a comma and a space. Registers are `V` and one digit, bytes two digits,
addresses three. A word that is no instruction shows its four digits.
-/

namespace Chip8.Instruction

def registerText (x : Fin 16) : String := "V" ++ Hex.text 1 x.val

def byteText (b : UInt8) : String := Hex.text 2 b.toNat

def addressText (a : UInt16) : String := Hex.text 3 a.toNat

def pair (name first second : String) : String := name ++ " " ++ first ++ ", " ++ second

def mnemonic : Instruction → String
  | cls => "CLS"
  | ret => "RET"
  | jp target => "JP " ++ addressText target
  | call target => "CALL " ++ addressText target
  | seByte x byte => pair "SE" (registerText x) (byteText byte)
  | sneByte x byte => pair "SNE" (registerText x) (byteText byte)
  | seReg x y => pair "SE" (registerText x) (registerText y)
  | ldByte x byte => pair "LD" (registerText x) (byteText byte)
  | addByte x byte => pair "ADD" (registerText x) (byteText byte)
  | ldReg x y => pair "LD" (registerText x) (registerText y)
  | or x y => pair "OR" (registerText x) (registerText y)
  | and x y => pair "AND" (registerText x) (registerText y)
  | xor x y => pair "XOR" (registerText x) (registerText y)
  | addReg x y => pair "ADD" (registerText x) (registerText y)
  | sub x y => pair "SUB" (registerText x) (registerText y)
  | shr x => "SHR " ++ registerText x
  | subn x y => pair "SUBN" (registerText x) (registerText y)
  | shl x => "SHL " ++ registerText x
  | sneReg x y => pair "SNE" (registerText x) (registerText y)
  | ldI address => pair "LD" "I" (addressText address)
  | jpV0 base => pair "JP" "V0" (addressText base)
  | rnd x mask => pair "RND" (registerText x) (byteText mask)
  | drw x y rows => pair "DRW" (registerText x) (registerText y) ++ ", " ++ Hex.text 1 rows.val
  | skp x => "SKP " ++ registerText x
  | sknp x => "SKNP " ++ registerText x
  | ldVxDt x => pair "LD" (registerText x) "DT"
  | ldVxK x => pair "LD" (registerText x) "K"
  | ldDtVx x => pair "LD" "DT" (registerText x)
  | ldStVx x => pair "LD" "ST" (registerText x)
  | addI x => pair "ADD" "I" (registerText x)
  | ldF x => pair "LD" "F" (registerText x)
  | ldB x => pair "LD" "B" (registerText x)
  | store x => pair "LD" "[I]" (registerText x)
  | load x => pair "LD" (registerText x) "[I]"
  | unknown opcode => "unknown opcode " ++ opcode.text

end Chip8.Instruction
