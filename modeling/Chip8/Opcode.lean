import Chip8.Text.Hex

/-!
# Opcodes and their fields

An opcode is a 16-bit word. Its top four bits are the family; the rest is read either as one
address `nnn`, as a register `x` with a byte `nn`, or as two registers `x`, `y` with a nibble `n`.
-/

namespace Chip8

structure Opcode where
  word : UInt16
  deriving DecidableEq

namespace Opcode

/-- The opcode made of the low sixteen bits of a number. -/
def ofInt (n : Int) : Opcode := ⟨UInt16.ofInt n⟩

def family (o : Opcode) : Nat := o.word.toNat / 4096

def x (o : Opcode) : Fin 16 := ⟨o.word.toNat / 256 % 16, Nat.mod_lt _ (by decide)⟩

def y (o : Opcode) : Fin 16 := ⟨o.word.toNat / 16 % 16, Nat.mod_lt _ (by decide)⟩

def n (o : Opcode) : Fin 16 := ⟨o.word.toNat % 16, Nat.mod_lt _ (by decide)⟩

def nn (o : Opcode) : UInt8 := UInt8.ofNat o.word.toNat

def nnn (o : Opcode) : UInt16 := UInt16.ofNat (o.word.toNat % 4096)

def text (o : Opcode) : String := Hex.text 4 o.word.toNat

@[simp] theorem toNat_nn (o : Opcode) : o.nn.toNat = o.word.toNat % 256 := by
  simp [nn]

@[simp] theorem toNat_nnn (o : Opcode) : o.nnn.toNat = o.word.toNat % 4096 := by
  simp only [nnn, UInt16.toNat_ofNat']
  omega

theorem toNat_nnn_eq (o : Opcode) : o.nnn.toNat = 256 * o.x.val + o.nn.toNat := by
  simp only [toNat_nnn, toNat_nn, x]
  omega

theorem toNat_nn_eq (o : Opcode) : o.nn.toNat = 16 * o.y.val + o.n.val := by
  simp only [toNat_nn, y, n]
  omega

theorem toNat_word (o : Opcode) : o.word.toNat = 4096 * o.family + o.nnn.toNat := by
  simp only [toNat_nnn, family]
  omega

end Opcode

end Chip8
