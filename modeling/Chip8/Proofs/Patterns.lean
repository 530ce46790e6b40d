import Chip8.Instruction

/-!
# Patterns and digits

A word is four digits, and the pattern of a form fixes some of them and leaves the others to the
operands. A word has the digits that the form it decodes to fixes. So to know the form and the
operands is to know the word.
-/

namespace Chip8

/-- The thirty-four forms, and the one for every other word. -/
def Kind.all : List Kind :=
  [.cls, .ret, .jp, .call, .seByte, .sneByte, .seReg, .ldByte, .addByte, .ldReg, .or, .and, .xor,
    .addReg, .sub, .shr, .subn, .shl, .sneReg, .ldI, .jpV0, .rnd, .drw, .skp, .sknp, .ldVxDt,
    .ldVxK, .ldDtVx, .ldStVx, .addI, .ldF, .ldB, .store, .load, .unknown]

theorem Kind.mem_all (k : Kind) : k ∈ all := by
  cases k <;> decide

/-- The places of a word, the most significant first. -/
inductive Place
  | family
  | x
  | y
  | n
  deriving DecidableEq

def Place.all : List Place := [.family, .x, .y, .n]

theorem Place.mem_all (p : Place) : p ∈ all := by
  cases p <;> decide

def Place.index : Place → Nat
  | .family => 0
  | .x => 1
  | .y => 2
  | .n => 3

/-- The digit that the pattern of a form fixes at a place, if it does not leave it to an operand. -/
def Kind.fixed? (k : Kind) (p : Place) : Option Nat :=
  k.pattern.toList[p.index]?.bind Hex.value?

namespace Opcode

variable (o : Opcode)

def digit (o : Opcode) : Place → Nat
  | .family => o.family
  | .x => o.x
  | .y => o.y
  | .n => o.n

theorem digit_lt (p : Place) : o.digit p < 16 := by
  cases p with
  | family =>
      have size := o.word.toNat_lt
      simp only [digit, family]
      omega
  | x => exact o.x.isLt
  | y => exact o.y.isLt
  | n => exact o.n.isLt

theorem toNat_word_eq_digits :
    o.word.toNat
      = 4096 * o.digit .family + 256 * o.digit .x + 16 * o.digit .y + o.digit .n := by
  have word := o.toNat_word
  have address := o.toNat_nnn_eq
  have byte := o.toNat_nn_eq
  simp only [digit]
  omega

theorem word_eq_of_digits {a b : Opcode} (same : ∀ p, a.digit p = b.digit p) :
    a.word = b.word := by
  apply UInt16.toNat_inj.mp
  simp only [toNat_word_eq_digits, same]

/-! ### Fixed digits -/

/-- The word has the digits that the form fixes. -/
def Fits (k : Kind) : Prop := ∀ p d, k.fixed? p = some d → o.digit p = d

theorem fits_iff (k : Kind) :
    o.Fits k ↔
      (∀ d, k.fixed? .family = some d → o.family = d) ∧ (∀ d, k.fixed? .x = some d → o.x = d) ∧
      (∀ d, k.fixed? .y = some d → o.y = d) ∧ (∀ d, k.fixed? .n = some d → o.n = d) := by
  constructor
  · exact fun fits => ⟨fits .family, fits .x, fits .y, fits .n⟩
  · rintro ⟨family, x, y, n⟩ (_ | _ | _ | _)
    · exact family
    · exact x
    · exact y
    · exact n

theorem fits_unknown : o.Fits .unknown := by
  simp [fits_iff, Kind.fixed?, Kind.pattern, Place.index, Hex.value?]

theorem fits_decodeArithmetic (family : o.family = 8) : o.Fits o.decodeArithmetic.kind := by
  unfold decodeArithmetic
  split
  all_goals
    rename_i last
    simp [fits_iff, Instruction.kind, Kind.fixed?, Kind.pattern, Place.index, Hex.value?,
      family, last]

theorem fits_decodeMisc (family : o.family = 15) : o.Fits o.decodeMisc.kind := by
  have low := o.toNat_nn_eq
  have last := o.n.isLt
  unfold decodeMisc
  split
  case h_10 => exact o.fits_unknown
  all_goals
    simp [fits_iff, Instruction.kind, Kind.fixed?, Kind.pattern, Place.index, Hex.value?, family]
    omega

theorem fits_cls (word : o.word = 0x00E0) : o.Fits .cls := by
  have value : o.word.toNat = 0x00E0 := congrArg UInt16.toNat word
  have digits : o.family = 0 ∧ o.x.val = 0 ∧ o.y.val = 0xE ∧ o.n.val = 0 := by
    simp only [family, x, y, n]
    omega
  simp [fits_iff, Kind.fixed?, Kind.pattern, Place.index, Hex.value?, digits]

theorem fits_ret (word : o.word = 0x00EE) : o.Fits .ret := by
  have value : o.word.toNat = 0x00EE := congrArg UInt16.toNat word
  have digits : o.family = 0 ∧ o.x.val = 0 ∧ o.y.val = 0xE ∧ o.n.val = 0xE := by
    simp only [family, x, y, n]
    omega
  simp [fits_iff, Kind.fixed?, Kind.pattern, Place.index, Hex.value?, digits]

theorem fits_decode : o.Fits o.decode.kind := by
  have low := o.toNat_nn_eq
  have last := o.n.isLt
  unfold decode
  split
  case h_1 =>
    split
    · exact o.fits_cls ‹_›
    · split
      · exact o.fits_ret ‹_›
      · exact o.fits_unknown
  case h_6 family | h_10 family =>
    split
    · rename_i zero
      simp [fits_iff, Instruction.kind, Kind.fixed?, Kind.pattern, Place.index, Hex.value?,
        family, zero]
    · exact o.fits_unknown
  case h_9 family => exact o.fits_decodeArithmetic family
  case h_15 family =>
    split
    · rename_i byte
      have value : 0x9E = 16 * o.y.val + o.n.val := by rw [← low, byte]; rfl
      simp [fits_iff, Instruction.kind, Kind.fixed?, Kind.pattern, Place.index, Hex.value?, family]
      omega
    · split
      · rename_i byte
        have value : 0xA1 = 16 * o.y.val + o.n.val := by rw [← low, byte]; rfl
        simp [fits_iff, Instruction.kind, Kind.fixed?, Kind.pattern, Place.index, Hex.value?,
          family]
        omega
      · exact o.fits_unknown
  case h_16 =>
    have size := o.digit_lt .family
    simp only [digit, imp_false] at *
    exact o.fits_decodeMisc (by omega)
  all_goals
    rename_i family
    simp [fits_iff, Instruction.kind, Kind.fixed?, Kind.pattern, Place.index, Hex.value?, family]

end Opcode

end Chip8
