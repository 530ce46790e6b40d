import Chip8.Instruction

/-!
# Decoding, read backwards

Which words decode to the two instructions that use the call stack, and how large an address operand
can be. An address is the low twelve bits of its word, so an instruction that jumps or loads an
index register names one of the 4096 cells of memory.
-/

namespace Chip8

/-- The address operand of an instruction, if it has one. -/
def Instruction.address? : Instruction → Option UInt16
  | .jp target | .call target => some target
  | .ldI address => some address
  | .jpV0 base => some base
  | _ => none

namespace Opcode

theorem nnn_lt (o : Opcode) : o.nnn.toNat < 4096 := by
  rw [toNat_nnn]
  exact Nat.mod_lt _ (by decide)

/-! ### The two large families

Neither of them holds an instruction with an address or one that uses the stack. -/

theorem decodeArithmetic_address? (o : Opcode) : o.decodeArithmetic.address? = none := by
  unfold decodeArithmetic
  split <;> rfl

theorem decodeMisc_address? (o : Opcode) : o.decodeMisc.address? = none := by
  unfold decodeMisc
  split <;> rfl

theorem decodeArithmetic_ne_ret (o : Opcode) : o.decodeArithmetic ≠ .ret := by
  unfold decodeArithmetic
  split <;> simp

theorem decodeMisc_ne_ret (o : Opcode) : o.decodeMisc ≠ .ret := by
  unfold decodeMisc
  split <;> simp

/-! ### Words -/

theorem address?_decode_lt {o : Opcode} {a : UInt16} (h : o.decode.address? = some a) :
    a.toNat < 4096 := by
  suffices o.decode.address? = none ∨ o.decode.address? = some o.nnn by
    rcases this with hnone | hsome
    · rw [hnone] at h
      cases h
    · rw [hsome] at h
      obtain rfl := Option.some.inj h
      exact o.nnn_lt
  unfold decode
  split <;> (try split) <;> (try split) <;>
    first
    | exact .inr rfl
    | exact .inl rfl
    | exact .inl o.decodeArithmetic_address?
    | exact .inl o.decodeMisc_address?

theorem decode_eq_ret_iff (o : Opcode) : o.decode = .ret ↔ o.word = 0x00EE := by
  constructor
  · intro h
    unfold decode at h
    split at h
    all_goals try split at h
    all_goals try split at h
    all_goals first
      | assumption
      | cases h
      | exact absurd h o.decodeArithmetic_ne_ret
      | exact absurd h o.decodeMisc_ne_ret
  · intro h
    obtain ⟨word⟩ := o
    subst h
    rfl

theorem decode_eq_call_iff (o : Opcode) (target : UInt16) :
    o.decode = .call target ↔ o.family = 2 ∧ target = o.nnn := by
  constructor
  · intro h
    unfold decode at h
    split at h
    all_goals try split at h
    all_goals try split at h
    all_goals first
      | exact ⟨by assumption, (Instruction.call.inj h).symm⟩
      | cases h
      | (have none := o.decodeArithmetic_address?; rw [h] at none; cases none)
      | (have none := o.decodeMisc_address?; rw [h] at none; cases none)
  · rintro ⟨hfamily, rfl⟩
    unfold decode
    rw [hfamily]
    rfl

/-! ### Words whose digits are known -/

theorem fields_of_digits {o : Opcode} {family n : Nat} {x y : Fin 16} (small : n < 16)
    (h : o.word.toNat = 4096 * family + 256 * x.val + 16 * y.val + n) :
    o.family = family ∧ o.x = x ∧ o.y = y ∧ o.n.val = n := by
  refine ⟨?_, Fin.ext ?_, Fin.ext ?_, ?_⟩
  all_goals
    simp only [Opcode.family, Opcode.x, Opcode.y, Opcode.n, h]
    omega

theorem decode_of_arithmetic {o : Opcode} {n : Nat} {x y : Fin 16} (small : n < 16)
    (h : o.word.toNat = 0x8000 + 256 * x.val + 16 * y.val + n) :
    o.decode = o.decodeArithmetic ∧ o.x = x ∧ o.y = y ∧ o.n.val = n := by
  have word : o.word.toNat = 4096 * 8 + 256 * x.val + 16 * y.val + n := h
  obtain ⟨family, fields⟩ := fields_of_digits small word
  exact ⟨by simp only [decode, family], fields⟩

theorem fields_of_byte {o : Opcode} {family : Nat} {x : Fin 16} {byte : UInt8}
    (h : o.word.toNat = 4096 * family + 256 * x.val + byte.toNat) :
    o.family = family ∧ o.x = x ∧ o.nn = byte := by
  have size := byte.toNat_lt
  refine ⟨?_, Fin.ext ?_, UInt8.toNat_inj.mp ?_⟩
  all_goals
    simp only [Opcode.family, Opcode.x, toNat_nn, h]
    omega

theorem decode_of_addByte {o : Opcode} {x : Fin 16} {byte : UInt8}
    (h : o.word.toNat = 0x7000 + 256 * x.val + byte.toNat) : o.decode = .addByte x byte := by
  have word : o.word.toNat = 4096 * 7 + 256 * x.val + byte.toNat := h
  obtain ⟨family, register, low⟩ := fields_of_byte word
  simp only [decode, family, register, low]

theorem decode_of_misc {o : Opcode} {x : Fin 16} (low : Nat) (small : low < 256)
    (h : o.word.toNat = 0xF000 + low + 256 * x.val) :
    o.decode = o.decodeMisc ∧ o.x = x ∧ o.nn.toNat = low := by
  have byte : (UInt8.ofNat low).toNat = low := UInt8.toNat_ofNat_of_lt' small
  have word : o.word.toNat = 4096 * 0xF + 256 * x.val + (UInt8.ofNat low).toNat := by omega
  obtain ⟨family, register, nn⟩ := fields_of_byte word
  exact ⟨by simp only [decode, family], register, by rw [nn, byte]⟩

theorem decode_of_ldVxK {o : Opcode} {x : Fin 16} (h : o.word.toNat = 0xF00A + 256 * x.val) :
    o.decode = .ldVxK x := by
  obtain ⟨decode, register, low⟩ := decode_of_misc 0x0A (by decide) h
  simp only [decode, decodeMisc, low, register]

end Opcode

end Chip8
