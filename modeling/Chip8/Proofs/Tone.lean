import Chip8.Audio.Beeper

/-!
# Every phase of the default tone is a number

A product, a quotient or a conversion of doubles is infinite only when the exponent of its last bit
passes 971. `UpTo top` bounds that exponent. Rounding raises a bound by at most one, so the bound of
a phase is the sum of what its factors add, far below 971 for the default tone. The sine itself need
not be looked into: it is asked of a number, and so answers.
-/

open Float.Model Float.Model.UnpackedFloat

namespace Chip8

namespace Double

/-! ### Bits -/

theorem log2_le_log2 {m n : Nat} (le : m ≤ n) : m.log2 ≤ n.log2 := by
  rcases Nat.eq_zero_or_pos m with rfl | pos
  · simp
  · have floor := Nat.log2_self_le (n := m) (by omega)
    exact (Nat.le_log2 (by omega)).mpr (by omega)

theorem log2_le_of_lt {n k : Nat} (lt : n < Nat.pow 2 (k + 1)) : n.log2 ≤ k := by
  rcases Nat.eq_zero_or_pos n with rfl | pos
  · simp
  · exact Nat.le_of_lt_succ ((Nat.log2_lt (by omega)).mpr lt)

theorem log2_half (n : Nat) : (n / 2).log2 = n.log2 - 1 := by
  rw [Nat.log2_def n]
  split
  · omega
  · have : n / 2 = 0 := by omega
    simp [this]

theorem log2_succ_le (n : Nat) : (n + 1).log2 ≤ n.log2 + 1 := by
  have top := Nat.lt_log2_self (n := n)
  have next : n + 1 < 2 ^ (n.log2 + 1 + 1) := by
    rw [Nat.pow_succ]
    omega
  exact log2_le_of_lt next

theorem log2_mul_le (m n : Nat) : (m * n).log2 ≤ m.log2 + n.log2 + 1 := by
  have topM := Nat.lt_log2_self (n := m)
  have topN := Nat.lt_log2_self (n := n)
  have product := Nat.mul_lt_mul_of_lt_of_lt topM topN
  rw [← Nat.pow_add, show m.log2 + 1 + (n.log2 + 1) = m.log2 + n.log2 + 1 + 1 by omega] at product
  exact log2_le_of_lt product

theorem log2_shiftLeft_le (n s : Nat) : (n <<< s).log2 ≤ n.log2 + s := by
  induction s with
  | zero => simp
  | succ s ih =>
      rw [Nat.shiftLeft_succ]
      have half := log2_half (2 * (n <<< s))
      rw [Nat.mul_div_cancel_left _ (by decide)] at half
      omega

theorem log2_shiftRight (em : ExtendedMantissa) (s : Nat) :
    (em >>> s).mantissa.log2 = em.mantissa.log2 - s := by
  induction s with
  | zero => rfl
  | succ s ih =>
      have halved : (em >>> (s + 1)).mantissa = (em >>> s).mantissa / 2 := rfl
      rw [halved, log2_half, ih]
      omega

theorem log2_roundedMantissa_le (em : ExtendedMantissa) :
    em.roundedMantissa.log2 ≤ em.mantissa.log2 + 1 := by
  have close : em.roundedMantissa ≤ em.mantissa + 1 := by
    obtain ⟨m, roundBit, stickyBit⟩ := em
    cases roundBit <;> cases stickyBit <;>
      simp only [ExtendedMantissa.roundedMantissa, ExtendedMantissa.accuracy,
        Accuracy.roundToNearestEven] <;> omega
  exact Nat.le_trans (log2_le_log2 close) (log2_succ_le _)

/-! ### Rounding -/

/-- Zero, or a number of at most 53 bits the last of which is worth at most `2 ^ top`. -/
def UpTo (top : Int) : UnpackedFloat → Prop
  | .zero _ => True
  | .finite _ mantissa exponent _ => mantissa.log2 ≤ 52 ∧ exponent ≤ top
  | .infinity _ | .notANumber => False

instance (top : Int) : DecidablePred (UpTo top)
  | .zero _ => .isTrue trivial
  | .finite _ mantissa exponent _ =>
      inferInstanceAs (Decidable (mantissa.log2 ≤ 52 ∧ exponent ≤ top))
  | .infinity _ | .notANumber => .isFalse id

theorem shiftToTargetExponent_spec (mantissa : Nat) (exponent : Int) (accuracy : Accuracy) :
    let shifted := shiftToTargetExponent Format.binary64 mantissa exponent accuracy
    shifted.1.mantissa.log2 ≤ 52 ∧
      shifted.2 = max exponent (max (mantissa.log2 + 1 + exponent - 53) (-1074)) := by
  have target : Format.binary64.targetExponent (totalExponent mantissa exponent)
      = max (mantissa.log2 + 1 + exponent - 53) (-1074) := rfl
  have start : (ExtendedMantissa.ofMantissaAndAccuracy mantissa accuracy).mantissa = mantissa := by
    cases accuracy with
    | exact => rfl
    | inexact side => cases side <;> rfl
  simp only [shiftToTargetExponent, shiftToExponent, target, log2_shiftRight, start]
  omega

theorem upTo_roundWithAccuracy {top : Int} {mantissa : Nat} {exponent : Int} (sign : Sign)
    (accuracy : Accuracy) (low : -1074 ≤ top) (exponentLe : exponent ≤ top)
    (bitsLe : mantissa.log2 + 1 + exponent ≤ top + 53) :
    UpTo (top + 1) (roundWithAccuracy Format.binary64 sign mantissa exponent accuracy) := by
  have first := shiftToTargetExponent_spec mantissa exponent accuracy
  unfold roundWithAccuracy
  dsimp only
  generalize shiftToTargetExponent Format.binary64 mantissa exponent accuracy = shifted at first ⊢
  have carry := log2_roundedMantissa_le shifted.1
  have second := shiftToTargetExponent_spec shifted.1.roundedMantissa shifted.2 .exact
  generalize shiftToTargetExponent Format.binary64 shifted.1.roundedMantissa shifted.2 .exact
    = final at second ⊢
  by_cases zero : final.1.mantissa = 0
  · rw [dif_pos zero]
    trivial
  · rw [dif_neg zero]
    exact ⟨second.1, by omega⟩

/-! ### Packing -/

/-- The eleven bits of an exponent are all ones in what is not a number, and only there. -/
theorem upTo_unpack {top : Int} {word : BitVec 64} (low : -1074 ≤ top)
    (notOnes : (@unpackExponent Format.binary64 word).toNat < 2047)
    (exponentLe : ((@unpackExponent Format.binary64 word).toNat : Int) - 1075 ≤ top) :
    UpTo top (UnpackedFloat.unpack Format.binary64 word) := by
  have bits (w : Nat) (x : BitVec w) (narrow : w ≤ 53) : x.toNat.log2 ≤ 52 :=
    log2_le_of_lt (Nat.lt_of_lt_of_le x.isLt (Nat.pow_le_pow_right (by decide) narrow))
  have bias : (Format.binary64.exponentBias : Int) + (52 : Nat) = 1075 := by decide
  unfold UnpackedFloat.unpack
  dsimp only
  by_cases ones : @unpackExponent Format.binary64 word = -1#_
  · exact absurd notOnes (by rw [ones]; decide)
  · rw [if_neg ones]
    by_cases zero : @unpackExponent Format.binary64 word = 0#_
    · rw [if_pos zero]
      by_cases blank : @unpackMantissa Format.binary64 word = 0#_
      · rw [dif_pos blank]
        trivial
      · rw [dif_neg blank]
        have : (@unpackExponent Format.binary64 word).toNat = 0 := by rw [zero]; rfl
        exact ⟨bits 52 _ (by decide), by omega⟩
    · rw [if_neg zero]
      exact ⟨bits 53 _ (by decide), by omega⟩

theorem upTo_unpack_packComponents {top : Int} (sign : Sign) (exponent : BitVec 11)
    (mantissa : BitVec 52) (low : -1074 ≤ top) (notOnes : exponent.toNat < 2047)
    (exponentLe : (exponent.toNat : Int) - 1075 ≤ top) :
    UpTo top (UnpackedFloat.unpack Format.binary64
      (packComponents Format.binary64 sign exponent mantissa)) := by
  have field : @unpackExponent Format.binary64
      (packComponents Format.binary64 sign exponent mantissa) = exponent :=
    unpackExponent_packComponents
  exact upTo_unpack low (by rwa [field]) (by rwa [field])

theorem upTo_unpack_pack {top : Int} {u : UnpackedFloat} (upTo : UpTo top u) (low : -1074 ≤ top)
    (high : top ≤ 971) : UpTo top (pack u).unpack := by
  change UpTo top (UnpackedFloat.unpack Format.binary64 (UnpackedFloat.pack Format.binary64 u))
  unfold UnpackedFloat.pack
  cases u with
  | infinity => exact upTo.elim
  | notANumber => exact upTo.elim
  | zero sign =>
      exact upTo_unpack_packComponents sign 0 0 low (by decide) (by simp; omega)
  | finite sign mantissa exponent pos =>
      obtain ⟨-, exponentLe⟩ := upTo
      have bias : exponent + (Format.binary64.exponentBias : Int) + (52 : Nat)
          = exponent + 1075 := by
        have : (Format.binary64.exponentBias : Int) = 1023 := by decide
        omega
      dsimp only
      rw [bias, if_neg (by omega)]
      split
      · have small : (BitVec.ofNat 11 (exponent + 1075).toNat).toNat = (exponent + 1075).toNat := by
          rw [BitVec.toNat_ofNat, Nat.mod_eq_of_lt (by omega)]
        exact upTo_unpack_packComponents sign _ _ low (by omega) (by omega)
      · exact upTo_unpack_packComponents sign _ _ low (by decide) (by simp; omega)

/-! ### Arithmetic -/

/-- A number other than zero whose last bit is worth at least `2 ^ bottom`. -/
def DownTo (bottom : Int) : UnpackedFloat → Prop
  | .finite _ _ exponent _ => bottom ≤ exponent
  | .zero _ | .infinity _ | .notANumber => False

instance (bottom : Int) : DecidablePred (DownTo bottom)
  | .finite _ _ exponent _ => inferInstanceAs (Decidable (bottom ≤ exponent))
  | .zero _ | .infinity _ | .notANumber => .isFalse id

theorem upTo_mul {top top' : Int} {u w : UnpackedFloat} (upTo : UpTo top u) (upTo' : UpTo top' w)
    (low : -1074 ≤ top + top') : UpTo (top + top' + 54) (mul Format.binary64 u w) := by
  cases u with
  | infinity => exact upTo.elim
  | notANumber => exact upTo.elim
  | zero sign =>
      cases w with
      | infinity => exact upTo'.elim
      | notANumber => exact upTo'.elim
      | zero | finite => trivial
  | finite sign mantissa exponent pos =>
      cases w with
      | infinity => exact upTo'.elim
      | notANumber => exact upTo'.elim
      | zero => trivial
      | finite sign' mantissa' exponent' pos' =>
          obtain ⟨bits, exponentLe⟩ := upTo
          obtain ⟨bits', exponentLe'⟩ := upTo'
          have product := log2_mul_le mantissa mantissa'
          rw [show top + top' + 54 = top + top' + 53 + 1 by omega]
          exact upTo_roundWithAccuracy (sign * sign') .exact (by omega) (by omega) (by omega)

theorem upTo_div {top bottom : Int} {u w : UnpackedFloat} (upTo : UpTo top u)
    (downTo : DownTo bottom w) (low : -1074 ≤ top - bottom) :
    UpTo (top - bottom + 1) (div Format.binary64 u w) := by
  cases w with
  | infinity => exact downTo.elim
  | notANumber => exact downTo.elim
  | zero => exact downTo.elim
  | finite sign' mantissa' exponent' pos' =>
      cases u with
      | infinity => exact upTo.elim
      | notANumber => exact upTo.elim
      | zero => trivial
      | finite sign mantissa exponent pos =>
          obtain ⟨bits, exponentLe⟩ := upTo
          have exponentGe : bottom ≤ exponent' := downTo
          unfold UnpackedFloat.div divCore
          dsimp only
          generalize Format.targetExponent Format.binary64
            (totalExponent mantissa exponent - totalExponent mantissa' exponent') = target
          have shifted := log2_shiftLeft_le mantissa
            (exponent - exponent' - min (exponent - exponent') target).toNat
          have quotient := log2_le_log2 (Nat.div_le_self (mantissa <<<
            (exponent - exponent' - min (exponent - exponent') target).toNat) mantissa')
          exact upTo_roundWithAccuracy (sign / sign') _ low (by omega) (by omega)

theorem upTo_ofNat {n : Nat} (small : n.log2 ≤ 52) :
    UpTo 1 (UnpackedFloat.ofNat Format.binary64 n) := by
  rcases Nat.eq_zero_or_pos n with rfl | pos
  · trivial
  · have positive : compare (n : Int) 0 = .gt := Int.compare_eq_gt.mpr (by omega)
    simp only [UnpackedFloat.ofNat, UnpackedFloat.ofInt, UnpackedFloat.normalize, positive,
      UnpackedFloat.round, decreaseExponent, Int.toNat_natCast]
    generalize Format.targetExponent Format.binary64 (totalExponent n 0) = target
    have shifted := log2_shiftLeft_le n (0 - target).toNat
    have rounded {mantissa : Nat} {exponent : Int} (exponentLe : exponent ≤ 0)
        (bitsLe : mantissa.log2 + 1 + exponent ≤ 53) :=
      upTo_roundWithAccuracy .positive .exact (by decide) exponentLe bitsLe
    exact rounded (by omega) (by omega)

/-! ### Doubles -/

theorem upTo_mul_float {top top' : Int} {f g : Float} (upTo : UpTo top f.toModel.unpack)
    (upTo' : UpTo top' g.toModel.unpack) (low : -1074 ≤ top + top') (high : top + top' ≤ 917) :
    UpTo (top + top' + 54) (f * g).toModel.unpack :=
  upTo_unpack_pack (upTo_mul upTo upTo' low) (by omega) (by omega)

theorem upTo_div_float {top bottom : Int} {f g : Float} (upTo : UpTo top f.toModel.unpack)
    (downTo : DownTo bottom g.toModel.unpack) (low : -1074 ≤ top - bottom)
    (high : top - bottom ≤ 970) : UpTo (top - bottom + 1) (f / g).toModel.unpack :=
  upTo_unpack_pack (upTo_div upTo downTo low) (by omega) (by omega)

theorem upTo_ofNat_float {n : Nat} (small : n < 9007199254740992) :
    UpTo 3 (Float.ofNat n).toModel.unpack := by
  have word : n.toUInt64.toNat = n := Nat.mod_eq_of_lt (by omega)
  have bits : n.log2 ≤ 52 := log2_le_of_lt small
  have converted : UpTo 1 n.toUInt64.toFloat.toModel.unpack :=
    upTo_unpack_pack (u := UnpackedFloat.ofUInt64 Format.binary64 n.toUInt64)
      (by rw [UnpackedFloat.ofUInt64, word]; exact upTo_ofNat bits) (by decide) (by decide)
  -- a whole number is converted as a literal without an exponent: times ten to the power of 0
  have one : UpTo (-52) (Float.ofBits 0x3FF0000000000000).toModel.unpack := by decide +kernel
  have product := upTo_mul_float converted one (by decide) (by decide)
  have literal : Float.ofNat n = n.toUInt64.toFloat * Float.ofBits 0x3FF0000000000000 :=
    dif_pos ⟨small, by decide⟩
  rwa [literal]

theorem finite_of_upTo {top : Int} {f : Float} (upTo : UpTo top f.toModel.unpack) :
    ∃ negative significand exponent, ofFloat f = .finite negative significand exponent := by
  have field : (@unpackExponent Format.binary64 f.toBits.toBitVec).toNat
      = (f.toBits.toNat >>> 52) % 2048 := by
    simp [unpackExponent]
  rw [ofFloat, ofBits]
  by_cases ones : (f.toBits.toNat >>> 52) % 2048 = 2047
  · have notNumber : @unpackExponent Format.binary64 f.toBits.toBitVec = -1#_ :=
      BitVec.eq_of_toNat_eq (by rw [field, ones]; rfl)
    change UpTo top (UnpackedFloat.unpack Format.binary64 f.toBits.toBitVec) at upTo
    unfold UnpackedFloat.unpack at upTo
    rw [if_pos notNumber] at upTo
    split at upTo <;> exact upTo.elim
  · simp only [ones, if_false]
    split
    · exact ⟨_, _, _, rfl⟩
    · exact ⟨_, _, _, rfl⟩

end Double

/-! ### The default tone -/

namespace Tone

open Double

theorem sample?_default {k : Nat} (small : k < 9007199254740992) :
    ∃ sample, sample? 44100 440 k = .ok sample := by
  have factor : UpTo (-41) (2.0 * pi * 440).toModel.unpack := by decide +kernel
  have rate : DownTo (-37) (Float.ofInt 44100).toModel.unpack := by decide +kernel
  have phase := upTo_div_float
    (upTo_mul_float factor (upTo_ofNat_float small) (by decide) (by decide)) rate (by decide)
    (by decide)
  obtain ⟨negative, significand, exponent, finite⟩ := finite_of_upTo phase
  exact ⟨_, by rw [sample?, finite]⟩

theorem mapM_ok {α β ε : Type} {f : α → Except ε β} {l : List α}
    (each : ∀ a ∈ l, ∃ b, f a = .ok b) : ∃ bs, l.mapM f = .ok bs := by
  induction l with
  | nil => exact ⟨[], rfl⟩
  | cons a l ih =>
      obtain ⟨b, atHead⟩ := each a List.mem_cons_self
      obtain ⟨bs, inTail⟩ := ih fun a mem => each a (List.mem_cons_of_mem _ mem)
      exact ⟨b :: bs, by rw [List.mapM_cons, atHead, inTail]; rfl⟩

theorem samples?_ok {rate : Int} {frequency duration : Float} {length : Nat}
    (lengthOk : length? rate duration = .ok length)
    (each : ∀ k < length, ∃ sample, sample? rate frequency k = .ok sample) :
    ∃ samples, samples? rate frequency duration = .ok samples := by
  obtain ⟨samples, sampled⟩ := mapM_ok fun k mem => each k (List.mem_range.mp mem)
  exact ⟨samples, by rw [samples?, lengthOk]; exact sampled⟩

/-- The sound that a beeper repeats can always be made. -/
theorem samples?_default : ∃ samples, samples? 44100 440 Beeper.toneDuration = .ok samples := by
  have product : ofFloat (Float.ofInt 44100 * Beeper.toneDuration)
      = .finite false (44100 <<< 37) (-37) := by decide +kernel
  have length : length? 44100 Beeper.toneDuration = .ok 44100 := by
    rw [length?, product]
    rfl
  exact samples?_ok length fun k short => sample?_default (by omega)

end Tone

end Chip8
