import Chip8.Text.Hex
import Mathlib.Algebra.Group.Nat.Defs
import Mathlib.Data.List.Induction

/-!
# Digits of both cases and the numerals they make

A hexadecimal digit has the same value in either case. A text of digits is a numeral of one number:
as many of its digits as the text is long, none that counts being left out. So a number has numerals
of every length from some length on, with zeros in front, and reading a numeral gives its number
back (`read?_eq_some_iff`).
-/

namespace Chip8

/-- A fact about the characters of ASCII can be checked for one after the other. -/
theorem Text.of_ascii {P : Char → Prop} (each : ∀ n < 128, P (Char.ofNat n)) {c : Char}
    (ascii : c.toNat < 128) : P c :=
  Char.ofNat_toNat c ▸ each c.toNat ascii

namespace Hex

/-! ### Digits -/

/-- The sixteen digits, the last six of them in both cases. -/
def digitsOfBothCases : List Char := "0123456789ABCDEFabcdef".toList

theorem forall_mem_digitsOfBothCases {P : Char → Prop} [DecidablePred P]
    (each : digitsOfBothCases.all (fun c => P c) = true) : ∀ c ∈ digitsOfBothCases, P c :=
  fun c mem => of_decide_eq_true (List.all_eq_true.mp each c mem)

theorem toNat_lt_of_mem_digitsOfBothCases : ∀ c ∈ digitsOfBothCases, c.toNat < 128 :=
  forall_mem_digitsOfBothCases (by decide)

theorem value?_of_not_ascii {c : Char} (large : ¬ c.toNat < 128) : value? c = none := by
  have above (bound : Char) (small : bound.toNat < 128) : ¬ c ≤ bound := by
    intro below
    have : c.toNat ≤ bound.toNat := below
    omega
  rw [value?, if_neg fun h => above _ (by decide) h.2, if_neg fun h => above _ (by decide) h.2,
    if_neg fun h => above _ (by decide) h.2]

theorem toUpper_of_not_ascii {c : Char} (large : ¬ c.toNat < 128) : c.toUpper = c := by
  unfold Char.toUpper
  rw [dif_neg]
  intro h
  have : c.toNat ≤ 'z'.toNat := h.2
  have : 'z'.toNat = 122 := rfl
  omega

theorem toLower_of_not_ascii {c : Char} (large : ¬ c.toNat < 128) : c.toLower = c := by
  unfold Char.toLower
  rw [dif_neg]
  intro h
  have : c.toNat ≤ 'Z'.toNat := h.2
  have : 'Z'.toNat = 90 := rfl
  omega

theorem mem_digitsOfBothCases_iff (c : Char) :
    c ∈ digitsOfBothCases ↔ (value? c).isSome = true := by
  by_cases ascii : c.toNat < 128
  · exact Text.of_ascii (P := fun c => c ∈ digitsOfBothCases ↔ (value? c).isSome = true)
      (by decide +kernel) ascii
  · rw [value?_of_not_ascii ascii]
    exact iff_of_false (fun mem => ascii (toNat_lt_of_mem_digitsOfBothCases c mem)) nofun

theorem value?_toUpper (c : Char) : value? c.toUpper = value? c := by
  by_cases ascii : c.toNat < 128
  · exact Text.of_ascii (P := fun c => value? c.toUpper = value? c) (by decide) ascii
  · rw [toUpper_of_not_ascii ascii]

theorem value?_toLower (c : Char) : value? c.toLower = value? c := by
  by_cases ascii : c.toNat < 128
  · exact Text.of_ascii (P := fun c => value? c.toLower = value? c) (by decide) ascii
  · rw [toLower_of_not_ascii ascii]

theorem exists_value?_of_mem {c : Char} (mem : c ∈ digitsOfBothCases) : ∃ d, value? c = some d :=
  Option.isSome_iff_exists.mp ((mem_digitsOfBothCases_iff c).mp mem)

theorem digit_of_value? {c : Char} {d : Nat} (value : value? c = some d) :
    d < 16 ∧ digit d = c.toUpper := by
  have mem : c ∈ digitsOfBothCases :=
    (mem_digitsOfBothCases_iff c).mpr (Option.isSome_of_eq_some value)
  have each : ∀ c ∈ digitsOfBothCases, ∀ d ∈ value? c, d < 16 ∧ digit d = c.toUpper :=
    forall_mem_digitsOfBothCases (by decide +kernel)
  exact each c mem d value

/-! ### Numerals -/

/-- The text is made of digits of the number, in either case, and of all that count. -/
def Numeral (n : Nat) (text : List Char) : Prop :=
  text ≠ [] ∧ n < 16 ^ text.length ∧ text.map Char.toUpper = digits text.length n

variable {text : List Char} {n : Nat}

theorem read?_concat (init : List Char) (c : Char) :
    read? (init ++ [c]) = (read? init).bind fun m => (value? c).map (16 * m + ·) := by
  rw [read?, List.foldl_append]
  rfl

theorem read?_map {f : Char → Char} (same : ∀ c, value? (f c) = value? c) (text : List Char) :
    read? (text.map f) = read? text := by
  simp only [read?, List.foldl_map, same]

/-- By induction from the right, where the last digit is the remainder and those before it are the
quotient. -/
theorem read?_eq_some_iff :
    read? text = some n ↔ n < 16 ^ text.length ∧ text.map Char.toUpper = digits text.length n := by
  constructor
  · intro read
    induction text using List.reverseRecOn generalizing n with
    | nil =>
        obtain rfl : 0 = n := Option.some.inj read
        exact ⟨Nat.zero_lt_one, rfl⟩
    | append_singleton init c ih =>
        rw [read?_concat] at read
        obtain ⟨m, before, last⟩ := Option.bind_eq_some_iff.mp read
        obtain ⟨d, value, rfl⟩ := Option.map_eq_some_iff.mp last
        obtain ⟨fits, written⟩ := ih before
        obtain ⟨small, shown⟩ := digit_of_value? value
        have quotient : (16 * m + d) / 16 = m := by omega
        have remainder : digit (16 * m + d) = digit d := by
          rw [digit, digit, Nat.mul_add_mod]
        rw [List.length_append, List.length_singleton, List.map_append, List.map_singleton, digits,
          quotient, remainder, written, shown]
        exact ⟨by omega, rfl⟩
  · rintro ⟨fits, written⟩
    rw [← read?_map value?_toUpper, written, read?_digits]
    exact congrArg some (Nat.mod_eq_of_lt fits)

theorem isSome_read?_iff :
    (read? text).isSome = true ↔ ∀ c ∈ text, c ∈ digitsOfBothCases := by
  induction text using List.reverseRecOn with
  | nil => exact iff_of_true rfl fun _ mem => nomatch mem
  | append_singleton init c ih =>
      rw [read?_concat, List.forall_mem_append, List.forall_mem_singleton, ← ih,
        mem_digitsOfBothCases_iff]
      cases read? init <;> cases value? c <;> simp

theorem Numeral.read?_eq (numeral : Numeral n text) : read? text = some n :=
  read?_eq_some_iff.mpr numeral.2

theorem Numeral.mem_digitsOfBothCases (numeral : Numeral n text) :
    ∀ c ∈ text, c ∈ digitsOfBothCases :=
  isSome_read?_iff.mp (Option.isSome_of_eq_some numeral.read?_eq)

theorem Numeral.map_toLower (numeral : Numeral n text) : Numeral n (text.map Char.toLower) := by
  refine ⟨List.map_eq_nil_iff.not.mpr numeral.1, read?_eq_some_iff.mp ?_⟩
  rw [read?_map value?_toLower, numeral.read?_eq]

theorem exists_numeral_iff :
    (∃ n, Numeral n text) ↔ text ≠ [] ∧ ∀ c ∈ text, c ∈ digitsOfBothCases := by
  simp only [Numeral, ← read?_eq_some_iff, exists_and_left, ← isSome_read?_iff,
    Option.isSome_iff_exists]

end Hex

end Chip8
