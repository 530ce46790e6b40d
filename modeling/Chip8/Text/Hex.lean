/-!
# Hexadecimal text

A number is written with a fixed count of upper-case digits, the most significant first, so the low
`width` digits of a number are a list of that length whatever the number is. A digit is read in
either case. Reading what was written gives the number back, and on numbers below `16 ^ width`
different numbers have different texts.
-/

namespace Chip8.Hex

/-- The upper-case digit of the lowest four bits. -/
def digit (n : Nat) : Char :=
  match n % 16 with
  | 0 => '0' | 1 => '1' | 2 => '2' | 3 => '3'
  | 4 => '4' | 5 => '5' | 6 => '6' | 7 => '7'
  | 8 => '8' | 9 => '9' | 10 => 'A' | 11 => 'B'
  | 12 => 'C' | 13 => 'D' | 14 => 'E' | _ => 'F'

/-- The value of an ASCII hexadecimal digit of either case. -/
def value? (c : Char) : Option Nat :=
  if '0' ≤ c ∧ c ≤ '9' then some (c.toNat - 48)
  else if 'A' ≤ c ∧ c ≤ 'F' then some (c.toNat - 55)
  else if 'a' ≤ c ∧ c ≤ 'f' then some (c.toNat - 87)
  else none

/-- The lowest `width` digits of `n`. -/
def digits : (width n : Nat) → List Char
  | 0, _ => []
  | width + 1, n => digits width (n / 16) ++ [digit n]

def text (width n : Nat) : String := String.ofList (digits width n)

/-- The number that a list of digits denotes, if each of them is a digit. -/
def read? (cs : List Char) : Option Nat :=
  cs.foldl (fun acc c => acc.bind fun n => (value? c).map (16 * n + ·)) (some 0)

@[simp] theorem length_digits (width n : Nat) : (digits width n).length = width := by
  induction width generalizing n with
  | zero => rfl
  | succ width ih => simp [digits, ih]

private theorem value?_digit_fin : ∀ n : Fin 16, value? (digit n.val) = some n.val := by decide

theorem value?_digit (n : Nat) : value? (digit n) = some (n % 16) := by
  have h := value?_digit_fin ⟨n % 16, Nat.mod_lt _ (by decide)⟩
  simpa [digit, Nat.mod_mod] using h

theorem read?_digits (width n : Nat) : read? (digits width n) = some (n % Nat.pow 16 width) := by
  induction width generalizing n with
  | zero => simp [digits, read?, Nat.mod_one]
  | succ width ih =>
      have step : read? (digits width (n / 16) ++ [digit n])
          = (read? (digits width (n / 16))).bind
              (fun m => (value? (digit n)).map (16 * m + ·)) := by
        simp [read?, List.foldl_append]
      rw [digits, step, ih, value?_digit]
      simp only [Option.bind_some, Option.map_some, Option.some.injEq]
      have power : Nat.pow 16 (width + 1) = 16 * Nat.pow 16 width := Nat.mul_comm _ _
      rw [power, Nat.mod_mul]
      omega

theorem digits_injective {width a b : Nat} (ha : a < Nat.pow 16 width)
    (hb : b < Nat.pow 16 width) (h : digits width a = digits width b) : a = b := by
  have same := congrArg read? h
  rw [read?_digits, read?_digits, Nat.mod_eq_of_lt ha, Nat.mod_eq_of_lt hb] at same
  exact Option.some.inj same

end Chip8.Hex
