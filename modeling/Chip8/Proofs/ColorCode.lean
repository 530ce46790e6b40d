import Chip8.Proofs.HexDigits
import Chip8.Proofs.Trim
import Chip8.Window.ColorCode

/-!
# Which colour codes are read

A code is read when its core, without one number sign, spells three or four bytes, and as the colour
with these bytes as its channels. Reading looks for other characters first, for an odd length second
and for digits last, but a text that spells bytes passes all of that (`readBytes?_eq_ok_iff`), so
the order shows in the complaints only. The case of a digit does not count.
-/

namespace Chip8

namespace Color

/-! ### Bytes -/

/-- The digits spell these bytes, two for each of them. -/
inductive Spells : List Char → List Nat → Prop
  | nil : Spells [] []
  | cons {high low : Char} {h l : Nat} {digits : List Char} {bytes : List Nat}
      (first : Hex.value? high = some h) (second : Hex.value? low = some l)
      (rest : Spells digits bytes) : Spells (high :: low :: digits) ((16 * h + l) :: bytes)

/-- The colour with these channels; three of them make an opaque one. -/
def ofBytes? : List Nat → Option Color
  | [red, green, blue] => some ⟨red, green, blue, some 0xFF⟩
  | [red, green, blue, alpha] => some ⟨red, green, blue, some alpha⟩
  | _ => none

variable {digits : List Char} {bytes : List Nat} {color : Color}

theorem readPairs?_eq_ok_iff : readPairs? digits = .ok bytes ↔ Spells digits bytes := by
  constructor
  · intro read
    fun_induction readPairs? digits generalizing bytes with
    | case1 =>
        cases read
        exact .nil
    | case2 => cases read
    | case3 high low rest h l second first ih =>
        cases answer : readPairs? rest with
        | error => rw [answer] at read; cases read
        | ok others =>
            rw [answer] at read
            cases read
            exact .cons first second (ih answer)
    | case4 => cases read
  · intro spells
    induction spells with
    | nil => rfl
    | cons first second _ ih =>
        simp only [readPairs?, first, second, ih]
        rfl

theorem Spells.length_eq (spells : Spells digits bytes) : digits.length = 2 * bytes.length := by
  induction spells with
  | nil => rfl
  | cons first second _ ih =>
      simp only [List.length_cons, ih]
      omega

theorem Spells.mem_digitsOfBothCases (spells : Spells digits bytes) :
    ∀ c ∈ digits, c ∈ Hex.digitsOfBothCases := by
  induction spells with
  | nil => exact fun _ mem => nomatch mem
  | cons first second _ ih =>
      have high := (Hex.mem_digitsOfBothCases_iff _).mpr (Option.isSome_of_eq_some first)
      have low := (Hex.mem_digitsOfBothCases_iff _).mpr (Option.isSome_of_eq_some second)
      exact List.forall_mem_cons.mpr ⟨high, List.forall_mem_cons.mpr ⟨low, ih⟩⟩

/-- Nothing but digits spells bytes, and an even number of digits always does. -/
theorem exists_spells_iff :
    (∃ bytes, Spells digits bytes) ↔
      digits.length % 2 = 0 ∧ ∀ c ∈ digits, c ∈ Hex.digitsOfBothCases := by
  constructor
  · intro ⟨bytes, spells⟩
    have twice := spells.length_eq
    exact ⟨by omega, spells.mem_digitsOfBothCases⟩
  · intro ⟨even, each⟩
    fun_induction readPairs? digits with
    | case1 => exact ⟨[], .nil⟩
    | case2 => nomatch even
    | case3 high low rest h l second first ih =>
        have shorter : rest.length % 2 = 0 := by
          simp only [List.length_cons] at even
          omega
        obtain ⟨bytes, spells⟩ := ih shorter fun c mem => each c (by simp [mem])
        exact ⟨_, .cons first second spells⟩
    | case4 high low rest wrong =>
        have value {c : Char} (mem : c ∈ high :: low :: rest) : ∃ n, Hex.value? c = some n :=
          Option.isSome_iff_exists.mp ((Hex.mem_digitsOfBothCases_iff c).mp (each c mem))
        obtain ⟨h, first⟩ := value (c := high) (by simp)
        obtain ⟨l, second⟩ := value (c := low) (by simp)
        exact absurd second (wrong h l first)

/-- Text that spells bytes passes the checks that are made before the digits are read. -/
theorem readBytes?_eq_ok_iff : readBytes? digits = .ok bytes ↔ Spells digits bytes := by
  constructor
  · intro read
    rw [readBytes?] at read
    split at read
    · cases read
    split at read
    · cases read
    exact readPairs?_eq_ok_iff.mp read
  · intro spells
    have twice := spells.length_eq
    rw [readBytes?, if_neg, if_neg (by omega), readPairs?_eq_ok_iff.mpr spells]
    intro large
    obtain ⟨c, mem, above⟩ := List.any_eq_true.mp large
    have below := Hex.toNat_lt_of_mem_digitsOfBothCases c (spells.mem_digitsOfBothCases c mem)
    exact absurd below (Nat.not_lt.mpr (of_decide_eq_true above))

theorem ofChars?_of_readBytes? {code : List Char}
    (read : readBytes? (codeDigits code) = .ok bytes) :
    ofChars? code = (ofBytes? bytes).elim (.error .wrongLength) .ok := by
  rw [ofChars?, read]
  match bytes with
  | [] | [_] | [_, _] | [_, _, _] | [_, _, _, _] | _ :: _ :: _ :: _ :: _ :: _ => rfl

theorem ofChars?_eq_ok_iff (code : List Char) :
    ofChars? code = .ok color ↔
      ∃ bytes, Spells (codeDigits code) bytes ∧ ofBytes? bytes = some color := by
  simp only [← readBytes?_eq_ok_iff]
  cases read : readBytes? (codeDigits code) with
  | error e =>
      have failed : ofChars? code = .error e := by
        rw [ofChars?, read]
        rfl
      rw [failed]
      exact iff_of_false nofun fun ⟨_, read, _⟩ => nomatch read
  | ok bytes =>
      rw [ofChars?_of_readBytes? read]
      simp only [Except.ok.injEq, exists_eq_left']
      cases ofBytes? bytes with
      | none => exact iff_of_false nofun nofun
      | some answer =>
          show Except.ok answer = .ok color ↔ some answer = some color
          rw [Except.ok.injEq, Option.some.injEq]

theorem exists_ofBytes?_iff :
    (∃ color, ofBytes? bytes = some color) ↔ bytes.length = 3 ∨ bytes.length = 4 := by
  match bytes with
  | [] | [_] | [_, _] | [_, _, _] | [_, _, _, _] | _ :: _ :: _ :: _ :: _ :: _ => simp [ofBytes?]

/-- Six or eight digits of either case. -/
def Coded (digits : List Char) : Prop :=
  (digits.length = 6 ∨ digits.length = 8) ∧ ∀ c ∈ digits, c ∈ Hex.digitsOfBothCases

theorem exists_ofChars?_iff (code : List Char) :
    (∃ color, ofChars? code = .ok color) ↔ Coded (codeDigits code) := by
  simp only [ofChars?_eq_ok_iff]
  constructor
  · intro ⟨color, bytes, spells, fits⟩
    have twice := spells.length_eq
    have short := exists_ofBytes?_iff.mp ⟨color, fits⟩
    exact ⟨by omega, spells.mem_digitsOfBothCases⟩
  · intro ⟨long, each⟩
    have even : (codeDigits code).length % 2 = 0 := by omega
    obtain ⟨bytes, spells⟩ := exists_spells_iff.mpr ⟨even, each⟩
    have twice := spells.length_eq
    have short : bytes.length = 3 ∨ bytes.length = 4 := by omega
    obtain ⟨color, fits⟩ := exists_ofBytes?_iff.mpr short
    exact ⟨color, bytes, spells, fits⟩

/-! ### White space and the number sign -/

/-- The core of the code, without the number sign if one stands in front. -/
def HasDigits (code digits : List Char) : Prop :=
  ∃ core, Text.HasCore code core ∧
    (core = '#' :: digits ∨ core = digits ∧ digits.head? ≠ some '#')

theorem codeDigits_eq_iff {code : List Char} :
    codeDigits code = digits ↔ Text.trim code = '#' :: digits ∨
      Text.trim code = digits ∧ digits.head? ≠ some '#' := by
  rw [codeDigits]
  split
  · rename_i rest signed
    rw [signed]
    constructor
    · intro same
      exact .inl (congrArg _ same)
    · intro either
      cases either with
      | inl same => exact (List.cons.inj same).2
      | inr same => exact absurd (congrArg List.head? same.1).symm same.2
  · rename_i unsigned
    constructor
    · intro same
      refine .inr ⟨same, fun first => ?_⟩
      obtain ⟨rest, starts⟩ := List.head?_eq_some_iff.mp first
      exact unsigned rest (same.trans starts)
    · intro either
      cases either with
      | inl signed => exact absurd signed (unsigned _)
      | inr same => exact same.1

theorem hasDigits_iff {code : List Char} : HasDigits code digits ↔ codeDigits code = digits := by
  rw [codeDigits_eq_iff]
  simp only [HasDigits, ← Text.trim_eq_iff, exists_eq_left']

/-! ### Codes that are written -/

theorem spells_map_toUpper_iff (digits : List Char) :
    Spells (digits.map Char.toUpper) bytes ↔ Spells digits bytes := by
  have same : readPairs? (digits.map Char.toUpper) = readPairs? digits := by
    fun_induction readPairs? digits with
    | case1 => rfl
    | case2 => rfl
    | case3 high low rest h l second first ih =>
        simp only [List.map_cons, readPairs?, Hex.value?_toUpper, first, second, ih]
    | case4 high low rest wrong =>
        simp only [List.map_cons, readPairs?, Hex.value?_toUpper]
  rw [← readPairs?_eq_ok_iff, same, readPairs?_eq_ok_iff]

/-- Two digits of a byte spell it. -/
theorem spells_flatMap_digits (small : ∀ byte ∈ bytes, byte < 256) :
    Spells (bytes.flatMap (Hex.digits 2)) bytes := by
  induction bytes with
  | nil => exact .nil
  | cons byte rest ih =>
      obtain ⟨below, others⟩ := List.forall_mem_cons.mp small
      have value : 16 * (byte / 16 % 16) + byte % 16 = byte := by omega
      have spells := Spells.cons (Hex.value?_digit (byte / 16)) (Hex.value?_digit byte) (ih others)
      rwa [value] at spells

theorem codeDigits_of_written {left sign right : List Char}
    (blankLeft : ∀ c ∈ left, Text.isBlank c = true)
    (blankRight : ∀ c ∈ right, Text.isBlank c = true)
    (signed : sign = [] ∨ sign = ['#']) (each : ∀ c ∈ digits, c ∈ Hex.digitsOfBothCases) :
    codeDigits (left ++ sign ++ digits ++ right) = digits := by
  have plain : ∀ c ∈ Hex.digitsOfBothCases, Text.isBlank c = false ∧ c ≠ '#' :=
    Hex.forall_mem_digitsOfBothCases (by decide)
  have sharp : ∀ c ∈ sign ++ digits, Text.isBlank c = false := by
    intro c mem
    rcases List.mem_append.mp mem with inSign | inDigits
    · rcases signed with rfl | rfl
      · nomatch inSign
      · rw [List.mem_singleton.mp inSign]
        rfl
    · exact (plain c (each c inDigits)).1
  have hasCore : Text.HasCore (left ++ sign ++ digits ++ right) (sign ++ digits) :=
    ⟨Text.tight_of_forall sharp, left, right, by rw [List.append_assoc left], blankLeft,
      blankRight⟩
  refine hasDigits_iff.mp ⟨sign ++ digits, hasCore, ?_⟩
  rcases signed with rfl | rfl
  · refine .inr ⟨rfl, fun first => ?_⟩
    exact (plain '#' (each '#' (List.mem_of_head? first))).2 rfl
  · exact .inl rfl

/-- Bytes written with two digits each are read back, whatever the case of the digits. -/
theorem ofChars?_written {left sign right : List Char}
    (blankLeft : ∀ c ∈ left, Text.isBlank c = true)
    (blankRight : ∀ c ∈ right, Text.isBlank c = true)
    (signed : sign = [] ∨ sign = ['#']) (small : ∀ byte ∈ bytes, byte < 256)
    (written : digits.map Char.toUpper = bytes.flatMap (Hex.digits 2))
    (fits : ofBytes? bytes = some color) :
    ofChars? (left ++ sign ++ digits ++ right) = .ok color := by
  have spells : Spells digits bytes := by
    rw [← spells_map_toUpper_iff, written]
    exact spells_flatMap_digits small
  rw [ofChars?_eq_ok_iff, codeDigits_of_written blankLeft blankRight signed
    spells.mem_digitsOfBothCases]
  exact ⟨bytes, spells, fits⟩

/-- Every code has its digits. It is read when they are six or eight hexadecimal ones of either
case, as the colour with the bytes they spell, and it is refused otherwise. So a colour that is
written with two digits for each channel is read back. -/
theorem code_is_read_exactly :
    (∀ code : String, ∃ digits,
      (∀ others, HasDigits code.toList others ↔ others = digits) ∧
      ((∃ color, ofCode? code = .ok color) ↔ Coded digits) ∧
      (∀ color, ofCode? code = .ok color ↔
        ∃ bytes, Spells digits bytes ∧ ofBytes? bytes = some color) ∧
      ((∃ e, ofCode? code = .error e) ↔ ¬ Coded digits)) ∧
    ∀ red green blue alpha : Nat, red < 256 → green < 256 → blue < 256 → alpha < 256 →
      ∀ left sign digits right : List Char,
        (∀ c ∈ left, Text.isBlank c = true) → (∀ c ∈ right, Text.isBlank c = true) →
        sign = [] ∨ sign = ['#'] →
        digits.map Char.toUpper = [red, green, blue, alpha].flatMap (Hex.digits 2) →
        ofCode? (String.ofList (left ++ sign ++ digits ++ right)) =
          .ok ⟨red, green, blue, some alpha⟩ := by
  constructor
  · intro code
    have reads : (∃ color, ofCode? code = .ok color) ↔ Coded (codeDigits code.toList) :=
      exists_ofChars?_iff code.toList
    refine ⟨codeDigits code.toList, fun others => hasDigits_iff.trans eq_comm, reads,
      fun color => ofChars?_eq_ok_iff code.toList, ?_⟩
    rw [← reads]
    cases ofCode? code with
    | ok color => exact iff_of_false nofun fun refused => refused ⟨color, rfl⟩
    | error e => exact iff_of_true ⟨e, rfl⟩ nofun
  · intro red green blue alpha redSmall greenSmall blueSmall alphaSmall left sign digits right
      blankLeft blankRight signed written
    have small : ∀ byte ∈ [red, green, blue, alpha], byte < 256 := by
      simp [redSmall, greenSmall, blueSmall, alphaSmall]
    rw [ofCode?, String.toList_ofList]
    exact ofChars?_written blankLeft blankRight signed small written rfl

theorem code_is_read_exactly_of_mixed_case :
    ofCode? "\t#0aFf10Cd " = .ok ⟨0x0A, 0xFF, 0x10, some 0xCD⟩ :=
  code_is_read_exactly.2 0x0A 0xFF 0x10 0xCD (by decide) (by decide) (by decide) (by decide)
    ['\t'] ['#'] "0aFf10Cd".toList [' '] (List.forall_mem_singleton.mpr rfl)
    (List.forall_mem_singleton.mpr rfl) (.inr rfl) (by decide)

end Color

end Chip8
