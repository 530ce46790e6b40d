import Chip8.Address.Range
import Chip8.Proofs.HexDigits
import Chip8.Proofs.Trim
import Mathlib.Data.List.TakeWhile

/-!
# Which addresses are read

An address is trimmed, brought to lower case and freed of its mark before it is read as a number,
and reading numbers skips white space, signs, marks and underscores once more. A numeral has none of
these, so it goes through all of this unchanged but for its case (`body_of_written`), and is read as
the number it stands for. What another text stands for does not depend on the limit, which is only
compared with at the end.
-/

namespace Chip8

/-! ### Reading a numeral -/

namespace Number

variable {text : List Char} {n : Nat}

theorem digit?_sixteen (c : Char) : digit? 16 c = Hex.value? c := by
  rw [digit?]
  cases value : Hex.value? c with
  | none => rfl
  | some d => exact Option.filter_some_pos (decide_eq_true (Hex.digit_of_value? value).1)

theorem readTail_of_digits (each : ∀ c ∈ text, c ∈ Hex.digitsOfBothCases) (value : Nat) :
    readTail 16 value text =
      text.foldl (fun acc c => acc.bind fun n => (Hex.value? c).map (16 * n + ·)) (some value) := by
  induction text generalizing value with
  | nil => rfl
  | cons c rest ih =>
      obtain ⟨digit, others⟩ := List.forall_mem_cons.mp each
      have joined : c ≠ '_' := by
        rintro rfl
        exact absurd digit (by decide)
      obtain ⟨d, shown⟩ := Hex.exists_value?_of_mem digit
      rw [readTail, digit?_sixteen, shown, Option.bind_some, ih others, List.foldl_cons, shown]
      · rfl
      · exact fun _ _ same _ => joined same

theorem readDigits_of_numeral (numeral : Hex.Numeral n text) : readDigits 16 text = some n := by
  have each := numeral.mem_digitsOfBothCases
  rw [← numeral.read?_eq]
  cases text with
  | nil => exact absurd rfl numeral.1
  | cons c rest =>
      obtain ⟨digit, others⟩ := List.forall_mem_cons.mp each
      obtain ⟨d, shown⟩ := Hex.exists_value?_of_mem digit
      rw [readDigits, digit?_sixteen, shown, Option.bind_some, readTail_of_digits others, Hex.read?,
        List.foldl_cons, shown]
      simp

/-- No digit is a mark. -/
theorem dropMark_of_digits (each : ∀ c ∈ text, c ∈ Hex.digitsOfBothCases) :
    dropMark 16 text = text := by
  have unmarked : ∀ c ∈ Hex.digitsOfBothCases, (c = 'x' || c = 'X') = false :=
    Hex.forall_mem_digitsOfBothCases (by decide)
  unfold dropMark
  split
  · rename_i x rest
    rw [unmarked x (each x (by simp)), Bool.and_false, if_neg Bool.false_ne_true]
  · rfl

theorem readSigned_of_digits (each : ∀ c ∈ text, c ∈ Hex.digitsOfBothCases) :
    readSigned 16 text = (readUnsigned 16 text).map fun n => (n : Int) := by
  have unsigned : ∀ c ∈ Hex.digitsOfBothCases, c ≠ '-' ∧ c ≠ '+' :=
    Hex.forall_mem_digitsOfBothCases (by decide)
  unfold readSigned
  split
  · exact absurd rfl (unsigned '-' (each '-' (by simp))).1
  · exact absurd rfl (unsigned '+' (each '+' (by simp))).2
  · rfl

theorem mapM_plain? (plain : ∀ c ∈ text, c.toNat < 127) : text.mapM plain? = some text := by
  induction text with
  | nil => rfl
  | cons c rest ih =>
      obtain ⟨small, others⟩ := List.forall_mem_cons.mp plain
      rw [List.mapM_cons, plain?, if_pos small, ih others]
      rfl

theorem dropWhile_isGap (sharp : ∀ c ∈ text, isGap c = false) : text.dropWhile isGap = text := by
  cases text with
  | nil => rfl
  | cons c rest => rw [List.dropWhile_cons_of_neg (by simp [sharp c])]

/-- A numeral is read as the number that it stands for. -/
theorem read?_of_numeral (numeral : Hex.Numeral n text) : read? 16 text = some n := by
  have each := numeral.mem_digitsOfBothCases
  have simple : ∀ c ∈ Hex.digitsOfBothCases, c.toNat < 127 ∧ isGap c = false :=
    Hex.forall_mem_digitsOfBothCases (by decide)
  have sharp : ∀ c ∈ text, isGap c = false := fun c mem => (simple c (each c mem)).2
  have sharp' : ∀ c ∈ text.reverse, isGap c = false := fun c mem =>
    sharp c (List.mem_reverse.mp mem)
  rw [read?, mapM_plain? fun c mem => (simple c (each c mem)).1, Option.bind_some,
    dropWhile_isGap sharp, dropWhile_isGap sharp', List.reverse_reverse, readSigned_of_digits each,
    readUnsigned, dropMark_of_digits each, readDigits_of_numeral numeral]
  rfl

end Number

/-! ### Lower case -/

namespace Text

/-- Of the runs of capitals only the first lies in ASCII. -/
theorem lowerChar_of_ascii {c : Char} (ascii : c.toNat < 128) : lowerChar c = c.toLower := by
  have beyond : ∀ run ∈ capitalRuns.tail, 128 ≤ run.1 := by decide +kernel
  have latin : capitalRuns = (0x41, 0x5A, 1, 32) :: capitalRuns.tail := rfl
  have found : lowerChar c =
      if 0x41 ≤ c.toNat ∧ c.toNat ≤ 0x5A then Char.ofNat (c.toNat + 32) else c := by
    by_cases capital : 0x41 ≤ c.toNat ∧ c.toNat ≤ 0x5A
    · rw [lowerChar, latin, List.find?_cons_of_pos (by simp [capital, Nat.mod_one]), if_pos capital]
      rfl
    · rw [lowerChar, latin, List.find?_cons_of_neg (by simp; omega), List.find?_eq_none.mpr,
        if_neg capital]
      intro run mem
      have := beyond run mem
      simp
      omega
  rw [found]
  exact of_ascii (P := fun c =>
    (if 0x41 ≤ c.toNat ∧ c.toNat ≤ 0x5A then Char.ofNat (c.toNat + 32) else c) = c.toLower)
    (by decide) ascii

theorem lowerFrom_of_ascii {text : List Char} (ascii : ∀ c ∈ text, c.toNat < 128)
    (before : List Char) : lowerFrom before text = text.map Char.toLower := by
  induction text generalizing before with
  | nil => rfl
  | cons c rest ih =>
      obtain ⟨small, others⟩ := List.forall_mem_cons.mp ascii
      have noSigma : c ≠ capitalSigma := by
        rintro rfl
        exact absurd small (by decide)
      have noDot : c ≠ '\u0130' := by
        rintro rfl
        exact absurd small (by decide)
      simp only [lowerFrom, if_neg noSigma, if_neg noDot, lowerChar_of_ascii small,
        ih others, List.map_cons, List.singleton_append]

theorem lower_of_ascii {text : List Char} (ascii : ∀ c ∈ text, c.toNat < 128) :
    lower text = text.map Char.toLower :=
  lowerFrom_of_ascii ascii []

end Text

/-! ### Addresses -/

namespace Address

/-- A numeral of the number with white space around it, and perhaps the mark in front. -/
def Written (n : Nat) (text : List Char) : Prop :=
  ∃ left mark digits right, text = left ++ mark ++ digits ++ right ∧
    (∀ c ∈ left, Text.isBlank c = true) ∧ (∀ c ∈ right, Text.isBlank c = true) ∧
    (mark = [] ∨ mark = ['0', 'x'] ∨ mark = ['0', 'X']) ∧ Hex.Numeral n digits

/-- What is left of a text without white space, case and mark. -/
def body (text : List Char) : List Char := dropMark (Text.lower (Text.trim text))

variable {text : List Char} {limit : Int} {n : Nat}

theorem dropMark_of_digits (each : ∀ c ∈ text, c ∈ Hex.digitsOfBothCases) :
    dropMark text = text := by
  unfold dropMark
  split
  · exact absurd (each 'x' (by simp)) (by decide)
  · rfl

theorem body_of_written (written : Written n text) : Hex.Numeral n (body text) := by
  obtain ⟨left, mark, digits, right, rfl, blankLeft, blankRight, marked, numeral⟩ := written
  have simple : ∀ c ∈ 'x' :: 'X' :: Hex.digitsOfBothCases,
      c.toNat < 128 ∧ Text.isBlank c = false :=
    List.forall_mem_cons.mpr ⟨by decide, List.forall_mem_cons.mpr ⟨by decide,
      Hex.forall_mem_digitsOfBothCases (by decide +kernel)⟩⟩
  have zero : '0' ∈ Hex.digitsOfBothCases := (Hex.mem_digitsOfBothCases_iff '0').mpr rfl
  have known : ∀ c ∈ mark ++ digits, c ∈ 'x' :: 'X' :: Hex.digitsOfBothCases := by
    intro c mem
    rcases List.mem_append.mp mem with inMark | inDigits
    · have marks : ∀ c ∈ mark, c ∈ 'x' :: 'X' :: Hex.digitsOfBothCases := by
        rcases marked with rfl | rfl | rfl <;> simp [zero]
      exact marks c inMark
    · simp [numeral.mem_digitsOfBothCases c inDigits]
  have core : Text.HasCore (left ++ mark ++ digits ++ right) (mark ++ digits) :=
    ⟨Text.tight_of_forall fun c mem => (simple c (known c mem)).2, left, right,
      by rw [List.append_assoc left], blankLeft, blankRight⟩
  have lowered := numeral.map_toLower
  have unmarked := dropMark_of_digits lowered.mem_digitsOfBothCases
  rw [body, Text.trim_of_hasCore core,
    Text.lower_of_ascii fun c mem => (simple c (known c mem)).1, List.map_append]
  rcases marked with rfl | rfl | rfl
  · rwa [List.map_nil, List.nil_append, unmarked]
  · exact lowered
  · exact lowered

/-- The outcome for each limit, by what is left of the text. -/
theorem ofChars?_eq (limit : Int) (text : List Char) :
    ofChars? limit text =
      if body text = [] then .error .empty
      else
        match Number.read? 16 (body text) with
        | none => .error (.notNumber (body text))
        | some value =>
            if 0 ≤ value ∧ value ≤ limit then .ok value.toNat else .error .outOfRange := rfl

theorem ofChars?_of_written (limit : Int) (written : Written n text) :
    ofChars? limit text = if (n : Int) ≤ limit then .ok n else .error .outOfRange := by
  have numeral := body_of_written written
  rw [ofChars?_eq, if_neg numeral.1, Number.read?_of_numeral numeral]
  simp

/-- A text stands for a whole number, which is then read for every limit that it keeps to, or it is
refused for every limit. -/
theorem ofChars?_cases (text : List Char) :
    (∃ value : Int, ∀ limit, ofChars? limit text =
      if 0 ≤ value ∧ value ≤ limit then .ok value.toNat else .error .outOfRange) ∨
    (∀ limit, ofChars? limit text = .error .empty) ∨
    ∃ rest, ∀ limit, ofChars? limit text = .error (.notNumber rest) := by
  simp only [ofChars?_eq]
  split
  · exact .inr (.inl fun _ => rfl)
  · split
    · exact .inr (.inr ⟨body text, fun _ => rfl⟩)
    · rename_i value _
      exact .inl ⟨value, fun _ => rfl⟩

theorem le_of_ofChars? (read : ofChars? limit text = .ok n) : (n : Int) ≤ limit := by
  rcases ofChars?_cases text with ⟨value, outcome⟩ | empty | ⟨rest, refused⟩
  · rw [outcome] at read
    split at read
    · cases read
      omega
    · cases read
  · cases (empty limit).symm.trans read
  · cases (refused limit).symm.trans read

end Address

/-! ### Ranges -/

namespace AddressRange

variable {text first second : List Char} {a b : Nat} {r : AddressRange}

theorem colon_not_mem_of_written (written : Address.Written a text) : ':' ∉ text := by
  obtain ⟨left, mark, digits, right, rfl, blankLeft, blankRight, marked, numeral⟩ := written
  have sharp : Text.isBlank ':' = false := rfl
  simp only [List.mem_append, not_or]
  refine ⟨⟨⟨fun mem => ?_, fun mem => ?_⟩, fun mem => ?_⟩, fun mem => ?_⟩
  · exact Bool.false_ne_true (sharp.symm.trans (blankLeft _ mem))
  · rcases marked with rfl | rfl | rfl <;> simp at mem
  · exact absurd (numeral.mem_digitsOfBothCases _ mem) (by decide)
  · exact Bool.false_ne_true (sharp.symm.trans (blankRight _ mem))

/-- A text is cut at its first colon, and both halves are read. -/
theorem ofChars?_of_colon (unsplit : ':' ∉ first) (second : List Char) :
    ofChars? (first ++ ':' :: second) = .ok r ↔
      (Address.ofChars? Address.last first = .ok r.start ∧
        Address.ofChars? Address.last second = .ok r.stop) ∧ r.start ≤ r.stop := by
  have before : ∀ c ∈ first, decide (c ≠ ':') = true := fun c mem =>
    decide_eq_true fun same => unsplit (same ▸ mem)
  have after : (':' :: second).dropWhile (· ≠ ':') = ':' :: second := rfl
  have none : (':' :: second).takeWhile (· ≠ ':') = [] := rfl
  rw [ofChars?, List.dropWhile_append_of_pos before, List.takeWhile_append_of_pos before, after,
    none, List.append_nil]
  dsimp only
  cases Address.ofChars? Address.last first with
  | error e => exact iff_of_false nofun fun read => nomatch read.1.1
  | ok start =>
      cases Address.ofChars? Address.last second with
      | error e => exact iff_of_false nofun fun read => nomatch read.1.2
      | ok stop =>
          change (if stop < start then Except.error Error.descending
            else Except.ok ⟨start, stop⟩) = .ok r ↔ _
          obtain ⟨start', stop'⟩ := r
          simp only [Except.ok.injEq]
          split
          · rename_i descending
            exact iff_of_false nofun fun read => by omega
          · simp only [Except.ok.injEq, AddressRange.mk.injEq]
            omega

theorem bounds_of_ofChars? (read : ofChars? text = .ok r) :
    r.start ≤ r.stop ∧ r.stop ≤ Address.last := by
  by_cases split : ':' ∈ text
  · obtain ⟨first, second, rfl, unsplit⟩ := List.eq_append_cons_of_mem split
    obtain ⟨⟨-, stop⟩, ascending⟩ := (ofChars?_of_colon unsplit second).mp read
    exact ⟨ascending, Int.ofNat_le.mp (Address.le_of_ofChars? stop)⟩
  · have whole : text.dropWhile (· ≠ ':') = [] :=
      List.dropWhile_eq_nil_iff.mpr fun c mem => decide_eq_true fun same => split (same ▸ mem)
    rw [ofChars?, whole] at read
    cases read

theorem ofChars?_of_written (start : Address.Written a first) (stop : Address.Written b second) :
    ofChars? (first ++ ':' :: second) = .ok r ↔
      (a ≤ Address.last ∧ b ≤ Address.last ∧ a ≤ b) ∧ r = ⟨a, b⟩ := by
  rw [ofChars?_of_colon (colon_not_mem_of_written start), Address.ofChars?_of_written _ start,
    Address.ofChars?_of_written _ stop]
  obtain ⟨start', stop'⟩ := r
  simp only [Int.ofNat_le, AddressRange.mk.injEq]
  split <;> split <;> simp <;> omega

end AddressRange

namespace Address

/-- Every text of digits is a numeral, and with the mark and white space around it a numeral is read
as the number it stands for, however large, unless that exceeds the limit. Whatever else a text
holds, it stands for a whole number, which is read for every limit that it keeps to and is out of
range for the others, or it is refused for every limit. So what is read keeps to the limit. Ranges
lie in memory and do not descend, and of two numerals with a colon between them exactly those are
read that give such a range. -/
theorem numerals_are_read_back :
    (∀ digits, (∃ n, Hex.Numeral n digits) ↔
      digits ≠ [] ∧ ∀ c ∈ digits, c ∈ Hex.digitsOfBothCases) ∧
    (∀ (limit : Int) (n : Nat) (text : String), Written n text.toList →
      parse? limit text = if (n : Int) ≤ limit then .ok n else .error .outOfRange) ∧
    Error.outOfRange.message = "hex value out of range" ∧
    (∀ text : String,
      (∃ value : Int, ∀ limit, parse? limit text =
        if 0 ≤ value ∧ value ≤ limit then .ok value.toNat else .error .outOfRange) ∨
      (∀ limit, parse? limit text = .error .empty) ∨
      ∃ rest, ∀ limit, parse? limit text = .error (.notNumber rest)) ∧
    (∀ (limit : Int) (text : String) (n : Nat), parse? limit text = .ok n → (n : Int) ≤ limit) ∧
    (∀ (text : String) (r : AddressRange), AddressRange.parse? text = .ok r →
      r.start ≤ r.stop ∧ r.stop ≤ 0xFFF) ∧
    ∀ (a b : Nat) (first second : String), Written a first.toList → Written b second.toList →
      ∀ r, AddressRange.parse? (first ++ ":" ++ second) = .ok r ↔
        (a ≤ 0xFFF ∧ b ≤ 0xFFF ∧ a ≤ b) ∧ r = ⟨a, b⟩ := by
  refine ⟨fun _ => Hex.exists_numeral_iff, fun limit n text => ofChars?_of_written limit, rfl,
    fun text => ofChars?_cases text.toList, fun limit text n => le_of_ofChars?,
    fun text r => AddressRange.bounds_of_ofChars?, fun a b first second start stop r => ?_⟩
  have halves : (first ++ ":" ++ second).toList = first.toList ++ ':' :: second.toList := by
    simp
  rw [AddressRange.parse?, halves]
  exact AddressRange.ofChars?_of_written start stop

/-- The range from `F` to `1F`, the first end with white space, a mark and zeros. -/
theorem numerals_are_read_back_of_range :
    let first := "\u3000 0X00f\t"
    let second := "1F"
    Written 0xF first.toList ∧ Written 0x1F second.toList ∧
      parse? 0xF first = .ok 0xF ∧ ((0xF : Nat) : Int) ≤ 0xF ∧
      parse? 0xE first = .error .outOfRange ∧
      AddressRange.parse? (first ++ ":" ++ second) = .ok ⟨0xF, 0x1F⟩ ∧ 0x1F ≤ 0xFFF := by
  intro first second
  have start : Written 0xF first.toList :=
    ⟨['\u3000', ' '], ['0', 'X'], ['0', '0', 'f'], ['\t'], by decide +kernel,
      by simp [Text.isBlank], by simp [Text.isBlank], .inr (.inr rfl), by simp, by decide,
      by decide⟩
  have stop : Written 0x1F second.toList :=
    ⟨[], [], ['1', 'F'], [], by decide +kernel, by simp, by simp, .inl rfl, by simp, by decide,
      by decide⟩
  obtain ⟨-, written, -, -, small, ordered, ranges⟩ := numerals_are_read_back
  have read : parse? 0xF first = .ok 0xF := written 0xF 0xF first start
  have range : AddressRange.parse? (first ++ ":" ++ second) = .ok ⟨0xF, 0x1F⟩ :=
    (ranges 0xF 0x1F first second start stop ⟨0xF, 0x1F⟩).mpr ⟨by decide, rfl⟩
  exact ⟨start, stop, read, small 0xF first 0xF read, written 0xE 0xF first start, range,
    (ordered _ _ range).2⟩

end Address

end Chip8
