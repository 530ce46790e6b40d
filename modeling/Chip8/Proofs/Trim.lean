import Chip8.Text.Blank

/-!
# Trimmed texts

Trimming takes a text to its core: what is left of it when the white space at both ends is gone, and
begins and ends with none. Every text has one core, and white space around a text does not change
it.
-/

namespace Chip8.Text

/-- No white space at either end. -/
def Tight (text : List Char) : Prop :=
  (∀ c, text.head? = some c → isBlank c = false) ∧
    ∀ c, text.getLast? = some c → isBlank c = false

/-- The text is the core with white space around it, and the core is tight. -/
def HasCore (text core : List Char) : Prop :=
  Tight core ∧ ∃ left right, text = left ++ core ++ right ∧
    (∀ c ∈ left, isBlank c = true) ∧ ∀ c ∈ right, isBlank c = true

variable {text core left right : List Char}

theorem tight_of_forall (sharp : ∀ c ∈ text, isBlank c = false) : Tight text :=
  ⟨fun c first => sharp c (List.mem_of_head? first),
    fun c last => sharp c (List.mem_of_getLast? last)⟩

/-! ### One end -/

theorem trimLeft_append_of_blank (blank : ∀ c ∈ left, isBlank c = true) (rest : List Char) :
    trimLeft (left ++ rest) = trimLeft rest :=
  List.dropWhile_append_of_pos blank

theorem trimRight_append_of_blank (blank : ∀ c ∈ right, isBlank c = true) (rest : List Char) :
    trimRight (rest ++ right) = trimRight rest := by
  have blank' : ∀ c ∈ right.reverse, isBlank c = true := fun c mem =>
    blank c (List.mem_reverse.mp mem)
  rw [trimRight, List.reverse_append, List.dropWhile_append_of_pos blank', trimRight]

theorem trimLeft_of_head (sharp : ∀ c, text.head? = some c → isBlank c = false) :
    trimLeft text = text := by
  cases text with
  | nil => rfl
  | cons c rest =>
      rw [trimLeft, List.dropWhile_cons_of_neg]
      simp [sharp c rfl]

theorem trimRight_of_last (sharp : ∀ c, text.getLast? = some c → isBlank c = false) :
    trimRight text = text := by
  have sharp' : ∀ c, text.reverse.head? = some c → isBlank c = false := fun c first =>
    sharp c (by rwa [List.head?_reverse] at first)
  rw [trimRight, ← trimLeft, trimLeft_of_head sharp', List.reverse_reverse]

theorem head_trimLeft (text : List Char) :
    ∀ c, (trimLeft text).head? = some c → isBlank c = false := by
  intro c first
  have blank := List.head?_dropWhile_not isBlank text
  rw [← trimLeft, first] at blank
  exact blank

theorem exists_trimLeft (text : List Char) :
    ∃ left, text = left ++ trimLeft text ∧ ∀ c ∈ left, isBlank c = true :=
  ⟨text.takeWhile isBlank, List.takeWhile_append_dropWhile.symm,
    List.all_eq_true.mp List.all_takeWhile⟩

theorem exists_trimRight (text : List Char) :
    ∃ right, text = trimRight text ++ right ∧ ∀ c ∈ right, isBlank c = true := by
  obtain ⟨left, split, blank⟩ := exists_trimLeft text.reverse
  refine ⟨left.reverse, ?_, fun c mem => blank c (List.mem_reverse.mp mem)⟩
  rw [trimRight, ← trimLeft, ← List.reverse_append, ← split, List.reverse_reverse]

/-! ### Both ends -/

theorem trim_of_hasCore (hasCore : HasCore text core) : trim text = core := by
  obtain ⟨⟨first, last⟩, left, right, rfl, blankLeft, blankRight⟩ := hasCore
  rw [trim, List.append_assoc, trimLeft_append_of_blank blankLeft]
  cases core with
  | nil =>
      have none : trimLeft right = [] := by
        have all := trimLeft_append_of_blank blankRight []
        rwa [List.append_nil] at all
      rw [List.nil_append, none]
      rfl
  | cons c rest =>
      have kept : trimLeft (c :: rest ++ right) = c :: rest ++ right := trimLeft_of_head first
      rw [kept, trimRight_append_of_blank blankRight, trimRight_of_last last]

theorem hasCore_trim (text : List Char) : HasCore text (trim text) := by
  obtain ⟨left, before, blankLeft⟩ := exists_trimLeft text
  obtain ⟨right, behind, blankRight⟩ := exists_trimRight (trimLeft text)
  have behind' : trimLeft text = trim text ++ right := behind
  refine ⟨⟨fun c first => ?_, fun c last => ?_⟩, left, right, ?_, blankLeft, blankRight⟩
  · have shown : (trim text ++ right).head? = some c := by
      rw [List.head?_append, first, Option.some_or]
    exact head_trimLeft text c ((congrArg List.head? behind').trans shown)
  · rw [trim, trimRight, List.getLast?_reverse] at last
    exact head_trimLeft _ c last
  · rw [List.append_assoc, ← behind', ← before]

theorem trim_eq_iff : trim text = core ↔ HasCore text core := by
  constructor
  · rintro rfl
    exact hasCore_trim text
  · exact trim_of_hasCore

end Chip8.Text
