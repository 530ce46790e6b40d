import Chip8.Rom.File

/-!
# Names of files

A path that holds a zero character is answered without asking the system, whatever it would have
answered. A name holds a zero character exactly if the path that is read from it does, since reading
a path drops dots and slashes only.
-/

namespace Chip8

theorem mem_intercalate_iff {α : Type} {a separator : α} (other : a ≠ separator)
    (parts : List (List α)) :
    a ∈ [separator].intercalate parts ↔ ∃ part ∈ parts, a ∈ part := by
  induction parts with
  | nil => simp
  | cons part rest ih =>
      cases rest with
      | nil => simp
      | cons next rest =>
          rw [List.intercalate_cons_cons, List.mem_append, List.mem_append, ih]
          simp [other]

theorem Path.mem_toList_text_iff {p : Path} {c : Char} (noDot : c ≠ '.') (noSlash : c ≠ '/') :
    c ∈ p.text.toList ↔ ∃ name ∈ p.names, c ∈ name.toList := by
  have anchor : c ∉ p.anchor.text.toList := by
    cases p.anchor <;> simp [Anchor.text, noSlash]
  have whole : c ∈ (p.anchor.text ++ "/".intercalate p.names).toList ↔
      ∃ name ∈ p.names, c ∈ name.toList := by
    rw [String.toList_append, List.mem_append, or_iff_right anchor, String.toList_intercalate,
      show "/".toList = ['/'] from rfl, mem_intercalate_iff noSlash]
    constructor
    · rintro ⟨_, part, mem⟩
      obtain ⟨name, named, rfl⟩ := List.mem_map.mp part
      exact ⟨name, named, mem⟩
    · rintro ⟨name, named, mem⟩
      exact ⟨_, List.mem_map_of_mem named, mem⟩
  rw [← whole, Path.text]
  split
  · rename_i empty
    rw [empty]
    simp [noDot]
  · rfl

/-- Reading a path drops no other characters than dots and slashes. -/
theorem Path.mem_toList_text_ofText_iff {text : String} {c : Char} (noDot : c ≠ '.')
    (noSlash : c ≠ '/') : c ∈ (Path.ofText text).text.toList ↔ c ∈ text.toList := by
  rw [Path.mem_toList_text_iff noDot noSlash]
  calc
    _ ↔ ∃ part ∈ text.toList.splitOn '/', c ∈ part := by
      constructor
      · rintro ⟨name, named, mem⟩
        obtain ⟨part, split, rfl⟩ := List.mem_map.mp (List.mem_filter.mp named).1
        exact ⟨part, split, String.toList_ofList (l := part) ▸ mem⟩
      · rintro ⟨part, split, mem⟩
        have mem' : c ∈ (String.ofList part).toList := String.toList_ofList.symm ▸ mem
        refine ⟨.ofList part, List.mem_filter.mpr ⟨List.mem_map.mpr ⟨part, split, rfl⟩, ?_⟩, mem'⟩
        -- a name that says nothing holds no such character
        have nonempty : String.ofList part ≠ "" := by
          intro empty
          rw [empty] at mem'
          cases mem'
        have noLoneDot : String.ofList part ≠ "." := by
          intro dot
          rw [dot] at mem'
          exact noDot (List.mem_singleton.mp mem')
        simp [nonempty, noLoneDot]
    _ ↔ c ∈ ['/'].intercalate (text.toList.splitOn '/') := (mem_intercalate_iff noSlash _).symm
    _ ↔ c ∈ text.toList := by rw [List.intercalate_splitOn]

namespace FileSystem

variable {α : Type} {fs : FileSystem} {name : String}

theorem guarded_of_zero (zero : '\x00' ∈ name.toList) (answer : Except SystemError α) :
    guarded (Path.ofText name) answer = .error .zeroCharacter := by
  rw [guarded, String.contains_char_eq, if_pos]
  exact decide_eq_true ((Path.mem_toList_text_ofText_iff (by decide) (by decide)).mpr zero)

theorem guarded_of_named (named : '\x00' ∉ name.toList) (answer : Except SystemError α) :
    guarded (Path.ofText name) answer =
      answer.mapError fun e => .system e (Path.ofText name) := by
  rw [guarded, String.contains_char_eq, if_neg]
  rw [decide_eq_true_iff, Path.mem_toList_text_ofText_iff (by decide) (by decide)]
  exact named

theorem writeFile_eq_error_iff (fs : FileSystem) {name : String} {e : FileError} :
    fs.writeFile (Path.ofText name) = .error e ↔
      '\x00' ∈ name.toList ∧ e = .zeroCharacter ∨
      '\x00' ∉ name.toList ∧ ∃ refusal, fs.write (Path.ofText name) = .error refusal ∧
        e = .system refusal (Path.ofText name) := by
  by_cases zero : '\x00' ∈ name.toList
  · simp [writeFile, guarded_of_zero zero, zero, eq_comm]
  · rw [writeFile, guarded_of_named zero]
    cases fs.write (Path.ofText name) with
    | ok written =>
        change Except.ok written = .error e ↔ _
        simp [zero]
    | error refusal =>
        change Except.error (FileError.system refusal _) = .error e ↔ _
        simp [zero, eq_comm]

end FileSystem

theorem Rom.ofFile?_eq_zeroCharacter_iff (fs : FileSystem) (name : String) :
    Rom.ofFile? fs (Path.ofText name) = .error .zeroCharacter ↔ '\x00' ∈ name.toList := by
  by_cases zero : '\x00' ∈ name.toList
  · simp only [Rom.ofFile?, FileSystem.readFile, FileSystem.guarded_of_zero zero, zero]
  · simp only [Rom.ofFile?, FileSystem.readFile, FileSystem.guarded_of_named zero, zero, iff_false]
    cases fs.read (Path.ofText name) with
    | error e => exact nofun
    | ok data =>
        change (Rom.ofBytes _ data).mapError RomFileError.tooLarge ≠ _
        cases Rom.ofBytes (Path.ofText name).name data <;> exact nofun

end Chip8
