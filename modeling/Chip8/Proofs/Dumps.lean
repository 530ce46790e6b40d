import Chip8.Headless.Runner
import Chip8.Proofs.DumpReader
import Chip8.Proofs.Ranges
import Mathlib.Data.List.Sort

/-!
# What a dump shows

A binary dump writes the bytes of merged ranges one after the other, and since such ranges ascend
with gaps between them, these are the bytes of the selected addresses in ascending order. A table
shows whole rows, so an address may stand in it without being selected, and a row that two ranges
share stands in it twice. It does so in two blocks that follow each other, and whatever the second
block adds lies behind all of the first. So the addresses ascend once those seen before are dropped,
and what is left of the selected ones is again the binary dump.
-/

namespace Chip8

/-! ### First appearances -/

theorem eraseDups_of_nodup {α : Type} [BEq α] [LawfulBEq α] {l : List α} (nodup : l.Nodup) :
    l.eraseDups = l := by
  induction l with
  | nil => rfl
  | cons a rest ih =>
      obtain ⟨fresh, nodup⟩ := List.nodup_cons.mp nodup
      have others : (rest.filter fun b => !b == a) = rest := by
        refine List.filter_eq_self.mpr fun b mem => ?_
        have other : b ≠ a := fun same => fresh (same ▸ mem)
        simp [other]
      rw [List.eraseDups_cons, others, ih nodup]

theorem eraseDups_map {α β : Type} [BEq α] [LawfulBEq α] [BEq β] [LawfulBEq β] {f : α → β}
    (injective : ∀ a b, f a = f b → a = b) (l : List α) :
    (l.map f).eraseDups = l.eraseDups.map f := by
  match l with
  | [] => rfl
  | a :: rest =>
      have same : ((fun b => !b == f a) ∘ f) = fun b => !b == a := by
        funext b
        rw [Function.comp_apply, Bool.not_inj_iff, Bool.eq_iff_iff, beq_iff_eq, beq_iff_eq]
        exact ⟨injective b a, congrArg f⟩
      rw [List.map_cons, List.eraseDups_cons, List.filter_map, same, List.eraseDups_cons,
        List.map_cons, eraseDups_map injective]
termination_by l.length
decreasing_by exact Nat.lt_succ_of_le (List.length_filter_le _ _)

namespace Dump

open AddressRange

variable {r : AddressRange} {ranges : List AddressRange}

/-! ### Rows -/

theorem mem_bases_iff (r : AddressRange) (b : Nat) :
    b ∈ bases r ↔ b % 16 = 0 ∧ r.start / 16 ≤ b / 16 ∧ b / 16 ≤ r.stop / 16 := by
  simp only [bases, List.mem_map, List.mem_range]
  constructor
  · rintro ⟨k, before, rfl⟩
    omega
  · rintro ⟨aligned, first, last⟩
    exact ⟨b / 16 - r.start / 16, by omega, by omega⟩

theorem pairwise_bases (r : AddressRange) : (bases r).Pairwise (· < ·) :=
  List.pairwise_map.mpr (List.pairwise_lt_range.imp fun less => by omega)

/-- The rows of a range in memory are the aligned ones that end no earlier than it starts and start
no later than it ends. -/
theorem bases_eq_filter (inMemory : r.stop ≤ Address.last) :
    bases r = (List.range 4096).filter fun b => b % 16 = 0 ∧ r.start ≤ b + 15 ∧ b ≤ r.stop := by
  refine (pairwise_bases r).eq_of_mem_iff (List.pairwise_lt_range.filter _) fun b => ?_
  simp only [mem_bases_iff, List.mem_filter, List.mem_range, decide_eq_true_eq, Address.last]
    at inMemory ⊢
  omega

theorem mem_rowAddresses_iff (r : AddressRange) (a : Nat) :
    a ∈ rowAddresses r ↔ r.start / 16 ≤ a / 16 ∧ a / 16 ≤ r.stop / 16 := by
  simp only [rowAddresses, List.mem_flatMap, mem_bases_iff, List.mem_range'_1]
  constructor
  · rintro ⟨b, row, inRow⟩
    omega
  · intro touched
    exact ⟨16 * (a / 16), by omega, by omega⟩

theorem pairwise_rowAddresses (r : AddressRange) : (rowAddresses r).Pairwise (· < ·) := by
  refine List.pairwise_flatMap.mpr ⟨fun b _ => List.pairwise_lt_range', ?_⟩
  refine List.Pairwise.imp_of_mem (fun {b b'} mem mem' less => ?_) (pairwise_bases r)
  simp only [mem_bases_iff, List.mem_range'_1] at mem mem' ⊢
  omega

/-- Without repetitions the addresses in the rows of ranges apart from each other ascend. The
predicate is what the induction needs: the addresses of the first range are no longer wanted of the
rest. -/
theorem pairwise_eraseDups_rows (apart : Apart ranges) (wanted : Nat → Bool) :
    ((ranges.flatMap rowAddresses).filter wanted).eraseDups.Pairwise (· < ·) := by
  induction ranges generalizing wanted with
  | nil => exact List.Pairwise.nil
  | cons r rest ih =>
      obtain ⟨gap, apart⟩ := List.pairwise_cons.mp apart
      have first := (pairwise_rowAddresses r).filter wanted
      rw [List.flatMap_cons, List.filter_append, List.eraseDups_append,
        eraseDups_of_nodup (first.imp Nat.ne_of_lt), List.removeAll, List.filter_filter]
      refine List.pairwise_append.mpr ⟨first, ih apart _, fun a inFirst b inRest => ?_⟩
      obtain ⟨inRow, -⟩ := List.mem_filter.mp inFirst
      obtain ⟨inRows, new⟩ := List.mem_filter.mp (List.mem_eraseDups.mp inRest)
      obtain ⟨s, listed, inRow'⟩ := List.mem_flatMap.mp inRows
      simp only [Bool.and_eq_true, Bool.not_eq_true', List.contains_eq_mem, decide_eq_false_iff_not,
        List.mem_filter, not_and] at new
      have behind : b ∉ rowAddresses r := fun mem => new.1 mem new.2
      have := gap s listed
      rw [mem_rowAddresses_iff] at inRow inRow' behind
      omega

/-! ### Selected addresses -/

/-- The addresses that ranges select, in ascending order. -/
def selection (ranges : List AddressRange) : List Nat :=
  (List.range 4096).filter fun a => Selected ranges a

theorem mem_selection_iff (inMemory : ∀ r ∈ ranges, r.stop ≤ Address.last) (a : Nat) :
    a ∈ selection ranges ↔ Selected ranges a := by
  rw [selection, List.mem_filter, List.mem_range, decide_eq_true_eq]
  refine and_iff_right_of_imp ?_
  rintro (⟨r, listed, -, upTo⟩ | ⟨-, -, upTo⟩)
  · have := inMemory r listed
    simp only [Address.last] at this
    omega
  · simp only [all, Address.last] at upTo
    omega

theorem stop_le_of_mem_merge (valid : ∀ r ∈ ranges, r.start ≤ r.stop ∧ r.stop ≤ Address.last) :
    ∀ r ∈ merge ranges, r.stop ≤ Address.last := by
  intro r mem
  have ordered := start_le_stop_of_mem_merge (fun r listed => (valid r listed).1) r mem
  -- a merged range ends at an address that was selected
  rcases (covered_merge_iff ranges r.stop).mp ⟨r, mem, ordered, Nat.le_refl _⟩ with
    ⟨s, listed, -, upTo⟩ | ⟨-, -, upTo⟩
  · exact Nat.le_trans upTo (valid s listed).2
  · exact upTo

/-- The addresses of merged ranges, range by range, are the selection. -/
theorem flatMap_merge (valid : ∀ r ∈ ranges, r.start ≤ r.stop ∧ r.stop ≤ Address.last) :
    (merge ranges).flatMap (fun r => List.range' r.start (r.stop - r.start + 1))
      = selection ranges := by
  have ordered := start_le_stop_of_mem_merge fun r listed => (valid r listed).1
  refine List.Pairwise.eq_of_mem_iff (r := (· < ·)) ?_ (List.pairwise_lt_range.filter _)
    fun a => ?_
  · refine List.pairwise_flatMap.mpr ⟨fun r _ => List.pairwise_lt_range', ?_⟩
    refine (apart_merge ranges).imp_of_mem fun {r s} mem _ gap a inFirst b inSecond => ?_
    have := ordered r mem
    rw [List.mem_range'_1] at inFirst inSecond
    omega
  · rw [mem_selection_iff (fun r listed => (valid r listed).2), ← covered_merge_iff,
      List.mem_flatMap]
    refine exists_congr fun r => and_congr_right fun mem => ?_
    have := ordered r mem
    rw [List.mem_range'_1, Covers]
    omega

theorem binary_eq (m : Machine) (ranges : List AddressRange) :
    binary m ranges
      = (ranges.flatMap fun r => List.range' r.start (r.stop - r.start + 1)).map fun a : Nat =>
          m.core.memory.load a := by
  rw [binary, List.map_flatMap]
  refine congrArg (List.flatMap · ranges) (funext fun r => ?_)
  simp [Machine.readMemory, Ram.loadBlock, List.range'_eq_map_range]

/-- The selected addresses that a table of merged ranges shows are the selection, each where it
appears first. -/
theorem eraseDups_rows_merge (valid : ∀ r ∈ ranges, r.start ≤ r.stop ∧ r.stop ≤ Address.last) :
    (((merge ranges).flatMap rowAddresses).filter fun a => Selected ranges a).eraseDups
      = selection ranges := by
  refine (pairwise_eraseDups_rows (apart_merge ranges) _).eq_of_mem_iff
    (List.pairwise_lt_range.filter _) fun a => ?_
  rw [List.mem_eraseDups, List.mem_filter, decide_eq_true_eq,
    mem_selection_iff fun r listed => (valid r listed).2]
  refine and_iff_right_of_imp fun selected => ?_
  obtain ⟨r, mem, covers⟩ := (covered_merge_iff ranges a).mpr selected
  refine List.mem_flatMap.mpr ⟨r, mem, (mem_rowAddresses_iff r a).mpr ?_⟩
  simp only [Covers] at covers
  omega

end Dump

namespace Headless

open AddressRange Dump

/-- What a dump adds to the output and to files is the content, once. -/
theorem bytes_of_writeDump {fs : FileSystem} {target : Option String} {content : DumpContent}
    {chunks : List Chunk} {files : List (Path × List UInt8)}
    (written : writeDump fs target content = .ok (chunks, files)) :
    chunks.flatMap Chunk.bytes ++ files.flatMap Prod.snd = content.chunk.bytes := by
  cases target with
  | none =>
      cases written
      simp
  | some text =>
      rw [writeDump] at written
      cases answer : fs.writeFile (Path.ofText text) with
      | error e =>
          rw [answer] at written
          cases written
      | ok done =>
          rw [answer] at written
          cases written
          simp

/-- The binary dump and the hexadecimal dump of ranges in memory show the same bytes. The first is
the bytes at the selected addresses in ascending order. In the second each merged range has its own
table, a header over the rows of the aligned blocks from that of its start to that of its end, with
an empty line between two tables. A row reads as its address and the sixteen bytes from there. And
the bytes that are read at selected addresses, each where it appears first, are the binary dump. -/
theorem dumps_show_same_memory (m : Machine) {ranges : List AddressRange}
    (valid : ∀ r ∈ ranges, r.start ≤ r.stop ∧ r.stop ≤ 0xFFF) :
    let bytes := ((List.range 4096).filter fun a => Selected ranges a).map fun a : Nat =>
      m.core.memory.load a
    let rows (r : AddressRange) :=
      (List.range 4096).filter fun b => b % 16 = 0 ∧ r.start ≤ b + 15 ∧ b ≤ r.stop
    dumpContent? m ranges .binary = some (.bytes bytes) ∧
    (∀ fs target chunks files, writeDump fs target (.bytes bytes) = .ok (chunks, files) →
      chunks.flatMap Chunk.bytes ++ files.flatMap Prod.snd = bytes) ∧
    ∃ text, dumpContent? m ranges .hex = some (.text text) ∧
      (∀ fs target chunks files, writeDump fs target (.text text) = .ok (chunks, files) →
        chunks.flatMap Chunk.bytes ++ files.flatMap Prod.snd = (text ++ "\n").toUTF8.toList) ∧
      text.toList.splitOn '\n'
        = ([""].intercalate ((merge ranges).map fun r => header :: (rows r).map (row m))).map
            String.toList ∧
      (∀ b < 4096, readRow? (row m b).toList
        = some (b, (List.range 16).map fun k => m.core.memory.load (b + k : Nat))) ∧
      ((readBack text).filter fun shown => Selected ranges shown.1).eraseDups.map Prod.snd
        = bytes := by
  intro bytes rows
  have inMemory := stop_le_of_mem_merge valid
  have tables : (merge ranges).map (table m)
      = (merge ranges).map fun r => header :: (rows r).map (row m) :=
    List.map_congr_left fun r mem => by rw [table, bases_eq_filter (inMemory r mem)]
  refine ⟨?_, fun fs target chunks files => bytes_of_writeDump, hex m (merge ranges), rfl,
    fun fs target chunks files => bytes_of_writeDump, ?_, fun b small => ?_, ?_⟩
  · rw [dumpContent?, binary_eq, flatMap_merge valid]
    rfl
  · rw [splitOn_hex m (merge_ne_nil ranges), lines, tables]
  · rw [readRow?_row, Nat.mod_eq_of_lt small]
    rfl
  · rw [readBack_hex m inMemory, List.filter_map, eraseDups_map (fun a b => congrArg Prod.fst),
      List.map_map]
    exact congrArg (List.map _) (eraseDups_rows_merge valid)

/-- Of two ranges given in descending order, both touch the block of the program's first bytes, so
that its row stands in both tables. -/
theorem dumps_show_same_memory_of_shared_row :
    let m := (Machine.initial ⟨fun _ => 0, 0⟩).insert ⟨"", [0x12, 0x34], by decide⟩
    let ranges : List AddressRange := [⟨0x20A, 0x20C⟩, ⟨0x1FE, 0x201⟩]
    let bytes : List UInt8 := [0, 0, 0x12, 0x34, 0, 0, 0]
    (∀ r ∈ ranges, r.start ≤ r.stop ∧ r.stop ≤ 0xFFF) ∧
      dumpContent? m ranges .binary = some (.bytes bytes) ∧
      ∃ text, dumpContent? m ranges .hex = some (.text text) ∧
        text.toList.splitOn '\n'
          = [header, row m 0x1F0, row m 0x200, "", header, row m 0x200].map String.toList ∧
        ((readBack text).filter fun shown => Selected ranges shown.1).eraseDups.map Prod.snd
          = bytes := by
  intro m ranges bytes
  have valid : ∀ r ∈ ranges, r.start ≤ r.stop ∧ r.stop ≤ 0xFFF := by decide
  have merged : merge ranges = [⟨0x1FE, 0x201⟩, ⟨0x20A, 0x20C⟩] := by
    simp [merge, ranges, List.mergeSort, before, joinFrom]
  have selected : ((List.range 4096).filter fun a => Selected ranges a).map
      (fun a : Nat => m.core.memory.load a) = bytes := by
    change (selection ranges).map _ = bytes
    rw [← flatMap_merge valid, merged]
    decide +kernel
  have first : (List.range 4096).filter (fun b => b % 16 = 0 ∧ 0x1FE ≤ b + 15 ∧ b ≤ 0x201)
      = [0x1F0, 0x200] :=
    (bases_eq_filter (r := ⟨0x1FE, 0x201⟩) (by decide)).symm
  have second : (List.range 4096).filter (fun b => b % 16 = 0 ∧ 0x20A ≤ b + 15 ∧ b ≤ 0x20C)
      = [0x200] :=
    (bases_eq_filter (r := ⟨0x20A, 0x20C⟩) (by decide)).symm
  obtain ⟨binary, -, text, hex, -, split, -, shown⟩ := dumps_show_same_memory m valid
  rw [selected] at binary shown
  refine ⟨valid, binary, text, hex, ?_, shown⟩
  rw [split, merged]
  simp only [List.map_cons, List.map_nil, first, second]
  rfl

end Headless

end Chip8
