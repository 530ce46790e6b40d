import Chip8.Dump
import Chip8.Proofs.FileNames
import Chip8.Proofs.Trace

/-!
# Reading a table of memory

A row of a table is an address of four digits and sixteen cells, each a space and two digits. No
other line of a table can be taken for a row, since a header is as long as a row but no numeral, and
the line between two tables is empty. So a reader that knows nothing of ranges finds the rows in the
text, and from each the address that it starts at and the bytes from there on.
-/

namespace Chip8.Dump

/-- The bytes that cells show, if each is a space and two digits. -/
def readCells? : List Char → Option (List UInt8)
  | [] => some []
  | ' ' :: high :: low :: rest =>
      (Hex.read? [high, low]).bind fun byte => (readCells? rest).map (UInt8.ofNat byte :: ·)
  | _ => none

/-- The address and the bytes of a line, if the line is a row. -/
def readRow? (line : List Char) : Option (Nat × List UInt8) :=
  if line.length = 52 then
    (Hex.read? (line.take 4)).bind fun base => (readCells? (line.drop 4)).map (base, ·)
  else none

/-- The rows of a text, in order. -/
def readRows (text : String) : List (Nat × List UInt8) :=
  (text.toList.splitOn '\n').filterMap readRow?

/-- The addresses and bytes that a text shows, in order. -/
def readBack (text : String) : List (Nat × UInt8) :=
  (readRows text).flatMap fun row => row.2.mapIdx fun offset byte => (row.1 + offset, byte)

/-! ### Rows -/

theorem intercalate_cons {α : Type} (separator first : List α) (rest : List (List α)) :
    separator.intercalate (first :: rest) = first ++ rest.flatMap (separator ++ ·) := by
  induction rest generalizing first with
  | nil => simp
  | cons second rest ih =>
      rw [List.intercalate_cons_cons, ih, List.flatMap_cons, List.append_assoc, List.append_assoc]

theorem toList_row (m : Machine) (base : Nat) :
    (row m base).toList = Hex.digits 4 (base % 4096)
      ++ (m.readMemory base 16).flatMap fun byte => ' ' :: Hex.digits 2 byte.toNat := by
  rw [row, String.toList_intercalate, List.map_cons, intercalate_cons, List.map_map,
    List.flatMap_map]
  simp [Hex.text]

theorem readCells?_cells (bytes : List UInt8) :
    readCells? (bytes.flatMap fun byte => ' ' :: Hex.digits 2 byte.toNat) = some bytes := by
  induction bytes with
  | nil => rfl
  | cons byte rest ih =>
      have value : Hex.read? (Hex.digits 2 byte.toNat) = some byte.toNat := by
        rw [Hex.read?_digits, Nat.mod_eq_of_lt byte.toNat_lt]
      have pair : Hex.digits 2 byte.toNat
          = [Hex.digit (byte.toNat / 16), Hex.digit byte.toNat] := rfl
      rw [pair] at value
      rw [List.flatMap_cons, pair]
      simp only [List.cons_append, List.nil_append, readCells?]
      rw [value, ih, Option.bind_some, Option.map_some, UInt8.ofNat_toNat]

theorem length_cells (bytes : List UInt8) :
    (bytes.flatMap fun byte => ' ' :: Hex.digits 2 byte.toNat).length = 3 * bytes.length := by
  induction bytes with
  | nil => rfl
  | cons byte rest ih =>
      rw [List.flatMap_cons, List.length_append, ih, List.length_cons, List.length_cons,
        Hex.length_digits]
      omega

theorem length_readMemory (m : Machine) (address length : Int) :
    (m.readMemory address length).length = length.toNat :=
  Ram.length_loadBlock _ _ _

/-- A row is read as the address that it shows and the bytes from there on. -/
theorem readRow?_row (m : Machine) (base : Nat) :
    readRow? (row m base).toList = some (base % 4096, m.readMemory base 16) := by
  have address := Hex.length_digits 4 (base % 4096)
  have value : Hex.read? (Hex.digits 4 (base % 4096)) = some (base % 4096) := by
    rw [Hex.read?_digits, Nat.mod_eq_of_lt (Nat.lt_trans (Nat.mod_lt _ (by decide)) (by decide))]
  have cells := length_cells (m.readMemory base 16)
  rw [length_readMemory] at cells
  rw [readRow?, toList_row, if_pos (by rw [List.length_append, address, cells]; rfl),
    List.take_left' address, List.drop_left' address, value, readCells?_cells]
  rfl

theorem readRow?_header : readRow? header.toList = none := by decide +kernel

/-! ### Lines -/

theorem newline_not_mem_digits (width n : Nat) : '\n' ∉ Hex.digits width n := fun mem =>
  absurd (Hex.mem_upperDigits_of_mem_digits mem) (by decide)

theorem newline_not_mem_row (m : Machine) (base : Nat) : '\n' ∉ (row m base).toList := by
  rw [toList_row, List.mem_append, List.mem_flatMap]
  rintro (address | ⟨byte, -, cell⟩)
  · exact newline_not_mem_digits _ _ address
  · rcases List.mem_cons.mp cell with space | digit
    · exact absurd space (by decide)
    · exact newline_not_mem_digits _ _ digit

theorem newline_not_mem_table (m : Machine) (r : AddressRange) :
    ∀ line ∈ table m r, '\n' ∉ line.toList := by
  rw [table, List.forall_mem_cons]
  refine ⟨by decide +kernel, fun line mem => ?_⟩
  obtain ⟨base, -, rfl⟩ := List.mem_map.mp mem
  exact newline_not_mem_row m base

theorem lines_cons (m : Machine) (r : AddressRange) (rest : List AddressRange) :
    lines m (r :: rest) = table m r ++ rest.flatMap fun s => "" :: table m s := by
  rw [lines, List.map_cons, intercalate_cons, List.flatMap_map]
  rfl

theorem newline_not_mem_lines (m : Machine) (ranges : List AddressRange) :
    ∀ line ∈ lines m ranges, '\n' ∉ line.toList := by
  intro line mem
  cases ranges with
  | nil => cases mem
  | cons r rest =>
      rw [lines_cons, List.mem_append, List.mem_flatMap] at mem
      rcases mem with first | ⟨s, -, other⟩
      · exact newline_not_mem_table m r line first
      · rcases List.mem_cons.mp other with rfl | other
        · exact List.not_mem_nil
        · exact newline_not_mem_table m s line other

/-- Splitting a dump at its line ends gives back the lines it was made of. -/
theorem splitOn_hex (m : Machine) {ranges : List AddressRange} (some : ranges ≠ []) :
    (hex m ranges).toList.splitOn '\n' = (lines m ranges).map String.toList := by
  have separator : "\n".toList = ['\n'] := rfl
  rw [hex, String.toList_intercalate, separator]
  refine List.splitOn_intercalate '\n' (fun chars mem => ?_) ?_
  · obtain ⟨line, shown, rfl⟩ := List.mem_map.mp mem
    exact newline_not_mem_lines m ranges line shown
  · obtain ⟨r, rest, rfl⟩ := List.exists_cons_of_ne_nil some
    simp [lines_cons, table]

/-! ### Reading back -/

theorem filterMap_table (m : Machine) (r : AddressRange) :
    ((table m r).map String.toList).filterMap readRow?
      = (bases r).map fun base : Nat => (base % 4096, m.readMemory base 16) := by
  rw [table, List.map_cons, List.filterMap_cons_none readRow?_header, List.map_map,
    List.filterMap_map, ← List.filterMap_eq_map']
  simp only [Function.comp_apply, readRow?_row]

/-- The rows of a dump are those of its ranges, one range after the other. -/
theorem readRows_hex (m : Machine) (ranges : List AddressRange) :
    readRows (hex m ranges)
      = (ranges.flatMap bases).map fun base : Nat => (base % 4096, m.readMemory base 16) := by
  cases ranges with
  | nil => rfl
  | cons r rest =>
      have empty : readRow? "".toList = none := rfl
      rw [readRows, splitOn_hex m (List.cons_ne_nil r rest), lines_cons, List.map_append,
        List.filterMap_append, filterMap_table, List.flatMap_cons, List.map_append, List.map_flatMap,
        List.map_flatMap, List.filterMap_flatMap]
      simp only [List.map_cons, List.filterMap_cons_none empty, filterMap_table]

/-- The addresses of the blocks that a range touches, all sixteen of each. -/
def rowAddresses (r : AddressRange) : List Nat := (bases r).flatMap fun base => List.range' base 16

/-- An address of memory and the byte there. -/
def cell (m : Machine) (a : Nat) : Nat × UInt8 := (a, m.core.memory.load a)

theorem cells_of_row (m : Machine) (base : Nat) :
    ((m.readMemory base 16).mapIdx fun offset byte => (base + offset, byte))
      = (List.range' base 16).map (cell m) := by
  refine List.ext_getElem (by simp [length_readMemory]) fun k _ _ => ?_
  simp [Machine.readMemory, Ram.loadBlock, cell]

/-- What a dump of ranges in memory shows: their rows, and in them what memory holds. -/
theorem readBack_hex (m : Machine) {ranges : List AddressRange}
    (inMemory : ∀ r ∈ ranges, r.stop ≤ Address.last) :
    readBack (hex m ranges) = (ranges.flatMap rowAddresses).map (cell m) := by
  have shown : ∀ base ∈ ranges.flatMap bases, base % 4096 = base := by
    intro base mem
    obtain ⟨r, listed, based⟩ := List.mem_flatMap.mp mem
    obtain ⟨k, before, rfl⟩ := List.mem_map.mp based
    have inside := inMemory r listed
    have := List.mem_range.mp before
    simp only [Address.last] at inside
    omega
  have rows : (ranges.flatMap bases).map (fun base : Nat => (base % 4096, m.readMemory base 16))
      = (ranges.flatMap bases).map fun base : Nat => (base, m.readMemory base 16) :=
    List.map_congr_left fun base mem => by rw [shown base mem]
  rw [readBack, readRows_hex, rows, List.flatMap_map]
  simp only [cells_of_row, rowAddresses, List.map_flatMap, List.flatMap_assoc]

end Chip8.Dump
