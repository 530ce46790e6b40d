import Chip8.Proofs.Scaling
import Chip8.Window.Toolkit

/-!
# What the renderings show

The rows of a screen are slices of its cells, so the cells are what the rows are put together to.
As a text each row is a line, and with two characters that end no line the lines tell the cells.
As a surface each lit pixel is a square, and a host pixel lies in the square of one pixel only: that
of its column and row divided by the scale.
-/


namespace Chip8.Screen

variable {width height : Nat}

/-! ### Rows -/

/-- A list cut into pieces of one length, and put together again. -/
theorem flatten_slices {α : Type} (width : Nat) {height : Nat} {l : List α}
    (fits : l.length = width * height) :
    ((List.range height).map fun y => (l.drop (y * width)).take width).flatten = l := by
  induction height generalizing l with
  | zero => exact (List.length_eq_zero_iff.mp fits).symm
  | succ height ih =>
      have rest : (l.drop width).length = width * height := by
        rw [List.length_drop, fits, Nat.mul_succ, Nat.add_sub_cancel]
      have later (y : Nat) : (l.drop (Nat.succ y * width)).take width =
          ((l.drop width).drop (y * width)).take width := by
        rw [List.drop_drop, Nat.succ_mul, Nat.add_comm]
      rw [List.range_succ_eq_map, List.map_cons, List.map_map, List.flatten_cons, Nat.zero_mul,
        List.drop_zero]
      simp only [Function.comp_def, later, ih rest, List.take_append_drop]

theorem length_pixels (s : Screen width height) : s.pixels.toList.length = width * height := by
  simp

theorem getElem_pixels (s : Screen width height) (x : Fin width) (y : Fin height)
    (below : y.val * width + x.val < s.pixels.toList.length) :
    s.pixels.toList[y.val * width + x.val] = s.pixel x y := by
  rw [Vector.getElem_toList]
  rfl

/-- The rows are the slices of the cells, one after the other. -/
theorem rows_eq_slices (s : Screen width height) :
    s.rows = (List.range height).map fun y => (s.pixels.toList.drop (y * width)).take width := by
  refine List.ext_getElem (by simp [rows]) fun y shown _ => ?_
  have below : y < height := by simpa [rows] using shown
  have inside (x : Fin width) : y * width + x.val < s.pixels.toList.length := by
    rw [length_pixels]
    exact cell_lt x ⟨y, below⟩
  have fits : y * width + width ≤ s.pixels.toList.length := by
    rw [length_pixels, ← Nat.succ_mul, Nat.mul_comm width]
    exact Nat.mul_le_mul_right width below
  refine List.ext_getElem ?_ fun x left _ => ?_
  · simp [rows] at fits ⊢
    omega
  · have near : x < width := by simpa [rows] using left
    simp only [rows, List.getElem_map, List.getElem_finRange, List.getElem_take, List.getElem_drop,
      List.getElem_range]
    exact (s.getElem_pixels ⟨x, near⟩ ⟨y, below⟩ (inside ⟨x, near⟩)).symm

theorem flatten_rows (s : Screen width height) : s.rows.flatten = s.pixels.toList := by
  rw [rows_eq_slices, flatten_slices width s.length_pixels]

theorem ofList_pixels (s : Screen width height) : ofList width height s.pixels.toList = s := by
  rw [ofList, dif_pos s.length_pixels]
  rfl

/-! ### Text -/

/-- The character that stands for a cell. -/
def mark (on off : Char) (lit : Bool) : Char := if lit then on else off

/-- The text in which one character stands for a lit pixel and another for a dark one. -/
def text (s : Screen width height) (on off : Char) : String :=
  s.render (String.singleton on) (String.singleton off)

def lines (text : String) : List (List Char) := text.toList.splitOn '\n'

/-- The cells that a text shows, row by row. -/
def readBack (on : Char) (text : String) : List Bool := (lines text).flatten.map fun c => c = on

variable {on off : Char}

theorem toList_row (row : List Bool) :
    (String.join (row.map fun lit =>
      if lit then String.singleton on else String.singleton off)).toList
        = row.map (mark on off) := by
  have single (lit : Bool) : (if lit then String.singleton on else String.singleton off).toList
      = [mark on off lit] := by
    cases lit <;> exact String.toList_singleton _
  rw [String.toList_join, List.flatMap_map]
  simp only [single, ← List.map_eq_flatMap]

section Lines

variable (high : 0 < height) (onPlain : on ≠ '\n') (offPlain : off ≠ '\n')
include high onPlain offPlain

/-- Neither character ends a line, so there is one line for each row. -/
theorem lines_eq (s : Screen width height) :
    lines (s.text on off) = s.rows.map (List.map (mark on off)) := by
  have separator : "\n".toList = ['\n'] := rfl
  have joined : (s.rows.map fun row => String.join (row.map fun lit =>
      if lit then String.singleton on else String.singleton off)).map String.toList
        = s.rows.map (List.map (mark on off)) := by
    rw [List.map_map]
    exact List.map_congr_left fun row _ => toList_row row
  have nonempty : s.rows ≠ [] := by
    rw [← List.length_pos_iff]
    simpa [rows] using high
  rw [lines, text, render, String.toList_intercalate, separator, joined]
  refine List.splitOn_intercalate '\n' (fun line shown mem => ?_)
    (List.map_eq_nil_iff.not.mpr nonempty)
  obtain ⟨row, -, rfl⟩ := List.mem_map.mp shown
  obtain ⟨lit, -, same⟩ := List.mem_map.mp mem
  cases lit
  · exact offPlain same
  · exact onPlain same

theorem length_lines (s : Screen width height) : (lines (s.text on off)).length = height := by
  simp [lines_eq high onPlain offPlain, rows]

theorem length_of_mem_lines (s : Screen width height) :
    ∀ line ∈ lines (s.text on off), line.length = width := by
  simp [lines_eq high onPlain offPlain, rows]

theorem getElem?_lines (s : Screen width height) (x : Fin width) (y : Fin height) :
    (lines (s.text on off))[y.val]?.bind (·[x.val]?) = some (mark on off (s.pixel x y)) := by
  simp [lines_eq high onPlain offPlain, rows]

theorem readBack_text (distinct : on ≠ off) (s : Screen width height) :
    readBack on (s.text on off) = s.pixels.toList := by
  have told (lit : Bool) : decide (mark on off lit = on) = lit := by
    cases lit
    · exact decide_eq_false distinct.symm
    · exact decide_eq_true rfl
  rw [readBack, lines_eq high onPlain offPlain, List.map_flatten, List.map_map]
  simp only [Function.comp_def, List.map_map, told, List.map_id', flatten_rows]

end Lines

/-! ### Surface -/

variable {scale : Nat}

theorem pixelAt?_eq (s : Screen width height) (x : Fin width) (y : Fin height) :
    s.pixelAt? x.val y.val = .ok (s.pixel x y) := by
  have inside : (0 ≤ (x.val : Int) ∧ (x.val : Int) < width) ∧
      0 ≤ (y.val : Int) ∧ (y.val : Int) < height := by omega
  rw [pixelAt?, dif_pos inside]
  rfl

theorem square_eq (scale : Nat) (x : Fin width) (y : Fin height) :
    square scale x y = (⟨x.val, y.val, 1, 1⟩ : Rect).scaled scale := by
  simp [square, Rect.scaled]

/-- The host pixels of a square are those that belong to its pixel. -/
theorem contains_square_iff (pos : 0 < scale) {x : Fin width} {y : Fin height} {i j : Nat} :
    (square scale x y).contains i j = true ↔ i / scale = x.val ∧ j / scale = y.val := by
  rw [square_eq, Rect.contains_scaled pos, Rect.contains_iff]
  show (x.val ≤ i / scale ∧ i / scale < x.val + 1) ∧ y.val ≤ j / scale ∧ j / scale < y.val + 1 ↔ _
  omega

theorem mem_litSquares_iff {s : Screen width height} {area : Rect} :
    area ∈ s.litSquares scale ↔ ∃ x y, s.pixel x y = true ∧ square scale x y = area := by
  simp only [litSquares, List.mem_flatMap, List.mem_filterMap, List.mem_finRange, true_and,
    Option.ite_none_right_eq_some, Option.some.injEq]
  exact exists_comm

/-- The square of a pixel is the only one over it, so it has the colour of the pixel. -/
theorem paintedAt_surface (pos : 0 < scale) (s : Screen width height) (fg bg : Color)
    {x : Fin width} {y : Fin height} {i j : Nat} (column : i / scale = x.val)
    (row : j / scale = y.val) :
    paintedAt (s.surface scale fg bg).fills i j = some (if s.pixel x y then fg else bg) := by
  let squares : List Fill := (s.litSquares scale).map fun area => { color := fg, area := some area }
  have ground : paintedAt [{ color := bg }] i j = some bg := rfl
  have split : (s.surface scale fg bg).fills = [{ color := bg }] ++ squares := rfl
  rw [split, paintedAt_append, ground]
  by_cases lit : s.pixel x y = true
  · have mem : { color := fg, area := some (square scale x y) } ∈ squares :=
      List.mem_map_of_mem (mem_litSquares_iff.mpr ⟨x, y, lit, rfl⟩)
    have covers : (square scale x y).contains i j = true :=
      (contains_square_iff pos).mpr ⟨column, row⟩
    have alike : ∀ other ∈ squares, other.covers i j = true → other.color = fg := by
      intro other made _
      obtain ⟨area, -, rfl⟩ := List.mem_map.mp made
      rfl
    rw [paintedAt_eq_some mem covers alike, Option.some_or, if_pos lit]
  · -- A square over the host pixel would be that of this pixel, and be of a lit one.
    have apart : ∀ fill ∈ squares, fill.covers i j = false := by
      intro fill made
      obtain ⟨area, shown, rfl⟩ := List.mem_map.mp made
      obtain ⟨x', y', lit', rfl⟩ := mem_litSquares_iff.mp shown
      refine Bool.eq_false_iff.mpr fun covers => lit ?_
      obtain ⟨column', row'⟩ := (contains_square_iff pos).mp covers
      obtain rfl : x' = x := Fin.ext (column'.symm.trans column)
      obtain rfl : y' = y := Fin.ext (row'.symm.trans row)
      exact lit'
    rw [paintedAt_eq_none apart, Option.none_or, if_neg lit]

theorem fills_inside (s : Screen width height) (scale : Nat) (fg bg : Color) :
    ∀ fill ∈ (s.surface scale fg bg).fills, ∀ area, fill.area = some area →
      area.x + area.width ≤ width * scale ∧ area.y + area.height ≤ height * scale := by
  intro fill made area limited
  rcases List.mem_cons.mp made with rfl | made
  · cases limited
  · obtain ⟨square, shown, rfl⟩ := List.mem_map.mp made
    obtain ⟨x, y, -, rfl⟩ := mem_litSquares_iff.mp shown
    cases limited
    have column : (x.val + 1) * scale ≤ width * scale := Nat.mul_le_mul_right scale x.isLt
    have row : (y.val + 1) * scale ≤ height * scale := Nat.mul_le_mul_right scale y.isLt
    rw [Nat.succ_mul] at column row
    exact ⟨column, row⟩

/-- The text and the surface show a screen pixel by pixel. With two characters that end no line the
text has a line for each row and a character for each column, and the screen can be read back from
it. At every scale a surface that the toolkit can make enlarges every pixel to a square, without
gaps and within its size. -/
theorem renderings_show_pixels {width height : Nat} (high : 0 < height)
    (s : Screen width height) :
    (s.rows = (List.range height).map fun y => (s.pixels.toList.drop (y * width)).take width) ∧
    (∀ on off : Char, on ≠ off → on ≠ '\n' → off ≠ '\n' →
      (lines (s.text on off)).length = height ∧
      (∀ line ∈ lines (s.text on off), line.length = width) ∧
      (∀ x y : Nat, x < width → y < height → ∃ lit, s.pixelAt? x y = .ok lit ∧
        (lines (s.text on off))[y]?.bind (·[x]?) = some (if lit then on else off)) ∧
      ofList width height (readBack on (s.text on off)) = s ∧
      ∀ t : Screen width height, t.text on off = s.text on off → t = s) ∧
    ∀ (toolkit : Toolkit) (scale : Int) (fg bg : Color), toolkit.missing = none → 1 ≤ scale →
      ∃ surface, toolkit.surface? s scale fg bg = .ok surface ∧
        (surface.width : Int) = width * scale ∧ (surface.height : Int) = height * scale ∧
        (∀ i j : Nat, i < surface.width → j < surface.height →
          ∃ lit, s.pixelAt? (i / scale) (j / scale) = .ok lit ∧
            paintedAt surface.fills i j = some (if lit then fg else bg)) ∧
        ∀ fill ∈ surface.fills, ∀ area, fill.area = some area →
          area.x + area.width ≤ surface.width ∧ area.y + area.height ≤ surface.height := by
  refine ⟨s.rows_eq_slices, fun on off distinct onPlain offPlain => ?_,
    fun toolkit scale fg bg present pos => ?_⟩
  · have back (t : Screen width height) :
        ofList width height (readBack on (t.text on off)) = t := by
      rw [readBack_text high onPlain offPlain distinct, ofList_pixels]
    refine ⟨length_lines high onPlain offPlain s, length_of_mem_lines high onPlain offPlain s,
      fun x y left above => ?_, back s, fun t same => ?_⟩
    · exact ⟨_, s.pixelAt?_eq ⟨x, left⟩ ⟨y, above⟩,
        getElem?_lines high onPlain offPlain s ⟨x, left⟩ ⟨y, above⟩⟩
    · rw [← back t, same, back s]
  · obtain ⟨scale, rfl⟩ := Int.eq_ofNat_of_zero_le (Int.le_trans Int.one_nonneg pos)
    have pos : 0 < scale := by omega
    refine ⟨s.surface scale fg bg, ?_, Int.natCast_mul _ _, Int.natCast_mul _ _,
      fun i j left above => ?_, s.fills_inside scale fg bg⟩
    · rw [Toolkit.surface?, if_neg (by omega), present]
      rfl
    · have column : i / scale < width := (Nat.div_lt_iff_lt_mul pos).mpr left
      have row : j / scale < height := (Nat.div_lt_iff_lt_mul pos).mpr above
      exact ⟨_, s.pixelAt?_eq ⟨i / scale, column⟩ ⟨j / scale, row⟩,
        s.paintedAt_surface (x := ⟨i / scale, column⟩) (y := ⟨j / scale, row⟩) pos fg bg rfl rfl⟩

theorem renderings_show_pixels_of_corner :
    let s := (blank 3 2).toggle 1 0
    (lines (s.text '#' '.')).length = 2 ∧
    (lines (s.text '#' '.'))[0]?.bind (·[1]?) = some '#' ∧
    (lines (s.text '#' '.'))[1]?.bind (·[1]?) = some '.' ∧
    (∀ t : Screen 3 2, t.text '#' '.' = s.text '#' '.' → t = s) ∧
    ∃ surface, Toolkit.surface? {} s 2 .white .black = .ok surface ∧
      (surface.width : Int) = 6 ∧ (surface.height : Int) = 4 ∧
      paintedAt surface.fills 3 1 = some .white ∧ paintedAt surface.fills 4 1 = some .black := by
  obtain ⟨-, texts, surfaces⟩ := renderings_show_pixels (by decide) ((blank 3 2).toggle 1 0)
  obtain ⟨count, -, shown, -, injective⟩ := texts '#' '.' (by decide) (by decide) (by decide)
  obtain ⟨lit, seen, lighted⟩ := shown 1 0 (by decide) (by decide)
  obtain rfl : true = lit := Except.ok.inj seen
  obtain ⟨dark, seen', left⟩ := shown 1 1 (by decide) (by decide)
  obtain rfl : false = dark := Except.ok.inj seen'
  obtain ⟨surface, made, wide, tall, painted, -⟩ := surfaces {} 2 .white .black rfl (by decide)
  refine ⟨count, lighted, left, injective, surface, made, wide, tall, ?_, ?_⟩
  · obtain ⟨lit, seen, covered⟩ := painted 3 1 (by omega) (by omega)
    obtain rfl : true = lit := Except.ok.inj seen
    exact covered
  · obtain ⟨lit, seen, covered⟩ := painted 4 1 (by omega) (by omega)
    obtain rfl : false = lit := Except.ok.inj seen
    exact covered

end Chip8.Screen
