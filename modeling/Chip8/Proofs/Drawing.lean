import Chip8.Screen
import Mathlib.Data.Int.Bitwise
import Mathlib.Data.List.Nodup

/-!
# Drawing is an exclusive or

The pixels that a sprite toggles are all different, so each is toggled once at most, and the pixel
that a toggle finds is still the one that drawing started from. Both the new screen and the flag can
therefore be read off the old screen: a pixel changes exactly where a bit of the sprite lies over
it, and the flag says whether one of those was lit. Where a bit lies is told by the sprite, its
wrapped corner and the edges alone.
-/

namespace Chip8.Screen

variable {width height : Nat}

/-- The bit of a sprite that lies over a pixel when its top left corner is wrapped onto the screen,
false where none does. -/
def drawnBit (x y : Int) (sprite : List Int) (px : Fin width) (py : Fin height) : Bool :=
  let column := (px : Int) - x % width
  let row := (py : Int) - y % height
  if h : (0 ≤ row ∧ row < sprite.length) ∧ 0 ≤ column ∧ column < 8 then
    sprite[row.toNat].testBit (7 - column.toNat)
  else false

theorem drawnBit_eq_true_iff {x y : Int} {sprite : List Int} {px : Fin width} {py : Fin height} :
    drawnBit x y sprite px py = true ↔
      (0 ≤ (px : Int) - x % width ∧ (px : Int) - x % width < 8 ∧ 0 ≤ (py : Int) - y % height) ∧
        ∃ bits, sprite[((py : Int) - y % height).toNat]? = some bits ∧
          bits.testBit (7 - ((px : Int) - x % width).toNat) = true := by
  simp only [drawnBit]
  split
  · rename_i placed
    have inside : ((py : Int) - y % height).toNat < sprite.length := by omega
    rw [List.getElem?_eq_getElem inside]
    simp only [Option.some.injEq, exists_eq_left']
    exact (and_iff_right (by omega)).symm
  · rename_i apart
    refine iff_of_false Bool.false_ne_true ?_
    rintro ⟨near, bits, shown, -⟩
    obtain ⟨below, -⟩ := List.getElem?_eq_some_iff.mp shown
    omega

/-! ### The pixels of a sprite -/

/-- A row is read as a number in two's complement, from its highest bit. -/
theorem spriteBit_eq_testBit (row : Int) (column : Nat) :
    spriteBit row column = row.testBit (7 - column) := by
  rw [spriteBit]
  cases row with
  | ofNat n =>
      change decide (((n >>> (7 - column) : Nat) : Int) % 2 = 1) = n.testBit (7 - column)
      rw [Nat.testBit_eq_decide_div_mod_eq, ← Nat.shiftRight_eq_div_pow, decide_eq_decide]
      omega
  | negSucc n =>
      change decide (Int.negSucc (n >>> (7 - column)) % 2 = 1) = !n.testBit (7 - column)
      rw [Nat.testBit_eq_decide_div_mod_eq, ← Nat.shiftRight_eq_div_pow, ← decide_not,
        decide_eq_decide]
      omega

theorem mem_rowColumns_iff {left : Nat} {row : Int} {px : Fin width} :
    px ∈ rowColumns width left row ↔
      left ≤ px ∧ px < left + 8 ∧ spriteBit row (px - left) = true := by
  simp only [rowColumns, List.mem_filterMap, List.mem_range]
  constructor
  · rintro ⟨column, below, shown⟩
    split at shown
    · split at shown
      · cases shown
        rename_i bit
        exact ⟨Nat.le_add_right _ _, by simpa using below, by simpa using bit⟩
      · cases shown
    · cases shown
  · rintro ⟨right, near, bit⟩
    refine ⟨px - left, by omega, ?_⟩
    have inside : left + (px - left) < width := by omega
    rw [dif_pos inside, if_pos bit]
    exact congrArg some (Fin.ext (Nat.add_sub_cancel' right))

theorem nodup_rowColumns (width left : Nat) (row : Int) : (rowColumns width left row).Nodup := by
  refine List.Nodup.filterMap (fun column column' px shown shown' => ?_) List.nodup_range
  have place {c : Nat} (shown : px ∈ if h : left + c < width then
      if spriteBit row c then some (⟨left + c, h⟩ : Fin width) else none else none) :
      left + c = px := by
    split at shown
    · split at shown
      · cases shown
        rfl
      · cases shown
    · cases shown
  have := place shown
  have := place shown'
  omega

/-- The rows below the screen are dropped, and the others keep their distance to the top one. -/
theorem mem_spritePixels_iff {left top : Nat} {sprite : List Int} {px : Fin width}
    {py : Fin height} :
    (px, py) ∈ spritePixels width height left top sprite ↔
      top ≤ py ∧ ∃ row, sprite[py - top]? = some row ∧ px ∈ rowColumns width left row := by
  induction sprite generalizing top with
  | nil => simp [spritePixels]
  | cons row rest ih =>
      rw [spritePixels]
      split
      · rename_i inside
        rw [List.mem_append, List.mem_map, ih]
        constructor
        · rintro (⟨x, mem, same⟩ | ⟨below, later⟩)
          · cases same
            exact ⟨Nat.le_refl _, row, by simp, mem⟩
          · have next : py - top = py - (top + 1) + 1 := by omega
            exact ⟨by omega, by rwa [next, List.getElem?_cons_succ]⟩
        · rintro ⟨below, row', shown, mem⟩
          by_cases first : py = top
          · rw [first, Nat.sub_self] at shown
            cases shown
            exact .inl ⟨px, mem, Prod.ext rfl (Fin.ext first.symm)⟩
          · have next : py - top = py - (top + 1) + 1 := by omega
            rw [next, List.getElem?_cons_succ] at shown
            exact .inr ⟨by omega, row', shown, mem⟩
      · rename_i outside
        refine iff_of_false List.not_mem_nil fun shown => ?_
        have := shown.1
        omega

theorem nodup_spritePixels (width height left top : Nat) (sprite : List Int) :
    (spritePixels width height left top sprite).Nodup := by
  induction sprite generalizing top with
  | nil => exact List.nodup_nil
  | cons row rest ih =>
      rw [spritePixels]
      split
      · refine List.nodup_append.mpr ⟨?_, ih (top + 1), ?_⟩
        · exact (nodup_rowColumns width left row).map fun x x' same => (Prod.mk.inj same).1
        · rintro pixel first ⟨px, py⟩ later rfl
          obtain ⟨x, -, same⟩ := List.mem_map.mp first
          have below := (mem_spritePixels_iff.mp later).1
          cases same
          exact absurd below (Nat.not_succ_le_self top)
      · exact List.nodup_nil

/-! ### Toggling -/

/-- The flag of a run of toggles is the old flag or that of the same run started unflagged. -/
theorem toggleAll_eq (s : Screen width height) (collision : Bool)
    (pixels : List (Fin width × Fin height)) :
    s.toggleAll collision pixels
      = ((s.toggleAll false pixels).1, collision || (s.toggleAll false pixels).2) := by
  induction pixels generalizing s collision with
  | nil => simp [toggleAll]
  | cons pixel rest ih =>
      obtain ⟨x, y⟩ := pixel
      rw [toggleAll, toggleAll, ih, ih _ (false || s.pixel x y), Bool.false_or, Bool.or_assoc]

theorem pixel_toggleAll (s : Screen width height) (collision : Bool)
    {pixels : List (Fin width × Fin height)} (nodup : pixels.Nodup) {px : Fin width}
    {py : Fin height} {bit : Bool} (toggles : bit = true ↔ (px, py) ∈ pixels) :
    (s.toggleAll collision pixels).1.pixel px py = (s.pixel px py ^^ bit) := by
  induction pixels generalizing s collision bit with
  | nil =>
      have unset : bit = false := Bool.eq_false_iff.mpr fun set => List.not_mem_nil (toggles.mp set)
      rw [toggleAll, unset, Bool.xor_false]
  | cons pixel rest ih =>
      obtain ⟨x, y⟩ := pixel
      obtain ⟨fresh, nodup⟩ := List.nodup_cons.mp nodup
      by_cases here : x = px ∧ y = py
      · obtain ⟨rfl, rfl⟩ := here
        have set : bit = true := toggles.mpr List.mem_cons_self
        have later : false = true ↔ (x, y) ∈ rest := iff_of_false Bool.false_ne_true fresh
        rw [toggleAll, ih _ _ nodup later, pixel_toggle, if_pos ⟨rfl, rfl⟩, set, Bool.xor_false,
          Bool.xor_true]
      · have elsewhere : (px, py) ≠ (x, y) := fun same => here ⟨congrArg Prod.fst same.symm,
          congrArg Prod.snd same.symm⟩
        have later : bit = true ↔ (px, py) ∈ rest := by
          rw [toggles, List.mem_cons, or_iff_right elsewhere]
        rw [toggleAll, ih _ _ nodup later, pixel_toggle, if_neg here]

theorem toggleAll_snd_eq_true_iff (s : Screen width height)
    {pixels : List (Fin width × Fin height)} (nodup : pixels.Nodup) :
    (s.toggleAll false pixels).2 = true ↔ ∃ p ∈ pixels, s.pixel p.1 p.2 = true := by
  induction pixels generalizing s with
  | nil => simp [toggleAll]
  | cons pixel rest ih =>
      obtain ⟨x, y⟩ := pixel
      obtain ⟨fresh, nodup⟩ := List.nodup_cons.mp nodup
      rw [toggleAll, toggleAll_eq, Bool.false_or, Bool.or_eq_true, ih _ nodup,
        List.exists_mem_cons_iff]
      -- what comes later lies elsewhere, so it was lit before the toggle if it is lit after
      refine or_congr_right (exists_congr fun p => and_congr_right fun later => ?_)
      rw [pixel_toggle, if_neg fun same => fresh ?_]
      rwa [show (x, y) = p from Prod.ext same.1 same.2]

/-! ### Drawing -/

theorem toNat_corner (a : Int) {n : Nat} (pos : 0 < n) : ((a % n).toNat : Int) = a % n :=
  Int.toNat_of_nonneg (Int.emod_nonneg a (by omega))

theorem nodup_drawnPixels (width height : Nat) (x y : Int) (sprite : List Int) :
    (drawnPixels width height x y sprite).Nodup :=
  nodup_spritePixels _ _ _ _ sprite

theorem mem_drawnPixels_iff (wide : 0 < width) (high : 0 < height) {x y : Int} {sprite : List Int}
    {px : Fin width} {py : Fin height} :
    (px, py) ∈ drawnPixels width height x y sprite ↔ drawnBit x y sprite px py = true := by
  have corner := toNat_corner x wide
  have corner' := toNat_corner y high
  rw [drawnPixels, mem_spritePixels_iff, drawnBit_eq_true_iff]
  generalize (x % width).toNat = left at corner ⊢
  generalize (y % height).toNat = top at corner' ⊢
  have column : ((px : Int) - left).toNat = px - left := by omega
  have row : ((py : Int) - top).toNat = py - top := by omega
  rw [← corner, ← corner', column, row]
  simp only [mem_rowColumns_iff, spriteBit_eq_testBit]
  constructor
  · rintro ⟨below, bits, shown, right, near, bit⟩
    exact ⟨by omega, bits, shown, bit⟩
  · rintro ⟨placed, bits, shown, bit⟩
    exact ⟨by omega, bits, shown, by omega, by omega, bit⟩

theorem pixel_draw (wide : 0 < width) (high : 0 < height) (s : Screen width height) (x y : Int)
    (sprite : List Int) (px : Fin width) (py : Fin height) :
    (s.draw x y sprite).1.pixel px py = (s.pixel px py ^^ drawnBit x y sprite px py) :=
  pixel_toggleAll s false (nodup_drawnPixels width height x y sprite)
    (mem_drawnPixels_iff wide high).symm

/-- A pixel was switched off if and only if it was lit and a bit lies over it. -/
theorem draw_snd_eq_true_iff (wide : 0 < width) (high : 0 < height) (s : Screen width height)
    (x y : Int) (sprite : List Int) :
    (s.draw x y sprite).2 = true ↔
      ∃ px py, s.pixel px py = true ∧ (s.draw x y sprite).1.pixel px py = false := by
  rw [draw, toggleAll_snd_eq_true_iff s (nodup_drawnPixels width height x y sprite), ← draw]
  constructor
  · rintro ⟨⟨px, py⟩, drawn, lit⟩
    refine ⟨px, py, lit, ?_⟩
    rw [pixel_draw wide high, lit, (mem_drawnPixels_iff wide high).mp drawn]
    rfl
  · rintro ⟨px, py, lit, dark⟩
    rw [pixel_draw wide high, lit, Bool.true_xor, Bool.not_eq_false'] at dark
    exact ⟨(px, py), (mem_drawnPixels_iff wide high).mpr dark, lit⟩

theorem draw?_eq_ok (wide : 0 < width) (high : 0 < height) (s : Screen width height) (x y : Int)
    (sprite : List Int) : s.draw? x y sprite = .ok (s.draw x y sprite) :=
  if_neg (by omega)

/-- On a screen that has an area, drawing succeeds and is an exclusive or with the bits of the
sprite, its corner wrapped onto the screen. No bit comes round to the columns left of the corner or
to the rows above it. The flag says whether a lit pixel became dark. -/
theorem draw_is_clipped_xor {width height : Nat} (wide : 0 < width) (high : 0 < height)
    (s : Screen width height) (x y : Int) (sprite : List Int) :
    ∃ after flag, s.draw? x y sprite = .ok (after, flag) ∧
      (∀ (px : Fin width) (py : Fin height),
        after.pixel px py = (s.pixel px py ^^ drawnBit x y sprite px py)) ∧
      (∀ (px : Fin width) (py : Fin height), px < x % width ∨ py < y % height →
        after.pixel px py = s.pixel px py) ∧
      (flag = true ↔ ∃ px py, s.pixel px py = true ∧ after.pixel px py = false) := by
  refine ⟨(s.draw x y sprite).1, (s.draw x y sprite).2, s.draw?_eq_ok wide high x y sprite,
    s.pixel_draw wide high x y sprite, fun px py before => ?_,
    s.draw_snd_eq_true_iff wide high x y sprite⟩
  have unset : drawnBit x y sprite px py = false := by
    rw [Bool.eq_false_iff, ne_eq, drawnBit_eq_true_iff]
    rintro ⟨placed, -⟩
    omega
  rw [pixel_draw wide high, unset, Bool.xor_false]

/-- On a screen of five columns and two rows the corner is wrapped to column 3 of row 1. Of three
full rows two bits are left: one switches a pixel off, the other one on. -/
theorem draw_is_clipped_xor_of_corner :
    let s := (blank 5 2).toggle 3 1
    0 < 5 ∧ 0 < 2 ∧ ∃ after, s.draw? (-2) 7 [-1, 0xFF, 0x1FF] = .ok (after, true) ∧
      after.pixel 3 1 = false ∧ after.pixel 4 1 = true ∧ after.pixel 0 1 = false ∧
      after.pixel 3 0 = false := by
  intro s
  obtain ⟨after, flag, drawn, pixels, -, collides⟩ :=
    draw_is_clipped_xor (by decide) (by decide) s (-2) 7 [-1, 0xFF, 0x1FF]
  have off : after.pixel 3 1 = false := (pixels 3 1).trans (by decide)
  obtain rfl : flag = true := collides.mpr ⟨3, 1, by decide, off⟩
  exact ⟨by decide, by decide, after, drawn, off, (pixels 4 1).trans (by decide),
    (pixels 0 1).trans (by decide), (pixels 3 0).trans (by decide)⟩

end Chip8.Screen
