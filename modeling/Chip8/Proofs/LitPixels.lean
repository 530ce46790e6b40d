import Chip8.Proofs.Drawing
import Mathlib.Data.Finset.SymmDiff
import Mathlib.Data.Fintype.Prod

/-!
# Lit pixels

A screen is the set of its lit pixels: every cell belongs to one pixel, so two screens with the same
lit pixels are the same, and the number of lit cells is the size of the set. Drawing takes the
symmetric difference with the set of pixels under a visible bit of the sprite. What is lost from the
set are the pixels that both hold, so the size changes by the number of visible bits less twice the
number of pixels switched off.
-/

namespace Chip8.Screen

variable {width height : Nat}

/-! ### Cells and pixels -/

theorem cell_bijective (width height : Nat) :
    Function.Bijective fun p : Fin width × Fin height => cell p.1 p.2 := by
  refine (Fintype.bijective_iff_injective_and_card _).mpr ⟨fun p q same => ?_, by simp⟩
  obtain ⟨columns, rows⟩ := cell_inj same
  exact Prod.ext columns rows

theorem ext_of_pixel {s t : Screen width height} (same : ∀ x y, s.pixel x y = t.pixel x y) :
    s = t := by
  obtain ⟨cells⟩ := s
  obtain ⟨cells'⟩ := t
  congr
  ext i inside
  obtain ⟨⟨x, y⟩, place⟩ := (cell_bijective width height).2 ⟨i, inside⟩
  have value : i = (cell x y).val := congrArg Fin.val place.symm
  subst value
  exact same x y

/-- The lit pixels of a screen. -/
def lit (s : Screen width height) : Finset (Fin width × Fin height) :=
  {p | s.pixel p.1 p.2 = true}

theorem mem_lit_iff {s : Screen width height} {p : Fin width × Fin height} :
    p ∈ s.lit ↔ s.pixel p.1 p.2 = true := by
  simp [lit]

theorem litCount_eq_card (s : Screen width height) : s.litCount = s.lit.card := by
  have cells : s.pixels.toList = (List.finRange (width * height)).map fun i => s.pixels[i] :=
    List.ext_getElem (by simp) fun i _ _ => by simp
  have counted : s.litCount
      = (Finset.univ.filter fun i : Fin (width * height) => s.pixels[i] = true).card := by
    rw [litCount, cells, List.count_eq_countP, List.countP_map, List.countP_eq_length_filter,
      ← List.toFinset_card_of_nodup ((List.nodup_finRange _).filter _)]
    refine congrArg Finset.card (Finset.ext fun i => ?_)
    simp
  rw [counted]
  refine (Finset.card_bijective _ (cell_bijective width height) fun p => ?_).symm
  simp [mem_lit_iff, pixel]

/-! ### Visible bits -/

/-- The pixels that a bit of a sprite lies over. -/
def drawn (width height : Nat) (x y : Int) (sprite : List Int) :
    Finset (Fin width × Fin height) :=
  {p | drawnBit x y sprite p.1 p.2 = true}

theorem mem_drawn_iff {x y : Int} {sprite : List Int} {p : Fin width × Fin height} :
    p ∈ drawn width height x y sprite ↔ drawnBit x y sprite p.1 p.2 = true := by
  simp [drawn]

/-- The set bits of a sprite that lie on the screen, by their row and their column. -/
def visibleBits (width height : Nat) (x y : Int) (sprite : List Int) :
    Finset (Fin sprite.length × Fin 8) :=
  {bit | x % width + bit.2 < width ∧ y % height + bit.1 < height ∧
    (sprite.get bit.1).testBit (7 - bit.2) = true}

theorem mem_visibleBits_iff {x y : Int} {sprite : List Int} {bit : Fin sprite.length × Fin 8} :
    bit ∈ visibleBits width height x y sprite ↔
      x % width + bit.2 < width ∧ y % height + bit.1 < height ∧
        (sprite.get bit.1).testBit (7 - bit.2) = true := by
  simp [visibleBits]

theorem card_visibleBits (wide : 0 < width) (high : 0 < height) (x y : Int) (sprite : List Int) :
    (visibleBits width height x y sprite).card = (drawn width height x y sprite).card := by
  have corner := toNat_corner x wide
  have corner' := toNat_corner y high
  have visible {bit : Fin sprite.length × Fin 8} (mem : bit ∈ visibleBits width height x y sprite) :
      (x % width).toNat + bit.2 < width ∧ (y % height).toNat + bit.1 < height := by
    obtain ⟨column, row, -⟩ := mem_visibleBits_iff.mp mem
    omega
  refine Finset.card_bij (fun bit mem =>
    (⟨(x % width).toNat + bit.2, (visible mem).1⟩, ⟨(y % height).toNat + bit.1, (visible mem).2⟩))
    ?_ ?_ ?_
  · intro bit mem
    obtain ⟨-, -, set⟩ := mem_visibleBits_iff.mp mem
    have column : (((x % width).toNat + bit.2 : Nat) : Int) - x % width = (bit.2 : Nat) := by omega
    have row : (((y % height).toNat + bit.1 : Nat) : Int) - y % height = (bit.1 : Nat) := by omega
    simp only [mem_drawn_iff, drawnBit_eq_true_iff, column, row, Int.toNat_natCast]
    exact ⟨by omega, sprite.get bit.1, by simp, set⟩
  · rintro bit mem bit' mem' same
    obtain ⟨columns, rows⟩ := Prod.mk.inj same
    have columns := congrArg Fin.val columns
    have rows := congrArg Fin.val rows
    exact Prod.ext (Fin.ext (Nat.add_left_cancel rows)) (Fin.ext (Nat.add_left_cancel columns))
  · rintro ⟨px, py⟩ mem
    have drawn : drawnBit x y sprite px py = true := mem_drawn_iff.mp mem
    obtain ⟨placed, bits, shown, set⟩ := drawnBit_eq_true_iff.mp drawn
    obtain ⟨inside, value⟩ := List.getElem?_eq_some_iff.mp shown
    refine ⟨(⟨((py : Int) - y % height).toNat, inside⟩, ⟨((px : Int) - x % width).toNat, by omega⟩),
      ?_, Prod.ext (Fin.ext ?_) (Fin.ext ?_)⟩
    · simp only [mem_visibleBits_iff, List.get_eq_getElem, value]
      exact ⟨by omega, by omega, set⟩
    · show (x % width).toNat + ((px : Int) - x % width).toNat = px
      omega
    · show (y % height).toNat + ((py : Int) - y % height).toNat = py
      omega

theorem lit_draw (wide : 0 < width) (high : 0 < height) (s : Screen width height) (x y : Int)
    (sprite : List Int) :
    (s.draw x y sprite).1.lit = symmDiff s.lit (drawn width height x y sprite) := by
  ext p
  rw [Finset.mem_symmDiff, mem_lit_iff, mem_lit_iff, mem_drawn_iff, pixel_draw wide high]
  cases s.pixel p.1 p.2 <;> cases drawnBit x y sprite p.1 p.2 <;> simp

/-- The pixels that drawing switches off are the lit ones that it draws. -/
theorem lit_sdiff_lit_draw (wide : 0 < width) (high : 0 < height) (s : Screen width height)
    (x y : Int) (sprite : List Int) :
    s.lit \ (s.draw x y sprite).1.lit = s.lit ∩ drawn width height x y sprite := by
  rw [lit_draw wide high, sdiff_symmDiff_left]
  rfl

theorem litCount_draw (wide : 0 < width) (high : 0 < height) (s : Screen width height) (x y : Int)
    (sprite : List Int) :
    (s.draw x y sprite).1.litCount + 2 * (s.lit \ (s.draw x y sprite).1.lit).card
      = s.litCount + (visibleBits width height x y sprite).card := by
  rw [litCount_eq_card, litCount_eq_card, card_visibleBits wide high,
    lit_sdiff_lit_draw wide high, lit_draw wide high, symmDiff_def, Finset.sup_eq_union,
    Finset.card_union_of_disjoint disjoint_sdiff_sdiff]
  have first := Finset.card_sdiff_add_card_inter s.lit (drawn width height x y sprite)
  have second := Finset.card_sdiff_add_card_inter (drawn width height x y sprite) s.lit
  rw [Finset.inter_comm] at second
  omega

end Chip8.Screen
