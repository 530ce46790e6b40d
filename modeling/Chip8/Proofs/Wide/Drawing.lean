import Chip8.Proofs.Drawing
import Chip8.Proofs.Wide.View

/-!
# Drawing pixel by pixel

The interpreter without widths draws with two loops that end at the edges of the screen and index a
flat list of pixels. The screen toggles a list of pixels made beforehand. Both toggle the same
pixels in the same order: the bits of a row are taken from the left, and past the edge none is left.
-/

namespace Chip8

namespace Screen

variable {width height : Nat}

theorem toggleAll_append (s : Screen width height) (collision : Bool)
    (first second : List (Fin width × Fin height)) :
    s.toggleAll collision (first ++ second)
      = (s.toggleAll collision first).1.toggleAll (s.toggleAll collision first).2 second := by
  induction first generalizing s collision with
  | nil => rfl
  | cons pixel rest ih => exact ih _ _

/-- The column of the screen that one bit of a sprite row sets, if it sets one. -/
def bitColumn? (width left : Nat) (row : Int) (column : Nat) : Option (Fin width) :=
  if h : left + column < width then
    if spriteBit row column then some ⟨left + column, h⟩ else none
  else none

/-- The columns that the last `count` bits of a sprite row set. -/
def lastColumns (width left : Nat) (row : Int) (count : Nat) : List (Fin width) :=
  (List.range' (8 - count) count).filterMap (bitColumn? width left row)

theorem lastColumns_all (width left : Nat) (row : Int) :
    lastColumns width left row 8 = rowColumns width left row := rfl

theorem lastColumns_succ (width left : Nat) (row : Int) {count : Nat} (h : count < 8) :
    lastColumns width left row (count + 1)
      = (bitColumn? width left row (7 - count)).toList ++ lastColumns width left row count := by
  have first : 8 - (count + 1) = 7 - count := by omega
  have second : 7 - count + 1 = 8 - count := by omega
  rw [lastColumns, List.range'_succ, List.filterMap_cons, first, second]
  cases bitColumn? width left row (7 - count) <;> rfl

theorem lastColumns_eq_nil {width left count : Nat} (row : Int)
    (past : width ≤ left + (8 - count)) : lastColumns width left row count = [] := by
  rw [lastColumns, List.filterMap_eq_nil_iff]
  intro column hcolumn
  have := List.mem_range'_1.mp hcolumn
  exact dif_neg (by omega)

end Screen

namespace Core

/-- The core with pixels of its screen toggled. -/
def toggled (c : Core) (pixels : List (Fin 64 × Fin 32)) : Core :=
  { c with screen := (c.screen.toggleAll false pixels).1 }

/-- Was one of the pixels lit when its turn came? -/
def collides (c : Core) (pixels : List (Fin 64 × Fin 32)) : Bool :=
  (c.screen.toggleAll false pixels).2

theorem toggled_append (c : Core) (first second : List (Fin 64 × Fin 32)) :
    c.toggled (first ++ second) = (c.toggled first).toggled second := by
  simp only [toggled, Screen.toggleAll_append, Screen.toggleAll_eq _ (Prod.snd _)]

theorem collides_append (c : Core) (first second : List (Fin 64 × Fin 32)) :
    c.collides (first ++ second) = (c.collides first || (c.toggled first).collides second) := by
  simp only [collides, toggled, Screen.toggleAll_append, Screen.toggleAll_eq _ (Prod.snd _)]

end Core

namespace Wide

open Screen

variable {c : Core}

theorem runs_toggle (x : Fin 64) (y : Fin 32) :
    Runs (toggle ((y.val : Int) * 64 + x.val)) c (c.collides [(x, y)]) (c.toggled [(x, y)]) := by
  have cell : ((y.val : Int) * 64 + x.val) = (Screen.cell x y).val := by simp [Screen.cell]
  have inside : (Screen.cell x y).val < c.wide.pixels.length := by simp [Core.wide]
  have lit : c.wide.pixels[(Screen.cell x y).val]? = some (c.screen.pixel x y) := by
    simp [Core.wide, Screen.pixel]
  refine Runs.get_bind ?_
  rw [cell]
  refine (runs_entry lit).bind ((runs_replaced inside).bind ((Runs.set_of_eq ?_).bind runs_pure))
  simp [Core.wide, Core.toggled, Screen.toggleAll, Screen.toggle, Vector.toList_set]

theorem runs_drawBits (left : Nat) (y : Fin 32) (row : Int) {count : Nat} (h : count ≤ 8) :
    Runs (drawBits left y.val row count) c
      (c.collides ((lastColumns 64 left row count).map fun x => (x, y)))
      (c.toggled ((lastColumns 64 left row count).map fun x => (x, y))) := by
  induction count generalizing c with
  | zero => exact runs_pure
  | succ count ih =>
      have ih' := fun c => ih (c := c) (by omega)
      have column : (left : Int) + (7 - (count : Int)) = ((left + (7 - count) : Nat) : Int) := by
        omega
      have bit : spriteBit row (7 - count) = decide ((row >>> count) % 2 = 1) := by
        rw [spriteBit, show 7 - (7 - count) = count by omega]
      rw [drawBits]
      by_cases past : 64 ≤ left + (7 - count)
      · rw [lastColumns_eq_nil row (by omega), if_pos (by omega)]
        exact runs_pure
      · rw [if_neg (by omega), lastColumns_succ 64 left row (by omega), bitColumn?,
          dif_pos (by omega), bit, column]
        by_cases lit : (row >>> count) % 2 = 1
        · simp only [lit, decide_true, if_true, Option.toList_some, List.singleton_append,
            List.map_cons]
          rw [← List.singleton_append, Core.collides_append, Core.toggled_append]
          exact (runs_toggle ⟨left + (7 - count), by omega⟩ y).bind ((ih' _).bind runs_pure)
        · simp only [lit, decide_false, if_false, Bool.false_eq_true, Option.toList_none,
            List.nil_append]
          exact ih' c

theorem runs_drawRows (left top : Nat) (sprite : List Int) :
    Runs (drawRows left top sprite) c (c.collides (spritePixels 64 32 left top sprite))
      (c.toggled (spritePixels 64 32 left top sprite)) := by
  induction sprite generalizing c top with
  | nil => exact runs_pure
  | cons row rest ih =>
      rw [drawRows, spritePixels]
      by_cases below : 32 ≤ top
      · rw [if_pos (by omega), dif_neg (by omega)]
        exact runs_pure
      · rw [if_neg (by omega), dif_pos (by omega), Core.collides_append, Core.toggled_append,
          ← lastColumns_all]
        exact (runs_drawBits left ⟨top, by omega⟩ row (Nat.le_refl 8)).bind
          ((ih (top + 1)).bind runs_pure)

/-- The corner of the sprite wraps onto the screen. -/
theorem runs_draw (x y : Int) (sprite : List Int) :
    Runs (drawRows (x % 64) (y % 32) sprite) c (c.screen.draw x y sprite).2
      { c with screen := (c.screen.draw x y sprite).1 } := by
  have left : ((x % 64).toNat : Int) = x % 64 := Int.toNat_of_nonneg (Int.emod_nonneg x (by decide))
  have top : ((y % 32).toNat : Int) = y % 32 := Int.toNat_of_nonneg (Int.emod_nonneg y (by decide))
  have drawn : Runs _ c _ _ := runs_drawRows (x % 64).toNat (y % 32).toNat sprite
  rwa [left, top] at drawn

end Wide

end Chip8
