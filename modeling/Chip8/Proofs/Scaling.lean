import Chip8.Window.Canvas
import Mathlib.Algebra.Order.Group.Nat

/-!
# Scaled areas and what is painted

A host pixel lies in a scaled area if and only if the pixel it belongs to lies in the area. So areas
that are apart stay apart at every scale, and what is known of them can be checked before scaling.
Where all fills over a host pixel have one colour, the order in which they are made does not count.
-/

namespace Chip8

namespace Rect

variable {r s : Rect} {x y scale : Nat}

/-- The area with every pixel enlarged to a square. -/
def scaled (r : Rect) (scale : Nat) : Rect :=
  ⟨r.x * scale, r.y * scale, r.width * scale, r.height * scale⟩

theorem contains_iff :
    r.contains x y = true ↔
      (r.x ≤ x ∧ x < r.x + r.width) ∧ r.y ≤ y ∧ y < r.y + r.height := by
  simp [contains, and_assoc]

theorem contains_scaled (pos : 0 < scale) (r : Rect) (x y : Nat) :
    (r.scaled scale).contains x y = r.contains (x / scale) (y / scale) := by
  rw [Bool.eq_iff_iff, contains_iff, contains_iff, Nat.le_div_iff_mul_le pos,
    Nat.le_div_iff_mul_le pos, Nat.div_lt_iff_lt_mul pos, Nat.div_lt_iff_lt_mul pos, Nat.add_mul,
    Nat.add_mul]
  rfl

/-- No host pixel lies in both areas. -/
def Apart (r s : Rect) : Prop := ∀ x y, ¬(r.contains x y = true ∧ s.contains x y = true)

instance symm_apart : Std.Symm Apart where
  symm _ _ apart x y both := apart x y both.symm

/-- One area ends where the other begins, or before. -/
theorem apart_of_edges (edges : r.x + r.width ≤ s.x ∨ s.x + s.width ≤ r.x ∨
    r.y + r.height ≤ s.y ∨ s.y + s.height ≤ r.y) : r.Apart s := by
  rintro x y ⟨first, second⟩
  rw [contains_iff] at first second
  omega

theorem Apart.scaled (pos : 0 < scale) (apart : r.Apart s) :
    (r.scaled scale).Apart (s.scaled scale) := fun x y => by
  rw [contains_scaled pos, contains_scaled pos]
  exact apart (x / scale) (y / scale)

end Rect

section Painting

variable {fills : List Fill} {fill : Fill} {x y : Nat}

theorem paintedAt_eq_none (apart : ∀ fill ∈ fills, fill.covers x y = false) :
    paintedAt fills x y = none := by
  have missed : (fills.reverse.find? fun f => f.covers x y) = none :=
    List.find?_eq_none.mpr fun f mem => by simp [apart f (List.mem_reverse.mp mem)]
  rw [paintedAt, missed, Option.map_none]

theorem paintedAt_eq_some (mem : fill ∈ fills) (covers : fill.covers x y = true)
    (alike : ∀ other ∈ fills, other.covers x y = true → other.color = fill.color) :
    paintedAt fills x y = some fill.color := by
  have hit : (fills.reverse.find? fun f => f.covers x y).isSome = true :=
    List.find?_isSome.mpr ⟨fill, List.mem_reverse.mpr mem, covers⟩
  obtain ⟨last, found⟩ := Option.isSome_iff_exists.mp hit
  have covered : last.covers x y = true :=
    List.find?_some (p := fun f : Fill => f.covers x y) found
  have made : last ∈ fills := List.mem_reverse.mp (List.mem_of_find?_eq_some found)
  rw [paintedAt, found, Option.map_some, alike last made covered]

end Painting

end Chip8
