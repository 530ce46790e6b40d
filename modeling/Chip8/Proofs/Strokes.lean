import Chip8.Proofs.LitPixels
import Mathlib.Algebra.BigOperators.Ring.Nat

/-!
# Many drawings

A drawing toggles pixels without asking what they are, so after many of them a pixel has changed if
an odd number of them toggles it. That number is a count over the list: it does not depend on the
order, and it is even if every drawing of the list occurs an even number of times.
-/

namespace Chip8

/-- A sprite and where it is drawn. -/
structure Stroke where
  x : Int
  y : Int
  sprite : List Int
  deriving DecidableEq

namespace Screen

variable {width height : Nat}

/-- Draws one stroke after the other. -/
def drawAll? (s : Screen width height) : List Stroke → Except Error (Screen width height)
  | [] => .ok s
  | stroke :: rest => do
      let (after, _) ← s.draw? stroke.x stroke.y stroke.sprite
      after.drawAll? rest

/-- The number of strokes that toggle a pixel. -/
def toggleCount (strokes : List Stroke) (px : Fin width) (py : Fin height) : Nat :=
  strokes.countP fun stroke => drawnBit stroke.x stroke.y stroke.sprite px py

theorem exists_drawAll?_eq (wide : 0 < width) (high : 0 < height) (s : Screen width height)
    (strokes : List Stroke) :
    ∃ after, s.drawAll? strokes = .ok after ∧ ∀ px py,
      after.pixel px py = (s.pixel px py ^^ decide (toggleCount strokes px py % 2 = 1)) := by
  induction strokes generalizing s with
  | nil => exact ⟨s, rfl, fun px py => by simp [toggleCount]⟩
  | cons stroke rest ih =>
      obtain ⟨after, drawn, pixels⟩ := ih (s.draw stroke.x stroke.y stroke.sprite).1
      refine ⟨after, ?_, fun px py => ?_⟩
      · rw [drawAll?, draw?_eq_ok wide high]
        exact drawn
      · rw [pixels, pixel_draw wide high, toggleCount, toggleCount, List.countP_cons, Bool.xor_assoc]
        refine congrArg (s.pixel px py ^^ ·) ?_
        generalize rest.countP _ = later
        cases drawnBit stroke.x stroke.y stroke.sprite px py with
        | false => simp
        | true =>
            rw [Bool.true_xor, if_pos rfl, ← decide_not, decide_eq_decide]
            omega

/-- Strokes that toggle each pixel as often, but for an even number, lead to one screen. -/
theorem drawAll?_eq_of_parity (wide : 0 < width) (high : 0 < height) (s : Screen width height)
    {first second : List Stroke}
    (same : ∀ (px : Fin width) (py : Fin height),
      toggleCount first px py % 2 = toggleCount second px py % 2) :
    s.drawAll? first = s.drawAll? second := by
  obtain ⟨after, drawn, pixels⟩ := s.exists_drawAll?_eq wide high first
  obtain ⟨after', drawn', pixels'⟩ := s.exists_drawAll?_eq wide high second
  have equal : after = after' := ext_of_pixel fun px py => by rw [pixels, pixels', same]
  rw [drawn, drawn', equal]

theorem even_countP {α : Type} [DecidableEq α] {l : List α} (even : ∀ a, Even (l.count a))
    (p : α → Bool) : Even (l.countP p) := by
  rw [List.countP_eq_length_filter, ← List.sum_toFinset_count_eq_length]
  refine Finset.even_sum _ fun a mem => ?_
  rw [List.count_filter (List.mem_filter.mp (List.mem_toFinset.mp mem)).2]
  exact even a

/-! ### Twice the same -/

theorem draw_draw_fst (wide : 0 < width) (high : 0 < height) (s : Screen width height)
    (x y : Int) (sprite : List Int) :
    ((s.draw x y sprite).1.draw x y sprite).1 = s := by
  refine ext_of_pixel fun px py => ?_
  rw [pixel_draw wide high, pixel_draw wide high, Bool.xor_assoc, Bool.xor_self, Bool.xor_false]

/-- The second drawing switches off what the first one switched on. -/
theorem draw_draw_snd_eq_true_iff (wide : 0 < width) (high : 0 < height) (s : Screen width height)
    (x y : Int) (sprite : List Int) :
    ((s.draw x y sprite).1.draw x y sprite).2 = true ↔
      ∃ px py, s.pixel px py = false ∧ (s.draw x y sprite).1.pixel px py = true := by
  rw [draw_snd_eq_true_iff wide high, draw_draw_fst wide high]
  simp only [and_comm]

theorem draw_snd_eq_false_iff (wide : 0 < width) (high : 0 < height) (s : Screen width height)
    (x y : Int) (sprite : List Int) :
    (s.draw x y sprite).2 = false ↔ (s.lit \ (s.draw x y sprite).1.lit).card = 0 := by
  rw [← Bool.not_eq_true, draw_snd_eq_true_iff wide high, Finset.card_eq_zero,
    Finset.eq_empty_iff_forall_notMem]
  simp [mem_lit_iff]

/-- On a screen that has an area, strokes lead to the same screen in whatever order they are drawn,
and back to the screen they started from if each occurs an even number of times. One stroke changes
the number of lit pixels by that of its visible bits less twice that of the pixels it switches off,
so its flag is false exactly if every visible bit adds one. Drawn again at once, its flag says
whether the first time switched a pixel on. -/
theorem drawings_commute_and_cancel {width height : Nat} (wide : 0 < width) (high : 0 < height)
    (s : Screen width height) :
    (∀ first second : List Stroke, first.Perm second →
      ∃ after, s.drawAll? first = .ok after ∧ s.drawAll? second = .ok after) ∧
    (∀ strokes : List Stroke, (∀ stroke, Even (strokes.count stroke)) →
      s.drawAll? strokes = .ok s) ∧
    ∀ x y sprite, ∃ after flag again flagAgain,
      s.draw? x y sprite = .ok (after, flag) ∧ after.draw? x y sprite = .ok (again, flagAgain) ∧
      (after.litCount : Int) - s.litCount
        = (visibleBits width height x y sprite).card - 2 * (s.lit \ after.lit).card ∧
      (flag = false ↔
        (after.litCount : Int) - s.litCount = (visibleBits width height x y sprite).card) ∧
      (flagAgain = true ↔ ∃ px py, s.pixel px py = false ∧ after.pixel px py = true) := by
  refine ⟨fun first second perm => ?_, fun strokes even => ?_, fun x y sprite => ?_⟩
  · obtain ⟨after, drawn, -⟩ := s.exists_drawAll?_eq wide high first
    refine ⟨after, drawn, ?_⟩
    rw [← drawn]
    exact s.drawAll?_eq_of_parity wide high fun px py => by
      rw [toggleCount, toggleCount, perm.countP_eq]
  · have undone : s.drawAll? strokes = s.drawAll? [] :=
      s.drawAll?_eq_of_parity wide high fun px py => Nat.even_iff.mp (even_countP even _)
    exact undone
  · have count := s.litCount_draw wide high x y sprite
    refine ⟨(s.draw x y sprite).1, (s.draw x y sprite).2, s,
      ((s.draw x y sprite).1.draw x y sprite).2, s.draw?_eq_ok wide high x y sprite, ?_, by omega,
      ?_, s.draw_draw_snd_eq_true_iff wide high x y sprite⟩
    · rw [draw?_eq_ok wide high]
      exact congrArg Except.ok (Prod.ext (s.draw_draw_fst wide high x y sprite) rfl)
    · rw [s.draw_snd_eq_false_iff wide high]
      omega

/-- On a screen of five columns and two rows, one stroke wraps to the lower right corner, where it
moves the lit pixel by one column, and another one overlaps it. -/
theorem drawings_commute_and_cancel_of_corner :
    let s := (blank 5 2).toggle 3 1
    let corner : Stroke := ⟨-2, 7, [-1, 0xFF]⟩
    let other : Stroke := ⟨4, 0, [0xC0, 0x80]⟩
    0 < 5 ∧ 0 < 2 ∧
      (∃ after, s.drawAll? [corner, other, corner] = .ok after ∧
        s.drawAll? [other, corner, corner] = .ok after) ∧
      s.drawAll? [corner, other, other, corner] = .ok s ∧
      ∃ after again, s.draw? (-2) 7 [-1, 0xFF] = .ok (after, true) ∧
        after.draw? (-2) 7 [-1, 0xFF] = .ok (again, true) ∧
        (after.litCount : Int) - s.litCount = 2 - 2 * 1 := by
  intro s corner other
  obtain ⟨commute, cancel, change⟩ := drawings_commute_and_cancel (by decide) (by decide) s
  refine ⟨by decide, by decide, commute _ _ (by decide), cancel _ fun stroke => ?_, ?_⟩
  · simp only [List.count_cons, List.count_nil]
    split <;> split <;> decide
  · have drawn : s.draw? (-2) 7 [-1, 0xFF] = .ok ((blank 5 2).toggle 4 1, true) := by
      decide +kernel
    obtain ⟨after, flag, again, flagAgain, first, second, count, -, on⟩ := change (-2) 7 [-1, 0xFF]
    cases drawn.symm.trans first
    obtain rfl : flagAgain = true := on.mpr ⟨4, 1, by decide, by decide⟩
    have visible : (visibleBits 5 2 (-2) 7 [-1, 0xFF]).card = 2 := by decide
    have off : (s.lit \ ((blank 5 2).toggle 4 1).lit).card = 1 := by decide
    rw [visible, off] at count
    exact ⟨_, again, first, second, count⟩

end Screen

end Chip8
