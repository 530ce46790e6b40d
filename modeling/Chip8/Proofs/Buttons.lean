import Chip8.Proofs.Scaling
import Chip8.Proofs.WindowSize
import Mathlib.Data.List.Pairwise

/-!
# The keypad is shown below the screen

At every scale the buttons are those at scale 1, scaled. There they are sixteen fixed areas, of
which can be checked that they lie in the strip below the screen and that any two are apart. So a
host pixel of a button is in no other one and has the colour of its key, and the window, which fits
screen and strip, shows all of them.
-/

namespace Chip8.Overlay

/-- The overlay before scaling. -/
def unscaled : Overlay := { scale := 1 }

variable {o : Overlay} {b : Fin 16 × Rect} {x y : Nat}

theorem buttonRects_eq_scaled (o : Overlay) :
    o.buttonRects = unscaled.buttonRects.map fun b => (b.1, b.2.scaled o.scale) := by
  rw [buttonRects, buttonRects, List.map_map]
  refine List.map_congr_left fun (key, position) _ => ?_
  simp [buttonRect, Rect.scaled, unscaled]

/-- Every key has one button. -/
theorem count_keys (o : Overlay) (key : Fin 16) : (o.buttonRects.map Prod.fst).count key = 1 := by
  have keys : o.buttonRects.map Prod.fst = layout := rfl
  rw [keys]
  decide +revert

/-! ### Where the buttons are -/

theorem unscaled_inside : ∀ b ∈ unscaled.buttonRects,
    (0 < b.2.width ∧ 0 < b.2.height) ∧ b.2.x + b.2.width ≤ 64 ∧
      32 ≤ b.2.y ∧ b.2.y + b.2.height ≤ 32 + panelHeight := by
  decide

theorem inside_strip (mem : b ∈ o.buttonRects) :
    (0 < b.2.width ∧ 0 < b.2.height) ∧ b.2.x + b.2.width ≤ 64 * o.scale ∧
      32 * o.scale ≤ b.2.y ∧ b.2.y + b.2.height ≤ 32 * o.scale + panelHeight * o.scale := by
  rw [buttonRects_eq_scaled] at mem
  obtain ⟨c, shown, rfl⟩ := List.mem_map.mp mem
  obtain ⟨⟨wide, tall⟩, right, top, bottom⟩ := unscaled_inside c shown
  have right := Nat.mul_le_mul_right o.scale right
  have bottom := Nat.mul_le_mul_right o.scale bottom
  rw [Nat.add_mul] at right
  rw [Nat.add_mul, Nat.add_mul] at bottom
  exact ⟨⟨Nat.mul_pos wide o.scale_pos, Nat.mul_pos tall o.scale_pos⟩, right,
    Nat.mul_le_mul_right o.scale top, bottom⟩

theorem unscaled_edges : unscaled.buttonRects.Pairwise fun b c =>
    b.2.x + b.2.width ≤ c.2.x ∨ c.2.x + c.2.width ≤ b.2.x ∨
      b.2.y + b.2.height ≤ c.2.y ∨ c.2.y + c.2.height ≤ b.2.y := by
  decide

theorem pairwise_apart (o : Overlay) : o.buttonRects.Pairwise fun b c => b.2.Apart c.2 := by
  rw [buttonRects_eq_scaled, List.pairwise_map]
  exact unscaled_edges.imp fun edges => (Rect.apart_of_edges edges).scaled o.scale_pos

/-! ### What is painted -/

theorem eq_of_contains {c : Fin 16 × Rect} (first : b ∈ o.buttonRects) (second : c ∈ o.buttonRects)
    (inFirst : b.2.contains x y = true) (inSecond : c.2.contains x y = true) : b = c := by
  have symmetric : Std.Symm fun b c : Fin 16 × Rect => b.2.Apart c.2 :=
    ⟨fun b c apart => symm apart⟩
  by_contra different
  exact o.pairwise_apart.forall first second different x y ⟨inFirst, inSecond⟩

def buttonColor (held : Bool) : Color := if held then pressedColor else releasedColor

theorem buttonColor_eq_pressed_iff {held : Bool} :
    buttonColor held = pressedColor ↔ held = true := by
  decide +revert

theorem buttonColor_eq_released_iff {held : Bool} :
    buttonColor held = releasedColor ↔ held = false := by
  decide +revert

/-- The fill that shows a button. -/
def buttonFill (pad : Keypad) (b : Fin 16 × Rect) : Fill :=
  { color := buttonColor (pad.isPressed b.1.val), area := some b.2 }

theorem fills_of_visible (visible : o.visible = true) (pad : Keypad) :
    o.fills pad = o.buttonRects.map (buttonFill pad) := if_pos visible

theorem fills_of_hidden (hidden : o.visible = false) (pad : Keypad) : o.fills pad = [] :=
  if_neg (Bool.eq_false_iff.mp hidden)

/-- Nothing else is painted over a button. -/
theorem paintedAt_button (visible : o.visible = true) (pad : Keypad) (before : List Fill)
    (mem : b ∈ o.buttonRects) (inside : b.2.contains x y = true) :
    paintedAt (before ++ o.fills pad) x y = some (buttonColor (pad.isPressed b.1.val)) := by
  have covers : (buttonFill pad b).covers x y = true := inside
  have alike : ∀ other ∈ o.buttonRects.map (buttonFill pad), other.covers x y = true →
      other.color = (buttonFill pad b).color := by
    intro other shown covered
    obtain ⟨c, listed, rfl⟩ := List.mem_map.mp shown
    rw [eq_of_contains listed mem covered inside]
  rw [fills_of_visible visible, paintedAt_append,
    paintedAt_eq_some (List.mem_map_of_mem mem) covers alike, Option.some_or, buttonFill]

theorem screen_untouched (o : Overlay) (pad : Keypad) (above : y < 32 * o.scale) :
    ∀ fill ∈ o.fills pad, fill.covers x y = false := by
  intro fill made
  cases shown : o.visible with
  | false => rw [fills_of_hidden shown] at made; cases made
  | true =>
      rw [fills_of_visible shown] at made
      obtain ⟨b, mem, rfl⟩ := List.mem_map.mp made
      refine Bool.eq_false_iff.mpr fun covers => ?_
      have low : b.2.y ≤ y := (Rect.contains_iff.mp covers).2.1
      have := (inside_strip mem).2.2.1
      omega

open Window.Session

/-- At every scale each key has one button, the buttons are areas that do not overlap, and they lie
below the screen in the strip that the overlay asks for. While the overlay is visible a button has
one colour if its key is held and another if it is not, whatever was painted before, and the window
last asked for has room for screen and strip. No host pixel of the screen is painted over, and a
hidden overlay paints nothing. -/
theorem keypad_is_shown :
    (∀ (scale : Int) (visible : Bool), 1 ≤ scale → ∃ o, new? scale visible = .ok o ∧
      (o.scale : Int) = scale ∧ o.visible = visible) ∧
    (∀ o : Overlay,
      (∀ key : Fin 16, (o.buttonRects.map Prod.fst).count key = 1) ∧
      (∀ b ∈ o.buttonRects, (0 < b.2.width ∧ 0 < b.2.height) ∧ b.2.x + b.2.width ≤ 64 * o.scale ∧
        32 * o.scale ≤ b.2.y ∧ b.2.y + b.2.height ≤ 32 * o.scale + panelHeight * o.scale) ∧
      (o.buttonRects.Pairwise fun b c =>
        ∀ x y, ¬(b.2.contains x y = true ∧ c.2.contains x y = true)) ∧
      ∀ m : Machine,
        (o.visible = true → ∀ (before : List Fill), ∀ b ∈ o.buttonRects, ∀ x y,
          b.2.contains x y = true →
            (paintedAt (before ++ o.fills m.core.keypad) x y = some pressedColor ↔
              m.keyPressed b.1.val = true) ∧
            (paintedAt (before ++ o.fills m.core.keypad) x y = some releasedColor ↔
              m.keyPressed b.1.val = false)) ∧
        (∀ fill ∈ o.fills m.core.keypad, ∀ x y, y < 32 * o.scale → fill.covers x y = false) ∧
        (o.visible = false → o.fills m.core.keypad = [])) ∧
    ∀ (t : Toolkit) (settings : Window.Settings) (m : Machine)
      (schedule : List (List Window.Input)) (number : Nat) (s : Window.Session),
      Reached t settings m schedule number s → s.console.overlay.visible = true →
        s.console.overlay.scale = settings.scale ∧
        s.lastWindow? = some (64 * s.console.overlay.scale,
          32 * s.console.overlay.scale + panelHeight * s.console.overlay.scale) := by
  refine ⟨fun scale visible pos => ?_, fun o => ⟨o.count_keys, fun b => inside_strip,
    o.pairwise_apart, fun m => ⟨fun visible before b mem x y inside => ?_,
      fun fill made x y above => o.screen_untouched m.core.keypad above fill made,
      fun hidden => fills_of_hidden hidden _⟩⟩,
    fun t settings m schedule number s reached visible => ?_⟩
  · refine ⟨_, dif_pos pos, ?_, rfl⟩
    show (scale.toNat : Int) = scale
    omega
  · rw [paintedAt_button visible m.core.keypad before mem inside, Option.some.injEq,
      Option.some.injEq]
    exact ⟨buttonColor_eq_pressed_iff, buttonColor_eq_released_iff⟩
  · have fitted := reached.fitted
    refine ⟨fitted.sameScale, ?_⟩
    rw [fitted.window, Window.Session.windowSize, extraHeight, if_pos visible, fitted.sameScale]

/-- Key 5 is held, and the overlay is hidden until `k` goes down. -/
theorem keypad_is_shown_of_held :
    let settings : Window.Settings :=
      { rom := "", scale := 3, fps := 60, fg := .white, bg := .black
        audio := false, keypad := false, trace := false, scale_pos := by decide }
    let m := (Machine.initial ⟨fun _ => 0, 0⟩).setKey 5 true
    ∃ o, new? 3 true = .ok o ∧
      (5, ⟨81, 114, 12, 12⟩) ∈ o.buttonRects ∧ (1, ⟨66, 99, 12, 12⟩) ∈ o.buttonRects ∧
      paintedAt (o.fills m.core.keypad) 92 125 = some pressedColor ∧
      paintedAt (o.fills m.core.keypad) 66 99 = some releasedColor ∧
      ∃ s, Reached {} settings m [[.keyDown 'k'.toNat]] 1 s ∧ s.lastWindow? = some (192, 162) := by
  intro settings m
  obtain ⟨overlays, shown, windows⟩ := keypad_is_shown
  obtain ⟨o, made, -, -⟩ := overlays 3 true (by decide)
  obtain rfl : { scale := 3, visible := true } = o := Except.ok.inj made
  obtain ⟨-, -, -, painted⟩ := shown { scale := 3, visible := true }
  have visible := (painted m).1 rfl []
  let first := opened {} settings m
  let second := (first.scheduledFrame {} settings [[.keyDown 'k'.toNat]] 0).1
  have goes : (first.scheduledFrame {} settings [[.keyDown 'k'.toNat]] 0).2 = .going := by
    decide +kernel
  have reached : Reached {} settings m [[.keyDown 'k'.toNat]] 1 second :=
    .next .first (Prod.ext rfl goes)
  obtain ⟨scaled, asked⟩ := windows {} settings m _ 1 second reached (by decide +kernel)
  refine ⟨_, made, by decide, by decide, ?_, ?_, second, reached, ?_⟩
  · exact (visible (5, ⟨81, 114, 12, 12⟩) (by decide) 92 125 (by decide)).1.mpr rfl
  · exact (visible (1, ⟨66, 99, 12, 12⟩) (by decide) 66 99 (by decide)).2.mpr rfl
  · rw [asked, scaled]
    rfl

end Chip8.Overlay
