import Chip8.Screen
import Chip8.Window.Canvas

/-!
# The screen as a surface

Every pixel becomes a square of `scale` host pixels. The surface is painted with the background
first and then with one square for each lit pixel, row by row.
-/

namespace Chip8.Screen

variable {width height : Nat}

/-- The host pixels of one pixel. -/
def square (scale : Nat) (x : Fin width) (y : Fin height) : Rect :=
  ⟨x.val * scale, y.val * scale, scale, scale⟩

def litSquares (s : Screen width height) (scale : Nat) : List Rect :=
  (List.finRange height).flatMap fun y =>
    (List.finRange width).filterMap fun x =>
      if s.pixel x y then some (square scale x y) else none

def surface (s : Screen width height) (scale : Nat) (fg bg : Color) : Surface where
  width := width * scale
  height := height * scale
  fills :=
    { color := bg } :: (s.litSquares scale).map fun area => { color := fg, area := some area }

end Chip8.Screen
