import Chip8.Machine
import Chip8.Window.Toolkit

/-!
# The keypad overlay

A strip below the screen shows the sixteen keys as buttons in the arrangement of the physical pad.
All sizes are in screen pixels and are scaled last. A button has the colour that tells whether its
key is held.
-/

namespace Chip8

structure Overlay where
  scale : Nat
  visible : Bool := false
  scale_pos : 0 < scale := by decide

namespace Overlay

inductive Error
  | scaleNotPositive
  deriving DecidableEq, Repr

def Error.message : Error → String
  | .scaleNotPositive => "scale must be positive"

def new? (scale : Int) (visible : Bool) : Except Error Overlay :=
  if h : 0 < scale then .ok { scale := scale.toNat, visible, scale_pos := by omega }
  else .error .scaleNotPositive

/-- The keys of the pad, row by row. -/
def layout : List (Fin 16) :=
  [0x1, 0x2, 0x3, 0xC,
   0x4, 0x5, 0x6, 0xD,
   0x7, 0x8, 0x9, 0xE,
   0xA, 0x0, 0xB, 0xF]

def buttonsPerRow : Nat := 4

def buttonSize : Nat := 4

def buttonGap : Nat := 1

def panelHeight : Nat := 22

def pressedColor : Color := ⟨0x65, 0xF0, 0x57, none⟩

def releasedColor : Color := ⟨0x99, 0x99, 0x99, none⟩

def toggle (o : Overlay) : Overlay := { o with visible := !o.visible }

/-- The window height that the strip needs, in host pixels. -/
def extraHeight (o : Overlay) : Nat := if o.visible then panelHeight * o.scale else 0

/-- The button at a position of the layout, for a screen of the given size: the grid of buttons is
centred below the screen and one pixel away from it. -/
def buttonRect (o : Overlay) (screenWidth screenHeight position : Nat) : Rect :=
  let pitch := buttonSize + buttonGap
  let gridWidth := buttonsPerRow * pitch - buttonGap
  let column := position % buttonsPerRow
  let row := position / buttonsPerRow
  { x := ((screenWidth - gridWidth) / 2 + column * pitch) * o.scale
    y := (screenHeight + 1 + row * pitch) * o.scale
    width := buttonSize * o.scale
    height := buttonSize * o.scale }

def buttonRects (o : Overlay) : List (Fin 16 × Rect) :=
  layout.zipIdx.map fun (key, position) => (key, o.buttonRect 64 32 position)

/-- The fills that show the keypad, none while the overlay is hidden. -/
def fills (o : Overlay) (pad : Keypad) : List Fill :=
  if o.visible then
    o.buttonRects.map fun (key, area) =>
      { color := if pad.isPressed key.val then pressedColor else releasedColor, area := some area }
  else []

end Overlay

end Chip8
