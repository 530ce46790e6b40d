/-!
# The monochrome screen

A screen is a grid of pixels, each lit or dark, kept row by row. A sprite is a list of rows of eight
bits, the leftmost bit the highest. Drawing one wraps its top left corner onto the screen, drops the
bits that would lie past the right or bottom edge, and toggles the pixel under every set bit that is
left. It reports a collision when one of these pixels was lit.
-/

namespace Chip8

structure Screen (width height : Nat) where
  pixels : Vector Bool (width * height)
  deriving DecidableEq

namespace Screen

variable {width height : Nat}

theorem cell_lt (x : Fin width) (y : Fin height) : y.val * width + x.val < width * height := by
  have row : (y.val + 1) * width ≤ height * width := Nat.mul_le_mul_right _ y.isLt
  rw [Nat.succ_mul, Nat.mul_comm height] at row
  have := x.isLt
  omega

/-- Where the pixel of a column and a row is kept. -/
def cell (x : Fin width) (y : Fin height) : Fin (width * height) :=
  ⟨y.val * width + x.val, cell_lt x y⟩

theorem cell_inj {x x' : Fin width} {y y' : Fin height} (h : cell x y = cell x' y') :
    x = x' ∧ y = y' := by
  have same : y.val * width + x.val = y'.val * width + x'.val := congrArg Fin.val h
  have hx := x.isLt
  have hx' := x'.isLt
  have pos : 0 < width := by omega
  have columns : x.val = x'.val := by
    have := congrArg (· % width) same
    simpa [Nat.mul_add_mod, Nat.add_mod, Nat.mod_eq_of_lt hx, Nat.mod_eq_of_lt hx'] using this
  refine ⟨Fin.ext columns, Fin.ext ?_⟩
  rw [columns] at same
  exact Nat.eq_of_mul_eq_mul_right pos (by omega)

def blank (width height : Nat) : Screen width height := ⟨Vector.replicate _ false⟩

/-- The screen with these pixels in row order, or the blank one if their number is wrong. -/
def ofList (width height : Nat) (pixels : List Bool) : Screen width height :=
  if h : pixels.length = width * height then ⟨⟨pixels.toArray, by simpa using h⟩⟩
  else blank width height

def pixel (s : Screen width height) (x : Fin width) (y : Fin height) : Bool :=
  s.pixels[cell x y]

inductive Error
  /-- A pixel outside the grid was asked for. -/
  | outOfRange
  /-- A sprite cannot be wrapped onto a screen without columns or rows. -/
  | noArea
  deriving DecidableEq, Repr

def Error.message : Error → String
  | .outOfRange => "pixel coordinate out of range"
  | .noArea => "integer modulo by zero"

def pixelAt? (s : Screen width height) (x y : Int) : Except Error Bool :=
  if h : (0 ≤ x ∧ x < width) ∧ (0 ≤ y ∧ y < height) then
    .ok (s.pixel ⟨x.toNat, by omega⟩ ⟨y.toNat, by omega⟩)
  else
    .error .outOfRange

def rows (s : Screen width height) : List (List Bool) :=
  (List.finRange height).map fun y => (List.finRange width).map fun x => s.pixel x y

def litCount (s : Screen width height) : Nat := s.pixels.toList.count true

/-! ### Drawing -/

def toggle (s : Screen width height) (x : Fin width) (y : Fin height) : Screen width height :=
  ⟨s.pixels.set (cell x y) (!s.pixel x y)⟩

/-- Bit `column` of a sprite row, counted from the left of its low eight bits. -/
def spriteBit (row : Int) (column : Nat) : Bool := (row >>> (7 - column)) % 2 = 1

/-- The columns that a sprite row sets on the screen when its left end lies at `left`. -/
def rowColumns (width left : Nat) (row : Int) : List (Fin width) :=
  (List.range 8).filterMap fun column =>
    if h : left + column < width then
      if spriteBit row column then some ⟨left + column, h⟩ else none
    else none

/-- The visible set bits of a sprite whose top left corner lies at `left`, `top`, row by row. -/
def spritePixels (width height left : Nat) : (top : Nat) → (sprite : List Int) →
    List (Fin width × Fin height)
  | _, [] => []
  | top, row :: rest =>
      if h : top < height then
        (rowColumns width left row).map (fun x => (x, ⟨top, h⟩))
          ++ spritePixels width height left (top + 1) rest
      else []

/-- Toggles pixels one after the other; the flag turns true when one of them was lit. -/
def toggleAll (s : Screen width height) (collision : Bool) :
    List (Fin width × Fin height) → Screen width height × Bool
  | [] => (s, collision)
  | (x, y) :: rest => (s.toggle x y).toggleAll (collision || s.pixel x y) rest

/-- The pixels that drawing `sprite` at `x`, `y` toggles. -/
def drawnPixels (width height : Nat) (x y : Int) (sprite : List Int) :
    List (Fin width × Fin height) :=
  spritePixels width height (x % width).toNat (y % height).toNat sprite

/-- Draws a sprite, and tells whether a lit pixel was switched off. -/
def draw (s : Screen width height) (x y : Int) (sprite : List Int) : Screen width height × Bool :=
  s.toggleAll false (drawnPixels width height x y sprite)

/-- Drawing on a screen of any size, which may have no area. -/
def draw? (s : Screen width height) (x y : Int) (sprite : List Int) :
    Except Error (Screen width height × Bool) :=
  if width = 0 ∨ height = 0 then .error .noArea else .ok (s.draw x y sprite)

theorem pixel_toggle (s : Screen width height) (x x' : Fin width) (y y' : Fin height) :
    (s.toggle x y).pixel x' y' = if x = x' ∧ y = y' then !s.pixel x' y' else s.pixel x' y' := by
  simp only [pixel, toggle, Fin.getElem_fin, Vector.getElem_set]
  by_cases h : x = x' ∧ y = y'
  · rw [if_pos h]
    obtain ⟨rfl, rfl⟩ := h
    simp
  · rw [if_neg h, if_neg (fun same => h (cell_inj (Fin.ext same)))]

/-! ### Text -/

/-- One line per row, `on` for a lit pixel and `off` for a dark one. -/
def render (s : Screen width height) (on off : String) : String :=
  "\n".intercalate (s.rows.map fun row => String.join (row.map fun lit => if lit then on else off))

end Screen

end Chip8
