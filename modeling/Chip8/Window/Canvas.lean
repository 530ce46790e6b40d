/-!
# Painting

A picture is made by filling areas with one colour, in order. An area is a rectangle of host pixels
that does not contain its right and bottom edges; a fill without an area paints everything.
-/

namespace Chip8

/-- Red, green and blue, and an opacity where one is given. -/
structure Color where
  red : Int
  green : Int
  blue : Int
  alpha : Option Int := none
  deriving DecidableEq, Repr

namespace Color

def white : Color := ⟨0xFF, 0xFF, 0xFF, some 0xFF⟩

def black : Color := ⟨0, 0, 0, some 0xFF⟩

def withoutAlpha (c : Color) : Color := { c with alpha := none }

def channels (c : Color) : List Int := [c.red, c.green, c.blue] ++ c.alpha.toList

end Color

structure Rect where
  x : Nat
  y : Nat
  width : Nat
  height : Nat
  deriving DecidableEq, Repr

def Rect.contains (r : Rect) (x y : Nat) : Bool :=
  r.x ≤ x && x < r.x + r.width && r.y ≤ y && y < r.y + r.height

structure Fill where
  color : Color
  area : Option Rect := none
  deriving DecidableEq, Repr

def Fill.covers (f : Fill) (x y : Nat) : Bool :=
  match f.area with
  | none => true
  | some area => area.contains x y

/-- A surface of host pixels and the fills that paint it. -/
structure Surface where
  width : Nat
  height : Nat
  fills : List Fill
  deriving DecidableEq

/-- The colour that a list of fills leaves at a host pixel: that of the last fill over it. -/
def paintedAt (fills : List Fill) (x y : Nat) : Option Color :=
  (fills.reverse.find? fun f => f.covers x y).map Fill.color

@[simp] theorem paintedAt_nil (x y : Nat) : paintedAt [] x y = none := rfl

theorem paintedAt_append (first second : List Fill) (x y : Nat) :
    paintedAt (first ++ second) x y = (paintedAt second x y).or (paintedAt first x y) := by
  simp only [paintedAt, List.reverse_append, List.find?_append]
  cases second.reverse.find? fun f => f.covers x y <;> simp

end Chip8
