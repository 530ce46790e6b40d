import Chip8.Number.Rounding

/-!
# Volume

A volume lies between silence and full and is kept to six decimals, so it is a whole number of
millionths. A double is brought into this form by rounding its exact value to the nearest millionth,
a tie to the even one, and then to the nearer end of the range if it lies outside. What is not a
number counts as full.
-/

namespace Chip8

structure Volume where
  millionths : Nat
  le_full : millionths ≤ 1000000 := by omega
  deriving DecidableEq

namespace Volume

def silent : Volume := ⟨0, by omega⟩

def full : Volume := ⟨1000000, by omega⟩

def ofDouble : Double → Volume
  | .notANumber => full
  | .infinite negative => if negative then silent else full
  | .finite negative significand exponent =>
      if negative then silent
      else ⟨min (Double.roundScaled significand exponent 1000000) 1000000, Nat.min_le_right _ _⟩

def ofFloat (f : Float) : Volume := ofDouble (.ofFloat f)

/-- The double nearest to the volume. -/
def toFloat (v : Volume) : Float := Float.ofNat v.millionths / 1000000

def adjust (v : Volume) (delta : Float) : Volume := ofFloat (v.toFloat + delta)

/-- The change of one press of a volume key. -/
def keyStep : Float := 0.2

def up (v : Volume) : Volume := v.adjust keyStep

def down (v : Volume) : Volume := v.adjust (-keyStep)

/-- The volume with six decimals. -/
def text (v : Volume) : String :=
  let fraction := toString (v.millionths % 1000000)
  toString (v.millionths / 1000000) ++ "."
    ++ String.ofList (List.replicate (6 - fraction.length) '0') ++ fraction

end Volume

end Chip8
