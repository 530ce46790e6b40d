/-!
# The hexadecimal keypad

Sixteen keys, each held or not. Key numbers outside the pad are ignored when set and read as
released, so callers may pass any integer.
-/

namespace Chip8

/-- Keys and registers have the hexadecimal digits as their numbers. -/
instance neZero_sixteen : @NeZero Nat Zero.ofOfNat0 16 := ⟨Nat.succ_ne_zero 15⟩

structure Keypad where
  keys : Vector Bool 16
  deriving DecidableEq

namespace Keypad

def released : Keypad := ⟨Vector.replicate 16 false⟩

def set (k : Keypad) (index : Int) (pressed : Bool) : Keypad :=
  if h : 0 ≤ index ∧ index < 16 then ⟨k.keys.set index.toNat pressed (by omega)⟩ else k

def isPressed (k : Keypad) (index : Int) : Bool :=
  if h : 0 ≤ index ∧ index < 16 then k.keys.get ⟨index.toNat, by omega⟩ else false

/-- The held keys, ascending. -/
def pressed (k : Keypad) : List (Fin 16) := (List.finRange 16).filter fun key => k.keys[key]

/-- The smallest held key. -/
def firstPressed (k : Keypad) : Option (Fin 16) := k.pressed.head?

end Keypad

end Chip8
