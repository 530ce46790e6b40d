import Chip8.Number.Rounding

/-!
# Sampling a sine tone

Sample number `k` of a tone of `frequency` at `rate` samples a second is the sine of the phase
`2 π · frequency · k / rate`, scaled to the largest 16-bit value and cut to a whole number. The
phase is computed in doubles from left to right.
-/

namespace Chip8.Tone

inductive Error
  /-- The number of samples is not a number. -/
  | undefinedLength
  | infiniteLength
  /-- The phase of a sample is infinite. -/
  | infinitePhase
  /-- A sample is not a number. -/
  | undefinedSample
  deriving DecidableEq, Repr

def Error.message : Error → String
  | .undefinedLength => "cannot convert float NaN to integer"
  | .infiniteLength => "cannot convert float infinity to integer"
  | .infinitePhase => "math domain error"
  | .undefinedSample => "cannot convert float NaN to integer"

def pi : Float := 3.141592653589793

/-- A double without its fraction. -/
def whole? (f : Float) : Option Int :=
  match Double.ofFloat f with
  | .finite negative significand exponent =>
      let n : Int := Double.truncated significand exponent
      some (if negative then -n else n)
  | _ => none

def length? (rate : Int) (duration : Float) : Except Error Nat :=
  match Double.ofFloat (Float.ofInt rate * duration) with
  | .notANumber => .error .undefinedLength
  | .infinite _ => .error .infiniteLength
  | .finite negative significand exponent =>
      .ok (if negative then 0 else Double.truncated significand exponent)

def sample? (rate : Int) (frequency : Float) (k : Nat) : Except Error Int :=
  let phase := 2.0 * pi * frequency * Float.ofNat k / Float.ofInt rate
  match Double.ofFloat phase with
  | .infinite _ => .error .infinitePhase
  | .notANumber => .error .undefinedSample
  -- the sine of a number lies between -1 and 1, so the scaled sine has a whole part
  | .finite .. => .ok ((whole? (Float.sin phase * 32767)).getD 0)

/-- The samples of a tone that lasts `duration` seconds, none if that is negative. -/
def samples? (rate : Int) (frequency duration : Float) : Except Error (List Int) := do
  let length ← length? rate duration
  (List.range length).mapM (sample? rate frequency)

end Chip8.Tone
