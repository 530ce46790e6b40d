import Chip8.Text.Blank
import Chip8.Text.Hex
import Chip8.Window.Canvas

/-!
# Colour codes

A colour is written as two hexadecimal digits for each of red, green and blue and, if it is not
opaque, for its opacity. One number sign may stand in front, and white space around the whole.
-/

namespace Chip8.Color

inductive CodeError
  | notAscii
  | oddLength
  | notHexadecimal
  /-- Neither three nor four channels. -/
  | wrongLength
  deriving DecidableEq, Repr

def CodeError.message : CodeError → String
  | .notAscii =>
      "couldn't decode a hex string: string argument should contain only ASCII characters"
  | .oddLength => "couldn't decode a hex string: Odd-length string"
  | .notHexadecimal => "couldn't decode a hex string: Non-hexadecimal digit found"
  | .wrongLength => "color must be in rgb or rgba format"

/-- The bytes that pairs of digits denote. -/
def readPairs? : List Char → Except CodeError (List Nat)
  | [] => .ok []
  | [_] => .error .oddLength
  | high :: low :: rest =>
      match Hex.value? high, Hex.value? low with
      | some h, some l => (readPairs? rest).map fun bytes => (16 * h + l) :: bytes
      | _, _ => .error .notHexadecimal

/-- The digits as bytes; characters are checked before the length, and that before the digits. -/
def readBytes? (digits : List Char) : Except CodeError (List Nat) :=
  if digits.any (fun c => 128 ≤ c.toNat) then .error .notAscii
  else if digits.length % 2 = 1 then .error .oddLength
  else readPairs? digits

/-- The code without white space around it and without one number sign. -/
def codeDigits (code : List Char) : List Char :=
  match Text.trim code with
  | '#' :: digits => digits
  | digits => digits

def ofChars? (code : List Char) : Except CodeError Color := do
  match ← readBytes? (codeDigits code) with
  | [red, green, blue] => .ok ⟨red, green, blue, some 0xFF⟩
  | [red, green, blue, alpha] => .ok ⟨red, green, blue, some alpha⟩
  | _ => .error .wrongLength

def ofCode? (code : String) : Except CodeError Color := ofChars? code.toList

end Chip8.Color
