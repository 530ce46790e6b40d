import Chip8.Number.Literal
import Chip8.Text.Lowercase
import Chip8.Text.Quoted

/-!
# Hexadecimal addresses

An address, or any small hexadecimal number, is given with or without the mark `0x` and must not
exceed a limit. What is left without white space, case and mark is read as a number of base sixteen.
-/

namespace Chip8.Address

/-- The last address of memory. -/
def last : Nat := 0xFFF

inductive Error
  | empty
  /-- The text, in lower case and without its mark, is no number. -/
  | notNumber (text : List Char)
  | outOfRange
  deriving DecidableEq, Repr

/-- The longest part of a quoted text that a message shows. -/
def quoteLimit : Nat := 200

def Error.message : Error → String
  | .empty => "empty hexadecimal value"
  | .notNumber text =>
      "invalid literal for int() with base 16: "
        ++ String.ofList ((Text.quoted text).take quoteLimit)
  | .outOfRange => "hex value out of range"

def dropMark : List Char → List Char
  | '0' :: 'x' :: rest => rest
  | text => text

def ofChars? (limit : Int) (text : List Char) : Except Error Nat :=
  let digits := dropMark (Text.lower (Text.trim text))
  if digits = [] then .error .empty
  else
    match Number.read? 16 digits with
    | none => .error (.notNumber digits)
    | some value => if 0 ≤ value ∧ value ≤ limit then .ok value.toNat else .error .outOfRange

def parse? (limit : Int) (text : String) : Except Error Nat := ofChars? limit text.toList

end Chip8.Address
