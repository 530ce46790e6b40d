import Chip8.Text.Blank
import Chip8.Text.DecimalDigit
import Chip8.Text.Hex

/-!
# Reading whole numbers

A number may have white space around it, a sign, and in base sixteen the mark `0x` with at most one
underscore after it; then come its digits, between which single underscores may stand. Decimal
digits of every script count with their value, hexadecimal letters only in ASCII. The four
information separators are not white space here.
-/

namespace Chip8.Number

/-- A character of a number in ASCII: white space as a blank, a digit as its figure. Other
characters beyond ASCII occur in no number. -/
def plain? (c : Char) : Option Char :=
  if c.toNat < 127 then some c
  else if Text.isBlank c then some ' '
  else (Text.decimalValue? c).map fun value => Char.ofNat ('0'.toNat + value)

/-- White space in ASCII. -/
def isGap (c : Char) : Bool := c = ' ' || (0x09 ≤ c.toNat && c.toNat ≤ 0x0D)

def digit? (base : Nat) (c : Char) : Option Nat := (Hex.value? c).filter (· < base)

/-- The digits after one that has been read, up to the end of the number. -/
def readTail (base value : Nat) : List Char → Option Nat
  | [] => some value
  | '_' :: c :: rest => (digit? base c).bind fun d => readTail base (base * value + d) rest
  | c :: rest => (digit? base c).bind fun d => readTail base (base * value + d) rest

def readDigits (base : Nat) : List Char → Option Nat
  | [] => none
  | c :: rest => (digit? base c).bind fun d => readTail base d rest

/-- Drops the mark of a hexadecimal number. -/
def dropMark (base : Nat) : List Char → List Char
  | '0' :: x :: rest =>
      if base = 16 && (x = 'x' || x = 'X') then
        match rest with
        | '_' :: digits => digits
        | digits => digits
      else '0' :: x :: rest
  | text => text

def readUnsigned (base : Nat) (text : List Char) : Option Nat :=
  readDigits base (dropMark base text)

def readSigned (base : Nat) : List Char → Option Int
  | '-' :: rest => (readUnsigned base rest).map fun n => -(n : Int)
  | '+' :: rest => (readUnsigned base rest).map fun n => (n : Int)
  | text => (readUnsigned base text).map fun n => (n : Int)

/-- The number that a text denotes in a base up to sixteen. -/
def read? (base : Nat) (text : List Char) : Option Int :=
  (text.mapM plain?).bind fun plain =>
    readSigned base ((plain.dropWhile isGap).reverse.dropWhile isGap).reverse

/-- The longest decimal number that is read. -/
def decimalDigitLimit : Nat := 4300

/-- The number that a text denotes in base ten, if it is not too long. -/
def readDecimal? (text : String) : Option Int :=
  let digitCount := text.toList.countP fun c => ((plain? c).bind (digit? 10)).isSome
  if digitCount > decimalDigitLimit then none else read? 10 text.toList

end Chip8.Number
