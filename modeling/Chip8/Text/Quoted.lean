import Chip8.Text.Hex
import Chip8.Text.Printable

/-!
# Quoted text in messages

A message shows a text it complains about between single quotes, or between double quotes if the
text holds a single quote and no double one. The backslash and the quote in use are escaped, as are
line breaks, tabs and all characters that cannot be printed; those are written by their code point
in two, four or eight lower-case digits.
-/

namespace Chip8.Text

def lowerDigits (width n : Nat) : List Char := (Hex.digits width n).map Char.toLower

def escape (quote c : Char) : List Char :=
  let n := c.toNat
  if c = quote || c = '\\' then ['\\', c]
  else if c = '\n' then ['\\', 'n']
  else if c = '\r' then ['\\', 'r']
  else if c = '\t' then ['\\', 't']
  else if isPrintable c then [c]
  else if n < 0x100 then '\\' :: 'x' :: lowerDigits 2 n
  else if n < 0x10000 then '\\' :: 'u' :: lowerDigits 4 n
  else '\\' :: 'U' :: lowerDigits 8 n

def quoteFor (text : List Char) : Char :=
  if text.contains '\'' && !text.contains '"' then '"' else '\''

def quoted (text : List Char) : List Char :=
  let quote := quoteFor text
  quote :: text.flatMap (escape quote) ++ [quote]

def quote (text : String) : String := String.ofList (quoted text.toList)

end Chip8.Text
