import Chip8.Address.Range
import Chip8.Machine

/-!
# Memory dumps

A dump shows ranges of memory, either as the plain bytes or as a table. Each range has its own
table: a header, and one row of sixteen cells for every aligned block that the range touches. An
empty line separates the tables.
-/

namespace Chip8.Dump

def header : String :=
  "ADDR " ++ " ".intercalate ((List.range 16).map fun offset => "+" ++ Hex.text 1 offset)

/-- The row of the block that starts at `base`. Its address is shown within memory. -/
def row (m : Machine) (base : Nat) : String :=
  " ".intercalate
    (Hex.text 4 (base % 4096) :: (m.readMemory base 16).map fun byte => Hex.text 2 byte.toNat)

/-- The first addresses of the blocks that a range touches, none if it ends in a block before the
one it starts in. -/
def bases (r : AddressRange) : List Nat :=
  (List.range (r.stop / 16 + 1 - r.start / 16)).map fun k => 16 * (r.start / 16 + k)

def table (m : Machine) (r : AddressRange) : List String := header :: (bases r).map (row m)

def lines (m : Machine) (ranges : List AddressRange) : List String :=
  [""].intercalate (ranges.map (table m))

def hex (m : Machine) (ranges : List AddressRange) : String := "\n".intercalate (lines m ranges)

def binary (m : Machine) (ranges : List AddressRange) : List UInt8 :=
  ranges.flatMap fun r => m.readMemory r.start (r.stop - r.start + 1 : Nat)

end Chip8.Dump
