import Chip8.Address.Parse

/-!
# Ranges of addresses

A range includes both its ends. A list of ranges stands for the addresses that some range of it
covers; merging brings it into the form in which the ranges ascend and no two of them overlap or
touch. An empty list stands for all of memory.
-/

namespace Chip8

structure AddressRange where
  start : Nat
  stop : Nat
  deriving DecidableEq, Repr

namespace AddressRange

def Covers (r : AddressRange) (address : Nat) : Prop := r.start ≤ address ∧ address ≤ r.stop

inductive Error
  | noColon
  | address (e : Address.Error)
  | descending
  deriving DecidableEq, Repr

def Error.message : Error → String
  | .noColon => "range specification must contain ':'"
  | .address e => e.message
  | .descending => "range end must be >= start"

def ofChars? (text : List Char) : Except Error AddressRange :=
  match text.dropWhile (· ≠ ':') with
  | [] => .error .noColon
  | _ :: after => do
      let start ← (Address.ofChars? Address.last (text.takeWhile (· ≠ ':'))).mapError .address
      let stop ← (Address.ofChars? Address.last after).mapError .address
      if stop < start then .error .descending else .ok ⟨start, stop⟩

/-- A start and an end with a colon between them. -/
def parse? (text : String) : Except Error AddressRange := ofChars? text.toList

def all : AddressRange := ⟨0, Address.last⟩

/-- By start, then by end. -/
def before (a b : AddressRange) : Bool :=
  a.start < b.start || (a.start == b.start && a.stop ≤ b.stop)

/-- Joins a range to ascending ones after it as long as they overlap or touch. -/
def joinFrom (current : AddressRange) : List AddressRange → List AddressRange
  | [] => [current]
  | next :: rest =>
      if next.start ≤ current.stop + 1 then
        joinFrom ⟨current.start, max current.stop next.stop⟩ rest
      else current :: joinFrom next rest

def merge (ranges : List AddressRange) : List AddressRange :=
  match ranges.mergeSort before with
  | [] => [all]
  | first :: rest => joinFrom first rest

end AddressRange

end Chip8
