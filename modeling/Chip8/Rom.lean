import Chip8.Memory

/-!
# Program images

A program image is plain bytes with a name; it has no header. Whatever builds one checks that it
fits above the entry point, so a `Rom` is never too large for the machine.
-/

namespace Chip8

/-- The refusal of an image with more bytes than fit. -/
structure RomTooLarge where
  name : String
  size : Nat
  deriving DecidableEq, Repr

def RomTooLarge.message (e : RomTooLarge) : String :=
  s!"rom {e.name} is too large: {e.size} bytes, max size is {Memory.programLimit} bytes"

structure Rom where
  name : String
  data : List UInt8
  fits : data.length ≤ Memory.programLimit

namespace Rom

def ofBytes (name : String) (data : List UInt8) : Except RomTooLarge Rom :=
  if fits : data.length ≤ Memory.programLimit then .ok ⟨name, data, fits⟩
  else .error ⟨name, data.length⟩

def size (r : Rom) : Nat := r.data.length

theorem ofBytes_eq_error_iff (name : String) (data : List UInt8) (e : RomTooLarge) :
    ofBytes name data = .error e ↔ Memory.programLimit < data.length ∧ e = ⟨name, data.length⟩ := by
  simp only [ofBytes]
  split
  · rename_i fits
    simp [Nat.not_lt.mpr fits]
  · rename_i big
    simp [Nat.lt_of_not_le big, eq_comm]

end Rom

end Chip8
