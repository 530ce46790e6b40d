import Chip8.Ram

/-!
# The machine's memory map

The machine addresses 4096 bytes. The glyphs of the sixteen hexadecimal digits, five rows of four
pixels each, lie at the bottom; a program starts at `0x200` and may fill what is left, so that its
last byte can reach the last cell but never wraps onto the glyphs.
-/

namespace Chip8

abbrev mainMemory : Extent := ⟨0, 4096, by decide⟩

abbrev Memory := Ram mainMemory

namespace Memory

/-- Where programs are loaded and start. -/
def entryPoint : Nat := 0x200

/-- The longest program that fits above the entry point. -/
def programLimit : Nat := mainMemory.size - entryPoint

/-- Bytes of one glyph. -/
def glyphSize : Nat := 5

/-- The glyphs of the digits `0` to `F`, one row per byte in its upper four bits. -/
def glyphs : List UInt8 :=
  [0xF0, 0x90, 0x90, 0x90, 0xF0,
   0x20, 0x60, 0x20, 0x20, 0x70,
   0xF0, 0x10, 0xF0, 0x80, 0xF0,
   0xF0, 0x10, 0xF0, 0x10, 0xF0,
   0x90, 0x90, 0xF0, 0x10, 0x10,
   0xF0, 0x80, 0xF0, 0x10, 0xF0,
   0xF0, 0x80, 0xF0, 0x90, 0xF0,
   0xF0, 0x10, 0x20, 0x40, 0x40,
   0xF0, 0x90, 0xF0, 0x90, 0xF0,
   0xF0, 0x90, 0xF0, 0x10, 0xF0,
   0xF0, 0x90, 0xF0, 0x90, 0x90,
   0xE0, 0x90, 0xE0, 0x90, 0xE0,
   0xF0, 0x80, 0x80, 0x80, 0xF0,
   0xE0, 0x90, 0x90, 0x90, 0xE0,
   0xF0, 0x80, 0xF0, 0x80, 0xF0,
   0xF0, 0x80, 0xF0, 0x80, 0x80]

/-- Memory at power on: the glyphs at the bottom, zero elsewhere. -/
def initial : Memory := (Ram.blank mainMemory).setBlock 0 glyphs

/-- The first row of a digit's glyph. Digits above `F` have no glyph; their address continues the
five byte pitch. -/
def glyphAddress (digit : UInt8) : UInt16 := UInt16.ofNat (digit.toNat * glyphSize)

/-- The refusal of a program with more bytes than fit. -/
structure ProgramTooLong where
  size : Nat
  deriving DecidableEq, Repr

def ProgramTooLong.message (e : ProgramTooLong) : String :=
  s!"program is {e.size} bytes, at most {programLimit} bytes fit"

def loadProgram? (m : Memory) (bytes : List UInt8) : Except ProgramTooLong Memory :=
  if bytes.length > programLimit then .error ⟨bytes.length⟩
  else .ok (m.setBlock entryPoint bytes)

theorem length_glyphs : glyphs.length = 16 * glyphSize := rfl

theorem glyphAddress_toNat (digit : UInt8) :
    (glyphAddress digit).toNat = digit.toNat * glyphSize := by
  have bound := digit.toNat_lt
  simp only [glyphAddress, glyphSize, UInt16.toNat_ofNat']
  omega

end Memory

end Chip8
