import Chip8.Files.Path

/-!
# What a program leaves behind

A run of a command line program ends in some way and has written to its two output streams and to
files. The report keeps all of this as data: lines and raw bytes of the standard output in order,
the lines of the error output, the generators of random bytes that were made, by their seeds, and
the files that were written.
-/

namespace Chip8

inductive Chunk
  | line (text : String)
  | raw (bytes : List UInt8)
  deriving DecidableEq, Repr

def Chunk.bytes : Chunk → List UInt8
  | .line text => (text ++ "\n").toUTF8.toList
  | .raw bytes => bytes

structure Report (Ending : Type) where
  ending : Ending
  output : List Chunk := []
  complaints : List String := []
  /-- The seed of each generator made; a generator without a seed chooses one itself. -/
  seeds : List (Option Int) := []
  written : List (Path × List UInt8) := []

namespace Report

variable {Ending : Type}

def outputBytes (r : Report Ending) : List UInt8 := r.output.flatMap Chunk.bytes

def complaintText (r : Report Ending) : String :=
  String.join (r.complaints.map fun line => line ++ "\n")

end Report

end Chip8
