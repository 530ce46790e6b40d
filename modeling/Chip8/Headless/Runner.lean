import Chip8.Dump
import Chip8.Headless.Options
import Chip8.Machine.Run
import Chip8.Report
import Chip8.Rom.File

/-!
# The headless runner

The runner loads a program, holds the wanted keys down, runs until something stops, and then shows
memory and screen as they are at that moment, whatever the stop was. The exit code tells the stop:
0 for a breakpoint or a program counter that left memory, 2 for a used up step limit, 4 for a fault,
and 1 if there was no program to run.
-/

namespace Chip8.Headless

inductive Ending
  | exited (code : Nat)
  | refused (e : UsageError)
  /-- A file error that the runner does not report itself. -/
  | raised (e : FileError)
  /-- A run without a limit that went on for longer than it was followed. -/
  | unfinished
  deriving DecidableEq

/-- The memory that a dump shows, as it is written. -/
inductive DumpContent
  | text (table : String)
  | bytes (data : List UInt8)
  deriving DecidableEq

def DumpContent.chunk : DumpContent → Chunk
  | .text table => .line table
  | .bytes data => .raw data

def dumpContent? (m : Machine) (ranges : List AddressRange) : DumpFormat → Option DumpContent
  | .none => none
  | .hex => some (.text (Dump.hex m (AddressRange.merge ranges)))
  | .binary => some (.bytes (Dump.binary m (AddressRange.merge ranges)))

/-- What a dump adds to the report: output, or a file. -/
def writeDump (fs : FileSystem) (target : Option String) (content : DumpContent) :
    Except FileError (List Chunk × List (Path × List UInt8)) :=
  match target with
  | none => .ok ([content.chunk], [])
  | some text => do
      let path := Path.ofText text
      fs.writeFile path
      return ([], [(path, content.chunk.bytes)])

def exitCode : Stop → Nat
  | .fault _ => 4
  | .limit => 2
  | .halted | .breakpoint => 0

/-- What is said about a fault before the dump. -/
def faultNote : Stop → List String
  | .fault f => ["Execution stopped: " ++ f.message]
  | _ => []

/-- What is said about another stop after the dump. -/
def stopNote : Stop → List String
  | .halted => ["Execution stopped: program counter left memory"]
  | .limit => ["Execution stopped: step limit reached"]
  | _ => []

def Settings.machine (s : Settings) (rom : Rom) (random : RandomBytes) : Machine :=
  let loaded := ((Machine.initial random).insert rom).enableTrace s.trace
  s.pressed.foldl (fun m (key : Nat) => m.setKey key true) loaded

def Settings.report (s : Settings) (fs : FileSystem) (run : Machine.Run) (stop : Stop) :
    Report Ending :=
  let lines := run.lines.toList.map Chunk.line
  let seeds := [s.seed]
  let dumped : Except FileError (List Chunk × List (Path × List UInt8)) :=
    match dumpContent? run.machine s.ranges s.format with
    | none => .ok ([], [])
    | some content => writeDump fs s.dump content
  match dumped with
  | .error e => { ending := .raised e, output := lines, complaints := faultNote stop, seeds }
  | .ok (chunks, written) =>
      let screen :=
        if s.screen then [Chunk.line (run.machine.core.screen.render "#" ".")] else []
      { ending := .exited (exitCode stop)
        output := lines ++ chunks ++ screen
        complaints := faultNote stop ++ stopNote stop
        seeds, written }

/-- A run without a step limit is followed for `patience` steps. -/
def Settings.run (s : Settings) (fs : FileSystem) (generator : Option Int → RandomBytes)
    (patience : Nat) : Report Ending :=
  match Rom.ofFile? fs (Path.ofText s.rom) with
  | .error .zeroCharacter => { ending := .raised .zeroCharacter }
  | .error e => { ending := .exited 1, complaints := ["Failed to load rom: " ++ e.message] }
  | .ok rom =>
      let start := s.machine rom (generator s.seed)
      let (run, stop) := start.runUntil (s.breakpoints.map Int.ofNat) s.stepLimit patience
      match stop with
      | some stop => s.report fs run stop
      | none =>
          { ending := .unfinished, output := run.lines.toList.map Chunk.line, seeds := [s.seed] }

def runner (fs : FileSystem) (generator : Option Int → RandomBytes) (patience : Nat)
    (words : List String) : Report Ending :=
  match Settings.ofWords words with
  | .error (.options .helpRequested) => { ending := .refused (.options .helpRequested) }
  | .error e => { ending := .refused e, complaints := ["error: " ++ e.message] }
  | .ok settings => settings.run fs generator patience

end Chip8.Headless
