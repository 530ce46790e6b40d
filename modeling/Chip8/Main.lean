import Chip8.Headless.Runner
import Chip8.Window.Program

/-!
# Command line

The programs run on the real files and streams. A first word `window` starts the window program and
everything else the headless runner. The programs are functions, so this layer only fetches what
they may ask for, carries out what they report, and tells them when the system refused a write.
-/

open Chip8

namespace Chip8.Main

/-- The number and text of an error of the operating system. -/
def systemErrorOf : IO.Error → SystemError
  | .noFileOrDirectory _ _ _ => .notFound
  | .inappropriateType _ 21 _ | .inappropriateType none _ _ => .isDirectory
  | .inappropriateType _ _ _ => .notDirectory
  | .permissionDenied _ number text => ⟨number.toNat, text⟩
  | .otherError number text => ⟨number.toNat, text⟩
  | e => ⟨5, toString e⟩

/-- What reading a file answers; a path with a zero character is not tried. -/
def readAnswer (path : Path) : IO (Except SystemError (List UInt8)) := do
  if path.text.contains '\x00' then return .error .notFound
  try
    let bytes ← IO.FS.readBinFile path.text
    return .ok bytes.toList
  catch e => return .error (systemErrorOf e)

/-- Writes the files of a report, up to the first that is refused. -/
def writeAnswer : List (Path × List UInt8) → IO (Except SystemError Unit)
  | [] => return .ok ()
  | (path, bytes) :: rest => do
      try
        IO.FS.writeBinFile path.text ⟨bytes.toArray⟩
        writeAnswer rest
      catch e => return .error (systemErrorOf e)

/-- Carries out the output of a report. -/
def emit (report : Report Ending) : IO Unit := do
  let output ← IO.getStdout
  output.write ⟨report.outputBytes.toArray⟩
  output.flush
  (← IO.getStderr).putStr report.complaintText

/-- A generator for the seed that the user gave, or for one drawn now. -/
def generator (drawn : Nat) : Option Int → RandomBytes
  | some seed => .ofSeed (UInt64.ofInt seed)
  | none => .ofSeed (UInt64.ofNat drawn)

def headlessCode : Headless.Ending → UInt32
  | .exited code => code.toUInt32
  | .refused (.options .helpRequested) => 0
  | .refused _ => 2
  | .raised _ | .unfinished => 1

def headlessNote : Headless.Ending → String
  | .raised e => e.message ++ "\n"
  | _ => ""

/-- Steps that a run without a limit is followed for. -/
def patience : Nat := 1 <<< 60

def runHeadless (drawn : Nat) (words : List String) : IO UInt32 := do
  let read ← match Headless.Settings.ofWords words with
    | .ok settings => readAnswer (Path.ofText settings.rom)
    | .error _ => pure (.error .notFound)
  let reportWith (write : Except SystemError Unit) : Report Headless.Ending :=
    Headless.runner ⟨fun _ => read, fun _ => write⟩ (generator drawn) patience words
  let planned := reportWith (.ok ())
  let report ← match ← writeAnswer planned.written with
    | .ok () => pure planned
    | .error e => pure (reportWith (.error e))
  emit report
  (← IO.getStderr).putStr (headlessNote report.ending)
  return headlessCode report.ending

def windowCode : Window.Ending → UInt32
  | .closed => 0
  | .faulted => 4
  | .refused .helpRequested => 0
  | .refused _ => 2
  | .stopped _ | .raised _ | .noToolkit _ => 1

def windowNote : Window.Ending → String
  | .stopped message | .noToolkit message => message ++ "\n"
  | .raised e => e.message ++ "\n"
  | _ => ""

/-- No toolkit is linked into this program, so a session ends before its first frame. -/
def toolkit : Toolkit := { missing := some "no window toolkit is available" }

def runWindow (drawn : Nat) (words : List String) : IO UInt32 := do
  let env : Window.Environment :=
    { rom := ← IO.getEnv "CHIP8EMU_ROM", trace := ← IO.getEnv "CHIP8EMU_TRACE" }
  let read ← match Window.Options.ofWords words with
    | .ok options => readAnswer (Path.ofText (options.romPath env))
    | .error _ => pure (.error .notFound)
  let played := Window.program ⟨fun _ => read, fun _ => .ok ()⟩ env (generator drawn) toolkit []
    words
  emit played.report
  (← IO.getStderr).putStr (windowNote played.report.ending)
  return windowCode played.report.ending

end Chip8.Main

def main (words : List String) : IO UInt32 := do
  let drawn ← IO.rand 0 (1 <<< 62)
  match words with
  | "window" :: rest => Chip8.Main.runWindow drawn rest
  | _ => Chip8.Main.runHeadless drawn words
