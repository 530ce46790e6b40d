import Chip8.Report
import Chip8.Rom.File
import Chip8.Window.Session

/-!
# The window program

The program reads its options, loads the program file and plays a session. It ends normally when the
player quits, with code 4 after a fault, and with a message when it cannot begin or the toolkit
refuses something.
-/

namespace Chip8.Window

inductive Ending
  | closed
  | faulted
  | refused (e : CommandLine.Error)
  | stopped (message : String)
  /-- A file error that the program does not report itself. -/
  | raised (e : FileError)
  /-- There is no toolkit to open a window with. -/
  | noToolkit (complaint : String)
  deriving DecidableEq

structure Played where
  report : Report Ending
  log : List ToolkitEvent := []

def endingOf : Progress → Ending
  | .faulted => .faulted
  | .broken complaint => .stopped complaint
  | .going | .quit => .closed

def play (t : Toolkit) (settings : Settings) (machine : Machine) (inputs : List (List Input)) :
    Played :=
  match t.missing with
  | some complaint => { report := { ending := .noToolkit complaint, seeds := [none] } }
  | none =>
      let (session, progress) := Session.run t settings machine inputs
      { report :=
          { ending := endingOf progress
            output := session.output.toList.map Chunk.line
            complaints := session.complaints.toList
            seeds := [none] }
        log := session.log.toList }

def Settings.run (settings : Settings) (fs : FileSystem) (generator : Option Int → RandomBytes)
    (t : Toolkit) (inputs : List (List Input)) : Played :=
  match Rom.ofFile? fs (Path.ofText settings.rom) with
  | .error .zeroCharacter => { report := { ending := .raised .zeroCharacter } }
  | .error e =>
      { report :=
          { ending := .stopped ("couldn't create a rom from the file: " ++ e.message) } }
  | .ok rom =>
      let machine := ((Machine.initial (generator none)).insert rom).enableTrace settings.trace
      play t settings machine inputs

def program (fs : FileSystem) (env : Environment) (generator : Option Int → RandomBytes)
    (t : Toolkit) (inputs : List (List Input)) (words : List String) : Played :=
  match Options.ofWords words with
  | .error .helpRequested => { report := { ending := .refused .helpRequested } }
  | .error e =>
      { report := { ending := .refused e, complaints := ["error: " ++ e.message] } }
  | .ok options =>
      match options.settings env with
      | .error e => { report := { ending := .stopped e.message } }
      | .ok settings => settings.run fs generator t inputs

end Chip8.Window
