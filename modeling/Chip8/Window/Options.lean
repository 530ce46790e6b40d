import Chip8.CommandLine.Parse
import Chip8.Machine
import Chip8.Window.ColorCode

/-!
# Options of the window program

The program file comes from the command line or, if that gives none, from the environment. Scale and
frame rate are checked before the colours, and the foreground before the background.
-/

namespace Chip8.Window

open CommandLine

inductive Key
  | help
  | rom
  | fg
  | bg
  | scale
  | fps
  | audio
  | noAudio
  | keypad
  | trace
  deriving DecidableEq, Repr

def specs : List (OptionSpec Key) :=
  [{ key := .help, names := ["-h", "--help"], argument := .help },
   { key := .rom, names := ["-f", "--rom"], argument := .text },
   { key := .fg, names := ["--fg"], argument := .text },
   { key := .bg, names := ["--bg"], argument := .text },
   { key := .scale, names := ["--scale"], argument := .integer },
   { key := .fps, names := ["--fps"], argument := .integer },
   { key := .audio, names := ["--audio"], argument := .none },
   { key := .noAudio, names := ["--no-audio"], argument := .none },
   { key := .keypad, names := ["--keypad"], argument := .none },
   { key := .trace, names := ["--trace"], argument := .none }]

structure Options where
  rom : String := ""
  fg : String := "FFFFFF"
  bg : String := "000000"
  scale : Int := 10
  fps : Int := Machine.stepsPerSecond
  audio : Bool := true
  keypad : Bool := false
  trace : Bool := false

def Options.set (o : Options) : Key × Value → Options
  | (.rom, .text s) => { o with rom := s }
  | (.fg, .text s) => { o with fg := s }
  | (.bg, .text s) => { o with bg := s }
  | (.scale, .integer n) => { o with scale := n }
  | (.fps, .integer n) => { o with fps := n }
  | (.audio, _) => { o with audio := true }
  | (.noAudio, _) => { o with audio := false }
  | (.keypad, _) => { o with keypad := true }
  | (.trace, _) => { o with trace := true }
  | _ => o

/-- The variables that the program looks at. -/
structure Environment where
  rom : Option String := none
  trace : Option String := none

/-- Why the program stops before it loads anything. -/
inductive SettingsError
  | noRom
  | scaleNotPositive
  | fpsNotPositive
  | foreground (given : String) (e : Color.CodeError)
  | background (given : String) (e : Color.CodeError)
  deriving DecidableEq, Repr

def SettingsError.message : SettingsError → String
  | .noRom => "rom file is empty"
  | .scaleNotPositive => "scale must be positive"
  | .fpsNotPositive => "fps must be positive"
  | .foreground given e => "couldn't decode fg color from hex " ++ given ++ ": " ++ e.message
  | .background given e => "couldn't decode bg color from hex " ++ given ++ ": " ++ e.message

structure Settings where
  rom : String
  scale : Nat
  fps : Nat
  fg : Color
  bg : Color
  audio : Bool
  keypad : Bool
  trace : Bool
  scale_pos : 0 < scale

/-- The file to run: the one given, or else the environment's. -/
def Options.romPath (o : Options) (env : Environment) : String :=
  if o.rom = "" then env.rom.getD "" else o.rom

def Options.settings (o : Options) (env : Environment) : Except SettingsError Settings :=
  if o.romPath env = "" then .error .noRom
  else if positive : 0 < o.scale then
    if o.fps ≤ 0 then .error .fpsNotPositive
    else do
      let fg ← (Color.ofCode? o.fg).mapError (.foreground o.fg)
      let bg ← (Color.ofCode? o.bg).mapError (.background o.bg)
      return {
        rom := o.romPath env, scale := o.scale.toNat, fps := o.fps.toNat, fg, bg
        audio := o.audio, keypad := o.keypad, trace := o.trace || env.trace.isSome
        scale_pos := by omega }
  else .error .scaleNotPositive

def Options.ofWords (words : List String) : Except CommandLine.Error Options :=
  (CommandLine.parse specs words).map fun given => given.foldl Options.set {}

end Chip8.Window
