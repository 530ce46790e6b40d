import Chip8.Address.Range
import Chip8.CommandLine.Parse

/-!
# Options of the headless runner

The command line is read into options as they were given and then into settings, in which every
address, key and range has been understood. Breakpoints are checked before keys and keys before
ranges.
-/

namespace Chip8.Headless

open CommandLine

inductive DumpFormat
  | hex
  | binary
  | none
  deriving DecidableEq, Repr

inductive Key
  | help
  | rom
  | steps
  | breakpoint
  | press
  | dump
  | dumpRange
  | dumpFormat
  | screen
  | trace
  | seed
  deriving DecidableEq, Repr

def specs : List (OptionSpec Key) :=
  [{ key := .help, names := ["-h", "--help"], argument := .help },
   { key := .rom, names := ["--rom"], argument := .text, required := true },
   { key := .steps, names := ["--steps"], argument := .integer },
   { key := .breakpoint, names := ["--break-pc"], argument := .text },
   { key := .press, names := ["--press"], argument := .text },
   { key := .dump, names := ["--dump"], argument := .text },
   { key := .dumpRange, names := ["--dump-range"], argument := .text },
   { key := .dumpFormat, names := ["--dump-format"], argument := .choice ["hex", "bin", "none"] },
   { key := .screen, names := ["--screen"], argument := .none },
   { key := .trace, names := ["--trace"], argument := .none },
   { key := .seed, names := ["--seed"], argument := .integer }]

/-- The options as given. An option given again replaces the earlier value, except breakpoints, keys
and ranges, which add up. -/
structure Options where
  rom : String := ""
  steps : Int := 600
  breakpoints : List String := []
  pressed : List String := []
  dump : Option String := none
  ranges : List String := []
  format : DumpFormat := .hex
  screen : Bool := false
  trace : Bool := false
  seed : Option Int := none

def formatOf : String → DumpFormat
  | "bin" => .binary
  | "none" => .none
  | _ => .hex

def Options.set (o : Options) : Key × Value → Options
  | (.rom, .text s) => { o with rom := s }
  | (.steps, .integer n) => { o with steps := n }
  | (.breakpoint, .text s) => { o with breakpoints := o.breakpoints ++ [s] }
  | (.press, .text s) => { o with pressed := o.pressed ++ [s] }
  | (.dump, .text s) => { o with dump := some s }
  | (.dumpRange, .text s) => { o with ranges := o.ranges ++ [s] }
  | (.dumpFormat, .text s) => { o with format := formatOf s }
  | (.screen, _) => { o with screen := true }
  | (.trace, _) => { o with trace := true }
  | (.seed, .integer n) => { o with seed := some n }
  | _ => o

/-- Why a command line is refused. -/
inductive UsageError
  | options (e : CommandLine.Error)
  | breakpoint (given : String) (e : Address.Error)
  | key (given : String) (e : Address.Error)
  | range (given : String) (e : AddressRange.Error)
  deriving DecidableEq, Repr

def UsageError.message : UsageError → String
  | .options e => e.message
  | .breakpoint given e => "invalid breakpoint address '" ++ given ++ "': " ++ e.message
  | .key given e => "invalid key '" ++ given ++ "': " ++ e.message
  | .range given e => "invalid dump range '" ++ given ++ "': " ++ e.message

/-- The options with all their texts understood. -/
structure Settings where
  rom : String
  /-- No limit if absent. -/
  stepLimit : Option Int
  breakpoints : List Nat
  pressed : List Nat
  dump : Option String
  ranges : List AddressRange
  format : DumpFormat
  screen : Bool
  trace : Bool
  seed : Option Int

/-- Reads each text, and names the first that cannot be read. -/
def readAll (read : String → Except ε α) (refuse : String → ε → UsageError) (texts : List String) :
    Except UsageError (List α) :=
  texts.mapM fun text => (read text).mapError (refuse text)

def Options.settings (o : Options) : Except UsageError Settings := do
  let breakpoints ← readAll (Address.parse? 0xFFFF) .breakpoint o.breakpoints
  let pressed ← readAll (Address.parse? 0xF) .key o.pressed
  let ranges ← readAll AddressRange.parse? .range o.ranges
  return {
    rom := o.rom
    stepLimit := if o.steps > 0 then some o.steps else none
    breakpoints, pressed, ranges
    dump := o.dump, format := o.format, screen := o.screen, trace := o.trace, seed := o.seed }

def Settings.ofWords (words : List String) : Except UsageError Settings := do
  let given ← (CommandLine.parse specs words).mapError .options
  (given.foldl Options.set {}).settings

end Chip8.Headless
