import Chip8.Number.Literal
import Chip8.Text.Quoted

/-!
# Command line options

A program declares its options by their names and the kind of argument they take. A command line
that the declaration does not allow is refused with a cause.
-/

namespace Chip8.CommandLine

inductive Argument
  | none
  | text
  | integer
  | choice (names : List String)
  /-- Nothing; the option asks for the help text and ends the reading. -/
  | help
  deriving DecidableEq, Repr

/-- An option, with a key that the program knows it by. -/
structure OptionSpec (key : Type) where
  key : key
  names : List String
  argument : Argument
  required : Bool := false

inductive Value
  | present
  | text (s : String)
  | integer (n : Int)
  deriving DecidableEq, Repr

inductive Error
  | ambiguous (given : String) (candidates : List String)
  | expectedArgument (option : String)
  | invalidInteger (option given : String)
  | invalidChoice (option given : String) (choices : List String)
  /-- An option that takes no argument was given one. -/
  | ignoredArgument (option given : String)
  | missing (options : List String)
  | unrecognized (arguments : List String)
  | helpRequested
  deriving DecidableEq, Repr

def Error.message : Error → String
  | .ambiguous given candidates =>
      "ambiguous option: " ++ given ++ " could match " ++ ", ".intercalate candidates
  | .expectedArgument option => "argument " ++ option ++ ": expected one argument"
  | .invalidInteger option given =>
      "argument " ++ option ++ ": invalid int value: " ++ Text.quote given
  | .invalidChoice option given choices =>
      "argument " ++ option ++ ": invalid choice: " ++ Text.quote given ++ " (choose from "
        ++ ", ".intercalate (choices.map Text.quote) ++ ")"
  | .ignoredArgument option given =>
      "argument " ++ option ++ ": ignored explicit argument " ++ Text.quote given
  | .missing options => "the following arguments are required: " ++ ", ".intercalate options
  | .unrecognized arguments => "unrecognized arguments: " ++ " ".intercalate arguments
  | .helpRequested => ""

namespace OptionSpec

variable {key : Type}

def title (spec : OptionSpec key) : String := "/".intercalate spec.names

def takesArgument (spec : OptionSpec key) : Bool :=
  match spec.argument with
  | .none | .help => false
  | _ => true

/-- The value of an option that takes an argument. -/
def read (spec : OptionSpec key) (given : String) : Except Error Value :=
  match spec.argument with
  | .integer =>
      match Number.readDecimal? given with
      | some n => .ok (.integer n)
      | none => .error (.invalidInteger spec.title given)
  | .choice names =>
      if names.contains given then .ok (.text given)
      else .error (.invalidChoice spec.title given names)
  | _ => .ok (.text given)

def act (spec : OptionSpec key) : Option String → Except Error (key × Value)
  | some given => (spec.read given).map fun value => (spec.key, value)
  | none => if spec.argument = .help then .error .helpRequested else .ok (spec.key, .present)

end OptionSpec

def find? {key : Type} (specs : List (OptionSpec key)) (name : String) : Option (OptionSpec key) :=
  specs.find? fun spec => spec.names.contains name

/-- Every name with its option, in the order of declaration. -/
def allNames {key : Type} (specs : List (OptionSpec key)) : List (String × OptionSpec key) :=
  specs.flatMap fun spec => spec.names.map fun name => (name, spec)

end Chip8.CommandLine
