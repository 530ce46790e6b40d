import Chip8.CommandLine.Option

/-!
# Telling options from arguments

Every word of a command line is an option, an argument, or the separator `--` after which all words
are arguments. A word that starts with a dash names an option in full, with its argument after an
equals sign, or by the beginning of a name with two dashes if no other name begins so. A name of one
dash and one letter may be followed at once by its argument. Negative numbers and words with blanks
are arguments unless they name an option, and what is left is an option that nobody declared.
-/

namespace Chip8.CommandLine

/-- An argument in the same word as its option, after an equals sign or directly. -/
structure Attached where
  afterEquals : Bool
  text : List Char
  deriving DecidableEq, Repr

/-- An option that a word names. -/
structure Hit (key : Type) where
  spec : OptionSpec key
  name : String
  attached : Option Attached

inductive Token (key : Type)
  | argument (word : String)
  | option (hit : Hit key)
  | undeclared (word : String)
  | separator

variable {key : Type}

/-- The parts of a word before and after its first equals sign. -/
def splitEquals (word : List Char) : List Char × Option (List Char) :=
  match word.dropWhile (· ≠ '=') with
  | [] => (word, none)
  | _ :: after => (word.takeWhile (· ≠ '='), some after)

/-- One or more decimal digits, before which a part with a point may stand. -/
def isNegativeNumber (word : List Char) : Bool :=
  let isDigit (c : Char) : Bool := (Text.decimalValue? c).isSome
  match word with
  | '-' :: rest =>
      let body := if rest.getLast? = some '\n' then rest.dropLast else rest
      let fraction := body.dropWhile isDigit
      match fraction with
      | [] => !body.isEmpty
      | '.' :: digits => !digits.isEmpty && digits.all isDigit
      | _ => false
  | _ => false

/-- The options whose names a word begins, or begins with. -/
def candidates (specs : List (OptionSpec key)) (word : List Char) : List (Hit key) :=
  match word with
  | '-' :: '-' :: _ =>
      let (start, argument) := splitEquals word
      (allNames specs).filterMap fun (name, spec) =>
        if start.isPrefixOf name.toList then
          some ⟨spec, name, argument.map fun text => ⟨true, text⟩⟩
        else none
  | _ =>
      (allNames specs).filterMap fun (name, spec) =>
        if name.toList = word.take 2 then some ⟨spec, name, some ⟨false, word.drop 2⟩⟩
        else if word.isPrefixOf name.toList then some ⟨spec, name, none⟩
        else none

def exactHit? (specs : List (OptionSpec key)) (word : String) : Option (Hit key) :=
  match find? specs word with
  | some spec => some ⟨spec, word, none⟩
  | none =>
      match splitEquals word.toList with
      | (_, none) => none
      | (start, some argument) =>
          (find? specs (String.ofList start)).map fun spec =>
            ⟨spec, String.ofList start, some ⟨true, argument⟩⟩

def classify (specs : List (OptionSpec key)) (word : String) : Except Error (Token key) :=
  match word.toList with
  | '-' :: _ :: _ =>
      match exactHit? specs word with
      | some hit => .ok (.option hit)
      | none =>
          match candidates specs word.toList with
          | [hit] => .ok (.option hit)
          | [] =>
              if isNegativeNumber word.toList || word.contains ' ' then .ok (.argument word)
              else .ok (.undeclared word)
          | hits => .error (.ambiguous word (hits.map Hit.name))
  | _ => .ok (.argument word)

def tokens (specs : List (OptionSpec key)) : List String → Except Error (List (Token key))
  | [] => .ok []
  | word :: rest =>
      if word = "--" then .ok (.separator :: rest.map .argument)
      else do
        let token ← classify specs word
        return token :: (← tokens specs rest)

end Chip8.CommandLine
