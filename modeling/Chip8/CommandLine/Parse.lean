import Chip8.CommandLine.Token

/-!
# Reading a command line

The words are told apart first, so an ambiguous name is refused before anything else. Then each
option takes its argument and is checked, in order. Missing options are looked for at the end, and
words that nobody took after that.
-/

namespace Chip8.CommandLine

variable {key : Type}

/-- The options in one word. Letters of one dash may be run together, and the last may take an
argument: the rest of the word, or the next word if `pending`. -/
structure Cluster (key : Type) where
  actions : List (OptionSpec key × Option String) := []
  pending : Option (OptionSpec key) := none
  /-- The end of the word that names no option. -/
  undeclared : Option String := none

def Cluster.after (spec : OptionSpec key) (c : Cluster key) : Cluster key :=
  { c with actions := (spec, none) :: c.actions }

def single (spec : OptionSpec key) : Cluster key :=
  if spec.takesArgument then { pending := some spec } else { actions := [(spec, none)] }

/-- Options that take no argument may have two dashes or one. -/
def isShort (name : String) : Bool :=
  match name.toList with
  | _ :: '-' :: _ => false
  | _ => true

def clusterOf (specs : List (OptionSpec key)) (spec : OptionSpec key) (name : String)
    (afterEquals : Bool) : List Char → Except Error (Cluster key)
  | [] =>
      if spec.takesArgument then .ok { actions := [(spec, some "")] }
      else .error (.ignoredArgument spec.title "")
  | c :: rest =>
      let text := String.ofList (c :: rest)
      if spec.takesArgument then .ok { actions := [(spec, some text)] }
      else if !isShort name || afterEquals || c = '-' then .error (.ignoredArgument spec.title text)
      else
        let next := String.ofList ['-', c]
        match find? specs next with
        | none => .ok { actions := [(spec, none)], undeclared := some ("-" ++ text) }
        | some other =>
            match rest with
            | [] => .ok ((single other).after spec)
            | '=' :: argument => (clusterOf specs other next true argument).map (.after spec)
            | argument => (clusterOf specs other next false argument).map (.after spec)

def Hit.cluster (specs : List (OptionSpec key)) (hit : Hit key) : Except Error (Cluster key) :=
  match hit.attached with
  | none => .ok (single hit.spec)
  | some attached => clusterOf specs hit.spec hit.name attached.afterEquals attached.text

/-- What a command line gave: the options in order, and the words that nobody took. -/
structure Parsed (key : Type) where
  given : List (key × Value) := []
  untaken : List String := []

def Parsed.before (given : List (key × Value)) (untaken : List String) (p : Parsed key) :
    Parsed key :=
  ⟨given ++ p.given, untaken ++ p.untaken⟩

def actAll (actions : List (OptionSpec key × Option String)) : Except Error (List (key × Value)) :=
  actions.mapM fun (spec, argument) => spec.act argument

def consume (specs : List (OptionSpec key)) : List (Token key) → Except Error (Parsed key)
  | [] => .ok {}
  | .argument word :: rest => (consume specs rest).map (.before [] [word])
  | .undeclared word :: rest => (consume specs rest).map (.before [] [word])
  | .separator :: rest => (consume specs rest).map (.before [] ["--"])
  | .option hit :: rest => do
      let cluster ← hit.cluster specs
      match cluster.pending with
      | none =>
          let given ← actAll cluster.actions
          return (← consume specs rest).before given cluster.undeclared.toList
      | some spec =>
          match rest with
          | .argument word :: rest =>
              let given ← actAll (cluster.actions ++ [(spec, some word)])
              return (← consume specs rest).before given []
          | _ => .error (.expectedArgument spec.title)

def parse [DecidableEq key] (specs : List (OptionSpec key)) (words : List String) :
    Except Error (List (key × Value)) := do
  let parsed ← consume specs (← tokens specs words)
  let missing := specs.filter fun spec =>
    spec.required && parsed.given.all fun (key, _) => key ≠ spec.key
  if !missing.isEmpty then .error (.missing (missing.map OptionSpec.title))
  else if !parsed.untaken.isEmpty then .error (.unrecognized parsed.untaken)
  else return parsed.given

end Chip8.CommandLine
