/-!
# Paths

A path is a sequence of names that starts at the working directory or at a root. Empty names and
single dots say nothing and are dropped when a path is read; two dots are kept, since the directory
before them may not exist. Two slashes in front, but not more, are a root of their own.
-/

namespace Chip8

inductive Anchor
  | workingDirectory
  | root
  | doubleRoot
  deriving DecidableEq, Repr

def Anchor.text : Anchor → String
  | .workingDirectory => ""
  | .root => "/"
  | .doubleRoot => "//"

structure Path where
  anchor : Anchor
  names : List String
  deriving DecidableEq, Repr

namespace Path

def anchorOf (text : List Char) : Anchor :=
  match (text.takeWhile (· = '/')).length with
  | 0 => .workingDirectory
  | 2 => .doubleRoot
  | _ => .root

def ofText (text : String) : Path where
  anchor := anchorOf text.toList
  names := ((text.toList.splitOn '/').map String.ofList).filter fun name =>
    name ≠ "" && name ≠ "."

/-- The text of a path in its shortest form; the working directory itself is one dot. -/
def text (p : Path) : String :=
  let whole := p.anchor.text ++ "/".intercalate p.names
  if whole = "" then "." else whole

def name (p : Path) : String := p.names.getLastD ""

end Path

end Chip8
