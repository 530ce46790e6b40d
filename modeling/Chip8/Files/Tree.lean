import Chip8.Files.FileSystem

/-!
# A directory tree as a file system

A tree lists the files and directories below a working directory. A path is followed name by name:
each step needs a directory to start from, refuses a name that is too long, and needs the name to
exist. Of what lies outside the working directory only the directories above it are known.
-/

namespace Chip8

structure Tree where
  files : List (List String × List UInt8)
  directories : List (List String)

namespace Tree

/-- Where a walk has come to. -/
inductive Place
  | inside (names : List String)
  /-- That many directories above the working directory. -/
  | above (levels : Nat)
  | root
  deriving DecidableEq, Repr

/-- The longest name, in bytes. -/
def nameLimit : Nat := 255

/-- The shortest path, in bytes, that is too long. -/
def pathLimit : Nat := 4096

def file? (t : Tree) (names : List String) : Option (List UInt8) :=
  (t.files.find? fun (path, _) => path == names).map Prod.snd

/-- Directories are those listed and all that something lies in. -/
def isDirectory (t : Tree) (names : List String) : Bool :=
  names.isEmpty || t.directories.any (fun path => names.isPrefixOf path)
    || t.files.any fun (path, _) => names.isPrefixOf path && path != names

def isDirectoryPlace (t : Tree) : Place → Bool
  | .inside names => t.isDirectory names
  | _ => true

def parent : Place → Place
  | .inside [] => .above 1
  | .inside names => .inside names.dropLast
  | .above levels => .above (levels + 1)
  | .root => .root

/-- The place that a name leads to, if it may exist: nothing is known outside. -/
def child : Place → String → Option Place
  | .inside names, name => some (.inside (names ++ [name]))
  | _, _ => none

def exists? (t : Tree) : Place → Bool
  | .inside names => (t.file? names).isSome || t.isDirectory names
  | _ => true

/-- Goes to a name without asking whether it exists. -/
def enter (t : Tree) (place : Place) (name : String) : Except SystemError (Option Place) :=
  if !t.isDirectoryPlace place then .error .notDirectory
  else if name = ".." then .ok (some (parent place))
  else if name.utf8ByteSize > nameLimit then .error .nameTooLong
  else .ok (child place name)

def step (t : Tree) (place : Place) (name : String) : Except SystemError Place :=
  match t.enter place name with
  | .error e => .error e
  | .ok none => .error .notFound
  | .ok (some next) => if t.exists? next then .ok next else .error .notFound

def origin (p : Path) : Place :=
  match p.anchor with
  | .workingDirectory => .inside []
  | _ => .root

def walk (t : Tree) (p : Path) (names : List String) : Except SystemError Place :=
  if p.text.utf8ByteSize ≥ pathLimit then .error .nameTooLong
  else names.foldlM t.step (origin p)

def read (t : Tree) (p : Path) : Except SystemError (List UInt8) := do
  match ← t.walk p p.names with
  | .inside names =>
      match t.file? names with
      | some bytes => .ok bytes
      | none => .error .isDirectory
  | _ => .error .isDirectory

/-- Where a file written at a path comes to lie; no place is known outside the working
directory. -/
def target (t : Tree) (p : Path) : Except SystemError (Option (List String)) := do
  match p.names.getLast? with
  | none => .error .isDirectory
  | some last =>
      match ← t.enter (← t.walk p p.names.dropLast) last with
      | none => .ok none
      | some place =>
          match place with
          | .inside names => if t.isDirectory names then .error .isDirectory else .ok (some names)
          | _ => .error .isDirectory

def toFileSystem (t : Tree) : FileSystem where
  read := t.read
  write := fun p => (t.target p).map fun _ => ()

end Tree

end Chip8
