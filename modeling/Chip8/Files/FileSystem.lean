import Chip8.Files.Path
import Chip8.Text.Quoted

/-!
# Reading and writing files

A file system answers, for every path, what is read there and whether something may be written
there. A path with a zero character is never handed to it: no system call could take such a path.

A text holds Unicode scalar values only, so every path here has an encoding for the system. Names
that have none, such as those with a surrogate on its own, are outside the model, and with them the
error of encoding such a name.
-/

namespace Chip8

/-- Why the system refuses a file, by its error number. -/
structure SystemError where
  number : Nat
  text : String
  deriving DecidableEq, Repr

namespace SystemError

def notFound : SystemError := ⟨2, "No such file or directory"⟩

def notDirectory : SystemError := ⟨20, "Not a directory"⟩

def isDirectory : SystemError := ⟨21, "Is a directory"⟩

def nameTooLong : SystemError := ⟨36, "File name too long"⟩

end SystemError

structure FileSystem where
  read : Path → Except SystemError (List UInt8)
  write : Path → Except SystemError Unit

inductive FileError
  /-- The path holds a zero character. -/
  | zeroCharacter
  | system (e : SystemError) (path : Path)
  deriving DecidableEq, Repr

def FileError.message : FileError → String
  | .zeroCharacter => "embedded null byte"
  | .system e path =>
      "[Errno " ++ toString e.number ++ "] " ++ e.text ++ ": " ++ Text.quote path.text

namespace FileSystem

def guarded (p : Path) (answer : Except SystemError α) : Except FileError α :=
  if p.text.contains '\x00' then .error .zeroCharacter
  else answer.mapError fun e => .system e p

def readFile (fs : FileSystem) (p : Path) : Except FileError (List UInt8) := guarded p (fs.read p)

def writeFile (fs : FileSystem) (p : Path) : Except FileError Unit := guarded p (fs.write p)

end FileSystem

end Chip8
