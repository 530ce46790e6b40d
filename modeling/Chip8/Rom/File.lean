import Chip8.Files.FileSystem
import Chip8.Rom

/-!
# Program files

A program is read from a file and named after the last name of its path.
-/

namespace Chip8

/-- Why no program came out of a file. -/
inductive RomFileError
  | zeroCharacter
  | unreadable (e : SystemError) (path : Path)
  | tooLarge (e : RomTooLarge)
  deriving DecidableEq, Repr

def RomFileError.message : RomFileError → String
  | .zeroCharacter => FileError.zeroCharacter.message
  | .unreadable e path =>
      "read data from rom file " ++ path.text ++ ": " ++ (FileError.system e path).message
  | .tooLarge e => e.message

def Rom.ofFile? (fs : FileSystem) (path : Path) : Except RomFileError Rom :=
  match fs.readFile path with
  | .error .zeroCharacter => .error .zeroCharacter
  | .error (.system e path) => .error (.unreadable e path)
  | .ok data => (Rom.ofBytes path.name data).mapError .tooLarge

end Chip8
