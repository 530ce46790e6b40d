import Chip8.Main
import Chip8.Files.Tree
import Chip8.Proofs.Fault
import Chip8.Proofs.CallReturn
import Chip8.Proofs.Wide.History
import Chip8.Proofs.Timers
import Chip8.Proofs.KeyWait
import Chip8.Proofs.Pause
import Chip8.Proofs.FrontEnds
import Chip8.Proofs.Loading
import Chip8.Proofs.Stopping
import Chip8.Proofs.ExitCode
import Chip8.Proofs.EqualBut
import Chip8.Proofs.KeysRead
import Chip8.Proofs.Outputs
import Chip8.Proofs.Trace
import Chip8.Proofs.FileErrors
import Chip8.Proofs.WindowEndings
import Chip8.Proofs.Playing
import Chip8.Proofs.Ranges
import Chip8.Proofs.DumpReader
import Chip8.Proofs.Dumps
import Chip8.Proofs.LitPixels
import Chip8.Proofs.Channel
import Chip8.Proofs.Strokes
import Chip8.Proofs.Stores
import Chip8.Proofs.NormalForm
import Chip8.Proofs.Limits
import Chip8.Proofs.Arithmetic
import Chip8.Proofs.Fetch
import Chip8.Proofs.Transfer
import Chip8.Proofs.Patterns
import Chip8.Proofs.Sprites
import Chip8.Proofs.Flow
import Chip8.Proofs.Mnemonics
import Chip8.Proofs.ColorCode
import Chip8.Proofs.Dispatch
import Chip8.Proofs.FailedStart
import Chip8.Proofs.HostKeys
import Chip8.Proofs.HexDigits
import Chip8.Proofs.AddressText
import Chip8.Proofs.Rendering
import Chip8.Proofs.Buttons
