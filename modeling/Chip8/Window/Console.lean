import Chip8.Audio.Beeper
import Chip8.Window.Overlay

/-!
# What the player handles

A console is a machine with its keypad overlay and its beeper. Host keys come as character codes.
Sixteen of them stand for the keys of the pad, in the same square arrangement on the left of the
keyboard; five more control the front end when they go down. No code does both.
-/

namespace Chip8

structure Console where
  machine : Machine
  overlay : Overlay
  beeper : Beeper

namespace Console

/-- The host keys and the keys of the pad they stand for. -/
def keyMap : List (Char × Fin 16) :=
  [('1', 0x1), ('2', 0x2), ('3', 0x3), ('4', 0xC),
   ('q', 0x4), ('w', 0x5), ('e', 0x6), ('r', 0xD),
   ('a', 0x7), ('s', 0x8), ('d', 0x9), ('f', 0xE),
   ('z', 0xA), ('x', 0x0), ('c', 0xB), ('v', 0xF)]

def padKey? (code : Int) : Option (Fin 16) :=
  (keyMap.find? fun (host, _) => (host.toNat : Int) == code).map Prod.snd

inductive Control
  | quit
  | pause
  | overlay
  | volumeUp
  | volumeDown
  deriving DecidableEq, Repr

/-- Escape, `p`, `k`, `0` and `9`. -/
def control? (code : Int) : Option Control :=
  if code = 27 then some .quit
  else if code = 'p'.toNat then some .pause
  else if code = 'k'.toNat then some .overlay
  else if code = '0'.toNat then some .volumeUp
  else if code = '9'.toNat then some .volumeDown
  else none

/-- Sets the pad key that a host key stands for, if it stands for one. -/
def handleKey (c : Console) (code : Int) (pressed : Bool) : Console :=
  match padKey? code with
  | some key => { c with machine := c.machine.setKey key.val pressed }
  | none => c

/-- The console after a control, what the toolkit was told, and whether the window has to change
its size. -/
structure Controlled where
  console : Console
  events : List ToolkitEvent := []
  resize : Bool := false

def changeVolume (c : Console) (machine : Machine) : Controlled :=
  let call := c.beeper.setVolume machine.volume
  { console := { c with machine, beeper := call.beeper }, events := call.events }

def control (c : Console) : Control → Controlled
  | .quit => { console := { c with machine := c.machine.quit } }
  | .pause => { console := { c with machine := c.machine.togglePause } }
  | .overlay => { console := { c with overlay := c.overlay.toggle }, resize := true }
  | .volumeUp => c.changeVolume c.machine.volumeUp
  | .volumeDown => c.changeVolume c.machine.volumeDown

def handleControl (c : Console) (code : Int) : Controlled :=
  match control? code with
  | some control => c.control control
  | none => { console := c }

end Console

end Chip8
