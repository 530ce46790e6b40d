import Chip8.Proofs.Operation
import Mathlib.Data.Int.Bitwise

/-!
# The interpreter without widths

A second interpreter for the same instructions, in which nothing is safe by its type. Numbers are
integers of any size and sign, tables are lists of any length, and an access outside a list is an
error of its own. A value is cut to a width only where a rule of the machine says so: byte
arithmetic, the sum in the index register, the bytes that memory keeps. The program counter and the
stack words are never cut. Instructions write in place, one part after the other, and an error keeps
what was written before it; only the program counter is put back, and only after a fault.

That this interpreter agrees with the one on bytes and words, and never meets the end of a list, is
what the bounds of the machine are good for.
-/

namespace Chip8

/-- The core as plain integers and lists. -/
structure Wide where
  v : List Int
  index : Int
  pc : Int
  stack : List Int
  depth : Int
  delay : Int
  sound : Int
  waiting : Bool
  memory : List Int
  pixels : List Bool
  keys : List Bool
  random : RandomBytes

namespace Wide

inductive Error
  /-- A list has no such entry. -/
  | outOfRange
  | fault (reason : FaultReason) (address : Int) (opcode : Opcode)
  | romTooLarge (e : RomTooLarge)
  | programTooLong (e : Memory.ProgramTooLong)
  deriving DecidableEq

/-- An action changes the core in place and may raise an error on the way. -/
abbrev Action := EStateM Error Wide

/-! ### Entries of lists -/

def entry {α : Type} (xs : List α) (i : Int) : Action α :=
  if 0 ≤ i then
    match xs[i.toNat]? with
    | some x => pure x
    | none => throw .outOfRange
  else throw .outOfRange

def replaced {α : Type} (xs : List α) (i : Int) (x : α) : Action (List α) :=
  if 0 ≤ i ∧ i < xs.length then pure (xs.set i.toNat x) else throw .outOfRange

def reg (x : Int) : Action Int := do
  let w ← get
  entry w.v x

def setReg (x value : Int) : Action Unit := do
  let w ← get
  let v ← replaced w.v x value
  set { w with v }

def setFlag (on : Bool) : Action Unit := setReg 15 (if on then 1 else 0)

/-- Addresses wrap around the 4096 cells. -/
def cell (address : Int) : Action Int := do
  let w ← get
  let value ← entry w.memory (address % 4096)
  pure (value % 256)

def setCell (address value : Int) : Action Unit := do
  let w ← get
  let memory ← replaced w.memory (address % 4096) (value % 256)
  set { w with memory }

def block (address : Int) : Nat → Action (List Int)
  | 0 => pure []
  | count + 1 => do
      let value ← cell address
      let rest ← block (address + 1) count
      pure (value :: rest)

def setBlock (address : Int) : List Int → Action Unit
  | [] => pure ()
  | value :: rest => do
      setCell address value
      setBlock (address + 1) rest

def isPressed (key : Int) : Action Bool := do
  let w ← get
  if 0 ≤ key ∧ key < 16 then entry w.keys key else pure false

def setKey (key : Int) (pressed : Bool) : Action Unit := do
  let w ← get
  if 0 ≤ key ∧ key < 16 then
    let keys ← replaced w.keys key pressed
    set { w with keys }
  else pure ()

/-! ### Drawing -/

/-- Toggles an entry of the pixel list and tells whether it was lit. -/
def toggle (k : Int) : Action Bool := do
  let w ← get
  let lit ← entry w.pixels k
  let pixels ← replaced w.pixels k (!lit)
  set { w with pixels }
  pure lit

/-- Draws the last `count` of the eight bits of a sprite row, until one lies past the right edge. -/
def drawBits (x y row : Int) : Nat → Action Bool
  | 0 => pure false
  | count + 1 => do
      let column := x + (7 - count)
      if 64 ≤ column then pure false
      else if (row >>> count) % 2 = 1 then
        let lit ← toggle (y * 64 + column)
        let more ← drawBits x y row count
        pure (lit || more)
      else drawBits x y row count

/-- Draws the rows of a sprite, until one lies past the bottom edge. -/
def drawRows (x : Int) : Int → List Int → Action Bool
  | _, [] => pure false
  | y, row :: rest => do
      if 32 ≤ y then pure false
      else
        let lit ← drawBits x y row 8
        let more ← drawRows x (y + 1) rest
        pure (lit || more)

/-! ### Instructions -/

def skipIf (condition : Bool) : Action Unit :=
  modify fun w => if condition then { w with pc := w.pc + 2 } else w

/-- Stores registers one by one from the index register on. -/
def storeRegisters : List Nat → Action Unit
  | [] => pure ()
  | k :: rest => do
      let value ← reg k
      setCell ((← get).index + k) value
      storeRegisters rest

def loadRegisters : List Nat → Action Unit
  | [] => pure ()
  | k :: rest => do
      let value ← cell ((← get).index + k)
      setReg k value
      loadRegisters rest

def execute (o : Opcode) : Instruction → Action Unit
  | .cls => modify fun w => { w with pixels := List.replicate (64 * 32) false }
  | .ret => do
      let w ← get
      if w.depth = 0 then throw (.fault .stackUnderflow (w.pc - 2) o)
      else
        set { w with depth := w.depth - 1 }
        let word ← entry w.stack (w.depth - 1)
        modify fun w => { w with pc := word }
  | .jp target => modify fun w => { w with pc := target.toNat }
  | .call target => do
      let w ← get
      if w.depth = 16 then throw (.fault .stackOverflow (w.pc - 2) o)
      else
        let stack ← replaced w.stack w.depth w.pc
        set { w with stack }
        modify fun w => { w with depth := w.depth + 1, pc := target.toNat }
  | .seByte x byte => do
      let a ← reg x
      skipIf (a = byte.toNat)
  | .sneByte x byte => do
      let a ← reg x
      skipIf (a ≠ byte.toNat)
  | .seReg x y => do
      let a ← reg x
      let b ← reg y
      skipIf (a = b)
  | .sneReg x y => do
      let a ← reg x
      let b ← reg y
      skipIf (a ≠ b)
  | .ldByte x byte => setReg x byte.toNat
  | .addByte x byte => do
      let a ← reg x
      setReg x ((a + byte.toNat) % 256)
  | .ldReg x y => do
      let b ← reg y
      setReg x b
  | .or x y => do
      let a ← reg x
      let b ← reg y
      setReg x (Int.lor a b % 256)
  | .and x y => do
      let a ← reg x
      let b ← reg y
      setReg x (Int.land a b)
  | .xor x y => do
      let a ← reg x
      let b ← reg y
      setReg x (Int.xor a b % 256)
  | .addReg x y => do
      let a ← reg x
      let b ← reg y
      setFlag (a + b > 255)
      setReg x ((a + b) % 256)
  | .sub x y => do
      let a ← reg x
      let b ← reg y
      setFlag (a ≥ b)
      setReg x ((a - b) % 256)
  | .subn x y => do
      let a ← reg x
      let b ← reg y
      setFlag (b ≥ a)
      setReg x ((b - a) % 256)
  | .shr x => do
      let a ← reg x
      setReg 15 (Int.land a 1)
      setReg x (a / 2)
  | .shl x => do
      let a ← reg x
      setFlag (Int.land a 128 ≠ 0)
      setReg x (a * 2 % 256)
  | .ldI address => modify fun w => { w with index := address.toNat }
  | .jpV0 base => do
      let a ← reg 0
      modify fun w => { w with pc := base.toNat + a }
  | .rnd x mask => do
      let w ← get
      set { w with random := w.random.next.2 }
      setReg x (Int.land w.random.next.1.toNat mask.toNat)
  | .drw x y rows => do
      let sprite ← block (← get).index rows.val
      let a ← reg x
      let b ← reg y
      let collision ← drawRows (a % 64) (b % 32) sprite
      setFlag collision
  | .skp x => do
      let a ← reg x
      let held ← isPressed a
      skipIf held
  | .sknp x => do
      let a ← reg x
      let held ← isPressed a
      skipIf (a < 16 && !held)
  | .ldVxDt x => do
      setReg x (← get).delay
  | .ldVxK x => do
      let w ← get
      match w.keys.findIdx? id with
      | some key => setReg x key
      | none => set { w with pc := w.pc - 2, waiting := true }
  | .ldDtVx x => do
      let a ← reg x
      modify fun w => { w with delay := a }
  | .ldStVx x => do
      let a ← reg x
      modify fun w => { w with sound := a }
  | .addI x => do
      let a ← reg x
      modify fun w => { w with index := (w.index + a) % 65536 }
  | .ldF x => do
      let a ← reg x
      modify fun w => { w with index := a % 256 * 5 }
  | .ldB x => do
      let a ← reg x
      let w ← get
      setCell w.index (a / 100)
      setCell (w.index + 1) (a / 10 % 10)
      setCell (w.index + 2) (a % 10)
  | .store x => storeRegisters (List.range (x.val + 1))
  | .load x => loadRegisters (List.range (x.val + 1))
  | .unknown _ => pure ()

/-! ### Steps -/

def countDown (timer : Int) : Int := if timer > 0 then timer - 1 else timer

def tick : Action Unit :=
  modify fun w => { w with delay := countDown w.delay, sound := countDown w.sound }

def fetch : Action Opcode := do
  let w ← get
  let high ← cell w.pc
  let low ← cell (w.pc + 1)
  set { w with pc := w.pc + 2 }
  pure (.ofInt (256 * high + low))

/-- Puts the program counter back after a fault. -/
def restoring (address : Int) (action : Action Unit) : Action Unit := fun w =>
  match action.run w with
  | .error (.fault reason at' o) w => .error (.fault reason at' o) { w with pc := address }
  | result => result

def step : Action Unit := do
  let w ← get
  set { w with waiting := false }
  if 4096 ≤ w.pc then tick
  else
    let o ← fetch
    restoring w.pc (execute o o.decode)
    tick

/-- Copies a program to the entry point. Its size is checked twice, by the machine and by its
memory. -/
def load (name : String) (bytes : List UInt8) : Action Unit :=
  if Memory.programLimit < bytes.length then throw (.romTooLarge ⟨name, bytes.length⟩)
  else if Memory.programLimit < bytes.length then throw (.programTooLong ⟨bytes.length⟩)
  else do
    setBlock Memory.entryPoint (bytes.map fun byte => (byte.toNat : Int))
    modify fun w => { w with pc := Memory.entryPoint }

/-- What an operation does to the core of a machine in the given run state. -/
def perform (state : RunState) : Operation → Action Unit
  | .load name bytes => load name bytes
  | .insert rom => load rom.name rom.data
  | .step => if state = .running then step else pure ()
  | .setKey key pressed => setKey key pressed
  | _ => pure ()

/-! ### Bounds -/

/-- Every number and every list of the core is as large as it should be. -/
structure InRange (w : Wide) : Prop where
  registers : w.v.length = 16 ∧ ∀ a ∈ w.v, 0 ≤ a ∧ a ≤ 255
  index : 0 ≤ w.index ∧ w.index ≤ 0xFFFF
  pc : 0 ≤ w.pc ∧ w.pc ≤ 0x10FE
  depth : 0 ≤ w.depth ∧ w.depth ≤ 16
  stack : w.stack.length = 16 ∧ ∀ word ∈ w.stack, 0 ≤ word ∧ word ≤ 0x1001
  delay : 0 ≤ w.delay ∧ w.delay ≤ 255
  sound : 0 ≤ w.sound ∧ w.sound ≤ 255
  memory : w.memory.length = 4096 ∧ ∀ a ∈ w.memory, 0 ≤ a ∧ a ≤ 255
  pixels : w.pixels.length = 2048
  keys : w.keys.length = 16

end Wide

/-- A machine without widths, as far as errors and bounds go. -/
structure WideMachine where
  core : Wide
  runState : RunState

namespace WideMachine

def runStateAfter (state : RunState) : Operation → RunState
  | .togglePause => state.toggled
  | .quit => .quit
  | _ => state

/-- The machine after an operation, which goes on after an error, and the error if there was one. -/
def apply (m : WideMachine) (op : Operation) : WideMachine × Option Wide.Error :=
  match (Wide.perform m.runState op).run m.core with
  | .ok _ core => (⟨core, runStateAfter m.runState op⟩, none)
  | .error e core => (⟨core, runStateAfter m.runState op⟩, some e)

def after (m : WideMachine) (history : List Operation) : WideMachine :=
  history.foldl (fun m op => (m.apply op).1) m

end WideMachine

end Chip8
