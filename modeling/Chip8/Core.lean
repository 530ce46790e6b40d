import Chip8.CallStack
import Chip8.Keypad
import Chip8.Memory
import Chip8.Opcode
import Chip8.RandomBytes
import Chip8.Screen

/-!
# The interpreter core

Everything an instruction can read or change: sixteen byte registers, the index register, the
program counter, the call stack, two timers, the flag that tells a wait for a key, memory, screen,
keypad and the supply of random bytes.
-/

namespace Chip8

structure Core where
  v : Vector UInt8 16
  index : UInt16
  pc : UInt16
  stack : CallStack
  delay : UInt8
  sound : UInt8
  waiting : Bool
  memory : Memory
  screen : Screen 64 32
  keypad : Keypad
  random : RandomBytes

namespace Core

def initial (random : RandomBytes) : Core where
  v := Vector.replicate 16 0
  index := 0
  pc := UInt16.ofNat Memory.entryPoint
  stack := .empty
  delay := 0
  sound := 0
  waiting := false
  memory := Memory.initial
  screen := .blank 64 32
  keypad := .released
  random := random

/-- The register that arithmetic and drawing report to. -/
def flag : Fin 16 := 0xF

def reg (c : Core) (x : Fin 16) : UInt8 := c.v.get x

theorem register_lt (x : Fin 16) : x.val < 16 := x.isLt

def setReg (c : Core) (x : Fin 16) (byte : UInt8) : Core :=
  { c with v := c.v.set x byte (register_lt x) }

def setFlag (c : Core) (on : Bool) : Core := c.setReg flag (if on then 1 else 0)

/-- A timer counts down to zero and stays there. -/
def countDown (timer : UInt8) : UInt8 := if timer = 0 then 0 else timer - 1

def tick (c : Core) : Core :=
  { c with delay := countDown c.delay, sound := countDown c.sound }

/-- The word at the program counter. -/
def opcode (c : Core) : Opcode := ⟨c.memory.loadWord c.pc.toNat⟩

theorem toNat_countDown (timer : UInt8) : (countDown timer).toNat = timer.toNat - 1 := by
  by_cases h : timer = 0
  · subst h; rfl
  · have pos : timer.toNat ≠ 0 := fun z => h (UInt8.toNat_inj.mp (by simpa using z))
    rw [countDown, if_neg h, UInt8.toNat_sub_of_le _ _ (UInt8.le_iff_toNat_le.mpr (by
      simp only [UInt8.toNat_one]; omega))]
    rfl

theorem reg_setReg (c : Core) (x y : Fin 16) (byte : UInt8) :
    (c.setReg x byte).reg y = if x = y then byte else c.reg y := by
  change (c.v.set x byte (register_lt x))[y.val] = if x = y then byte else c.v[y.val]
  simp only [Vector.getElem_set, Fin.ext_iff]

end Core

end Chip8
