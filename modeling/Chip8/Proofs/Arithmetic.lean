import Chip8.Proofs.Fault
import Chip8.Proofs.Footprint

/-!
# Arithmetic between registers

What the operations between registers compute, told over the integers. A byte cannot hold every sum,
difference or double, and the flag makes up for what it loses: flag and result together account for
the operands exactly. The operands are read before anything is written and the result is written
last, so the flag register is an operand like any other, and as the destination it keeps the result.
-/

namespace Chip8

/-- The operations that report to the flag register. -/
inductive FlagOperation
  | add | sub | shr | subn | shl

/-- The operations between two registers that leave the flag register alone. -/
inductive PlainOperation
  | copy | or | and | xor

namespace FlagOperation

/-- The last digit of the word. -/
def digit : FlagOperation → Nat
  | .add => 0x4
  | .sub => 0x5
  | .shr => 0x6
  | .subn => 0x7
  | .shl => 0xE

def instruction (x y : Fin 16) : FlagOperation → Instruction
  | .add => .addReg x y
  | .sub => .sub x y
  | .shr => .shr x
  | .subn => .subn x y
  | .shl => .shl x

/-- The result for registers that hold `a` and `b`. -/
def result (a b : Int) : FlagOperation → Int
  | .add => (a + b) % 256
  | .sub => (a - b) % 256
  | .shr => a / 2
  | .subn => (b - a) % 256
  | .shl => 2 * a % 256

/-- A set flag stands for a carry, for a difference that did without a borrow, or for the bit that
was shifted out. -/
def Accounts (a b flag result : Int) : FlagOperation → Prop
  | .add => 256 * flag + result = a + b
  | .sub => a + 256 * (1 - flag) = b + result
  | .shr => 2 * result + flag = a
  | .subn => b + 256 * (1 - flag) = a + result
  | .shl => 256 * flag + result = 2 * a

/-! ### As bytes -/

def flag (a b : UInt8) : FlagOperation → Bool
  | .add => a.toNat + b.toNat > 255
  | .sub => a ≥ b
  | .shr => a % 2 = 1
  | .subn => b ≥ a
  | .shl => a ≥ 128

def byte (a b : UInt8) : FlagOperation → UInt8
  | .add => a + b
  | .sub => a - b
  | .shr => a / 2
  | .subn => b - a
  | .shl => a * 2

theorem execute_instruction (op : FlagOperation) (c : Core) (x y : Fin 16) :
    c.execute (op.instruction x y)
      = .ok (c.setFlagged x (op.flag (c.reg x) (c.reg y)) (op.byte (c.reg x) (c.reg y))) := by
  cases op <;> rfl

theorem toNat_byte (op : FlagOperation) (a b : UInt8) :
    ((op.byte a b).toNat : Int) = op.result a.toNat b.toNat := by
  have := a.toNat_lt
  have := b.toNat_lt
  have two : (2 : UInt8).toNat = 2 := rfl
  cases op
  all_goals
    simp only [byte, result, UInt8.toNat_add, UInt8.toNat_sub, UInt8.toNat_div, UInt8.toNat_mul,
      two]
    omega

/-- The flag in terms of the numbers that the registers hold. -/
theorem flag_eq_true_iff (op : FlagOperation) (a b : UInt8) :
    op.flag a b = true ↔
      match op with
      | .add => 256 ≤ a.toNat + b.toNat
      | .sub => b.toNat ≤ a.toNat
      | .shr => a.toNat % 2 = 1
      | .subn => a.toNat ≤ b.toNat
      | .shl => 128 ≤ a.toNat := by
  cases op
  case shr => rw [flag, decide_eq_true_iff, ← UInt8.toNat_inj, UInt8.toNat_mod]; rfl
  all_goals
    rw [flag, decide_eq_true_iff]
    rfl

theorem accounts (op : FlagOperation) (a b : UInt8) :
    op.Accounts a.toNat b.toNat (if op.flag a b then 1 else 0 : UInt8).toNat
      (op.byte a b).toNat := by
  have := a.toNat_lt
  have := b.toNat_lt
  have set := op.flag_eq_true_iff a b
  rw [toNat_byte]
  cases on : op.flag a b
  all_goals
    rw [on] at set
    cases op
    all_goals
      simp only [Accounts, result, Bool.false_eq_true, if_true, if_false, false_iff, true_iff,
        UInt8.toNat_zero, UInt8.toNat_one] at set ⊢
      omega

theorem decode_eq_instruction (op : FlagOperation) {o : Opcode} {x y : Fin 16}
    (h : o.word.toNat = 0x8000 + 256 * x.val + 16 * y.val + op.digit) :
    o.decode = op.instruction x y := by
  have small : op.digit < 16 := by cases op <;> decide
  obtain ⟨decode, first, second, last⟩ := Opcode.decode_of_arithmetic small h
  rw [decode, Opcode.decodeArithmetic, first, second, last]
  cases op <;> rfl

end FlagOperation

namespace PlainOperation

/-- The last digit of the word. -/
def digit : PlainOperation → Nat
  | .copy => 0x0
  | .or => 0x1
  | .and => 0x2
  | .xor => 0x3

def instruction (x y : Fin 16) : PlainOperation → Instruction
  | .copy => .ldReg x y
  | .or => .or x y
  | .and => .and x y
  | .xor => .xor x y

/-- The result for registers that hold `a` and `b`. -/
def result (a b : UInt8) : PlainOperation → UInt8
  | .copy => b
  | .or => a ||| b
  | .and => a &&& b
  | .xor => a ^^^ b

theorem execute_instruction (op : PlainOperation) (c : Core) (x y : Fin 16) :
    c.execute (op.instruction x y) = .ok (c.setReg x (op.result (c.reg x) (c.reg y))) := by
  cases op <;> rfl

theorem decode_eq_instruction (op : PlainOperation) {o : Opcode} {x y : Fin 16}
    (h : o.word.toNat = 0x8000 + 256 * x.val + 16 * y.val + op.digit) :
    o.decode = op.instruction x y := by
  have small : op.digit < 16 := by cases op <;> decide
  obtain ⟨decode, first, second, last⟩ := Opcode.decode_of_arithmetic small h
  rw [decode, Opcode.decodeArithmetic, first, second, last]
  cases op <;> rfl

end PlainOperation

/-! ### One step -/

namespace Machine

/-- The machine after a step that has carried out an instruction on registers: besides `Vx` and the
flag register only the program counter, the timers and the waiting flag may differ. -/
structure Computes (m : Machine) (x : Fin 16) : Prop where
  outcome : m.step.outcome = .ok ⟨m.core.pc, some m.core.opcode, .executed⟩
  machine : m.step.machine =
    { m with
      core := { m.core with
        v := m.step.machine.core.v, pc := m.core.pc + 2, waiting := false
        delay := Core.countDown m.core.delay, sound := Core.countDown m.core.sound } }
  toNat_pc : m.step.machine.core.pc.toNat = m.core.pc.toNat + 2
  other : ∀ z, z ≠ x → z ≠ Core.flag → m.step.machine.core.reg z = m.core.reg z

variable {m : Machine} {x : Fin 16} {i : Instruction} {byte flagged : UInt8}

/-- The flag register is written before `Vx`, which may be the same. -/
theorem computes_of_execute {v : Vector UInt8 16} (running : m.runState = .running)
    (inside : m.core.pc < Core.memoryEnd) (decoded : m.core.opcode.decode = i)
    (known : i.kind ≠ .unknown) (h : m.core.fetched.execute i = .ok { m.core.fetched with v })
    (values : ∀ z, v.get z =
      if x = z then byte else if Core.flag = z then flagged else m.core.reg z) :
    m.Computes x ∧ m.step.machine.core.reg x = byte ∧
      (x ≠ Core.flag → m.step.machine.core.reg Core.flag = flagged) := by
  subst decoded
  have step : m.step.machine =
      { m with
        core := { m.core with
          v, pc := m.core.pc + 2, waiting := false
          delay := Core.countDown m.core.delay, sound := Core.countDown m.core.sound } } := by
    rw [step_of_running running, Core.step_of_ok inside h]
    rfl
  have written : m.step.machine.core.v = v := by rw [step]
  have reads : ∀ z, m.step.machine.core.reg z =
      if x = z then byte else if Core.flag = z then flagged else m.core.reg z := fun z => by
    rw [Core.reg, written, values]
  refine ⟨⟨?_, by rw [written, step], ?_, fun z hx hflag => ?_⟩, ?_, fun notFlag => ?_⟩
  · rw [step_of_running running, Core.step_of_ok inside h]
    simp only [Core.statusAfter, known, if_false, Core.fetched, Bool.false_eq_true]
  · rw [step]
    exact Core.toNat_pc_add_two inside
  · rw [reads, if_neg hx.symm, if_neg hflag.symm]
  · rw [reads, if_pos rfl]
  · rw [reads, if_neg notFlag, if_pos rfl]

theorem computes_of_setReg (running : m.runState = .running)
    (inside : m.core.pc < Core.memoryEnd) (decoded : m.core.opcode.decode = i)
    (known : i.kind ≠ .unknown)
    (h : m.core.fetched.execute i = .ok (m.core.fetched.setReg x byte)) :
    m.Computes x ∧ m.step.machine.core.reg x = byte ∧
      (x ≠ Core.flag → m.step.machine.core.reg Core.flag = m.core.reg Core.flag) := by
  refine computes_of_execute running inside decoded known h fun z => ?_
  refine (Core.reg_setReg m.core.fetched x z byte).trans ?_
  by_cases reported : Core.flag = z
  · subst reported
    rw [if_pos rfl]
    rfl
  · rw [if_neg reported]
    rfl

/-- Whichever of `x`, `y` and the flag register coincide, the result is that of the bytes the
registers held before the step, and `Vx` holds it. Unless `Vx` is the flag register itself, the
operations that report leave a flag that makes up for what the result has lost, and the others leave
the flag register alone. Nothing else of the machine changes but its place, timers and waiting
flag. -/
theorem arithmetic_under_aliasing (m : Machine) (running : m.runState = .running)
    (inside : m.core.pc.toNat < 4096) (x y : Fin 16) :
    let word := 256 * (m.core.memory.load m.core.pc.toNat).toNat
      + (m.core.memory.load ((m.core.pc.toNat + 1) % 4096 : Nat)).toNat
    let a := m.core.reg x
    let b := m.core.reg y
    let after := m.step.machine.core
    (∀ op : FlagOperation, word = 0x8000 + 256 * x.val + 16 * y.val + op.digit →
      m.Computes x ∧ (after.reg x).toNat = op.result a.toNat b.toNat ∧
        (x ≠ Core.flag →
          (after.reg Core.flag = 0 ∨ after.reg Core.flag = 1) ∧
            op.Accounts a.toNat b.toNat (after.reg Core.flag).toNat (after.reg x).toNat)) ∧
    (∀ op : PlainOperation, word = 0x8000 + 256 * x.val + 16 * y.val + op.digit →
      m.Computes x ∧ after.reg x = op.result a b ∧
        (x ≠ Core.flag → after.reg Core.flag = m.core.reg Core.flag)) ∧
    (∀ byte : UInt8, word = 0x7000 + 256 * x.val + byte.toNat →
      m.Computes x ∧ (after.reg x).toNat = (a.toNat + byte.toNat) % 256 ∧
        (x ≠ Core.flag → after.reg Core.flag = m.core.reg Core.flag)) := by
  intro word a b after
  have fetched : m.core.opcode.word.toNat = word := m.core.toNat_opcode_word
  refine ⟨fun op h => ?_, fun op h => ?_, fun byte h => ?_⟩
  · have known : (op.instruction x y).kind ≠ .unknown := by cases op <;> nofun
    obtain ⟨computes, result, flag⟩ := computes_of_execute running inside
      (op.decode_eq_instruction (fetched.trans h)) known (op.execute_instruction _ x y)
      fun z => Core.reg_setFlagged m.core.fetched x z (op.flag a b) (op.byte a b)
    refine ⟨computes, ?_, fun notFlag => ?_⟩
    · rw [result]
      exact op.toNat_byte a b
    · rw [flag notFlag, result]
      refine ⟨?_, op.accounts a b⟩
      split
      · exact .inr rfl
      · exact .inl rfl
  · have known : (op.instruction x y).kind ≠ .unknown := by cases op <;> nofun
    exact computes_of_setReg running inside (op.decode_eq_instruction (fetched.trans h)) known
      (op.execute_instruction _ x y)
  · obtain ⟨computes, result, kept⟩ := computes_of_setReg running inside
      (Opcode.decode_of_addByte (fetched.trans h)) nofun rfl
    refine ⟨computes, ?_, kept⟩
    rw [result]
    exact UInt8.toNat_add a byte

/-- With 250 in `V3` and 9 in `VF`: adding `VF` to `V3` gives three and a carry, adding `V3` to `VF`
gives three and no flag, and to copy `V3` to `VF` or to add a byte to `V3` does not report. -/
theorem arithmetic_under_aliasing_of_flag_operand :
    let m : UInt8 → UInt8 → Machine := fun first second =>
      let start := (initial ⟨fun _ => 0, 0⟩).insert ⟨"", [first, second], (by decide : 2 ≤ 3584)⟩
      { start with core := (start.core.setReg 3 250).setReg Core.flag 9 }
    let after := fun first second => (m first second).step.machine.core
    ((m 0x83 0xF4).Computes 3 ∧ ((after 0x83 0xF4).reg 3).toNat = 3 ∧
      ((after 0x83 0xF4).reg Core.flag).toNat = 1) ∧
    ((m 0x8F 0x34).Computes Core.flag ∧ ((after 0x8F 0x34).reg Core.flag).toNat = 3) ∧
    ((m 0x8F 0x30).Computes Core.flag ∧ ((after 0x8F 0x30).reg Core.flag).toNat = 250) ∧
    ((m 0x73 0xFF).Computes 3 ∧ ((after 0x73 0xFF).reg 3).toNat = 249 ∧
      ((after 0x73 0xFF).reg Core.flag).toNat = 9) := by
  intro m after
  have running : ∀ i j, (m i j).runState = .running := fun _ _ => rfl
  have inside : ∀ i j, (m i j).core.pc.toNat < 4096 := fun _ _ =>
    (by decide : 0x200 < 4096)
  have three : ∀ i j, (m i j).core.reg 3 = 250 := fun _ _ => rfl
  have flag : ∀ i j, (m i j).core.reg Core.flag = 9 := fun _ _ => rfl
  have word : ∀ {i j w}, (m i j).core.opcode = ⟨w⟩ →
      256 * ((m i j).core.memory.load (m i j).core.pc.toNat).toNat
          + ((m i j).core.memory.load (((m i j).core.pc.toNat + 1) % 4096 : Nat)).toNat
        = w.toNat := by
    intro i j w h
    rw [← (m i j).core.toNat_opcode_word, h]
  have add₀ : (m 0x83 0xF4).core.opcode = ⟨0x83F4⟩ := by decide +kernel
  have add₁ : (m 0x8F 0x34).core.opcode = ⟨0x8F34⟩ := by decide +kernel
  have copy : (m 0x8F 0x30).core.opcode = ⟨0x8F30⟩ := by decide +kernel
  have byte : (m 0x73 0xFF).core.opcode = ⟨0x73FF⟩ := by decide +kernel
  clear_value m
  have aliased := fun i j => arithmetic_under_aliasing (m i j) (running i j) (inside i j)
  obtain ⟨c₀, r₀, f₀⟩ := (aliased 0x83 0xF4 3 Core.flag).1 .add (word add₀)
  obtain ⟨-, account⟩ := f₀ (by decide)
  obtain ⟨c₁, r₁, -⟩ := (aliased 0x8F 0x34 Core.flag 3).1 .add (word add₁)
  obtain ⟨c₂, r₂, -⟩ := (aliased 0x8F 0x30 Core.flag 3).2.1 .copy (word copy)
  obtain ⟨c₃, r₃, f₃⟩ := (aliased 0x73 0xFF 3 3).2.2 0xFF (word byte)
  have kept := f₃ (by decide)
  simp only [FlagOperation.result, FlagOperation.Accounts, PlainOperation.result, three, flag,
    UInt8.reduceToNat] at r₀ account r₁ r₂ r₃ kept
  refine ⟨⟨c₀, ?_, ?_⟩, ⟨c₁, ?_⟩, ⟨c₂, by rw [r₂]; rfl⟩, c₃, r₃, by rw [kept]; rfl⟩
  all_goals
    simp only [after]
    omega

end Machine

end Chip8
