import Chip8.Proofs.Fault
import Chip8.Proofs.Footprint

/-!
# About to carry out a word

What the next step of a running machine does is told by the word at its program counter. Here the
word is given as a number, so that a statement about an instruction can name its digits and need not
mention how words are decoded. Unless the instruction waits for a key, a step that carries it out
ends as executed and leaves the machine with the core that the instruction made of it, the timers
counted down.
-/

namespace Chip8

/-- Is a word of this form carried out as soon as it is fetched? Not if it is unknown, and not always
if it waits for a key. -/
def Kind.isPrompt : Kind → Bool
  | .unknown | .ldVxK => false
  | _ => true

theorem Core.reg_tick (c : Core) (x : Fin 16) : c.tick.reg x = c.reg x := rfl

namespace Machine

def withMemory (m : Machine) (memory : Memory) : Machine :=
  { m with core := { m.core with memory } }

theorem withMemory_withMemory (m : Machine) (before after : Memory) :
    (m.withMemory before).withMemory after = m.withMemory after := rfl

/-- The machine runs, and its next step fetches this word. -/
structure Fetches (m : Machine) (word : Nat) : Prop where
  running : m.runState = .running
  inside : m.core.pc.toNat < 4096
  word_eq : 256 * (m.core.memory.load m.core.pc.toNat).toNat
    + (m.core.memory.load ((m.core.pc.toNat + 1) % 4096 : Nat)).toNat = word

/-- The next step carries out a known instruction, and neither faults nor waits. -/
def Executes (m : Machine) : Prop :=
  m.step.outcome = .ok ⟨m.core.pc, some m.core.opcode, .executed⟩

variable {m : Machine} {word : Nat} {i : Instruction} {d : Core}

theorem fetches_opcode (running : m.runState = .running) (inside : m.core.pc.toNat < 4096) :
    m.Fetches m.core.opcode.word.toNat :=
  ⟨running, inside, m.core.toNat_opcode_word.symm⟩

namespace Fetches

theorem toNat_opcode (h : m.Fetches word) : m.core.opcode.word.toNat = word :=
  m.core.toNat_opcode_word.trans h.word_eq

theorem step_eq (h : m.Fetches word) (decoded : m.core.opcode.decode = i)
    (ok : m.core.fetched.execute i = .ok d) :
    m.step.outcome = .ok ⟨m.core.pc, some m.core.opcode, d.statusAfter i⟩ ∧
      m.step.machine = { m with core := d.tick } := by
  subst decoded
  rw [step_of_running h.running, Core.step_of_ok h.inside ok]
  exact ⟨rfl, rfl⟩

theorem executes (h : m.Fetches word) (decoded : m.core.opcode.decode = i)
    (ok : m.core.fetched.execute i = .ok d) (prompt : i.kind.isPrompt = true) :
    m.Executes ∧ m.step.machine = { m with core := d.tick } := by
  obtain ⟨outcome, machine⟩ := h.step_eq decoded ok
  have known : i.kind ≠ .unknown := fun unknown => by simp [unknown, Kind.isPrompt] at prompt
  have notWait : i.kind ≠ .ldVxK := fun waits => by simp [waits, Kind.isPrompt] at prompt
  have awake : d.waiting = false := (Core.execute_keeps ok).waiting notWait
  have status : d.statusAfter i = .executed := by
    simp only [Core.statusAfter, known, awake, if_false, Bool.false_eq_true]
  rw [status] at outcome
  exact ⟨outcome, machine⟩

end Fetches

end Machine

end Chip8
