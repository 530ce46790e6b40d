import Chip8.Machine.Operation
import Chip8.Proofs.Execute

/-!
# What an operation can do

An operation acts on the core in one of three ways. A step that fetches a word and does not fault
carries out its instruction. A load copies an image to the entry point, or is refused. Everything
else, a step that faults or has left memory included, is idle: it reaches no further than the
timers, the waiting flag and the keypad.
-/

namespace Chip8

/-- Does the operation offer a program? -/
def Operation.isLoad : Operation → Bool
  | .load _ _ | .insert _ => true
  | _ => false

/-- The instruction that an operation carried out: that of a step which fetched a word and did not
fault. -/
def Response.executed? : Response → Option Instruction
  | .stepped (.ok result) => result.opcode.map Opcode.decode
  | _ => none

/-- The run state after the pause key. -/
def RunState.toggled : RunState → RunState
  | .running => .paused
  | .paused => .running
  | .quit => .quit

namespace Machine

theorem togglePause_eq (m : Machine) :
    m.togglePause = { m with runState := m.runState.toggled } := by
  obtain ⟨core, runState, volume, romName, tracing⟩ := m
  cases runState <;> rfl

theorem step_of_running {m : Machine} (running : m.runState = .running) :
    m.step = ⟨{ m with core := m.core.step.1 }, m.core.step.2,
      if m.tracing then some (traceLine m.core.step.2) else none⟩ := by
  simp only [step, running, if_true]

theorem step_of_resting {m : Machine} (resting : m.runState ≠ .running) :
    m.step = ⟨m, .ok ⟨m.core.pc, none, restingStatus m.runState⟩, none⟩ := by
  simp only [step, resting, if_false]

theorem runState_step (m : Machine) : m.step.machine.runState = m.runState := by
  unfold step
  split <;> rfl

theorem apply_step (m : Machine) :
    m.apply .step = ⟨m.step.machine, .stepped m.step.outcome, m.step.line⟩ := rfl

theorem apply_setKey (m : Machine) (index : Int) (pressed : Bool) :
    m.apply (.setKey index pressed) = ⟨m.setKey index pressed, .done, none⟩ := rfl

theorem executed?_of_ne_step {m : Machine} {op : Operation} (h : op ≠ .step) :
    (m.apply op).response.executed? = none := by
  cases op with
  | step => exact absurd rfl h
  | load name bytes =>
      simp only [apply]
      cases m.load name bytes <;> rfl
  | _ => rfl

/-- All that there is to know when an operation has carried out an instruction. -/
theorem executed?_eq_some_iff (m : Machine) (op : Operation) (i : Instruction) :
    (m.apply op).response.executed? = some i ↔
      op = .step ∧ m.runState = .running ∧ m.core.pc < Core.memoryEnd ∧
        m.core.opcode.decode = i ∧ ∃ d, m.core.fetched.execute i = .ok d := by
  constructor
  · intro h
    obtain rfl : op = .step := by
      refine Classical.byContradiction fun other => ?_
      rw [executed?_of_ne_step other] at h
      cases h
    by_cases running : m.runState = .running
    · rw [apply_step, step_of_running running] at h
      rcases m.core.step_cases with ⟨-, hstep⟩ | ⟨reason, -, -, hstep⟩ | ⟨d, inside, hd, hstep⟩
      all_goals rw [hstep] at h
      · cases h
      · cases h
      · obtain rfl := Option.some.inj h
        exact ⟨rfl, running, inside, rfl, d, hd⟩
    · rw [apply_step, step_of_resting running] at h
      cases h
  · rintro ⟨rfl, running, inside, rfl, d, hd⟩
    rw [apply_step, step_of_running running, Core.step_of_ok inside hd]
    rfl

/-! ### The three ways -/

/-- The machine after an instruction. -/
theorem apply_of_execute {m : Machine} {d : Core} (running : m.runState = .running)
    (inside : m.core.pc < Core.memoryEnd)
    (h : m.core.fetched.execute m.core.opcode.decode = .ok d) :
    (m.apply .step).machine = { m with core := d.tick } := by
  rw [apply_step, step_of_running running, Core.step_of_ok inside h]

theorem apply_of_executed {m : Machine} {op : Operation} {i : Instruction}
    (h : (m.apply op).response.executed? = some i) :
    ∃ d, m.core.fetched.execute i = .ok d ∧ (m.apply op).machine = { m with core := d.tick } := by
  obtain ⟨rfl, running, inside, rfl, d, hd⟩ := (m.executed?_eq_some_iff op i).mp h
  exact ⟨d, hd, apply_of_execute running inside hd⟩

theorem apply_core_of_load {m : Machine} {op : Operation} (h : op.isLoad = true) :
    (m.apply op).machine.core = m.core ∨
      ∃ rom : Rom, (m.apply op).machine.core =
        { m.core with
          memory := m.core.memory.setBlock Memory.entryPoint rom.data
          pc := UInt16.ofNat Memory.entryPoint } := by
  cases op with
  | load name bytes =>
      simp only [apply, load]
      cases Rom.ofBytes name bytes with
      | error e => exact .inl rfl
      | ok rom => exact .inr ⟨rom, rfl⟩
  | insert rom => exact .inr ⟨rom, rfl⟩
  | _ => cases h

theorem apply_core_of_idle {m : Machine} {op : Operation} (notLoad : op.isLoad = false)
    (h : (m.apply op).response.executed? = none) :
    (m.apply op).machine.core =
      { m.core with
        waiting := (m.apply op).machine.core.waiting
        delay := (m.apply op).machine.core.delay
        sound := (m.apply op).machine.core.sound
        keypad := (m.apply op).machine.core.keypad } := by
  cases op with
  | load name bytes => cases notLoad
  | insert rom => cases notLoad
  | step =>
      rw [apply_step] at h ⊢
      by_cases running : m.runState = .running
      · rw [step_of_running running] at h ⊢
        rcases m.core.step_cases with ⟨-, hstep⟩ | ⟨_, -, -, hstep⟩ | ⟨_, -, -, hstep⟩
        all_goals simp only [hstep] at h ⊢
        · rfl
        · rfl
        · cases h
      · rw [step_of_resting running]
  | togglePause => simp only [apply, togglePause_eq]
  | _ => rfl

/-- The instructions that a history carries out, in order. -/
def executed (m : Machine) (history : List Operation) : List Instruction :=
  (m.responses history).filterMap Response.executed?

theorem mem_executed_cons_iff (m : Machine) (op : Operation) (rest : List Operation)
    (i : Instruction) :
    i ∈ m.executed (op :: rest) ↔
      (m.apply op).response.executed? = some i ∨ i ∈ (m.apply op).machine.executed rest := by
  simp [executed, responses]

end Machine

end Chip8
