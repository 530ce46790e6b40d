import Chip8.Proofs.Fault
import Chip8.Proofs.Footprint
import Chip8.Proofs.Keypad
import Chip8.Proofs.StepsTaken

/-!
# Waiting for a key

The instruction that waits goes back to itself and raises the waiting flag as long as no key is
held, so a step that waits leaves everything but the timers and the flag as it was and finds the
same instruction again. Pauses and keys in between cannot move it: only the keys held at the moment
of a step count. The flag itself is cleared by every step that is taken and raised by those alone
that end in a wait, so it tells how the last of them ended.
-/

namespace Chip8

/-- The operations that may come between the steps of a wait, and the steps themselves. -/
def Operation.attends : Operation → Bool
  | .step | .togglePause | .setKey _ _ => true
  | _ => false

/-- Did a step end in a wait for a key? -/
def waited : Except Fault StepResult → Bool
  | .ok result => result.status = .waitingForKey
  | .error _ => false

namespace Core

variable {c : Core} {x : Fin 16}

theorem step_of_released (inside : c.pc < memoryEnd) (wait : c.opcode.decode = .ldVxK x)
    (none : c.keypad.firstPressed = none) :
    c.step = ({ c with delay := countDown c.delay, sound := countDown c.sound, waiting := true },
      .ok ⟨c.pc, some c.opcode, .waitingForKey⟩) := by
  have awaited : c.fetched.execute c.opcode.decode = .ok (c.fetched.awaitKey x) := by
    rw [wait, execute]
  have back : c.pc + 2 - 2 = c.pc := UInt16.add_sub_cancel c.pc 2
  rw [step_of_ok inside awaited, wait, awaitKey_eq]
  simp only [fetched, none, Option.map_none, Option.getD_none, back, if_true]
  rfl

theorem step_of_held {key : Fin 16} (inside : c.pc < memoryEnd)
    (wait : c.opcode.decode = .ldVxK x) (first : c.keypad.firstPressed = some key) :
    c.step =
      ({ (c.setReg x (UInt8.ofNat key.val)).tick with pc := c.pc + 2, waiting := false },
        .ok ⟨c.pc, some c.opcode, .executed⟩) := by
  have found : c.fetched.execute c.opcode.decode
      = .ok (c.fetched.setReg x (UInt8.ofNat key.val)) := by
    rw [wait, execute, awaitKey, show c.fetched.keypad.firstPressed = some key from first]
  rw [step_of_ok inside found, wait]
  rfl

/-- The flag after a step tells how the step ended. -/
theorem waiting_step (c : Core) : c.step.1.waiting = waited c.step.2 := by
  rcases c.step_cases with ⟨-, hstep⟩ | ⟨_, -, -, hstep⟩ | ⟨d, -, hd, hstep⟩
  all_goals rw [hstep]
  · rfl
  · rfl
  · change d.waiting = decide (d.statusAfter c.opcode.decode = .waitingForKey)
    by_cases unknown : c.opcode.decode.kind = .unknown
    · have still : d.waiting = false := (execute_keeps hd).waiting (by simp [unknown])
      simp [statusAfter, unknown, still]
    · cases raised : d.waiting <;> simp [statusAfter, unknown, raised]

end Core

namespace Machine

variable {m : Machine} {op : Operation}

/-- No key is held at the moment of any step that the history takes. -/
def Unattended (m : Machine) (history : List Operation) : Prop :=
  ∀ before later, history = before ++ .step :: later → (m.after before).runState = .running →
    ∀ key : Fin 16, (m.after before).core.keypad.isPressed key.val = false

theorem unattended_nil (m : Machine) : m.Unattended [] := by
  intro before later h
  cases before <;> cases h

theorem Unattended.cons {rest : List Operation}
    (now : op = .step → m.runState = .running →
      ∀ key : Fin 16, m.core.keypad.isPressed key.val = false)
    (afterwards : (m.apply op).machine.Unattended rest) : m.Unattended (op :: rest) := by
  intro before later h running
  cases before with
  | nil =>
      cases h
      exact now rfl running
  | cons first before =>
      cases h
      exact afterwards before later rfl running

theorem Unattended.tail {rest : List Operation} (h : m.Unattended (op :: rest)) :
    (m.apply op).machine.Unattended rest := by
  rintro before later rfl running
  exact h (op :: before) later rfl running

/-- Between the steps only the keypad changes. -/
theorem core_of_attending (attends : op.attends = true) (h : m.taken? op = none) :
    (m.apply op).machine.core
      = { m.core with keypad := (m.apply op).machine.core.keypad } := by
  cases op with
  | step =>
      have resting : m.runState ≠ .running := by
        intro running
        rw [taken?_step_of_running running] at h
        cases h
      rw [apply_step, step_of_resting resting]
  | togglePause => simp only [apply, togglePause_eq]
  | setKey index pressed => rfl
  | _ => cases attends

theorem core_after_attending {between : List Operation}
    (attends : ∀ op ∈ between, op.attends = true ∧ op ≠ .step) :
    (m.after between).core = { m.core with keypad := (m.after between).core.keypad } := by
  induction between generalizing m with
  | nil => rfl
  | cons op rest ih =>
      obtain ⟨first, notStep⟩ := attends op List.mem_cons_self
      have same := core_of_attending (m := m) first (taken?_of_ne_step notStep)
      rw [after_cons, ih fun op hop => attends op (List.mem_cons_of_mem _ hop), same]

/-- As long as no key is held at a step, the machine stays at the instruction that waits. -/
theorem core_after_unattended {x : Fin 16} {history : List Operation}
    (inside : m.core.pc < Core.memoryEnd) (wait : m.core.opcode.decode = .ldVxK x)
    (attends : ∀ op ∈ history, op.attends = true) (alone : m.Unattended history) :
    (m.after history).core =
      { m.core with
        delay := (m.after history).core.delay
        sound := (m.after history).core.sound
        waiting := (m.after history).core.waiting
        keypad := (m.after history).core.keypad } := by
  induction history generalizing m with
  | nil => rfl
  | cons op rest ih =>
      have first : (m.apply op).machine.core =
          { m.core with
            delay := (m.apply op).machine.core.delay
            sound := (m.apply op).machine.core.sound
            waiting := (m.apply op).machine.core.waiting
            keypad := (m.apply op).machine.core.keypad } := by
        cases done : m.taken? op with
        | none => rw [core_of_attending (attends op List.mem_cons_self) done]
        | some outcome =>
            rw [core_of_taken done]
            obtain ⟨rfl, running, -⟩ := taken?_eq_some_iff.mp done
            have released := Keypad.firstPressed_eq_none_iff.mpr (alone [] rest rfl running)
            rw [Core.step_of_released inside wait released]
      have inside' : (m.apply op).machine.core.pc < Core.memoryEnd := by rw [first]; exact inside
      have wait' : (m.apply op).machine.core.opcode.decode = .ldVxK x := by rw [first]; exact wait
      rw [after_cons, ih inside' wait' (fun op hop => attends op (List.mem_cons_of_mem _ hop))
        alone.tail, first]

/-- The step taken at an instruction that waits while no key is held. -/
theorem step_of_released {x : Fin 16} (running : m.runState = .running)
    (inside : m.core.pc < Core.memoryEnd) (wait : m.core.opcode.decode = .ldVxK x)
    (released : ∀ key : Fin 16, m.core.keypad.isPressed key.val = false) :
    m.step.outcome = .ok ⟨m.core.pc, some m.core.opcode, .waitingForKey⟩ ∧
      m.step.machine =
        { m with
          core := { m.core with
            delay := Core.countDown m.core.delay, sound := Core.countDown m.core.sound
            waiting := true } } := by
  rw [step_of_running running,
    Core.step_of_released inside wait (Keypad.firstPressed_eq_none_iff.mpr released)]
  exact ⟨rfl, rfl⟩

/-- The step taken there while some key is held. -/
theorem step_of_held {x : Fin 16} (running : m.runState = .running)
    (inside : m.core.pc < Core.memoryEnd) (wait : m.core.opcode.decode = .ldVxK x)
    (held : ∃ key : Fin 16, m.core.keypad.isPressed key.val = true) :
    ∃ key : Fin 16, m.core.keypad.isPressed key.val = true ∧
      (∀ other : Fin 16, m.core.keypad.isPressed other.val = true → key ≤ other) ∧
      m.step.outcome = .ok ⟨m.core.pc, some m.core.opcode, .executed⟩ ∧
      m.step.machine =
        { m with
          core := { (m.core.setReg x (UInt8.ofNat key.val)).tick with
            pc := m.core.pc + 2, waiting := false } } := by
  cases first : m.core.keypad.firstPressed with
  | none =>
      obtain ⟨key, pressed⟩ := held
      rw [Keypad.firstPressed_eq_none_iff.mp first key] at pressed
      cases pressed
  | some key =>
      refine ⟨key, Keypad.isPressed_of_firstPressed first, fun other pressed =>
        Keypad.le_of_firstPressed first pressed, ?_⟩
      rw [step_of_running running, Core.step_of_held inside wait first]
      exact ⟨rfl, rfl⟩

/-- The flag after a history tells how the last step that it took ended. -/
theorem waiting_after (m : Machine) (history : List Operation) :
    (m.after history).core.waiting
      = ((m.taken history).getLast?.map waited).getD m.core.waiting := by
  induction history generalizing m with
  | nil => rfl
  | cons op rest ih =>
      rw [after_cons, ih, taken, List.getLast?_append]
      cases (m.apply op).machine.taken rest |>.getLast? with
      | some last => rfl
      | none =>
          cases done : m.taken? op with
          | none =>
              rw [core_of_not_taken done]
              rfl
          | some outcome =>
              obtain ⟨-, -, step⟩ := taken?_eq_some_iff.mp done
              rw [core_of_taken done, Core.waiting_step, step]
              rfl

/-- At an instruction that waits, every step taken while no key is held waits and changes nothing
but the timers and the flag, and the first step taken while one is held stores the smallest and
goes on. What is pressed and released between two steps leaves no trace. In every machine that can
be reached the flag is raised exactly if the last step that ran the core ended in a wait. -/
theorem key_wait_and_flag :
    (∀ (m : Machine) (x : Fin 16) (history : List Operation),
      m.core.pc.toNat < 4096 →
      256 * (m.core.memory.load m.core.pc.toNat).toNat
          + (m.core.memory.load ((m.core.pc.toNat + 1) % 4096 : Nat)).toNat
        = 0xF00A + 256 * x.val →
      (∀ op ∈ history, op.attends = true) → m.Unattended history →
      let n := m.after history
      n.core =
        { m.core with
          delay := n.core.delay, sound := n.core.sound, waiting := n.core.waiting
          keypad := n.core.keypad } ∧
      (n.runState = .running → (∀ key : Fin 16, n.core.keypad.isPressed key.val = false) →
        n.step.outcome = .ok ⟨m.core.pc, some m.core.opcode, .waitingForKey⟩ ∧
          n.step.machine =
            { n with
              core := { n.core with
                delay := Core.countDown n.core.delay, sound := Core.countDown n.core.sound
                waiting := true } }) ∧
      (n.runState = .running → (∃ key : Fin 16, n.core.keypad.isPressed key.val = true) →
        ∃ key : Fin 16, n.core.keypad.isPressed key.val = true ∧
          (∀ other : Fin 16, n.core.keypad.isPressed other.val = true → key ≤ other) ∧
          n.step.outcome = .ok ⟨m.core.pc, some m.core.opcode, .executed⟩ ∧
          n.step.machine =
            { n with
              core := { (n.core.setReg x (UInt8.ofNat key.val)).tick with
                pc := m.core.pc + 2, waiting := false } } ∧
          (m.core.pc + 2).toNat = m.core.pc.toNat + 2) ∧
      (∀ between : List Operation, (∀ op ∈ between, op.attends = true ∧ op ≠ .step) →
        (n.after between).core = { n.core with keypad := (n.after between).core.keypad })) ∧
    (∀ (byte : Nat → UInt8) (history : List Operation),
      let start := initial ⟨byte, 0⟩
      (start.after history).core.waiting = true ↔
        ∃ result, (start.taken history).getLast? = some (.ok result) ∧
          result.status = .waitingForKey) := by
  refine ⟨fun m x history inside word attends alone => ?_, fun byte history => ?_⟩
  · intro n
    have wait := Opcode.decode_of_ldVxK (m.core.toNat_opcode_word.trans word)
    have same := core_after_unattended inside wait attends alone
    have pc : m.core.pc = n.core.pc := by rw [same]
    have opcode : m.core.opcode = n.core.opcode := by rw [same]; rfl
    have next : (m.core.pc + 2).toNat = m.core.pc.toNat + 2 := Core.toNat_pc_add_two inside
    rw [pc] at inside next ⊢
    rw [opcode] at wait ⊢
    refine ⟨same, fun running released => step_of_released running inside wait released,
      fun running held => ?_, fun between attends => core_after_attending attends⟩
    obtain ⟨key, pressed, least, outcome, machine⟩ := step_of_held running inside wait held
    exact ⟨key, pressed, least, outcome, machine, next⟩
  · intro start
    rw [waiting_after]
    cases (start.taken history).getLast? with
    | none => exact ⟨nofun, nofun⟩
    | some last => cases last <;> simp [waited]

/-- A program that waits for a key and stores it in `V5`. One key is pressed and released before the
first step, two others are pressed while the machine is paused and still held when it goes on. -/
theorem key_wait_and_flag_of_two_keys :
    let start := initial ⟨fun _ => 0, 0⟩
    let rom : Rom := ⟨"", [0xF5, 0x0A], by decide⟩
    let m := start.insert rom
    let history : List Operation :=
      [.setKey 7 true, .setKey 7 false, .step, .togglePause, .setKey 11 true, .setKey 9 true, .step,
        .togglePause]
    let held := m.after history
    m.core.pc.toNat < 4096 ∧ m.core.opcode.word = 0xF50A ∧
      (∀ op ∈ history, op.attends = true) ∧ m.Unattended history ∧
      m.step.outcome = .ok ⟨0x200, some ⟨0xF50A⟩, .waitingForKey⟩ ∧
      (start.after [.insert rom, .step]).core.waiting = true ∧
      held.step.outcome = .ok ⟨0x200, some ⟨0xF50A⟩, .executed⟩ ∧
      held.step.machine.core.reg 5 = 9 ∧ held.step.machine.core.pc = 0x202 := by
  intro start rom m history held
  have opcode : m.core.opcode = ⟨0xF50A⟩ := by decide +kernel
  have inside : m.core.pc.toNat < 4096 := by decide
  have bytes := m.core.toNat_opcode_word.symm.trans (congrArg (fun o => o.word.toNat) opcode)
  have attends : ∀ op ∈ history, op.attends = true := by simp [history, Operation.attends]
  have unattended : m.Unattended history :=
    .cons nofun <| .cons nofun <| .cons (fun _ _ => by decide +kernel) <| .cons nofun <|
      .cons nofun <| .cons nofun <| .cons (fun _ running => by cases running) <| .cons nofun <|
        unattended_nil _
  have smallest : ∀ key : Fin 16,
      held.core.keypad.isPressed key.val = true → key ≤ 9 → key = 9 := by
    decide +kernel
  obtain ⟨wait, flag⟩ := key_wait_and_flag
  obtain ⟨-, waits, -⟩ := wait m 5 [] inside bytes nofun (unattended_nil m)
  obtain ⟨-, -, goesOn, -⟩ := wait m 5 history inside bytes attends unattended
  obtain ⟨outcome, -⟩ := waits rfl (by decide +kernel)
  rw [opcode] at outcome
  obtain ⟨key, pressed, least, executed, machine, -⟩ := goesOn rfl ⟨9, by decide +kernel⟩
  have nine : key = 9 := smallest key pressed (least 9 (by decide +kernel))
  have last : (start.taken [.insert rom, .step]).getLast? = some m.step.outcome := rfl
  refine ⟨inside, by rw [opcode], attends, unattended, outcome,
    (flag _ [.insert rom, .step]).mpr ⟨_, last.trans (congrArg some outcome), rfl⟩,
    by rw [executed, opcode]; rfl, ?_, by rw [machine]; rfl⟩
  rw [machine, nine]
  generalize held.core = core
  exact (Core.reg_setReg _ _ _ _).trans (if_pos rfl)

end Machine

end Chip8
