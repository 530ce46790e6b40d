import Chip8.Proofs.Operation

/-!
# Machines that differ in a few parts

Two machines are equal but for some parts when everything else is the same in both. Most parts decide
nothing: whatever is done to two such machines, their steps have the same results and they stay
equal but for the same parts. The keypad and the screen are the two parts that an instruction can
see, so there a step keeps the machines alike only if the instruction that it carries out sees the
same in both.
-/

namespace Chip8

/-- The random bytes still to come. -/
def RandomBytes.ahead (r : RandomBytes) (k : Nat) : UInt8 := r.byte (r.drawn + k)

theorem RandomBytes.next_congr {r s : RandomBytes} (same : r.ahead = s.ahead) :
    r.next.1 = s.next.1 ∧ r.next.2.ahead = s.next.2.ahead := by
  refine ⟨congrFun same 0, funext fun k => ?_⟩
  have later := congrFun same (k + 1)
  simp only [ahead] at later
  simp only [ahead, next, Nat.add_assoc, Nat.add_comm 1 k, later]

/-- A choice of parts of a machine. -/
structure Parts where
  keypad : Bool := false
  screen : Bool := false
  sound : Bool := false
  waiting : Bool := false
  /-- How many random bytes have been used. Those still to come are not up to choice. -/
  drawn : Bool := false
  volume : Bool := false
  romName : Bool := false
  tracing : Bool := false

/-- The cores are the same in everything but the chosen parts. -/
structure Core.EqualBut (p : Parts) (c d : Core) : Prop where
  v : c.v = d.v
  index : c.index = d.index
  pc : c.pc = d.pc
  stack : c.stack = d.stack
  delay : c.delay = d.delay
  memory : c.memory = d.memory
  ahead : c.random.ahead = d.random.ahead
  keypad : p.keypad = false → c.keypad = d.keypad
  screen : p.screen = false → c.screen = d.screen
  sound : p.sound = false → c.sound = d.sound
  waiting : p.waiting = false → c.waiting = d.waiting
  random : p.drawn = false → c.random = d.random

structure Machine.EqualBut (p : Parts) (m n : Machine) : Prop where
  core : Core.EqualBut p m.core n.core
  runState : m.runState = n.runState
  volume : p.volume = false → m.volume = n.volume
  romName : p.romName = false → m.romName = n.romName
  tracing : p.tracing = false → m.tracing = n.tracing

namespace Core

variable {p : Parts} {b c d : Core} {i : Instruction}

theorem EqualBut.refl (p : Parts) (c : Core) : EqualBut p c c := by
  constructor <;> intros <;> rfl

theorem EqualBut.trans (first : EqualBut p b c) (second : EqualBut p c d) : EqualBut p b d where
  v := first.v.trans second.v
  index := first.index.trans second.index
  pc := first.pc.trans second.pc
  stack := first.stack.trans second.stack
  delay := first.delay.trans second.delay
  memory := first.memory.trans second.memory
  ahead := first.ahead.trans second.ahead
  keypad same := (first.keypad same).trans (second.keypad same)
  screen same := (first.screen same).trans (second.screen same)
  sound same := (first.sound same).trans (second.sound same)
  waiting same := (first.waiting same).trans (second.waiting same)
  random same := (first.random same).trans (second.random same)

theorem EqualBut.symm (same : EqualBut p c d) : EqualBut p d c where
  v := same.v.symm
  index := same.index.symm
  pc := same.pc.symm
  stack := same.stack.symm
  delay := same.delay.symm
  memory := same.memory.symm
  ahead := same.ahead.symm
  keypad shown := (same.keypad shown).symm
  screen shown := (same.screen shown).symm
  sound shown := (same.sound shown).symm
  waiting shown := (same.waiting shown).symm
  random shown := (same.random shown).symm

theorem EqualBut.tick (same : EqualBut p c d) : EqualBut p c.tick d.tick :=
  { same with
    delay := congrArg countDown same.delay
    sound := fun shown => congrArg countDown (same.sound shown) }

/-- An instruction finds both cores no longer waiting, whatever they did before. -/
theorem EqualBut.fetched (same : EqualBut p c d) :
    EqualBut { p with waiting := false } c.fetched d.fetched :=
  { same with
    pc := congrArg (· + 2) same.pc
    waiting := fun _ => rfl }

theorem EqualBut.awake (same : EqualBut p c d) :
    EqualBut { p with waiting := false } c.awake d.awake :=
  { same with waiting := fun _ => rfl }

/-- What differs in fewer parts differs in these at most. -/
theorem EqualBut.waits (same : EqualBut { p with waiting := false } c d) : EqualBut p c d :=
  { same with waiting := fun _ => same.waiting rfl }

theorem EqualBut.opcode (same : EqualBut p c d) : c.opcode = d.opcode := by
  rw [Core.opcode, Core.opcode, same.memory, same.pc]

/-- The other parts may change as long as they change alike. -/
theorem EqualBut.visible (same : EqualBut p c d) {v : Vector UInt8 16} {index pc : UInt16}
    {stack : CallStack} {delay : UInt8} {memory : Memory} :
    EqualBut p { c with v, index, pc, stack, delay, memory }
      { d with v, index, pc, stack, delay, memory } :=
  { same with v := rfl, index := rfl, pc := rfl, stack := rfl, delay := rfl, memory := rfl }

/-! ### Instructions -/

/-- Two keypads show the same to an instruction: a skip looks at the key that its register names,
which is never held beyond the last, and a wait for the smallest key held. -/
def ReadsSame (c : Core) (k k' : Keypad) : Instruction → Prop
  | .skp x | .sknp x => k.isPressed (c.reg x).toNat = k'.isPressed (c.reg x).toNat
  | .ldVxK _ => k.firstPressed = k'.firstPressed
  | _ => True

/-- If the instruction draws, it reports the same collision from both cores. -/
def CollidesSame (c d : Core) : Instruction → Prop
  | .drw x y rows => (c.drawSprite x y rows).reg flag = (d.drawSprite x y rows).reg flag
  | _ => True

theorem readsSame_self (c : Core) (k : Keypad) (i : Instruction) : c.ReadsSame k k i := by
  cases i <;> first | rfl | trivial

theorem readsSame_of_error {reason : FaultReason} (h : c.execute i = .error reason)
    (k k' : Keypad) : c.ReadsSame k k' i := by
  rcases (c.execute_eq_error_iff i reason).mp h with ⟨⟨target, rfl⟩, -⟩ | ⟨rfl, -⟩ <;> trivial

theorem collidesSame_of_screen (same : EqualBut p c d) (screen : c.screen = d.screen) :
    CollidesSame c d i := by
  cases i
  case drw x y rows =>
    have regs : c.reg = d.reg := by
      unfold reg
      rw [same.v]
    simp only [CollidesSame, drawSprite, setFlag, reg_setReg, if_true, same.index, same.memory, regs,
      screen]
  all_goals trivial

theorem v_drawSprite (c : Core) (x y rows : Fin 16) :
    (c.drawSprite x y rows).v
      = c.v.set flag ((c.drawSprite x y rows).reg flag) (register_lt flag) := by
  simp only [drawSprite, setFlag, reg_setReg, if_true]
  rfl

/-- Cores that agree in what the instruction sees are led to cores that agree, or both fault. -/
theorem EqualBut.execute (same : EqualBut p c d) (reads : c.ReadsSame c.keypad d.keypad i)
    (collides : CollidesSame c d i) :
    (∃ reason, c.execute i = .error reason ∧ d.execute i = .error reason) ∨
      ∃ c' d', c.execute i = .ok c' ∧ d.execute i = .ok d' ∧ EqualBut p c' d' := by
  have parts := same
  obtain ⟨v, index, pc, stack, delay, sound, waiting, memory, screen, keypad, random⟩ := c
  obtain ⟨v', index', pc', stack', delay', sound', waiting', memory', screen', keypad', random'⟩ := d
  obtain ⟨rfl, rfl, rfl, rfl, rfl, rfl, ahead, -, screens, -, waits, randoms⟩ := parts
  cases i
  case ret =>
    simp only [Core.execute]
    cases stack.pop? with
    | none => exact .inl ⟨_, rfl, rfl⟩
    | some popped => exact .inr ⟨_, _, rfl, rfl, same.visible⟩
  case call target =>
    simp only [Core.execute]
    cases stack.push? pc with
    | none => exact .inl ⟨_, rfl, rfl⟩
    | some pushed => exact .inr ⟨_, _, rfl, rfl, same.visible⟩
  case cls => exact .inr ⟨_, _, rfl, rfl, { same with screen := fun _ => rfl }⟩
  case ldStVx x => exact .inr ⟨_, _, rfl, rfl, { same with sound := fun _ => rfl }⟩
  case drw x y rows =>
    have drawn : p.screen = false → screen = screen' := screens
    refine .inr ⟨_, _, rfl, rfl, { same with v := ?_, screen := fun shown => ?_ }⟩
    · rw [v_drawSprite, v_drawSprite, collides]
    · cases drawn shown
      rfl
  case rnd x mask =>
    obtain ⟨byte, later⟩ := RandomBytes.next_congr ahead
    exact .inr ⟨_, _, rfl, rfl,
      { same with
        v := congrArg (fun byte => v.set x (byte &&& mask) (register_lt x)) byte
        ahead := later
        random := fun shown => congrArg (·.next.2) (randoms shown) }⟩
  case skp x | sknp x =>
    have held : keypad.isPressed (v.get x).toNat = keypad'.isPressed (v.get x).toNat := reads
    refine .inr ⟨_, _, rfl, rfl, ?_⟩
    simp only [skipIf_eq, reg, held]
    exact same.visible
  case ldVxK x =>
    have first : keypad.firstPressed = keypad'.firstPressed := reads
    have waited : p.waiting = false → waiting = waiting' := waits
    refine .inr ⟨_, _, rfl, rfl, ?_⟩
    simp only [awaitKey_eq, first]
    exact { same.visible with waiting := fun shown => by rw [waited shown] }
  all_goals
    refine .inr ⟨_, _, rfl, rfl, ?_⟩
    simp only [skipIf_eq]
    exact same.visible

/-! ### Steps -/

theorem EqualBut.step (same : EqualBut p c d)
    (reads : c.pc < memoryEnd → c.fetched.ReadsSame c.keypad d.keypad c.opcode.decode)
    (collides : c.pc < memoryEnd → CollidesSame c.fetched d.fetched c.opcode.decode) :
    c.step.2 = d.step.2 ∧ EqualBut p c.step.1 d.step.1 := by
  rcases c.step_cases with ⟨out, hstep⟩ | ⟨reason, inside, hc, hstep⟩ | ⟨c', inside, hc, hstep⟩
  · rw [hstep, step_of_halted (same.pc ▸ out), same.pc]
    exact ⟨rfl, same.awake.waits.tick⟩
  all_goals
    have executed := same.fetched.execute (reads inside) (collides inside)
    rw [hc] at executed
  · rcases executed with ⟨_, ⟨⟩, hd⟩ | ⟨_, _, impossible, -⟩
    · rw [same.opcode] at hd
      rw [hstep, step_of_error (same.pc ▸ inside) hd, same.pc, same.opcode]
      exact ⟨rfl, same.awake.waits⟩
    · cases impossible
  · rcases executed with ⟨_, impossible, -⟩ | ⟨_, d', ⟨⟩, hd, agree⟩
    · cases impossible
    · rw [same.opcode] at hd
      rw [hstep, step_of_ok (same.pc ▸ inside) hd, same.pc, same.opcode, statusAfter, statusAfter,
        agree.waiting rfl]
      exact ⟨rfl, agree.waits.tick⟩

end Core

/-- The result of a step, if the operation was one. -/
def Response.outcome? : Response → Option (Except Fault StepResult)
  | .stepped outcome => some outcome
  | _ => none

namespace Machine

variable {p : Parts} {l m n : Machine}

theorem EqualBut.refl (p : Parts) (m : Machine) : EqualBut p m m :=
  ⟨.refl p m.core, rfl, fun _ => rfl, fun _ => rfl, fun _ => rfl⟩

theorem EqualBut.trans (first : EqualBut p l m) (second : EqualBut p m n) : EqualBut p l n where
  core := first.core.trans second.core
  runState := first.runState.trans second.runState
  volume same := (first.volume same).trans (second.volume same)
  romName same := (first.romName same).trans (second.romName same)
  tracing same := (first.tracing same).trans (second.tracing same)

theorem EqualBut.symm (same : EqualBut p m n) : EqualBut p n m where
  core := same.core.symm
  runState := same.runState.symm
  volume shown := (same.volume shown).symm
  romName shown := (same.romName shown).symm
  tracing shown := (same.tracing shown).symm

/-- Machines that are equal but for nothing. -/
theorem EqualBut.eq (same : EqualBut {} m n) : m = n := by
  obtain ⟨core, runState, volume, romName, tracing⟩ := same
  obtain ⟨v, index, pc, stack, delay, memory, -, keypad, screen, sound, waiting, random⟩ := core
  obtain ⟨core, _, _, _, _⟩ := m
  obtain ⟨core', _, _, _, _⟩ := n
  have cores : core = core' := by
    cases core
    cases core'
    cases v; cases index; cases pc; cases stack; cases delay; cases memory
    cases keypad rfl; cases screen rfl; cases sound rfl; cases waiting rfl; cases random rfl
    rfl
  cases cores
  cases runState
  cases volume rfl
  cases romName rfl
  cases tracing rfl
  rfl

/-! ### What the next step sees -/

/-- The instruction that the next step carries out, if any, finds the same on both keypads. -/
def ReadsSame (m n : Machine) : Prop :=
  ∀ i, (m.apply .step).response.executed? = some i →
    m.core.ReadsSame m.core.keypad n.core.keypad i

/-- If the next step draws, the flag register tells the same collision afterwards. -/
def CollidesSame (m n : Machine) : Prop :=
  ∀ x y rows, (m.apply .step).response.executed? = some (.drw x y rows) →
    (m.apply .step).machine.core.reg Core.flag = (n.apply .step).machine.core.reg Core.flag

theorem ReadsSame.fetched (reads : m.ReadsSame n) (running : m.runState = .running)
    (inside : m.core.pc < Core.memoryEnd) :
    m.core.fetched.ReadsSame m.core.keypad n.core.keypad m.core.opcode.decode := by
  cases ended : m.core.fetched.execute m.core.opcode.decode with
  | error reason => exact Core.readsSame_of_error ended _ _
  | ok d => exact reads _ ((m.executed?_eq_some_iff _ _).mpr ⟨rfl, running, inside, rfl, d, ended⟩)

theorem CollidesSame.fetched (collides : m.CollidesSame n) (same : EqualBut p m n)
    (running : m.runState = .running) (inside : m.core.pc < Core.memoryEnd) :
    Core.CollidesSame m.core.fetched n.core.fetched m.core.opcode.decode := by
  cases decoded : m.core.opcode.decode with
  | drw x y rows =>
      have drawn : m.core.fetched.execute m.core.opcode.decode
          = .ok (m.core.fetched.drawSprite x y rows) := by rw [decoded]; rfl
      have drawn' : n.core.fetched.execute n.core.opcode.decode
          = .ok (n.core.fetched.drawSprite x y rows) := by rw [← same.core.opcode, decoded]; rfl
      have told := collides x y rows
        ((m.executed?_eq_some_iff _ _).mpr ⟨rfl, running, inside, decoded, _, decoded ▸ drawn⟩)
      rw [apply_of_execute running inside drawn,
        apply_of_execute (same.runState ▸ running) (same.core.pc ▸ inside) drawn'] at told
      exact told
  | _ => trivial

theorem EqualBut.step (same : EqualBut p m n) (reads : p.keypad = true → m.ReadsSame n)
    (collides : p.screen = true → m.CollidesSame n) :
    m.step.outcome = n.step.outcome ∧ EqualBut p m.step.machine n.step.machine := by
  by_cases running : m.runState = .running
  · have running' : n.runState = .running := same.runState ▸ running
    have finds : m.core.pc < Core.memoryEnd →
        m.core.fetched.ReadsSame m.core.keypad n.core.keypad m.core.opcode.decode := by
      intro inside
      cases hidden : p.keypad with
      | true => exact (reads hidden).fetched running inside
      | false =>
          rw [same.core.keypad hidden]
          exact Core.readsSame_self _ _ _
    have reports : m.core.pc < Core.memoryEnd →
        Core.CollidesSame m.core.fetched n.core.fetched m.core.opcode.decode := by
      intro inside
      cases hidden : p.screen with
      | true => exact (collides hidden).fetched same running inside
      | false => exact Core.collidesSame_of_screen same.core.fetched (same.core.screen hidden)
    obtain ⟨outcome, core⟩ := same.core.step finds reports
    rw [step_of_running running, step_of_running running']
    exact ⟨outcome, { same with core }⟩
  · have resting : n.runState ≠ .running := same.runState ▸ running
    rw [step_of_resting running, step_of_resting resting, same.core.pc, same.runState]
    exact ⟨rfl, same⟩

theorem EqualBut.insert (same : EqualBut p m n) (rom : Rom) :
    EqualBut p (m.insert rom) (n.insert rom) :=
  { same with
    core := { same.core with
      memory := congrArg (·.setBlock Memory.entryPoint rom.data) same.core.memory
      pc := rfl }
    romName := fun _ => rfl }

/-- Whatever is done between two steps is done to both. -/
theorem EqualBut.apply_of_ne_step (same : EqualBut p m n) {op : Operation} (other : op ≠ .step) :
    EqualBut p (m.apply op).machine (n.apply op).machine := by
  cases op with
  | step => exact absurd rfl other
  | load name bytes =>
      simp only [Machine.apply, load]
      cases Rom.ofBytes name bytes with
      | error refusal => exact same
      | ok rom => exact same.insert rom
  | insert rom => exact same.insert rom
  | setKey index pressed =>
      exact { same with
        core := { same.core with
          keypad := fun shown => congrArg (·.set index pressed) (same.core.keypad shown) } }
  | togglePause =>
      simp only [Machine.apply, togglePause_eq]
      exact { same with runState := congrArg RunState.toggled same.runState }
  | quit => exact { same with runState := rfl }
  | enableTrace on => exact { same with tracing := fun _ => rfl }
  | adjustVolume delta =>
      exact { same with volume := fun shown => congrArg (·.adjust delta) (same.volume shown) }
  | volumeUp => exact { same with volume := fun shown => congrArg Volume.up (same.volume shown) }
  | volumeDown =>
      exact { same with volume := fun shown => congrArg Volume.down (same.volume shown) }

/-! ### Histories -/

theorem outcome?_of_ne_step {op : Operation} (other : op ≠ .step) :
    (m.apply op).response.outcome? = none := by
  cases op with
  | step => exact absurd rfl other
  | load name bytes =>
      simp only [Machine.apply]
      cases m.load name bytes <;> rfl
  | _ => rfl

/-- The results of the steps of a history, in order. -/
def outcomes (m : Machine) (history : List Operation) : List (Except Fault StepResult) :=
  (m.responses history).filterMap Response.outcome?

theorem outcomes_cons (m : Machine) (op : Operation) (rest : List Operation) :
    m.outcomes (op :: rest) =
      (m.apply op).response.outcome?.toList ++ (m.apply op).machine.outcomes rest := by
  rw [outcomes, responses, List.filterMap_cons]
  cases (m.apply op).response.outcome? <;> rfl

theorem outcomes_append (m : Machine) (first second : List Operation) :
    m.outcomes (first ++ second) = m.outcomes first ++ (m.after first).outcomes second := by
  induction first generalizing m with
  | nil => rfl
  | cons op rest ih =>
      rw [List.cons_append, outcomes_cons, outcomes_cons, ih, List.append_assoc, after_cons]

theorem EqualBut.apply (same : EqualBut p m n) (op : Operation)
    (reads : op = .step → p.keypad = true → m.ReadsSame n)
    (collides : op = .step → p.screen = true → m.CollidesSame n) :
    (m.apply op).response.outcome? = (n.apply op).response.outcome? ∧
      EqualBut p (m.apply op).machine (n.apply op).machine := by
  by_cases step : op = .step
  · subst step
    obtain ⟨outcome, machine⟩ := same.step (reads rfl) (collides rfl)
    exact ⟨congrArg some outcome, machine⟩
  · rw [outcome?_of_ne_step step, outcome?_of_ne_step step]
    exact ⟨rfl, same.apply_of_ne_step step⟩

/-- Steps with the same number that draw report the same collision. -/
def SameCollisions (m n : Machine) (history : List Operation) : Prop :=
  ∀ before later, history = before ++ .step :: later →
    (m.after before).CollidesSame (n.after before)

theorem SameCollisions.tail {op : Operation} {rest : List Operation}
    (collides : m.SameCollisions n (op :: rest)) :
    (m.apply op).machine.SameCollisions (n.apply op).machine rest :=
  fun before later split => collides (op :: before) later (congrArg (op :: ·) split)

/-- Nothing tells two machines apart that differ neither in the keypad nor, where a collision would
show it, in the screen. -/
theorem EqualBut.after (same : EqualBut p m n) (keypad : p.keypad = false)
    (history : List Operation) (collides : p.screen = true → m.SameCollisions n history) :
    m.outcomes history = n.outcomes history ∧ EqualBut p (m.after history) (n.after history) := by
  induction history generalizing m n with
  | nil => exact ⟨rfl, same⟩
  | cons op rest ih =>
      obtain ⟨outcome, machine⟩ := same.apply op
        (fun _ hidden => by rw [keypad] at hidden; cases hidden)
        (fun step hidden => collides hidden [] rest (congrArg (· :: rest) step))
      obtain ⟨outcomes, ended⟩ := ih machine fun hidden => (collides hidden).tail
      rw [outcomes_cons, outcomes_cons, outcome, outcomes]
      exact ⟨rfl, ended⟩

end Machine

end Chip8
