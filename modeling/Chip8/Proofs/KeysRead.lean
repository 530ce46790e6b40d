import Chip8.Proofs.EqualBut
import Chip8.Proofs.Footprint

/-!
# When the keys are read

Three instructions read the keypad: the two skips one key of it, which a register names, and the
wait the smallest that is held. So of two histories of keys and steps one may press and release as
it likes, as long as each of its steps finds there what the same step of the other finds: the
machines then differ in the keypad only, and every step has the same result.
-/

namespace Chip8

/-- Does the instruction read the keypad? -/
def Kind.readsKeys : Kind → Bool
  | .skp | .sknp | .ldVxK => true
  | _ => false

theorem Core.readsSame_of_not_readsKeys {i : Instruction} (unread : i.kind.readsKeys = false)
    (c : Core) (k k' : Keypad) : c.ReadsSame k k' i := by
  cases i
  case skp | sknp | ldVxK => cases unread
  all_goals trivial

/-- The operations that press and release keys, and steps. -/
def Operation.isKeyOrStep : Operation → Bool
  | .step | .setKey _ _ => true
  | _ => false

def Operation.isStep : Operation → Bool
  | .step => true
  | _ => false

/-- The number of steps in a history. -/
def stepCount (history : List Operation) : Nat := history.countP Operation.isStep

theorem stepCount_cons (op : Operation) (rest : List Operation) :
    stepCount (op :: rest) = stepCount rest + if op.isStep then 1 else 0 := List.countP_cons

theorem stepCount_append (first second : List Operation) :
    stepCount (first ++ second) = stepCount first + stepCount second := List.countP_append

theorem stepCount_eq_zero_iff {history : List Operation} :
    stepCount history = 0 ↔ .step ∉ history := by
  rw [stepCount, List.countP_eq_zero]
  constructor
  · exact fun none member => none .step member rfl
  · intro none op member isStep
    cases op with
    | step => exact none member
    | _ => cases isStep

namespace Machine

variable {m n : Machine} {op : Operation} {first second rest : List Operation}

/-- Steps with the same number in two histories find the same on the keypad. -/
def ReadingsMeet (m n : Machine) (first second : List Operation) : Prop :=
  ∀ before later before' later', first = before ++ .step :: later →
    second = before' ++ .step :: later' → stepCount before = stepCount before' →
    (m.after before).ReadsSame (n.after before')

theorem equalBut_setKey (m : Machine) (index : Int) (pressed : Bool) :
    EqualBut { keypad := true } m (m.setKey index pressed) :=
  { EqualBut.refl _ m with core := { Core.EqualBut.refl _ m.core with keypad := nofun } }

/-- Without a step only the keypad changes. -/
theorem after_keys (keys : ∀ op ∈ first, op.isKeyOrStep) (idle : .step ∉ first) :
    EqualBut { keypad := true } m (m.after first) ∧ m.outcomes first = [] := by
  induction first generalizing m with
  | nil => exact ⟨.refl _ m, rfl⟩
  | cons op rest ih =>
      obtain ⟨now, later⟩ := List.forall_mem_cons.mp keys
      have idle' : .step ∉ rest := fun member => idle (List.mem_cons_of_mem op member)
      cases op with
      | setKey index pressed =>
          obtain ⟨unchanged, none⟩ := ih (m := m.setKey index pressed) later idle'
          exact ⟨(m.equalBut_setKey index pressed).trans unchanged, none⟩
      | step => exact absurd List.mem_cons_self idle
      | _ => cases now

theorem ReadingsMeet.of_key (meet : m.ReadingsMeet n (op :: first) second)
    (key : op.isStep = false) : (m.apply op).machine.ReadingsMeet n first second := by
  intro before later before' later' split split' aligned
  refine meet (op :: before) later before' later' (congrArg (op :: ·) split) split' ?_
  rw [stepCount_cons, key, aligned]
  rfl

theorem ReadingsMeet.of_step {pressed : List Operation} (idle : .step ∉ pressed)
    (meet : m.ReadingsMeet n (.step :: first) (pressed ++ .step :: second)) :
    m.ReadsSame (n.after pressed) ∧
      (m.apply .step).machine.ReadingsMeet ((n.after pressed).apply .step).machine first second := by
  have none : stepCount pressed = 0 := stepCount_eq_zero_iff.mpr idle
  refine ⟨meet [] first pressed second rfl rfl none.symm, ?_⟩
  intro before later before' later' split split' aligned
  have next := meet (.step :: before) later (pressed ++ .step :: before') later'
    (congrArg (.step :: ·) split) (by rw [split', List.append_assoc, List.cons_append]) ?_
  · rwa [after_append] at next
  · rw [stepCount_append, stepCount_cons, stepCount_cons, none, aligned, Nat.zero_add]

theorem outcomes_of_readingsMeet (same : EqualBut { keypad := true } m n)
    (keys : ∀ op ∈ first, op.isKeyOrStep) (keys' : ∀ op ∈ second, op.isKeyOrStep)
    (count : stepCount first = stepCount second) (meet : m.ReadingsMeet n first second) :
    m.outcomes first = n.outcomes second ∧
      EqualBut { keypad := true } (m.after first) (n.after second) := by
  induction first generalizing m n second with
  | nil =>
      obtain ⟨unchanged, none⟩ := after_keys (m := n) keys' (stepCount_eq_zero_iff.mp count.symm)
      exact ⟨none.symm, same.trans unchanged⟩
  | cons op rest ih =>
      obtain ⟨now, later⟩ := List.forall_mem_cons.mp keys
      cases op with
      | setKey index pressed =>
          have pressedFirst := (m.equalBut_setKey index pressed).symm.trans same
          exact ih pressedFirst later keys' count (meet.of_key rfl)
      | step =>
          -- the other history presses and releases keys before it comes to its first step
          have member : .step ∈ second := by
            refine Classical.byContradiction fun none => ?_
            rw [stepCount_eq_zero_iff.mpr none, stepCount_cons] at count
            cases count
          obtain ⟨pressed, rest', rfl, idle⟩ := List.eq_append_cons_of_mem member
          obtain ⟨keysPressed, keysRest⟩ := List.forall_mem_append.mp keys'
          obtain ⟨unchanged, none⟩ := after_keys (m := n) keysPressed idle
          obtain ⟨read, meets⟩ := meet.of_step idle
          obtain ⟨result, agree⟩ := (same.trans unchanged).apply .step (fun _ _ => read) nofun
          have counts : stepCount rest = stepCount rest' := by
            rw [stepCount_append, stepCount_cons, stepCount_cons,
              stepCount_eq_zero_iff.mpr idle] at count
            omega
          obtain ⟨results, states⟩ :=
            ih agree later (List.forall_mem_cons.mp keysRest).2 counts meets
          rw [after_append, outcomes_append, none, outcomes_cons, outcomes_cons, result, results]
          exact ⟨rfl, states⟩
      | _ => cases now

/-! ### Moving a key -/

theorem keypad_step (m : Machine) : m.step.machine.core.keypad = m.core.keypad := by
  by_cases running : m.runState = .running
  · rw [step_of_running running]
    rcases m.core.step_cases with ⟨-, hstep⟩ | ⟨_, -, -, hstep⟩ | ⟨d, -, hd, hstep⟩
    all_goals rw [hstep]
    · rfl
    · rfl
    · exact (Core.execute_keeps hd).keypad
  · rw [step_of_resting running]

/-- A key that the next step does not read may as well be pressed after it. -/
theorem step_setKey (index : Int) (pressed : Bool)
    (unread : ∀ i, (m.apply .step).response.executed? = some i → i.kind.readsKeys = false) :
    (m.setKey index pressed).step.outcome = m.step.outcome ∧
      (m.setKey index pressed).step.machine = m.step.machine.setKey index pressed := by
  have reads : m.ReadsSame (m.setKey index pressed) := fun i executed =>
    Core.readsSame_of_not_readsKeys (unread i executed) _ _ _
  obtain ⟨outcome, same⟩ := (m.equalBut_setKey index pressed).step (fun _ => reads) nofun
  have late := same.symm.trans (m.step.machine.equalBut_setKey index pressed)
  have keypads : (m.setKey index pressed).step.machine.core.keypad
      = (m.step.machine.setKey index pressed).core.keypad := by
    rw [keypad_step]
    exact congrArg (Keypad.set · index pressed) m.keypad_step.symm
  have nothing : EqualBut {} (m.setKey index pressed).step.machine
      (m.step.machine.setKey index pressed) :=
    { late with core := { late.core with keypad := fun _ => keypads } }
  exact ⟨outcome.symm, nothing.eq⟩

/-- Two histories of keys and steps from one machine have the same results in all steps and the same
states but for the keypad, as long as the steps with the same number that skip on a key find this
key alike and those that wait for one find the same smallest key. In particular a key may be pressed
or released before or after a step that carries out neither. -/
theorem keys_matter_when_read :
    (∀ (m : Machine) (first second : List Operation),
      (∀ op ∈ first, op.isKeyOrStep) → (∀ op ∈ second, op.isKeyOrStep) →
      stepCount first = stepCount second → m.ReadingsMeet m first second →
      m.outcomes first = m.outcomes second ∧
        ∀ before before', before <+: first → before' <+: second →
          stepCount before = stepCount before' →
            EqualBut { keypad := true } (m.after before) (m.after before')) ∧
    (∀ (m : Machine) (before later : List Operation) (index : Int) (pressed : Bool),
      (∀ i, ((m.after before).apply .step).response.executed? = some i →
        i.kind.readsKeys = false) →
      let early := before ++ .setKey index pressed :: .step :: later
      let late := before ++ .step :: .setKey index pressed :: later
      m.outcomes early = m.outcomes late ∧ m.after early = m.after late) := by
  refine ⟨fun m first second keys keys' count meet => ⟨?_, ?_⟩, ?_⟩
  · exact (outcomes_of_readingsMeet (.refl _ m) keys keys' count meet).1
  · rintro before before' ⟨later, rfl⟩ ⟨later', rfl⟩ aligned
    refine (outcomes_of_readingsMeet (.refl _ m) (List.forall_mem_append.mp keys).1
      (List.forall_mem_append.mp keys').1 aligned ?_).2
    intro start rest start' rest' split split' count
    refine meet start (rest ++ later) start' (rest' ++ later') ?_ ?_ count
    · rw [split, List.append_assoc, List.cons_append]
    · rw [split', List.append_assoc, List.cons_append]
  · intro m before later index pressed unread early late
    obtain ⟨outcome, machine⟩ := step_setKey index pressed unread
    constructor
    · simp only [early, late, outcomes_append, outcomes_cons, apply_setKey, apply_step, outcome,
        machine]
      rfl
    · simp only [early, late, after_append, after_cons, apply_setKey, apply_step, machine]

/-- A program that skips a word if key `0` is held and then loads a byte into `V0`. Key `0` is held
at the skip in both histories and the others are not, and the next key may go down before or after
the load. -/
theorem keys_matter_when_read_of_skip :
    let m := (initial ⟨fun _ => 0, 0⟩).insert
      ⟨"", [0xE0, 0x9E, 0x00, 0x00, 0x60, 0x07], by decide⟩
    let first : List Operation := [.setKey 3 true, .setKey 0 true, .step]
    let second : List Operation := [.setKey 0 true, .step, .setKey 20 true]
    let early := first ++ [.setKey 5 true, .step]
    let late := first ++ [.step, .setKey 5 true]
    stepCount first = stepCount second ∧ m.ReadingsMeet m first second ∧
      m.outcomes first = m.outcomes second ∧
      EqualBut { keypad := true } (m.after first) (m.after second) ∧
      (m.after first).core.pc = 0x204 ∧
      m.outcomes early = m.outcomes late ∧ m.after early = m.after late := by
  intro m first second early late
  have meet : m.ReadingsMeet m first second := by
    intro before later before' later' split split' _
    obtain rfl : before = [.setKey 3 true, .setKey 0 true] := by
      rcases before with _ | ⟨_, _ | ⟨_, _ | ⟨_, _ | ⟨_, _⟩⟩⟩⟩ <;> simp [first] at split
      rw [split.1, split.2.1]
    obtain rfl : before' = [.setKey 0 true] := by
      rcases before' with _ | ⟨_, _ | ⟨_, _ | ⟨_, _ | ⟨_, _⟩⟩⟩⟩ <;> simp [second] at split'
      rw [split'.1]
    have skips : ((m.after [.setKey 3 true, .setKey 0 true]).apply .step).response.executed?
        = some (.skp 0) := by decide +kernel
    have held : (m.after [.setKey 3 true, .setKey 0 true]).core.keypad.isPressed 0
        = (m.after [.setKey 0 true]).core.keypad.isPressed 0 := by decide +kernel
    intro i executed
    cases skips.symm.trans executed
    exact held
  have loads : ((m.after first).apply .step).response.executed? = some (.ldByte 0 7) := by
    decide +kernel
  obtain ⟨alike, moved⟩ := keys_matter_when_read
  obtain ⟨results, states⟩ := alike m first second (by decide) (by decide) rfl meet
  have unread : ∀ i, ((m.after first).apply .step).response.executed? = some i →
      i.kind.readsKeys = false := by
    intro i executed
    cases loads.symm.trans executed
    rfl
  obtain ⟨results', states'⟩ := moved m first [] 5 true unread
  exact ⟨rfl, meet, results, states first second List.prefix_rfl List.prefix_rfl rfl,
    by decide +kernel, results', states'⟩

end Machine

end Chip8
