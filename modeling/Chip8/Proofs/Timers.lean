import Chip8.Proofs.Fault
import Chip8.Proofs.Footprint
import Chip8.Proofs.StepsTaken

/-!
# The timers in closed form

Both timers obey one law, each with its own instruction that sets it. A step that is taken and does
not fault is a tick: it carries out its instruction first and counts down then, so the step that
sets a timer is already the first to count it down. Nothing else touches a timer. Hence after any
history a timer shows the value it was last set to, or started with, less the ticks since, and stays
at zero once it is there.
-/

namespace Chip8

inductive Timer
  | delay
  | sound
  deriving DecidableEq, Repr

namespace Timer

def read (t : Timer) (c : Core) : UInt8 :=
  match t with
  | .delay => c.delay
  | .sound => c.sound

/-- The register that an instruction sets the timer to, if it sets it. -/
def source? : Timer → Instruction → Option (Fin 16)
  | .delay, .ldDtVx x => some x
  | .sound, .ldStVx x => some x
  | _, _ => none

/-- The register that an operation sets the timer to: that of the instruction it carries out. -/
def setBy? (t : Timer) (m : Machine) (op : Operation) : Option (Fin 16) :=
  (m.apply op).response.executed?.bind t.source?

/-- After `before` a step sets the timer to register `x`, and nothing in `later` sets it again. -/
structure LastSet (t : Timer) (m : Machine) (before later : List Operation) (x : Fin 16) :
    Prop where
  set : t.setBy? (m.after before) .step = some x
  kept : ∀ i ∈ (m.after (before ++ [.step])).executed later, t.source? i = none

variable (t : Timer) {c d : Core} {i : Instruction} {m : Machine} {op : Operation}

/-! ### One step -/

theorem toNat_read_tick (c : Core) : (t.read c.tick).toNat = (t.read c).toNat - 1 := by
  cases t
  · exact Core.toNat_countDown c.delay
  · exact Core.toNat_countDown c.sound

theorem read_execute (h : c.execute i = .ok d) :
    t.read d = (t.source? i).elim (t.read c) c.reg := by
  cases t
  · cases i
    case ldDtVx x =>
      obtain rfl := Except.ok.inj h
      rfl
    all_goals exact (Core.execute_keeps h).delay (by simp [Instruction.kind])
  · cases i
    case ldStVx x =>
      obtain rfl := Except.ok.inj h
      rfl
    all_goals exact (Core.execute_keeps h).sound (by simp [Instruction.kind])

/-- A step that does not fault counts down once, from what its instruction made of the timer. -/
theorem toNat_read_step {result : StepResult} (h : c.step.2 = .ok result) :
    (t.read c.step.1).toNat =
      (((result.opcode.map Opcode.decode).bind t.source?).elim (t.read c) c.reg).toNat - 1 := by
  rcases c.step_cases with ⟨-, hstep⟩ | ⟨_, -, -, hstep⟩ | ⟨d, -, hd, hstep⟩
  all_goals
    rw [hstep] at h ⊢
    cases h
  · exact t.toNat_read_tick c.awake
  · rw [t.toNat_read_tick, t.read_execute hd]
    cases t <;> rfl

theorem read_step_of_fault {fault : Fault} (h : c.step.2 = .error fault) :
    t.read c.step.1 = t.read c := by
  rw [Core.step_fst_of_error h]
  cases t <;> rfl

/-! ### One operation -/

/-- No operation but a step that does not fault touches a timer. -/
theorem read_apply_of_untaken
    (h : op ≠ .step ∨ m.runState ≠ .running ∨ ∃ fault, m.step.outcome = .error fault) :
    t.read (m.apply op).machine.core = t.read m.core := by
  cases done : m.taken? op with
  | none =>
      rw [Machine.core_of_not_taken done]
      cases t <;> rfl
  | some outcome =>
      rw [Machine.core_of_taken done]
      obtain ⟨rfl, running, -⟩ := Machine.taken?_eq_some_iff.mp done
      rcases h with other | resting | ⟨fault, hfault⟩
      · exact absurd rfl other
      · exact absurd running resting
      · rw [Machine.step_of_running running] at hfault
        exact t.read_step_of_fault hfault

theorem setBy?_of_not_taken (h : m.taken? op = none) : t.setBy? m op = none := by
  rw [setBy?, Machine.executed?_of_not_taken h]
  rfl

/-- An operation counts the timer down once if it ticks, from the value that it sets. -/
theorem toNat_read_apply (m : Machine) (op : Operation) :
    (t.read (m.apply op).machine.core).toNat =
      ((t.setBy? m op).elim (t.read m.core) m.core.reg).toNat - m.ticks [op] := by
  cases done : m.taken? op with
  | none =>
      rw [Machine.core_of_not_taken done, t.setBy?_of_not_taken done,
        Machine.ticks_of_not_taken done]
      cases t <;> rfl
  | some outcome =>
      obtain ⟨-, -, step⟩ := Machine.taken?_eq_some_iff.mp done
      rw [Machine.core_of_taken done, Machine.ticks_of_taken done, setBy?,
        Machine.response_of_taken done]
      cases outcome with
      | error fault =>
          rw [t.read_step_of_fault step]
          rfl
      | ok result => exact t.toNat_read_step step

/-! ### Histories -/

/-- By induction on the history: the first operation is the last to set the timer if it sets it and
nothing after it does. -/
theorem toNat_read_after (m : Machine) (history : List Operation) :
    (∀ i ∈ m.executed history, t.source? i = none) ∧
        (t.read (m.after history).core).toNat = (t.read m.core).toNat - m.ticks history ∨
      ∃ before later x, history = before ++ .step :: later ∧ t.LastSet m before later x ∧
        (t.read (m.after history).core).toNat
          = ((m.after before).core.reg x).toNat - (m.after before).ticks (.step :: later) := by
  induction history generalizing m with
  | nil => exact .inl ⟨nofun, rfl⟩
  | cons op rest ih =>
      have first := t.toNat_read_apply m op
      rcases ih (m.apply op).machine with ⟨kept, value⟩ | ⟨before, later, x, rfl, last, value⟩
      · rw [first, Nat.sub_sub, ← Machine.ticks_cons] at value
        cases sets : t.setBy? m op with
        | none =>
            refine .inl ⟨fun i hi => ?_, by rw [Machine.after_cons, value, sets]; rfl⟩
            rcases (m.mem_executed_cons_iff op rest i).mp hi with now | afterwards
            · rw [setBy?, now] at sets
              exact sets
            · exact kept i afterwards
        | some x =>
            obtain rfl : op = .step := by
              refine Classical.byContradiction fun other => ?_
              rw [t.setBy?_of_not_taken (Machine.taken?_of_ne_step other)] at sets
              cases sets
            refine .inr ⟨[], rest, x, rfl, ⟨sets, kept⟩, ?_⟩
            rw [Machine.after_cons, value, sets]
            rfl
      · exact .inr ⟨op :: before, later, x, rfl, ⟨last.set, last.kept⟩, value⟩

theorem reg_of_ldVxDt {x : Fin 16} (h : (m.apply op).response.executed? = some (.ldVxDt x)) :
    (m.apply op).machine.core.reg x = m.core.delay := by
  obtain ⟨d, hd, hm⟩ := Machine.apply_of_executed h
  obtain rfl := Except.ok.inj hd
  rw [hm]
  exact (Core.reg_setReg _ _ _ _).trans (if_pos rfl)

/-- After any history a timer shows the value of the register it was last set to, less the ticks
from that step on, that step included; if it was not set it shows the value it had, less all ticks.
Operations that take no step and steps that fault leave it alone, and reading the delay timer gives
the value before the tick. -/
theorem timer_closed_form (t : Timer) (m : Machine) (history : List Operation) :
    ((∀ i ∈ m.executed history, t.source? i = none) ∧
        (t.read (m.after history).core).toNat = (t.read m.core).toNat - m.ticks history ∨
      ∃ before later x, history = before ++ .step :: later ∧ t.LastSet m before later x ∧
        (t.read (m.after history).core).toNat
          = ((m.after before).core.reg x).toNat - (m.after before).ticks (.step :: later)) ∧
    (∀ (m : Machine) (op : Operation),
      (op ≠ .step ∨ m.runState ≠ .running ∨ ∃ fault, m.step.outcome = .error fault) →
        t.read (m.apply op).machine.core = t.read m.core) ∧
    (∀ (m : Machine) (op : Operation) (x : Fin 16),
      (m.apply op).response.executed? = some (.ldVxDt x) →
        (m.apply op).machine.core.reg x = m.core.delay) :=
  ⟨t.toNat_read_after m history, fun _ _ => t.read_apply_of_untaken, fun _ _ _ => reg_of_ldVxDt⟩

/-- A program that sets the delay timer to 5 and reads it in the next step, with a pause in
between. -/
theorem timer_closed_form_of_delay :
    let m := (Machine.initial ⟨fun _ => 0, 0⟩).insert
      ⟨"", [0x63, 0x05, 0xF3, 0x15, 0xF4, 0x07], by decide⟩
    let history : List Operation := [.step, .step, .togglePause, .step, .togglePause]
    let paused := m.after history
    m.executed history = [.ldByte 3 5, .ldDtVx 3] ∧
      (∃ before later x, history = before ++ .step :: later ∧ Timer.delay.LastSet m before later x ∧
        paused.core.delay.toNat
          = ((m.after before).core.reg x).toNat - (m.after before).ticks (.step :: later)) ∧
      paused.core.delay = 4 ∧
      (paused.apply .quit).machine.core.sound = paused.core.sound ∧
      (paused.apply .step).response.executed? = some (.ldVxDt 4) ∧
      (paused.apply .step).machine.core.reg 4 = 4 := by
  intro m history paused
  have carried : m.executed history = [.ldByte 3 5, .ldDtVx 3] := by decide +kernel
  have value : paused.core.delay = 4 := by decide +kernel
  have reads : (paused.apply .step).response.executed? = some (.ldVxDt 4) := by decide +kernel
  obtain ⟨law, -, beforeTick⟩ := timer_closed_form .delay m history
  obtain ⟨-, untouched, -⟩ := timer_closed_form .sound m history
  refine ⟨carried, ?_, value, untouched paused .quit (.inl nofun), reads, ?_⟩
  · rcases law with ⟨kept, -⟩ | last
    · have set := kept (.ldDtVx 3) (by simp [carried])
      cases set
    · exact last
  · exact (beforeTick paused .step 4 reads).trans value

end Timer

end Chip8
