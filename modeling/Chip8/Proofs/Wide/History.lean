import Chip8.Proofs.Fault
import Chip8.Proofs.Wide.Execute

/-!
# Histories without widths

Step by step, operation by operation and so over whole histories, the interpreter without widths
does what the machine does. Its errors are then those of the machine: an image that does not fit and
the two faults. In particular no access to a list ever misses, and the program counter, which only
the machine keeps in sixteen bits, is never too large for them.
-/

namespace Chip8

/-- The error that an operation ended in. -/
def Response.error? : Response → Option Wide.Error
  | .refused e => some (.romTooLarge e)
  | .stepped (.error f) => some (.fault f.reason f.address.toNat f.opcode)
  | _ => none

/-- An operation may end well; a load may refuse its image because of the size, a step may fault,
and there is no other way to end. -/
def Operation.MayEndIn : Operation → Option Wide.Error → Prop
  | _, none => True
  | .load name bytes, some (.romTooLarge e) =>
      Memory.programLimit < bytes.length ∧ e = ⟨name, bytes.length⟩
  | .step, some (.fault _ _ _) => True
  | _, some _ => False

namespace Wide

variable {c : Core}

/-! ### One step -/

theorem countDown_toNat (timer : UInt8) :
    countDown timer.toNat = ((Core.countDown timer).toNat : Int) := by
  rw [Core.toNat_countDown, countDown]
  split <;> omega

theorem runs_tick : Runs tick c () c.tick := by
  refine Runs.modify_of_eq ?_
  simp only [Core.wide, Core.tick, countDown_toNat]

theorem ofInt_natCast (n : Nat) : UInt16.ofInt n = UInt16.ofNat n := by
  have same : ((n : Int) % 2 ^ 16).toNat = n % 2 ^ 16 := by omega
  rw [UInt16.ofInt, same]
  exact UInt16.toNat_inj.mp (by simp)

theorem runs_fetch (inside : c.pc < Core.memoryEnd) : Runs fetch c.awake c.opcode c.fetched := by
  have moved : Runs (set { c.awake.wide with pc := c.awake.wide.pc + 2 }) c.awake () c.fetched := by
    refine Runs.set_of_eq ?_
    simp only [Core.wide, Core.awake, Core.fetched, Core.toNat_pc_add_two inside, Int.natCast_add]
    rfl
  have word : Opcode.ofInt (256 * (c.memory.load c.pc.toNat).toNat
      + (c.memory.load (c.pc.toNat + 1)).toNat) = c.opcode := by
    rw [Opcode.ofInt, Core.opcode, Ram.loadWord_eq, ← ofInt_natCast]
    rfl
  refine Runs.get_bind ((runs_cell _).bind ((runs_cell _).bind (moved.bind ?_)))
  rw [← word]
  exact runs_pure

theorem runs_restoring {d : Core} {action : Action Unit} (address : Int)
    (h : Runs action c () d) : Runs (restoring address action) c () d := by
  simp only [Runs, EStateM.run, restoring] at h ⊢
  rw [h]

theorem restoring_of_fault {action : Action Unit} (address : Int) {at' : Int}
    {reason : FaultReason} {o : Opcode} {w : Wide}
    (h : action.run c.wide = .error (.fault reason at' o) w) :
    (restoring address action).run c.wide
      = .error (.fault reason at' o) { w with pc := address } := by
  simp only [EStateM.run, restoring] at h ⊢
  rw [h]

/-- How an action without a result ends. -/
def ending (error : Option Error) (w : Wide) : EStateM.Result Error Wide Unit :=
  match error with
  | none => .ok () w
  | some e => .error e w

/-- A step after the waiting flag is cleared. -/
theorem run_step_eq (c : Core) :
    step.run c.wide =
      (if 4096 ≤ c.wide.pc then tick
        else fetch >>= fun o => restoring c.wide.pc (execute o o.decode) >>= fun _ => tick).run
          c.awake.wide := rfl

theorem run_step (h : c.Bounded) :
    step.run c.wide = ending (Response.stepped c.step.2).error? c.step.1.wide := by
  have leaves : 4096 ≤ c.wide.pc ↔ Core.memoryEnd ≤ c.pc := Int.ofNat_le
  rw [run_step_eq]
  rcases c.step_cases with ⟨out, hstep⟩ | ⟨reason, inside, herror, hstep⟩ | ⟨d, inside, hok, hstep⟩
  all_goals rw [hstep]
  · rw [if_pos (leaves.mpr out)]
    exact runs_tick (c := c.awake)
  · have stays : ¬ 4096 ≤ c.wide.pc := fun out => UInt16.not_le.mpr inside (leaves.mp out)
    have address : (c.fetched.pc.toNat : Int) - 2 = c.pc.toNat := by
      have : c.fetched.pc.toNat = c.pc.toNat + 2 := Core.toNat_pc_add_two inside
      omega
    have faults := restoring_of_fault c.wide.pc (o := c.opcode) (execute_of_error herror)
    rw [address] at faults
    rw [if_neg stays]
    exact (runs_fetch inside).bind_error (error_bind faults)
  · have stays : ¬ 4096 ≤ c.wide.pc := fun out => UInt16.not_le.mpr inside (leaves.mp out)
    have done : Runs (execute c.opcode c.opcode.decode) c.fetched () d :=
      runs_execute (h.fetched inside) (fun _ => Opcode.address?_decode_lt) hok
    rw [if_neg stays]
    exact (runs_fetch inside).bind ((runs_restoring c.wide.pc done).bind runs_tick)

/-! ### One operation -/

variable {m : Machine}

theorem runs_insert {name : String} {bytes : List UInt8}
    (fits : bytes.length ≤ Memory.programLimit) :
    Runs (load name bytes) m.core () (m.insert ⟨name, bytes, fits⟩).core := by
  have small : ¬ Memory.programLimit < bytes.length := Nat.not_lt.mpr fits
  rw [load, if_neg small, if_neg small]
  exact (runs_setBlock _ bytes).bind (Runs.modify_of_eq rfl)

theorem load_of_large {name : String} {bytes : List UInt8}
    (large : Memory.programLimit < bytes.length) :
    (load name bytes).run c.wide = .error (.romTooLarge ⟨name, bytes.length⟩) c.wide := by
  rw [load, if_pos large]
  rfl

theorem run_perform (h : m.core.Bounded) (op : Operation) :
    (perform m.runState op).run m.core.wide
      = ending (m.apply op).response.error? (m.apply op).machine.core.wide := by
  cases op with
  | load name bytes =>
      simp only [perform, Machine.apply, Machine.load, Rom.ofBytes]
      by_cases fits : bytes.length ≤ Memory.programLimit
      · rw [dif_pos fits]
        exact runs_insert fits
      · rw [dif_neg fits]
        exact load_of_large (Nat.lt_of_not_le fits)
  | insert rom => exact runs_insert rom.fits
  | step =>
      rw [Machine.apply_step]
      by_cases running : m.runState = .running
      · rw [Machine.step_of_running running, perform, if_pos running]
        exact run_step h
      · rw [Machine.step_of_resting running, perform, if_neg running]
        rfl
  | setKey key pressed => exact runs_setKey key pressed
  | togglePause =>
      simp only [Machine.apply, Machine.togglePause_eq]
      rfl
  | _ => rfl

end Wide

/-! ### Histories -/

namespace Machine

/-- The machine with the widths of its core forgotten. -/
def wide (m : Machine) : WideMachine := ⟨m.core.wide, m.runState⟩

variable {m : Machine}

theorem runState_apply (m : Machine) (op : Operation) :
    (m.apply op).machine.runState = WideMachine.runStateAfter m.runState op := by
  cases op with
  | load name bytes =>
      simp only [apply, load]
      cases Rom.ofBytes name bytes <;> rfl
  | step => exact m.runState_step
  | togglePause =>
      simp only [apply, togglePause_eq]
      rfl
  | _ => rfl

theorem wide_apply (h : m.core.Bounded) (op : Operation) :
    m.wide.apply op = ((m.apply op).machine.wide, (m.apply op).response.error?) := by
  have core : (Wide.perform m.wide.runState op).run m.wide.core = _ := Wide.run_perform h op
  have state : WideMachine.runStateAfter m.wide.runState op = _ := (m.runState_apply op).symm
  simp only [WideMachine.apply, core, state]
  cases (m.apply op).response.error? <;> rfl

theorem wide_after (h : m.core.Bounded) (history : List Operation) :
    m.wide.after history = (m.after history).wide := by
  induction history generalizing m with
  | nil => rfl
  | cons op rest ih =>
      rw [WideMachine.after, List.foldl_cons, wide_apply h op]
      exact ih (bounded_apply h op)

/-- A step that faults has moved the program counter by then. The address that is found again from
there is that of the word, and with the program counter put back only the waiting flag has
changed. -/
theorem wide_apply_of_fault (reachable : m.Reachable) (running : m.runState = .running)
    {fault : Fault} (h : m.step.outcome = .error fault) :
    m.wide.apply .step =
      ({ m.wide with core := { m.wide.core with waiting := false } },
        some (.fault fault.reason m.wide.core.pc m.core.opcode)) := by
  have faults : m.core.step.2 = .error fault := by
    rw [step_of_running running] at h
    exact h
  obtain ⟨-, address, opcode, -⟩ := (m.core.step_eq_error_iff fault).mp faults
  rw [wide_apply reachable.bounded, apply_step, h, step_machine_of_fault running h]
  show (m.awake.wide, some (Wide.Error.fault fault.reason fault.address.toNat fault.opcode)) = _
  rw [address, opcode]
  rfl

theorem mayEndIn_error? (m : Machine) (op : Operation) :
    op.MayEndIn (m.apply op).response.error? := by
  cases op with
  | load name bytes =>
      simp only [apply, load]
      cases loaded : Rom.ofBytes name bytes with
      | ok rom => trivial
      | error e => exact (Rom.ofBytes_eq_error_iff name bytes e).mp loaded
  | step =>
      rw [apply_step]
      cases m.step.outcome <;> trivial
  | _ => trivial

/-- Every machine that a history leads to from power on is in range. The interpreter without widths,
which cuts no program counter and fails on an access outside a list, is led to the same numbers by
the same history; and whatever operation comes next, both end it alike: well, or with one of the
three errors that the machine declares. -/
theorem history_in_range (byte : Nat → UInt8) (history : List Operation) :
    let m := (initial ⟨byte, 0⟩).after history
    m.wide.core.InRange ∧
      (initial ⟨byte, 0⟩).wide.after history = m.wide ∧
      ∀ op, m.wide.apply op = ((m.apply op).machine.wide, (m.apply op).response.error?) ∧
        op.MayEndIn (m.wide.apply op).2 := by
  intro m
  have reachable : m.Reachable := ⟨byte, history, rfl⟩
  have bounded := reachable.bounded
  refine ⟨bounded.inRange, wide_after (Core.bounded_initial _) history, fun op => ?_⟩
  have agrees := wide_apply bounded op
  refine ⟨agrees, ?_⟩
  rw [agrees]
  exact m.mayEndIn_error? op

end Machine

end Chip8
