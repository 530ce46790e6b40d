import Chip8.Proofs.Memory
import Chip8.Proofs.Operation

/-!
# Faults

A step faults exactly when it fetches a call with all sixteen slots in use or a return with none,
and the fault names the word and its address. It leaves the machine as it was but for the waiting
flag, which a step clears before it fetches. Stepping reads nothing of that flag, so the faulted
machine is a fixed point: it faults in the same way for as long as it is only stepped.
-/

namespace Chip8

namespace Core

/-- The word at the program counter, high byte first; the last cell is followed by the first. -/
theorem toNat_opcode_word (c : Core) :
    c.opcode.word.toNat =
      256 * (c.memory.load c.pc.toNat).toNat
        + (c.memory.load ((c.pc.toNat + 1) % 4096 : Nat)).toNat := by
  have wraps : c.memory.load (c.pc.toNat + 1) = c.memory.load ((c.pc.toNat + 1) % 4096 : Nat) :=
    c.memory.load_congr (by simp)
  rw [opcode, Ram.toNat_loadWord, wraps]

/-- The fault that a step of the core ends in, if any. -/
theorem step_eq_error_iff (c : Core) (fault : Fault) :
    c.step.2 = .error fault ↔
      c.pc.toNat < 4096 ∧ fault.address = c.pc ∧ fault.opcode = c.opcode ∧
        (fault.reason = .stackOverflow ∧ c.opcode.word.toNat / 4096 = 2 ∧ c.stack.depth = 16 ∨
          fault.reason = .stackUnderflow ∧ c.opcode.word = 0x00EE ∧ c.stack.depth = 0) := by
  obtain ⟨reason, address, opcode⟩ := fault
  have isCall : (∃ target, c.opcode.decode = .call target) ↔ c.opcode.word.toNat / 4096 = 2 := by
    simp [Opcode.decode_eq_call_iff, Opcode.family]
  rcases c.step_cases with ⟨out, hstep⟩ | ⟨reason', inside, herror, hstep⟩ | ⟨d, inside, hok, hstep⟩
  · have outside : ¬ c.pc.toNat < 4096 := Nat.not_lt.mpr out
    simp [hstep, outside]
  · have inside : c.pc.toNat < 4096 := inside
    rw [execute_eq_error_iff, isCall, Opcode.decode_eq_ret_iff] at herror
    rw [hstep]
    constructor
    · intro h
      cases h
      refine ⟨inside, rfl, rfl, ?_⟩
      rcases herror with ⟨hcall, hfull, rfl⟩ | ⟨hret, hempty, rfl⟩
      · exact .inl ⟨rfl, hcall, hfull⟩
      · exact .inr ⟨rfl, hret, hempty⟩
    · rintro ⟨-, rfl, rfl, ⟨rfl, hcall, hfull⟩ | ⟨rfl, hret, hempty⟩⟩
      all_goals rcases herror with ⟨-, depth, rfl⟩ | ⟨-, depth, rfl⟩
      · rfl
      · have : c.stack.depth = 0 := depth
        omega
      · have : c.stack.depth = 16 := depth
        omega
      · rfl
  · rw [hstep]
    constructor
    · intro h
      cases h
    · rintro ⟨-, -, -, h⟩
      have never : c.fetched.execute c.opcode.decode ≠ .error reason := by rw [hok]; simp
      rw [Ne, execute_eq_error_iff, isCall, Opcode.decode_eq_ret_iff] at never
      rcases h with ⟨hreason, hcall, hfull⟩ | ⟨hreason, hret, hempty⟩
      · exact absurd (.inl ⟨hcall, hfull, hreason⟩) never
      · exact absurd (.inr ⟨hret, hempty, hreason⟩) never

theorem step_fst_of_error {c : Core} {fault : Fault} (h : c.step.2 = .error fault) :
    c.step.1 = c.awake := by
  rcases c.step_cases with ⟨-, hstep⟩ | ⟨_, -, -, hstep⟩ | ⟨_, -, -, hstep⟩
  all_goals rw [hstep] at h ⊢
  all_goals cases h

/-- A step does not read the flag it clears. -/
theorem step_awake (c : Core) : c.awake.step = c.step := rfl

end Core

namespace Machine

/-- The machine no longer waiting. -/
def awake (m : Machine) : Machine := { m with core := m.core.awake }

/-- An operation that leaves a machine as it is can be repeated at will. -/
theorem replicate_of_fixed {m : Machine} {op : Operation} (fixed : (m.apply op).machine = m)
    (n : Nat) :
    m.responses (List.replicate n op) = List.replicate n (m.apply op).response ∧
      m.after (List.replicate n op) = m := by
  induction n with
  | zero => exact ⟨rfl, rfl⟩
  | succ n ih =>
      simp only [List.replicate_succ, responses, after_cons, fixed, ih, true_and]

theorem step_machine_of_fault {m : Machine} {fault : Fault} (running : m.runState = .running)
    (h : m.step.outcome = .error fault) : m.step.machine = m.awake := by
  rw [step_of_running running] at h ⊢
  simp only [Core.step_fst_of_error h, awake]

/-- The faulted machine faults again, in the same way, and stays as it is. -/
theorem apply_awake_of_fault {m : Machine} {fault : Fault} (running : m.runState = .running)
    (h : m.step.outcome = .error fault) :
    (m.awake.apply .step).machine = m.awake ∧
      (m.awake.apply .step).response = .stepped (.error fault) := by
  have stillRunning : m.awake.runState = .running := running
  have same : m.awake.step.outcome = .error fault := by
    rw [step_of_running stillRunning, awake, Core.step_awake]
    rw [step_of_running running] at h
    exact h
  rw [apply_step, same]
  exact ⟨step_machine_of_fault stillRunning same, rfl⟩

/-- A step of a running machine faults exactly on a call with a full stack and on a return with an
empty one. The fault tells the word and where it was fetched, nothing but the waiting flag has
changed, and every further step faults alike. -/
theorem fault_exact_and_atomic (m : Machine) (running : m.runState = .running) :
    m.core.opcode.word.toNat =
        256 * (m.core.memory.load m.core.pc.toNat).toNat
          + (m.core.memory.load ((m.core.pc.toNat + 1) % 4096 : Nat)).toNat ∧
    ((∃ fault, m.step.outcome = .error fault) ↔
      m.core.pc.toNat < 4096 ∧
        (m.core.opcode.word.toNat / 4096 = 2 ∧ m.core.stack.depth = 16 ∨
          m.core.opcode.word = 0x00EE ∧ m.core.stack.depth = 0)) ∧
    ∀ fault, m.step.outcome = .error fault →
      fault.address = m.core.pc ∧ fault.opcode = m.core.opcode ∧
        (fault.reason = .stackOverflow ∧ m.core.opcode.word.toNat / 4096 = 2 ∧
            m.core.stack.depth = 16 ∨
          fault.reason = .stackUnderflow ∧ m.core.opcode.word = 0x00EE ∧
            m.core.stack.depth = 0) ∧
        m.step.machine = { m with core := { m.core with waiting := false } } ∧
        ∀ n,
          m.step.machine.responses (List.replicate n .step)
              = List.replicate n (.stepped (.error fault)) ∧
            m.step.machine.after (List.replicate n .step) = m.step.machine := by
  have outcome : m.step.outcome = m.core.step.2 := by rw [step_of_running running]
  refine ⟨m.core.toNat_opcode_word, ⟨?_, ?_⟩, fun fault h => ?_⟩
  · rintro ⟨fault, h⟩
    rw [outcome] at h
    obtain ⟨inside, -, -, why⟩ := (m.core.step_eq_error_iff fault).mp h
    exact ⟨inside, why.imp And.right And.right⟩
  · rintro ⟨inside, why⟩
    rw [outcome]
    rcases why with why | why
    · exact ⟨⟨.stackOverflow, _, _⟩, (m.core.step_eq_error_iff _).mpr
        ⟨inside, rfl, rfl, .inl ⟨rfl, why⟩⟩⟩
    · exact ⟨⟨.stackUnderflow, _, _⟩, (m.core.step_eq_error_iff _).mpr
        ⟨inside, rfl, rfl, .inr ⟨rfl, why⟩⟩⟩
  · obtain ⟨-, address, opcode, why⟩ := (m.core.step_eq_error_iff fault).mp (outcome ▸ h)
    obtain ⟨fixed, answer⟩ := apply_awake_of_fault running h
    refine ⟨address, opcode, why, step_machine_of_fault running h, fun n => ?_⟩
    rw [step_machine_of_fault running h, ← answer]
    exact replicate_of_fixed fixed n

/-- A program whose first word returns faults at the entry point, three times in three steps. -/
theorem fault_of_return_first :
    let m := (initial ⟨fun _ => 0, 0⟩).insert ⟨"", [0x00, 0xEE], by decide⟩
    m.runState = .running ∧ ∃ fault, m.step.outcome = .error fault ∧
      fault.reason = .stackUnderflow ∧ fault.address = 0x200 ∧ fault.opcode.word = 0x00EE ∧
        m.step.machine.responses [.step, .step]
          = [.stepped (.error fault), .stepped (.error fault)] := by
  intro m
  have running : m.runState = .running := rfl
  have word : m.core.opcode.word = 0x00EE := by decide +kernel
  obtain ⟨-, faults, told⟩ := fault_exact_and_atomic m running
  obtain ⟨fault, h⟩ := faults.mpr ⟨by decide, .inr ⟨word, rfl⟩⟩
  obtain ⟨address, opcode, why, -, again⟩ := told fault h
  refine ⟨running, fault, h, ?_, address, opcode ▸ word, (again 2).1⟩
  rcases why with ⟨-, -, full⟩ | ⟨reason, -⟩
  · cases full
  · exact reason

end Machine

end Chip8
