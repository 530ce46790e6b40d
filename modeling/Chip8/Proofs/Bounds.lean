import Chip8.Proofs.Footprint

/-!
# How far the program counter goes

The program counter may leave memory, but it stops there and never gets far. A step fetches below
`0x1000`, so an instruction finds it at `0x1001` or less, and this is the largest word that a call
can put on the stack. The farthest jump is the one that adds a register to its operand, to `0x10FE`;
a skip, a return and a wait stay below. Slots that are no longer live count as well, because a
return trusts the word it finds.
-/

namespace Chip8

namespace Core

/-- The program counter and all sixteen stack words are where instructions can bring them. -/
structure Bounded (c : Core) : Prop where
  pc : c.pc.toNat ≤ 0x10FE
  words : ∀ word ∈ c.stack.slots.toList, word.toNat ≤ 0x1001

/-- What an instruction finds after the fetch. -/
structure Prepared (c : Core) : Prop where
  past : 2 ≤ c.pc.toNat
  pc : c.pc.toNat ≤ 0x1001
  words : ∀ word ∈ c.stack.slots.toList, word.toNat ≤ 0x1001

variable {c d : Core}

theorem Bounded.fetched (h : c.Bounded) (inside : c.pc < memoryEnd) : c.fetched.Prepared := by
  have moved : c.fetched.pc.toNat = c.pc.toNat + 2 := toNat_pc_add_two inside
  have inside : c.pc.toNat < 4096 := inside
  exact ⟨by omega, by omega, h.words⟩

theorem bounded_initial (random : RandomBytes) : (initial random).Bounded where
  pc := Nat.le_of_ble_eq_true rfl
  words := by
    intro word hword
    obtain ⟨-, rfl⟩ := Vector.mem_replicate.mp (Vector.mem_toList_iff.mp hword)
    decide

/-! ### The program counter and the stack words after an instruction -/

namespace Prepared

variable (h : c.Prepared)
include h

theorem toNat_skipped : (c.pc + 2).toNat = c.pc.toNat + 2 := by
  have := h.pc
  exact toNat_add_two (by omega)

theorem toNat_waiting : (c.pc - 2).toNat = c.pc.toNat - 2 :=
  UInt16.toNat_sub_of_le _ _ (UInt16.le_iff_toNat_le.mpr h.past)

/-- An instruction that leaves the stack alone and does not go far is harmless. -/
theorem bounded_of_near (stack : d.stack = c.stack) (near : d.pc.toNat ≤ c.pc.toNat + 2) :
    d.Bounded := by
  have := h.pc
  exact ⟨by omega, stack ▸ h.words⟩

theorem bounded_of_ret {word : UInt16} {stack : CallStack}
    (hpop : c.stack.pop? = some (word, stack)) : Bounded { c with pc := word, stack } := by
  have live : word ∈ c.stack.slots.toList := by
    have member : word ∈ c.stack.toList := by
      rw [CallStack.toList_pop hpop]
      exact List.mem_append_right _ (List.mem_singleton_self word)
    exact List.mem_of_mem_take member
  have low := h.words word live
  refine ⟨?_, ?_⟩
  · change word.toNat ≤ 0x10FE
    omega
  · change ∀ word ∈ stack.slots.toList, _
    rw [CallStack.slots_pop hpop]
    exact h.words

theorem bounded_of_call {target : UInt16} {stack : CallStack} (inside : target.toNat < 4096)
    (hpush : c.stack.push? c.pc = some stack) : Bounded { c with stack, pc := target } := by
  refine ⟨?_, fun word hword => ?_⟩
  · change target.toNat ≤ 0x10FE
    omega
  · simp only [CallStack.push?] at hpush
    split at hpush
    · cases hpush
      rw [Vector.toList_set] at hword
      rcases List.mem_or_eq_of_mem_set hword with old | rfl
      · exact h.words word old
      · exact h.pc
    · cases hpush

theorem execute_bounded {i : Instruction} (address : ∀ a, i.address? = some a → a.toNat < 4096)
    (hd : c.execute i = .ok d) : d.Bounded := by
  have skipped := h.toNat_skipped
  cases i
  case ret =>
    obtain ⟨word, stack, hpop, rfl⟩ := (c.execute_ret_eq_ok_iff d).mp hd
    exact h.bounded_of_ret hpop
  case call target =>
    obtain ⟨stack, hpush, rfl⟩ := (c.execute_call_eq_ok_iff d target).mp hd
    exact h.bounded_of_call (address target rfl) hpush
  case jp target =>
    obtain rfl := Except.ok.inj hd
    have inside := address target rfl
    exact ⟨by change target.toNat ≤ _; omega, h.words⟩
  case jpV0 base =>
    obtain rfl := Except.ok.inj hd
    have inside := address base rfl
    have byte := (c.reg 0).toNat_lt
    refine ⟨?_, h.words⟩
    change (base + (c.reg 0).toUInt16).toNat ≤ _
    rw [UInt16.toNat_add, UInt8.toNat_toUInt16]
    omega
  case ldVxK x =>
    obtain rfl := Except.ok.inj hd
    have waits := h.toNat_waiting
    rw [awaitKey_eq]
    refine h.bounded_of_near rfl ?_
    dsimp only
    split <;> omega
  case seByte | sneByte | seReg | sneReg | skp | sknp =>
    obtain rfl := Except.ok.inj hd
    rw [skipIf_eq]
    refine h.bounded_of_near rfl ?_
    dsimp only
    split <;> omega
  case load x =>
    obtain rfl := Except.ok.inj hd
    rw [loadRegisters]
    exact h.bounded_of_near rfl (Nat.le_add_right _ 2)
  all_goals
    obtain rfl := Except.ok.inj hd
    exact h.bounded_of_near rfl (Nat.le_add_right _ 2)

end Prepared

/-! ### Steps and histories -/

theorem Bounded.step (h : c.Bounded) : c.step.1.Bounded := by
  rcases c.step_cases with ⟨-, hstep⟩ | ⟨_, -, -, hstep⟩ | ⟨d, inside, hd, hstep⟩
  all_goals rw [hstep]
  · exact ⟨h.pc, h.words⟩
  · exact ⟨h.pc, h.words⟩
  · have after : d.Bounded :=
      (h.fetched inside).execute_bounded (fun _ => Opcode.address?_decode_lt) hd
    exact ⟨after.pc, after.words⟩

end Core

namespace Machine

variable {m : Machine}

theorem bounded_apply (h : m.core.Bounded) (op : Operation) :
    (m.apply op).machine.core.Bounded := by
  cases loads : op.isLoad
  · cases done : (m.apply op).response.executed? with
    | none =>
        rw [apply_core_of_idle loads done]
        exact ⟨h.pc, h.words⟩
    | some i =>
        obtain ⟨rfl, running, -⟩ := (m.executed?_eq_some_iff op i).mp done
        rw [apply_step, step_of_running running]
        exact h.step
  · rcases apply_core_of_load loads with same | ⟨rom, same⟩
    · rwa [same]
    · rw [same]
      exact ⟨Nat.le_of_ble_eq_true rfl, h.words⟩

theorem Reachable.bounded (h : m.Reachable) : m.core.Bounded :=
  Reachable.induction (motive := fun m => m.core.Bounded)
    (fun byte => Core.bounded_initial ⟨byte, 0⟩) (fun _ op hm => bounded_apply hm op) h

end Machine

end Chip8
