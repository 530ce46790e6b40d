import Chip8.Proofs.Footprint

/-!
# Calls and returns

The live slots of the call stack are a list that only two instructions touch: a call appends the
address of the word after it, a return takes the last address off and goes there. So the first time
that the depth is back where it was before a call, it is a return that brought it back, to the word
after that call. The other slots are dead. Whatever words they hold, no operation can tell.
-/

namespace Chip8

/-! ### Stacks with the same live words -/

namespace CallStack

variable {s t : CallStack}

theorem depth_eq_of_toList_eq (same : s.toList = t.toList) : s.depth = t.depth := by
  rw [← s.length_toList, ← t.length_toList, same]

theorem push?_congr {t' : CallStack} {word : UInt16} (same : s.toList = t.toList)
    (h : t.push? word = some t') : ∃ s', s.push? word = some s' ∧ s'.toList = t'.toList := by
  have depth := depth_eq_of_toList_eq same
  cases hs : s.push? word with
  | none =>
      rw [push?_eq_none_iff, depth] at hs
      rw [(t.push?_eq_none_iff word).mpr hs] at h
      cases h
  | some s' => exact ⟨s', rfl, by rw [toList_push hs, toList_push h, same]⟩

theorem pop?_congr {t' : CallStack} {word : UInt16} (same : s.toList = t.toList)
    (h : t.pop? = some (word, t')) :
    ∃ s', s.pop? = some (word, s') ∧ s'.toList = t'.toList := by
  have depth := depth_eq_of_toList_eq same
  cases hs : s.pop? with
  | none =>
      rw [pop?_eq_none_iff, depth] at hs
      rw [t.pop?_eq_none_iff.mpr hs] at h
      cases h
  | some popped =>
      obtain ⟨word', s'⟩ := popped
      have ends : s'.toList ++ [word'] = t'.toList ++ [word] := by
        rw [← toList_pop hs, ← toList_pop h, same]
      obtain ⟨live, last⟩ := List.append_inj' ends rfl
      cases last
      exact ⟨s', rfl, live⟩

end CallStack

/-! ### The live words under one operation -/

namespace Machine

variable {m : Machine} {op : Operation}

theorem toList_of_call {target : UInt16}
    (h : (m.apply op).response.executed? = some (.call target)) :
    (m.apply op).machine.core.stack.toList = m.core.stack.toList ++ [m.core.pc + 2] := by
  obtain ⟨d, hd, hm⟩ := apply_of_executed h
  obtain ⟨stack, hpush, rfl⟩ := (m.core.fetched.execute_call_eq_ok_iff d target).mp hd
  rw [hm]
  exact CallStack.toList_push hpush

theorem toNat_pc_add_two {i : Instruction} (h : (m.apply op).response.executed? = some i) :
    (m.core.pc + 2).toNat = m.core.pc.toNat + 2 := by
  obtain ⟨-, -, inside, -, -⟩ := (m.executed?_eq_some_iff op i).mp h
  exact Core.toNat_pc_add_two inside

theorem toList_of_ret (h : (m.apply op).response.executed? = some .ret) :
    m.core.stack.toList
      = (m.apply op).machine.core.stack.toList ++ [(m.apply op).machine.core.pc] := by
  obtain ⟨d, hd, hm⟩ := apply_of_executed h
  obtain ⟨word, stack, hpop, rfl⟩ := (m.core.fetched.execute_ret_eq_ok_iff d).mp hd
  rw [hm]
  exact CallStack.toList_pop hpop

theorem toList_of_other (notCall : ∀ target, (m.apply op).response.executed? ≠ some (.call target))
    (notRet : (m.apply op).response.executed? ≠ some .ret) :
    (m.apply op).machine.core.stack.toList = m.core.stack.toList := by
  cases loads : op.isLoad
  · cases done : (m.apply op).response.executed? with
    | none => rw [apply_core_of_idle loads done]
    | some i =>
        obtain ⟨d, hd, hm⟩ := apply_of_executed done
        rw [done] at notCall notRet
        have same : d.stack = m.core.fetched.stack := (Core.execute_keeps hd).stack
          (fun kind => by cases i <;> cases kind; exact notCall _ rfl)
          (fun kind => by cases i <;> cases kind; exact notRet rfl)
        rw [hm]
        exact congrArg CallStack.toList same
  · rcases apply_core_of_load loads with same | ⟨rom, same⟩
    all_goals rw [same]

/-- An operation that is neither a call nor a return, or one of the two. -/
theorem toList_cases (m : Machine) (op : Operation) :
    (m.apply op).machine.core.stack.toList = m.core.stack.toList ∨
    (∃ word, (m.apply op).machine.core.stack.toList = m.core.stack.toList ++ [word]) ∨
    ((m.apply op).response.executed? = some .ret ∧
      m.core.stack.toList
        = (m.apply op).machine.core.stack.toList ++ [(m.apply op).machine.core.pc]) := by
  by_cases call : ∃ target, (m.apply op).response.executed? = some (.call target)
  · obtain ⟨target, call⟩ := call
    exact .inr (.inl ⟨_, toList_of_call call⟩)
  · by_cases ret : (m.apply op).response.executed? = some .ret
    · exact .inr (.inr ⟨ret, toList_of_ret ret⟩)
    · exact .inl (toList_of_other (fun target h => call ⟨target, h⟩) ret)

/-! ### The matching return -/

/-- While the depth does not fall to that of `base`, the words above it stay on the stack; the
operation that brings the depth back returns to the lowest of them. -/
theorem first_return {m : Machine} {later : List Operation} {op : Operation}
    {base rest : List UInt16} {word : UInt16} (shape : m.core.stack.toList = base ++ word :: rest)
    (above : ∀ first, first <+: later → (m.after first).core.stack.depth ≠ base.length)
    (back : ((m.after later).apply op).machine.core.stack.depth = base.length) :
    ((m.after later).apply op).response.executed? = some .ret ∧
      ((m.after later).apply op).machine.core.pc = word ∧
      ((m.after later).apply op).machine.core.stack.toList = base := by
  induction later generalizing m rest with
  | nil =>
      rw [after_nil] at back ⊢
      rw [← CallStack.length_toList] at back
      rcases m.toList_cases op with same | ⟨pushed, same⟩ | ⟨ret, same⟩
      · rw [same, shape] at back
        simp at back
      · rw [same, shape] at back
        simp at back
      · rw [shape] at same
        obtain ⟨bottom, top⟩ := List.append_inj same back.symm
        cases top
        exact ⟨ret, rfl, bottom.symm⟩
  | cons next later ih =>
      have above' : ∀ first, first <+: later →
          ((m.apply next).machine.after first).core.stack.depth ≠ base.length :=
        fun first h => above (next :: first) ((List.prefix_cons_inj next).mpr h)
      rw [after_cons] at back ⊢
      rcases m.toList_cases next with same | ⟨pushed, same⟩ | ⟨-, same⟩
      · exact ih (same.trans shape) above' back
      · rw [shape, List.append_assoc, List.cons_append] at same
        exact ih same above' back
      · rw [shape] at same
        rcases List.eq_nil_or_concat rest with rfl | ⟨rest', last, rfl⟩
        · obtain ⟨bottom, -⟩ := List.append_inj' same rfl
          refine absurd ?_ (above' [] List.nil_prefix)
          rw [after_nil, ← CallStack.length_toList, bottom]
        · have split : base ++ word :: rest'.concat last = (base ++ word :: rest') ++ [last] := by
            simp
          rw [split] at same
          obtain ⟨bottom, -⟩ := List.append_inj' same rfl
          exact ih bottom.symm above' back

theorem return_of_call {m : Machine} {target : UInt16} {later : List Operation} {op : Operation}
    (h : (m.apply .step).response.executed? = some (.call target))
    (above : ∀ first, first <+: later →
      ((m.apply .step).machine.after first).core.stack.depth ≠ m.core.stack.depth)
    (back : (((m.apply .step).machine.after later).apply op).machine.core.stack.depth
      = m.core.stack.depth) :
    op = .step ∧
      (((m.apply .step).machine.after later).apply op).response.executed? = some .ret ∧
      (((m.apply .step).machine.after later).apply op).machine.core.pc.toNat
        = m.core.pc.toNat + 2 ∧
      (((m.apply .step).machine.after later).apply op).machine.core.stack.toList
        = m.core.stack.toList := by
  rw [← m.core.stack.length_toList] at above back
  obtain ⟨ret, word, base⟩ := first_return (toList_of_call h) above back
  obtain ⟨isStep, -⟩ := (executed?_eq_some_iff _ op _).mp ret
  exact ⟨isStep, ret, by rw [word, toNat_pc_add_two h], base⟩

end Machine

/-! ### Dead slots -/

/-- The core with other slots. -/
def Core.withStack (c : Core) (s : CallStack) : Core := { c with stack := s }

def Machine.withStack (m : Machine) (s : CallStack) : Machine :=
  { m with core := m.core.withStack s }

namespace Core

variable {c d : Core} {s : CallStack}

theorem execute_withStack_ok {i : Instruction} (same : s.toList = c.stack.toList)
    (h : c.execute i = .ok d) :
    ∃ t, (c.withStack s).execute i = .ok (d.withStack t) ∧ t.toList = d.stack.toList := by
  cases i
  case ret =>
    obtain ⟨word, stack, hpop, rfl⟩ := (c.execute_ret_eq_ok_iff d).mp h
    obtain ⟨t, ht, live⟩ := CallStack.pop?_congr same hpop
    exact ⟨t, ((c.withStack s).execute_ret_eq_ok_iff _).mpr ⟨word, t, ht, rfl⟩, live⟩
  case call target =>
    obtain ⟨stack, hpush, rfl⟩ := (c.execute_call_eq_ok_iff d target).mp h
    obtain ⟨t, ht, live⟩ := CallStack.push?_congr same hpush
    exact ⟨t, ((c.withStack s).execute_call_eq_ok_iff _ target).mpr ⟨t, ht, rfl⟩, live⟩
  all_goals
    simp only [execute, skipIf_eq, awaitKey_eq, loadRegisters, Except.ok.injEq] at h ⊢
    subst h
    exact ⟨s, rfl, same⟩

theorem execute_withStack_error {i : Instruction} {reason : FaultReason}
    (same : s.toList = c.stack.toList) (h : c.execute i = .error reason) :
    (c.withStack s).execute i = .error reason := by
  rw [execute_eq_error_iff] at h ⊢
  have depth : (c.withStack s).stack.depth = c.stack.depth := CallStack.depth_eq_of_toList_eq same
  rwa [depth]

theorem step_withStack (same : s.toList = c.stack.toList) :
    ∃ t, (c.withStack s).step = (c.step.1.withStack t, c.step.2) ∧
      t.toList = c.step.1.stack.toList := by
  rcases c.step_cases with ⟨out, hstep⟩ | ⟨reason, inside, herror, hstep⟩ | ⟨d, inside, hok, hstep⟩
  · rw [hstep]
    exact ⟨s, step_of_halted (c := c.withStack s) out, same⟩
  · rw [hstep]
    have herror' : (c.fetched.withStack s).execute c.opcode.decode = .error reason :=
      execute_withStack_error same herror
    exact ⟨s, step_of_error (c := c.withStack s) inside herror', same⟩
  · rw [hstep]
    obtain ⟨t, hok', live⟩ : ∃ t,
        (c.fetched.withStack s).execute c.opcode.decode = .ok (d.withStack t) ∧
          t.toList = d.stack.toList := execute_withStack_ok same hok
    exact ⟨t, step_of_ok (c := c.withStack s) inside hok', live⟩

end Core

namespace Machine

variable {m : Machine} {s : CallStack}

theorem apply_withStack (same : s.toList = m.core.stack.toList) (op : Operation) :
    ∃ t, (m.withStack s).apply op
        = { m.apply op with machine := (m.apply op).machine.withStack t } ∧
      t.toList = (m.apply op).machine.core.stack.toList := by
  cases op with
  | step =>
      by_cases running : m.runState = .running
      · obtain ⟨t, ht, live⟩ := Core.step_withStack same
        rw [apply_step, apply_step, step_of_running running,
          step_of_running (m := m.withStack s) running]
        refine ⟨t, ?_, live⟩
        change (⟨{ m with core := (m.core.withStack s).step.1 },
          .stepped (m.core.withStack s).step.2, _⟩ : Applied) = _
        simp only [withStack, ht]
      · rw [apply_step, apply_step, step_of_resting running,
          step_of_resting (m := m.withStack s) running]
        exact ⟨s, rfl, same⟩
  | load name bytes =>
      refine ⟨s, ?_, ?_⟩
      all_goals
        simp only [apply, load]
        cases Rom.ofBytes name bytes
      · rfl
      · rfl
      · exact same
      · exact same
  | togglePause =>
      simp only [apply, togglePause_eq]
      exact ⟨s, rfl, same⟩
  | _ => exact ⟨s, rfl, same⟩

theorem history_withStack (same : s.toList = m.core.stack.toList) (history : List Operation) :
    (m.withStack s).responses history = m.responses history ∧
      (m.withStack s).lines history = m.lines history ∧
      ∃ t, (m.withStack s).after history = (m.after history).withStack t ∧
        t.toList = (m.after history).core.stack.toList := by
  induction history generalizing m s with
  | nil => exact ⟨rfl, rfl, s, rfl, same⟩
  | cons op rest ih =>
      obtain ⟨t, ht, live⟩ := apply_withStack same op
      obtain ⟨answers, traced, t', after, live'⟩ := ih live
      refine ⟨?_, ?_, t', ?_, live'⟩
      · rw [responses, responses, ht, answers]
      · rw [lines, lines, ht, traced]
      · rw [after_cons, ht, after, after_cons]

/-- The call stack is a bounded list with the latest call last. A call appends the address after
it, a return takes the last address off and goes there, and nothing else touches the list; hence a
call is matched by the return that first brings its depth back, whatever happens in between. Words
in slots that are not live decide nothing and stay in such slots. -/
theorem call_stack_lifo :
    (∀ (m : Machine) (op : Operation),
      (∀ target, (m.apply op).response.executed? = some (.call target) →
        (m.apply op).machine.core.stack.toList = m.core.stack.toList ++ [m.core.pc + 2] ∧
          (m.core.pc + 2).toNat = m.core.pc.toNat + 2) ∧
      ((m.apply op).response.executed? = some .ret →
        m.core.stack.toList
          = (m.apply op).machine.core.stack.toList ++ [(m.apply op).machine.core.pc]) ∧
      ((∀ target, (m.apply op).response.executed? ≠ some (.call target)) →
        (m.apply op).response.executed? ≠ some .ret →
          (m.apply op).machine.core.stack.toList = m.core.stack.toList)) ∧
    (∀ (m : Machine) (target : UInt16) (later : List Operation) (op : Operation),
      (m.apply .step).response.executed? = some (.call target) →
      let called := (m.apply .step).machine
      let last := (called.after later).apply op
      (∀ first, first <+: later →
        (called.after first).core.stack.depth ≠ m.core.stack.depth) →
      last.machine.core.stack.depth = m.core.stack.depth →
        op = .step ∧ last.response.executed? = some .ret ∧
          last.machine.core.pc.toNat = m.core.pc.toNat + 2 ∧
          last.machine.core.stack.toList = m.core.stack.toList) ∧
    (∀ (m : Machine) (s : CallStack) (history : List Operation),
      s.toList = m.core.stack.toList →
        (m.withStack s).responses history = m.responses history ∧
          (m.withStack s).lines history = m.lines history ∧
          ∃ t, (m.withStack s).after history = (m.after history).withStack t ∧
            t.toList = (m.after history).core.stack.toList) := by
  refine ⟨fun m op => ⟨?_, toList_of_ret, toList_of_other⟩, ?_, ?_⟩
  · exact fun target h => ⟨toList_of_call h, toNat_pc_add_two h⟩
  · exact fun m target later op h => return_of_call h
  · exact fun m s history same => history_withStack same history

/-- A program that calls the word at `0x204`, which returns; a key is pressed in between. Before the
call all slots are dead, and other words in them change no answer. -/
theorem call_stack_lifo_of_one_call :
    let m := (initial ⟨fun _ => 0, 0⟩).insert
      ⟨"", [0x22, 0x04, 0x00, 0x00, 0x00, 0xEE], by decide⟩
    let called := (m.apply .step).machine
    let last := (called.after [.setKey 5 true]).apply .step
    let history : List Operation := [.step, .setKey 5 true, .step]
    let s : CallStack := ⟨Vector.replicate 16 0xFFFF, 0, by decide⟩
    (m.apply .step).response.executed? = some (.call 0x204) ∧
      called.core.stack.depth = 1 ∧ last.machine.core.stack.depth = 0 ∧
      last.machine.core.pc.toNat = m.core.pc.toNat + 2 ∧
      last.machine.core.stack.toList = m.core.stack.toList ∧
      s.toList = m.core.stack.toList ∧
      (m.withStack s).responses history = m.responses history := by
  intro m called last history s
  have word : m.core.opcode = ⟨0x2204⟩ := by decide +kernel
  have decoded : m.core.opcode.decode = .call 0x204 := by rw [word]; rfl
  have first : (m.apply .step).response.executed? = some (.call 0x204) :=
    (m.executed?_eq_some_iff _ _).mpr ⟨rfl, rfl, by decide, decoded, _, rfl⟩
  have deep : called.core.stack.depth = 1 := by
    rw [← CallStack.length_toList, toList_of_call first]
    rfl
  have back : last.machine.core.stack.depth = 0 := by decide +kernel
  have above : ∀ first, first <+: [.setKey 5 true] →
      (called.after first).core.stack.depth ≠ m.core.stack.depth := by
    intro first within
    rcases List.prefix_cons_iff.mp within with rfl | ⟨_, rfl, none⟩
    · exact fun same => absurd (deep.symm.trans same) (by decide)
    · obtain rfl := List.prefix_nil.mp none
      exact fun same => absurd (deep.symm.trans same) (by decide)
  have dead : s.toList = m.core.stack.toList := rfl
  obtain ⟨-, matched, unread⟩ := call_stack_lifo
  obtain ⟨-, -, pc, live⟩ := matched m _ _ _ first above back
  exact ⟨first, deep, back, pc, live, dead, (unread m s history dead).1⟩

end Machine

end Chip8
