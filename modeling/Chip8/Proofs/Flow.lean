import Chip8.Proofs.CallReturn
import Chip8.Proofs.Fetch
import Chip8.Proofs.Keypad
import Chip8.Proofs.Loading
import Chip8.Proofs.Patterns

/-!
# Where a step goes

Most words are followed by the next one. The others are told by their digits: jumps and calls go to
the address they name, a return to the last live word of the call stack, a wait back to itself, and
a skip past the next word if its comparison turns out as wanted. Skips come in pairs that want
opposite outcomes of the same comparison, and a comparison with a key that does not exist has none.

An address that an instruction names lies in memory. So the program counter leaves it only from the
last few cells, by a jump with an offset, or by a return to a word that a call in the last two cells
has pushed; and outside nothing is fetched that could bring it back.
-/

namespace Chip8

/-! ### Comparisons -/

/-- What a skip looks at: a register and a byte, two registers, or the key that a register
numbers. -/
inductive Comparison
  | constant (x : Fin 16) (byte : UInt8)
  | registers (x y : Fin 16)
  | key (x : Fin 16)

namespace Comparison

/-- The word that skips if the comparison has the wanted outcome. -/
def word : Comparison → Bool → Nat
  | .constant x byte, true => 0x3000 + 256 * x.val + byte.toNat
  | .constant x byte, false => 0x4000 + 256 * x.val + byte.toNat
  | .registers x y, true => 0x5000 + 256 * x.val + 16 * y.val
  | .registers x y, false => 0x9000 + 256 * x.val + 16 * y.val
  | .key x, true => 0xE09E + 256 * x.val
  | .key x, false => 0xE0A1 + 256 * x.val

def instruction : Comparison → Bool → Instruction
  | .constant x byte, true => .seByte x byte
  | .constant x byte, false => .sneByte x byte
  | .registers x y, true => .seReg x y
  | .registers x y, false => .sneReg x y
  | .key x, true => .skp x
  | .key x, false => .sknp x

end Comparison

/-- The outcome of a comparison, none if a register numbers a key that does not exist. -/
def Core.outcome? (c : Core) : Comparison → Option Bool
  | .constant x byte => some (c.reg x = byte)
  | .registers x y => some (c.reg x = c.reg y)
  | .key x =>
      if (c.reg x).toNat ≤ 15 then some (c.keypad.isPressed (c.reg x).toNat) else none

theorem Opcode.decode_of_comparison {o : Opcode} {t : Comparison} {wanted : Bool}
    (h : o.word.toNat = t.word wanted) : o.decode = t.instruction wanted := by
  cases t with
  | constant x byte =>
      cases wanted
      · have word : o.word.toNat = 4096 * 4 + 256 * x.val + byte.toNat := h
        obtain ⟨family, register, low⟩ := fields_of_byte word
        simp only [decode, family, register, low, Comparison.instruction]
      · have word : o.word.toNat = 4096 * 3 + 256 * x.val + byte.toNat := h
        obtain ⟨family, register, low⟩ := fields_of_byte word
        simp only [decode, family, register, low, Comparison.instruction]
  | registers x y =>
      cases wanted
      · have word : o.word.toNat = 4096 * 9 + 256 * x.val + 16 * y.val + 0 := h
        obtain ⟨family, first, second, last⟩ := fields_of_digits (by decide) word
        simp only [decode, family, first, second, last, if_true, Comparison.instruction]
      · have word : o.word.toNat = 4096 * 5 + 256 * x.val + 16 * y.val + 0 := h
        obtain ⟨family, first, second, last⟩ := fields_of_digits (by decide) word
        simp only [decode, family, first, second, last, if_true, Comparison.instruction]
  | key x =>
      cases wanted
      · have word : o.word.toNat = 4096 * 0xE + 256 * x.val + (0xA1 : UInt8).toNat := by
          simp only [h, Comparison.word, UInt8.reduceToNat]
          omega
        obtain ⟨family, register, low⟩ := fields_of_byte word
        simp only [decode, family, register, low, Comparison.instruction]
        rfl
      · have word : o.word.toNat = 4096 * 0xE + 256 * x.val + (0x9E : UInt8).toNat := by
          simp only [h, Comparison.word, UInt8.reduceToNat]
          omega
        obtain ⟨family, register, low⟩ := fields_of_byte word
        simp only [decode, family, register, low, if_true, Comparison.instruction]

theorem Keypad.isPressed_of_large (k : Keypad) {index : Nat} (large : 15 < index) :
    k.isPressed index = false :=
  dif_neg (by omega)

theorem Core.execute_comparison (c : Core) (t : Comparison) (wanted : Bool) :
    c.execute (t.instruction wanted) = .ok (c.skipIf (c.outcome? t = some wanted)) := by
  cases t with
  | constant x byte =>
      cases wanted <;> simp [Comparison.instruction, execute, outcome?]
  | registers x y =>
      cases wanted <;> simp [Comparison.instruction, execute, outcome?]
  | key x =>
      have small : c.reg x < 16 ↔ (c.reg x).toNat ≤ 15 := by
        rw [UInt8.lt_iff_toNat_lt]
        exact Nat.lt_succ_iff
      by_cases there : (c.reg x).toNat ≤ 15
      · cases wanted <;> simp [Comparison.instruction, execute, outcome?, small, there]
      · cases wanted
        all_goals
          simp [Comparison.instruction, execute, outcome?, small, there,
            c.keypad.isPressed_of_large (Nat.lt_of_not_le there)]

/-! ### Words that divert -/

/-- The word need not be followed by the next one: it jumps, calls, returns, waits or skips. -/
def Diverts (word : Nat) : Prop :=
  (word / 4096 = 1 ∨ word / 4096 = 2 ∨ word / 4096 = 0xB) ∨ word = 0x00EE ∨
    (∃ x : Fin 16, word = 0xF00A + 256 * x.val) ∨ ∃ t wanted, word = Comparison.word t wanted

/-- The forms of these words. -/
def Kind.diverts : Kind → Bool
  | .jp | .call | .jpV0 | .ret | .ldVxK => true
  | .seByte | .sneByte | .seReg | .sneReg | .skp | .sknp => true
  | _ => false

theorem Opcode.diverts_of_kind {o : Opcode} (h : o.decode.kind.diverts = true) :
    Diverts o.word.toNat := by
  have fits := o.fits_decode
  have low := o.toNat_nn_eq
  have word := o.toNat_word_eq_digits
  cases kind : o.decode.kind
  all_goals
    rw [kind] at h fits
    cases h
  case jp => exact .inl (.inl (fits .family 1 rfl))
  case call => exact .inl (.inr (.inl (fits .family 2 rfl)))
  case jpV0 => exact .inl (.inr (.inr (fits .family 0xB rfl)))
  case ret =>
    rw [fits .family 0 rfl, fits .x 0 rfl, fits .y 0xE rfl, fits .n 0xE rfl] at word
    exact .inr (.inl word)
  case ldVxK =>
    rw [fits .family 0xF rfl, fits .y 0 rfl, fits .n 0xA rfl] at word
    exact .inr (.inr (.inl ⟨o.x, by simp only [word, digit]; omega⟩))
  case seByte =>
    rw [fits .family 3 rfl] at word
    refine .inr (.inr (.inr ⟨.constant o.x o.nn, true, ?_⟩))
    simp only [Comparison.word, low, word, digit]
    omega
  case sneByte =>
    rw [fits .family 4 rfl] at word
    refine .inr (.inr (.inr ⟨.constant o.x o.nn, false, ?_⟩))
    simp only [Comparison.word, low, word, digit]
    omega
  case seReg =>
    rw [fits .family 5 rfl, fits .n 0 rfl] at word
    exact .inr (.inr (.inr ⟨.registers o.x o.y, true, word⟩))
  case sneReg =>
    rw [fits .family 9 rfl, fits .n 0 rfl] at word
    exact .inr (.inr (.inr ⟨.registers o.x o.y, false, word⟩))
  case skp =>
    rw [fits .family 0xE rfl, fits .y 9 rfl, fits .n 0xE rfl] at word
    exact .inr (.inr (.inr ⟨.key o.x, true, by simp only [word, Comparison.word, digit]; omega⟩))
  case sknp =>
    rw [fits .family 0xE rfl, fits .y 0xA rfl, fits .n 1 rfl] at word
    exact .inr (.inr (.inr ⟨.key o.x, false, by simp only [word, Comparison.word, digit]; omega⟩))

/-! ### Where the program counter goes -/

/-- Where a step that carries out a word takes the program counter. -/
structure Core.Goes (c : Core) (word : Nat) (next : UInt16) : Prop where
  jump : word / 4096 = 1 ∨ word / 4096 = 2 → next.toNat = word % 4096
  offset : word / 4096 = 0xB → next.toNat = word % 4096 + (c.reg 0).toNat
  back : word = 0x00EE → ∃ below, c.stack.toList = below ++ [next]
  wait : ∀ x : Fin 16, word = 0xF00A + 256 * x.val →
    (∀ key : Fin 16, c.keypad.isPressed key.val = false) → next = c.pc
  press : ∀ x : Fin 16, word = 0xF00A + 256 * x.val →
    (∃ key : Fin 16, c.keypad.isPressed key.val = true) → next.toNat = c.pc.toNat + 2
  skip : ∀ t wanted, word = Comparison.word t wanted →
    next.toNat = c.pc.toNat + if c.outcome? t = some wanted then 4 else 2
  on : ¬ Diverts word → next.toNat = c.pc.toNat + 2

namespace Core

variable {c d : Core}

theorem execute_pc {i : Instruction} (h : c.execute i = .ok d) (plain : i.kind.diverts = false) :
    d.pc = c.pc := by
  cases i
  case jp | call | jpV0 | ret | ldVxK | seByte | sneByte | seReg | sneReg | skp | sknp =>
    cases plain
  all_goals
    obtain rfl := Except.ok.inj h
    rfl

theorem toNat_pc_add_four (inside : c.pc.toNat < 4096) : (c.pc + 2 + 2).toNat = c.pc.toNat + 4 := by
  rw [toNat_add_two, toNat_pc_add_two inside]
  rw [toNat_pc_add_two inside]
  omega

theorem goes_of_execute (inside : c.pc.toNat < 4096)
    (ok : c.fetched.execute c.opcode.decode = .ok d) : c.Goes c.opcode.word.toNat d.pc where
  jump family := by
    rcases family with family | family
    · have decoded : c.opcode.decode = .jp c.opcode.nnn := by
        simp only [Opcode.decode, Opcode.family, family]
      rw [decoded] at ok
      obtain rfl := Except.ok.inj ok
      exact c.opcode.toNat_nnn
    · have decoded := (c.opcode.decode_eq_call_iff c.opcode.nnn).mpr ⟨family, rfl⟩
      rw [decoded, execute_call_eq_ok_iff] at ok
      obtain ⟨_, -, rfl⟩ := ok
      exact c.opcode.toNat_nnn
  offset family := by
    have decoded : c.opcode.decode = .jpV0 c.opcode.nnn := by
      simp only [Opcode.decode, Opcode.family, family]
    rw [decoded] at ok
    obtain rfl := Except.ok.inj ok
    have address := c.opcode.toNat_nnn
    have below := c.opcode.nnn_lt
    have byte := (c.reg 0).toNat_lt
    change (c.opcode.nnn + (c.reg 0).toUInt16).toNat = _
    rw [UInt16.toNat_add, UInt8.toNat_toUInt16, address]
    omega
  back word := by
    rw [(c.opcode.decode_eq_ret_iff).mpr (UInt16.toNat_inj.mp word), execute_ret_eq_ok_iff] at ok
    obtain ⟨next, below, popped, rfl⟩ := ok
    exact ⟨below.toList, CallStack.toList_pop popped⟩
  wait x word released := by
    rw [Opcode.decode_of_ldVxK word] at ok
    obtain rfl := Except.ok.inj ok
    have none : c.fetched.keypad.firstPressed = none := Keypad.firstPressed_eq_none_iff.mpr released
    simp only [awaitKey, none]
    exact UInt16.add_sub_cancel c.pc 2
  press x word held := by
    rw [Opcode.decode_of_ldVxK word] at ok
    obtain rfl := Except.ok.inj ok
    cases first : c.fetched.keypad.firstPressed with
    | none =>
        obtain ⟨key, held⟩ := held
        have released : c.keypad.isPressed key.val = false :=
          Keypad.firstPressed_eq_none_iff.mp first key
        rw [released] at held
        cases held
    | some key =>
        simp only [awaitKey, first]
        exact toNat_pc_add_two inside
  skip t wanted word := by
    rw [Opcode.decode_of_comparison word, execute_comparison] at ok
    obtain rfl := Except.ok.inj ok
    have same : c.fetched.outcome? t = c.outcome? t := rfl
    simp only [skipIf_eq, same, decide_eq_true_eq]
    split
    · exact toNat_pc_add_four inside
    · exact toNat_pc_add_two inside
  on plain := by
    have straight : c.opcode.decode.kind.diverts = false :=
      Bool.eq_false_iff.mpr fun diverts => plain (Opcode.diverts_of_kind diverts)
    rw [execute_pc ok straight]
    exact toNat_pc_add_two inside

end Core

namespace Machine

variable {m n : Machine} {op : Operation}

theorem Fetches.goes {word : Nat} {result : StepResult} (h : m.Fetches word)
    (ok : m.step.outcome = .ok result) : m.core.Goes word m.step.machine.core.pc := by
  have word := h.toNat_opcode
  subst word
  rw [step_of_running h.running] at ok ⊢
  rcases m.core.step_cases with ⟨out, -⟩ | ⟨_, -, -, hstep⟩ | ⟨d, -, hd, hstep⟩
  · exact absurd h.inside (Nat.not_lt.mpr out)
  · rw [hstep] at ok
    cases ok
  · have goes := Core.goes_of_execute h.inside hd
    rw [hstep]
    exact goes

theorem Fetches.skips {t : Comparison} {wanted : Bool} (h : m.Fetches (t.word wanted)) :
    m.Executes ∧ m.step.machine =
      { m with core := (m.core.fetched.skipIf (m.core.outcome? t = some wanted)).tick } := by
  have skips := m.core.fetched.execute_comparison t wanted
  have prompt : (t.instruction wanted).kind.isPrompt = true := by cases t <;> cases wanted <;> rfl
  exact h.executes (Opcode.decode_of_comparison h.toNat_opcode) skips prompt

/-- A skip that wants one outcome goes on where the one that wants the other skips. -/
theorem skips_of_pair {t : Comparison} (h : m.Fetches (t.word true)) (h' : n.Fetches (t.word false))
    (same : n = m.withMemory n.core.memory) :
    (m.core.outcome? t ≠ none →
      m.step.machine.core.pc.toNat = m.core.pc.toNat + 4 ∧
          n.step.machine.core.pc.toNat = m.core.pc.toNat + 2 ∨
        m.step.machine.core.pc.toNat = m.core.pc.toNat + 2 ∧
          n.step.machine.core.pc.toNat = m.core.pc.toNat + 4) ∧
    (m.core.outcome? t = none →
      m.step.machine.core.pc.toNat = m.core.pc.toNat + 2 ∧
        n.step.machine.core.pc.toNat = m.core.pc.toNat + 2) := by
  have yes := (h.goes h.skips.1).skip t true rfl
  have no := (h'.goes h'.skips.1).skip t false rfl
  have pc : n.core.pc = m.core.pc := by
    rw [same]
    rfl
  have outcome : n.core.outcome? t = m.core.outcome? t := by
    rw [same]
    cases t <;> rfl
  rw [pc, outcome] at no
  constructor
  · intro some
    cases decided : m.core.outcome? t with
    | none => exact absurd decided some
    | some outcome =>
        rw [decided] at yes no
        cases outcome
        · exact .inr ⟨yes, no⟩
        · exact .inl ⟨yes, no⟩
  · intro none
    rw [none] at yes no
    exact ⟨yes, no⟩

/-! ### Out of memory -/

/-- A call at this address in the history pushed this word. -/
def Pushed (m : Machine) (history : List Operation) (address word : UInt16) : Prop :=
  ∃ before later target, history = before ++ .step :: later ∧
    (m.after before).core.pc = address ∧
    ((m.after before).apply .step).response.executed? = some (.call target) ∧
    word.toNat = address.toNat + 2

theorem Pushed.cons {history : List Operation} {address word : UInt16}
    (h : (m.apply op).machine.Pushed history address word) :
    m.Pushed (op :: history) address word := by
  obtain ⟨before, later, target, split, call⟩ := h
  exact ⟨op :: before, later, target, congrArg (op :: ·) split, call⟩

/-- By induction on the history: a live word was live at the start, or it has been pushed. -/
theorem live_or_pushed {m : Machine} {history : List Operation} {word : UInt16}
    (live : word ∈ (m.after history).core.stack.toList) :
    word ∈ m.core.stack.toList ∨ ∃ address, m.Pushed history address word := by
  induction history generalizing m with
  | nil => exact .inl live
  | cons op rest ih =>
      rcases ih live with before | ⟨address, later⟩
      · by_cases call : ∃ target, (m.apply op).response.executed? = some (.call target)
        · obtain ⟨target, call⟩ := call
          rw [toList_of_call call, List.mem_append, List.mem_singleton] at before
          rcases before with below | rfl
          · exact .inl below
          · obtain ⟨rfl, -⟩ := (executed?_eq_some_iff m op _).mp call
            exact .inr ⟨m.core.pc, [], rest, target, rfl, rfl, call, toNat_pc_add_two call⟩
        · by_cases ret : (m.apply op).response.executed? = some .ret
          · rw [toList_of_ret ret]
            exact .inl (List.mem_append_left _ before)
          · rw [toList_of_other (fun target h => call ⟨target, h⟩) ret] at before
            exact .inl before
      · exact .inr ⟨address, later.cons⟩

/-- Only two calls push a word that lies past memory. -/
theorem Pushed.address_of_out {history : List Operation} {address word : UInt16}
    (h : m.Pushed history address word) (out : 4096 ≤ word.toNat) :
    address = 0xFFE ∨ address = 0xFFF := by
  obtain ⟨before, -, target, -, rfl, call, next⟩ := h
  obtain ⟨-, -, inside, -⟩ := (executed?_eq_some_iff _ _ _).mp call
  have inside : (m.after before).core.pc.toNat < 4096 := inside
  simp only [← UInt16.toNat_inj]
  change _ = 4094 ∨ _ = 4095
  omega

/-- How the program counter leaves memory after a history. -/
inductive Leaves (start : Machine) (history : List Operation) (next : UInt16) : Prop
  /-- The next word lies past the last cell. -/
  | falls (past : next.toNat = (start.after history).core.pc.toNat + 2)
  /-- The word after the next one does, and a skip goes there. -/
  | skips (t : Comparison) (wanted : Bool) (word : (start.after history).Fetches (t.word wanted))
    (past : next.toNat = (start.after history).core.pc.toNat + 4)
  /-- A register is added to an address. -/
  | jumps (word : Nat) (fetched : (start.after history).Fetches word) (offset : word / 4096 = 0xB)
  /-- A call in the last two cells is returned from. -/
  | returns (word : (start.after history).Fetches 0x00EE) (address : UInt16)
    (last : address = 0xFFE ∨ address = 0xFFF) (pushed : start.Pushed history address next)

theorem pc_of_ne_step (notStep : op ≠ .step) :
    (m.apply op).machine.core.pc = m.core.pc ∨
      (m.apply op).machine.core.pc = UInt16.ofNat Memory.entryPoint := by
  cases loads : op.accepted? with
  | none => exact .inl (by rw [(apply_of_not_accepted notStep loads).1])
  | some rom => exact .inr (by rw [apply_of_accepted loads]; rfl)

/-- Only a step that carries out a word takes the program counter out of memory. -/
theorem fetches_of_leaving (inside : m.core.pc.toNat < 4096)
    (out : 4096 ≤ (m.apply op).machine.core.pc.toNat) :
    op = .step ∧ ∃ result, m.Fetches m.core.opcode.word.toNat ∧ m.step.outcome = .ok result := by
  by_cases step : op = .step
  · subst step
    refine ⟨rfl, ?_⟩
    by_cases running : m.runState = .running
    · have fetched := fetches_opcode running inside
      cases ended : m.step.outcome with
      | ok result => exact ⟨result, fetched, rfl⟩
      | error fault =>
          rw [apply_step, step_machine_of_fault running ended] at out
          exact absurd inside (Nat.not_lt.mpr out)
    · rw [apply_step, step_of_resting running] at out
      exact absurd inside (Nat.not_lt.mpr out)
  · rcases pc_of_ne_step (m := m) step with same | entry
    · rw [same] at out
      exact absurd inside (Nat.not_lt.mpr out)
    · rw [entry] at out
      exact absurd out (by decide)

theorem leaves_of_step {start : Machine} {history : List Operation}
    (empty : start.core.stack.toList = [])
    (inside : (start.after history).core.pc.toNat < 4096)
    (out : 4096 ≤ ((start.after history).apply op).machine.core.pc.toNat) :
    op = .step ∧ (start.after history).runState = .running ∧
      start.Leaves history ((start.after history).apply op).machine.core.pc := by
  obtain ⟨rfl, result, fetched, ok⟩ := fetches_of_leaving inside out
  refine ⟨rfl, fetched.running, ?_⟩
  have goes := fetched.goes ok
  simp only [apply_step] at out ⊢
  by_cases diverts : Diverts (start.after history).core.opcode.word.toNat
  · rcases diverts with (family | family | family) | word | ⟨x, word⟩ | ⟨t, wanted, word⟩
    · have next := goes.jump (.inl family)
      omega
    · have next := goes.jump (.inr family)
      omega
    · exact .jumps _ fetched family
    · obtain ⟨below, live⟩ := goes.back word
      have member := live ▸ List.mem_append_right below List.mem_cons_self
      rcases live_or_pushed member with initially | ⟨address, pushed⟩
      · rw [empty] at initially
        cases initially
      · exact .returns (word ▸ fetched) address (pushed.address_of_out out) pushed
    · by_cases released :
        ∀ key : Fin 16, (start.after history).core.keypad.isPressed key.val = false
      · rw [goes.wait x word released] at out
        omega
      · refine .falls (goes.press x word ?_)
        simpa using released
    · have next := goes.skip t wanted word
      split at next
      · exact .skips t wanted (word ▸ fetched) next
      · exact .falls next
  · exact .falls (goes.on diverts)

theorem step_of_out (running : m.runState = .running) (out : 4096 ≤ m.core.pc.toNat) :
    m.step.outcome = .ok ⟨m.core.pc, none, .halted⟩ ∧
      m.step.machine = { m with core := m.core.awake.tick } := by
  rw [step_of_running running, Core.step_of_halted out]
  exact ⟨rfl, rfl⟩

/-- By induction on the history: nothing but a load brings the program counter back. -/
theorem pc_after_out {m : Machine} {history : List Operation} (out : 4096 ≤ m.core.pc.toNat)
    (noLoad : ∀ op ∈ history, op.accepted? = none) :
    (m.after history).core.pc = m.core.pc := by
  induction history generalizing m with
  | nil => rfl
  | cons op rest ih =>
      have same : (m.apply op).machine.core.pc = m.core.pc := by
        by_cases step : op = .step
        · subst step
          by_cases running : m.runState = .running
          · rw [apply_step, (step_of_out running out).2]
            rfl
          · rw [apply_step, step_of_resting running]
        · rw [(apply_of_not_accepted step (noLoad op List.mem_cons_self)).1]
      rw [after_cons, ih (same ▸ out) fun later h => noLoad later (List.mem_cons_of_mem op h), same]

/-- A step that does not fault goes where the word it carries out says, and a skip does nothing
else. The two skips of a pair go on at different words, unless their comparison is with a key that
does not exist. From power on, the program counter leaves memory only past its last cells, by a jump
with an offset, or by a return to a word that a call in the last two cells has pushed. Once it has
left, no step fetches anything, and it stays where it is until a program is loaded. -/
theorem control_flow :
    (∀ (m : Machine) (word : Nat) (result : StepResult), m.Fetches word →
      m.step.outcome = .ok result → m.core.Goes word m.step.machine.core.pc) ∧
    (∀ (m : Machine) (t : Comparison) (wanted : Bool), m.Fetches (t.word wanted) →
      m.Executes ∧ m.step.machine =
        { m with core :=
          { m.core with
            pc := m.step.machine.core.pc
            waiting := false
            delay := Core.countDown m.core.delay
            sound := Core.countDown m.core.sound } }) ∧
    (∀ (m n : Machine) (t : Comparison), m.Fetches (t.word true) → n.Fetches (t.word false) →
      n = m.withMemory n.core.memory →
        let address := m.core.pc.toNat
        let yes := m.step.machine.core.pc.toNat
        let no := n.step.machine.core.pc.toNat
        ((∀ x, t = .key x → (m.core.reg x).toNat ≤ 15) →
          yes = address + 4 ∧ no = address + 2 ∨ yes = address + 2 ∧ no = address + 4) ∧
        (∀ x, t = .key x → 15 < (m.core.reg x).toNat →
          yes = address + 2 ∧ no = address + 2)) ∧
    (∀ (byte : Nat → UInt8) (history : List Operation) (op : Operation),
      let start := initial ⟨byte, 0⟩
      let m := start.after history
      let next := (m.apply op).machine.core.pc
      m.core.pc.toNat < 4096 → 4096 ≤ next.toNat →
        op = .step ∧ m.runState = .running ∧ start.Leaves history next) ∧
    (∀ (m : Machine) (history : List Operation), 4096 ≤ m.core.pc.toNat →
      (∀ op ∈ history, op.accepted? = none) →
        let n := m.after history
        n.core.pc = m.core.pc ∧
        (n.runState = .running →
          n.step.outcome = .ok ⟨n.core.pc, none, .halted⟩ ∧
          n.step.machine =
            { n with core :=
              { n.core with
                waiting := false
                delay := Core.countDown n.core.delay
                sound := Core.countDown n.core.sound } })) := by
  refine ⟨fun m word result h => h.goes, fun m t wanted h => ?_, fun m n t h h' same => ⟨?_, ?_⟩,
    fun byte history op inside out => ?_, fun m history out noLoad => ?_⟩
  · obtain ⟨executes, machine⟩ := h.skips
    refine ⟨executes, ?_⟩
    rw [machine, Core.skipIf_eq]
    rfl
  · intro small
    refine (skips_of_pair h h' same).1 ?_
    cases t with
    | key x => simp [Core.outcome?, small x rfl]
    | _ => simp [Core.outcome?]
  · rintro x rfl large
    refine (skips_of_pair h h' same).2 ?_
    simp only [Core.outcome?, Nat.not_le.mpr large, if_false]
  · exact leaves_of_step CallStack.toList_empty inside out
  · have stays := pc_after_out out noLoad
    exact ⟨stays, fun running => step_of_out running (stays ▸ out)⟩

/-- A program that puts one into `V0` and jumps from there to the word past the last cell. With a
skip in its place, which of two words comes next depends on whether the skip wants `V0` to be
zero. -/
theorem control_flow_of_jump_out :
    let rom : Rom := ⟨"", [0x60, 0x01, 0xBF, 0xFF], (by decide : 4 ≤ 3584)⟩
    let m := (initial ⟨fun _ => 0, 0⟩).after [.insert rom, .step]
    let gone := (m.apply .step).machine
    let skip : UInt8 → Machine := fun first =>
      (initial ⟨fun _ => 0, 0⟩).withMemory (Memory.initial.setBlock 0x200 [first, 0x00])
    (m.Fetches 0xBFFF ∧ m.Executes ∧ gone.core.pc.toNat = 0xFFF + 1 ∧
      (initial ⟨fun _ => 0, 0⟩).Leaves [.insert rom, .step] gone.core.pc) ∧
    (gone.runState = .running ∧ (gone.after [.step, .setKey 3 true]).core.pc = gone.core.pc ∧
      gone.step.outcome = .ok ⟨gone.core.pc, none, .halted⟩) ∧
    ((skip 0x30).Fetches 0x3000 ∧ (skip 0x40).Fetches 0x4000 ∧ (skip 0x30).Executes ∧
      (skip 0x30).step.machine.core.pc.toNat ≠ (skip 0x40).step.machine.core.pc.toNat) := by
  intro rom m gone skip
  obtain ⟨goes, skips, pairs, leaves, stays⟩ := control_flow
  have word : m.Fetches 0xBFFF :=
    ⟨by decide +kernel, by decide +kernel, by decide +kernel⟩
  have decoded : m.core.opcode.decode = .jpV0 0xFFF := by decide +kernel
  obtain ⟨executes, -⟩ := word.executes decoded rfl rfl
  have offset : m.core.reg 0 = 1 := by decide +kernel
  have next : gone.core.pc.toNat = 0xFFF + 1 := by
    have jumped := (goes m 0xBFFF _ word executes).offset rfl
    rwa [offset] at jumped
  have out : 4096 ≤ gone.core.pc.toNat := next ▸ Nat.le_refl 4096
  have running : gone.runState = .running := (runState_step m).trans word.running
  -- with the machine as a variable its steps are not computed when the statements are compared
  have leaving (n : Machine) (reached : n = (initial ⟨fun _ => 0, 0⟩).after [.insert rom, .step])
      (inside : n.core.pc.toNat < 4096) (out : 4096 ≤ (n.apply .step).machine.core.pc.toNat) :
      (initial ⟨fun _ => 0, 0⟩).Leaves [.insert rom, .step] (n.apply .step).machine.core.pc := by
    subst reached
    exact (leaves (fun _ => 0) [.insert rom, .step] .step inside out).2.2
  have yes : (skip 0x30).Fetches 0x3000 := ⟨rfl, by decide, by decide +kernel⟩
  have no : (skip 0x40).Fetches 0x4000 := ⟨rfl, by decide, by decide +kernel⟩
  have same : skip 0x40 = (skip 0x30).withMemory (skip 0x40).core.memory :=
    (withMemory_withMemory _ _ _).symm
  have apart := (pairs _ _ (.constant 0 0) yes no same).1 (by simp)
  refine ⟨⟨word, executes, next, leaving m rfl word.inside out⟩,
    ⟨running, (stays gone [.step, .setKey 3 true] out ?_).1, ?_⟩, yes, no,
    (skips _ (.constant 0 0) true yes).1, by omega⟩
  · simp [Operation.accepted?]
  · exact ((stays gone [] out (by simp)).2 running).1

end Machine

end Chip8
