import Chip8.Proofs.Memory
import Chip8.Proofs.Operation

/-!
# What an instruction can change

Each part of the core has its own few instructions that can change it. The lemmas here go part by
part over all instructions; together they bound the effect of one step, and by induction on a
history whatever no executed instruction names is as it was at the start.
-/

namespace Chip8

/-- The register that an instruction names as the place of its result. The block load has several
and is told apart. -/
def Instruction.destination? : Instruction → Option (Fin 16)
  | .ldByte x _ | .addByte x _ | .ldReg x _ | .or x _ | .and x _ | .xor x _ => some x
  | .addReg x _ | .sub x _ | .subn x _ | .shr x | .shl x => some x
  | .rnd x _ | .ldVxDt x | .ldVxK x => some x
  | _ => none

/-- Does the instruction report to the flag register? -/
def Kind.setsFlag : Kind → Bool
  | .addReg | .sub | .subn | .shr | .shl | .drw => true
  | _ => false

theorem CallStack.slot_push {s t : CallStack} {word : UInt16} (h : s.push? word = some t)
    {k : Fin 16} (elsewhere : k.val ≠ s.depth) : t.slots.get k = s.slots.get k := by
  simp only [push?] at h
  split at h
  · rename_i room
    obtain rfl := Option.some.inj h
    change (s.slots.set s.depth word room)[k.val] = s.slots[k.val]
    rw [Vector.getElem_set, if_neg elsewhere.symm]
  · cases h

theorem CallStack.slots_pop {s t : CallStack} {word : UInt16} (h : s.pop? = some (word, t)) :
    t.slots = s.slots := by
  simp only [pop?] at h
  split at h
  · cases h
    rfl
  · cases h

/-- The parts of the core that an instruction of a kind cannot change are the same. -/
structure Core.Keeps (kind : Kind) (c d : Core) : Prop where
  keypad : d.keypad = c.keypad
  screen : kind ≠ .cls → kind ≠ .drw → d.screen = c.screen
  memory : kind ≠ .ldB → kind ≠ .store → d.memory = c.memory
  index : kind ≠ .ldI → kind ≠ .addI → kind ≠ .ldF → d.index = c.index
  stack : kind ≠ .call → kind ≠ .ret → d.stack = c.stack
  delay : kind ≠ .ldDtVx → d.delay = c.delay
  sound : kind ≠ .ldStVx → d.sound = c.sound
  waiting : kind ≠ .ldVxK → d.waiting = c.waiting
  random : kind ≠ .rnd → d.random = c.random

namespace Core

variable {c d : Core} {i : Instruction}

theorem execute_keeps (h : c.execute i = .ok d) : Keeps i.kind c d := by
  cases i
  case ret =>
    obtain ⟨_, _, -, rfl⟩ := (c.execute_ret_eq_ok_iff d).mp h
    constructor <;> simp [Instruction.kind]
  case call target =>
    obtain ⟨_, -, rfl⟩ := (c.execute_call_eq_ok_iff d target).mp h
    constructor <;> simp [Instruction.kind]
  all_goals
    simp only [execute, skipIf_eq, awaitKey_eq, Except.ok.injEq] at h
    subst h
    constructor <;> simp [Instruction.kind, setReg, setFlagged, setFlag, drawSprite, loadRegisters]

/-! ### Cells, slots, registers -/

theorem execute_cell (h : c.execute i = .ok d) {a : Nat} (ha : a < 4096)
    (changed : d.memory.load a ≠ c.memory.load a) :
    ∃ k, a = (c.index.toNat + k) % 4096 ∧
      (i.kind = .ldB ∧ k < 3 ∨ ∃ x, i = .store x ∧ k ≤ x.val) := by
  cases i
  case ldB x =>
    obtain rfl := Except.ok.inj h
    obtain ⟨k, hk, same⟩ := Ram.exists_of_load_setBlock_ne changed
    refine ⟨k, ?_, .inl ⟨rfl, hk⟩⟩
    change ((c.index.toNat : Int) + k) % 4096 = (a : Int) % 4096 at same
    omega
  case store x =>
    obtain rfl := Except.ok.inj h
    obtain ⟨k, hk, same⟩ := Ram.exists_of_load_setBlock_ne changed
    have short : k < x.val + 1 := by
      simp only [lowRegisters, List.length_take] at hk
      omega
    refine ⟨k, ?_, .inr ⟨x, rfl, by omega⟩⟩
    change ((c.index.toNat : Int) + k) % 4096 = (a : Int) % 4096 at same
    omega
  all_goals
    refine absurd ?_ changed
    rw [(execute_keeps h).memory (by simp [Instruction.kind]) (by simp [Instruction.kind])]

theorem execute_slot (h : c.execute i = .ok d) {s : Fin 16}
    (changed : d.stack.slots.get s ≠ c.stack.slots.get s) :
    i.kind = .call ∧ s.val = c.stack.depth := by
  cases i
  case call target =>
    obtain ⟨stack, hpush, rfl⟩ := (c.execute_call_eq_ok_iff d target).mp h
    refine ⟨rfl, Classical.byContradiction fun elsewhere => changed ?_⟩
    exact CallStack.slot_push hpush elsewhere
  case ret =>
    obtain ⟨_, stack, hpop, rfl⟩ := (c.execute_ret_eq_ok_iff d).mp h
    refine absurd ?_ changed
    rw [CallStack.slots_pop hpop]
  all_goals
    refine absurd ?_ changed
    rw [(execute_keeps h).stack (by simp [Instruction.kind]) (by simp [Instruction.kind])]

theorem reg_loadRegisters (c : Core) (x y : Fin 16) :
    (c.loadRegisters x).reg y
      = if y ≤ x then c.memory.load (c.index.toNat + y.val : Nat) else c.reg y := by
  change (c.loadRegisters x).v[y.val] = _
  simp only [loadRegisters, Vector.getElem_ofFn]

theorem reg_setFlagged (c : Core) (x y : Fin 16) (on : Bool) (result : UInt8) :
    (c.setFlagged x on result).reg y =
      if x = y then result else if flag = y then (if on then 1 else 0) else c.reg y := by
  simp only [setFlagged, setFlag, reg_setReg]

theorem execute_reg_of (h : c.execute i = .ok d) {y : Fin 16} (named : i.destination? ≠ some y)
    (reported : y = flag → i.kind.setsFlag = false) (loaded : ∀ x, i = .load x → ¬ y ≤ x) :
    d.reg y = c.reg y := by
  cases i
  case ret =>
    obtain ⟨_, _, -, rfl⟩ := (c.execute_ret_eq_ok_iff d).mp h
    rfl
  case call target =>
    obtain ⟨_, -, rfl⟩ := (c.execute_call_eq_ok_iff d target).mp h
    rfl
  case load x =>
    obtain rfl := Except.ok.inj h
    rw [reg_loadRegisters, if_neg (loaded x rfl)]
  case ldVxK x =>
    obtain rfl := Except.ok.inj h
    have elsewhere : x ≠ y := fun same => named (congrArg some same)
    unfold awaitKey
    split
    · rw [reg_setReg, if_neg elsewhere]
    · rfl
  case drw x y' rows =>
    obtain rfl := Except.ok.inj h
    have notFlag : flag ≠ y := fun same => by cases reported same.symm
    exact (reg_setReg _ _ _ _).trans (if_neg notFlag)
  case addReg x _ | sub x _ | subn x _ | shr x | shl x =>
    obtain rfl := Except.ok.inj h
    have elsewhere : x ≠ y := fun same => named (congrArg some same)
    have notFlag : flag ≠ y := fun same => by cases reported same.symm
    rw [reg_setFlagged, if_neg elsewhere, if_neg notFlag]
  case ldByte x _ | addByte x _ | ldReg x _ | or x _ | and x _ | xor x _ | rnd x _ | ldVxDt x =>
    obtain rfl := Except.ok.inj h
    have elsewhere : x ≠ y := fun same => named (congrArg some same)
    exact (reg_setReg _ _ _ _).trans (if_neg elsewhere)
  all_goals
    simp only [execute, skipIf_eq, Except.ok.injEq] at h
    subst h
    rfl

theorem execute_random (h : c.execute i = .ok d) :
    d.random = if i.kind = .rnd then c.random.next.2 else c.random := by
  by_cases drawn : i.kind = .rnd
  · cases i
    case rnd x mask =>
      obtain rfl := Except.ok.inj h
      rfl
    all_goals cases drawn
  · rw [if_neg drawn, (execute_keeps h).random drawn]

end Core

/-! ### One step -/

/-- How far a step reaches from one core to the next, given the instruction it carried out. -/
structure Core.Footprint (c d : Core) (executed : Option Instruction) : Prop where
  screen : d.screen ≠ c.screen →
    ∃ i, executed = some i ∧ (i.kind = .cls ∨ i.kind = .drw)
  /-- Only the digits of a byte and a block of registers are stored, from the index register on. -/
  memory : ∀ a, a < 4096 → d.memory.load (a : Nat) ≠ c.memory.load (a : Nat) →
    ∃ i k, executed = some i ∧ a = (c.index.toNat + k) % 4096 ∧
      (i.kind = .ldB ∧ k < 3 ∨ ∃ x, i = .store x ∧ k ≤ x.val)
  index : d.index ≠ c.index →
    ∃ i, executed = some i ∧ (i.kind = .ldI ∨ i.kind = .addI ∨ i.kind = .ldF)
  slot : ∀ s : Fin 16, d.stack.slots.get s ≠ c.stack.slots.get s →
    ∃ i, executed = some i ∧ i.kind = .call ∧ s.val = c.stack.depth
  flag : d.reg Core.flag ≠ c.reg Core.flag →
    ∃ i, executed = some i ∧
      (i.destination? = some Core.flag ∨ i.kind.setsFlag ∨ i = .load Core.flag)
  register : ∀ y, y ≠ Core.flag → d.reg y ≠ c.reg y →
    ∃ i, executed = some i ∧ (i.destination? = some y ∨ ∃ x, i = .load x ∧ y ≤ x)
  random : d.random =
    { c.random with
      drawn := c.random.drawn + if executed.map Instruction.kind = some .rnd then 1 else 0 }
  keypad : d.keypad = c.keypad

namespace Core

theorem footprint_of_execute {c d : Core} {i : Instruction} (h : c.fetched.execute i = .ok d) :
    Footprint c d.tick (some i) where
  screen changed := by
    refine ⟨i, rfl, Classical.byContradiction fun other => changed ?_⟩
    exact (execute_keeps h).screen (other <| .inl ·) (other <| .inr ·)
  memory a ha changed := by
    obtain ⟨k, hk, which⟩ := execute_cell h ha changed
    exact ⟨i, k, rfl, hk, which⟩
  index changed := by
    refine ⟨i, rfl, Classical.byContradiction fun other => changed ?_⟩
    exact (execute_keeps h).index (other <| .inl ·) (other <| .inr <| .inl ·)
      (other <| .inr <| .inr ·)
  slot s changed := ⟨i, rfl, execute_slot h changed⟩
  flag changed := by
    refine ⟨i, rfl, Classical.byContradiction fun other => changed ?_⟩
    refine execute_reg_of h (other <| .inl ·) (fun _ => ?_) fun x hx high => ?_
    · cases reports : i.kind.setsFlag
      · rfl
      · exact absurd (.inr (.inl reports)) other
    · have last : x = Core.flag := Fin.le_antisymm (Fin.le_last x) high
      exact other (.inr (.inr (last ▸ hx)))
  register y hy changed := by
    refine ⟨i, rfl, Classical.byContradiction fun other => changed ?_⟩
    exact execute_reg_of h (other <| .inl ·) (absurd · hy) fun x hx low =>
      other (.inr ⟨x, hx, low⟩)
  random := by
    change d.random = _
    rw [execute_random h]
    by_cases drawn : i.kind = .rnd
    · simp [drawn, fetched, RandomBytes.next]
    · simp [drawn, fetched]
  keypad := (execute_keeps h).keypad

/-- A step that carries out nothing. -/
theorem footprint_of_idle (c : Core) : Footprint c c.awake.tick none where
  screen changed := absurd rfl changed
  memory _ _ changed := absurd rfl changed
  index changed := absurd rfl changed
  slot _ changed := absurd rfl changed
  flag changed := absurd rfl changed
  register _ _ changed := absurd rfl changed
  random := rfl
  keypad := rfl

end Core

namespace Machine

theorem step_footprint {m : Machine} {result : StepResult} (running : m.runState = .running)
    (h : m.step.outcome = .ok result) :
    Core.Footprint m.core m.step.machine.core (result.opcode.map Opcode.decode) := by
  rw [step_of_running running] at h ⊢
  rcases m.core.step_cases with ⟨-, hstep⟩ | ⟨_, -, -, hstep⟩ | ⟨d, -, hd, hstep⟩
  all_goals
    simp only [hstep] at h ⊢
    cases h
  · exact m.core.footprint_of_idle
  · exact Core.footprint_of_execute hd

theorem step_frame {m : Machine} (running : m.runState = .running) :
    m.step.machine = { m with core := m.step.machine.core } := by
  rw [step_of_running running]

/-! ### Histories -/

theorem apply_screen {m : Machine} {op : Operation}
    (h : ∀ i, (m.apply op).response.executed? = some i → i.kind ≠ .cls ∧ i.kind ≠ .drw) :
    (m.apply op).machine.core.screen = m.core.screen := by
  cases loads : op.isLoad
  · cases done : (m.apply op).response.executed? with
    | none => rw [apply_core_of_idle loads done]
    | some i =>
        obtain ⟨d, hd, hm⟩ := apply_of_executed done
        obtain ⟨notClear, notDraw⟩ := h i done
        rw [hm]
        exact (Core.execute_keeps hd).screen notClear notDraw
  · rcases apply_core_of_load loads with same | ⟨rom, same⟩
    all_goals rw [same]

theorem after_screen {m : Machine} {history : List Operation}
    (h : ∀ i ∈ m.executed history, i.kind ≠ .cls ∧ i.kind ≠ .drw) :
    (m.after history).core.screen = m.core.screen := by
  induction history generalizing m with
  | nil => rfl
  | cons op rest ih =>
      have first := apply_screen fun i hi => h i ((m.mem_executed_cons_iff op rest i).mpr (.inl hi))
      rw [after_cons, ih fun i hi => h i ((m.mem_executed_cons_iff op rest i).mpr (.inr hi)), first]

theorem apply_memory {m : Machine} {op : Operation} (notLoad : op.isLoad = false)
    (h : ∀ i, (m.apply op).response.executed? = some i → i.kind ≠ .ldB ∧ i.kind ≠ .store) :
    (m.apply op).machine.core.memory = m.core.memory := by
  cases done : (m.apply op).response.executed? with
  | none => rw [apply_core_of_idle notLoad done]
  | some i =>
      obtain ⟨d, hd, hm⟩ := apply_of_executed done
      obtain ⟨notDigits, notBlock⟩ := h i done
      rw [hm]
      exact (Core.execute_keeps hd).memory notDigits notBlock

theorem apply_memory_congr {m n : Machine} {op : Operation} (loads : op.isLoad = true)
    (same : m.core.memory = n.core.memory) :
    (m.apply op).machine.core.memory = (n.apply op).machine.core.memory := by
  cases op with
  | load name bytes =>
      simp only [apply, load]
      cases Rom.ofBytes name bytes with
      | error e => exact same
      | ok rom => simp only [Except.map, insert, same]
  | insert rom => simp only [apply, insert, same]
  | _ => cases loads

/-- Only the loads of the history matter to memory, whatever else it does. -/
theorem after_memory_congr {m n : Machine} {history : List Operation}
    (h : ∀ i ∈ m.executed history, i.kind ≠ .ldB ∧ i.kind ≠ .store)
    (same : m.core.memory = n.core.memory) :
    (m.after history).core.memory = (n.after (history.filter Operation.isLoad)).core.memory := by
  induction history generalizing m n with
  | nil => exact same
  | cons op rest ih =>
      have first := fun i hi => h i ((m.mem_executed_cons_iff op rest i).mpr (.inl hi))
      have others := fun i hi => h i ((m.mem_executed_cons_iff op rest i).mpr (.inr hi))
      cases loads : op.isLoad
      · rw [List.filter_cons_of_neg (by simp [loads]), after_cons]
        exact ih others ((apply_memory loads first).trans same)
      · rw [List.filter_cons_of_pos loads, after_cons, after_cons]
        exact ih others (apply_memory_congr loads same)

theorem apply_cell_of_load {m : Machine} {op : Operation} (loads : op.isLoad = true) {a : Nat}
    (below : a < Memory.entryPoint) :
    (m.apply op).machine.core.memory.load a = m.core.memory.load a := by
  rcases apply_core_of_load loads with same | ⟨rom, same⟩
  · rw [same]
  · rw [same]
    -- the image ends within memory, so it cannot wrap onto the cells below the entry point
    refine Ram.load_setBlock_of_ne _ _ _ _ fun k hk => ?_
    have fits := rom.fits
    simp only [Memory.programLimit, Memory.entryPoint] at fits below ⊢
    omega

theorem after_cell_of_loads {m : Machine} {history : List Operation}
    (loads : ∀ op ∈ history, op.isLoad = true) {a : Nat} (below : a < Memory.entryPoint) :
    (m.after history).core.memory.load a = m.core.memory.load a := by
  induction history generalizing m with
  | nil => rfl
  | cons op rest ih =>
      rw [after_cons, ih fun later h => loads later (List.mem_cons_of_mem op h),
        apply_cell_of_load (loads op List.mem_cons_self) below]

/-- Every step that does not fault stays within its footprint. So as long as no instruction stores,
memory is what the loads alone make of it, and as it was where none can reach; and as long as none
clears or draws, the screen stays. -/
theorem footprint_of_steps_and_histories :
    (∀ (m : Machine) (result : StepResult), m.runState = .running →
      m.step.outcome = .ok result →
        m.step.machine = { m with core := m.step.machine.core } ∧
          Core.Footprint m.core m.step.machine.core (result.opcode.map Opcode.decode)) ∧
    (∀ (m : Machine) (history : List Operation),
      (∀ i ∈ m.executed history, i.kind ≠ .ldB ∧ i.kind ≠ .store) →
        (m.after history).core.memory
            = (m.after (history.filter Operation.isLoad)).core.memory ∧
          (∀ a : Nat, a < Memory.entryPoint →
            (m.after history).core.memory.load a = m.core.memory.load a) ∧
          ((∀ op ∈ history, op.isLoad = false) →
            (m.after history).core.memory = m.core.memory)) ∧
    (∀ (m : Machine) (history : List Operation),
      (∀ i ∈ m.executed history, i.kind ≠ .cls ∧ i.kind ≠ .drw) →
        (m.after history).core.screen = m.core.screen) := by
  refine ⟨fun m result running h => ⟨step_frame running, step_footprint running h⟩,
    fun m history h => ?_, fun m history h => after_screen h⟩
  have onlyLoads := after_memory_congr (n := m) h rfl
  refine ⟨onlyLoads, fun a below => ?_, fun noLoads => ?_⟩
  · rw [onlyLoads]
    exact after_cell_of_loads (fun op hop => (List.mem_filter.mp hop).2) below
  · have none : history.filter Operation.isLoad = [] :=
      List.filter_eq_nil_iff.mpr fun op hop => by simp [noLoads op hop]
    rw [onlyLoads, none, after_nil]

/-- A program that loads a byte into `VA`, stepped once before a key is pressed. -/
theorem footprint_of_ldByte_first :
    let m := (initial ⟨fun _ => 0, 0⟩).insert ⟨"", [0x6A, 0x07], by decide⟩
    let history : List Operation := [.step, .setKey 3 true]
    m.runState = .running ∧ (∃ result, m.step.outcome = .ok result) ∧
      m.executed history = [.ldByte 0xA 7] ∧
      Core.Footprint m.core m.step.machine.core (some (.ldByte 0xA 7)) ∧
      (m.after history).core.memory = m.core.memory ∧
      (m.after history).core.screen = m.core.screen := by
  intro m history
  have running : m.runState = .running := rfl
  have inside : m.core.pc < Core.memoryEnd := by decide
  have word : m.core.opcode = ⟨0x6A07⟩ := by decide +kernel
  have decoded : m.core.opcode.decode = .ldByte 0xA 7 := by rw [word]; rfl
  have carried : m.executed history = [.ldByte 0xA 7] := by
    have first : (m.apply .step).response.executed? = some (.ldByte 0xA 7) :=
      (m.executed?_eq_some_iff _ _).mpr ⟨rfl, running, inside, decoded, _, rfl⟩
    simp only [executed, history, responses, List.filterMap_cons, first]
    rfl
  have outcome : m.step.outcome = .ok ⟨0x200, some ⟨0x6A07⟩, .executed⟩ := by
    rw [step_of_running running, Core.step_of_ok inside (by rw [decoded]; rfl), word]
    rfl
  obtain ⟨steps, memories, screens⟩ := footprint_of_steps_and_histories
  refine ⟨running, ⟨_, outcome⟩, carried, (steps m _ running outcome).2,
    (memories m history ?_).2.2 ?_, screens m history ?_⟩
  · simp [carried, Instruction.kind]
  · simp [history, Operation.isLoad]
  · simp [carried, Instruction.kind]

end Machine

end Chip8
