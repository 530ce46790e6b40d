import Chip8.Proofs.Wide.Drawing

/-!
# Instructions without widths

Every instruction that can be carried out runs from the core it finds to the core it leaves; one
that cannot raises its fault and leaves the core as it found it. Bytes agree with integers because
each rule that can leave the range of a byte cuts its result. The program counter is cut nowhere,
and here the bounds of the core are used: after a fetch within memory neither a skip, nor a wait,
nor a jump with a register leaves the range of a word.
-/

namespace Chip8

/-! ### Bytes as integers -/

namespace Wide

theorem lor_toNat (a b : UInt8) : Int.lor a.toNat b.toNat % 256 = (a ||| b).toNat := by
  change ((a.toNat ||| b.toNat : Nat) : Int) % 256 = _
  rw [← UInt8.toNat_or, toNat_emod]

theorem land_toNat (a b : UInt8) : Int.land a.toNat b.toNat = (a &&& b).toNat := by
  rw [UInt8.toNat_and]
  rfl

theorem xor_toNat (a b : UInt8) : Int.xor a.toNat b.toNat % 256 = (a ^^^ b).toNat := by
  change ((a.toNat ^^^ b.toNat : Nat) : Int) % 256 = _
  rw [← UInt8.toNat_xor, toNat_emod]

theorem add_toNat (a b : UInt8) : ((a.toNat : Int) + b.toNat) % 256 = (a + b).toNat := by
  rw [UInt8.toNat_add]
  omega

theorem sub_toNat (a b : UInt8) : ((a.toNat : Int) - b.toNat) % 256 = (a - b).toNat := by
  have := b.toNat_lt
  rw [UInt8.toNat_sub]
  omega

theorem double_toNat (a : UInt8) : (a.toNat : Int) * 2 % 256 = (a * 2).toNat := by
  rw [UInt8.toNat_mul, show (2 : UInt8).toNat = 2 from rfl]
  omega

theorem half_toNat (a : UInt8) : (a.toNat : Int) / 2 = (a / 2).toNat := by
  rw [UInt8.toNat_div, show (2 : UInt8).toNat = 2 from rfl]
  omega

/-- The lowest bit of a byte, as the flag that a right shift leaves. -/
theorem land_one (a : UInt8) :
    Int.land a.toNat 1 = ((if decide (a % 2 = 1) then 1 else 0 : UInt8).toNat : Int) := by
  have bit : Int.land a.toNat 1 = ((a.toNat % 2 : Nat) : Int) := by
    rw [← Nat.and_one_is_mod]
    rfl
  have odd : a % 2 = 1 ↔ a.toNat % 2 = 1 := by
    rw [← UInt8.toNat_inj, UInt8.toNat_mod]
    rfl
  rw [bit]
  by_cases h : a.toNat % 2 = 1
  · rw [if_pos (decide_eq_true (odd.mpr h)), h]
    rfl
  · rw [if_neg (by rwa [decide_eq_true_iff, odd]), show a.toNat % 2 = 0 by omega]
    rfl

theorem land_128_ne_zero_iff (a : UInt8) : Int.land a.toNat 128 ≠ 0 ↔ a ≥ 128 := by
  have size := a.toNat_lt
  have mask : Int.land a.toNat 128 = ((a.toNat / 128 % 2 * 128 : Nat) : Int) := by
    change ((a.toNat &&& 2 ^ 7 : Nat) : Int) = _
    rw [Nat.and_two_pow, Nat.testBit_eq_decide_div_mod_eq]
    rcases Nat.mod_two_eq_zero_or_one (a.toNat / 128) with even | odd
    · simp [even]
    · simp [odd]
  rw [mask, ge_iff_le, UInt8.le_iff_toNat_le, show (128 : UInt8).toNat = 128 from rfl]
  omega

theorem natCast_toNat_inj {a b : UInt8} : (a.toNat : Int) = b.toNat ↔ a = b := by
  rw [Int.natCast_inj, UInt8.toNat_inj]

theorem natCast_toNat_lt {a b : UInt8} : (a.toNat : Int) < b.toNat ↔ a < b := by
  rw [Int.ofNat_lt, UInt8.lt_iff_toNat_lt]

theorem natCast_toNat_le {a b : UInt8} : (b.toNat : Int) ≤ a.toNat ↔ b ≤ a := by
  rw [Int.ofNat_le, UInt8.le_iff_toNat_le]

/-! ### Parts of instructions -/

variable {c d : Core} {o : Opcode}

theorem runs_skipIf (h : c.Prepared) (condition : Bool) :
    Runs (skipIf condition) c () (c.skipIf condition) := by
  refine Runs.modify_of_eq ?_
  cases condition
  · rfl
  · simp only [Core.wide, Core.skipIf, if_true, h.toNat_skipped, Int.natCast_add]
    rfl

/-- The comparison of two bytes does not depend on their width. -/
theorem runs_skipIf_iff (h : c.Prepared) {p q : Prop} [Decidable p] [Decidable q] (same : p ↔ q) :
    Runs (skipIf p) c () (c.skipIf q) := by
  rw [decide_eq_decide.mpr same]
  exact runs_skipIf h q

theorem runs_setFlagged {p q : Prop} [Decidable p] [Decidable q] (same : p ↔ q) {x : Fin 16}
    {value : Int} {result : UInt8} (h : value = result.toNat) :
    Runs (setFlag p >>= fun _ => setReg x.val value) c () (c.setFlagged x q result) := by
  rw [decide_eq_decide.mpr same]
  exact (runs_setFlag q).bind (runs_setReg h)

theorem findIdx?_ofFn {n : Nat} (f : Fin n → Bool) :
    (List.ofFn f).findIdx? id = ((List.finRange n).find? f).map Fin.val := by
  induction n with
  | zero => rfl
  | succ n ih =>
      rw [List.ofFn_succ, List.findIdx?_cons, List.finRange_succ, List.find?_cons, ih,
        List.find?_map]
      cases f 0
      · simp [Function.comp_def]
      · rfl

/-- Searching the list of keys finds the smallest key held. -/
theorem findIdx?_keys : c.wide.keys.findIdx? id = c.keypad.firstPressed.map Fin.val := by
  have keys : c.wide.keys = List.ofFn fun k : Fin 16 => c.keypad.keys[k] :=
    List.ext_getElem (by simp [Core.wide]) fun k _ _ => by
      rw [List.getElem_ofFn]
      simp [Core.wide]
  rw [keys, findIdx?_ofFn, Keypad.firstPressed, Keypad.pressed, List.head?_filter]

theorem runs_ldVxK (h : c.Prepared) (x : Fin 16) :
    Runs (execute o (.ldVxK x)) c () (c.awaitKey x) := by
  refine Runs.get_bind ?_
  rw [findIdx?_keys, Core.awaitKey]
  cases c.keypad.firstPressed with
  | none =>
      refine Runs.set_of_eq ?_
      simp only [Core.wide, h.toNat_waiting, Int.natCast_sub h.past]
      rfl
  | some key =>
      refine runs_setReg ?_
      have small : key.val < 256 := by omega
      rw [UInt8.toNat_ofNat_of_lt' small]

/-- The loop that stores registers one by one stores them as a block. -/
theorem runs_storeRegisters {k n : Nat} (h : k + n ≤ 16) :
    Runs (storeRegisters (List.range' k n)) c ()
      { c with
        memory := c.memory.setBlock (c.index.toNat + k) ((c.v.toList.drop k).take n) } := by
  induction n generalizing c k with
  | zero => exact runs_pure
  | succ n ih =>
      have inside : k < c.v.toList.length := by
        rw [Vector.length_toList]
        omega
      rw [List.range'_succ, List.drop_eq_getElem_cons inside, List.take_succ_cons]
      refine (runs_reg ⟨k, by omega⟩).bind (Runs.get_bind ((runs_setCell (toNat_emod _)).bind ?_))
      exact ih (by omega)

/-- The core with `n` registers from `k` on read from memory. -/
def loaded (c : Core) (k n : Nat) : Core :=
  { c with v := Vector.ofFn fun j : Fin 16 =>
      if k ≤ j.val ∧ j.val < k + n then c.memory.load (c.index.toNat + j.val : Nat) else c.reg j }

theorem loaded_zero (k : Nat) : loaded c k 0 = c := by
  have same : (loaded c k 0).v = c.v := by
    ext j hj
    have none : ¬ (k ≤ j ∧ j < k + 0) := by omega
    simp only [loaded, Vector.getElem_ofFn, if_neg none]
    rfl
  exact congrArg (fun v => { c with v }) same

theorem loaded_setReg {k n : Nat} (h : k < 16) :
    loaded (c.setReg ⟨k, h⟩ (c.memory.load (c.index.toNat + k : Nat))) (k + 1) n
      = loaded c k (n + 1) := by
  have same : (loaded (c.setReg ⟨k, h⟩ (c.memory.load (c.index.toNat + k : Nat))) (k + 1) n).v
      = (loaded c k (n + 1)).v := by
    ext j hj
    simp only [loaded, Core.reg_setReg, Vector.getElem_ofFn, Fin.ext_iff]
    by_cases first : k = j
    · subst first
      have later : ¬ (k + 1 ≤ k ∧ k < k + 1 + n) := by omega
      have within : k ≤ k ∧ k < k + (n + 1) := by omega
      rw [if_neg later, if_pos within, if_pos rfl]
    · have same : k + 1 ≤ j ∧ j < k + 1 + n ↔ k ≤ j ∧ j < k + (n + 1) := by omega
      simp only [if_neg first, same]
      rfl
  exact congrArg (fun v => { c with v }) same

theorem loaded_all (x : Fin 16) : loaded c 0 (x.val + 1) = c.loadRegisters x := by
  have same : ∀ j : Fin 16, 0 ≤ j.val ∧ j.val < 0 + (x.val + 1) ↔ j ≤ x := by
    intro j
    rw [Fin.le_def]
    omega
  simp only [loaded, same]
  rfl

theorem runs_loadRegisters {k n : Nat} (h : k + n ≤ 16) :
    Runs (loadRegisters (List.range' k n)) c () (loaded c k n) := by
  induction n generalizing c k with
  | zero =>
      rw [loaded_zero]
      exact runs_pure
  | succ n ih =>
      have inside : k < 16 := by omega
      let byte := c.memory.load (c.index.toNat + k : Nat)
      have stored : Runs (setReg (⟨k, inside⟩ : Fin 16).val byte.toNat) c ()
          (c.setReg ⟨k, inside⟩ byte) := runs_setReg rfl
      rw [List.range'_succ, ← loaded_setReg inside]
      exact Runs.get_bind ((runs_cell _).bind (stored.bind (ih (by omega))))

/-! ### Instructions -/

theorem runs_ret {word : UInt16} {stack : CallStack} (hpop : c.stack.pop? = some (word, stack)) :
    Runs (execute o .ret) c () { c with pc := word, stack } := by
  simp only [CallStack.pop?] at hpop
  split at hpop
  · rename_i live
    have inside : c.stack.depth - 1 < 16 := by
      have := c.stack.depth_le
      omega
    cases hpop
    have depth : c.wide.depth - 1 = ((c.stack.depth - 1 : Nat) : Int) := by
      simp only [Core.wide]
      omega
    have top : c.wide.stack[c.stack.depth - 1]?
        = some ((c.stack.slots.get ⟨c.stack.depth - 1, inside⟩).toNat : Int) := by
      simp [Core.wide, Vector.get, inside]
    have notEmpty : c.wide.depth ≠ 0 := by
      simp only [Core.wide]
      omega
    refine Runs.get_bind ?_
    rw [if_neg notEmpty, depth]
    have lowered : Runs (set { c.wide with depth := ((c.stack.depth - 1 : Nat) : Int) }) c ()
        { c with stack := ⟨c.stack.slots, c.stack.depth - 1, by omega⟩ } := Runs.set_of_eq rfl
    exact lowered.bind ((runs_entry top).bind (Runs.modify_of_eq rfl))
  · cases hpop

theorem runs_call {target : UInt16} {stack : CallStack}
    (hpush : c.stack.push? c.pc = some stack) :
    Runs (execute o (.call target)) c () { c with stack, pc := target } := by
  simp only [CallStack.push?] at hpush
  split at hpush
  · rename_i room
    cases hpush
    have notFull : c.wide.depth ≠ 16 := by
      simp only [Core.wide]
      omega
    have inside : c.stack.depth < c.wide.stack.length := by simpa [Core.wide] using room
    refine Runs.get_bind ?_
    rw [if_neg notFull]
    -- the word is written before the depth moves, so for a moment it lies in a dead slot
    have written : Runs (set { c.wide with stack := c.wide.stack.set c.stack.depth c.pc.toNat }) c ()
        { c with stack := ⟨c.stack.slots.set c.stack.depth c.pc room, c.stack.depth, by omega⟩ } := by
      refine Runs.set_of_eq ?_
      simp [Core.wide, Vector.toList_set, List.map_set]
    exact (runs_replaced inside).bind (written.bind (Runs.modify_of_eq rfl))
  · cases hpush

/-- An instruction that cannot be carried out says so, and has changed nothing. -/
theorem execute_of_error {i : Instruction} {reason : FaultReason}
    (h : c.execute i = .error reason) :
    (execute o i).run c.wide = .error (.fault reason (c.pc.toNat - 2) o) c.wide := by
  rcases (c.execute_eq_error_iff i reason).mp h with ⟨⟨target, rfl⟩, depth, rfl⟩ | ⟨rfl, depth, rfl⟩
  · have full : c.wide.depth = 16 := by simp only [Core.wide, depth]; rfl
    simp only [execute, EStateM.run_bind, EStateM.run_get, if_pos full, EStateM.run_throw]
    rfl
  · have empty : c.wide.depth = 0 := by simp only [Core.wide, depth]; rfl
    simp only [execute, EStateM.run_bind, EStateM.run_get, if_pos empty, EStateM.run_throw]
    rfl

theorem runs_jpV0 {base : UInt16} (low : base.toNat < 4096) :
    Runs (execute o (.jpV0 base)) c () { c with pc := base + (c.reg 0).toUInt16 } := by
  have size := (c.reg 0).toNat_lt
  refine (runs_reg 0).bind (Runs.modify_of_eq ?_)
  have sum : (base + (c.reg 0).toUInt16).toNat = base.toNat + (c.reg 0).toNat := by
    rw [UInt16.toNat_add, UInt8.toNat_toUInt16]
    omega
  simp only [Core.wide, sum, Int.natCast_add]

theorem runs_ldB (x : Fin 16) :
    Runs (execute o (.ldB x)) c ()
      { c with memory := c.memory.setBlock c.index.toNat (Core.decimalDigits (c.reg x)) } := by
  have size := (c.reg x).toNat_lt
  have hundreds : ((c.reg x).toNat : Int) / 100 % 256 = (c.reg x / 100).toNat := by
    rw [UInt8.toNat_div, show (100 : UInt8).toNat = 100 from rfl]
    omega
  have tens : ((c.reg x).toNat : Int) / 10 % 10 % 256 = (c.reg x / 10 % 10).toNat := by
    rw [UInt8.toNat_mod, UInt8.toNat_div, show (10 : UInt8).toNat = 10 from rfl]
    omega
  have ones : ((c.reg x).toNat : Int) % 10 % 256 = (c.reg x % 10).toNat := by
    rw [UInt8.toNat_mod, show (10 : UInt8).toNat = 10 from rfl]
    omega
  have next : (c.index.toNat : Int) + 2 = c.index.toNat + 1 + 1 := by omega
  refine (runs_reg x).bind (Runs.get_bind ((runs_setCell hundreds).bind
    ((runs_setCell tens).bind ?_)))
  change Runs (setCell (c.index.toNat + 2) _) _ _ _
  rw [next]
  exact runs_setCell ones

theorem runs_addI (x : Fin 16) :
    Runs (execute o (.addI x)) c () { c with index := c.index + (c.reg x).toUInt16 } := by
  refine (runs_reg x).bind (Runs.modify_of_eq ?_)
  have sum : ((c.index + (c.reg x).toUInt16).toNat : Int)
      = ((c.index.toNat : Int) + (c.reg x).toNat) % 65536 := by
    rw [UInt16.toNat_add, UInt8.toNat_toUInt16]
    omega
  simp only [Core.wide, sum]

theorem runs_ldF (x : Fin 16) :
    Runs (execute o (.ldF x)) c () { c with index := Memory.glyphAddress (c.reg x) } := by
  refine (runs_reg x).bind (Runs.modify_of_eq ?_)
  have glyph : ((Memory.glyphAddress (c.reg x)).toNat : Int) = (c.reg x).toNat % 256 * 5 := by
    have size := (c.reg x).toNat_lt
    rw [Memory.glyphAddress_toNat, Memory.glyphSize]
    omega
  simp only [Core.wide, glyph]

theorem runs_store (x : Fin 16) :
    Runs (execute o (.store x)) c ()
      { c with memory := c.memory.setBlock c.index.toNat (c.lowRegisters x) } := by
  have all : Runs _ c _ _ := runs_storeRegisters (k := 0) (n := x.val + 1) (by omega)
  rwa [Int.natCast_zero, Int.add_zero, List.drop_zero, ← List.range_eq_range'] at all

theorem runs_load (x : Fin 16) : Runs (execute o (.load x)) c () (c.loadRegisters x) := by
  have all : Runs _ c _ _ := runs_loadRegisters (k := 0) (n := x.val + 1) (by omega)
  rwa [loaded_all, ← List.range_eq_range'] at all

theorem runs_execute {i : Instruction} (h : c.Prepared)
    (address : ∀ a, i.address? = some a → a.toNat < 4096) (hd : c.execute i = .ok d) :
    Runs (execute o i) c () d := by
  cases i
  case ret =>
    obtain ⟨word, stack, hpop, rfl⟩ := (c.execute_ret_eq_ok_iff d).mp hd
    exact runs_ret hpop
  case call target =>
    obtain ⟨stack, hpush, rfl⟩ := (c.execute_call_eq_ok_iff d target).mp hd
    exact runs_call hpush
  all_goals obtain rfl := Except.ok.inj hd
  case cls =>
    refine Runs.modify_of_eq ?_
    simp only [Core.wide, Screen.blank, Vector.toList_replicate]
  case jp target => exact Runs.modify_of_eq rfl
  case ldI a => exact Runs.modify_of_eq rfl
  case jpV0 base => exact runs_jpV0 (address base rfl)
  case seByte x byte => exact (runs_reg x).bind (runs_skipIf_iff h natCast_toNat_inj)
  case sneByte x byte =>
    exact (runs_reg x).bind (runs_skipIf_iff h (not_congr natCast_toNat_inj))
  case seReg x y =>
    exact (runs_reg x).bind ((runs_reg y).bind (runs_skipIf_iff h natCast_toNat_inj))
  case sneReg x y =>
    exact (runs_reg x).bind ((runs_reg y).bind (runs_skipIf_iff h (not_congr natCast_toNat_inj)))
  case ldByte x byte => exact runs_setReg rfl
  case addByte x byte => exact (runs_reg x).bind (runs_setReg (add_toNat _ _))
  case ldReg x y => exact (runs_reg y).bind (runs_setReg rfl)
  case or x y => exact (runs_reg x).bind ((runs_reg y).bind (runs_setReg (lor_toNat _ _)))
  case and x y => exact (runs_reg x).bind ((runs_reg y).bind (runs_setReg (land_toNat _ _)))
  case xor x y => exact (runs_reg x).bind ((runs_reg y).bind (runs_setReg (xor_toNat _ _)))
  case addReg x y =>
    have carry : ((c.reg x).toNat : Int) + (c.reg y).toNat > 255 ↔
        (c.reg x).toNat + (c.reg y).toNat > 255 := by omega
    exact (runs_reg x).bind ((runs_reg y).bind (runs_setFlagged carry (add_toNat _ _)))
  case sub x y =>
    exact (runs_reg x).bind ((runs_reg y).bind
      (runs_setFlagged natCast_toNat_le (sub_toNat _ _)))
  case subn x y =>
    exact (runs_reg x).bind ((runs_reg y).bind
      (runs_setFlagged natCast_toNat_le (sub_toNat _ _)))
  case shr x =>
    exact (runs_reg x).bind ((runs_setReg (x := Core.flag) (land_one _)).bind
      (runs_setReg (half_toNat _)))
  case shl x =>
    exact (runs_reg x).bind (runs_setFlagged (land_128_ne_zero_iff _) (double_toNat _))
  case rnd x mask =>
    exact Runs.get_bind ((Runs.set_of_eq (d := { c with random := c.random.next.2 }) rfl).bind
      (runs_setReg (land_toNat _ _)))
  case drw x y rows =>
    exact Runs.get_bind ((runs_block _ _).bind ((runs_reg x).bind ((runs_reg y).bind
      ((runs_draw _ _ _).bind (runs_setFlag _)))))
  case skp x =>
    exact (runs_reg x).bind ((runs_isPressed _).bind (runs_skipIf h _))
  case sknp x =>
    have known : ((c.reg x).toNat : Int) < 16 ↔ c.reg x < 16 := natCast_toNat_lt (b := 16)
    refine (runs_reg x).bind ((runs_isPressed _).bind ?_)
    rw [decide_eq_decide.mpr known]
    exact runs_skipIf h _
  case ldVxDt x => exact Runs.get_bind (runs_setReg rfl)
  case ldVxK x => exact runs_ldVxK h x
  case ldDtVx x => exact (runs_reg x).bind (Runs.modify_of_eq rfl)
  case ldStVx x => exact (runs_reg x).bind (Runs.modify_of_eq rfl)
  case addI x => exact runs_addI x
  case ldF x => exact runs_ldF x
  case ldB x => exact runs_ldB x
  case store x => exact runs_store x
  case load x => exact runs_load x
  case unknown => exact runs_pure

end Wide

end Chip8
