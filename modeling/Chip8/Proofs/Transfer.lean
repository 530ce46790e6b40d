import Chip8.Proofs.Fetch

/-!
# Registers in memory and back

A block of registers is stored at the index register and the cells after it, where the last cell of
memory is followed by the first. It is shorter than memory, so it ends before it reaches a cell of
its own again, and each register can be told from the cell at its distance. So what is stored can be
loaded, and to store what has just been loaded changes nothing. The same holds of the three decimal
digits of a byte.
-/

namespace Chip8

namespace Ram

variable {e : Extent}

theorem set_load (m : Ram e) (a : Int) : m.set a (m.load a) = m := by
  obtain ⟨cells⟩ := m
  simp only [set, load, Fin.getElem_fin, Vector.set_getElem_self]

/-- To store what is already there changes nothing, however often the block comes round. -/
theorem setBlock_loadBlock (m : Ram e) (a : Int) (count : Nat) :
    m.setBlock a (m.loadBlock a count) = m := by
  induction count generalizing a with
  | zero => rfl
  | succ count ih => rw [loadBlock_succ, setBlock, set_load, ih]

end Ram

namespace Core

variable (c : Core) (x : Fin 16)

theorem length_lowRegisters : (c.lowRegisters x).length = x.val + 1 := by
  have := x.isLt
  rw [lowRegisters, List.length_take, Vector.length_toList]
  omega

theorem getElem_lowRegisters {k : Nat} (hk : k < (c.lowRegisters x).length) :
    (c.lowRegisters x)[k] = c.reg ⟨k, by have := c.length_lowRegisters x; omega⟩ := by
  simp only [lowRegisters, List.getElem_take, Vector.getElem_toList]
  rfl

/-- After a block store the cell at each distance holds the register of that number. -/
theorem load_lowRegisters {k : Fin 16} (low : k ≤ x) :
    (c.memory.setBlock c.index.toNat (c.lowRegisters x)).load (c.index.toNat + k.val : Nat)
      = c.reg k := by
  have length := c.length_lowRegisters x
  have short : (c.lowRegisters x).length ≤ 4096 := by omega
  have stored : k.val < (c.lowRegisters x).length := by omega
  rw [Int.natCast_add, Ram.load_setBlock _ _ _ short stored, getElem_lowRegisters]

theorem lowRegisters_eq_loadBlock {memory : Memory} {index : Nat}
    (loaded : ∀ k, k ≤ x → c.reg k = memory.load (index + k.val : Nat)) :
    c.lowRegisters x = memory.loadBlock index (x.val + 1) := by
  refine List.ext_getElem ?_ fun k hk _ => ?_
  · rw [length_lowRegisters, Ram.length_loadBlock]
  · have low : k < x.val + 1 := c.length_lowRegisters x ▸ hk
    rw [getElem_lowRegisters, loaded _ (Nat.lt_succ_iff.mp low)]
    simp only [Ram.loadBlock, List.getElem_map, List.getElem_range, Int.natCast_add]

theorem index_loadRegisters : (c.loadRegisters x).index = c.index := by
  rw [loadRegisters]

theorem memory_loadRegisters : (c.loadRegisters x).memory = c.memory := by
  rw [loadRegisters]

theorem decimalDigits_eq (byte : UInt8) : ∃ hundreds tens ones : UInt8,
    decimalDigits byte = [hundreds, tens, ones] ∧
      (hundreds.toNat ≤ 9 ∧ tens.toNat ≤ 9 ∧ ones.toNat ≤ 9) ∧
      100 * hundreds.toNat + 10 * tens.toNat + ones.toNat = byte.toNat := by
  have size := byte.toNat_lt
  refine ⟨_, _, _, rfl, ?_⟩
  simp only [UInt8.toNat_div, UInt8.toNat_mod, UInt8.reduceToNat]
  omega

end Core

/-! ### One step -/

namespace Machine

variable {m : Machine} {x : Fin 16}

theorem Fetches.store (h : m.Fetches (0xF055 + 256 * x.val)) :
    m.Executes ∧ m.step.machine.core.index = m.core.index ∧
      m.step.machine.core.memory
        = m.core.memory.setBlock m.core.index.toNat (m.core.lowRegisters x) := by
  obtain ⟨decode, register, low⟩ := Opcode.decode_of_misc 0x55 (by decide) h.toNat_opcode
  have decoded : m.core.opcode.decode = .store x := by
    simp only [decode, Opcode.decodeMisc, low, register]
  obtain ⟨executes, machine⟩ := h.executes decoded rfl rfl
  rw [machine]
  exact ⟨executes, rfl, rfl⟩

theorem Fetches.load (h : m.Fetches (0xF065 + 256 * x.val)) :
    m.Executes ∧ m.step.machine.core.index = m.core.index ∧
      m.step.machine.core.memory = m.core.memory ∧
      ∀ k, m.step.machine.core.reg k =
        if k ≤ x then m.core.memory.load (m.core.index.toNat + k.val : Nat) else m.core.reg k := by
  obtain ⟨decode, register, low⟩ := Opcode.decode_of_misc 0x65 (by decide) h.toNat_opcode
  have decoded : m.core.opcode.decode = .load x := by
    simp only [decode, Opcode.decodeMisc, low, register]
  obtain ⟨executes, machine⟩ := h.executes decoded rfl rfl
  rw [machine]
  refine ⟨executes, m.core.fetched.index_loadRegisters x, m.core.fetched.memory_loadRegisters x,
    fun k => ?_⟩
  rw [Core.reg_tick]
  exact m.core.fetched.reg_loadRegisters x k

theorem Fetches.digits (h : m.Fetches (0xF033 + 256 * x.val)) :
    m.Executes ∧ m.step.machine.core.index = m.core.index ∧
      m.step.machine.core.memory
        = m.core.memory.setBlock m.core.index.toNat (Core.decimalDigits (m.core.reg x)) := by
  obtain ⟨decode, register, low⟩ := Opcode.decode_of_misc 0x33 (by decide) h.toNat_opcode
  have decoded : m.core.opcode.decode = .ldB x := by
    simp only [decode, Opcode.decodeMisc, low, register]
  obtain ⟨executes, machine⟩ := h.executes decoded rfl rfl
  rw [machine]
  exact ⟨executes, rfl, rfl⟩

/-! ### Two steps -/

theorem load_after_store {n : Machine} {x' : Fin 16} (le : x' ≤ x)
    (h : m.Fetches (0xF055 + 256 * x.val)) (h' : n.Fetches (0xF065 + 256 * x'.val))
    (index : n.core.index = m.core.index)
    (memory : n.core.memory = m.step.machine.core.memory) (k : Fin 16) :
    n.step.machine.core.reg k = if k ≤ x' then m.core.reg k else n.core.reg k := by
  obtain ⟨-, -, stored⟩ := h.store
  obtain ⟨-, -, -, loaded⟩ := h'.load
  rw [loaded, memory, stored, index]
  split
  · rename_i low
    exact m.core.load_lowRegisters x (Fin.le_trans low le)
  · rfl

theorem store_after_load {n : Machine} (h : m.Fetches (0xF065 + 256 * x.val))
    (h' : n.Fetches (0xF055 + 256 * x.val)) (index : n.core.index = m.core.index)
    (memory : n.core.memory = m.core.memory)
    (same : ∀ k, k ≤ x → n.core.reg k = m.step.machine.core.reg k) :
    n.step.machine.core.memory = m.core.memory := by
  obtain ⟨-, -, -, loaded⟩ := h.load
  obtain ⟨-, -, stored⟩ := h'.store
  have block : n.core.lowRegisters x
      = m.core.memory.loadBlock m.core.index.toNat (x.val + 1) := by
    refine n.core.lowRegisters_eq_loadBlock x fun k low => ?_
    rw [same k low, loaded, if_pos low]
  rw [stored, block, index, memory, Ram.setBlock_loadBlock]

/-- Where the digits of a byte are stored, and that nothing else is. -/
theorem cells_of_digits (h : m.Fetches (0xF033 + 256 * x.val)) {bytes : List UInt8}
    (digits : Core.decimalDigits (m.core.reg x) = bytes) :
    (∀ k (hk : k < bytes.length),
      m.step.machine.core.memory.load (m.core.index.toNat + k : Nat) = bytes[k]) ∧
    ∀ a : Nat, (∀ k, k < bytes.length → a % 4096 ≠ (m.core.index.toNat + k) % 4096) →
      m.step.machine.core.memory.load a = m.core.memory.load a := by
  obtain ⟨-, -, stored⟩ := h.digits
  have three : bytes.length = 3 := by
    rw [← digits]
    rfl
  have short : bytes.length ≤ 4096 := by omega
  rw [stored, digits]
  refine ⟨fun k hk => ?_, fun a apart => ?_⟩
  · rw [Int.natCast_add]
    exact Ram.load_setBlock _ _ _ short hk
  · refine Ram.load_setBlock_of_ne _ _ _ _ fun k hk same => apart k hk ?_
    change ((m.core.index.toNat : Int) + k) % 4096 = (a : Int) % 4096 at same
    omega

/-- A block of registers that is stored can be loaded again, whole or in part, wherever the index
register points and whatever the registers hold meanwhile. A block that is loaded can be stored
again, and memory is what it was. The digits of a register are three cells that account for it, and
a block of three registers loads them. No transfer moves the index register. -/
theorem transfers_round_trip (m : Machine) (x : Fin 16) :
    let after := m.step.machine.core
    let index := m.core.index.toNat
    (m.Fetches (0xF055 + 256 * x.val) →
      m.Executes ∧ after.index = m.core.index ∧
        ∀ (n : Machine) (x' : Fin 16), x' ≤ x → n.Fetches (0xF065 + 256 * x'.val) →
          n.core.index = m.core.index → n.core.memory = after.memory →
            n.Executes ∧ n.step.machine.core.index = m.core.index ∧
              ∀ k, n.step.machine.core.reg k = if k ≤ x' then m.core.reg k else n.core.reg k) ∧
    (m.Fetches (0xF065 + 256 * x.val) →
      m.Executes ∧ after.index = m.core.index ∧
        ∀ n : Machine, n.Fetches (0xF055 + 256 * x.val) →
          n.core.index = m.core.index → n.core.memory = after.memory →
          (∀ k, k ≤ x → n.core.reg k = after.reg k) →
            n.Executes ∧ n.step.machine.core.index = m.core.index ∧
              n.step.machine.core.memory = m.core.memory) ∧
    (m.Fetches (0xF033 + 256 * x.val) →
      m.Executes ∧ after.index = m.core.index ∧
        ∃ hundreds tens ones : UInt8,
          (hundreds.toNat ≤ 9 ∧ tens.toNat ≤ 9 ∧ ones.toNat ≤ 9) ∧
          100 * hundreds.toNat + 10 * tens.toNat + ones.toNat = (m.core.reg x).toNat ∧
          after.memory.load (index % 4096 : Nat) = hundreds ∧
          after.memory.load ((index + 1) % 4096 : Nat) = tens ∧
          after.memory.load ((index + 2) % 4096 : Nat) = ones ∧
          (∀ a : Nat, a < 4096 → a ≠ index % 4096 → a ≠ (index + 1) % 4096 →
            a ≠ (index + 2) % 4096 → after.memory.load a = m.core.memory.load a) ∧
          ∀ n : Machine, n.Fetches 0xF265 →
            n.core.index = m.core.index → n.core.memory = after.memory →
              n.Executes ∧ n.step.machine.core.index = m.core.index ∧
                n.step.machine.core.reg 0 = hundreds ∧ n.step.machine.core.reg 1 = tens ∧
                n.step.machine.core.reg 2 = ones) := by
  intro after index
  refine ⟨fun h => ?_, fun h => ?_, fun h => ?_⟩
  · obtain ⟨executes, indexed, -⟩ := h.store
    refine ⟨executes, indexed, fun n x' le h' same memory => ?_⟩
    obtain ⟨executes', indexed', -⟩ := h'.load
    exact ⟨executes', indexed'.trans same, load_after_store le h h' same memory⟩
  · obtain ⟨executes, indexed, kept, -⟩ := h.load
    refine ⟨executes, indexed, fun n h' same memory regs => ?_⟩
    obtain ⟨executes', indexed', -⟩ := h'.store
    exact ⟨executes', indexed'.trans same,
      store_after_load h h' same (memory.trans kept) regs⟩
  · obtain ⟨executes, indexed, -⟩ := h.digits
    obtain ⟨hundreds, tens, ones, digits, bounds, sum⟩ := Core.decimalDigits_eq (m.core.reg x)
    obtain ⟨cells, others⟩ := cells_of_digits h digits
    have cell (k : Nat) : after.memory.load ((index + k) % 4096 : Nat)
        = after.memory.load (index + k : Nat) := Ram.load_congr _ (by simp)
    refine ⟨executes, indexed, hundreds, tens, ones, bounds, sum, (cell 0).trans (cells 0 (by simp)),
      (cell 1).trans (cells 1 (by simp)), (cell 2).trans (cells 2 (by simp)),
      fun a inside first second third => ?_, fun n h' same memory => ?_⟩
    · refine others a fun k hk => ?_
      have three : k = 0 ∨ k = 1 ∨ k = 2 := by
        simp only [List.length_cons, List.length_nil] at hk
        omega
      rw [Nat.mod_eq_of_lt inside]
      rcases three with rfl | rfl | rfl
      · exact first
      · exact second
      · exact third
    · obtain ⟨executes', indexed', -, loaded⟩ := Fetches.load (x := 2) h'
      rw [memory, same] at loaded
      exact ⟨executes', indexed'.trans same, (loaded 0).trans (cells 0 (by simp)),
        (loaded 1).trans (cells 1 (by simp)), (loaded 2).trans (cells 2 (by simp))⟩

/-- With the index register at `0xFFFF` a block starts in the last cell and goes on in the glyphs.
Three registers are stored and, the registers overwritten, two of them loaded; three are loaded and
stored; and the digits of 254 are stored and loaded. -/
theorem transfers_round_trip_of_wrapped :
    let m : UInt8 → UInt8 → UInt8 → UInt8 → Machine := fun a b c d =>
      let start := (initial ⟨fun _ => 0, 0⟩).insert ⟨"", [a, b, c, d], (by decide : 4 ≤ 3584)⟩
      { start with
        core := { ((start.core.setReg 0 254).setReg 1 22).setReg 2 33 with index := 0xFFFF } }
    let stored := (m 0xF2 0x55 0xF1 0x65).step.machine
    let cleared := { stored with core := { stored.core with v := Vector.replicate 16 7 } }
    let loaded := (m 0xF2 0x65 0xF2 0x55).step.machine
    let digits := (m 0xF0 0x33 0xF2 0x65).step.machine
    ((m 0xF2 0x55 0xF1 0x65).Fetches 0xF255 ∧ cleared.Fetches 0xF165 ∧
      cleared.step.machine.core.reg 0 = 254 ∧ cleared.step.machine.core.reg 1 = 22 ∧
      cleared.step.machine.core.reg 2 = 7) ∧
    ((m 0xF2 0x65 0xF2 0x55).Fetches 0xF265 ∧ loaded.Fetches 0xF255 ∧
      loaded.step.machine.core.memory = (m 0xF2 0x65 0xF2 0x55).core.memory) ∧
    ((m 0xF0 0x33 0xF2 0x65).Fetches 0xF033 ∧ digits.Fetches 0xF265 ∧
      (digits.step.machine.core.reg 0).toNat = 2 ∧ (digits.step.machine.core.reg 1).toNat = 5 ∧
      (digits.step.machine.core.reg 2).toNat = 4) := by
  intro m stored cleared loaded digits
  have store : (m 0xF2 0x55 0xF1 0x65).Fetches 0xF255 := ⟨rfl, by decide, by decide +kernel⟩
  have load : (m 0xF2 0x65 0xF2 0x55).Fetches 0xF265 := ⟨rfl, by decide, by decide +kernel⟩
  have split : (m 0xF0 0x33 0xF2 0x65).Fetches 0xF033 := ⟨rfl, by decide, by decide +kernel⟩
  have second : cleared.Fetches 0xF165 := ⟨rfl, by decide +kernel, by decide +kernel⟩
  have second' : loaded.Fetches 0xF255 := ⟨rfl, by decide +kernel, by decide +kernel⟩
  have second'' : digits.Fetches 0xF265 := ⟨rfl, by decide +kernel, by decide +kernel⟩
  obtain ⟨-, indexed, again⟩ := (transfers_round_trip (m 0xF2 0x55 0xF1 0x65) 2).1 store
  obtain ⟨-, -, reads⟩ := again cleared 1 (by decide) second indexed rfl
  obtain ⟨-, indexed', again'⟩ := (transfers_round_trip (m 0xF2 0x65 0xF2 0x55) 2).2.1 load
  obtain ⟨-, -, memory⟩ := again' loaded second' indexed' rfl fun _ _ => rfl
  obtain ⟨-, indexed'', hundreds, tens, ones, bounds, sum, -, -, -, -, again''⟩ :=
    (transfers_round_trip (m 0xF0 0x33 0xF2 0x65) 0).2.2 split
  obtain ⟨-, -, first, next, last⟩ := again'' digits second'' indexed'' rfl
  have value : ((m 0xF0 0x33 0xF2 0x65).core.reg 0).toNat = 254 := rfl
  rw [first, next, last]
  exact ⟨⟨store, second, reads 0, reads 1, reads 2⟩, ⟨load, second', memory⟩, split, second'',
    by omega, by omega, by omega⟩

end Machine

end Chip8
