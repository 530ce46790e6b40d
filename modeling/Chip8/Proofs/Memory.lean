import Chip8.Memory

/-!
# Blocks and words of wrapping memory

What a block of stores leaves alone, and the value of a word. Both hold at every address, since an
address only matters up to the size of the memory.
-/

namespace Chip8.Ram

variable {e : Extent}

theorem load_congr (m : Ram e) {a b : Int} (h : a % e.size = b % e.size) : m.load a = m.load b := by
  simp only [load, (e.position_eq_iff a b).mpr h]

theorem toNat_loadWord (m : Ram e) (a : Int) :
    (m.loadWord a).toNat = 256 * (m.load a).toNat + (m.load (a + 1)).toNat := by
  have high := (m.load a).toNat_lt
  have low := (m.load (a + 1)).toNat_lt
  rw [loadWord_eq, UInt16.toNat_ofNat']
  omega

theorem loadBlock_succ (m : Ram e) (a : Int) (count : Nat) :
    m.loadBlock a (count + 1) = m.load a :: m.loadBlock (a + 1) count := by
  simp only [loadBlock, List.range_succ_eq_map, List.map_cons, List.map_map, Int.natCast_zero,
    Int.add_zero, List.cons.injEq, true_and]
  refine List.map_congr_left fun offset _ => ?_
  simp only [Function.comp_apply, Nat.succ_eq_add_one, Int.natCast_add, Int.natCast_one]
  congr 1
  omega

/-- A block of stores leaves every cell as it was that none of its addresses stands for. -/
theorem load_setBlock_of_ne (m : Ram e) (a b : Int) (bytes : List UInt8)
    (apart : ∀ k : Nat, k < bytes.length → (a + k) % e.size ≠ b % e.size) :
    (m.setBlock a bytes).load b = m.load b := by
  induction bytes generalizing m a with
  | nil => rfl
  | cons byte rest ih =>
      have first : a % e.size ≠ b % e.size := by simpa using apart 0 (by simp)
      have others : ∀ k : Nat, k < rest.length → (a + 1 + k) % e.size ≠ b % e.size := by
        intro k hk
        have := apart (k + 1) (by simpa using hk)
        rwa [Int.natCast_succ, Int.add_comm (k : Int) 1, ← Int.add_assoc] at this
      rw [setBlock, ih _ _ others, load_set, if_neg first]

/-- Of the values that a block stores in one cell the last one stays. -/
theorem load_setBlock_of_last (m : Ram e) (a b : Int) (bytes : List UInt8) {j : Nat}
    (hj : j < bytes.length) (here : (a + j) % e.size = b % e.size)
    (last : ∀ k, j < k → k < bytes.length → (a + k) % e.size ≠ b % e.size) :
    (m.setBlock a bytes).load b = bytes[j] := by
  induction bytes generalizing m a j with
  | nil => cases hj
  | cons byte rest ih =>
      have next : ∀ k : Nat, a + 1 + k = a + (k + 1 : Nat) := by omega
      rw [setBlock]
      cases j with
      | zero =>
          rw [Int.natCast_zero, Int.add_zero] at here
          rw [load_setBlock_of_ne, load_set, if_pos here]
          · rfl
          · intro k hk
            rw [next]
            exact last (k + 1) (Nat.succ_pos k) (Nat.succ_lt_succ hk)
      | succ j =>
          refine ih _ _ (Nat.lt_of_succ_lt_succ hj) (by rwa [next]) fun k later hk => ?_
          rw [next]
          exact last (k + 1) (Nat.succ_lt_succ later) (Nat.succ_lt_succ hk)

/-- A block that is no longer than the memory is found where it was stored: it ends before it comes
round to any of its own cells. -/
theorem load_setBlock (m : Ram e) (a : Int) (bytes : List UInt8) (fits : bytes.length ≤ e.size)
    {k : Nat} (hk : k < bytes.length) : (m.setBlock a bytes).load (a + k) = bytes[k] := by
  refine m.load_setBlock_of_last a _ bytes hk rfl fun j later hj same => ?_
  have distance := Int.emod_eq_emod_iff_emod_sub_eq_zero.mp same
  rw [show (a + j - (a + k) : Int) = (j - k : Nat) by omega, Int.emod_eq_of_lt] at distance <;> omega

theorem exists_of_load_setBlock_ne {m : Ram e} {a b : Int} {bytes : List UInt8}
    (changed : (m.setBlock a bytes).load b ≠ m.load b) :
    ∃ k : Nat, k < bytes.length ∧ (a + k) % e.size = b % e.size :=
  Classical.byContradiction fun none =>
    changed (m.load_setBlock_of_ne a b bytes fun k hk same => none ⟨k, hk, same⟩)

end Chip8.Ram
