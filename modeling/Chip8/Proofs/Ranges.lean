import Chip8.Address.Range

/-!
# Merged ranges

Merging sorts ranges by their starts and goes through them once with the range that is still open.
The next range starts no earlier, so it either meets the open one, which then grows, or lies past a
gap that no later range can reach back over. An induction on the ranges that are left gives each of
the facts that the rest may know of a merge: no address is lost or won, ends stay in order, and
there is a gap between a range and the next.
-/

namespace Chip8.AddressRange

/-- The address lies in one of the ranges. -/
def Covered (ranges : List AddressRange) (a : Nat) : Prop := ∃ r ∈ ranges, r.Covers a

/-- The address is one that the ranges stand for; none at all stand for the whole memory. -/
def Selected (ranges : List AddressRange) (a : Nat) : Prop :=
  Covered ranges a ∨ ranges = [] ∧ all.Covers a

instance decidableCovers (r : AddressRange) : DecidablePred r.Covers :=
  fun a => inferInstanceAs (Decidable (r.start ≤ a ∧ a ≤ r.stop))

instance decidableCovered (ranges : List AddressRange) : DecidablePred (Covered ranges) :=
  fun a => inferInstanceAs (Decidable (∃ r ∈ ranges, r.Covers a))

instance decidableSelected (ranges : List AddressRange) : DecidablePred (Selected ranges) :=
  fun a => inferInstanceAs (Decidable (Covered ranges a ∨ ranges = [] ∧ all.Covers a))

theorem covered_cons_iff (r : AddressRange) (rest : List AddressRange) (a : Nat) :
    Covered (r :: rest) a ↔ r.Covers a ∨ Covered rest a := by
  simp [Covered]

/-- Starts ascend, though ranges may still overlap. -/
def Sorted (ranges : List AddressRange) : Prop := ranges.Pairwise fun r s => r.start ≤ s.start

/-- Between a range and each later one lies an address that neither covers. -/
def Apart (ranges : List AddressRange) : Prop := ranges.Pairwise fun r s => r.stop + 1 < s.start

/-! ### Joining -/

variable {current next : AddressRange} {rest ranges : List AddressRange}

theorem covers_joined_iff (order : current.start ≤ next.start)
    (meet : next.start ≤ current.stop + 1) (a : Nat) :
    Covers ⟨current.start, max current.stop next.stop⟩ a ↔ current.Covers a ∨ next.Covers a := by
  simp only [Covers]
  omega

/-- Joining its first two ranges leaves a list sorted. -/
theorem Sorted.join (sorted : Sorted (current :: next :: rest)) :
    Sorted (⟨current.start, max current.stop next.stop⟩ :: rest) := by
  obtain ⟨first, others⟩ := List.pairwise_cons.mp sorted
  exact List.pairwise_cons.mpr
    ⟨fun r mem => first r (List.mem_cons_of_mem _ mem), (List.pairwise_cons.mp others).2⟩

theorem covered_joinFrom_iff (sorted : Sorted (current :: rest)) (a : Nat) :
    Covered (joinFrom current rest) a ↔ Covered (current :: rest) a := by
  induction rest generalizing current with
  | nil => rfl
  | cons next rest ih =>
      obtain ⟨first, others⟩ := List.pairwise_cons.mp sorted
      rw [joinFrom]
      split
      · rename_i meet
        rw [ih sorted.join, covered_cons_iff,
          covers_joined_iff (first next List.mem_cons_self) meet, covered_cons_iff,
          covered_cons_iff, or_assoc]
      · rw [covered_cons_iff, ih others, covered_cons_iff current]

theorem le_start_of_mem_joinFrom {lower : Nat} (first : lower ≤ current.start)
    (others : ∀ r ∈ rest, lower ≤ r.start) : ∀ r ∈ joinFrom current rest, lower ≤ r.start := by
  induction rest generalizing current with
  | nil => simpa [joinFrom] using first
  | cons next rest ih =>
      obtain ⟨second, others⟩ := List.forall_mem_cons.mp others
      rw [joinFrom]
      split
      · exact ih first others
      · exact List.forall_mem_cons.mpr ⟨first, ih second others⟩

theorem apart_joinFrom (sorted : Sorted (current :: rest)) : Apart (joinFrom current rest) := by
  induction rest generalizing current with
  | nil => exact List.pairwise_singleton _ _
  | cons next rest ih =>
      obtain ⟨-, others⟩ := List.pairwise_cons.mp sorted
      rw [joinFrom]
      split
      · exact ih sorted.join
      · rename_i gap
        refine List.pairwise_cons.mpr ⟨fun r mem => ?_, ih others⟩
        -- what comes of the later ranges starts no earlier than the first of them
        have later := le_start_of_mem_joinFrom (Nat.le_refl next.start)
          (List.pairwise_cons.mp others).1 r mem
        omega

theorem start_le_stop_of_mem_joinFrom (first : current.start ≤ current.stop)
    (others : ∀ r ∈ rest, r.start ≤ r.stop) :
    ∀ r ∈ joinFrom current rest, r.start ≤ r.stop := by
  induction rest generalizing current with
  | nil => simpa [joinFrom] using first
  | cons next rest ih =>
      obtain ⟨second, others⟩ := List.forall_mem_cons.mp others
      rw [joinFrom]
      split
      · exact ih (Nat.le_trans first (Nat.le_max_left _ _)) others
      · exact List.forall_mem_cons.mpr ⟨first, ih second others⟩

theorem joinFrom_ne_nil (current : AddressRange) (rest : List AddressRange) :
    joinFrom current rest ≠ [] := by
  induction rest generalizing current with
  | nil => exact List.cons_ne_nil _ _
  | cons next rest ih =>
      rw [joinFrom]
      split
      · exact ih _
      · exact List.cons_ne_nil _ _

/-! ### Merging -/

theorem before_iff (r s : AddressRange) :
    before r s = true ↔ r.start < s.start ∨ r.start = s.start ∧ r.stop ≤ s.stop := by
  simp [before]

theorem sorted_mergeSort (ranges : List AddressRange) : Sorted (ranges.mergeSort before) := by
  have sorted : (ranges.mergeSort before).Pairwise fun r s => before r s = true := by
    refine List.pairwise_mergeSort (fun r s t => ?_) (fun r s => ?_) ranges
    · simp only [before_iff]
      omega
    · simp only [Bool.or_eq_true, before_iff]
      omega
  refine sorted.imp fun {r s} ordered => ?_
  have := (before_iff r s).mp ordered
  omega

/-- Ranges are merged by joining them in the order of their starts, and no ranges as the whole
memory. -/
theorem exists_merge_eq_joinFrom (ranges : List AddressRange) :
    ∃ current rest, merge ranges = joinFrom current rest ∧ Sorted (current :: rest) ∧
      ∀ r, r ∈ current :: rest ↔ r ∈ ranges ∨ ranges = [] ∧ r = all := by
  have sorted := sorted_mergeSort ranges
  have permuted := ranges.mergeSort_perm before
  rw [merge]
  cases ordered : ranges.mergeSort before with
  | nil =>
      rw [ordered] at permuted
      obtain rfl : ranges = [] := permuted.nil_eq.symm
      exact ⟨all, [], rfl, List.pairwise_singleton _ _, fun r => by simp⟩
  | cons current rest =>
      rw [ordered] at sorted permuted
      have nonempty : ranges ≠ [] := List.ne_nil_of_mem (permuted.mem_iff.mp List.mem_cons_self)
      refine ⟨current, rest, rfl, sorted, fun r => ?_⟩
      rw [permuted.mem_iff, or_iff_left fun none => nonempty none.1]

theorem merge_ne_nil (ranges : List AddressRange) : merge ranges ≠ [] := by
  obtain ⟨current, rest, merged, -, -⟩ := exists_merge_eq_joinFrom ranges
  rw [merged]
  exact joinFrom_ne_nil current rest

theorem covered_merge_iff (ranges : List AddressRange) (a : Nat) :
    Covered (merge ranges) a ↔ Selected ranges a := by
  obtain ⟨current, rest, merged, sorted, listed⟩ := exists_merge_eq_joinFrom ranges
  rw [merged, covered_joinFrom_iff sorted]
  simp only [Covered, Selected, listed, or_and_right, exists_or, and_assoc, exists_and_left,
    exists_eq_left]

theorem apart_merge (ranges : List AddressRange) : Apart (merge ranges) := by
  obtain ⟨current, rest, merged, sorted, -⟩ := exists_merge_eq_joinFrom ranges
  rw [merged]
  exact apart_joinFrom sorted

theorem start_le_stop_of_mem_merge (ordered : ∀ r ∈ ranges, r.start ≤ r.stop) :
    ∀ r ∈ merge ranges, r.start ≤ r.stop := by
  obtain ⟨current, rest, merged, -, listed⟩ := exists_merge_eq_joinFrom ranges
  have ordered' : ∀ r ∈ current :: rest, r.start ≤ r.stop := by
    intro r mem
    rcases (listed r).mp mem with given | ⟨-, rfl⟩
    · exact ordered r given
    · exact Nat.zero_le _
  obtain ⟨first, others⟩ := List.forall_mem_cons.mp ordered'
  rw [merged]
  exact start_le_stop_of_mem_joinFrom first others

end Chip8.AddressRange
