import Chip8.Proofs.Ranges
import Mathlib.Data.List.Chain

/-!
# The normal form of a list of ranges

In normal form the ends of every range are in order and an address is left out before the next range
starts. The first range then starts at the least address that is covered and ends just before the
first one that is not, and the other ranges cover what lies above it. So the addresses determine the
list, range by range. Merging yields the normal form of what it is given, and every fact about
merging that only depends on the addresses follows: neither order nor repetition matters, and a
merged list is merged already.
-/

namespace Chip8.AddressRange

structure Normal (ranges : List AddressRange) : Prop where
  ordered : ∀ r ∈ ranges, r.start ≤ r.stop
  /-- A range and the next one neither overlap nor touch. -/
  gaps : ranges.IsChain fun r next => r.stop + 1 < next.start

variable {r s : AddressRange} {rest others ranges other : List AddressRange}

theorem Normal.tail (normal : Normal (r :: rest)) : Normal rest :=
  ⟨fun s mem => normal.ordered s (List.mem_cons_of_mem r mem), normal.gaps.tail⟩

theorem Normal.head (normal : Normal (r :: rest)) : r.start ≤ r.stop :=
  normal.ordered r List.mem_cons_self

/-- All later ranges lie past the gap, not just the next one. -/
theorem Normal.lt_start (normal : Normal (r :: rest)) : ∀ s ∈ rest, r.stop + 1 < s.start := by
  induction rest generalizing r with
  | nil => simp
  | cons next rest ih =>
      have gap := (List.isChain_cons_cons.mp normal.gaps).1
      refine List.forall_mem_cons.mpr ⟨gap, fun s mem => ?_⟩
      have later := ih normal.tail s mem
      have := normal.tail.head
      omega

/-! ### The addresses determine the list -/

theorem Normal.start_le (normal : Normal (r :: rest)) {a : Nat} (covered : Covered (r :: rest) a) :
    r.start ≤ a := by
  rcases (covered_cons_iff r rest a).mp covered with first | ⟨s, mem, later⟩
  · exact first.1
  · have := normal.lt_start s mem
    have := normal.head
    have := later.1
    omega

theorem Normal.not_covered (normal : Normal (r :: rest)) : ¬ Covered (r :: rest) (r.stop + 1) := by
  intro covered
  rcases (covered_cons_iff r rest _).mp covered with first | ⟨s, mem, later⟩
  · exact Nat.not_succ_le_self _ first.2
  · exact Nat.not_le_of_lt (normal.lt_start s mem) later.1

theorem Normal.covered_tail_iff (normal : Normal (r :: rest)) (a : Nat) :
    Covered rest a ↔ Covered (r :: rest) a ∧ r.stop < a := by
  rw [covered_cons_iff]
  constructor
  · rintro ⟨s, mem, later⟩
    have := normal.lt_start s mem
    have := later.1
    exact ⟨.inr ⟨s, mem, later⟩, by omega⟩
  · rintro ⟨first | later, past⟩
    · exact absurd first.2 (Nat.not_le_of_lt past)
    · exact later

/-- If the first range ended earlier, the other list would cover the address that it leaves out. -/
theorem Normal.stop_le (normal : Normal (r :: rest)) (below : s.start ≤ r.stop + 1)
    (covers : ∀ a, Covered (s :: others) a → Covered (r :: rest) a) : s.stop ≤ r.stop := by
  refine Nat.le_of_not_lt fun earlier => normal.not_covered (covers _ ?_)
  exact (covered_cons_iff s others _).mpr (.inl ⟨below, earlier⟩)

theorem Normal.covered_start (normal : Normal (r :: rest)) : Covered (r :: rest) r.start :=
  ⟨r, List.mem_cons_self, Nat.le_refl _, normal.head⟩

theorem Normal.eq_of_covered_iff (normal : Normal ranges) (normal' : Normal other)
    (same : ∀ a, Covered ranges a ↔ Covered other a) : ranges = other := by
  induction ranges generalizing other with
  | nil =>
      cases other with
      | nil => rfl
      | cons s others =>
          obtain ⟨_, none, -⟩ := (same _).mpr normal'.covered_start
          cases none
  | cons r rest ih =>
      cases other with
      | nil =>
          obtain ⟨_, none, -⟩ := (same _).mp normal.covered_start
          cases none
      | cons s others =>
          have starts : r.start = s.start := Nat.le_antisymm
            (normal.start_le ((same _).mpr normal'.covered_start))
            (normal'.start_le ((same _).mp normal.covered_start))
          have stops : r.stop = s.stop := by
            have := normal.head
            have := normal'.head
            exact Nat.le_antisymm (normal'.stop_le (by omega) fun a => (same a).mp)
              (normal.stop_le (by omega) fun a => (same a).mpr)
          obtain ⟨rStart, rStop⟩ := r
          obtain ⟨sStart, sStop⟩ := s
          cases starts
          cases stops
          congr 1
          refine ih normal.tail normal'.tail fun a => ?_
          rw [normal.covered_tail_iff, normal'.covered_tail_iff, same]

/-! ### Merging -/

theorem normal_merge (ordered : ∀ r ∈ ranges, r.start ≤ r.stop) : Normal (merge ranges) :=
  ⟨start_le_stop_of_mem_merge ordered, (apart_merge ranges).isChain⟩

/-- Ranges that stand for the same addresses are merged into the same list. -/
theorem merge_congr (ordered : ∀ r ∈ ranges, r.start ≤ r.stop)
    (ordered' : ∀ r ∈ other, r.start ≤ r.stop)
    (same : ∀ a, Selected ranges a ↔ Selected other a) : merge ranges = merge other := by
  refine (normal_merge ordered).eq_of_covered_iff (normal_merge ordered') fun a => ?_
  rw [covered_merge_iff, covered_merge_iff, same]

theorem selected_iff_of_ne_nil (nonempty : ranges ≠ []) (a : Nat) :
    Selected ranges a ↔ Covered ranges a :=
  or_iff_left fun none => nonempty none.1

theorem start_le_stop_of_parse? {text : String} (parsed : parse? text = .ok r) :
    r.start ≤ r.stop := by
  rw [parse?, ofChars?] at parsed
  split at parsed
  · cases parsed
  · rename_i _ after _
    generalize Address.ofChars? Address.last (text.toList.takeWhile (· ≠ ':')) = start at parsed
    generalize Address.ofChars? Address.last after = stop at parsed
    cases start with
    | error e => cases parsed
    | ok start =>
        cases stop with
        | error e => cases parsed
        | ok stop =>
            change (if stop < start then _ else _) = _ at parsed
            split at parsed
            · cases parsed
            · rename_i ordered
              cases parsed
              exact Nat.le_of_not_lt ordered

/-- Merging ranges whose ends are in order, as the ends of every range that is read are, yields the
one list in normal form that covers the same addresses. So it depends neither on the order of the
ranges nor on repetitions, and merging once more changes nothing. -/
theorem merge_is_normal_form (ranges : List AddressRange) (nonempty : ranges ≠ [])
    (ordered : ∀ r ∈ ranges, r.start ≤ r.stop) :
    (∀ a, Covered (merge ranges) a ↔ Covered ranges a) ∧
    Normal (merge ranges) ∧
    (∀ other, Normal other → (∀ a, Covered other a ↔ Covered ranges a) → other = merge ranges) ∧
    (∀ other, (∀ r, r ∈ other ↔ r ∈ ranges) → merge other = merge ranges) ∧
    merge (merge ranges) = merge ranges ∧
    ∀ text r, parse? text = .ok r → r.start ≤ r.stop := by
  have covers (a : Nat) : Covered (merge ranges) a ↔ Covered ranges a := by
    rw [covered_merge_iff, selected_iff_of_ne_nil nonempty]
  refine ⟨covers, normal_merge ordered, fun other normal same => ?_, fun other same => ?_, ?_,
    fun _ _ => start_le_stop_of_parse?⟩
  · exact normal.eq_of_covered_iff (normal_merge ordered) fun a => (same a).trans (covers a).symm
  · have nonempty' : other ≠ [] := by
      rintro rfl
      have none := List.eq_nil_iff_forall_not_mem.mpr fun r mem => by simpa using (same r).mpr mem
      exact nonempty none
    refine merge_congr (fun r mem => ordered r ((same r).mp mem)) ordered fun a => ?_
    rw [selected_iff_of_ne_nil nonempty', selected_iff_of_ne_nil nonempty]
    simp only [Covered, same]
  · refine merge_congr (normal_merge ordered).ordered ordered fun a => ?_
    rw [selected_iff_of_ne_nil (merge_ne_nil ranges), selected_iff_of_ne_nil nonempty, covers]

/-- Two ranges that touch, one inside another and one given twice leave two. -/
theorem merge_is_normal_form_of_five :
    let ranges : List AddressRange := [⟨22, 25⟩, ⟨5, 9⟩, ⟨20, 30⟩, ⟨0, 4⟩, ⟨5, 9⟩]
    ranges ≠ [] ∧ (∀ r ∈ ranges, r.start ≤ r.stop) ∧ Normal [⟨0, 9⟩, ⟨20, 30⟩] ∧
      merge ranges = [⟨0, 9⟩, ⟨20, 30⟩] ∧
      merge [⟨0, 4⟩, ⟨20, 30⟩, ⟨22, 25⟩, ⟨5, 9⟩] = merge ranges := by
  intro ranges
  have nonempty : ranges ≠ [] := List.cons_ne_nil _ _
  have ordered : ∀ r ∈ ranges, r.start ≤ r.stop := by decide
  have normal : Normal [⟨0, 9⟩, ⟨20, 30⟩] := ⟨by decide, by simp⟩
  obtain ⟨-, -, unique, reordered, -, -⟩ := merge_is_normal_form ranges nonempty ordered
  refine ⟨nonempty, ordered, normal, (unique _ normal fun a => ?_).symm, reordered _ fun r => ?_⟩
  · simp only [Covered, Covers, ranges, List.exists_mem_cons_iff, List.not_mem_nil, false_and,
      exists_false, or_false]
    omega
  · simp only [ranges, List.mem_cons, List.not_mem_nil, or_false]
    tauto

end Chip8.AddressRange
