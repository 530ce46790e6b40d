/-!
# The call stack

Sixteen slots and a depth. A push writes the slot at the depth, a pop moves the depth back and
leaves the slot as it is, so the slots at and above the depth keep words nobody will read: only
`toList`, the slots below the depth, matters to later pushes and pops.
-/

namespace Chip8

structure CallStack where
  slots : Vector UInt16 16
  depth : Nat
  depth_le : depth ≤ 16 := by omega
  deriving DecidableEq

namespace CallStack

def empty : CallStack := ⟨Vector.replicate 16 0, 0, by omega⟩

/-- The live words, the latest last. -/
def toList (s : CallStack) : List UInt16 := s.slots.toList.take s.depth

def push? (s : CallStack) (word : UInt16) : Option CallStack :=
  if h : s.depth < 16 then some ⟨s.slots.set s.depth word, s.depth + 1, h⟩ else none

/-- The latest word and the stack below it. -/
def pop? (s : CallStack) : Option (UInt16 × CallStack) :=
  if h : 0 < s.depth then
    have live : s.depth - 1 < 16 := by have := s.depth_le; omega
    some (s.slots.get ⟨s.depth - 1, live⟩, ⟨s.slots, s.depth - 1, by omega⟩)
  else none

@[simp] theorem toList_empty : empty.toList = [] := by simp [toList, empty]

@[simp] theorem length_toList (s : CallStack) : s.toList.length = s.depth := by
  simp [toList, s.depth_le]

theorem push?_eq_none_iff (s : CallStack) (word : UInt16) :
    s.push? word = none ↔ s.depth = 16 := by
  have := s.depth_le
  simp only [push?]
  split <;> simp <;> omega

theorem pop?_eq_none_iff (s : CallStack) : s.pop? = none ↔ s.depth = 0 := by
  simp only [pop?]
  split <;> simp <;> omega

theorem toList_push {s t : CallStack} {word : UInt16} (h : s.push? word = some t) :
    t.toList = s.toList ++ [word] := by
  simp only [push?] at h
  split at h
  · rename_i room
    obtain rfl := Option.some.inj h
    simp only [toList, Vector.toList_set]
    rw [List.take_succ_eq_append_getElem (by simp; omega)]
    simp only [List.take_set, List.getElem_set_self]
    rw [List.set_eq_of_length_le (List.length_take_le _ _)]
  · simp at h

theorem toList_pop {s t : CallStack} {word : UInt16} (h : s.pop? = some (word, t)) :
    s.toList = t.toList ++ [word] := by
  simp only [pop?] at h
  split at h
  · rename_i live
    have le := s.depth_le
    simp only [Option.some.injEq, Prod.mk.injEq] at h
    obtain ⟨rfl, rfl⟩ := h
    simp only [toList]
    have succ : s.depth = s.depth - 1 + 1 := by omega
    conv => lhs; rw [succ]
    rw [List.take_succ_eq_append_getElem (by simp; omega)]
    simp [Vector.get]
  · simp at h

end CallStack

end Chip8
