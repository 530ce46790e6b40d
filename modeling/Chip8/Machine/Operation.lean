import Chip8.Machine

/-!
# Operations on a machine

Everything a front end may do to a machine, as data: a history is a list of operations and its
effect a fold, so a statement about every use of a machine is an induction on that list. An
operation that fails leaves the machine usable, and the history goes on.
-/

namespace Chip8

inductive Operation
  | load (name : String) (bytes : List UInt8)
  | insert (rom : Rom)
  | step
  | setKey (index : Int) (pressed : Bool)
  | togglePause
  | quit
  | enableTrace (on : Bool)
  | adjustVolume (delta : Float)
  | volumeUp
  | volumeDown

inductive Response
  | done
  | refused (e : RomTooLarge)
  | stepped (outcome : Except Fault StepResult)
  | runState (state : RunState)
  | volume (v : Volume)

namespace Machine

/-- The machine after an operation, its answer, and the trace line if one was written. -/
structure Applied where
  machine : Machine
  response : Response
  line : Option String := none

def apply (m : Machine) : Operation → Applied
  | .load name bytes =>
      match m.load name bytes with
      | .ok loaded => ⟨loaded, .done, none⟩
      | .error e => ⟨m, .refused e, none⟩
  | .insert rom => ⟨m.insert rom, .done, none⟩
  | .step =>
      let stepped := m.step
      ⟨stepped.machine, .stepped stepped.outcome, stepped.line⟩
  | .setKey index pressed => ⟨m.setKey index pressed, .done, none⟩
  | .togglePause =>
      let toggled := m.togglePause
      ⟨toggled, .runState toggled.runState, none⟩
  | .quit => ⟨m.quit, .done, none⟩
  | .enableTrace on => ⟨m.enableTrace on, .done, none⟩
  | .adjustVolume delta =>
      let adjusted := m.adjustVolume delta
      ⟨adjusted, .volume adjusted.volume, none⟩
  | .volumeUp =>
      let adjusted := m.volumeUp
      ⟨adjusted, .volume adjusted.volume, none⟩
  | .volumeDown =>
      let adjusted := m.volumeDown
      ⟨adjusted, .volume adjusted.volume, none⟩

def after (m : Machine) (history : List Operation) : Machine :=
  history.foldl (fun m op => (m.apply op).machine) m

/-- The answers of a history, one per operation. -/
def responses (m : Machine) : List Operation → List Response
  | [] => []
  | op :: rest => (m.apply op).response :: (m.apply op).machine.responses rest

def lines (m : Machine) : List Operation → List String
  | [] => []
  | op :: rest => (m.apply op).line.toList ++ (m.apply op).machine.lines rest

/-- The machines that some history leads to from power on. -/
def Reachable (m : Machine) : Prop :=
  ∃ byte history, m = (initial ⟨byte, 0⟩).after history

@[simp] theorem after_nil (m : Machine) : m.after [] = m := rfl

@[simp] theorem after_cons (m : Machine) (op : Operation) (rest : List Operation) :
    m.after (op :: rest) = (m.apply op).machine.after rest := rfl

theorem after_append (m : Machine) (first second : List Operation) :
    m.after (first ++ second) = (m.after first).after second := by
  simp [after, List.foldl_append]

theorem reachable_initial (byte : Nat → UInt8) : (initial ⟨byte, 0⟩).Reachable := ⟨byte, [], rfl⟩

theorem Reachable.apply {m : Machine} (h : m.Reachable) (op : Operation) :
    (m.apply op).machine.Reachable := by
  obtain ⟨byte, history, rfl⟩ := h
  exact ⟨byte, history ++ [op], by simp [after_append]⟩

/-- What holds at power on and survives every operation holds of every reachable machine. -/
theorem Reachable.induction {motive : Machine → Prop} (start : ∀ byte, motive (initial ⟨byte, 0⟩))
    (next : ∀ m op, motive m → motive (m.apply op).machine) {m : Machine} (h : m.Reachable) :
    motive m := by
  obtain ⟨byte, history, rfl⟩ := h
  have keep : ∀ (history : List Operation) (m : Machine), motive m → motive (m.after history) := by
    intro history
    induction history with
    | nil => exact fun m hm => hm
    | cons op rest ih => exact fun m hm => ih _ (next m op hm)
  exact keep history _ (start byte)

end Machine

end Chip8
