import Chip8.Proofs.InTune
import Chip8.Proofs.Keypad
import Chip8.Proofs.Operation

/-!
# Host keys that go down and up

A host key that goes down is handled twice, as a control and as a key of the pad, and one that goes
up only as a key of the pad. No code is both, and the two handlers act on different parts of the
console: a control reads and writes everything but the keypad, a key of the pad only the keypad. So
in a list of events the controls and the strokes of the pad can be told apart, whatever their order
(`handleEvents_eq`), and of the strokes of a key only the last is left to see.
-/

namespace Chip8

/-- A host key that goes down, or up. -/
structure KeyEvent where
  code : Int
  down : Bool
  deriving DecidableEq, Repr

namespace Console

variable {code : Int} {key : Fin 16}

/-! ### What the codes stand for -/

/-- The host key of a key of the pad. -/
def hostKey (key : Fin 16) : Int :=
  let hosts := #v['x', '1', '2', '3', 'q', 'w', 'e', 'a', 's', 'd', 'z', 'c', '4', 'r', 'f', 'v']
  (hosts.get key).toNat

/-- The host key of a control. -/
def Control.hostKey : Control → Int
  | .quit => 27
  | .pause => 'p'.toNat
  | .overlay => 'k'.toNat
  | .volumeUp => '0'.toNat
  | .volumeDown => '9'.toNat

theorem padKey?_eq_some_iff : padKey? code = some key ↔ code = hostKey key := by
  constructor
  · intro mapped
    obtain ⟨entry, found, rfl⟩ := Option.map_eq_some_iff.mp mapped
    have listed : ∀ entry ∈ keyMap, (entry.1.toNat : Int) = hostKey entry.2 := by decide
    have same : (entry.1.toNat : Int) = code := by simpa using List.find?_some found
    exact same.symm.trans (listed entry (List.mem_of_find?_eq_some found))
  · intro same
    have each : ∀ key, padKey? (hostKey key) = some key := by decide
    rw [same, each]

theorem control?_eq_some_iff {control : Control} :
    control? code = some control ↔ code = control.hostKey := by
  constructor
  · intro stands
    rw [control?] at stands
    repeat' split at stands
    all_goals cases stands
    all_goals assumption
  · intro same
    rw [same]
    cases control <;> rfl

end Console

namespace KeyEvent

/-- The control that the event asks for, if it asks for one. -/
def control? (e : KeyEvent) : Option Console.Control :=
  if e.down then Console.control? e.code else none

/-- Whether the key stands for anything. -/
def mapped (e : KeyEvent) : Bool :=
  (Console.padKey? e.code).isSome || (Console.control? e.code).isSome

def input (e : KeyEvent) : Window.Input := if e.down then .keyDown e.code else .keyUp e.code

theorem mapped_of_control? {e : KeyEvent} {control : Console.Control}
    (asks : e.control? = some control) : e.mapped = true := by
  obtain ⟨-, stands⟩ := Option.ite_none_right_eq_some.mp asks
  rw [mapped, stands]
  exact Bool.or_true _

theorem mapped_of_hostKey {e : KeyEvent} {key : Fin 16} (own : e.code = Console.hostKey key) :
    e.mapped = true := by
  rw [mapped, Console.padKey?_eq_some_iff.mpr own]
  rfl

end KeyEvent

/-! ### The keypad -/

namespace Keypad

/-- The keypad after an event, which may be none of its own. -/
def stroke (k : Keypad) (e : KeyEvent) : Keypad :=
  match Console.padKey? e.code with
  | some key => k.set key.val e.down
  | none => k

/-- How the events move the host key of a key: whether it goes down, one event after the other. -/
def strokes (key : Fin 16) (events : List KeyEvent) : List Bool :=
  (events.filter fun e => e.code = Console.hostKey key).map KeyEvent.down

theorem isPressed_stroke (k : Keypad) (e : KeyEvent) (key : Fin 16) :
    (k.stroke e).isPressed key.val =
      if e.code = Console.hostKey key then e.down else k.isPressed key.val := by
  simp only [stroke, ← Console.padKey?_eq_some_iff]
  cases Console.padKey? e.code with
  | none => rfl
  | some moved =>
      have same : ((moved.val : Int) = key.val) ↔ some moved = some key := by
        rw [Option.some.injEq, Fin.ext_iff, Int.natCast_inj]
      simp only [isPressed_set, same]

/-- A key is where its last stroke left it. -/
theorem isPressed_strokeAll (events : List KeyEvent) (k : Keypad) (key : Fin 16) :
    (events.foldl stroke k).isPressed key.val =
      (strokes key events).getLast?.getD (k.isPressed key.val) := by
  induction events generalizing k with
  | nil => rfl
  | cons e rest ih =>
      rw [List.foldl_cons, ih, isPressed_stroke, strokes, strokes]
      by_cases own : e.code = Console.hostKey key
      · simp [own, List.getLast?_cons]
      · simp [own]

end Keypad

/-! ### The console -/

namespace Console

variable {events others : List KeyEvent}

def keypad (c : Console) : Keypad := c.machine.core.keypad

def withKeypad (c : Console) (k : Keypad) : Console :=
  { c with machine := { c.machine with core := { c.machine.core with keypad := k } } }

def handleEvent (c : Console) (e : KeyEvent) : Console :=
  if e.down then (c.handleControl e.code).console.handleKey e.code true
  else c.handleKey e.code false

def handleEvents (c : Console) (events : List KeyEvent) : Console := events.foldl handleEvent c

/-- The controls that the events ask for. -/
def controls (events : List KeyEvent) : List Control := events.filterMap KeyEvent.control?

def obey (c : Console) (control : Control) : Console := (c.control control).console

theorem handleKey_eq (c : Console) (e : KeyEvent) :
    c.handleKey e.code e.down = c.withKeypad (c.keypad.stroke e) := by
  rw [handleKey, Keypad.stroke]
  cases padKey? e.code <;> rfl

theorem obey_withKeypad (c : Console) (k : Keypad) (control : Control) :
    (c.withKeypad k).obey control = (c.obey control).withKeypad k := by
  cases control with
  | pause => simp only [obey, Console.control, Machine.togglePause_eq, withKeypad]
  | quit | overlay | volumeUp | volumeDown => rfl

theorem keypad_obey (c : Console) (control : Control) : (c.obey control).keypad = c.keypad := by
  cases control with
  | pause => simp only [obey, Console.control, Machine.togglePause_eq, keypad]
  | quit | overlay | volumeUp | volumeDown => rfl

theorem obeyAll_withKeypad (controls : List Control) (c : Console) (k : Keypad) :
    controls.foldl obey (c.withKeypad k) = (controls.foldl obey c).withKeypad k := by
  induction controls generalizing c with
  | nil => rfl
  | cons control rest ih => rw [List.foldl_cons, List.foldl_cons, obey_withKeypad, ih]

/-- An event is obeyed if it asks for a control, and moves the keypad if it can. -/
theorem handleEvent_eq (c : Console) (e : KeyEvent) :
    c.handleEvent e = ((controls [e]).foldl obey c).withKeypad (c.keypad.stroke e) := by
  obtain ⟨code, down⟩ := e
  cases down with
  | false => exact c.handleKey_eq ⟨code, false⟩
  | true =>
      have obeyed : (c.handleControl code).console =
          (controls [⟨code, true⟩]).foldl obey c := by
        simp only [handleControl, controls, List.filterMap_cons, KeyEvent.control?, if_true]
        cases control? code <;> rfl
      have untouched : (c.handleControl code).console.keypad = c.keypad := by
        rw [handleControl]
        cases control? code with
        | none => rfl
        | some control => exact c.keypad_obey control
      have moved := (c.handleControl code).console.handleKey_eq ⟨code, true⟩
      rw [untouched, obeyed] at moved
      simp only [handleEvent, if_true, obeyed, moved]

/-- The console after a list of events: what their controls make of it, with the keypad that their
strokes leave. No control reads a keypad that the strokes before it have left. -/
theorem handleEvents_eq (c : Console) (events : List KeyEvent) :
    c.handleEvents events =
      ((controls events).foldl obey c).withKeypad (events.foldl Keypad.stroke c.keypad) := by
  induction events generalizing c with
  | nil => rfl
  | cons e rest ih =>
      have cut : controls (e :: rest) = controls [e] ++ controls rest :=
        List.filterMap_append (l := [e])
      calc (c.handleEvent e).handleEvents rest
          = ((controls rest).foldl obey (c.handleEvent e)).withKeypad
              (rest.foldl Keypad.stroke (c.handleEvent e).keypad) := ih _
        _ = ((controls rest).foldl obey ((controls [e]).foldl obey c)).withKeypad
              (rest.foldl Keypad.stroke (c.keypad.stroke e)) := by
          rw [handleEvent_eq, obeyAll_withKeypad]
          rfl
        _ = ((controls (e :: rest)).foldl obey c).withKeypad
              ((e :: rest).foldl Keypad.stroke c.keypad) := by
          rw [cut, List.foldl_append, List.foldl_cons]

theorem keyPressed_handleEvents (c : Console) (events : List KeyEvent) (key : Fin 16) :
    (c.handleEvents events).machine.keyPressed key.val =
      (Keypad.strokes key events).getLast?.getD (c.machine.keyPressed key.val) := by
  rw [handleEvents_eq]
  exact Keypad.isPressed_strokeAll events c.keypad key

/-- The order in which controls and strokes of different keys come does not count. -/
theorem handleEvents_congr (c : Console) (sameControls : controls others = controls events)
    (sameStrokes : ∀ key, Keypad.strokes key others = Keypad.strokes key events) :
    c.handleEvents others = c.handleEvents events := by
  have sameKeypad : others.foldl Keypad.stroke c.keypad = events.foldl Keypad.stroke c.keypad :=
    Keypad.ext_of_isPressed fun key => by
      rw [Keypad.isPressed_strokeAll, Keypad.isPressed_strokeAll, sameStrokes]
  rw [handleEvents_eq, handleEvents_eq, sameControls, sameKeypad]

theorem handleEvents_filter_mapped (c : Console) (events : List KeyEvent) :
    c.handleEvents (events.filter KeyEvent.mapped) = c.handleEvents events := by
  refine c.handleEvents_congr ?_ fun key => ?_
  · have each (e : KeyEvent) : (if e.mapped then e.control? else none) = e.control? := by
      cases asks : e.control? with
      | none => exact ite_self _
      | some control => rw [if_pos (KeyEvent.mapped_of_control? asks)]
    rw [controls, List.filterMap_filter]
    simp only [each, controls]
  · have each (e : KeyEvent) : (decide (e.code = hostKey key) && e.mapped) =
        decide (e.code = hostKey key) := by
      by_cases own : e.code = hostKey key
      · rw [KeyEvent.mapped_of_hostKey own, Bool.and_true]
      · rw [decide_eq_false own, Bool.false_and]
    rw [Keypad.strokes, List.filter_filter]
    simp only [each, Keypad.strokes]

end Console

namespace Window.Session

variable {t : Toolkit}

/-- As long as the window can change its size, a session handles a key as its console does. -/
theorem handle_input (opens : t.openWindow = none) (s : Session) (scale : Nat) (e : KeyEvent) :
    ∃ next, s.handle t scale e.input = (next, .going) ∧
      next.console = s.console.handleEvent e := by
  obtain ⟨code, down⟩ := e
  cases down with
  | false => exact ⟨_, rfl, rfl⟩
  | true =>
      show ∃ next, s.keyDown t scale code = (next, .going) ∧ _
      rw [keyDown_eq_andThen]
      split
      · rw [openWindow, opens]
        exact ⟨_, rfl, rfl⟩
      · exact ⟨_, rfl, rfl⟩

theorem handleAll_inputs (opens : t.openWindow = none) (s : Session) (scale : Nat)
    (events : List KeyEvent) :
    ∃ next, s.handleAll t scale (events.map KeyEvent.input) = (next, .going) ∧
      next.console = s.console.handleEvents events := by
  induction events generalizing s with
  | nil => exact ⟨s, rfl, rfl⟩
  | cons e rest ih =>
      obtain ⟨next, first, console⟩ := s.handle_input opens scale e
      obtain ⟨last, others, reached⟩ := ih next
      rw [console] at reached
      exact ⟨last, by rw [List.map_cons, handleAll_cons, first]; exact others, reached⟩

end Window.Session

namespace Console

/-- Every key of the pad and every control has one host key, and no two share one. After any events
of host keys a key of the pad is held if its last stroke was down, and all but the keypad is as the
controls among the events leave it, each obeyed in turn. So the order in which controls and strokes
of different keys come does not count, nor do codes that stand for nothing, and a key that goes up
is released whether the machine runs, is paused or has quit. A session at a window that can change
its size handles the events the same way. -/
theorem keys_and_controls_apart :
    (∀ code key, padKey? code = some key ↔ code = hostKey key) ∧
    (∀ code control, control? code = some control ↔ code = control.hostKey) ∧
    (∀ (key : Fin 16) (control : Control), hostKey key ≠ control.hostKey) ∧
    ∀ (c : Console) (events : List KeyEvent),
      (∀ key : Fin 16, (c.handleEvents events).machine.keyPressed key.val =
        (Keypad.strokes key events).getLast?.getD (c.machine.keyPressed key.val)) ∧
      c.handleEvents events =
        ((controls events).foldl obey c).withKeypad (c.handleEvents events).keypad ∧
      (∀ others, controls others = controls events →
        (∀ key, Keypad.strokes key others = Keypad.strokes key events) →
          c.handleEvents others = c.handleEvents events) ∧
      c.handleEvents (events.filter KeyEvent.mapped) = c.handleEvents events ∧
      (∀ key : Fin 16,
        (c.handleEvents (events ++ [⟨hostKey key, false⟩])).machine.keyPressed key.val = false) ∧
      ∀ (s : Window.Session) (t : Toolkit) (scale : Nat), s.console = c → t.openWindow = none →
        ∃ next, s.handleAll t scale (events.map KeyEvent.input) = (next, .going) ∧
          next.console = c.handleEvents events := by
  refine ⟨fun code key => padKey?_eq_some_iff, fun code control => control?_eq_some_iff,
    fun key control => ?_, fun c events => ⟨c.keyPressed_handleEvents events, ?_,
      fun others sameControls sameStrokes => c.handleEvents_congr sameControls sameStrokes,
      c.handleEvents_filter_mapped events, fun key => ?_, ?_⟩⟩
  · have apart : ∀ key : Fin 16, control? (hostKey key) = none := by decide
    intro same
    exact nomatch (apart key).symm.trans (control?_eq_some_iff.mpr same)
  · rw [handleEvents_eq]
    rfl
  · rw [keyPressed_handleEvents, Keypad.strokes, List.filter_append, List.map_append]
    simp
  · rintro s t scale rfl opens
    exact s.handleAll_inputs opens scale events

theorem keys_and_controls_apart_of_pause_and_quit :
    let settings : Window.Settings :=
      { rom := "", scale := 4, fps := 60, fg := .white, bg := .black
        audio := false, keypad := false, trace := false, scale_pos := by decide }
    let session := Window.Session.begin settings (Machine.initial ⟨fun _ => 0, 0⟩)
    let events : List KeyEvent := [⟨'q'.toNat, true⟩, ⟨'p'.toNat, true⟩, ⟨'w'.toNat, true⟩,
      ⟨27, true⟩, ⟨'q'.toNat, false⟩]
    let others : List KeyEvent := [⟨'p'.toNat, true⟩, ⟨27, true⟩, ⟨'w'.toNat, true⟩,
      ⟨'q'.toNat, true⟩, ⟨'q'.toNat, false⟩]
    let after := session.console.handleEvents events
    session.console.handleEvents others = after ∧
      after.machine.keyPressed 4 = false ∧ after.machine.keyPressed 5 = true ∧
      after.machine.runState = .quit ∧
      ∃ next, session.handleAll {} 4 (events.map KeyEvent.input) = (next, .going) ∧
        next.console = after := by
  intro settings session events others after
  obtain ⟨pressed, -, interleaved, -, -, loop⟩ :=
    keys_and_controls_apart.2.2.2 session.console events
  exact ⟨interleaved others rfl (by decide), pressed 4, pressed 5, rfl, loop session {} 4 rfl rfl⟩

end Console

end Chip8
