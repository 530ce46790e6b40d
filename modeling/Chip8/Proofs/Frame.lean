import Chip8.Proofs.Beeper
import Chip8.Proofs.Keypad
import Chip8.Window.Session

/-!
# A frame of a session

At a willing toolkit a frame without events is one step of the machine. What else a frame does, the
beeper and the picture among it, only the toolkit hears of: `Aside` says what that leaves alone. A
key of the pad that goes down before the step only changes the keypad.
-/

namespace Chip8

namespace Window

variable {t : Toolkit} {settings : Settings}

namespace Session

/-- The frames whose events were asked for so far. -/
def framesPolled (s : Session) : List Nat := s.log.toList.filterMap ToolkitEvent.frame?

def withMachine (s : Session) (m : Machine) : Session :=
  { s with console := { s.console with machine := m } }

theorem framesPolled_tell (s : Session) (events : List ToolkitEvent) :
    (s.tell events).framesPolled = s.framesPolled ++ events.filterMap ToolkitEvent.frame? := by
  simp [framesPolled, tell]

/-! ### What only the toolkit hears of -/

structure Aside (s s' : Session) : Prop where
  machine : s'.console.machine = s.console.machine
  output : s'.output = s.output
  complaints : s'.complaints = s.complaints
  frames : s'.framesPolled = s.framesPolled
  standard : s.console.beeper.Standard → s'.console.beeper.Standard

theorem Aside.trans {s s' s'' : Session} (first : Aside s s') (second : Aside s' s'') :
    Aside s s'' where
  machine := second.machine.trans first.machine
  output := second.output.trans first.output
  complaints := second.complaints.trans first.complaints
  frames := second.frames.trans first.frames
  standard := second.standard ∘ first.standard

theorem aside_tell (s : Session) {events : List ToolkitEvent}
    (quiet : ∀ event ∈ events, event.frame? = none) : Aside s (s.tell events) where
  machine := rfl
  output := rfl
  complaints := rfl
  frames := by rw [framesPolled_tell, List.filterMap_eq_nil_iff.mpr quiet, List.append_nil]
  standard := id

theorem aside_tell_one (s : Session) {event : ToolkitEvent} (quiet : event.frame? = none) :
    Aside s (s.tell [event]) :=
  s.aside_tell (List.forall_mem_singleton.mpr quiet)

theorem aside_showTitle (s : Session) : Aside s s.showTitle := s.aside_tell_one rfl

theorem aside_present (s : Session) (settings : Settings) : Aside s (s.present settings) := by
  refine s.aside_tell ?_
  simp [picture, Surface.events, ToolkitEvent.frame?, or_imp, forall_and]

theorem aside_openWindow (willing : t.Willing) (s : Session) (scale : Nat) :
    ∃ next, s.openWindow t scale = (next, .going) ∧ Aside s next := by
  have opens : t.openWindow = none := willing.2.2.2.2.2
  exact ⟨_, by rw [openWindow, opens], s.aside_tell_one rfl⟩

theorem aside_withBeeper (s : Session) {beeper : Beeper} {events : List ToolkitEvent}
    (standard : s.console.beeper.Standard → beeper.Standard)
    (quiet : ∀ event ∈ events, event.frame? = none) :
    Aside s ({ s with console := { s.console with beeper } }.tell events) := by
  have replaced : Aside s { s with console := { s.console with beeper } } :=
    ⟨rfl, rfl, rfl, rfl, standard⟩
  exact replaced.trans (aside_tell _ quiet)

theorem aside_updateBeeper (willing : t.Willing) (s : Session)
    (standard : s.console.beeper.Standard) :
    ∃ next, s.updateBeeper t = (next, .going) ∧ Aside s next := by
  have call := Beeper.smooth_update willing standard
    (s.console.machine.soundActive && s.console.machine.runState = .running)
  have unprinted : s.output ++ ([] : List String) = s.output := Array.appendList_nil
  refine ⟨_, ?_, s.aside_withBeeper (fun _ => call.standard) call.frames⟩
  simp only [updateBeeper, call.failure, call.printed, unprinted]

theorem aside_finish (s : Session) : Aside s s.finish := by
  rw [finish]
  split
  · refine Aside.trans ?_ (aside_tell_one _ rfl)
    exact s.aside_withBeeper id s.console.beeper.frame?_of_mem_stop
  · exact s.aside_tell_one rfl

/-! ### Frames -/

/-- The session after the step of a frame. -/
def advanced (s : Session) (number : Nat) : Session :=
  let stepped := s.console.machine.step
  { (s.tell [.polled number]).withMachine stepped.machine with
    output := s.output ++ stepped.line.toList }

theorem frame_eq_of_running (s : Session) (number : Nat)
    (running : s.console.machine.runState = .running) :
    s.frame t settings number [] =
      andThen (s.tell [.polled number]).stepMachine fun s =>
        andThen (s.updateBeeper t) fun s => (s.showTitle.present settings, .going) := by
  have awake : (s.tell [.polled number]).checkQuit = (s.tell [.polled number], .going) := by
    rw [checkQuit, if_neg]
    simp [tell, running]
  simp only [frame, handleAll, andThen, awake]

theorem frame_of_ok (willing : t.Willing) (s : Session) (number : Nat)
    (running : s.console.machine.runState = .running) (standard : s.console.beeper.Standard)
    {result : StepResult} (ok : s.console.machine.step.outcome = .ok result) :
    ∃ next, s.frame t settings number [] = (next, .going) ∧ Aside (s.advanced number) next := by
  have stepped : (s.tell [.polled number]).stepMachine = (s.advanced number, .going) := by
    have ok' : (s.tell [.polled number]).console.machine.step.outcome = .ok result := ok
    simp only [stepMachine, ok']
    rfl
  obtain ⟨told, updated, aside⟩ := aside_updateBeeper willing (s.advanced number) standard
  refine ⟨told.showTitle.present settings, ?_, ?_⟩
  · rw [frame_eq_of_running s number running]
    simp only [andThen, stepped, updated]
  · exact aside.trans (told.aside_showTitle.trans (told.showTitle.aside_present settings))

theorem frame_of_fault (s : Session) (number : Nat)
    (running : s.console.machine.runState = .running) {fault : Fault}
    (error : s.console.machine.step.outcome = .error fault) :
    s.frame t settings number [] =
      ({ (s.advanced number).withMachine s.console.machine.step.machine.quit with
          complaints := s.complaints.push ("Execution stopped: " ++ fault.message) },
        .faulted) := by
  have error' : (s.tell [.polled number]).console.machine.step.outcome = .error fault := error
  rw [frame_eq_of_running s number running]
  simp only [andThen, stepMachine, error']
  rfl

theorem frame_of_close (s : Session) (number : Nat) :
    s.frame t settings number [.close] =
      ((s.tell [.polled number]).withMachine s.console.machine.quit, .quit) := rfl

/-! ### Keys that go down -/

/-- The numbers of the keys of the pad that host keys stand for. -/
def padKeys (codes : List Int) : List Nat :=
  codes.filterMap fun code => (Console.padKey? code).map Fin.val

theorem mem_padKeys_iff {codes : List Int} {key : Fin 16} :
    key.val ∈ padKeys codes ↔ ∃ code ∈ codes, Console.padKey? code = some key := by
  simp [padKeys, Fin.val_inj]

/-- No host key is a key of the pad and a control. -/
theorem control?_of_padKey? {code : Int} {key : Fin 16}
    (mapped : Console.padKey? code = some key) : Console.control? code = none := by
  obtain ⟨entry, found, -⟩ := Option.map_eq_some_iff.mp mapped
  have same := List.find?_some found
  have listed := List.mem_of_find?_eq_some found
  have uncontrolled : ∀ entry ∈ Console.keyMap, Console.control? entry.1.toNat = none := by decide
  have stands : (entry.1.toNat : Int) = code := by simpa using same
  rw [← stands]
  exact uncontrolled entry listed

theorem keyDown_of_padKey? (s : Session) (scale : Nat) {code : Int} {key : Fin 16}
    (mapped : Console.padKey? code = some key) :
    s.keyDown t scale code = (s.withMachine (s.console.machine.setKey key.val true), .going) := by
  simp only [keyDown, Console.handleControl, control?_of_padKey? mapped, Console.handleKey, mapped]
  rfl

theorem handleAll_keyDowns (scale : Nat) {codes : List Int}
    (mapped : ∀ code ∈ codes, (Console.padKey? code).isSome) (s : Session) :
    s.handleAll t scale (codes.map .keyDown) =
      (s.withMachine (s.console.machine.press (padKeys codes)), .going) := by
  induction codes generalizing s with
  | nil => rfl
  | cons code codes ih =>
      obtain ⟨key, stands⟩ := Option.isSome_iff_exists.mp (mapped code List.mem_cons_self)
      have keys : padKeys (code :: codes) = key.val :: padKeys codes :=
        List.filterMap_cons_some (congrArg (Option.map Fin.val) stands)
      simp only [List.map_cons, handleAll, handle, keyDown_of_padKey? s scale stands]
      rw [ih fun code mem => mapped code (List.mem_cons_of_mem _ mem), keys]
      rfl

/-- Keys that go down at the beginning of a frame might as well have been held before it. -/
theorem frame_of_keyDowns (s : Session) (number : Nat) {codes : List Int}
    (mapped : ∀ code ∈ codes, (Console.padKey? code).isSome) :
    s.frame t settings number (codes.map .keyDown) =
      (s.withMachine (s.console.machine.press (padKeys codes))).frame t settings number [] := by
  rw [frame, handleAll_keyDowns settings.scale mapped]
  rfl

end Session

end Window

end Chip8
