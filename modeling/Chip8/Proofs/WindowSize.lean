import Chip8.Proofs.Playing

/-!
# The window fits what is shown

The window is asked for when a session begins and whenever the overlay appears or disappears, and
nothing else that a session does tells the toolkit of a window. So at every frame the window last
asked for has the size that screen and overlay need by then.
-/

namespace Chip8

/-- The size of the window that is asked for, if one is. -/
def ToolkitEvent.window? : ToolkitEvent → Option (Nat × Nat)
  | .windowRequested width height => some (width, height)
  | _ => none

/-! ### The beeper asks for no window -/

namespace Beeper

variable {t : Toolkit} {b : Beeper}

theorem window?_openChannel (t : Toolkit) (sampleRate : Int) :
    ∀ event ∈ (openChannel t sampleRate).1, event.window? = none := by
  simp only [openChannel, openChannel.channel]
  repeat' split
  all_goals simp [ToolkitEvent.window?]

theorem window?_ensureChannel (t : Toolkit) (b : Beeper) :
    ∀ event ∈ (ensureChannel t b).events, event.window? = none := by
  have opening := window?_openChannel t b.sampleRate
  rw [ensureChannel]
  split
  · simp
  · simp
  · split <;> (rename_i answer; rw [answer] at opening; exact opening)

theorem window?_playTone (t : Toolkit) (b : Beeper) :
    ∀ event ∈ (playTone t b).events, event.window? = none := by
  rw [playTone]
  repeat' split
  all_goals simp [ToolkitEvent.window?]

theorem window?_update (t : Toolkit) (b : Beeper) (active : Bool) :
    ∀ event ∈ (b.update t active).events, event.window? = none := by
  rw [update]
  split
  · intro event mem
    rcases List.mem_append.mp mem with opening | playing
    · exact window?_ensureChannel t _ event opening
    · exact window?_playTone t _ event playing
  · split
    · simp only [stop]
      split <;> simp [ToolkitEvent.window?]
    · simp

end Beeper

namespace Console

/-- A control that leaves the window as it is leaves the overlay as it is. -/
theorem overlay_handleControl (c : Console) (code : Int)
    (stays : (c.handleControl code).resize = false) :
    (c.handleControl code).console.overlay = c.overlay := by
  rw [handleControl] at stays ⊢
  split at stays
  · rename_i control _
    cases control with
    | overlay => cases stays
    | quit | pause | volumeUp | volumeDown => rfl
  · rfl

theorem scale_handleControl (c : Console) (code : Int) :
    (c.handleControl code).console.overlay.scale = c.overlay.scale := by
  rw [handleControl]
  split
  · rename_i control _
    cases control <;> rfl
  · rfl

theorem window?_handleControl (c : Console) (code : Int) :
    ∀ event ∈ (c.handleControl code).events, event.window? = none := by
  rw [handleControl]
  split
  · rename_i control _
    cases control with
    | quit | pause | overlay => simp [Console.control]
    | volumeUp | volumeDown =>
        simp only [Console.control, changeVolume, Beeper.setVolume]
        split <;> simp [ToolkitEvent.window?]
  · simp

theorem overlay_handleKey (c : Console) (code : Int) (pressed : Bool) :
    (c.handleKey code pressed).overlay = c.overlay := by
  rw [handleKey]
  split <;> rfl

end Console

namespace Window.Session

variable {t : Toolkit} {settings : Settings} {s s' : Session} {scale : Nat}

/-- The size of the window that was last asked for. -/
def lastWindow? (s : Session) : Option (Nat × Nat) :=
  (s.log.toList.filterMap ToolkitEvent.window?).getLast?

/-- The window last asked for is as large as screen and overlay are at this scale. -/
structure Fitted (scale : Nat) (s : Session) : Prop where
  sameScale : s.console.overlay.scale = scale
  window : s.lastWindow? = some (s.windowSize scale)

theorem lastWindow?_tell (s : Session) {events : List ToolkitEvent}
    (quiet : ∀ event ∈ events, event.window? = none) :
    (s.tell events).lastWindow? = s.lastWindow? := by
  rw [lastWindow?, tell, Array.toList_appendList, List.filterMap_append,
    List.filterMap_eq_nil_iff.mpr quiet, List.append_nil, lastWindow?]

theorem Fitted.of_same (fitted : s.Fitted scale)
    (overlay : s'.console.overlay = s.console.overlay) (window : s'.lastWindow? = s.lastWindow?) :
    s'.Fitted scale where
  sameScale := by rw [overlay, fitted.sameScale]
  window := by rw [window, fitted.window, windowSize, windowSize, overlay]

theorem Fitted.tell (fitted : s.Fitted scale) {events : List ToolkitEvent}
    (quiet : ∀ event ∈ events, event.window? = none) : (s.tell events).Fitted scale :=
  fitted.of_same rfl (s.lastWindow?_tell quiet)

/-- A window is asked for even if the toolkit refuses it. -/
theorem fitted_openWindow (t : Toolkit) (same : s.console.overlay.scale = scale) :
    (s.openWindow t scale).1.Fitted scale := by
  have asked : (s.tell [.windowRequested (s.windowSize scale).1 (s.windowSize scale).2]).Fitted
      scale := by
    refine ⟨same, ?_⟩
    simp [lastWindow?, Session.tell, ToolkitEvent.window?, windowSize]
  rw [openWindow]
  cases t.openWindow <;> exact asked

theorem fitted_andThen {part : Session × Progress} (fitted : part.1.Fitted scale)
    {next : Session → Session × Progress}
    (follows : ∀ s : Session, s.Fitted scale → (next s).1.Fitted scale) :
    (andThen part next).1.Fitted scale := by
  obtain ⟨s, progress⟩ := part
  cases progress with
  | going => exact follows s fitted
  | quit | faulted | broken => exact fitted

/-! ### Events -/

theorem fitted_handleKey (fitted : s.Fitted scale) (code : Int) (pressed : Bool) :
    { s with console := s.console.handleKey code pressed }.Fitted scale :=
  fitted.of_same (s.console.overlay_handleKey code pressed) rfl

theorem fitted_handle (fitted : s.Fitted scale) (input : Input) :
    (s.handle t scale input).1.Fitted scale := by
  cases input with
  | keyDown code =>
      have quiet := s.console.window?_handleControl code
      rw [handle, keyDown_eq_andThen]
      refine fitted_andThen ?_ fun s fitted => fitted_handleKey fitted code true
      split
      · exact fitted_openWindow t ((s.console.scale_handleControl code).trans fitted.sameScale)
      · rename_i stays
        exact fitted.of_same (s.console.overlay_handleControl code (Bool.eq_false_iff.mpr stays))
          (lastWindow?_tell _ quiet)
  | keyUp code => exact fitted_handleKey fitted code false
  | close => exact fitted.of_same rfl rfl
  | other => exact fitted

theorem fitted_handleAll (fitted : s.Fitted scale) (inputs : List Input) :
    (s.handleAll t scale inputs).1.Fitted scale := by
  induction inputs generalizing s with
  | nil => exact fitted
  | cons input rest ih =>
      rw [handleAll_cons]
      exact fitted_andThen (fitted_handle fitted input) fun s fitted => ih fitted

/-! ### Frames -/

theorem fitted_checkQuit (fitted : s.Fitted scale) : s.checkQuit.1.Fitted scale := by
  rw [checkQuit]
  split <;> exact fitted

theorem fitted_stepMachine (fitted : s.Fitted scale) : s.stepMachine.1.Fitted scale := by
  rw [stepMachine]
  cases s.console.machine.step.outcome <;> exact fitted.of_same rfl rfl

theorem fitted_updateBeeper (fitted : s.Fitted scale) : (s.updateBeeper t).1.Fitted scale := by
  have quiet := Beeper.window?_update t s.console.beeper
    (s.console.machine.soundActive && s.console.machine.runState = .running)
  simp only [updateBeeper]
  split <;> exact fitted.of_same rfl (lastWindow?_tell _ quiet)

theorem Fitted.present (fitted : s.Fitted scale) (settings : Settings) :
    (s.showTitle.present settings).Fitted scale := by
  have titled : s.showTitle.Fitted scale := fitted.tell (by simp [ToolkitEvent.window?])
  refine titled.tell ?_
  simp [picture, Surface.events, ToolkitEvent.window?, or_imp, forall_and]

theorem fitted_frame (fitted : s.Fitted settings.scale) (number : Nat) (inputs : List Input) :
    (s.frame t settings number inputs).1.Fitted settings.scale :=
  fitted_andThen (fitted_handleAll (fitted.tell (by simp [ToolkitEvent.window?])) inputs)
    fun _ handled => fitted_andThen (fitted_checkQuit handled)
    fun _ awake => fitted_andThen (fitted_stepMachine awake)
    fun _ stepped => fitted_andThen (fitted_updateBeeper stepped)
    fun _ updated => updated.present settings

/-- By induction on the frames: the first is preceded by a request for a window, and each hands on
what it finds. -/
theorem Reached.fitted {m : Machine} {schedule : List (List Input)} {number : Nat}
    (reached : Reached t settings m schedule number s) : s.Fitted settings.scale := by
  induction reached with
  | first =>
      have opened : ((((begin settings m).tell [.started]).openWindow t settings.scale).1).Fitted
          settings.scale := fitted_openWindow t rfl
      exact opened.tell (by simp [ToolkitEvent.window?])
  | @next number s next _ going ih =>
      have framed := fitted_frame (t := t) ih number (inputsOf schedule number)
      rw [← scheduledFrame, going] at framed
      exact framed

end Window.Session

end Chip8
