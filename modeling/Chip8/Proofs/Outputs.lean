import Chip8.Proofs.EqualBut

/-!
# What is only shown

The tone, the waiting flag, the volume, the name of the program and the trace go to the user and
never come back: two machines that differ there alone have the same results for ever. The screen
comes back through one bit, the collision that a drawing reports, so two machines with different
screens keep the same results for as long as they report the same collisions, and clearing the
screen makes them one.
-/

namespace Chip8.Machine

variable {p : Parts} {m n : Machine} {before : List Operation}

theorem mem_executed_of_split {later : List Operation} {i : Instruction}
    (executed : ((m.after before).apply .step).response.executed? = some i) :
    i ∈ m.executed (before ++ .step :: later) := by
  induction before generalizing m with
  | nil => exact (m.mem_executed_cons_iff .step later i).mpr (.inl executed)
  | cons op rest ih => exact (m.mem_executed_cons_iff op _ i).mpr (.inr (ih executed))

/-- Where nothing is drawn no collision is reported. -/
theorem sameCollisions_of_not_drawn {history : List Operation}
    (none : ∀ i ∈ m.executed history, i.kind ≠ .drw) : m.SameCollisions n history := by
  intro before later split x y rows drawn
  subst split
  exact absurd rfl (none _ (mem_executed_of_split drawn))

theorem screen_of_cls {op : Operation} (cleared : (m.apply op).response.executed? = some .cls) :
    (m.apply op).machine.core.screen = .blank 64 32 := by
  obtain ⟨d, hd, hm⟩ := apply_of_executed cleared
  cases hd
  rw [hm]
  rfl

/-- After the screen is cleared it does not differ any more. -/
theorem EqualBut.step_cls (same : EqualBut p m n) (keypad : p.keypad = false)
    (cleared : (m.apply .step).response.executed? = some .cls) :
    m.step.outcome = n.step.outcome ∧
      EqualBut { p with screen := false } m.step.machine n.step.machine := by
  have noKeys : p.keypad = true → m.ReadsSame n := by
    intro hidden
    rw [keypad] at hidden
    cases hidden
  have noDrawing : m.CollidesSame n := by
    intro x y rows drawn
    cases cleared.symm.trans drawn
  obtain ⟨outcome, machine⟩ := same.step noKeys fun _ => noDrawing
  have cleared' : (n.apply .step).response.executed? = some .cls := by
    rw [apply_step, ← outcome]
    exact cleared
  have blank := (screen_of_cls cleared).trans (screen_of_cls cleared').symm
  exact ⟨outcome, { machine with core := { machine.core with screen := fun _ => blank } }⟩

theorem EqualBut.after_cls (same : EqualBut p m n) (keypad : p.keypad = false)
    (collides : m.SameCollisions n before)
    (cleared : ((m.after before).apply .step).response.executed? = some .cls)
    (later : List Operation) :
    m.outcomes (before ++ .step :: later) = n.outcomes (before ++ .step :: later) ∧
      EqualBut { p with screen := false } (m.after (before ++ .step :: later))
        (n.after (before ++ .step :: later)) := by
  obtain ⟨first, reached⟩ := same.after keypad before fun _ => collides
  obtain ⟨outcome, clear⟩ := reached.step_cls keypad cleared
  obtain ⟨last, ended⟩ := clear.after keypad later nofun
  rw [outcomes_append, outcomes_append, outcomes_cons, outcomes_cons, after_append, after_append,
    first, apply_step, apply_step, outcome, last]
  exact ⟨rfl, ended⟩

/-- The machine with another screen. -/
def withScreen (m : Machine) (screen : Screen 64 32) : Machine :=
  { m with core := { m.core with screen } }

theorem equalBut_withScreen (m : Machine) (screen : Screen 64 32) :
    EqualBut { screen := true } m (m.withScreen screen) :=
  { EqualBut.refl { screen := true } m with
    core := { Core.EqualBut.refl { screen := true } m.core with screen := nofun } }

/-- The machine with other outputs than the screen. -/
def withOutputs (m : Machine) (sound : UInt8) (waiting : Bool) (volume : Volume) (romName : String)
    (tracing : Bool) : Machine :=
  { m with core := { m.core with sound, waiting }, volume, romName, tracing }

theorem equalBut_withOutputs (m : Machine) (sound : UInt8) (waiting : Bool) (volume : Volume)
    (romName : String) (tracing : Bool) :
    EqualBut { sound := true, volume := true, romName := true, waiting := true, tracing := true } m
      (m.withOutputs sound waiting volume romName tracing) where
  core := { Core.EqualBut.refl {} m.core with sound := nofun, waiting := nofun }
  runState := rfl
  volume := nofun
  romName := nofun
  tracing := nofun

/-- Two machines that differ at most in what is only shown have the same results in all steps and
never differ in more. If they differ in the screen, this is so as long as all drawings report the
same collisions, in particular if there are none, and once the screen is cleared nothing differs any
more. The random bytes to come are the same in both; how many were drawn before may differ too. -/
theorem outputs_decide_nothing (drawn : Bool) :
    (∀ (m n : Machine) (history : List Operation),
      let outputs : Parts :=
        { sound := true, volume := true, romName := true, waiting := true, tracing := true, drawn }
      EqualBut outputs m n →
        m.outcomes history = n.outcomes history ∧
          EqualBut outputs (m.after history) (n.after history)) ∧
    (∀ m n : Machine, EqualBut { screen := true, drawn } m n →
      (∀ history : List Operation,
        (m.SameCollisions n history ∨ ∀ i ∈ m.executed history, i.kind ≠ .drw) →
          m.outcomes history = n.outcomes history ∧
            EqualBut { screen := true, drawn } (m.after history) (n.after history)) ∧
      (∀ before later : List Operation, m.SameCollisions n before →
        ((m.after before).apply .step).response.executed? = some .cls →
          let history := before ++ .step :: later
          m.outcomes history = n.outcomes history ∧
            EqualBut { drawn } (m.after history) (n.after history) ∧
            (drawn = false → m.after history = n.after history))) := by
  refine ⟨?_, fun m n same => ⟨?_, ?_⟩⟩
  · intro m n history outputs same
    exact same.after rfl history nofun
  · intro history alike
    exact same.after rfl history fun _ => alike.elim id sameCollisions_of_not_drawn
  · intro before later collides cleared history
    obtain ⟨outcomes, ended⟩ := same.after_cls rfl collides cleared later
    refine ⟨outcomes, ended, ?_⟩
    rintro rfl
    exact ended.eq

/-- A program that draws the glyph of zero in the corner and clears the screen: once with a tone, the
waiting flag, less volume, another name and the trace, and once with a lit pixel far from the
glyph. -/
theorem outputs_decide_nothing_of_glyph :
    let m := (initial ⟨fun _ => 0, 0⟩).insert
      ⟨"a", [0xA0, 0x00, 0xD0, 0x05, 0x00, 0xE0], by decide⟩
    let loud := m.withOutputs 7 true Volume.full.down "b" true
    let lit := m.withScreen ((Screen.blank 64 32).draw 40 20 [0x80]).1
    let before : List Operation := [.step, .step]
    let history : List Operation := [.step, .step, .step]
    EqualBut { sound := true, volume := true, romName := true, waiting := true, tracing := true } m
        loud ∧
      EqualBut { screen := true } m lit ∧ m.SameCollisions lit before ∧
      (m.after before).core.screen.litCount ≠ (lit.after before).core.screen.litCount ∧
      m.outcomes history = loud.outcomes history ∧ m.outcomes before = lit.outcomes before ∧
      m.after history = lit.after history := by
  intro m loud lit before history
  have shown := m.equalBut_withOutputs 7 true Volume.full.down "b" true
  have screens := m.equalBut_withScreen ((Screen.blank 64 32).draw 40 20 [0x80]).1
  have loads : (m.apply .step).response.executed? = some (.ldI 0) := by decide +kernel
  have apart : ((m.after [.step]).apply .step).machine.core.reg Core.flag
      = ((lit.after [.step]).apply .step).machine.core.reg Core.flag := by decide +kernel
  have cleared : ((m.after before).apply .step).response.executed? = some .cls := by decide +kernel
  have differ : (m.after before).core.screen.litCount ≠ (lit.after before).core.screen.litCount := by
    decide +kernel
  have collides : m.SameCollisions lit before := by
    intro first later split x y rows drawn
    obtain rfl | rfl : first = [] ∨ first = [.step] := by
      rcases first with _ | ⟨_, _ | ⟨_, _ | ⟨_, _⟩⟩⟩ <;> simp [before] at split
      · exact .inl rfl
      · exact .inr (by rw [split.1])
    · cases loads.symm.trans drawn
    · exact apart
  obtain ⟨unheard, unseen⟩ := outputs_decide_nothing false
  obtain ⟨results, -⟩ := unheard m loud history shown
  obtain ⟨drawings, clearing⟩ := unseen m lit screens
  obtain ⟨results', -⟩ := drawings before (.inl collides)
  obtain ⟨-, -, whole⟩ := clearing before [] collides cleared
  exact ⟨shown, screens, collides, differ, results, results', whole rfl⟩

end Chip8.Machine
