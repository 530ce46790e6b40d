import Mathlib
import Chip8.Files.Tree
import Chip8.Proofs.FileNames
import Chip8.Proofs.InTune
import Chip8.Window.Program

/-!
# How the window program ends

Whatever the words, the environment, the files, the toolkit and the events are, the program either
plays a session to its end, or it says why it does not, with two exceptions: the name of the program
file holds a zero character, or there is no toolkit. `Ends` gives every ending its cause. The mixer
is in none of them, since a beeper goes on without it, and neither is a sound's volume, start or
stop, which no `Toolkit` refuses.
-/

namespace Chip8.Window

variable {fs : FileSystem} {env : Environment} {generator : Option Int → RandomBytes} {t : Toolkit}
  {inputs : List (List Input)} {words : List String} {settings : Settings}

/-- The words and the environment are understood, and these are the settings they give. -/
def Configures (env : Environment) (words : List String) (settings : Settings) : Prop :=
  ∃ options, Options.ofWords words = .ok options ∧ options.settings env = .ok settings

/-- The program file can be read too, so that only the toolkit is needed for a session. -/
def Ready (fs : FileSystem) (env : Environment) (words : List String) : Prop :=
  ∃ settings rom, Configures env words settings ∧
    Rom.ofFile? fs (Path.ofText settings.rom) = .ok rom

/-- The endings of the program, each with its cause. -/
inductive Ends (fs : FileSystem) (env : Environment) (t : Toolkit) (words : List String) :
    Ending → Prop
  | refused {e : CommandLine.Error} (invalid : Options.ofWords words = .error e) :
      Ends fs env t words (.refused e)
  | option {options : Options} {e : SettingsError} (valid : Options.ofWords words = .ok options)
      (invalid : options.settings env = .error e) : Ends fs env t words (.stopped e.message)
  | zeroCharacter {settings : Settings} (configures : Configures env words settings)
      (zero : '\x00' ∈ settings.rom.toList) : Ends fs env t words (.raised .zeroCharacter)
  | unread {settings : Settings} {e : RomFileError} (configures : Configures env words settings)
      (named : '\x00' ∉ settings.rom.toList)
      (unread : Rom.ofFile? fs (Path.ofText settings.rom) = .error e) :
      Ends fs env t words (.stopped ("couldn't create a rom from the file: " ++ e.message))
  | noToolkit {complaint : String} (ready : Ready fs env words)
      (missing : t.missing = some complaint) : Ends fs env t words (.noToolkit complaint)
  | toolkit {complaint : String} (ready : Ready fs env words)
      (present : t.missing = none) (refuses : t.Refuses complaint) :
      Ends fs env t words (.stopped complaint)
  | closed (ready : Ready fs env words) (present : t.missing = none) :
      Ends fs env t words .closed
  | faulted (ready : Ready fs env words) (present : t.missing = none) :
      Ends fs env t words .faulted

theorem play_of_missing {complaint : String} (missing : t.missing = some complaint) (m : Machine) :
    (play t settings m inputs).report.ending = .noToolkit complaint := by
  simp only [play, missing]

/-- A session that the toolkit does not refuse is played to its end. -/
theorem ending_play (present : t.missing = none) (settings : Settings) (m : Machine)
    (inputs : List (List Input)) :
    (∃ complaint, t.Refuses complaint ∧
      (play t settings m inputs).report.ending = .stopped complaint) ∨
    (play t settings m inputs).report.ending = .closed ∨
    (play t settings m inputs).report.ending = .faulted := by
  rcases Session.run_cases t settings m inputs with
    ⟨s, complaint, ran, refuses⟩ | ⟨s, progress, ran, -, unbroken⟩
  all_goals simp only [play, present, ran]
  · exact .inl ⟨complaint, refuses, rfl⟩
  · cases progress with
    | going | quit => exact .inr (.inl rfl)
    | faulted => exact .inr (.inr rfl)
    | broken complaint => exact absurd rfl (unbroken complaint)

theorem Settings.run_of_zero (zero : '\x00' ∈ settings.rom.toList) :
    (settings.run fs generator t inputs).report.ending = .raised .zeroCharacter := by
  simp only [Settings.run, (Rom.ofFile?_eq_zeroCharacter_iff fs settings.rom).mpr zero]

theorem Settings.run_of_unread (named : '\x00' ∉ settings.rom.toList) {e : RomFileError}
    (unread : Rom.ofFile? fs (Path.ofText settings.rom) = .error e) :
    (settings.run fs generator t inputs).report.ending =
      .stopped ("couldn't create a rom from the file: " ++ e.message) := by
  have reported := mt (Rom.ofFile?_eq_zeroCharacter_iff fs settings.rom).mp named
  cases e with
  | zeroCharacter => exact absurd unread reported
  | unreadable | tooLarge => simp only [Settings.run, unread]

theorem Settings.run_of_read {rom : Rom}
    (read : Rom.ofFile? fs (Path.ofText settings.rom) = .ok rom) :
    settings.run fs generator t inputs =
      play t settings (((Machine.initial (generator none)).insert rom).enableTrace settings.trace)
        inputs := by
  simp only [Settings.run, read]

theorem program_of_configures (configures : Configures env words settings) :
    program fs env generator t inputs words = settings.run fs generator t inputs := by
  obtain ⟨options, valid, chosen⟩ := configures
  simp only [program, valid, chosen]

theorem program_of_zero (configures : Configures env words settings)
    (zero : '\x00' ∈ settings.rom.toList) :
    (program fs env generator t inputs words).report.ending = .raised .zeroCharacter := by
  rw [program_of_configures configures, Settings.run_of_zero zero]

theorem program_of_missing (ready : Ready fs env words) {complaint : String}
    (missing : t.missing = some complaint) :
    (program fs env generator t inputs words).report.ending = .noToolkit complaint := by
  obtain ⟨settings, rom, configures, read⟩ := ready
  rw [program_of_configures configures, Settings.run_of_read read, play_of_missing missing]

theorem ends_program (fs : FileSystem) (env : Environment) (generator : Option Int → RandomBytes)
    (t : Toolkit) (inputs : List (List Input)) (words : List String) :
    Ends fs env t words (program fs env generator t inputs words).report.ending := by
  cases valid : Options.ofWords words with
  | error e =>
      have ending : (program fs env generator t inputs words).report.ending = .refused e := by
        cases e <;> simp only [program, valid]
      exact ending ▸ .refused valid
  | ok options =>
      cases chosen : options.settings env with
      | error e =>
          simp only [program, valid, chosen]
          exact .option valid chosen
      | ok settings =>
          have configures : Configures env words settings := ⟨options, valid, chosen⟩
          by_cases zero : '\x00' ∈ settings.rom.toList
          · rw [program_of_zero configures zero]
            exact .zeroCharacter configures zero
          cases read : Rom.ofFile? fs (Path.ofText settings.rom) with
          | error e =>
              rw [program_of_configures configures, Settings.run_of_unread zero read]
              exact .unread configures zero read
          | ok rom =>
              have ready : Ready fs env words := ⟨settings, rom, configures, read⟩
              cases missing : t.missing with
              | some complaint =>
                  rw [program_of_missing ready missing]
                  exact .noToolkit ready missing
              | none =>
                  rw [program_of_configures configures, Settings.run_of_read read]
                  rcases ending_play missing settings _ inputs with
                    ⟨complaint, refuses, ending⟩ | ending | ending
                  all_goals rw [ending]
                  · exact .toolkit ready missing refuses
                  · exact .closed ready missing
                  · exact .faulted ready missing

/-- The window program ends for one of the causes of `Ends`. So an error escapes it in two cases
only, and in these it does: the command line and the environment are understood and the name of the
program file has a zero character, or the program is read and there is no toolkit. Whether a mixer
can be opened plays no part. -/
theorem errors_that_escape (fs : FileSystem) (env : Environment)
    (generator : Option Int → RandomBytes) (t : Toolkit) (inputs : List (List Input))
    (words : List String) :
    let ending := (program fs env generator t inputs words).report.ending
    Ends fs env t words ending ∧
    (∀ e, ending = .raised e ↔ e = .zeroCharacter ∧
      ∃ settings, Configures env words settings ∧ '\x00' ∈ settings.rom.toList) ∧
    ∀ complaint, ending = .noToolkit complaint ↔
      t.missing = some complaint ∧ Ready fs env words := by
  intro ending
  have ends : Ends fs env t words ending := ends_program fs env generator t inputs words
  refine ⟨ends, fun e => ⟨fun raised => ?_, ?_⟩, fun complaint => ⟨fun noToolkit => ?_, ?_⟩⟩
  · rw [raised] at ends
    cases ends with
    | zeroCharacter configures zero => exact ⟨rfl, _, configures, zero⟩
  · rintro ⟨rfl, settings, configures, zero⟩
    exact program_of_zero configures zero
  · rw [noToolkit] at ends
    cases ends with
    | noToolkit ready missing => exact ⟨missing, ready⟩
  · rintro ⟨missing, ready⟩
    exact program_of_missing ready missing

/-- A program file that can be read, and no toolkit: the complaint about it is the ending. -/
theorem missing_toolkit_escapes :
    let tree : Tree := { files := [(["r.ch8"], [0x12, 0x00])], directories := [] }
    let toolkit : Toolkit := { missing := some "no toolkit" }
    let played := program tree.toFileSystem {} (fun _ => ⟨fun _ => 0, 0⟩) toolkit [] ["-f", "r.ch8"]
    played.report.ending = .noToolkit "no toolkit" := by
  intro tree toolkit played
  have configures : Configures {} ["-f", "r.ch8"]
      { rom := "r.ch8", scale := 10, fps := 60, fg := .white, bg := .black, audio := true,
        keypad := false, trace := false, scale_pos := by decide } := by
    refine ⟨{ rom := "r.ch8" }, by cbv, ?_⟩
    cbv
  have read : Rom.ofFile? tree.toFileSystem (Path.ofText "r.ch8") =
      .ok ⟨"r.ch8", [0x12, 0x00], by decide⟩ := by
    cbv
  exact program_of_missing ⟨_, _, configures, read⟩ rfl

end Chip8.Window
