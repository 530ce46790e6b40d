import Mathlib
import Chip8.Files.Tree
import Chip8.Headless.Runner
import Chip8.Proofs.FileNames
import Chip8.Proofs.Stopping

/-!
# File errors of the headless runner

The runner answers most of what can go wrong with a file by an exit code or by refusing its command
line. Of what the names and the files of `FileSystem` can do, three things it does not answer: the
name of the program or of the dump file holds a zero character, or the system refuses to write the
dump file. Then the error itself is the ending.
-/

namespace Chip8

namespace Headless

variable {s : Settings} {fs : FileSystem} {generator : Option Int → RandomBytes} {patience : Nat}

/-- The run of a program, if it can be read, and the reason for its stop, if it stops. -/
def Settings.play (s : Settings) (generator : Option Int → RandomBytes) (patience : Nat)
    (rom : Rom) : Machine.Run × Option Stop :=
  (s.machine rom (generator s.seed)).runUntil (s.breakpoints.map Int.ofNat) s.stepLimit patience

/-- The program can be read, its run stops, and its memory is wanted in a file of this name. -/
structure Settings.DumpsTo (s : Settings) (fs : FileSystem)
    (generator : Option Int → RandomBytes) (patience : Nat) (target : String) : Prop where
  wanted : s.format ≠ .none
  given : s.dump = some target
  stops : ∃ rom, Rom.ofFile? fs (Path.ofText s.rom) = .ok rom ∧
    (s.play generator patience rom).2 ≠ none

/-- The file errors that the runner does not answer. -/
inductive Settings.Escapes (s : Settings) (fs : FileSystem)
    (generator : Option Int → RandomBytes) (patience : Nat) : FileError → Prop
  | romName (zero : '\x00' ∈ s.rom.toList) : Escapes s fs generator patience .zeroCharacter
  | dumpName {target : String} (dumps : s.DumpsTo fs generator patience target)
      (zero : '\x00' ∈ target.toList) : Escapes s fs generator patience .zeroCharacter
  | dumpFile {target : String} {e : SystemError} (dumps : s.DumpsTo fs generator patience target)
      (named : '\x00' ∉ target.toList) (refused : fs.write (Path.ofText target) = .error e) :
      Escapes s fs generator patience (.system e (Path.ofText target))

/-! ### Endings -/

/-- The error of the dump, if memory is wanted in a file that cannot be written. -/
def Settings.dumpError? (s : Settings) (fs : FileSystem) : Option FileError :=
  if s.format = .none then none
  else s.dump.bind fun target =>
    match fs.writeFile (Path.ofText target) with
    | .error e => some e
    | .ok _ => none

theorem Settings.dumpError?_eq_some_iff {e : FileError} :
    s.dumpError? fs = some e ↔ s.format ≠ .none ∧
      ∃ target, s.dump = some target ∧ fs.writeFile (Path.ofText target) = .error e := by
  rw [dumpError?]
  by_cases unwanted : s.format = .none
  · simp [unwanted]
  · rw [if_neg unwanted, Option.bind_eq_some_iff, and_iff_right unwanted]
    refine exists_congr fun target => and_congr_right fun _ => ?_
    cases fs.writeFile (Path.ofText target) <;> simp

/-- A stopped run is reported by its exit code, unless its dump cannot be written. -/
theorem Settings.ending_report (s : Settings) (fs : FileSystem) (run : Machine.Run) (stop : Stop) :
    (s.report fs run stop).ending =
      ((s.dumpError? fs).map .raised).getD (.exited (exitCode stop)) := by
  simp only [Settings.report, dumpError?]
  cases format : s.format with
  | none => rfl
  | hex | binary =>
      simp only [dumpContent?]
      cases s.dump with
      | none => rfl
      | some target =>
          cases written : fs.writeFile (Path.ofText target) <;>
            simp [writeDump, written, bind, Except.bind, pure, Except.pure]

theorem Settings.run_of_zero (zero : '\x00' ∈ s.rom.toList) :
    s.run fs generator patience = { ending := .raised .zeroCharacter } := by
  simp only [Settings.run, (Rom.ofFile?_eq_zeroCharacter_iff fs s.rom).mpr zero]

theorem Settings.run_of_unreadable (named : '\x00' ∉ s.rom.toList) {e : RomFileError}
    (unread : Rom.ofFile? fs (Path.ofText s.rom) = .error e) :
    s.run fs generator patience =
      { ending := .exited 1, complaints := ["Failed to load rom: " ++ e.message] } := by
  have reported : e ≠ .zeroCharacter := by
    rintro rfl
    exact named ((Rom.ofFile?_eq_zeroCharacter_iff fs s.rom).mp unread)
  cases e with
  | zeroCharacter => exact absurd rfl reported
  | _ => simp only [Settings.run, unread]

theorem Settings.ending_run_of_unstopped {rom : Rom}
    (read : Rom.ofFile? fs (Path.ofText s.rom) = .ok rom)
    (unstopped : (s.play generator patience rom).2 = none) :
    (s.run fs generator patience).ending = .unfinished := by
  rw [Settings.play] at unstopped
  simp only [Settings.run, read, unstopped]

theorem Settings.ending_run_of_stopped {rom : Rom}
    (read : Rom.ofFile? fs (Path.ofText s.rom) = .ok rom) {stop : Stop}
    (stopped : (s.play generator patience rom).2 = some stop) :
    (s.run fs generator patience).ending =
      ((s.dumpError? fs).map .raised).getD (.exited (exitCode stop)) := by
  rw [Settings.play] at stopped
  simp only [Settings.run, read, stopped, ending_report]

/-- A dump that cannot be written takes the place of the exit code. -/
theorem Settings.ending_run_of_dumpsTo {target : String} {e : FileError}
    (dumps : s.DumpsTo fs generator patience target)
    (refused : fs.writeFile (Path.ofText target) = .error e) :
    (s.run fs generator patience).ending = .raised e := by
  obtain ⟨wanted, given, rom, read, stops⟩ := dumps
  obtain ⟨stop, stopped⟩ := Option.ne_none_iff_exists'.mp stops
  have dumpError : s.dumpError? fs = some e :=
    dumpError?_eq_some_iff.mpr ⟨wanted, target, given, refused⟩
  rw [ending_run_of_stopped read stopped, dumpError]
  rfl

theorem exitCode_mem (stop : Stop) : exitCode stop ∈ [0, 1, 2, 4] := by
  cases stop <;> simp [exitCode]

/-- Every ending of a runner with these settings, a file error with its cause. -/
theorem Settings.ending_run_cases (s : Settings) (fs : FileSystem)
    (generator : Option Int → RandomBytes) (patience : Nat) :
    (∃ e, (s.run fs generator patience).ending = .raised e ∧
      s.Escapes fs generator patience e) ∨
    (∃ rom, Rom.ofFile? fs (Path.ofText s.rom) = .ok rom ∧
      (s.play generator patience rom).2 = none ∧
      (s.run fs generator patience).ending = .unfinished) ∨
    ∃ code ∈ [0, 1, 2, 4], (s.run fs generator patience).ending = .exited code := by
  by_cases zero : '\x00' ∈ s.rom.toList
  · exact .inl ⟨.zeroCharacter, by rw [run_of_zero zero], .romName zero⟩
  · cases read : Rom.ofFile? fs (Path.ofText s.rom) with
    | error e => exact .inr (.inr ⟨1, by simp, by rw [run_of_unreadable zero read]⟩)
    | ok rom =>
        cases stopped : (s.play generator patience rom).2 with
        | none => exact .inr (.inl ⟨rom, rfl, stopped, ending_run_of_unstopped read stopped⟩)
        | some stop =>
            rw [ending_run_of_stopped read stopped]
            cases dumpError : s.dumpError? fs with
            | none => exact .inr (.inr ⟨exitCode stop, exitCode_mem stop, rfl⟩)
            | some e =>
                obtain ⟨wanted, target, given, refused⟩ := dumpError?_eq_some_iff.mp dumpError
                have dumps : s.DumpsTo fs generator patience target :=
                  ⟨wanted, given, rom, read, by rw [stopped]; simp⟩
                refine .inl ⟨e, rfl, ?_⟩
                rcases fs.writeFile_eq_error_iff.mp refused with
                  ⟨zero, rfl⟩ | ⟨named, refusal, no, rfl⟩
                · exact .dumpName dumps zero
                · exact .dumpFile dumps named no

theorem Settings.ending_eq_raised_iff {e : FileError} :
    (s.run fs generator patience).ending = .raised e ↔ s.Escapes fs generator patience e := by
  constructor
  · intro raised
    rcases s.ending_run_cases fs generator patience with
      ⟨e', raised', escapes⟩ | ⟨_, -, -, unfinished⟩ | ⟨_, -, exited⟩
    · cases raised.symm.trans raised'
      exact escapes
    · cases raised.symm.trans unfinished
    · cases raised.symm.trans exited
  · intro escapes
    cases escapes with
    | romName zero => rw [run_of_zero zero]
    | dumpName dumps zero =>
        exact ending_run_of_dumpsTo dumps (fs.writeFile_eq_error_iff.mpr (.inl ⟨zero, rfl⟩))
    | dumpFile dumps named refused =>
        exact ending_run_of_dumpsTo dumps
          (fs.writeFile_eq_error_iff.mpr (.inr ⟨named, _, refused, rfl⟩))

theorem Settings.ending_eq_unfinished_iff :
    (s.run fs generator patience).ending = .unfinished ↔
      s.stepLimit = none ∧ ∃ rom, Rom.ofFile? fs (Path.ofText s.rom) = .ok rom ∧
        ∀ k < patience,
          (s.machine rom (generator s.seed)).GoesOn (s.breakpoints.map Int.ofNat) k := by
  constructor
  · intro unfinished
    rcases s.ending_run_cases fs generator patience with
      ⟨_, raised, -⟩ | ⟨rom, read, unstopped, -⟩ | ⟨_, -, exited⟩
    · cases unfinished.symm.trans raised
    · obtain ⟨unlimited, goesOn⟩ := (Machine.runUntil_eq_none_iff patience).mp unstopped
      exact ⟨unlimited, rom, read, goesOn⟩
    · cases unfinished.symm.trans exited
  · rintro ⟨unlimited, rom, read, goesOn⟩
    exact ending_run_of_unstopped read
      ((Machine.runUntil_eq_none_iff patience).mpr ⟨unlimited, goesOn⟩)

/-! ### The whole command line -/

theorem runner_of_words {words : List String} (valid : Settings.ofWords words = .ok s) :
    runner fs generator patience words = s.run fs generator patience := by
  simp only [runner, valid]

theorem ending_runner_of_refused {words : List String} {e : UsageError}
    (refused : Settings.ofWords words = .error e) :
    (runner fs generator patience words).ending = .refused e := by
  simp only [runner, refused]
  split
  · rename_i same
    cases same
    rfl
  · rename_i same
    cases same
    rfl
  · rename_i same
    cases same

/-- The runner ends with one of its four exit codes or by refusing the command line, unless a run
without a limit goes on for ever or one of three file errors escapes: the name of the program or of
the dump file has a zero character, or the dump file cannot be written. Every other failure to read
the program is reported, with code 1. -/
theorem file_errors_that_escape (fs : FileSystem) (generator : Option Int → RandomBytes)
    (patience : Nat) (words : List String) :
    let report := runner fs generator patience words
    (∀ e, report.ending = .raised e ↔
      ∃ s, Settings.ofWords words = .ok s ∧ s.Escapes fs generator patience e) ∧
    (report.ending = .unfinished ↔
      ∃ s, Settings.ofWords words = .ok s ∧ s.stepLimit = none ∧
        ∃ rom, Rom.ofFile? fs (Path.ofText s.rom) = .ok rom ∧
          ∀ k < patience,
            (s.machine rom (generator s.seed)).GoesOn (s.breakpoints.map Int.ofNat) k) ∧
    ((∃ e, report.ending = .raised e) ∨ report.ending = .unfinished ∨
      (∃ e, Settings.ofWords words = .error e ∧ report.ending = .refused e) ∨
      ∃ code ∈ [0, 1, 2, 4], report.ending = .exited code) ∧
    ∀ s e, Settings.ofWords words = .ok s → '\x00' ∉ s.rom.toList →
      Rom.ofFile? fs (Path.ofText s.rom) = .error e →
        report = { ending := .exited 1, complaints := ["Failed to load rom: " ++ e.message] } := by
  intro report
  cases valid : Settings.ofWords words with
  | error refusal =>
      have ending : report.ending = .refused refusal := ending_runner_of_refused valid
      simp [ending]
  | ok s =>
      have run : report = s.run fs generator patience := runner_of_words valid
      simp only [run, Except.ok.injEq, exists_eq_left']
      refine ⟨fun e => s.ending_eq_raised_iff, s.ending_eq_unfinished_iff, ?_, ?_⟩
      · rcases s.ending_run_cases fs generator patience with
          ⟨e, raised, -⟩ | ⟨_, -, -, unfinished⟩ | exited
        · exact .inl ⟨e, raised⟩
        · exact .inr (.inl unfinished)
        · exact .inr (.inr (.inr exited))
      · rintro _ e rfl named unread
        exact Settings.run_of_unreadable named unread

/-- A dump that is to go where a directory is: the run ends at its step limit, but no exit code
tells of it. -/
theorem dump_into_directory_escapes :
    let tree : Tree := { files := [(["r.ch8"], [0x12, 0x00])], directories := [["d"]] }
    let words := ["--rom", "r.ch8", "--dump", "d"]
    (runner tree.toFileSystem (fun _ => ⟨fun _ => 0, 0⟩) 0 words).ending =
      .raised (.system .isDirectory ⟨.workingDirectory, ["d"]⟩) := by
  intro tree words
  have valid : Settings.ofWords words =
      .ok { rom := "r.ch8", stepLimit := some 600, breakpoints := [], pressed := [],
            dump := some "d", ranges := [], format := .hex, screen := false, trace := false,
            seed := none } := by
    cbv
  have read : Rom.ofFile? tree.toFileSystem (Path.ofText "r.ch8") =
      .ok ⟨"r.ch8", [0x12, 0x00], by decide⟩ := by
    cbv
  have refused : tree.toFileSystem.write (Path.ofText "d") = .error .isDirectory := by cbv
  have path : Path.ofText "d" = ⟨.workingDirectory, ["d"]⟩ := by cbv
  rw [runner_of_words valid, Settings.ending_eq_raised_iff, ← path]
  refine .dumpFile ⟨by simp, rfl, _, read, fun unstopped => ?_⟩ (by decide) refused
  cases ((Machine.runUntil_eq_none_iff 0).mp unstopped).1

end Headless

end Chip8
