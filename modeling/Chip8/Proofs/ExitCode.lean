import Mathlib
import Chip8.Proofs.Fault
import Chip8.Proofs.Keypad
import Chip8.Proofs.Report
import Chip8.Proofs.Stopping

/-!
# What the headless runner reports

With a command line and a program that can be read, everything the runner reports is a function of
where its run ends: the exit code and the words on the error output tell the reason, and the dump
and the screen show the machine of just that moment. After a fault this is the machine that the
faulting step found, which waits no longer.
-/

namespace Chip8.Headless

open CommandLine Machine

variable {s : Settings}

/-! ### Settings -/

theorem stepLimit_of_settings {o : Options} (h : o.settings = .ok s) :
    s.stepLimit = if o.steps > 0 then some o.steps else none := by
  simp only [Options.settings, bind, Except.bind] at h
  split at h
  · cases h
  · split at h
    · cases h
    · split at h
      · cases h
      · cases h
        rfl

theorem Settings.runState_machine (s : Settings) (rom : Rom) (random : RandomBytes) :
    (s.machine rom random).runState = .running := by
  have held : s.machine rom random
      = (((Machine.initial random).insert rom).enableTrace s.trace).press s.pressed := rfl
  rw [held, press_eq]
  rfl

/-! ### The report -/

theorem ofFile?_of_readable {fs : FileSystem} {path : Path} {data : List UInt8}
    (readable : fs.readFile path = .ok data) (fits : data.length ≤ Memory.programLimit) :
    Rom.ofFile? fs path = .ok ⟨path.name, data, fits⟩ := by
  simp only [Rom.ofFile?, readable, Rom.ofBytes, fits, dif_pos]
  rfl

theorem runner_of_runUntil {fs : FileSystem} {generator : Option Int → RandomBytes} {patience : Nat}
    {words : List String} {rom : Rom} {run : Run} {stop : Stop}
    (valid : Settings.ofWords words = .ok s) (read : Rom.ofFile? fs (Path.ofText s.rom) = .ok rom)
    (ran : (s.machine rom (generator s.seed)).runUntil (s.breakpoints.map Int.ofNat) s.stepLimit
      patience = (run, some stop)) :
    runner fs generator patience words = s.report fs run stop := by
  simp only [runner, valid, Settings.run, read, ran]

/-- The report of a run that ends. -/
theorem runner_of_ends {fs : FileSystem} {generator : Option Int → RandomBytes} {patience : Nat}
    {words : List String} {data : List UInt8} {start : Machine} {number : Nat} {stop : Stop}
    (valid : Settings.ofWords words = .ok s) (readable : fs.readFile (Path.ofText s.rom) = .ok data)
    (fits : data.length ≤ Memory.programLimit)
    (writable : ∀ text, s.dump = some text → fs.writeFile (Path.ofText text) = .ok ())
    (loaded : start = s.machine ⟨(Path.ofText s.rom).name, data, fits⟩ (generator s.seed))
    (ends : start.Ends (s.breakpoints.map Int.ofNat) s.stepLimit number stop)
    (inTime : s.stepLimit = none → number ≤ patience) :
    runner fs generator patience words =
      { ending := .exited (exitCode stop)
        output := (start.lines (List.replicate number .step)).map .line
          ++ s.shown (start.afterSteps number)
        complaints := faultNote stop ++ stopNote stop
        seeds := [s.seed]
        written := s.filed (start.afterSteps number) } := by
  obtain ⟨run, ran, machine, lines⟩ := runUntil_of_ends ends inTime
  rw [loaded] at ran
  rw [runner_of_runUntil valid (ofFile?_of_readable readable fits) ran, report_of_writable writable,
    machine, lines]

/-- A step that faults leaves what it found, but for the waiting flag. -/
theorem afterSteps_of_fault {m : Machine} (running : m.runState = .running) {number : Nat}
    {breakpoints : List Int} {limit : Option Int} {fault : Fault}
    (ends : m.Ends breakpoints limit number (.fault fault)) :
    ∃ before, number = before + 1 ∧ m.afterSteps number = (m.afterSteps before).awake := by
  cases ends with
  | @fault before _ _ _ faults =>
      refine ⟨before, rfl, ?_⟩
      rw [afterSteps_succ']
      exact step_machine_of_fault ((m.runState_afterSteps before).trans running) faults

/-- With options that are valid, a program that can be read and fits, and a dump file, if any, that
can be written, a run that stops ends in one way: code 4 if a step faults first, 2 if a positive
limit is used up first, and 0 if a breakpoint or a halted machine comes first. The error output is
empty for a breakpoint only. Whatever the reason, the output is the trace of the steps up to the
end, then the memory and then the screen of the machine as it is there; after a fault that is the
machine before the step that faulted, no longer waiting. -/
theorem exit_code_tells_end (fs : FileSystem) (generator : Option Int → RandomBytes)
    (patience : Nat) (words : List String) {given : List (Key × Value)} {data : List UInt8}
    {start : Machine}
    (parsed : CommandLine.parse specs words = .ok given)
    (valid : (given.foldl Options.set {}).settings = .ok s)
    (readable : fs.readFile (Path.ofText s.rom) = .ok data) (fits : data.length ≤ 3584)
    (writable : ∀ text, s.dump = some text → fs.writeFile (Path.ofText text) = .ok ())
    (loaded : start = s.machine ⟨(Path.ofText s.rom).name, data, fits⟩ (generator s.seed))
    (stops : (given.foldl Options.set {}).steps ≤ 0 →
      ∃ k < patience, ¬ start.GoesOn (s.breakpoints.map Int.ofNat) k) :
    let steps := (given.foldl Options.set {}).steps
    let Ends := start.Ends (s.breakpoints.map Int.ofNat) (if steps > 0 then some steps else none)
    let report := runner fs generator patience words
    (∃ number stop, Ends number stop) ∧
    (report.ending = .exited 4 ↔ ∃ number fault, Ends number (.fault fault)) ∧
    (report.ending = .exited 2 ↔ ∃ number, Ends number .limit) ∧
    (report.ending = .exited 0 ↔ ∃ number, Ends number .halted ∨ Ends number .breakpoint) ∧
    (steps ≤ 0 → report.ending ≠ .exited 2) ∧
    (report.complaints = [] ↔ ∃ number, Ends number .breakpoint) ∧
    ∀ number stop, Ends number stop →
      let stopped := start.afterSteps number
      report.ending = .exited (exitCode stop) ∧
        report.output = (start.lines (List.replicate number .step)).map .line ++ s.shown stopped ∧
        report.written = s.filed stopped ∧
        ∀ fault, stop = .fault fault → ∃ before, number = before + 1 ∧
          stopped =
            { start.afterSteps before with
              core := { (start.afterSteps before).core with waiting := false } } := by
  intro steps Ends report
  have limit : s.stepLimit = if steps > 0 then some steps else none := stepLimit_of_settings valid
  have ofWords : Settings.ofWords words = .ok s := by
    rw [Settings.ofWords, parsed]
    exact valid
  have running : start.runState = .running := by
    rw [loaded]
    exact s.runState_machine _ _
  have stops' : s.stepLimit = none →
      ∃ k < patience, ¬ start.GoesOn (s.breakpoints.map Int.ofNat) k := by
    intro unlimited
    refine stops (Int.not_lt.mp fun positive => ?_)
    rw [limit, if_pos positive] at unlimited
    cases unlimited
  obtain ⟨number, stop, ends, inTime⟩ := exists_ends stops'
  have reported := runner_of_ends ofWords readable fits writable loaded ends inTime
  rw [limit] at ends
  have ending : report.ending = .exited (exitCode stop) := congrArg Report.ending reported
  have complaints : report.complaints = faultNote stop ++ stopNote stop :=
    congrArg Report.complaints reported
  refine ⟨⟨number, stop, ends⟩, ?_, ?_, ?_, fun unlimited => ?_, ?_, fun number' stop' other => ?_⟩
  · rw [ending, Ending.exited.injEq, exitCode_eq_four_iff, exists_comm]
    exact exists_congr fun fault => ends.eq_iff (.fault fault)
  · rw [ending, Ending.exited.injEq, exitCode_eq_two_iff]
    exact ends.eq_iff .limit
  · rw [ending, Ending.exited.injEq, exitCode_eq_zero_iff, exists_or]
    exact or_congr (ends.eq_iff .halted) (ends.eq_iff .breakpoint)
  · rw [ending, Ne, Ending.exited.injEq, exitCode_eq_two_iff]
    rintro rfl
    cases ends with
    | limit limited _ =>
        rw [if_neg (Int.not_lt.mpr unlimited)] at limited
        cases limited
  · rw [complaints, notes_eq_nil_iff]
    exact ends.eq_iff .breakpoint
  · obtain ⟨rfl, rfl⟩ := ends.unique other
    refine ⟨ending, congrArg Report.output reported, congrArg Report.written reported, ?_⟩
    rintro fault rfl
    exact afterSteps_of_fault running other

/-- A program whose second step is a return without a call, run with a limit of nine steps and a
binary dump of four cells to a file. -/
theorem exit_code_tells_end_of_fault :
    let program : List UInt8 := [0x6A, 0x07, 0x00, 0xEE]
    let fs : FileSystem := ⟨fun _ => .ok program, fun _ => .ok ()⟩
    let random : RandomBytes := ⟨fun _ => 0, 0⟩
    let words :=
      ["--rom", "a", "--steps", "9", "--dump", "d", "--dump-format=bin", "--dump-range", "200:203"]
    let given : List (Key × Value) :=
      [(.rom, .text "a"), (.steps, .integer 9), (.dump, .text "d"), (.dumpFormat, .text "bin"),
        (.dumpRange, .text "200:203")]
    let s : Settings :=
      { rom := "a", stepLimit := some 9, breakpoints := [], pressed := [], dump := some "d"
        ranges := [⟨0x200, 0x203⟩], format := .binary, screen := false, trace := false
        seed := none }
    let start := s.machine ⟨(Path.ofText s.rom).name, program, by decide⟩ random
    let report := runner fs (fun _ => random) 0 words
    CommandLine.parse specs words = .ok given ∧ (given.foldl Options.set {}).settings = .ok s ∧
      start.Ends [] (some 9) 2 (.fault ⟨.stackUnderflow, 0x202, ⟨0x00EE⟩⟩) ∧
      report.ending = .exited 4 ∧ report.output = [] ∧
      report.written = [(⟨.workingDirectory, ["d"]⟩, program)] := by
  intro program fs random words given s start report
  have parsed : CommandLine.parse specs words = .ok given := by cbv
  have valid : (given.foldl Options.set {}).settings = .ok s := by cbv
  have readable : fs.readFile (Path.ofText s.rom) = .ok program := by cbv
  have writable : ∀ text, s.dump = some text → fs.writeFile (Path.ofText text) = .ok () := by
    rintro text ⟨⟩
    cbv
  have bounded : (given.foldl Options.set {}).steps = 9 := by decide +kernel
  have goesOn : ∀ k < 1, start.GoesOn [] k := by
    intro k early
    obtain rfl : k = 0 := by omega
    have first : (start.afterSteps 0).step.outcome
        = .ok ⟨0x200, some ⟨0x6A07⟩, .executed⟩ := by decide +kernel
    exact goesOn_of_outcome first (by decide) List.not_mem_nil
  have faults : start.FaultsAt 1 ⟨.stackUnderflow, 0x202, ⟨0x00EE⟩⟩ := by
    have second : (start.afterSteps 1).step.outcome
        = .error ⟨.stackUnderflow, 0x202, ⟨0x00EE⟩⟩ := by decide +kernel
    exact second
  have within : Within (some 9) 1 := by
    rintro steps ⟨⟩
    decide
  have ends : start.Ends [] (some 9) 2 (.fault ⟨.stackUnderflow, 0x202, ⟨0x00EE⟩⟩) :=
    .fault within goesOn faults
  have told := exit_code_tells_end fs (fun _ => random) 0 words parsed valid readable (by decide)
    writable rfl fun unlimited => by rw [bounded] at unlimited; exact absurd unlimited (by decide)
  rw [bounded] at told
  obtain ⟨-, -, -, -, -, -, told⟩ := told
  obtain ⟨ending, output, written, -⟩ := told 2 _ ends
  have path : Path.ofText "d" = ⟨.workingDirectory, ["d"]⟩ := by cbv
  have dumped : dumpContent? (start.afterSteps 2) s.ranges s.format = some (.bytes program) := by
    decide +kernel
  have untraced : start.lines (List.replicate 2 .step) = [] := by decide +kernel
  refine ⟨parsed, valid, ends, ending, ?_, ?_⟩
  · rw [output, untraced]
    rfl
  · rw [written, ← path, Settings.filed, dumped]
    rfl

end Chip8.Headless
