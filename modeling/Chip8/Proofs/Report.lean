import Chip8.Headless.Runner

/-!
# The report of a stop

Of everything that the headless runner reports only a dump file can go wrong. If it can be written,
or there is none, the report is told in one piece by the reason of the stop and the machine there.
-/

namespace Chip8.Headless

open Machine

variable {s : Settings} {fs : FileSystem}

/-- What a stopped machine is shown as on the output: its memory, unless that goes to a file or is
not wanted, and then its screen, if that is wanted. -/
def Settings.shown (s : Settings) (m : Machine) : List Chunk :=
  (if s.dump = none then (dumpContent? m s.ranges s.format).toList.map DumpContent.chunk else [])
    ++ if s.screen then [.line (m.core.screen.render "#" ".")] else []

/-- The file that the memory of a stopped machine goes to, if it does. -/
def Settings.filed (s : Settings) (m : Machine) : List (Path × List UInt8) :=
  s.dump.toList.flatMap fun target =>
    (dumpContent? m s.ranges s.format).toList.map fun content =>
      (Path.ofText target, content.chunk.bytes)

theorem writeDump_of_writable {target : Option String}
    (writable : ∀ text, target = some text → fs.writeFile (Path.ofText text) = .ok ())
    (content : DumpContent) :
    writeDump fs target content =
      .ok (if target = none then [content.chunk] else [],
        target.toList.map fun text => (Path.ofText text, content.chunk.bytes)) := by
  cases target with
  | none => rfl
  | some text =>
      rw [writeDump, writable text rfl]
      rfl

theorem report_of_writable
    (writable : ∀ text, s.dump = some text → fs.writeFile (Path.ofText text) = .ok ())
    (run : Run) (stop : Stop) :
    s.report fs run stop =
      { ending := .exited (exitCode stop)
        output := run.lines.toList.map .line ++ s.shown run.machine
        complaints := faultNote stop ++ stopNote stop
        seeds := [s.seed]
        written := s.filed run.machine } := by
  cases dumped : dumpContent? run.machine s.ranges s.format with
  | none =>
      simp [Settings.report, Settings.shown, Settings.filed, dumped]
  | some content =>
      simp only [Settings.report, Settings.shown, Settings.filed, dumped,
        writeDump_of_writable writable content]
      cases s.dump <;> simp

/-- A fault is reported before the dump, so it is reported whatever becomes of the dump file. -/
theorem complaints_report_of_fault (s : Settings) (fs : FileSystem) (run : Run) (fault : Fault) :
    (s.report fs run (.fault fault)).complaints = faultNote (.fault fault) := by
  simp only [Settings.report]
  split <;> rfl

/-! ### The reason, told by the report -/

theorem faultNote_of_ne_fault {stop : Stop} (noFault : ∀ fault, stop ≠ .fault fault) :
    faultNote stop = [] := by
  cases stop with
  | fault fault => exact absurd rfl (noFault fault)
  | halted | breakpoint | limit => rfl

theorem exitCode_eq_four_iff (stop : Stop) : exitCode stop = 4 ↔ ∃ fault, stop = .fault fault := by
  cases stop <;> simp [exitCode]

theorem exitCode_eq_two_iff (stop : Stop) : exitCode stop = 2 ↔ stop = .limit := by
  cases stop <;> simp [exitCode]

theorem exitCode_eq_zero_iff (stop : Stop) :
    exitCode stop = 0 ↔ stop = .halted ∨ stop = .breakpoint := by
  cases stop <;> simp [exitCode]

theorem notes_eq_nil_iff (stop : Stop) :
    faultNote stop ++ stopNote stop = [] ↔ stop = .breakpoint := by
  cases stop <;> simp [faultNote, stopNote]

end Chip8.Headless
