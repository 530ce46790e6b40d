import Chip8.Machine

/-!
# Running until something stops

A run steps the machine until a step faults, the program counter leaves memory, the program counter
after a step is a breakpoint, or a number of steps is used up. The program counter before the first
step is never a breakpoint.
-/

namespace Chip8

inductive Stop
  | fault (f : Fault)
  | halted
  | breakpoint
  | limit
  deriving DecidableEq

namespace Machine

/-- A run so far: the machine, the steps completed and the trace lines written. -/
structure Run where
  machine : Machine
  steps : Nat := 0
  lines : Array String := #[]

namespace Run

def advance (r : Run) (stepped : Stepped) : Run :=
  { machine := stepped.machine, steps := r.steps + 1, lines := r.lines ++ stepped.line.toList }

/-- The run with a step that faulted, which is not counted. -/
def faulted (r : Run) (stepped : Stepped) : Run :=
  { r with machine := stepped.machine, lines := r.lines ++ stepped.line.toList }

end Run

def atBreakpoint (m : Machine) (breakpoints : List Int) : Bool :=
  breakpoints.contains (m.core.pc.toNat : Int)

/-- Continues a run for at most the given number of steps; no stop means that they are used up. -/
def resume (breakpoints : List Int) : Nat → Run → Run × Option Stop
  | 0, r => (r, none)
  | remaining + 1, r =>
      let stepped := r.machine.step
      match stepped.outcome with
      | .error fault => (r.faulted stepped, some (.fault fault))
      | .ok result =>
          if result.status = .halted then (r.advance stepped, some .halted)
          else if stepped.machine.atBreakpoint breakpoints then
            (r.advance stepped, some .breakpoint)
          else resume breakpoints remaining (r.advance stepped)

/-- Runs for at most `limit` steps, or without a limit. A run without a limit need not stop, so it
is followed for `patience` steps, and there is no stop if it goes on after them. -/
def runUntil (m : Machine) (breakpoints : List Int) (limit : Option Int) (patience : Nat) :
    Run × Option Stop :=
  match limit with
  | some steps =>
      let (run, stop) := resume breakpoints steps.toNat { machine := m }
      (run, some (stop.getD .limit))
  | none => resume breakpoints patience { machine := m }

end Machine

end Chip8
