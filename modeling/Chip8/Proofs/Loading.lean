import Chip8.Proofs.Memory
import Chip8.Proofs.Operation

/-!
# Loading programs

An image is measured when it is made and again by the memory that it is copied to. Both draw the
line at the length past which the copy would come round to the glyphs, so what passes the first
check passes the second, and a load is all or nothing: it is refused for its size and leaves the
machine as it was, or it changes the cells of its image, the program counter and the name. Loads
thus lie over one another, and each cell shows the byte of the last image that was long enough to
reach it.
-/

namespace Chip8

theorem Rom.ofBytes_of_fits {name : String} {data : List UInt8}
    (fits : data.length ≤ Memory.programLimit) : Rom.ofBytes name data = .ok ⟨name, data, fits⟩ :=
  dif_pos fits

theorem Rom.ofBytes_of_large {name : String} {data : List UInt8}
    (large : Memory.programLimit < data.length) :
    Rom.ofBytes name data = .error ⟨name, data.length⟩ :=
  (Rom.ofBytes_eq_error_iff name data _).mpr ⟨large, rfl⟩

/-- The image that an operation loads, if it offers one and the image fits. -/
def Operation.accepted? : Operation → Option Rom
  | .load name bytes => (Rom.ofBytes name bytes).toOption
  | .insert rom => some rom
  | _ => none

/-- The images that a history loads, in order. -/
def Operation.images (history : List Operation) : List Rom := history.filterMap accepted?

/-- Who refuses a load. -/
inductive LoadError
  | image (e : RomTooLarge)
  | memory (e : Memory.ProgramTooLong)
  deriving DecidableEq

/-- Above the glyphs memory starts out blank. -/
theorem Memory.load_initial {a : Nat} (above : glyphs.length ≤ a) (inside : a < 4096) :
    initial.load a = 0 := by
  have short : glyphs.length = 80 := rfl
  rw [initial, Ram.load_setBlock_of_ne _ _ _ _ fun k hk => ?_, Ram.load_blank]
  show (0 + k : Int) % 4096 ≠ a % 4096
  omega

namespace Machine

variable {m : Machine}

/-! ### One load -/

/-- A load whose image is checked where it is made and by the memory that takes it. -/
def checkedLoad (m : Machine) (name : String) (bytes : List UInt8) : Except LoadError Machine := do
  let rom ← (Rom.ofBytes name bytes).mapError .image
  let memory ← (m.core.memory.loadProgram? rom.data).mapError .memory
  return { m with
    core := { m.core with memory, pc := UInt16.ofNat Memory.entryPoint }
    romName := rom.name }

/-- Memory takes every image. -/
theorem checkedLoad_of_rom (m : Machine) (rom : Rom) :
    m.checkedLoad rom.name rom.data = .ok (m.insert rom) := by
  have taken : m.core.memory.loadProgram? rom.data
      = .ok (m.core.memory.setBlock Memory.entryPoint rom.data) :=
    if_neg (Nat.not_lt.mpr rom.fits)
  rw [checkedLoad, Rom.ofBytes_of_fits rom.fits]
  change (m.core.memory.loadProgram? rom.data).mapError LoadError.memory >>= _ = _
  rw [taken]
  rfl

theorem checkedLoad_eq (m : Machine) (name : String) (bytes : List UInt8) :
    m.checkedLoad name bytes = (m.load name bytes).mapError .image := by
  by_cases fits : bytes.length ≤ Memory.programLimit
  · rw [load, Rom.ofBytes_of_fits fits]
    exact m.checkedLoad_of_rom ⟨name, bytes, fits⟩
  · rw [checkedLoad, load, Rom.ofBytes_of_large (Nat.lt_of_not_le fits)]
    rfl

theorem load_of_large (m : Machine) (name : String) {bytes : List UInt8}
    (large : Memory.programLimit < bytes.length) :
    m.load name bytes = .error ⟨name, bytes.length⟩ ∧
      m.apply (.load name bytes) = ⟨m, .refused ⟨name, bytes.length⟩, none⟩ := by
  have refused : m.load name bytes = .error ⟨name, bytes.length⟩ := by
    rw [load, Rom.ofBytes_of_large large]
    rfl
  refine ⟨refused, ?_⟩
  simp only [apply, refused]

theorem load_of_rom (m : Machine) (rom : Rom) :
    m.load rom.name rom.data = .ok (m.insert rom) ∧
      m.apply (.load rom.name rom.data) = ⟨m.insert rom, .done, none⟩ := by
  have loaded : m.load rom.name rom.data = .ok (m.insert rom) := by
    rw [load, Rom.ofBytes_of_fits rom.fits]
    rfl
  refine ⟨loaded, ?_⟩
  simp only [apply, loaded]

/-! ### The cells of an image -/

theorem cell_insert (m : Machine) (rom : Rom) {k : Nat} (hk : k < rom.data.length) :
    (m.insert rom).core.memory.load (Memory.entryPoint + k : Nat) = rom.data[k] := by
  have fits : rom.data.length ≤ 4096 := Nat.le_trans rom.fits (by decide)
  rw [Int.natCast_add]
  exact m.core.memory.load_setBlock _ _ fits hk

theorem cell_insert_of_outside (m : Machine) (rom : Rom) {a : Nat} (inside : a < 4096)
    (outside : a < Memory.entryPoint ∨ Memory.entryPoint + rom.data.length ≤ a) :
    (m.insert rom).core.memory.load a = m.core.memory.load a := by
  refine Ram.load_setBlock_of_ne _ _ _ _ fun k hk => ?_
  have fits := rom.fits
  simp only [Memory.programLimit, Memory.entryPoint] at fits outside ⊢
  omega

/-- A cell of the program area shows the byte of the image that reaches it. -/
theorem cell_insert_eq (m : Machine) (rom : Rom) {k : Nat} (hk : k < Memory.programLimit) :
    (m.insert rom).core.memory.load (Memory.entryPoint + k : Nat)
      = rom.data[k]?.getD (m.core.memory.load (Memory.entryPoint + k : Nat)) := by
  by_cases reached : k < rom.data.length
  · rw [m.cell_insert rom reached, List.getElem?_eq_getElem reached]
    rfl
  · have past := Nat.le_of_not_lt reached
    have inside : Memory.entryPoint + k < 4096 := by
      simp only [Memory.programLimit, Memory.entryPoint] at hk ⊢
      omega
    rw [m.cell_insert_of_outside rom inside (.inr (by omega)), List.getElem?_eq_none past]
    rfl

/-! ### Many loads -/

theorem apply_of_accepted {op : Operation} {rom : Rom} (h : op.accepted? = some rom) :
    (m.apply op).machine = m.insert rom := by
  cases op with
  | load name bytes =>
      simp only [Operation.accepted?] at h
      simp only [apply, load]
      cases made : Rom.ofBytes name bytes with
      | error e =>
          rw [made] at h
          cases h
      | ok rom' =>
          rw [made] at h
          cases h
          rfl
  | insert rom' =>
      cases h
      rfl
  | _ => cases h

theorem apply_of_not_accepted {op : Operation} (notStep : op ≠ .step)
    (h : op.accepted? = none) :
    (m.apply op).machine.core
        = { m.core with keypad := (m.apply op).machine.core.keypad } ∧
      (m.apply op).machine.romName = m.romName := by
  cases op with
  | step => exact absurd rfl notStep
  | load name bytes =>
      simp only [Operation.accepted?] at h
      simp only [apply, load]
      cases made : Rom.ofBytes name bytes with
      | error e => exact ⟨rfl, rfl⟩
      | ok rom =>
          rw [made] at h
          cases h
  | insert rom => cases h
  | togglePause => simp only [apply, togglePause_eq, and_self]
  | _ => exact ⟨rfl, rfl⟩

/-- By induction on the history: what no operation but a load changes is as the last load that
changes it has left it. -/
theorem view_after_loads {α : Type} (view : Machine → α) (new : Rom → Option α)
    (inserted : ∀ m rom, view (m.insert rom) = (new rom).getD (view m))
    (kept : ∀ m op, op ≠ .step → op.accepted? = none → view (m.apply op).machine = view m)
    {history : List Operation} (noStep : ∀ op ∈ history, op ≠ .step) (m : Machine) :
    view (m.after history) = ((Operation.images history).filterMap new).getLastD (view m) := by
  induction history generalizing m with
  | nil => rfl
  | cons op rest ih =>
      rw [after_cons, ih fun later h => noStep later (List.mem_cons_of_mem op h)]
      cases loads : op.accepted? with
      | none =>
          rw [kept m op (noStep op List.mem_cons_self) loads, Operation.images, Operation.images,
            List.filterMap_cons_none loads]
      | some rom =>
          rw [apply_of_accepted loads, inserted, Operation.images, Operation.images,
            List.filterMap_cons_some loads]
          cases changed : new rom with
          | none => rw [List.filterMap_cons_none changed, Option.getD_none]
          | some value => rw [List.filterMap_cons_some changed, List.getLastD_cons, Option.getD_some]

theorem cell_after_loads {history : List Operation} (noStep : ∀ op ∈ history, op ≠ .step) {k : Nat}
    (hk : k < Memory.programLimit) (m : Machine) :
    (m.after history).core.memory.load (Memory.entryPoint + k : Nat)
      = ((Operation.images history).filterMap (·.data[k]?)).getLastD
          (m.core.memory.load (Memory.entryPoint + k : Nat)) :=
  view_after_loads (fun m => m.core.memory.load (Memory.entryPoint + k : Nat)) (·.data[k]?)
    (fun m rom => m.cell_insert_eq rom hk)
    (fun _ _ notStep none => by rw [(apply_of_not_accepted notStep none).1]) noStep m

theorem romName_after_loads {history : List Operation} (noStep : ∀ op ∈ history, op ≠ .step)
    (m : Machine) :
    (m.after history).romName = ((Operation.images history).map Rom.name).getLastD m.romName := by
  rw [← List.filterMap_eq_map]
  exact view_after_loads romName (fun rom => some rom.name) (fun _ _ => rfl)
    (fun _ _ notStep none => (apply_of_not_accepted notStep none).2) noStep m

/-- An image that is too long is refused, where it is made and by a load, with its name and its
length, and changes nothing. Any other is loaded: its bytes lie from the entry point on, the program
counter and the name are set, and nothing else changes, no other cell either. So after loads without
a step in between, a cell of the program area holds the byte of the last image that was long enough,
and the name is that of the last image. Memory, which checks once more, never refuses what has passed
as an image. -/
theorem loads_whole_and_overlaid :
    (∀ (m : Machine) (name : String) (bytes : List UInt8), 3584 < bytes.length →
      let e : RomTooLarge := ⟨name, bytes.length⟩
      Rom.ofBytes name bytes = .error e ∧ m.load name bytes = .error e ∧
        m.apply (.load name bytes) = { machine := m, response := .refused e, line := none }) ∧
    (∀ (m : Machine) (name : String) (bytes : List UInt8), bytes.length ≤ 3584 →
      ∃ rom loaded, Rom.ofBytes name bytes = .ok rom ∧ rom.name = name ∧ rom.data = bytes ∧
        m.load name bytes = .ok loaded ∧
        m.apply (.load name bytes) = { machine := loaded, response := .done, line := none } ∧
        loaded =
          { m with
            core := { m.core with memory := loaded.core.memory, pc := 0x200 }
            romName := name } ∧
        (∀ k (hk : k < bytes.length),
          loaded.core.memory.load (0x200 + k : Nat) = bytes[k]) ∧
        (∀ a : Nat, a < 4096 → a < 0x200 ∨ 0x200 + bytes.length ≤ a →
          loaded.core.memory.load a = m.core.memory.load a)) ∧
    (∀ (random : RandomBytes) (history : List Operation), (∀ op ∈ history, op ≠ .step) →
      let ended := (initial random).after history
      (∀ k < 3584, ended.core.memory.load (0x200 + k : Nat)
        = ((Operation.images history).filterMap (·.data[k]?)).getLastD 0) ∧
      ended.romName = ((Operation.images history).map Rom.name).getLastD "") ∧
    (∀ (m : Machine) (name : String) (bytes : List UInt8),
      m.checkedLoad name bytes = (m.load name bytes).mapError .image) ∧
    (∀ (m : Machine) (rom : Rom),
      m.checkedLoad rom.name rom.data = .ok (m.insert rom) ∧
        m.load rom.name rom.data = .ok (m.insert rom)) := by
  refine ⟨fun m name bytes large => ?_, fun m name bytes fits => ?_,
    fun random history noStep => ⟨fun k hk => ?_, ?_⟩, checkedLoad_eq,
    fun m rom => ⟨m.checkedLoad_of_rom rom, (m.load_of_rom rom).1⟩⟩
  · obtain ⟨refused, applied⟩ := m.load_of_large name large
    exact ⟨Rom.ofBytes_of_large large, refused, applied⟩
  · let rom : Rom := ⟨name, bytes, fits⟩
    obtain ⟨loaded, applied⟩ := m.load_of_rom rom
    exact ⟨rom, m.insert rom, Rom.ofBytes_of_fits fits, rfl, rfl, loaded, applied, rfl,
      fun k hk => m.cell_insert rom hk, fun a => m.cell_insert_of_outside rom⟩
  · have above : Memory.glyphs.length ≤ Memory.entryPoint + k :=
      Nat.le_trans (by decide) (Nat.le_add_right _ k)
    have blank : (initial random).core.memory.load (Memory.entryPoint + k : Nat) = 0 :=
      Memory.load_initial above (by simp only [Memory.entryPoint]; omega)
    rw [← blank]
    exact cell_after_loads noStep hk _
  · exact romName_after_loads noStep _

/-- Of three images the second is too long by one byte and the third is the shortest, so the second
cell of the program area still shows the first. -/
theorem loads_whole_and_overlaid_of_three :
    let start := initial ⟨fun _ => 0, 0⟩
    let tooLong := List.replicate 3585 (7 : UInt8)
    let history : List Operation := [.load "a" [1, 2], .load "b" tooLong, .load "c" [3]]
    let ended := start.after history
    start.load "b" tooLong = .error ⟨"b", 3585⟩ ∧
      (∃ loaded, start.load "c" [3] = .ok loaded ∧ loaded.core.memory.load (0x200 : Nat) = 3) ∧
      ended.core.memory.load (0x200 : Nat) = 3 ∧ ended.core.memory.load (0x201 : Nat) = 2 ∧
      ended.core.memory.load (0x202 : Nat) = 0 ∧ ended.romName = "c" := by
  intro start tooLong
  have length : tooLong.length = 3585 := List.length_replicate
  clear_value tooLong
  intro history ended
  have noStep : ∀ op ∈ history, op ≠ .step := by simp [history]
  obtain ⟨refused, accepted, overlaid, -, -⟩ := loads_whole_and_overlaid
  obtain ⟨unmade, refusal, -⟩ := refused start "b" tooLong (by omega)
  obtain ⟨-, loaded, -, -, -, ok, -, -, cells, -⟩ := accepted start "c" [3] (by decide)
  have images : Operation.images history = [⟨"a", [1, 2], by decide⟩, ⟨"c", [3], by decide⟩] := by
    have skipped : Operation.accepted? (.load "b" tooLong) = none :=
      congrArg Except.toOption unmade
    simp only [Operation.images, history, List.filterMap_cons, skipped]
    rfl
  obtain ⟨cell, name⟩ := overlaid ⟨fun _ => 0, 0⟩ history noStep
  rw [images] at cell name
  refine ⟨by rw [refusal, length], ⟨loaded, ok, cells 0 (by decide)⟩, ?_, ?_, ?_, name⟩
  · exact cell 0 (by decide)
  · exact cell 1 (by decide)
  · exact cell 2 (by decide)

end Machine

end Chip8
