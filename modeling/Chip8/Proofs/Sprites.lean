import Chip8.Proofs.Fetch
import Chip8.Proofs.Strokes

/-!
# Sprites from memory

The instruction that draws reads its rows from the cells at the index register, its corner from two
registers, and writes the flag register last. So the bit that it lays over a pixel is told by the
core that it finds, and a register that is both corner and flag is read before it is written. Drawn
again with the same corner the bits are the same, and the screen is what it was.
-/

namespace Chip8

namespace Core

variable (c : Core) (x y rows : Fin 16)

/-- The rows of the sprite at the index register. -/
def sprite (rows : Fin 16) : List Int :=
  (c.memory.loadBlock c.index.toNat rows.val).map fun byte => (byte.toNat : Int)

/-- The bit of a sprite in memory that lies over a pixel when the sprite is drawn with its top left
corner at `Vx`, `Vy`, false where none does. -/
def spriteBit (px : Fin 64) (py : Fin 32) : Bool :=
  let left := (c.reg x).toNat % 64
  let top := (c.reg y).toNat % 32
  if (left ≤ px.val ∧ px.val < left + 8) ∧ top ≤ py.val ∧ py.val < top + rows.val then
    (c.memory.load ((c.index.toNat + (py.val - top)) % 4096 : Nat)).toNat.testBit
      (7 - (px.val - left))
  else false

theorem length_sprite : (c.sprite rows).length = rows.val := by
  rw [sprite, List.length_map, Ram.length_loadBlock]

theorem getElem_sprite {k : Nat} (hk : k < (c.sprite rows).length) :
    (c.sprite rows)[k] = ((c.memory.load ((c.index.toNat + k) % 4096 : Nat)).toNat : Int) := by
  have cell : c.memory.load ((c.index.toNat + k) % 4096 : Nat)
      = c.memory.load (c.index.toNat + (k : Nat)) := Ram.load_congr _ (by simp)
  rw [cell]
  simp only [sprite, Ram.loadBlock, List.getElem_map, List.getElem_range]

theorem drawnBit_sprite (px : Fin 64) (py : Fin 32) :
    Screen.drawnBit (c.reg x).toNat (c.reg y).toNat (c.sprite rows) px py
      = c.spriteBit x y rows px py := by
  have length := c.length_sprite rows
  simp only [Screen.drawnBit, spriteBit]
  generalize hleft : (c.reg x).toNat % 64 = left
  generalize htop : (c.reg y).toNat % 32 = top
  have column : (px : Int) - ((c.reg x).toNat : Int) % (64 : Nat) = (px : Int) - left := by omega
  have row : (py : Int) - ((c.reg y).toNat : Int) % (32 : Nat) = (py : Int) - top := by omega
  simp only [column, row]
  by_cases placed : (left ≤ px.val ∧ px.val < left + 8) ∧ top ≤ py.val ∧ py.val < top + rows.val
  · have distance : ((py : Int) - top).toNat = py.val - top := by omega
    have distance' : ((px : Int) - left).toNat = px.val - left := by omega
    rw [if_pos placed, dif_pos (by omega), getElem_sprite, distance, distance']
    rfl
  · rw [if_neg placed, dif_neg (by omega)]

/-! ### The instruction -/

theorem screen_drawSprite :
    (c.drawSprite x y rows).screen
      = (c.screen.draw (c.reg x).toNat (c.reg y).toNat (c.sprite rows)).1 := rfl

theorem reg_drawSprite (z : Fin 16) :
    (c.drawSprite x y rows).reg z =
      if flag = z then
        if (c.screen.draw (c.reg x).toNat (c.reg y).toNat (c.sprite rows)).2 then 1 else 0
      else c.reg z :=
  reg_setReg _ flag z _

theorem pixel_drawSprite (px : Fin 64) (py : Fin 32) :
    (c.drawSprite x y rows).screen.pixel px py
      = (c.screen.pixel px py ^^ c.spriteBit x y rows px py) := by
  rw [screen_drawSprite, Screen.pixel_draw (by decide) (by decide), drawnBit_sprite]

/-- Some pixel is lit before the drawing and dark after it. -/
def SwitchesOff (c d : Core) : Prop :=
  ∃ px py, c.screen.pixel px py = true ∧ d.screen.pixel px py = false

theorem reg_flag_drawSprite :
    (c.SwitchesOff (c.drawSprite x y rows) → (c.drawSprite x y rows).reg flag = 1) ∧
      (¬ c.SwitchesOff (c.drawSprite x y rows) → (c.drawSprite x y rows).reg flag = 0) := by
  have collides := c.screen.draw_snd_eq_true_iff (by decide) (by decide)
    (c.reg x).toNat (c.reg y).toNat (c.sprite rows)
  rw [← screen_drawSprite] at collides
  rw [reg_drawSprite, if_pos rfl]
  exact ⟨fun off => if_pos (collides.mpr off), fun none => if_neg (mt collides.mp none)⟩

theorem screen_drawSprite_twice {c d : Core} (screen : d.screen = (c.drawSprite x y rows).screen)
    (memory : d.memory = c.memory) (index : d.index = c.index) (column : d.reg x = c.reg x)
    (row : d.reg y = c.reg y) : (d.drawSprite x y rows).screen = c.screen := by
  have same : d.sprite rows = c.sprite rows := by rw [sprite, sprite, memory, index]
  rw [screen_drawSprite, same, column, row, screen, screen_drawSprite,
    Screen.draw_draw_fst (by decide) (by decide)]

end Core

namespace Machine

theorem Fetches.draw {m : Machine} {x y rows : Fin 16}
    (h : m.Fetches (0xD000 + 256 * x.val + 16 * y.val + rows.val)) :
    m.Executes ∧
      m.step.machine = { m with core := (m.core.fetched.drawSprite x y rows).tick } := by
  have word : m.core.opcode.word.toNat = 4096 * 0xD + 256 * x.val + 16 * y.val + rows.val :=
    h.toNat_opcode
  obtain ⟨family, column, row, count⟩ := Opcode.fields_of_digits rows.isLt word
  have decoded : m.core.opcode.decode = .drw x y rows := by
    simp only [Opcode.decode, family, column, row, Fin.ext count]
  exact h.executes decoded rfl rfl

/-- The screen after a drawing instruction is the one before it with the bits of the sprite laid
over it, each told by the registers, the index register and the memory before the step. The flag
register tells whether a pixel went dark, whatever it was before and also where it held a coordinate.
Nothing else changes but the program counter and what every step does. With the flag register in
neither place, the same instruction brings the old screen back. -/
theorem sprites_from_memory (m : Machine) (x y rows : Fin 16)
    (h : m.Fetches (0xD000 + 256 * x.val + 16 * y.val + rows.val)) :
    let after := m.step.machine.core
    m.Executes ∧
    (∀ px py, after.screen.pixel px py
      = (m.core.screen.pixel px py ^^ m.core.spriteBit x y rows px py)) ∧
    (m.core.SwitchesOff after → after.reg Core.flag = 1) ∧
    (¬ m.core.SwitchesOff after → after.reg Core.flag = 0) ∧
    (∀ z, z ≠ Core.flag → after.reg z = m.core.reg z) ∧
    after.pc.toNat = m.core.pc.toNat + 2 ∧
    m.step.machine =
      { m with core :=
        { m.core with
          v := after.v
          screen := after.screen
          pc := after.pc
          waiting := false
          delay := Core.countDown m.core.delay
          sound := Core.countDown m.core.sound } } ∧
    (x ≠ Core.flag → y ≠ Core.flag → ∀ n : Machine,
      n.Fetches (0xD000 + 256 * x.val + 16 * y.val + rows.val) →
      n.core.screen = after.screen → n.core.memory = after.memory →
      n.core.index = after.index → n.core.v = after.v →
        n.Executes ∧ n.step.machine.core.screen = m.core.screen) := by
  intro after
  obtain ⟨executes, machine⟩ := h.draw
  have core : after = (m.core.fetched.drawSprite x y rows).tick := congrArg Machine.core machine
  have register (z : Fin 16) (other : z ≠ Core.flag) : after.reg z = m.core.reg z := by
    rw [core, Core.reg_tick, Core.reg_drawSprite, if_neg other.symm]
    rfl
  obtain ⟨dark, bright⟩ := m.core.fetched.reg_flag_drawSprite x y rows
  refine ⟨executes, fun px py => ?_, ?_, ?_, register, ?_, ?_, fun hx hy n h' => ?_⟩
  · rw [core]
    exact m.core.fetched.pixel_drawSprite x y rows px py
  · rw [core]
    exact dark
  · rw [core]
    exact bright
  · rw [core]
    exact Core.toNat_pc_add_two h.inside
  · rw [core, machine]
    rfl
  · intro screen memory index v
    obtain ⟨executes', machine'⟩ := h'.draw
    have same (z : Fin 16) : n.core.reg z = after.reg z := by rw [Core.reg, Core.reg, v]
    rw [core] at screen memory index
    refine ⟨executes', ?_⟩
    rw [machine']
    exact Core.screen_drawSprite_twice x y rows (c := m.core.fetched) (d := n.core.fetched)
      screen memory index ((same x).trans (register x hx)) ((same y).trans (register y hy))

/-- A zero drawn at the lower right corner, where two columns of its upper two rows fit, over a lit
pixel. Drawn once more it brings the old screen back. The second machine has the column in the flag
register and reports the dark pixel there. -/
theorem sprites_from_memory_of_corner :
    let m : UInt8 → Fin 16 → Machine := fun first x =>
      let start := (initial ⟨fun _ => 0, 0⟩).insert ⟨"", [first, 0x15], (by decide : 2 ≤ 3584)⟩
      { start with
        core := { (start.core.setReg x 62).setReg 1 30 with
          screen := (Screen.blank 64 32).toggle 62 31 } }
    let after := (m 0xD0 0).step.machine
    let back := { after with core := { after.core with pc := 0x200 } }
    ((m 0xD0 0).Fetches 0xD015 ∧ after.core.reg Core.flag = 1 ∧
      after.core.screen.pixel 63 30 = true ∧ after.core.screen.pixel 62 31 = false) ∧
    (back.Fetches 0xD015 ∧ back.step.machine.core.screen = (m 0xD0 0).core.screen) ∧
    ((m 0xDF 0xF).Fetches 0xDF15 ∧ (m 0xDF 0xF).core.reg Core.flag = 62 ∧
      (m 0xDF 0xF).step.machine.core.reg Core.flag = 1 ∧
      (m 0xDF 0xF).step.machine.core.screen.pixel 63 30 = true) := by
  intro m after back
  have draw : (m 0xD0 0).Fetches 0xD015 := ⟨rfl, by decide, by decide +kernel⟩
  have again : back.Fetches 0xD015 := ⟨rfl, by decide +kernel, by decide +kernel⟩
  have overlaid : (m 0xDF 0xF).Fetches 0xDF15 := ⟨rfl, by decide, by decide +kernel⟩
  obtain ⟨-, pixel, dark, -, -, -, -, twice⟩ := sprites_from_memory (m 0xD0 0) 0 1 5 draw
  obtain ⟨-, pixel', dark', -⟩ := sprites_from_memory (m 0xDF 0xF) 0xF 1 5 overlaid
  have off : after.core.screen.pixel 62 31 = false := (pixel 62 31).trans (by decide +kernel)
  have off' : (m 0xDF 0xF).step.machine.core.screen.pixel 62 31 = false :=
    (pixel' 62 31).trans (by decide +kernel)
  have lit : (m 0xD0 0).core.screen.pixel 62 31 = true := by decide +kernel
  obtain ⟨-, restored⟩ := twice (by decide) (by decide) back again rfl rfl rfl rfl
  exact ⟨⟨draw, dark ⟨62, 31, lit, off⟩, (pixel 63 30).trans (by decide +kernel), off⟩,
    ⟨again, restored⟩, overlaid, by decide +kernel, dark' ⟨62, 31, lit, off'⟩,
    (pixel' 63 30).trans (by decide +kernel)⟩

end Machine

end Chip8
