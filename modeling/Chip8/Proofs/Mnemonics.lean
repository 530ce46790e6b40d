import Chip8.Instruction.Mnemonic
import Chip8.Proofs.Fetch
import Chip8.Proofs.Patterns

/-!
# What a mnemonic tells

The mnemonic of a word is a template of its form, filled in with digits of the word. The templates of
two forms differ in their length or in a place where no digit of one can be the character of the
other, so a mnemonic tells the form. And each digit of a word is fixed by its form or shown, but for
one: the second register of a shift. So words with the same mnemonic are the same but for that digit,
which is no operand, and a machine that carries out the one does what it would do for the other.
-/

namespace Chip8

/-! ### Templates -/

/-- A character of a mnemonic: always the same, or a digit of the word. -/
inductive Slot
  | literal (c : Char)
  | digit (p : Place)
  deriving DecidableEq

namespace Slot

def char (o : Opcode) : Slot → Char
  | .literal c => c
  | .digit p => Hex.digit (o.digit p)

def literals (text : String) : List Slot := text.toList.map .literal

def register (p : Place) : List Slot := [.literal 'V', .digit p]

def byte : List Slot := [.digit .y, .digit .n]

def address : List Slot := [.digit .x, .digit .y, .digit .n]

def pair (name : String) (first second : List Slot) : List Slot :=
  literals name ++ literals " " ++ first ++ literals ", " ++ second

end Slot

open Slot in
/-- The mnemonic of the words of a form, with places for their digits. -/
def Kind.template : Kind → List Slot
  | .cls => literals "CLS"
  | .ret => literals "RET"
  | .jp => literals "JP " ++ address
  | .call => literals "CALL " ++ address
  | .seByte => pair "SE" (register .x) byte
  | .sneByte => pair "SNE" (register .x) byte
  | .seReg => pair "SE" (register .x) (register .y)
  | .ldByte => pair "LD" (register .x) byte
  | .addByte => pair "ADD" (register .x) byte
  | .ldReg => pair "LD" (register .x) (register .y)
  | .or => pair "OR" (register .x) (register .y)
  | .and => pair "AND" (register .x) (register .y)
  | .xor => pair "XOR" (register .x) (register .y)
  | .addReg => pair "ADD" (register .x) (register .y)
  | .sub => pair "SUB" (register .x) (register .y)
  | .shr => literals "SHR " ++ register .x
  | .subn => pair "SUBN" (register .x) (register .y)
  | .shl => literals "SHL " ++ register .x
  | .sneReg => pair "SNE" (register .x) (register .y)
  | .ldI => pair "LD" (literals "I") address
  | .jpV0 => pair "JP" (literals "V0") address
  | .rnd => pair "RND" (register .x) byte
  | .drw => pair "DRW" (register .x) (register .y) ++ literals ", " ++ [.digit .n]
  | .skp => literals "SKP " ++ register .x
  | .sknp => literals "SKNP " ++ register .x
  | .ldVxDt => pair "LD" (register .x) (literals "DT")
  | .ldVxK => pair "LD" (register .x) (literals "K")
  | .ldDtVx => pair "LD" (literals "DT") (register .x)
  | .ldStVx => pair "LD" (literals "ST") (register .x)
  | .addI => pair "ADD" (literals "I") (register .x)
  | .ldF => pair "LD" (literals "F") (register .x)
  | .ldB => pair "LD" (literals "B") (register .x)
  | .store => pair "LD" (literals "[I]") (register .x)
  | .load => pair "LD" (register .x) (literals "[I]")
  | .unknown => literals "unknown opcode " ++ [.digit .family, .digit .x, .digit .y, .digit .n]

namespace Opcode

variable (o : Opcode)

/-! ### The mnemonic of a word -/

theorem map_literals (text : String) : (Slot.literals text).map (Slot.char o) = text.toList := by
  simp only [Slot.literals, List.map_map]
  exact List.map_id _

theorem map_pair (name : String) (first second : List Slot) :
    (Slot.pair name first second).map (Slot.char o)
      = name.toList ++ " ".toList ++ first.map (Slot.char o) ++ ", ".toList
        ++ second.map (Slot.char o) := by
  simp only [Slot.pair, List.map_append, map_literals]

theorem toList_pair (name first second : String) :
    (Instruction.pair name first second).toList
      = name.toList ++ " ".toList ++ first.toList ++ ", ".toList ++ second.toList := by
  simp only [Instruction.pair, String.toList_append]

theorem toList_registerText_x :
    (Instruction.registerText o.x).toList = (Slot.register .x).map (Slot.char o) := by
  simp only [Instruction.registerText, Hex.text, String.toList_append, String.toList_ofList]
  rfl

theorem toList_registerText_y :
    (Instruction.registerText o.y).toList = (Slot.register .y).map (Slot.char o) := by
  simp only [Instruction.registerText, Hex.text, String.toList_append, String.toList_ofList]
  rfl

theorem toList_nibble : (Hex.text 1 o.n.val).toList = [Slot.digit .n].map (Slot.char o) := by
  simp only [Hex.text, String.toList_ofList]
  rfl

theorem hexDigit_congr {m n : Nat} (same : m % 16 = n % 16) : Hex.digit m = Hex.digit n := by
  simp only [Hex.digit, same]

theorem toList_byteText : (Instruction.byteText o.nn).toList = Slot.byte.map (Slot.char o) := by
  have second : Hex.digit (o.nn.toNat / 16) = Hex.digit o.y.val := hexDigit_congr (by
    simp only [toNat_nn, y]
    omega)
  have last : Hex.digit o.nn.toNat = Hex.digit o.n.val := hexDigit_congr (by
    simp only [toNat_nn, n]
    omega)
  simp only [Instruction.byteText, Hex.text, String.toList_ofList, Hex.digits, second, last]
  rfl

theorem toList_addressText :
    (Instruction.addressText o.nnn).toList = Slot.address.map (Slot.char o) := by
  have first : Hex.digit (o.nnn.toNat / 16 / 16) = Hex.digit o.x.val := hexDigit_congr (by
    simp only [toNat_nnn, x]
    omega)
  have second : Hex.digit (o.nnn.toNat / 16) = Hex.digit o.y.val := hexDigit_congr (by
    simp only [toNat_nnn, y]
    omega)
  have last : Hex.digit o.nnn.toNat = Hex.digit o.n.val := hexDigit_congr (by
    simp only [toNat_nnn, n]
    omega)
  simp only [Instruction.addressText, Hex.text, String.toList_ofList, Hex.digits, first, second,
    last]
  rfl

theorem toList_text :
    o.text.toList
      = [Slot.digit .family, .digit .x, .digit .y, .digit .n].map (Slot.char o) := by
  have top : Hex.digit (o.word.toNat / 16 / 16 / 16) = Hex.digit o.family := hexDigit_congr (by
    simp only [family]
    omega)
  have first : Hex.digit (o.word.toNat / 16 / 16) = Hex.digit o.x.val := hexDigit_congr (by
    simp only [x]
    omega)
  have second : Hex.digit (o.word.toNat / 16) = Hex.digit o.y.val := hexDigit_congr (by
    simp only [y]
    omega)
  have last : Hex.digit o.word.toNat = Hex.digit o.n.val := hexDigit_congr (by
    simp only [n]
    omega)
  simp only [text, Hex.text, String.toList_ofList, Hex.digits, top, first, second, last]
  rfl

/-- The template of the form, filled in. -/
theorem toList_mnemonic :
    o.decode.mnemonic.toList = o.decode.kind.template.map (Slot.char o) := by
  unfold decode decodeArithmetic decodeMisc
  repeat' split
  all_goals
    simp only [Instruction.mnemonic, Instruction.kind, Kind.template, toList_pair, map_pair,
      String.toList_append, List.map_append, map_literals, toList_registerText_x,
      toList_registerText_y, toList_nibble, toList_byteText, toList_addressText, toList_text]

end Opcode

/-! ### Templates apart -/

/-- Can the two slots show the same character? -/
def Slot.meets : Slot → Slot → Bool
  | .literal c, .literal d => c = d
  | .literal c, .digit _ | .digit _, .literal c => (Hex.value? c).isSome
  | .digit _, .digit _ => true

/-- Can the two templates show the same text? -/
def Slot.meetAll : List Slot → List Slot → Bool
  | [], [] => true
  | s :: rest, t :: rest' => s.meets t && meetAll rest rest'
  | _, _ => false

variable {a b : Opcode}

theorem Slot.meets_of_char_eq {s t : Slot} (same : s.char a = t.char b) : s.meets t = true := by
  cases s with
  | literal c =>
      cases t with
      | literal d => exact decide_eq_true same
      | digit p =>
          obtain rfl : c = Hex.digit (b.digit p) := same
          simp only [meets, Hex.value?_digit, Option.isSome_some]
  | digit p =>
      cases t with
      | literal d =>
          obtain rfl : Hex.digit (a.digit p) = d := same
          simp only [meets, Hex.value?_digit, Option.isSome_some]
      | digit q => rfl

/-- By induction along both templates. -/
theorem Slot.meetAll_of_map_eq {ss ts : List Slot} (same : ss.map (char a) = ts.map (char b)) :
    meetAll ss ts = true := by
  induction ss generalizing ts with
  | nil =>
      cases ts with
      | nil => rfl
      | cons t ts => cases same
  | cons s ss ih =>
      cases ts with
      | nil => cases same
      | cons t ts =>
          simp only [List.map_cons, List.cons.injEq] at same
          simp only [meetAll, meets_of_char_eq same.1, ih same.2, Bool.and_self]

theorem Kind.eq_of_template_meets {k k' : Kind}
    (meets : Slot.meetAll k.template k'.template = true) : k = k' := by
  have apart : ∀ k ∈ all, ∀ k' ∈ all,
      Slot.meetAll k.template k'.template = true → k = k' := by decide +kernel
  exact apart k k.mem_all k' k'.mem_all meets

/-- Does a word of the form leave no trace of this digit in its mnemonic? -/
def Kind.hides (k : Kind) (p : Place) : Bool :=
  (k.fixed? p).isNone && !k.template.contains (.digit p)

theorem Kind.hides_iff {k : Kind} {p : Place} :
    k.hides p = true ↔ p = .y ∧ (k = .shr ∨ k = .shl) := by
  have forms : ∀ k ∈ all, ∀ p ∈ Place.all,
      k.hides p = true ↔ p = .y ∧ (k = .shr ∨ k = .shl) := by decide +kernel
  exact forms k k.mem_all p p.mem_all

/-! ### Words with the same mnemonic -/

/-- Two words for the same shift: they shift the same register the same way. -/
def SameShift (first second : Nat) : Prop :=
  ∃ (x y y' : Fin 16) (last : Nat), (last = 6 ∨ last = 0xE) ∧
    first = 0x8000 + 256 * x.val + 16 * y.val + last ∧
    second = 0x8000 + 256 * x.val + 16 * y'.val + last

namespace Opcode

theorem kind_eq_of_mnemonic (same : a.decode.mnemonic = b.decode.mnemonic) :
    a.decode.kind = b.decode.kind := by
  apply Kind.eq_of_template_meets
  apply Slot.meetAll_of_map_eq (a := a) (b := b)
  rw [← toList_mnemonic, ← toList_mnemonic, same]

theorem digit_eq_of_mnemonic (same : a.decode.mnemonic = b.decode.mnemonic) {p : Place}
    (told : a.decode.kind.hides p = false) : a.digit p = b.digit p := by
  have kinds := kind_eq_of_mnemonic same
  cases fixed : a.decode.kind.fixed? p with
  | some d => rw [a.fits_decode p d fixed, b.fits_decode p d (kinds ▸ fixed)]
  | none =>
      have shown : Slot.digit p ∈ a.decode.kind.template := by
        simpa [Kind.hides, fixed] using told
      have texts : a.decode.kind.template.map (Slot.char a)
          = a.decode.kind.template.map (Slot.char b) := by
        rw [← toList_mnemonic, same, toList_mnemonic, kinds]
      have digits : Hex.digit (a.digit p) = Hex.digit (b.digit p) :=
        List.map_inj_left.mp texts _ shown
      have values := congrArg Hex.value? digits
      rw [Hex.value?_digit, Hex.value?_digit, Nat.mod_eq_of_lt (a.digit_lt p),
        Nat.mod_eq_of_lt (b.digit_lt p)] at values
      exact Option.some.inj values

theorem decode_of_sameShift (same : SameShift a.word.toNat b.word.toNat) :
    a.decode = b.decode ∧ ∃ x, a.decode = .shr x ∨ a.decode = .shl x := by
  obtain ⟨x, y, y', last, which, first, second⟩ := same
  have small : last < 16 := by omega
  obtain ⟨decode, register, -, low⟩ := decode_of_arithmetic small first
  obtain ⟨decode', register', -, low'⟩ := decode_of_arithmetic small second
  rcases which with rfl | rfl
  · simp only [decode, decode', decodeArithmetic, low, low', register, register', true_and]
    exact ⟨x, .inl rfl⟩
  · simp only [decode, decode', decodeArithmetic, low, low', register, register', true_and]
    exact ⟨x, .inr rfl⟩

/-- Only the second register digit of a shift is not told. -/
theorem sameShift_of_hides (same : a.decode.mnemonic = b.decode.mnemonic) {p : Place}
    (hidden : a.decode.kind.hides p = true) : SameShift a.word.toNat b.word.toNat := by
  have kinds := kind_eq_of_mnemonic same
  obtain ⟨-, shift⟩ := Kind.hides_iff.mp hidden
  have x : a.digit .x = b.digit .x := by
    refine digit_eq_of_mnemonic same (Bool.eq_false_iff.mpr fun hides => ?_)
    cases (Kind.hides_iff.mp hides).1
  obtain ⟨last, which, family, n⟩ : ∃ last, (last = 6 ∨ last = 0xE) ∧
      a.decode.kind.fixed? .family = some 8 ∧ a.decode.kind.fixed? .n = some last := by
    rcases shift with shr | shl
    · exact ⟨6, .inl rfl, by rw [shr]; rfl, by rw [shr]; rfl⟩
    · exact ⟨0xE, .inr rfl, by rw [shl]; rfl, by rw [shl]; rfl⟩
  have word := a.toNat_word_eq_digits
  have word' := b.toNat_word_eq_digits
  rw [a.fits_decode .family 8 family, a.fits_decode .n last n] at word
  rw [kinds] at family n
  rw [b.fits_decode .family 8 family, b.fits_decode .n last n, ← x] at word'
  exact ⟨a.x, a.y, b.y, last, which, word, word'⟩

theorem mnemonic_eq_iff (a b : Opcode) :
    a.decode.mnemonic = b.decode.mnemonic ↔
      a.word = b.word ∨ SameShift a.word.toNat b.word.toNat := by
  constructor
  · intro same
    by_cases hidden : ∃ p, a.decode.kind.hides p = true
    · obtain ⟨p, hidden⟩ := hidden
      exact .inr (sameShift_of_hides same hidden)
    · refine .inl (word_eq_of_digits fun p => ?_)
      exact digit_eq_of_mnemonic same (Bool.eq_false_iff.mpr fun h => hidden ⟨p, h⟩)
  · rintro (words | shift)
    · obtain ⟨word⟩ := a
      obtain rfl : word = b.word := words
      rfl
    · rw [(decode_of_sameShift shift).1]

theorem toNat_word_ofInt (value : Int) : ((ofInt value).word.toNat : Int) = value % 65536 := by
  change ((UInt16.ofInt value).toNat : Int) = _
  rw [UInt16.ofInt, UInt16.toNat_ofNat']
  omega

end Opcode

/-! ### One step -/

namespace Machine

variable {m : Machine}

/-- The machine with this word at the program counter. -/
def place (m : Machine) (o : Opcode) : Machine :=
  m.withMemory
    (m.core.memory.setBlock m.core.pc.toNat [UInt8.ofNat (o.word.toNat / 256), o.nn])

theorem load_place (m : Machine) (o : Opcode) {k : Nat} (hk : k < 2) :
    (m.place o).core.memory.load ((m.core.pc.toNat + k) % 4096 : Nat)
      = [UInt8.ofNat (o.word.toNat / 256), o.nn][k] := by
  have short : [UInt8.ofNat (o.word.toNat / 256), o.nn].length ≤ 4096 := by
    simp only [List.length_cons, List.length_nil, Nat.reduceAdd, Nat.reduceLeDiff]
  rw [Ram.load_congr _ (by simp : _ = (m.core.pc.toNat + k : Int) % _)]
  exact Ram.load_setBlock _ _ _ short hk

theorem load_place_of_ne (m : Machine) (o : Opcode) {address : Nat} (within : address < 4096)
    (first : address ≠ m.core.pc.toNat % 4096) (second : address ≠ (m.core.pc.toNat + 1) % 4096) :
    (m.place o).core.memory.load address = m.core.memory.load address := by
  refine Ram.load_setBlock_of_ne _ _ _ _ fun k hk same => ?_
  have two : k = 0 ∨ k = 1 := by
    simp only [List.length_cons, List.length_nil] at hk
    omega
  change ((m.core.pc.toNat : Int) + k) % 4096 = (address : Int) % 4096 at same
  omega

theorem fetches_place (running : m.runState = .running) (inside : m.core.pc.toNat < 4096)
    (o : Opcode) : (m.place o).Fetches o.word.toNat := by
  refine ⟨running, inside, ?_⟩
  have size := o.word.toNat_lt
  have first := m.load_place o (by decide : 0 < 2)
  have second := m.load_place o (by decide : 1 < 2)
  rw [Nat.add_zero, Nat.mod_eq_of_lt inside] at first
  change 256 * ((m.place o).core.memory.load m.core.pc.toNat).toNat
    + ((m.place o).core.memory.load ((m.core.pc.toNat + 1) % 4096 : Nat)).toNat = _
  rw [first, second]
  simp only [List.getElem_cons_zero, List.getElem_cons_succ, Opcode.toNat_nn,
    UInt8.toNat_ofNat']
  omega

theorem opcode_place (running : m.runState = .running) (inside : m.core.pc.toNat < 4096)
    (o : Opcode) : (m.place o).core.opcode = o :=
  congrArg Opcode.mk (UInt16.toNat_inj.mp (fetches_place running inside o).toNat_opcode)

/-- A shift changes registers only, and does the same whatever memory holds. -/
theorem execute_shift (c : Core) {i : Instruction} {x : Fin 16} (shift : i = .shr x ∨ i = .shl x) :
    ∃ v, ∀ memory, { c with memory }.execute i = .ok { c with memory, v } := by
  rcases shift with rfl | rfl
  · exact ⟨(c.setFlagged x (c.reg x % 2 = 1) (c.reg x / 2)).v, fun _ => rfl⟩
  · exact ⟨(c.setFlagged x (c.reg x ≥ 128) (c.reg x * 2)).v, fun _ => rfl⟩

theorem step_place_of_shift (running : m.runState = .running) (inside : m.core.pc.toNat < 4096)
    {o : Opcode} {i : Instruction} {x : Fin 16} (decoded : o.decode = i)
    (shift : i = .shr x ∨ i = .shl x) {v : Vector UInt8 16}
    (ok : ∀ memory, { m.core.fetched with memory }.execute i
      = .ok { m.core.fetched with memory, v }) :
    (m.place o).step.outcome.map StepResult.status = .ok .executed ∧
      (m.place o).step.machine
        = { m with core := { m.core.fetched with v }.tick }.withMemory
            (m.place o).core.memory := by
  have opcode : (m.place o).core.opcode.decode = i := by rw [opcode_place running inside, decoded]
  have prompt : i.kind.isPrompt = true := by rcases shift with rfl | rfl <;> rfl
  obtain ⟨executes, machine⟩ :=
    (fetches_place running inside o).executes opcode (ok _) prompt
  rw [executes, machine]
  exact ⟨rfl, rfl⟩

/-- A mnemonic tells its word but for the digit that a shift does not use. So a running machine does
the same for two words with the same mnemonic: its step has the same status or the same fault and
leaves the same machine behind, memory included. Only the cells of the two words, unless the
instruction stores something there, still show which of them it was. -/
theorem mnemonic_tells_meaning :
    (∀ a b : Int, (Opcode.ofInt a).decode.mnemonic = (Opcode.ofInt b).decode.mnemonic ↔
      a % 65536 = b % 65536 ∨ SameShift (a % 65536).toNat (b % 65536).toNat) ∧
    (∀ (m : Machine) (a b : Opcode), m.runState = .running → m.core.pc.toNat < 4096 →
      a.decode.mnemonic = b.decode.mnemonic →
        let p := m.place a
        let q := m.place b
        p.Fetches a.word.toNat ∧ q.Fetches b.word.toNat ∧
        p.step.outcome.map StepResult.status = q.step.outcome.map StepResult.status ∧
        p.step.machine = q.step.machine.withMemory p.step.machine.core.memory ∧
        ∀ address : Nat, address < 4096 →
          p.step.machine.core.memory.load address = q.step.machine.core.memory.load address ∨
            (address = m.core.pc.toNat ∨ address = (m.core.pc.toNat + 1) % 4096) ∧
              p.step.machine.core.memory.load address = p.core.memory.load address ∧
              q.step.machine.core.memory.load address = q.core.memory.load address) := by
  refine ⟨fun a b => ?_, fun m a b running inside same => ?_⟩
  · have word := Opcode.toNat_word_ofInt a
    have word' := Opcode.toNat_word_ofInt b
    rw [Opcode.mnemonic_eq_iff, ← UInt16.toNat_inj, ← word, ← word', Int.toNat_natCast,
      Int.toNat_natCast, Int.natCast_inj]
  · refine ⟨fetches_place running inside a, fetches_place running inside b, ?_⟩
    rcases (Opcode.mnemonic_eq_iff a b).mp same with words | shift
    · obtain rfl : a = b := congrArg Opcode.mk words
      exact ⟨rfl, rfl, fun _ _ => .inl rfl⟩
    · obtain ⟨decoded, x, shift⟩ := Opcode.decode_of_sameShift shift
      obtain ⟨v, ok⟩ := execute_shift m.core.fetched shift
      obtain ⟨status, machine⟩ := step_place_of_shift running inside rfl shift ok
      obtain ⟨status', machine'⟩ := step_place_of_shift running inside decoded.symm shift ok
      rw [status, status', machine, machine']
      refine ⟨rfl, rfl, fun address within => ?_⟩
      by_cases here : address = m.core.pc.toNat ∨ address = (m.core.pc.toNat + 1) % 4096
      · exact .inr ⟨here, rfl, rfl⟩
      · obtain ⟨first, second⟩ := not_or.mp here
        rw [← Nat.mod_eq_of_lt inside] at first
        exact .inl ((m.load_place_of_ne a within first second).trans
          (m.load_place_of_ne b within first second).symm)

/-- The words `8016` and `8026`, the second of them as a negative number, both halve `V0`. -/
theorem mnemonic_tells_meaning_of_halving :
    let start := initial ⟨fun _ => 0, 0⟩
    let m : Machine := { start with core := start.core.setReg 0 5 }
    let a : Opcode := .ofInt 0x8016
    let b : Opcode := .ofInt (0x8026 - 0x10000)
    (a.decode.mnemonic = b.decode.mnemonic ∧ a ≠ b) ∧
    ((m.place a).Fetches 0x8016 ∧ (m.place b).Fetches 0x8026) ∧
    (m.place a).step.outcome.map StepResult.status
      = (m.place b).step.outcome.map StepResult.status ∧
    (m.place a).step.machine
      = (m.place b).step.machine.withMemory (m.place a).step.machine.core.memory ∧
    (m.place a).step.machine.core.reg 0 = 2 := by
  intro start m a b
  obtain ⟨iff, steps⟩ := mnemonic_tells_meaning
  have same : a.decode.mnemonic = b.decode.mnemonic :=
    (iff _ _).mpr (.inr ⟨0, 1, 2, 6, .inl rfl, rfl, rfl⟩)
  obtain ⟨first, second, status, machine, -⟩ := steps m a b rfl (by decide) same
  exact ⟨⟨same, by decide⟩, ⟨first, second⟩, status, machine, by decide +kernel⟩

end Machine

end Chip8
