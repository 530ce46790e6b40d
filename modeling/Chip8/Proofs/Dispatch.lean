import Chip8.Core.Execute
import Chip8.Proofs.Mnemonics

/-!
# Words, patterns and handlers

Read as a template, the pattern of a known form matches the words that have the digits it fixes. A
word is decoded to every known form whose digits it has, and it has the digits of the form that it
is decoded to. So no word matches two patterns, and the unknown form is left for the words that
match none. An instruction takes its operands from the fields of its word, so to execute a word is
to look up its form in a table of handlers and to hand the word over; the table has every form.
-/

namespace Chip8

/-! ### Templates -/

namespace Kind

/-- The letters of a pattern that stand for any digit. -/
def wildcards : List Char := ['x', 'y', 'n']

/-- The pattern of the form, read as a template, matches these digits. -/
def Matches (k : Kind) (digits : List Char) : Prop :=
  k.pattern.toList.length = digits.length ∧
    ∀ pair ∈ k.pattern.toList.zip digits, pair.1 ∈ wildcards ∨ pair.1 = pair.2

instance decidableMatches (k : Kind) (digits : List Char) : Decidable (k.Matches digits) :=
  inferInstanceAs (Decidable (_ ∧ _))

/-- The character of the pattern at a place. -/
def letter (k : Kind) (p : Place) : Char := k.pattern.toList.getD p.index '?'

theorem toList_pattern (k : Kind) : k.pattern.toList = Place.all.map k.letter := by
  have each : ∀ k ∈ all, k.pattern.toList = Place.all.map k.letter := by decide
  exact each k k.mem_all

/-- A known form leaves a place to an operand or fixes its digit, in upper case. -/
theorem letter_cases {k : Kind} (known : k ≠ .unknown) (p : Place) :
    (k.letter p ∈ wildcards ∧ k.fixed? p = none) ∨
      ∃ d : Fin 16, k.fixed? p = some d.val ∧ k.letter p = Hex.digit d.val ∧
        k.letter p ∉ wildcards := by
  have each : ∀ k ∈ all, k ≠ .unknown → ∀ p ∈ Place.all,
      (k.letter p ∈ wildcards ∧ k.fixed? p = none) ∨
        ∃ d : Fin 16, k.fixed? p = some d.val ∧ k.letter p = Hex.digit d.val ∧
          k.letter p ∉ wildcards := by decide
  exact each k k.mem_all known p p.mem_all

end Kind

namespace Opcode

variable (o : Opcode)

theorem hexDigit_inj {m n : Nat} (small : m < 16) (small' : n < 16)
    (same : Hex.digit m = Hex.digit n) : m = n := by
  have values := congrArg Hex.value? same
  rw [Hex.value?_digit, Hex.value?_digit, Nat.mod_eq_of_lt small, Nat.mod_eq_of_lt small'] at values
  exact Option.some.inj values

/-- The four digits of a word, written out. -/
def digits (o : Opcode) : List Char := Place.all.map fun p => Hex.digit (o.digit p)

theorem digits_eq : o.digits = Hex.digits 4 o.word.toNat := by
  have written : o.text.toList = Hex.digits 4 o.word.toNat := String.toList_ofList
  rw [← written, toList_text]
  rfl

theorem matches_iff_fits {k : Kind} (known : k ≠ .unknown) : k.Matches o.digits ↔ o.Fits k := by
  have places : k.Matches o.digits ↔
      ∀ p ∈ Place.all, k.letter p ∈ Kind.wildcards ∨ k.letter p = Hex.digit (o.digit p) := by
    rw [Kind.Matches, k.toList_pattern, digits, List.zip_map', List.length_map, List.length_map]
    simp only [List.forall_mem_map, true_and]
  rw [places]
  constructor
  · intro matched p d fixed
    obtain ⟨-, free⟩ | ⟨d', fixed', letter, notFree⟩ := Kind.letter_cases known p
    · rw [free] at fixed
      cases fixed
    · rw [fixed'] at fixed
      obtain rfl : d'.val = d := Option.some.inj fixed
      have same := (matched p p.mem_all).resolve_left notFree
      rw [letter] at same
      exact (hexDigit_inj d'.isLt (o.digit_lt p) same).symm
  · intro fits p _
    obtain ⟨free, -⟩ | ⟨d, fixed, letter, -⟩ := Kind.letter_cases known p
    · exact .inl free
    · rw [fits p d fixed]
      exact .inr letter

/-! ### From the digits to the form -/

/-- A word is decoded to each known form whose digits it has. -/
theorem kind_decode_of_fits {k : Kind} (known : k ≠ .unknown) (fits : o.Fits k) :
    o.decode.kind = k := by
  -- each case gives the digits that its pattern fixes to the tables of the decoder
  cases k with
  | unknown => exact absurd rfl known
  | cls | ret =>
      have whole : o = ⟨UInt16.ofNat o.word.toNat⟩ := by rw [UInt16.ofNat_toNat]
      rw [o.toNat_word_eq_digits, fits .family _ rfl, fits .x _ rfl, fits .y _ rfl,
        fits .n _ rfl] at whole
      rw [whole]
      rfl
  | jp | call | seByte | sneByte | ldByte | addByte | ldI | jpV0 | rnd | drw =>
      have family : o.family = _ := fits .family _ rfl
      rw [decode, family]
      rfl
  | seReg | sneReg =>
      have family : o.family = _ := fits .family _ rfl
      have last : o.n.val = _ := fits .n _ rfl
      rw [decode, family, last]
      rfl
  | ldReg | or | and | xor | addReg | sub | shr | subn | shl =>
      have family : o.family = _ := fits .family _ rfl
      have last : o.n.val = _ := fits .n _ rfl
      have arithmetic : o.decode = o.decodeArithmetic := by
        rw [decode, family]
        rfl
      rw [arithmetic, decodeArithmetic, last]
      rfl
  | skp | sknp =>
      have family : o.family = _ := fits .family _ rfl
      have second : o.y.val = _ := fits .y _ rfl
      have last : o.n.val = _ := fits .n _ rfl
      have byte : o.nn = UInt8.ofNat o.nn.toNat := UInt8.ofNat_toNat.symm
      rw [o.toNat_nn_eq, second, last] at byte
      rw [decode, family, byte]
      rfl
  | ldVxDt | ldVxK | ldDtVx | ldStVx | addI | ldF | ldB | store | load =>
      have family : o.family = _ := fits .family _ rfl
      have second : o.y.val = _ := fits .y _ rfl
      have last : o.n.val = _ := fits .n _ rfl
      have misc : o.decode = o.decodeMisc := by
        rw [decode, family]
        rfl
      rw [misc, decodeMisc, o.toNat_nn_eq, second, last]
      rfl

theorem kind_decode_eq_iff {k : Kind} (known : k ≠ .unknown) :
    o.decode.kind = k ↔ k.Matches o.digits := by
  rw [o.matches_iff_fits known]
  constructor
  · intro decoded
    rw [← decoded]
    exact o.fits_decode
  · intro fits
    exact o.kind_decode_of_fits known fits

theorem kind_decode_eq_unknown_iff :
    o.decode.kind = .unknown ↔ ∀ k : Kind, k ≠ .unknown → ¬ k.Matches o.digits := by
  constructor
  · intro unknown k known matched
    exact known (((o.kind_decode_eq_iff known).mpr matched).symm.trans unknown)
  · intro unmatched
    refine Decidable.byContradiction fun known => ?_
    exact unmatched _ known ((o.kind_decode_eq_iff known).mp rfl)

end Opcode

/-! ### Handlers -/

namespace Core

/-- What carries out the words of a form. -/
def Handler : Type := Core → Opcode → Except FaultReason Core

/-- Executes the instruction that a form makes of the fields of a word. -/
def Handler.of (read : Opcode → Instruction) : Handler := fun c o => c.execute (read o)

/-- The handlers, each under its form. -/
def handlers : List (Kind × Handler) :=
  [(.cls, .of fun _ => .cls), (.ret, .of fun _ => .ret),
   (.jp, .of fun o => .jp o.nnn), (.call, .of fun o => .call o.nnn),
   (.seByte, .of fun o => .seByte o.x o.nn), (.sneByte, .of fun o => .sneByte o.x o.nn),
   (.seReg, .of fun o => .seReg o.x o.y),
   (.ldByte, .of fun o => .ldByte o.x o.nn), (.addByte, .of fun o => .addByte o.x o.nn),
   (.ldReg, .of fun o => .ldReg o.x o.y), (.or, .of fun o => .or o.x o.y),
   (.and, .of fun o => .and o.x o.y), (.xor, .of fun o => .xor o.x o.y),
   (.addReg, .of fun o => .addReg o.x o.y), (.sub, .of fun o => .sub o.x o.y),
   (.shr, .of fun o => .shr o.x), (.subn, .of fun o => .subn o.x o.y),
   (.shl, .of fun o => .shl o.x), (.sneReg, .of fun o => .sneReg o.x o.y),
   (.ldI, .of fun o => .ldI o.nnn), (.jpV0, .of fun o => .jpV0 o.nnn),
   (.rnd, .of fun o => .rnd o.x o.nn), (.drw, .of fun o => .drw o.x o.y o.n),
   (.skp, .of fun o => .skp o.x), (.sknp, .of fun o => .sknp o.x),
   (.ldVxDt, .of fun o => .ldVxDt o.x), (.ldVxK, .of fun o => .ldVxK o.x),
   (.ldDtVx, .of fun o => .ldDtVx o.x), (.ldStVx, .of fun o => .ldStVx o.x),
   (.addI, .of fun o => .addI o.x), (.ldF, .of fun o => .ldF o.x), (.ldB, .of fun o => .ldB o.x),
   (.store, .of fun o => .store o.x), (.load, .of fun o => .load o.x),
   (.unknown, .of fun o => .unknown o)]

theorem lookup_handlers (o : Opcode) :
    ∃ read, handlers.lookup o.decode.kind = some (.of read) ∧ read o = o.decode := by
  unfold Opcode.decode Opcode.decodeArithmetic Opcode.decodeMisc
  repeat' split
  all_goals exact ⟨_, rfl, rfl⟩

/-- Hands a word over to the handler of the form that it is decoded to, if there is one. -/
def dispatch? (c : Core) (o : Opcode) : Option (Except FaultReason Core) :=
  (handlers.lookup o.decode.kind).map fun handler => handler c o

theorem dispatch?_eq (c : Core) (o : Opcode) : c.dispatch? o = some (c.execute o.decode) := by
  obtain ⟨read, entry, reads⟩ := lookup_handlers o
  rw [dispatch?, entry, ← reads]
  rfl

end Core

/-! ### All words -/

/-- The decoder and the patterns say the same. Taken modulo 65536 and written as four digits, a
number matches the pattern of at most one known form. It is decoded to that form, and to the unknown
one if there is none. Its fields are these digits, and the form that it is decoded to has a handler,
which does what executing the instruction does. -/
theorem decode_by_patterns (value : Int) :
    let o : Opcode := .ofInt value
    let word := (value % 65536).toNat
    let digits := Hex.digits 4 word
    (∀ k k' : Kind, k ≠ .unknown → k' ≠ .unknown →
      k.Matches digits → k'.Matches digits → k = k') ∧
    (∀ k : Kind, k ≠ .unknown → (o.decode.kind = k ↔ k.Matches digits)) ∧
    (o.decode.kind = .unknown ↔ ∀ k : Kind, k ≠ .unknown → ¬ k.Matches digits) ∧
    o.word.toNat = word ∧
    word = 4096 * o.family + o.nnn.toNat ∧
    o.nnn.toNat = 256 * o.x.val + o.nn.toNat ∧
    o.nn.toNat = 16 * o.y.val + o.n.val ∧
    o.family ≤ 15 ∧ o.x.val ≤ 15 ∧ o.y.val ≤ 15 ∧ o.n.val ≤ 15 ∧
    ∀ c : Core, c.dispatch? o = some (c.execute o.decode) := by
  intro o word digits
  have raw : o.word.toNat = word := by
    have residue := Opcode.toNat_word_ofInt value
    show (Opcode.ofInt value).word.toNat = (value % 65536).toNat
    omega
  have written : digits = o.digits := by
    rw [o.digits_eq, raw]
  rw [written]
  refine ⟨?_, fun k known => o.kind_decode_eq_iff known, o.kind_decode_eq_unknown_iff, raw,
    raw ▸ o.toNat_word, o.toNat_nnn_eq, o.toNat_nn_eq, Nat.le_of_lt_succ (o.digit_lt .family),
    Nat.le_of_lt_succ o.x.isLt, Nat.le_of_lt_succ o.y.isLt, Nat.le_of_lt_succ o.n.isLt,
    fun c => c.dispatch?_eq o⟩
  intro k k' known known' matched matched'
  exact ((o.kind_decode_eq_iff known).mpr matched).symm.trans
    ((o.kind_decode_eq_iff known').mpr matched')

/-- The number -1 is the word `FFFF`, which matches nothing, and -923 is `FC65`, a load. -/
theorem decode_by_patterns_of_negative :
    (Opcode.ofInt (-1)).decode.kind = .unknown ∧
      (Kind.load.Matches (Hex.digits 4 0xFC65) ∧ (Opcode.ofInt (-923)).decode.kind = .load) := by
  obtain ⟨-, -, unknown, -⟩ := decode_by_patterns (-1)
  obtain ⟨-, known, -⟩ := decode_by_patterns (-923)
  have matched : Kind.load.Matches (Hex.digits 4 0xFC65) := by decide
  refine ⟨unknown.mpr ?_, matched, (known .load (by decide)).mpr matched⟩
  have unmatched : ∀ k ∈ Kind.all, k ≠ .unknown → ¬ k.Matches (Hex.digits 4 0xFFFF) := by decide
  exact fun k => unmatched k k.mem_all

end Chip8
