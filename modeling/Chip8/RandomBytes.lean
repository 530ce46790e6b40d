/-!
# A supply of random bytes

An endless sequence read in order. The machine only ever asks for the next byte, so a generator is
its sequence together with the number of bytes already drawn.
-/

namespace Chip8

structure RandomBytes where
  byte : Nat → UInt8
  drawn : Nat := 0

namespace RandomBytes

/-- The given bytes over and over; zero for ever if there are none. -/
def cycle (bytes : List UInt8) : RandomBytes :=
  let table := bytes.toArray
  { byte := fun k => table.getD (k % table.size) 0 }

/-- The finalizer of a splitting generator: a bijection of words whose output bits each depend on
every input bit. -/
def mix (word : UInt64) : UInt64 :=
  let a := (word ^^^ (word >>> 30)) * 0xBF58476D1CE4E5B9
  let b := (a ^^^ (a >>> 27)) * 0x94D049BB133111EB
  b ^^^ (b >>> 31)

/-- A pseudo random sequence: byte `k` is the mixed value of `k + 1` odd steps from the seed. -/
def ofSeed (seed : UInt64) : RandomBytes where
  byte := fun k => (mix (seed + UInt64.ofNat (k + 1) * 0x9E3779B97F4A7C15)).toUInt8

def next (r : RandomBytes) : UInt8 × RandomBytes :=
  (r.byte r.drawn, { r with drawn := r.drawn + 1 })

@[simp] theorem drawn_next (r : RandomBytes) : r.next.2.drawn = r.drawn + 1 := rfl

@[simp] theorem byte_next (r : RandomBytes) : r.next.2.byte = r.byte := rfl

end RandomBytes

end Chip8
