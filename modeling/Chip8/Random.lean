import Chip8.Random.Twister

/-!
# Sources of random numbers

A machine draws its random numbers from a source. A source is either a sequence
of integers, read from front to back, or the Mersenne twister, whose numbers
are below 256.
-/

namespace Chip8

/-- A source of random numbers, with how far it has been read. -/
inductive RandomSource where
  /-- The numbers `values 0`, `values 1`, …, of which `used` have been taken. -/
  | sequence (values : Nat → Int) (used : Nat)
  /-- A seeded generator. -/
  | twister (state : Twister)

namespace RandomSource

/-- The next number, and the source after it. -/
def next : RandomSource → Int × RandomSource
  | sequence values used => (values used, sequence values (used + 1))
  | twister state =>
    let (byte, state) := state.nextByte
    (byte, twister state)

/-- The numbers of a list over and over again; an empty list gives zeros. -/
def cycle (numbers : Array Int) : RandomSource :=
  sequence (fun i => numbers.getD (i % numbers.size) 0) 0

/-- The generator with a seed. -/
def seeded (seed : Int) : RandomSource :=
  twister (Twister.ofSeed seed)

end RandomSource

end Chip8
