/-!
# The Mersenne twister

The pseudo-random generator MT19937: 624 words of 32 bits, of which each output
renews one and scrambles it.

- `Twister.ofKey key`: seeding by an array of words.
- `Twister.ofSeed seed`: seeding by a number, whose magnitude gives the words.
- `Twister.next`: the next output.
- `Twister.nextByte`: the next number below 256, by rejection.
-/

namespace Chip8

/-- A state of the generator: its words and which of them is renewed next. -/
structure Twister where
  words : Vector UInt32 624
  place : Fin 624
  deriving DecidableEq

namespace Twister

/-- The place after the last is the first. -/
def after (i : Fin 624) : Fin 624 :=
  i + 1

/-- The recurrence that spreads a single word over all the others. -/
def spread (seed : UInt32) : Vector UInt32 624 :=
  ((List.finRange 624).foldl
    (fun (ws, last) i =>
      if i = 0 then (ws.set 0 seed, seed)
      else
        let w : UInt32 := (last ^^^ (last >>> 30)) * 1812433253 + UInt32.ofNat i.val
        (ws.set i w, w))
    (Vector.replicate 624 0, seed)).1

/-- While words are mixed: the words, the place to be changed, and the word before it. -/
structure Mixing where
  words : Vector UInt32 624
  place : Fin 624
  last : UInt32

/-- Puts `w` into the current place and moves on. The first place is only passed through: it
receives the last word, and the second place follows. -/
def Mixing.put (m : Mixing) (w : UInt32) : Mixing :=
  let ws := m.words.set m.place w
  if m.place = 623 then ⟨ws.set 0 w, 1, w⟩ else ⟨ws, after m.place, w⟩

/-- Mixes one word of the key, the `j`-th, into the current place. -/
def Mixing.absorb (m : Mixing) (key : UInt32) (j : Nat) : Mixing :=
  let w := (m.words[m.place] ^^^ ((m.last ^^^ (m.last >>> 30)) * 1664525)) + key + UInt32.ofNat j
  m.put w

/-- Mixes the current place with its own number. -/
def Mixing.settle (m : Mixing) : Mixing :=
  let w := (m.words[m.place] ^^^ ((m.last ^^^ (m.last >>> 30)) * 1566083941))
    - UInt32.ofNat m.place.val
  m.put w

/-- The state seeded by the words of `key`, of which there is at least one: the key is absorbed
in turn until both it and the words have been gone through, then every word is settled. -/
def ofKey (key : Array UInt32) : Twister :=
  let ws := spread 19650218
  let turns := max 624 key.size
  let mixed := (List.range turns).foldl
    (fun m t =>
      let j := t % key.size
      Mixing.absorb m (key.getD j 0) j)
    (⟨ws, 1, ws[0]⟩ : Mixing)
  let settled := (List.range 623).foldl (fun m _ => Mixing.settle m) mixed
  ⟨settled.words.set 0 0x80000000, 0⟩

/-- The words of 32 bits of a number, the least significant first; zero has none. -/
def wordsOf (n : Nat) : List UInt32 :=
  if n = 0 then [] else UInt32.ofNat n :: wordsOf (n / 0x100000000)
  termination_by n
  decreasing_by omega

/-- The state seeded by a number; its sign does not count. -/
def ofSeed (seed : Int) : Twister :=
  match wordsOf seed.natAbs with
  | [] => ofKey #[0]
  | ws => ofKey ws.toArray

/-- The renewal of a word from itself, the word after it and the one 397 places on. -/
def renew (current following distant : UInt32) : UInt32 :=
  let y := (current &&& 0x80000000) ||| (following &&& 0x7fffffff)
  distant ^^^ (y >>> 1) ^^^ (if y &&& 1 = 1 then 0x9908b0df else 0)

/-- The scrambling of an output. -/
def temper (w : UInt32) : UInt32 :=
  let w := w ^^^ (w >>> 11)
  let w := w ^^^ ((w <<< 7) &&& 0x9d2c5680)
  let w := w ^^^ ((w <<< 15) &&& 0xefc60000)
  w ^^^ (w >>> 18)

/-- The next output. Each word is renewed when its turn comes; the words it depends on are then
in the same state as if all had been renewed together. -/
def next (t : Twister) : UInt32 × Twister :=
  let w := renew t.words[t.place] t.words[after t.place] t.words[t.place + 397]
  (temper w, ⟨t.words.set t.place w, after t.place⟩)

/-- The first output below `2 ^ 31`, cut to eight bits, among `tries` outputs; if there were
none, the low bits of the one after them. -/
def nextByteWithin : Nat → Twister → Nat × Twister
  | 0, t =>
    let (w, t) := t.next
    ((w >>> 23).toNat % 256, t)
  | tries + 1, t =>
    let (w, t) := t.next
    if w < 0x80000000 then ((w >>> 23).toNat, t) else nextByteWithin tries t

/-- The next number below 256: the top nine bits of the first output whose highest bit is
clear. The highest bits are a linear recurrence of degree 19937 with the longest period, in which
no run of ones is longer than that, so 19938 outputs always hold a zero. -/
def nextByte (t : Twister) : Nat × Twister :=
  nextByteWithin 19938 t

end Twister

end Chip8
