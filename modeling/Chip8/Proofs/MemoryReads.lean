import Chip8.Proofs.Fresh

/-!
# Reading memory

What the three ways to read memory give, for any address and any length.

- `Memory.readCount`: how many bytes a read gives.
- `Memory.readBytes_ends`: a read depends on the two ends of its range.
- `Memory.reads_exact`: when reads fail, and what they give otherwise.
- `Memory.read_backwards`: a read of a negative length that does not fail.

The check of a range looks at its ends only, and lets a negative length pass as
long as both ends are on the right sides. The end then counts from the end of
memory if it is negative. No range of a length that is not negative ends there.
-/

namespace Chip8

namespace Memory

variable {m : Memory} {address length : Int}

/-- How many bytes a read gives whose range passes the check. -/
def readCount (address length : Int) : Int :=
  if 0 ≤ length then length
  else if address + length < 0 then max 0 (4096 + length)
  else 0

/-- A read whose range passes the check gives the bytes from its address on, one after the other. -/
theorem readBytes_ends (h : InRange address length) :
    ∃ bs, m.readBytes address length = .ok bs ∧ (bs.length : Int) = readCount address length ∧
      ∀ i (hi : i < bs.length), m.readByte (address + i) = .ok bs[i] := by
  obtain ⟨hlow, hhigh⟩ := h
  generalize hlast : (if address + length < 0 then (address + length + 4096).toNat
    else (address + length).toNat) = last
  have hread : m.readBytes address length = .ok (m.slice address.toNat last) := by
    rw [readBytes, checkRange_inRange ⟨hlow, hhigh⟩, ← hlast]
    rfl
  -- either end of the slice is in memory
  have hend : last ≤ 4096 := by
    rw [← hlast]
    split <;> omega
  refine ⟨_, hread, ?_, fun i hi => ?_⟩
  · rw [length_slice, readCount]
    split at hlast <;> omega
  · have hplace : address.toNat + i < last := by
      rw [length_slice] at hi
      omega
    have hcell : (m.slice address.toNat last)[i]? = some (m.cell (address.toNat + i)) := by
      rw [getElem?_slice i hend, if_pos hplace]
    rw [List.getElem?_eq_getElem hi] at hcell
    rw [readByte_inRange ⟨by omega, by omega⟩, Int.toNat_add_nat hlow, Option.some.inj hcell]

theorem slice_two {start : Nat} (h : start + 2 ≤ 4096) :
    m.slice start (start + 2) = [m.cell start, m.cell (start + 1)] := by
  refine List.ext_getElem? fun k => ?_
  rw [getElem?_slice k h]
  rcases k with _ | _ | k <;> simp

/-- A word is two bytes, the higher one first. -/
theorem readWord_ends (h : InRange address 2) :
    ∃ high low, m.readBytes address 2 = .ok [high, low] ∧
      m.readWord address = .ok (256 * high.toNat + low.toNat) := by
  refine ⟨m.cell address.toNat, m.cell (address.toNat + 1), ?_, ?_⟩
  · rw [← slice_two h.toNat_le]
    exact readBytes_inRange h
  · rw [readWord_inRange h, wordAt, Nat.mul_comm]

/-- **When reads fail, and what they give otherwise.** A read of several bytes fails exactly when
its range begins below memory or ends above it. Otherwise it gives as many bytes as its length
says, the same as reads of one byte each give. A negative length passes the check as well: it counts
from the end of memory if the range ends below memory, and otherwise gives nothing. A word is read
exactly when two bytes are, and the first of them is the higher one. -/
theorem reads_exact (m : Memory) (address length : Int) :
    ((∃ bs, m.readBytes address length = .ok bs) ↔ 0 ≤ address ∧ address + length ≤ 4096) ∧
    (∀ e, m.readBytes address length = .error e → e = .fault (.memoryRange address length)) ∧
    (∀ bs, m.readBytes address length = .ok bs →
      (0 ≤ length → (bs.length : Int) = length) ∧
      (length < 0 →
        (bs.length : Int) = if address + length < 0 then max 0 (4096 + length) else 0) ∧
      ∀ i (hi : i < bs.length), m.readByte (address + i) = .ok bs[i]) ∧
    ((∃ word, m.readWord address = .ok word) ↔ ∃ bs, m.readBytes address 2 = .ok bs) ∧
    (∀ e, m.readWord address = .error e → e = .fault (.memoryRange address 2)) ∧
    ∀ word, m.readWord address = .ok word →
      ∃ high low, m.readBytes address 2 = .ok [high, low] ∧
        word = 256 * high.toNat + low.toNat := by
  rw [← and_assoc, ← and_assoc]
  constructor
  · by_cases hin : InRange address length
    · obtain ⟨bs, hread, hcount, hbytes⟩ := readBytes_ends (m := m) hin
      rw [hread]
      refine ⟨⟨iff_of_true ⟨bs, rfl⟩ hin, fun e he => (nomatch he)⟩, fun bs' hbs => ?_⟩
      obtain rfl := Except.ok.inj hbs
      refine ⟨fun hlength => ?_, fun hlength => ?_, hbytes⟩
      · rw [hcount, readCount, if_pos hlength]
      · rw [hcount, readCount, if_neg (Int.not_le.2 hlength)]
    · rw [readBytes_outOfRange hin]
      refine ⟨⟨iff_of_false ?_ hin, fun e he => (Except.error.inj he).symm⟩,
        fun bs hbs => (nomatch hbs)⟩
      rintro ⟨bs, hbs⟩
      cases hbs
  · by_cases hin : InRange address 2
    · obtain ⟨high, low, hread, hword⟩ := readWord_ends (m := m) hin
      rw [hread, hword]
      refine ⟨iff_of_true ⟨_, rfl⟩ ⟨_, rfl⟩, fun e he => (nomatch he), fun word h => ?_⟩
      exact ⟨high, low, rfl, (Except.ok.inj h).symm⟩
    · rw [readBytes_outOfRange hin, readWord_outOfRange hin]
      refine ⟨iff_of_false ?_ ?_, fun e he => (Except.error.inj he).symm,
        fun word h => (nomatch h)⟩
      · rintro ⟨word, h⟩
        cases h
      · rintro ⟨bs, hbs⟩
        cases hbs

/-- The shape of the digit one in a fresh memory, its first two bytes as a word, and the byte that
would follow the last one. -/
theorem reads_exact_digit :
    let m := fresh []
    (∃ bs, m.readBytes 0x055 5 = .ok bs ∧ (bs.length : Int) = 5 ∧
      ∀ i (hi : i < bs.length), m.readByte (0x055 + i) = .ok bs[i]) ∧
    (∃ word, m.readWord 0x055 = .ok word) ∧
    ¬ ∃ bs, m.readBytes 0xFFF 2 = .ok bs := by
  intro m
  obtain ⟨hreturns, -, hgives, hword, -⟩ := reads_exact m 0x055 5
  obtain ⟨bs, hbs⟩ := hreturns.2 (by decide)
  obtain ⟨hcount, -, hbytes⟩ := hgives bs hbs
  refine ⟨⟨bs, hbs, hcount (by decide), hbytes⟩, hword.2 ?_, fun hlast => ?_⟩
  · exact (reads_exact m 0x055 2).1.2 (by decide)
  · exact absurd ((reads_exact m 0xFFF 2).1.1 hlast) (by decide)

/-- Minus one byte of a fresh memory is all of it but the last byte. -/
theorem read_backwards :
    ∃ m bs, ofProgram? [] = .ok m ∧ m.readBytes 0 (-1) = .ok bs ∧ bs.length = 4095 := by
  have hin : InRange 0 (-1) := by decide
  obtain ⟨bs, hread, hcount, -⟩ := readBytes_ends (m := fresh []) hin
  have hlength : (bs.length : Int) = 4095 := hcount.trans (by decide)
  exact ⟨fresh [], bs, rfl, hread, by omega⟩

end Memory

end Chip8
