import Chip8.Proofs.MemoryWrites

/-!
# Decimals in memory

The hundreds, tens and ones of a number are stored in three cells. The hundreds have a byte to
themselves and need not be one digit, so numbers up to 25599 can be stored. Whether a number fits
is decided before its address is looked at.

- `Write.refusal_decimal`: why a number is not stored, if so.
- `Byte.toInts_decimals`: the three bytes tell the number.
- `Memory.storeDecimal_exact`: which numbers are stored, and what memory holds then.
-/

namespace Chip8

/-- Bytes with the values of a number's decimals are three, and the number can be told from
them. -/
theorem Byte.toInts_decimals {bs : List UInt8} {value : Int}
    (h : toInts bs = [value / 100, value / 10 % 10, value % 10]) :
    ∃ a b c : UInt8, bs = [a, b, c] ∧ 100 * (a.toNat : Int) + 10 * b.toNat + c.toNat = value ∧
      b.toNat ≤ 9 ∧ c.toNat ≤ 9 ∧ (value < 1000 → a.toNat ≤ 9) := by
  obtain ⟨a, rest, rfl, ha, hrest⟩ := List.map_eq_cons_iff.1 h
  obtain ⟨b, rest, rfl, hb, hrest⟩ := List.map_eq_cons_iff.1 hrest
  obtain ⟨c, rest, rfl, hc, hrest⟩ := List.map_eq_cons_iff.1 hrest
  obtain rfl := List.map_eq_nil_iff.1 hrest
  refine ⟨a, b, c, rfl, by omega, by omega, by omega, ?_⟩
  intro hvalue
  omega

namespace Memory

/-- Why a number is not stored, if so: its hundreds have to fit a byte, and that comes before the
range. -/
theorem Write.refusal_decimal (address value : Int) :
    (decimal address value).refusal =
      if value < 0 ∨ 25600 ≤ value then some .wideByte
      else if address < 0 ∨ 4096 < address + 3 then some (.fault (.memoryRange address 3))
      else none := by
  have hwide : (∃ v ∈ [value / 100, value / 10 % 10, value % 10], v < 0 ∨ 255 < v) ↔
      value < 0 ∨ 25600 ≤ value := by
    simp only [List.mem_cons, List.not_mem_nil, or_false, exists_eq_or_imp, exists_eq_left]
    omega
  simp only [refusal, blockRefusal, hwide]
  rfl

variable {m : Memory} {address value : Int}

theorem storeDecimal_eq_error {e : Error} :
    m.storeDecimal address value = .error e ↔ (Write.decimal address value).refusal = some e :=
  Write.on_eq_error (w := .decimal address value)

/-- A number that fits is stored in the three cells from its address on, and nowhere else. -/
theorem storeDecimal_fits (hvalue : 0 ≤ value ∧ value < 25600)
    (haddress : 0 ≤ address ∧ address + 3 ≤ 4096) :
    ∃ next bs, m.storeDecimal address value = .ok next ∧
      Byte.toInts bs = [value / 100, value / 10 % 10, value % 10] ∧
      next.readBytes address bs.length = .ok bs ∧
      ∀ i : Int, i < address ∨ address + bs.length ≤ i → next.readByte i = m.readByte i := by
  have hmade : (Write.decimal address value).refusal = none := by
    rw [Write.refusal_decimal, if_neg (by omega), if_neg (by omega)]
  rcases Write.on_cases (.decimal address value) m with ⟨-, bs, hbytes, hin, hon⟩ | ⟨e, he, -⟩
  · refine ⟨_, bs, hon, hbytes, readBytes_overlay hin, ?_⟩
    intro i hi
    exact readByte_overlay_other hin hi
  · rw [hmade] at he
    cases he

/-- **Decimals are stored exactly or not at all.** A number is refused for its size iff it is
negative or its hundreds exceed a byte, and otherwise for its address iff the three cells are not
all in memory; refused, it leaves memory as it is. A number that is stored can be told from the
three bytes at its address: the last two of them are digits, and so is the first if the number is
below 1000, as those of registers are. All other bytes stay. -/
theorem storeDecimal_exact (m : Memory) (address value : Int) :
    (m.storeDecimal address value = .error .wideByte ↔ value < 0 ∨ 25600 ≤ value) ∧
    (m.storeDecimal address value = .error (.fault (.memoryRange address 3)) ↔
      (0 ≤ value ∧ value < 25600) ∧ (address < 0 ∨ 4096 < address + 3)) ∧
    (∀ e, m.storeDecimal address value = .error e →
      (e = .wideByte ∨ e = .fault (.memoryRange address 3)) ∧
        m.attempt (.decimal address value) = m) ∧
    (0 ≤ value ∧ value < 25600 → 0 ≤ address ∧ address + 3 ≤ 4096 →
      ∃ next, m.storeDecimal address value = .ok next ∧
        ∃ a b c : UInt8, next.readBytes address 3 = .ok [a, b, c] ∧
          100 * (a.toNat : Int) + 10 * b.toNat + c.toNat = value ∧
          b.toNat ≤ 9 ∧ c.toNat ≤ 9 ∧ (value < 1000 → a.toNat ≤ 9) ∧
          (∀ (rs : Registers) (r : Register), value = (rs.get r).toNat → a.toNat ≤ 9) ∧
          ∀ i : Int, i < address ∨ address + 3 ≤ i → next.readByte i = m.readByte i) := by
  refine ⟨?_, ?_, fun e he => ?_, fun hvalue haddress => ?_⟩
  · rw [storeDecimal_eq_error, Write.refusal_decimal]
    split_ifs with hwide hout
    · exact iff_of_true rfl hwide
    · exact iff_of_false (fun h => (nomatch h)) hwide
    · exact iff_of_false (fun h => (nomatch h)) hwide
  · rw [storeDecimal_eq_error, Write.refusal_decimal]
    split_ifs with hwide hout
    · exact iff_of_false (fun h => (nomatch h)) (by omega)
    · exact iff_of_true rfl ⟨by omega, hout⟩
    · exact iff_of_false (fun h => (nomatch h)) (fun h => hout h.2)
  · have hrefusal := storeDecimal_eq_error.1 he
    refine ⟨?_, attempt_refused hrefusal⟩
    rw [Write.refusal_decimal] at hrefusal
    split_ifs at hrefusal
    · exact .inl (Option.some.inj hrefusal).symm
    · exact .inr (Option.some.inj hrefusal).symm
  · obtain ⟨next, bs, hstored, hbytes, hread, hother⟩ := storeDecimal_fits (m := m) hvalue haddress
    obtain ⟨a, b, c, rfl, htold, hb, hc, ha⟩ := Byte.toInts_decimals hbytes
    refine ⟨next, hstored, a, b, c, hread, htold, hb, hc, ha, ?_, hother⟩
    intro rs r hregister
    have hlt := (rs.get r).toNat_lt
    exact ha (by omega)

/-- The largest number that can be stored, in the last three cells of a fresh memory; the number
after it, which is refused there and anywhere; and a number without room for its ones. -/
theorem storeDecimal_exact_largest :
    let m := fresh []
    (∃ next, m.storeDecimal 0xFFD 25599 = .ok next ∧
      (∃ a b c : UInt8, next.readBytes 0xFFD 3 = .ok [a, b, c] ∧
        100 * (a.toNat : Int) + 10 * b.toNat + c.toNat = 25599) ∧
      next.readByte 0xFFC = m.readByte 0xFFC) ∧
    m.storeDecimal 0xFFE 25600 = .error .wideByte ∧
    m.storeDecimal 0xFFE 7 = .error (.fault (.memoryRange 0xFFE 3)) ∧
    m.attempt (.decimal 0xFFE 7) = m := by
  intro m
  obtain ⟨-, -, -, hstores⟩ := storeDecimal_exact m 0xFFD 25599
  obtain ⟨next, hnext, a, b, c, hread, htold, -, -, -, -, hother⟩ :=
    hstores (by decide) (by decide)
  obtain ⟨hwide, -⟩ := storeDecimal_exact m 0xFFE 25600
  obtain ⟨-, hout, hkeeps, -⟩ := storeDecimal_exact m 0xFFE 7
  have hrefused := hout.2 (by decide)
  refine ⟨⟨next, hnext, ⟨a, b, c, hread, htold⟩, hother 0xFFC (by decide)⟩, hwide.2 (by decide),
    hrefused, ?_⟩
  exact (hkeeps _ hrefused).2

end Memory

end Chip8
