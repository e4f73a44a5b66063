import Chip8.Disassembly
import Chip8.Proofs.Display
import Chip8.Proofs.Step
import Mathlib.Data.List.GetD

/-!
# Listings

Which words of a range the disassembly shows, and what it shows of each.

- `Listing.Shows`: a line shows the word at an address, its four digits and the instruction that a
  step would execute there.
- `Listing.linesTo_eq`: the loop over the words, once it is inside memory.
- `Listing.ofRange_covers`: a range is shown as far as it lies in memory, and may be shown in two
  parts.
-/

namespace Chip8

/-! ## Four digits -/

namespace Hex

/-- The two digits of a byte. -/
def pair (b : UInt8) : List Char :=
  [upperDigits.getD (b.toNat / 16) '0', upperDigits.getD (b.toNat % 16) '0']

/-- A number that fits its width is written in exactly this many digits. -/
theorem length_upper {width n : Nat} (hwidth : 0 < width) (h : n < 16 ^ width) :
    (upper width n).toList.length = width := by
  have hlog : Nat.log 16 n < width := Nat.log_lt_of_lt_pow' hwidth.ne' h
  rw [(writes_upper width (Int.natCast_nonneg n)).length, Int.toNat_natCast]
  omega

/-- A digit is found under its value. -/
theorem getD_idxOf {c : Char} (h : c ∈ upperDigits) :
    upperDigits.getD (upperDigits.idxOf c) '0' = c := by
  rw [List.getD_eq_getElem _ _ (List.idxOf_lt_length_iff.2 h), List.getElem_idxOf]

/-- A word is written as the digits of its two bytes. -/
theorem upper_word (high low : UInt8) :
    (upper 4 (high.toNat * 256 + low.toNat : Nat)).toList = pair high ++ pair low := by
  have hhigh := high.toNat_lt
  have hlow := low.toNat_lt
  have hwrites := writes_upper 4 (Int.natCast_nonneg (high.toNat * 256 + low.toNat))
  have hlength : (upper 4 (high.toNat * 256 + low.toNat : Nat)).toList.length = 4 :=
    length_upper (by decide) (by omega)
  have hvalue := Int.ofNat.inj hwrites.value
  have hdigits := hwrites.digits
  generalize (upper 4 (high.toNat * 256 + low.toNat : Nat)).toList = cs at hdigits hvalue hlength ⊢
  match cs, hlength with
  | [a, b, c, d], _ =>
    simp only [List.forall_mem_cons] at hdigits
    obtain ⟨ha, hb, hc, hd, -⟩ := hdigits
    have hbound : ∀ {x}, x ∈ upperDigits → upperDigits.idxOf x < 16 := fun hx =>
      List.idxOf_lt_length_iff.2 hx
    have := hbound ha
    have := hbound hb
    have := hbound hc
    have := hbound hd
    simp only [value, List.foldl_cons, List.foldl_nil] at hvalue
    have hfirst : high.toNat / 16 = upperDigits.idxOf a := by omega
    have hsecond : high.toNat % 16 = upperDigits.idxOf b := by omega
    have hthird : low.toNat / 16 = upperDigits.idxOf c := by omega
    have hfourth : low.toNat % 16 = upperDigits.idxOf d := by omega
    simp only [pair, hfirst, hsecond, hthird, hfourth, getD_idxOf ha, getD_idxOf hb, getD_idxOf hc,
      getD_idxOf hd]
    rfl

end Hex

/-! ## The instruction of a step -/

/-- A word of sixteen bits is decoded. -/
theorem Instruction.ofWord?_of_lt {w : Nat} (h : w < 65536) :
    ofWord? w = .ok (decode ⟨(w : Int)⟩) := by
  rw [ofWord?, if_pos ⟨by omega, by omega⟩]

namespace Machine

variable {m : Machine}

/-- A step, whatever keys are held, executes the instruction `i`; what is left is to finish. -/
def Executes (m : Machine) (i : Instruction) : Prop :=
  ∀ keys held, Keypad.held keys = .ok held →
    (step keys).on m =
      match (execute i m.registers.counter held).on m with
      | (.ok outcome, m₁) => (.ok (), m₁.finish m.registers.counter outcome)
      | (.error e, m₁) => (.error e, m₁)

theorem executes_of_fetch {i : Instruction}
    (h : Instruction.fetch m.memory m.registers.counter = .ok i) : m.Executes i := by
  intro keys held hheld
  simp only [step, Action.on_bind, Action.on_get, hheld, h, orError, Action.on_pure,
    Action.on_modify]
  rcases (execute i m.registers.counter held).on m with ⟨_ | outcome, m₁⟩ <;> rfl

end Machine

/-! ## Lines -/

namespace Listing

variable {m : Memory} {address last : Int}

/-- What a line says of the word at an address: the address, the digits of the two bytes there, and
the text of the instruction that is fetched from there, which is the one that a step executes with
its program counter there. -/
structure Shows (m : Memory) (address : Int) (l : Listing) : Prop where
  place : l.address = address
  digits : ∃ high low, m.readByte address = .ok high ∧ m.readByte (address + 1) = .ok low ∧
    l.digits.toList = Hex.pair high ++ Hex.pair low
  text : ∃ i, Instruction.fetch m address = .ok i ∧ l.text = i.text ∧
    ∀ machine : Machine, machine.memory = m → machine.registers.counter = address →
      machine.Executes i

/-- The line for the word at an address in memory. -/
def lineAt (m : Memory) (address : Int) : Listing :=
  ⟨address, Hex.upper 4 (m.wordAt address), (Instruction.decode ⟨(m.wordAt address : Int)⟩).text⟩

theorem line_inRange (h : Memory.InRange address 2) : line m address = .ok (lineAt m address) := by
  rw [line, Memory.readWord_inRange h]
  show ((Instruction.ofWord? (m.wordAt address : Int)).mapError Error.fault >>= _) = _
  rw [Instruction.ofWord?_of_lt (m.wordAt_lt address)]
  rfl

theorem line_outOfRange (h : ¬ Memory.InRange address 2) :
    line m address = .error (.fault (.memoryRange address 2)) := by
  rw [line, Memory.readWord_outOfRange h]
  rfl

theorem shows_lineAt (h : Memory.InRange address 2) : Shows m address (lineAt m address) := by
  obtain ⟨hlow, hhigh⟩ := h
  have hfirst : m.readByte address = .ok (m.cell address.toNat) :=
    Memory.readByte_inRange ⟨hlow, by omega⟩
  have hsecond : m.readByte (address + 1) = .ok (m.cell (address.toNat + 1)) := by
    rw [Memory.readByte_inRange ⟨by omega, by omega⟩, ← Int.toNat_add_nat hlow 1]
    rfl
  have hfetch := Instruction.fetch_inRange (m := m) ⟨hlow, hhigh⟩
  refine ⟨rfl, ⟨_, _, hfirst, hsecond, Hex.upper_word _ _⟩, _, hfetch, rfl, ?_⟩
  rintro machine rfl rfl
  exact Machine.executes_of_fetch hfetch

/-! ## Ranges -/

/-- The lines for so many words from an address on. -/
def linesAt (m : Memory) (address : Int) (count : Nat) : List Listing :=
  (List.range count).map fun k : Nat => lineAt m (address + 2 * k)

theorem linesAt_succ (count : Nat) :
    linesAt m address (count + 1) = lineAt m address :: linesAt m (address + 2) count := by
  simp only [linesAt, List.range_succ_eq_map, List.map_cons, List.map_map]
  congr 1
  · simp
  · refine List.map_congr_left fun k _ => congrArg (lineAt m) ?_
    simp only [Nat.succ_eq_add_one]
    omega

theorem linesAt_add (i j : Nat) :
    linesAt m address (i + j) = linesAt m address i ++ linesAt m (address + 2 * i) j := by
  simp only [linesAt, List.range_add, List.map_append, List.map_map]
  congr 1
  refine List.map_congr_left fun k _ => congrArg (lineAt m) ?_
  simp only [Nat.cast_add]
  omega

/-- Inside memory, the loop goes over all words that end before `last` or there. -/
theorem linesTo_eq (haddress : 0 ≤ address) (hlast : last ≤ 4096) :
    linesTo m last address = .ok (linesAt m address ((last - address) / 2).toNat) := by
  -- on the number of words that are left
  induction hcount : ((last - address) / 2).toNat generalizing address with
  | zero =>
    rw [linesTo, if_neg (by omega)]
    rfl
  | succ count ih =>
    have hin : Memory.InRange address 2 := ⟨haddress, by omega⟩
    have hrest : linesTo m last (address + 2) = .ok (linesAt m (address + 2) count) :=
      ih (by omega) (by omega)
    rw [linesTo, if_pos (by omega), line_inRange hin, linesAt_succ]
    show (linesTo m last (address + 2) >>= _) = _
    rw [hrest]
    rfl

/-- How many words a range has in memory. -/
def count (start length : Int) : Nat :=
  ((min (start + length) 4096 - start) / 2).toNat

/-- A range that begins in memory or behind it is shown as far as it lies in memory. -/
theorem ofRange_eq {start : Int} (h : 0 ≤ start) (length : Int) :
    ofRange m start length = .ok (linesAt m start (count start length)) :=
  linesTo_eq h (Int.min_le_right _ _)

/-- A range that begins below memory fails, unless it has no room for a word. -/
theorem ofRange_eq_ite (start length : Int) :
    ofRange m start length =
      if start < 0 ∧ 2 ≤ length then .error (.fault (.memoryRange start 2))
      else .ok (linesAt m start (count start length)) := by
  by_cases hstart : 0 ≤ start
  · rw [ofRange_eq hstart, if_neg fun h => absurd h.1 (Int.not_lt.2 hstart)]
  · have hsize : ((Memory.size : Nat) : Int) = 4096 := rfl
    rw [ofRange, linesTo, hsize]
    by_cases hlength : 2 ≤ length
    · rw [if_pos (by omega), if_pos ⟨Int.not_le.1 hstart, hlength⟩,
        line_outOfRange fun hin => hstart hin.1]
      rfl
    · have hnone : count start length = 0 := by
        rw [count]
        omega
      rw [if_neg (by omega), if_neg fun h => hlength h.2, hnone]
      rfl

/-- A range is shown in two parts, cut after any number of words. -/
theorem linesAt_count_add {start words length : Int} (hwords : 0 ≤ words) (hlength : 0 ≤ length) :
    linesAt m start (count start (2 * words + length)) =
      linesAt m start (count start (2 * words)) ++
        linesAt m (start + 2 * words) (count (start + 2 * words) length) := by
  by_cases hcut : start + 2 * words ≤ 4096
  · have hplace : start + 2 * (count start (2 * words) : Int) = start + 2 * words := by
      rw [count]
      omega
    have hcount : count start (2 * words + length) =
        count start (2 * words) + count (start + 2 * words) length := by
      simp only [count]
      omega
    rw [hcount, linesAt_add, hplace]
  · -- the first part reaches the end of memory already
    have hrest : count (start + 2 * words) length = 0 := by
      rw [count]
      omega
    have hcount : count start (2 * words + length) = count start (2 * words) := by
      simp only [count]
      omega
    rw [hcount, hrest]
    exact (List.append_nil _).symm

/-- Every word that is shown is one of memory. -/
theorem inRange_of_lt_count {start length : Int} (h : ¬ (start < 0 ∧ 2 ≤ length)) {k : Nat}
    (hk : k < count start length) : Memory.InRange (start + 2 * k) 2 := by
  rw [count] at hk
  exact ⟨by omega, by omega⟩

/-- Every line is that of a word of memory. -/
theorem eq_lineAt_of_ofRange {start length : Int} {ls : List Listing}
    (hls : ofRange m start length = .ok ls) {l : Listing} (hl : l ∈ ls) :
    ∃ address, Memory.InRange address 2 ∧ l = lineAt m address := by
  rw [ofRange_eq_ite] at hls
  split_ifs at hls with h
  obtain rfl := Except.ok.inj hls
  obtain ⟨k, hk, rfl⟩ := List.mem_map.1 hl
  exact ⟨_, inRange_of_lt_count h (List.mem_range.1 hk), rfl⟩

/-- **What the disassembly of a range shows.** It fails exactly for a range that begins below memory
and has room for a word, with the fault of reading that word. Otherwise it has a line for each word
that lies in the range and ends within memory, in order. A range in memory may be cut into two after
any number of words. -/
theorem ofRange_covers (m : Memory) (start length : Int) :
    ((∃ e, ofRange m start length = .error e) ↔ start < 0 ∧ 2 ≤ length) ∧
    (∀ e, ofRange m start length = .error e → e = .fault (.memoryRange start 2)) ∧
    (∀ ls, ofRange m start length = .ok ls →
      (ls.length : Int) = max 0 ((min (start + length) 4096 - start) / 2) ∧
      ∀ k (hk : k < ls.length), Shows m (start + 2 * k) ls[k]) ∧
    ∀ a b, 0 ≤ start → 0 ≤ a → 2 ∣ a → 0 ≤ b →
      ∃ first rest, ofRange m start a = .ok first ∧ ofRange m (start + a) b = .ok rest ∧
        ofRange m start (a + b) = .ok (first ++ rest) := by
  refine ⟨?fails, ?fault, ?lines, ?parts⟩
  case fails =>
    rw [ofRange_eq_ite]
    split_ifs with h
    · exact ⟨fun _ => h, fun _ => ⟨_, rfl⟩⟩
    · exact ⟨fun ⟨_, he⟩ => (nomatch he), fun hfails => absurd hfails h⟩
  case fault =>
    intro e he
    rw [ofRange_eq_ite] at he
    split_ifs at he
    exact (Except.error.inj he).symm
  case lines =>
    intro ls hls
    rw [ofRange_eq_ite] at hls
    split_ifs at hls with h
    obtain rfl := Except.ok.inj hls
    have hlength : (linesAt m start (count start length)).length = count start length := by
      rw [linesAt, List.length_map, List.length_range]
    refine ⟨by rw [hlength, count]; omega, fun k hk => ?_⟩
    rw [hlength] at hk
    simp only [linesAt, List.getElem_map, List.getElem_range]
    exact shows_lineAt (inRange_of_lt_count h hk)
  case parts =>
    rintro a b hstart ha ⟨words, rfl⟩ hb
    refine ⟨_, _, ofRange_eq hstart _, ofRange_eq (by omega) _, ?_⟩
    rw [ofRange_eq hstart, linesAt_count_add (by omega) hb]

/-- Five bytes are two words and a byte that is not shown. A range that begins below memory
fails. -/
theorem ofRange_covers_fiveBytes :
    let m := Memory.blank.overlay Memory.programBase [0x00, 0xE0, 0xA2, 0x0A, 0x12]
    (∃ first rest, ofRange m 0x200 2 = .ok first ∧ ofRange m 0x202 3 = .ok rest ∧
      ofRange m 0x200 5 = .ok (first ++ rest) ∧ ((first ++ rest).length : Int) = 2) ∧
    ofRange m (-1) 2 = .error (.fault (.memoryRange (-1) 2)) := by
  intro m
  obtain ⟨-, -, hlines, hparts⟩ := ofRange_covers m 0x200 5
  obtain ⟨first, rest, hfirst, hrest, hboth⟩ := hparts 2 3 (by decide) (by decide) (by decide)
    (by decide)
  obtain ⟨hfails, hfault, -, -⟩ := ofRange_covers m (-1) 2
  obtain ⟨e, he⟩ := hfails.2 (by decide)
  refine ⟨⟨first, rest, hfirst, hrest, hboth, (hlines _ hboth).1⟩, ?_⟩
  rw [he, hfault e he]

end Listing

end Chip8
