import Chip8.Proofs.Fresh
import Chip8.Proofs.Merging

/-!
# Writing memory

What a sequence of writes leaves in memory, with any addresses and any values in
it. A write puts down all of its bytes or fails, and the host goes on either way.

- `Memory.Write`: the three ways to write; `Write.values`: what each puts down.
- `Write.refusal`: why a write fails, if so; `Write.on_cases`: a write is made or
  refused, and memory has no part in which.
- `Memory.after`: memory after writes, made and refused.
- `Write.Puts`: a write that is made puts a value down at an address;
  `Memory.cell_attempt_puts`, `Memory.cell_attempt_other`: what one write leaves there.
- `Memory.after_overlay`: every byte is the last one that was put down there.
-/

namespace Chip8

namespace Memory

open Entries (IsLast)

/-- A write as it is asked for. -/
inductive Write where
  /-- One byte. -/
  | byte (address data : Int)
  /-- A byte for each value. -/
  | block (address : Int) (values : List Int)
  /-- The hundreds, tens and ones of a number. -/
  | decimal (address value : Int)
  deriving DecidableEq, Repr

variable {m : Memory} {w : Write} {writes : List Write} {a : Nat} {v : Int}

namespace Write

/-- Tries the write. -/
def on : Write → Memory → Except Error Memory
  | byte address data, m => m.writeByte address data
  | block address values, m => m.writeBytes address values
  | decimal address value, m => m.storeDecimal address value

/-- Where the first value goes. -/
def start : Write → Int
  | byte address _ | block address _ | decimal address _ => address

/-- The values that are put down from `start` on. -/
def values : Write → List Int
  | byte _ data => [data]
  | block _ values => values
  | decimal _ value => [value / 100, value / 10 % 10, value % 10]

/-- Why values cannot be written, if so. The values come before the range. -/
def blockRefusal (address : Int) (values : List Int) : Option Error :=
  if ∃ v ∈ values, v < 0 ∨ 255 < v then some .wideByte
  else if address < 0 ∨ 4096 < address + values.length then
    some (.fault (.memoryRange address values.length))
  else none

/-- Why a write fails, if so. For a single byte the address comes before the data. -/
def refusal : Write → Option Error
  | byte address data =>
    if address < 0 ∨ 4095 < address then some (.fault (.memoryRange address 1))
    else if data < 0 ∨ 255 < data then some (.wideData data)
    else none
  | block address values => blockRefusal address values
  | decimal address value => blockRefusal address [value / 100, value / 10 % 10, value % 10]

/-- The write is made, and `v` is what it puts down at `a`. -/
def Puts (w : Write) (a : Nat) (v : Int) : Prop :=
  w.refusal = none ∧ w.start ≤ a ∧ w.values[(a - w.start).toNat]? = some v

/-! ## One write -/

/-- Values are written as bytes or refused. -/
theorem writeBytes_cases (m : Memory) (address : Int) (values : List Int) :
    (blockRefusal address values = none ∧ ∃ bs, Byte.toInts bs = values ∧
      InRange address bs.length ∧ m.writeBytes address values = .ok (m.overlay address.toNat bs)) ∨
    ∃ e, blockRefusal address values = some e ∧ m.writeBytes address values = .error e := by
  by_cases hwide : ∃ v ∈ values, v < 0 ∨ 255 < v
  · have hnot : ¬ ∀ v ∈ values, 0 ≤ v ∧ v ≤ 255 := by
      obtain ⟨v, hv, hout⟩ := hwide
      intro hall
      have := hall v hv
      omega
    refine .inr ⟨.wideByte, if_pos hwide, ?_⟩
    rw [writeBytes, Byte.ofInts_wide hnot]
    rfl
  · have hall : ∀ v ∈ values, 0 ≤ v ∧ v ≤ 255 := by
      intro v hv
      have hout : ¬ (v < 0 ∨ 255 < v) := fun hout => hwide ⟨v, hv, hout⟩
      omega
    obtain ⟨bs, rfl⟩ := Byte.exists_toInts hall
    have hlength : (Byte.toInts bs).length = bs.length := List.length_map _
    rw [blockRefusal, if_neg hwide, hlength]
    by_cases hin : InRange address bs.length
    · obtain ⟨hlow, hhigh⟩ := hin
      rw [if_neg (by omega)]
      exact .inl ⟨rfl, bs, rfl, ⟨hlow, hhigh⟩, writeBytes_inRange bs ⟨hlow, hhigh⟩⟩
    · have hout : address < 0 ∨ 4096 < address + bs.length := by
        rw [InRange] at hin
        omega
      rw [if_pos hout]
      exact .inr ⟨_, rfl, writeBytes_outOfRange bs hin⟩

/-- A value is written as a byte or refused. -/
theorem writeByte_cases (m : Memory) (address data : Int) :
    ((byte address data).refusal = none ∧ ∃ bs, Byte.toInts bs = [data] ∧
      InRange address bs.length ∧ m.writeByte address data = .ok (m.overlay address.toNat bs)) ∨
    ∃ e, (byte address data).refusal = some e ∧ m.writeByte address data = .error e := by
  rw [refusal]
  by_cases hin : InRange address 1
  · obtain ⟨hlow, hhigh⟩ := hin
    rw [if_neg (by omega), writeByte, checkRange_inRange ⟨hlow, hhigh⟩]
    by_cases hfits : 0 ≤ data ∧ data ≤ 255
    · have hbyte : Byte.ofInt? data = some (UInt8.ofNat data.toNat) := if_pos hfits
      rw [if_neg (by omega), hbyte]
      refine .inl ⟨rfl, [UInt8.ofNat data.toNat], ?_, ⟨hlow, hhigh⟩, rfl⟩
      exact congrArg (fun n : Int => [n]) (Byte.ofInt?_eq_some.1 hbyte)
    · have hnone : Byte.ofInt? data = none := if_neg hfits
      rw [if_pos (by omega), hnone]
      exact .inr ⟨_, rfl, rfl⟩
  · have hout : address < 0 ∨ 4095 < address := by
      rw [InRange] at hin
      omega
    rw [if_pos hout, writeByte, checkRange_outOfRange hin]
    exact .inr ⟨_, rfl, rfl⟩

/-- A write is made or refused. Memory has no part in which. -/
theorem on_cases (w : Write) (m : Memory) :
    (w.refusal = none ∧ ∃ bs, Byte.toInts bs = w.values ∧ InRange w.start bs.length ∧
      w.on m = .ok (m.overlay w.start.toNat bs)) ∨
    ∃ e, w.refusal = some e ∧ w.on m = .error e := by
  cases w with
  | byte address data => exact writeByte_cases m address data
  | block address values => exact writeBytes_cases m address values
  | decimal address value =>
    have hhundred : (0 : Int) ≤ 100 := by decide
    have hten : (0 : Int) ≤ 10 := by decide
    rw [on, storeDecimal, Int.fdiv_eq_ediv_of_nonneg _ hhundred,
      Int.fdiv_eq_ediv_of_nonneg _ hten, Int.fmod_eq_emod_of_nonneg _ hten,
      Int.fmod_eq_emod_of_nonneg _ hten]
    exact writeBytes_cases m address _

/-- A write is refused for one reason, whatever memory holds. -/
theorem on_eq_error {e : Error} : w.on m = .error e ↔ w.refusal = some e := by
  rcases on_cases w m with ⟨hmade, bs, -, -, hon⟩ | ⟨e', hrefusal, hon⟩
  · rw [hon, hmade]
    exact ⟨fun h => (nomatch h), fun h => (nomatch h)⟩
  · rw [hon, hrefusal, Except.error.injEq, Option.some.injEq]

end Write

/-- Memory after a write is tried. One that fails leaves memory as it is. -/
def attempt (m : Memory) (w : Write) : Memory :=
  match w.on m with
  | .ok next => next
  | .error _ => m

/-- Memory after writes, those that are made and those that fail. -/
def after (m : Memory) (writes : List Write) : Memory :=
  writes.foldl attempt m

theorem attempt_refused {e : Error} (h : w.refusal = some e) : m.attempt w = m := by
  rw [attempt, Write.on_eq_error.2 h]

/-- A write leaves its own value at an address where it puts one. -/
theorem cell_attempt_puts (h : w.Puts a v) : (((m.attempt w).cell a).toNat : Int) = v := by
  obtain ⟨hmade, hstart, hvalue⟩ := h
  rcases Write.on_cases w m with ⟨-, bs, hbytes, hin, hon⟩ | ⟨e, hrefusal, -⟩
  · rw [← hbytes, Byte.toInts, List.getElem?_map, Option.map_eq_some_iff] at hvalue
    obtain ⟨b, hb, rfl⟩ := hvalue
    have hlow := hin.1
    have hplace : (a - w.start).toNat = a - w.start.toNat := by omega
    rw [hplace] at hb
    rw [attempt, hon]
    show (((m.overlay w.start.toNat bs).cell a).toNat : Int) = b.toNat
    rw [cell_overlay_fits m hin.toNat_le, if_pos (by omega), hb, Option.getD_some]
  · rw [hmade] at hrefusal
    cases hrefusal

/-- Elsewhere it leaves what was there. -/
theorem cell_attempt_other (h : ∀ v, ¬ w.Puts a v) : (m.attempt w).cell a = m.cell a := by
  rcases Write.on_cases w m with ⟨hmade, bs, hbytes, hin, hon⟩ | ⟨e, hrefusal, -⟩
  · rw [attempt, hon]
    show (m.overlay w.start.toNat bs).cell a = m.cell a
    rw [cell_overlay_fits m hin.toNat_le]
    split
    · next hstart =>
      cases hb : bs[a - w.start.toNat]? with
      | none => rfl
      | some b =>
        have hlow := hin.1
        have hplace : (a - w.start).toNat = a - w.start.toNat := by omega
        refine absurd ⟨hmade, by omega, ?_⟩ (h b.toNat)
        rw [← hbytes, Byte.toInts, List.getElem?_map, hplace, hb]
        rfl
    · rfl
  · rw [attempt_refused hrefusal]

/-! ## Writes in order -/

theorem after_append (m : Memory) (first later : List Write) :
    m.after (first ++ later) = (m.after first).after later :=
  List.foldl_append

/-- Where no write puts anything, memory keeps what it had. -/
theorem cell_after_other (h : ∀ w ∈ writes, ∀ v, ¬ w.Puts a v) :
    (m.after writes).cell a = m.cell a := by
  induction writes generalizing m with
  | nil => rfl
  | cons w rest ih =>
    obtain ⟨hfirst, hrest⟩ := List.forall_mem_cons.1 h
    exact (ih hrest).trans (cell_attempt_other hfirst)

/-- The last write that puts something counts. -/
theorem cell_after_last (h : IsLast (fun w => ∃ v, w.Puts a v) writes w) (hv : w.Puts a v) :
    (((m.after writes).cell a).toNat : Int) = v := by
  obtain ⟨before, later, rfl, -, hlater⟩ := h
  have hkept : (m.after (before ++ w :: later)).cell a = ((m.after before).attempt w).cell a := by
    rw [after_append]
    exact cell_after_other fun x hx v hputs => hlater x hx ⟨v, hputs⟩
  rw [hkept]
  exact cell_attempt_puts hv

/-- **Memory is what was written last.** After any writes to a fresh memory, whatever their
addresses and values, memory has its size, each byte is the one that the last write to its address
has put there, and a byte of the image where none has. A write fails exactly for its refusal and
changes nothing then. -/
theorem after_overlay {program : List UInt8} (h : program.length ≤ 3584) (writes : List Write) :
    ∃ image, ofProgram? program = .ok image ∧
      let m := image.after writes
      m.cells.toList.length = 4096 ∧
      (∀ a < 4096,
        (∀ w v, IsLast (fun w => ∃ v, w.Puts a v) writes w → w.Puts a v →
          ∃ b, m.readByte a = .ok b ∧ (b.toNat : Int) = v) ∧
        ((∀ w ∈ writes, ∀ v, ¬ w.Puts a v) → m.readByte a = image.readByte a)) ∧
      (∀ w : Write, (∃ next, w.on m = .ok next) ↔ w.refusal = none) ∧
      ∀ (w : Write) e, (w.on m = .error e ↔ w.refusal = some e) ∧
        (w.on m = .error e → image.after (writes ++ [w]) = m) := by
  refine ⟨fresh program, ofProgram?_fits h, Vector.length_toList .., fun a ha => ?_, fun w => ?_,
    fun w e => ⟨Write.on_eq_error, fun he => ?_⟩⟩
  · have hread : ∀ m : Memory, m.readByte a = .ok (m.cell a) := fun m =>
      readByte_inRange ⟨by omega, by omega⟩
    simp only [hread]
    refine ⟨fun w v hlast hv => ⟨_, rfl, cell_after_last hlast hv⟩, fun hnone => ?_⟩
    rw [cell_after_other hnone]
  · rcases Write.on_cases w ((fresh program).after writes) with
      ⟨hmade, bs, -, -, hon⟩ | ⟨e, hrefusal, hon⟩
    · rw [hon, hmade]
      exact iff_of_true ⟨_, rfl⟩ rfl
    · rw [hon, hrefusal]
      exact iff_of_false (fun ⟨_, h⟩ => (nomatch h)) (fun h => (nomatch h))
  · rw [after_append]
    exact attempt_refused (Write.on_eq_error.1 he)

/-- Over a program of four bytes three bytes are written, then the decimals of a number, which begin
with the second of the three. A value that fits no byte and a range that leaves memory come last. -/
theorem after_overlay_program :
    ([0x12, 0x00, 0xAB, 0xCD] : List UInt8).length ≤ 3584 ∧
      ∃ image, ofProgram? [0x12, 0x00, 0xAB, 0xCD] = .ok image ∧
        let m := image.after [.block 0x200 [1, 2, 3], .decimal 0x201 254, .byte 0x200 256,
          .block 0xFFF [7, 7]]
        (∃ b, m.readByte 0x200 = .ok b ∧ (b.toNat : Int) = 1) ∧
        (∃ b, m.readByte 0x202 = .ok b ∧ (b.toNat : Int) = 5) ∧
        m.readByte 0xFFF = image.readByte 0xFFF := by
  have hfits : ([0x12, 0x00, 0xAB, 0xCD] : List UInt8).length ≤ 3584 := by decide
  obtain ⟨image, himage, -, hread, -⟩ := after_overlay hfits [.block 0x200 [1, 2, 3],
    .decimal 0x201 254, .byte 0x200 256, .block 0xFFF [7, 7]]
  -- the last two writes are refused
  have hwide : ∀ a v, ¬ (Write.byte 0x200 256).Puts a v := fun a v h => nomatch h.1
  have hout : ∀ a v, ¬ (Write.block 0xFFF [7, 7]).Puts a v := fun a v h =>
    absurd h.1 (by decide)
  refine ⟨hfits, image, himage, ?_, ?_, ?_⟩
  · refine (hread 0x200 (by decide)).1 (.block 0x200 [1, 2, 3]) 1 ?_ ⟨by decide, by decide, rfl⟩
    refine ⟨[], _, rfl, ⟨1, by decide, by decide, rfl⟩, ?_⟩
    simp only [List.forall_mem_cons, not_exists]
    refine ⟨fun v h => absurd h.2.1 (by decide), hwide _, hout _, fun w hw => (nomatch hw)⟩
  · refine (hread 0x202 (by decide)).1 (.decimal 0x201 254) 5 ?_ ⟨by decide, by decide, by decide⟩
    refine ⟨[.block 0x200 [1, 2, 3]], _, rfl, ⟨5, by decide, by decide, by decide⟩, ?_⟩
    simp only [List.forall_mem_cons, not_exists]
    exact ⟨hwide _, hout _, fun w hw => (nomatch hw)⟩
  · refine (hread 0xFFF (by decide)).2 ?_
    simp only [List.forall_mem_cons]
    exact ⟨fun v h => (nomatch h.2.2), fun v h => (nomatch h.2.2), hwide _, hout _,
      fun w hw => (nomatch hw)⟩

end Memory

end Chip8
