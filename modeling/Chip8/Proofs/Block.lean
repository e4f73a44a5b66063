import Chip8.Memory
import Chip8.Registers

/-!
# Blocks of bytes

The transfers of several bytes at once, between memory and the registers, byte
by byte: what a read gives, what a write leaves, and when each is refused.

- `Memory.readBytes_inRange`, `Memory.writeBytes_inRange`: the transfers within
  memory.
- `Memory.readBytes_outOfRange`, `Memory.writeBytes_outOfRange`: the refusals.
- `Memory.readBytes_overlay`, `Memory.readByte_overlay_other`: reads after a write.
- `Memory.storeDecimal_eq`: a byte's decimals are written as a block.
- `Registers.getElem?_dump`, `Registers.get_fillFrom`: the registers as a block.
-/

namespace Chip8

namespace Byte

/-- A byte holds an integer that is its value. -/
theorem ofInt?_eq_some {n : Int} {b : UInt8} : ofInt? n = some b ↔ (b.toNat : Int) = n := by
  unfold ofInt?
  constructor
  · intro h
    split at h
    · next hrange =>
      obtain rfl := Option.some.inj h
      have hsize : n.toNat < 256 := by omega
      rw [UInt8.toNat_ofNat_of_lt' hsize, Int.toNat_of_nonneg hrange.1]
    · cases h
  · rintro rfl
    have := b.toNat_lt
    rw [if_pos (by omega), Int.toNat_natCast, UInt8.ofNat_toNat]

/-- Bytes hold integers together if each of them holds its own. -/
theorem mapM_ofInt? {ns : List Int} {bs : List UInt8} :
    ns.mapM ofInt? = some bs ↔ toInts bs = ns := by
  induction ns generalizing bs with
  | nil => cases bs <;> simp [toInts]
  | cons n rest ih =>
    rw [List.mapM_cons]
    constructor
    · intro h
      obtain ⟨b, hb, h⟩ := Option.bind_eq_some_iff.1 h
      obtain ⟨bs', hbs, h⟩ := Option.bind_eq_some_iff.1 h
      obtain rfl := Option.some.inj h
      rw [← ofInt?_eq_some.1 hb, ← ih.1 hbs]
      rfl
    · intro h
      cases bs with
      | nil => cases h
      | cons b bs' =>
        obtain ⟨hb, hbs⟩ := List.cons.inj h
        rw [ofInt?_eq_some.2 hb, ih.2 hbs]
        rfl

/-- Integers in the range of a byte are held by bytes. -/
theorem exists_toInts {ns : List Int} (h : ∀ n ∈ ns, 0 ≤ n ∧ n ≤ 255) :
    ∃ bs, toInts bs = ns := by
  induction ns with
  | nil => exact ⟨[], rfl⟩
  | cons n rest ih =>
    obtain ⟨hn, hrest⟩ := List.forall_mem_cons.1 h
    obtain ⟨bs, hbs⟩ := ih hrest
    have hbyte : ((UInt8.ofNat n.toNat).toNat : Int) = n := ofInt?_eq_some.1 (if_pos hn)
    refine ⟨UInt8.ofNat n.toNat :: bs, ?_⟩
    show ((UInt8.ofNat n.toNat).toNat : Int) :: toInts bs = n :: rest
    rw [hbyte, hbs]

theorem toInts_range {bs : List UInt8} : ∀ n ∈ toInts bs, 0 ≤ n ∧ n ≤ 255 := by
  intro n hn
  obtain ⟨b, -, rfl⟩ := List.mem_map.1 hn
  have := b.toNat_lt
  omega

/-- The values of bytes fit bytes. -/
theorem ofInts_toInts (bs : List UInt8) : ofInts (toInts bs) = .ok bs := by
  rw [ofInts, mapM_ofInt?.2 rfl]

/-- One integer that fits no byte refuses them all. -/
theorem ofInts_wide {ns : List Int} (h : ¬ ∀ n ∈ ns, 0 ≤ n ∧ n ≤ 255) :
    ofInts ns = .error .wideByte := by
  cases hbytes : ns.mapM ofInt? with
  | none => rw [ofInts, hbytes]
  | some bs => exact absurd (mapM_ofInt?.1 hbytes ▸ toInts_range) h

/-- Numbers below 256 come back from bytes. -/
theorem map_toNat_map_ofNat {ns : List Nat} (h : ∀ n ∈ ns, n < 256) :
    (ns.map UInt8.ofNat).map UInt8.toNat = ns := by
  rw [List.map_map]
  calc ns.map (UInt8.toNat ∘ UInt8.ofNat)
      = ns.map id := List.map_congr_left fun n hn => UInt8.toNat_ofNat_of_lt' (h n hn)
    _ = ns := List.map_id ns

theorem toInts_map_ofNat {ns : List Nat} (h : ∀ n ∈ ns, n < 256) :
    toInts (ns.map UInt8.ofNat) = ns.map Int.ofNat := by
  have hcast : toInts (ns.map UInt8.ofNat) =
      ((ns.map UInt8.ofNat).map UInt8.toNat).map Int.ofNat :=
    (List.map_map (f := UInt8.toNat) (g := Int.ofNat)).symm
  rw [hcast, map_toNat_map_ofNat h]

end Byte

namespace Memory

variable {m : Memory} {address length : Int}

theorem checkRange_inRange (h : InRange address length) : checkRange address length = .ok () :=
  if_pos h

theorem checkRange_outOfRange (h : ¬ InRange address length) :
    checkRange address length = .error (.fault (.memoryRange address length)) :=
  if_neg h

/-- A range within memory, in natural numbers. -/
theorem InRange.toNat_le {n : Nat} (h : InRange address n) : address.toNat + n ≤ 4096 := by
  have hlow := h.1
  have hhigh := h.2
  omega

/-! ## Reading -/

theorem readByte_inRange (h : InRange address 1) :
    m.readByte address = .ok (m.cell address.toNat) := by
  rw [readByte, checkRange_inRange h]
  rfl

theorem readBytes_inRange {n : Nat} (h : InRange address n) :
    m.readBytes address n = .ok (m.slice address.toNat (address.toNat + n)) := by
  have h0 : 0 ≤ address := h.1
  rw [readBytes, checkRange_inRange h]
  show Except.ok (m.slice _ _) = _
  rw [if_neg (by omega), Int.toNat_add h0 (by omega), Int.toNat_natCast]

theorem readBytes_outOfRange (h : ¬ InRange address length) :
    m.readBytes address length = .error (.fault (.memoryRange address length)) := by
  rw [readBytes, checkRange_outOfRange h]
  rfl

theorem length_slice (first last : Nat) :
    (m.slice first last).length = min last 4096 - first := by
  simp [slice]

/-- A slice holds the cells that it names, in order. -/
theorem getElem?_slice {first last : Nat} (k : Nat) (h : last ≤ 4096) :
    (m.slice first last)[k]? = if first + k < last then some (m.cell (first + k)) else none := by
  have hk : (m.slice first last)[k]? =
      if first + k < last then m.cells[first + k]? else none := by
    simp only [slice, Vector.getElem?_toList, Vector.getElem?_extract, Nat.min_eq_left h]
    split <;> split <;> first | rfl | omega
  rw [hk]
  split
  · rw [cell, Vector.getElem?_eq_getElem (by omega), Option.getD_some]
  · rfl

/-! ## Writing -/

theorem writeBytes_inRange (bs : List UInt8) (h : InRange address bs.length) :
    m.writeBytes address (Byte.toInts bs) = .ok (m.overlay address.toNat bs) := by
  rw [writeBytes, Byte.ofInts_toInts]
  show (checkRange address bs.length >>= fun _ => Except.ok _) = _
  rw [checkRange_inRange h]
  rfl

theorem writeBytes_outOfRange (bs : List UInt8) (h : ¬ InRange address bs.length) :
    m.writeBytes address (Byte.toInts bs) =
      .error (.fault (.memoryRange address bs.length)) := by
  rw [writeBytes, Byte.ofInts_toInts]
  show (checkRange address bs.length >>= fun _ => Except.ok _) = _
  rw [checkRange_outOfRange h]
  rfl

/-- Within memory, an overlay shows all of its bytes. -/
theorem cell_overlay_fits (m : Memory) {start : Nat} {bs : List UInt8}
    (h : start + bs.length ≤ 4096) (a : Nat) :
    (m.overlay start bs).cell a =
      if start ≤ a then bs[a - start]?.getD (m.cell a) else m.cell a := by
  rw [cell_overlay]
  by_cases hmem : a < 4096
  · simp [hmem]
  · -- behind memory there is no byte left to lay down
    have hnone : bs[a - start]? = none := List.getElem?_eq_none (by omega)
    simp [hmem, hnone]

/-- What was laid down within memory is read back. -/
theorem readBytes_overlay {bs : List UInt8} (h : InRange address bs.length) :
    (m.overlay address.toNat bs).readBytes address bs.length = .ok bs := by
  have hfits := h.toNat_le
  rw [readBytes_inRange h]
  refine congrArg Except.ok (List.ext_getElem? fun k => ?_)
  rw [getElem?_slice k hfits, cell_overlay_fits m hfits, if_pos (Nat.le_add_right ..),
    Nat.add_sub_cancel_left]
  by_cases hk : k < bs.length
  · rw [if_pos (Nat.add_lt_add_left hk _), List.getElem?_eq_getElem hk, Option.getD_some]
  · rw [if_neg (by omega), List.getElem?_eq_none (Nat.not_lt.1 hk)]

/-- Anywhere else, a read gives what it gave before. -/
theorem readByte_overlay_other {bs : List UInt8} (h : InRange address bs.length) {a : Int}
    (ha : a < address ∨ address + bs.length ≤ a) :
    (m.overlay address.toNat bs).readByte a = m.readByte a := by
  by_cases hin : InRange a 1
  · have hlow := hin.1
    have hstart := h.1
    rw [readByte_inRange hin, readByte_inRange hin, cell_overlay_fits m h.toNat_le]
    split
    · rw [List.getElem?_eq_none (by omega), Option.getD_none]
    · rfl
  · rw [readByte, readByte, checkRange_outOfRange hin]
    rfl

/-- The hundreds, tens and ones of a number. -/
def decimals (v : Nat) : List Nat :=
  [v / 100, v / 10 % 10, v % 10]

theorem decimals_lt {v : Nat} (hv : v < 256) : ∀ n ∈ decimals v, n < 256 := by
  simp only [decimals, List.forall_mem_cons]
  refine ⟨by omega, by omega, by omega, ?_⟩
  intro n hn
  cases hn

/-- Decimals laid down from `start` on, over what is there. -/
theorem getD_decimals (v start a old : Nat) :
    (if start ≤ a then (decimals v)[a - start]?.getD old else old) =
      if a = start then v / 100
      else if a = start + 1 then v / 10 % 10
      else if a = start + 2 then v % 10
      else old := by
  by_cases h : start ≤ a
  · obtain ⟨k, rfl⟩ := Nat.exists_eq_add_of_le h
    rcases k with _ | _ | _ | k <;> simp [decimals]
  · rw [if_neg h, if_neg (by omega), if_neg (by omega), if_neg (by omega)]

/-- A byte's decimals are written like any other bytes. -/
theorem storeDecimal_eq {v : Nat} (hv : v < 256) :
    m.storeDecimal address v =
      m.writeBytes address (Byte.toInts ((decimals v).map UInt8.ofNat)) := by
  have hvalues : [(v : Int).fdiv 100, ((v : Int).fdiv 10).fmod 10, (v : Int).fmod 10] =
      (decimals v).map Int.ofNat := by
    simp [decimals, Int.fdiv_eq_ediv, Int.fmod_eq_emod]
  rw [storeDecimal, hvalues, Byte.toInts_map_ofNat (decimals_lt hv)]

end Memory

namespace Registers

theorem length_dump (rs : Registers) (last : Register) : (rs.dump last).length = last.val + 1 := by
  rw [dump, List.length_take, Vector.length_toList]
  exact Nat.min_eq_left (by omega)

/-- A dump holds the registers up to its last one, in order. -/
theorem getElem?_dump (rs : Registers) (last : Register) (k : Nat) :
    (rs.dump last)[k]? = if h : k ≤ last.val then some (rs.get ⟨k, by omega⟩) else none := by
  simp only [dump, get, List.getElem?_take]
  split
  · rw [dif_pos (by omega), Vector.getElem?_toList, Vector.getElem?_eq_getElem (by omega)]
    rfl
  · rw [dif_neg (by omega)]

/-- A dump laid down from `start` on, over what is there. -/
theorem getD_dump (rs : Registers) (last : Register) (start a old : Nat) :
    (if start ≤ a then ((rs.dump last).map UInt8.toNat)[a - start]?.getD old else old) =
      if start ≤ a ∧ a ≤ start + last.val then (rs.get (.ofNat (a - start))).toNat
      else old := by
  rw [List.getElem?_map, getElem?_dump]
  by_cases h : start ≤ a
  · by_cases hlast : a ≤ start + last.val
    · have hplace : Register.ofNat (a - start) = ⟨a - start, by omega⟩ :=
        Fin.ext (Nat.mod_eq_of_lt (by omega))
      rw [if_pos h, if_pos ⟨h, hlast⟩, dif_pos (by omega), hplace]
      rfl
    · rw [if_pos h, if_neg fun both => hlast both.2, dif_neg (by omega)]
      rfl
  · rw [if_neg h, if_neg fun both => h both.1]

/-- Filling from a register on gives each register its own value of the list, as far as there are
values. -/
theorem get_fillFrom (rs : Registers) (start : Nat) (bs : List UInt8) (r : Register) :
    (rs.fillFrom start bs).get r =
      if start ≤ r.val then bs[r.val - start]?.getD (rs.get r) else rs.get r := by
  induction bs generalizing rs start with
  | nil => simp [fillFrom]
  | cons b bs ih =>
    rw [fillFrom, ih]
    -- the registers behind `start` get their values from the induction hypothesis
    have first : ({ rs with general := rs.general.setIfInBounds start b } : Registers).get r =
        if start = r.val then b else rs.get r := by
      simp [get, Vector.getElem_setIfInBounds]
    grind

@[simp] theorem index_fillFrom (rs : Registers) (start : Nat) (bs : List UInt8) :
    (rs.fillFrom start bs).index = rs.index := by
  induction bs generalizing rs start with
  | nil => rfl
  | cons b bs ih => rw [fillFrom, ih]

@[simp] theorem counter_fillFrom (rs : Registers) (start : Nat) (bs : List UInt8) :
    (rs.fillFrom start bs).counter = rs.counter := by
  induction bs generalizing rs start with
  | nil => rfl
  | cons b bs ih => rw [fillFrom, ih]

theorem load_fits {rs : Registers} {bs : List UInt8} (h : bs.length ≤ 16) :
    rs.load bs = .ok (rs.fillFrom 0 bs) :=
  if_neg (by omega)

end Registers

end Chip8
