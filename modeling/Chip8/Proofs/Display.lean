import Chip8.Proofs.Sprite
import Chip8.Text.Hex
import Mathlib.Data.Nat.Log

/-!
# What is on display

The two ways in which a machine is shown: its screen as a sequence of color
channels, and its numbers as hexadecimal digits. Both can be read back.

- `Screen.length_colored`, `Screen.channels_colored`: a screen in two colors of
  four channels, pixel by pixel.
- `Screen.colored_injective`: the colors of a screen tell its pixels.
- `Hex.Writes`: a text is a number in hexadecimal digits, and
  `Hex.writes_upper`: the texts that are written are.
-/

namespace Chip8

/-! ## Pictures -/

namespace Screen

variable {on off : List UInt8}

/-- Every pixel has four channels. -/
theorem length_channels (hon : on.length = 4) (hoff : off.length = 4) (lit : Bool) :
    (if lit then on else off).length = 4 := by
  cases lit with
  | true => exact hon
  | false => exact hoff

/-- Blocks of one length, one after the other: the block at a place starts behind as many blocks. -/
theorem take_drop_flatMap {α β : Type} {f : α → List β} {size : Nat} (hf : ∀ a, (f a).length = size)
    {as : List α} {i : Nat} (hi : i < as.length) :
    ((as.flatMap f).drop (size * i)).take size = f as[i] := by
  induction as generalizing i with
  | nil => cases hi
  | cons a rest ih =>
    rw [List.flatMap_cons]
    cases i with
    | zero => rw [Nat.mul_zero, List.drop_zero, List.take_left' (hf a), List.getElem_cons_zero]
    | succ i =>
      have hshift : size * (i + 1) = (f a).length + size * i := by
        rw [hf, Nat.mul_succ, Nat.add_comm]
      rw [hshift, List.drop_length_add_append, ih (Nat.lt_of_succ_lt_succ hi),
        List.getElem_cons_succ]

/-- A picture has four channels for each of the 64 by 32 pixels. -/
theorem length_colored (hon : on.length = 4) (hoff : off.length = 4) (s : Screen) :
    (s.colored on off).length = 8192 := by
  simp only [colored, List.length_flatMap, length_channels hon hoff, List.map_const',
    List.sum_replicate_nat, Vector.length_toList]

/-- The channels of a pixel are where the rows from the top and the columns from the left put
them. -/
theorem channels_colored (hon : on.length = 4) (hoff : off.length = 4) (s : Screen) (c : Fin 64)
    (r : Fin 32) :
    ((s.colored on off).drop (4 * (64 * r.val + c.val))).take 4 =
      if s.lit c r then on else off := by
  have hplace : 64 * r.val + c.val < s.pixels.toList.length := by
    rw [Vector.length_toList]
    omega
  have hlit : s.pixels.toList[64 * r.val + c.val] = s.lit c r := by
    simp only [lit, Vector.getElem_toList, Nat.mul_comm r.val]
  rw [colored, take_drop_flatMap (length_channels hon hoff) hplace, hlit]

/-- In two different colors, screens that look the same are the same. -/
theorem colored_injective (hon : on.length = 4) (hoff : off.length = 4) (hne : on ≠ off)
    {s t : Screen} (h : s.colored on off = t.colored on off) : s = t := by
  refine ext_lit fun c r => ?_
  have hchannels : (if s.lit c r then on else off) = if t.lit c r then on else off := by
    rw [← channels_colored hon hoff s c r, ← channels_colored hon hoff t c r, h]
  cases hs : s.lit c r <;> cases ht : t.lit c r
  · rfl
  · rw [hs, ht] at hchannels
    exact absurd hchannels.symm hne
  · rw [hs, ht] at hchannels
    exact absurd hchannels hne
  · rfl

end Screen

/-! ## Hexadecimal numbers -/

namespace Hex

/-- The upper-case digits by their values. -/
def upperDigits : List Char :=
  "0123456789ABCDEF".toList

/-- The number that digits stand for, the most significant first. -/
def value (cs : List Char) : Nat :=
  cs.foldl (fun v c => 16 * v + upperDigits.idxOf c) 0

/-- `text` is the number `n` in upper-case hexadecimal digits, with zeros in front of it if it has
fewer than `width`. -/
structure Writes (width : Nat) (n : Int) (text : String) : Prop where
  digits : ∀ c ∈ text.toList, c ∈ upperDigits
  value : (Hex.value text.toList : Int) = n
  length : text.toList.length = max width (Nat.log 16 n.toNat + 1)

theorem value_append_singleton (cs : List Char) (c : Char) :
    value (cs ++ [c]) = 16 * value cs + upperDigits.idxOf c := by
  rw [value, List.foldl_append]
  rfl

/-- Zeros in front do not count. -/
theorem value_replicate_append (k : Nat) (cs : List Char) :
    value (List.replicate k '0' ++ cs) = value cs := by
  induction k with
  | zero => rfl
  | succ k ih => exact ih

/-- One digit in upper case. -/
theorem upper_digitChar : ∀ d < 16,
    Char.toUpper (Nat.digitChar d) ∈ upperDigits ∧
      upperDigits.idxOf (Char.toUpper (Nat.digitChar d)) = d := by
  decide

/-- The digits of a number, in upper case. -/
theorem upper_digits (n : Nat) :
    (∀ c ∈ (digits n).map Char.toUpper, c ∈ upperDigits) ∧
      value ((digits n).map Char.toUpper) = n ∧ (digits n).length = Nat.log 16 n + 1 := by
  induction n using Nat.strongRecOn with
  | ind n ih =>
    by_cases hn : n < 16
    · obtain ⟨hmem, hindex⟩ := upper_digitChar n hn
      rw [digits, Nat.toDigits_of_lt_base hn]
      refine ⟨fun c hc => ?_, ?_, ?_⟩
      · rw [List.mem_singleton.1 hc]
        exact hmem
      · rw [List.map_singleton, ← List.nil_append [_], value_append_singleton, hindex]
        exact Nat.zero_add n
      · rw [Nat.log_of_lt hn]
        rfl
    · obtain ⟨hmem, hindex⟩ := upper_digitChar (n % 16) (Nat.mod_lt n (by decide))
      obtain ⟨hdigits, hvalue, hlength⟩ := ih (n / 16) (by omega)
      have hlast : digits n = digits (n / 16) ++ [(n % 16).digitChar] :=
        Nat.toDigits_of_base_le (by decide) (Nat.le_of_not_lt hn)
      rw [hlast, List.map_append, List.map_singleton]
      refine ⟨fun c hc => ?_, ?_, ?_⟩
      · rcases List.mem_append.1 hc with hbefore | hc
        · exact hdigits c hbefore
        · rw [List.mem_singleton.1 hc]
          exact hmem
      · rw [value_append_singleton, hvalue, hindex]
        omega
      · rw [List.length_append, hlength, List.length_singleton,
          Nat.log_of_one_lt_of_le (by decide) (Nat.le_of_not_lt hn)]

/-- A number that is not negative is written in upper-case digits. -/
theorem writes_upper (width : Nat) {n : Int} (h : 0 ≤ n) : Writes width n (upper width n) := by
  obtain ⟨hdigits, hvalue, hlength⟩ := upper_digits n.toNat
  have habs : n.natAbs = n.toNat := by omega
  have htext : (upper width n).toList =
      List.replicate (width - (digits n.toNat).length) '0' ++
        (digits n.toNat).map Char.toUpper := by
    simp only [upper, sign, if_neg (Int.not_lt.2 h), fill, habs, List.nil_append, List.length_nil,
      Nat.sub_zero, List.length_map, String.toList_ofList]
  refine ⟨fun c hc => ?_, ?_, ?_⟩
  · rw [htext] at hc
    rcases List.mem_append.1 hc with hzero | hc
    · rw [List.eq_of_mem_replicate hzero]
      decide
    · exact hdigits c hc
  · rw [htext, value_replicate_append, hvalue, Int.toNat_of_nonneg h]
  · rw [htext, List.length_append, List.length_replicate, List.length_map, hlength]
    omega

end Hex

end Chip8
