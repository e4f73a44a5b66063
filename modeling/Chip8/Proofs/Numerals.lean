import Chip8.Numeral
import Chip8.Text.Hex
import Mathlib.Data.List.Forall2

/-!
# Numerals

The texts of an integer, and that each of them is read as that integer.

- `Numeral.Writes`: in decimal digits, with white space around them, or in hexadecimal digits behind
  `0x`, with zeros in front and in any letter case.
- `Numeral.Digits`: characters that are digits of a base, with their values.
- `Numeral.digits_toDigits`: the digits that a number is written with stand for it.
- `Numeral.read_of_writes`: reading undoes writing.
-/

namespace Chip8

/-- White space: the characters that Unicode counts as such. -/
def Blank.IsSpace (c : Char) : Prop :=
  isBlank c = true ∨ isWideBlank c = true

instance (c : Char) : Decidable (Blank.IsSpace c) :=
  inferInstanceAs (Decidable (_ ∨ _))

namespace Numeral

/-- A text is one of those of the integer `n`. -/
inductive Writes : Int → String → Prop where
  /-- Its decimal digits and sign, with white space around them. -/
  | decimal (n : Int) {before after : List Char} (hbefore : ∀ c ∈ before, Blank.IsSpace c)
      (hafter : ∀ c ∈ after, Blank.IsSpace c) :
      Writes n (String.ofList (before ++ (toString n).toList ++ after))
  /-- Its hexadecimal digits behind `0x`, each in upper or lower case, with zeros in front. -/
  | hexadecimal (n zeros : Nat) {mark : Char} {ds : List Char} (hmark : mark = 'x' ∨ mark = 'X')
      (hds : ds.map Char.toLower = Hex.digits n) :
      Writes n (String.ofList ('0' :: mark :: (List.replicate zeros '0' ++ ds)))

/-- An integer has no more decimal digits than a numeral may have. -/
def IsShort (n : Int) : Prop :=
  (Nat.toDigits 10 n.natAbs).length ≤ maxDigits

instance (n : Int) : Decidable (IsShort n) :=
  inferInstanceAs (Decidable (_ ≤ _))

variable {base d n : Nat} {c : Char} {cs ds rest : List Char} {vs : List Nat}

/-! ## One digit -/

/-- A digit is an ASCII letter or digit. -/
theorem toNat_of_digit? (h : digit? base c = some d) :
    48 ≤ c.toNat ∧ c.toNat ≤ 57 ∨ 65 ≤ c.toNat ∧ c.toNat ≤ 122 ∧ c.toNat ≠ 95 := by
  obtain ⟨hvalue, -⟩ := Option.filter_eq_some_iff.1 h
  simp only [Digit.value?, Char.le_def, UInt32.le_iff_toNat_le] at hvalue
  have hnumber : c.val.toNat = c.toNat := rfl
  split_ifs at hvalue with hdigit hlower hupper
  · simp at hdigit
    omega
  · simp at hlower
    omega
  · simp at hupper
    omega

/-- The letter case of a digit does not matter. -/
theorem digit?_toLower : digit? base c.toLower = digit? base c := by
  refine congrArg (Option.filter _) ?_
  by_cases hupper : 65 ≤ c.toNat ∧ c.toNat ≤ 90
  · have hletters : ∀ n < 91, 65 ≤ n →
        Digit.value? (Char.ofNat n).toLower = Digit.value? (Char.ofNat n) := by decide
    have hletter := hletters c.toNat (by omega) hupper.1
    rwa [Char.ofNat_toNat] at hletter
  · have hsame : c.toLower = c := dif_neg hupper
    rw [hsame]

theorem digit?_digitChar (hbase : base = 10 ∨ base = 16) (h : d < base) :
    digit? base (Nat.digitChar d) = some d := by
  have hten : ∀ d < 10, digit? 10 (Nat.digitChar d) = some d := by decide
  have hsixteen : ∀ d < 16, digit? 16 (Nat.digitChar d) = some d := by decide
  rcases hbase with rfl | rfl
  · exact hten d h
  · exact hsixteen d h

theorem isBlank_of_digit? (h : digit? base c = some d) : Blank.isBlank c = false := by
  have hnumber := toNat_of_digit? h
  have hspace : c ≠ ' ' := by
    rintro rfl
    exact absurd hnumber (by decide)
  have hrange : ¬ (9 ≤ c.toNat ∧ c.toNat ≤ 13) := by omega
  simpa [Blank.isBlank, hspace] using hrange

theorem ne_of_digit? {other : Char} (h : digit? base c = some d)
    (hother : digit? base other = none) : c ≠ other := by
  rintro rfl
  rw [hother] at h
  cases h

/-! ## Several digits -/

/-- Digits of a base, with their values. -/
def Digits (base : Nat) : List Char → List Nat → Prop :=
  List.Forall₂ fun c d => digit? base c = some d

theorem value_append_singleton (vs : List Nat) (d : Nat) :
    value base (vs ++ [d]) = value base vs * base + d := by
  rw [value, List.foldl_append]
  rfl

/-- The digits that a number is written with stand for it. -/
theorem digits_toDigits (hbase : base = 10 ∨ base = 16) (n : Nat) :
    ∃ vs, Digits base (Nat.toDigits base n) vs ∧ value base vs = n := by
  have hone : 1 < base := by omega
  -- on the number, which loses its last digit
  induction n using Nat.strongRecOn with
  | ind n ih =>
    by_cases hn : n < base
    · rw [Nat.toDigits_of_lt_base hn]
      refine ⟨[n], .cons (digit?_digitChar hbase hn) .nil, ?_⟩
      exact (value_append_singleton [] n).trans (by simp [value])
    · have hlast : n % base < base := Nat.mod_lt n (by omega)
      obtain ⟨vs, hvs, hvalue⟩ := ih (n / base) (Nat.div_lt_self (by omega) hone)
      rw [Nat.toDigits_of_base_le hone (Nat.le_of_not_lt hn)]
      refine ⟨vs ++ [n % base], List.rel_append hvs (.cons (digit?_digitChar hbase hlast) .nil), ?_⟩
      rw [value_append_singleton, hvalue, Nat.div_add_mod']

theorem digits_zeros (k : Nat) : Digits 16 (List.replicate k '0') (List.replicate k 0) := by
  induction k with
  | zero => exact .nil
  | succ k ih => exact .cons rfl ih

theorem value_zeros (k : Nat) (vs : List Nat) :
    value base (List.replicate k 0 ++ vs) = value base vs := by
  induction k with
  | zero => rfl
  | succ k ih =>
    rw [List.replicate_succ, List.cons_append]
    show (List.replicate k 0 ++ vs).foldl _ (0 * base + 0) = _
    rw [Nat.zero_mul]
    exact ih

theorem digits_of_toLower (h : Digits base (ds.map Char.toLower) vs) : Digits base ds vs := by
  rw [Digits, List.forall₂_map_left_iff] at h
  simp only [digit?_toLower] at h
  exact h

/-- What holds of every digit holds of all characters. -/
theorem Digits.forall_mem {P : Char → Prop} (h : Digits base cs vs)
    (hdigit : ∀ c d, digit? base c = some d → P c) : ∀ c ∈ cs, P c := by
  induction h with
  | nil => exact fun c hc => nomatch hc
  | cons hc _ ih => exact List.forall_mem_cons.2 ⟨hdigit _ _ hc, ih⟩

theorem Digits.ascii (h : Digits base cs vs) : ∀ c ∈ cs, c.toNat < 0x80 :=
  h.forall_mem fun c d hc => by
    have := toNat_of_digit? hc
    omega

/-! ## Reading digits -/

/-- Blanks are no digits. -/
theorem digitRun_blanks {after : List Char} (h : ∀ c ∈ after, Blank.isBlank c = true) :
    digitRun base false after = some ([], after) := by
  cases after with
  | nil => rfl
  | cons c after =>
    have hblank := h c List.mem_cons_self
    have hbar : c ≠ '_' := by
      rintro rfl
      exact absurd hblank (by decide)
    have hdigit : digit? base c = none := by
      cases hdigit : digit? base c with
      | none => rfl
      | some d =>
        rw [isBlank_of_digit? hdigit] at hblank
        cases hblank
    rw [digitRun, if_neg hbar, hdigit]
    rfl

/-- A digit is read, also where one has to come. -/
theorem digitRun_cons (hc : digit? base c = some d) (afterBar : Bool) (rest : List Char) :
    digitRun base afterBar (c :: rest) =
      (digitRun base false rest).map fun (ds, rest) => (d :: ds, rest) := by
  rw [digitRun, if_neg (ne_of_digit? hc rfl), hc]

/-- Digits are read up to the blanks behind them. -/
theorem digitRun_digits {after : List Char} (h : Digits base ds vs)
    (hafter : ∀ c ∈ after, Blank.isBlank c = true) :
    digitRun base false (ds ++ after) = some (vs, after) := by
  induction h with
  | nil => exact digitRun_blanks hafter
  | cons hc _ ih =>
    rw [List.cons_append, digitRun_cons hc, ih]
    rfl

/-- Also where a digit has to come, as there is one. -/
theorem digitRun_first {after : List Char} (h : Digits base ds vs) (hds : ds ≠ [])
    (hafter : ∀ c ∈ after, Blank.isBlank c = true) :
    digitRun base true (ds ++ after) = some (vs, after) := by
  cases h with
  | nil => exact absurd rfl hds
  | cons hc hrest =>
    rw [List.cons_append, digitRun_cons hc, digitRun_digits hrest hafter]
    rfl

/-! ## Texts in ASCII -/

theorem toAscii_append (h : ∀ c ∈ cs, c.toNat < 0x80) (rest : List Char) :
    toAscii (cs ++ rest) = cs ++ toAscii rest := by
  induction cs with
  | nil => rfl
  | cons c cs ih =>
    obtain ⟨hc, hcs⟩ := List.forall_mem_cons.1 h
    rw [List.cons_append, toAscii, if_pos hc, ih hcs, List.cons_append]

theorem toNat_of_isBlank (h : Blank.isBlank c = true) : c.toNat < 0x80 := by
  simp only [Blank.isBlank, Bool.or_eq_true, Bool.and_eq_true, decide_eq_true_eq] at h
  rcases h with rfl | ⟨-, hhigh⟩
  · decide
  · omega

theorem toNat_of_isWideBlank (h : Blank.isWideBlank c = true) : 0x80 ≤ c.toNat := by
  simp only [Blank.isWideBlank, Bool.or_eq_true, Bool.and_eq_true, decide_eq_true_eq] at h
  omega

theorem ne_of_isSpace {other : Char} (h : Blank.IsSpace c) (hother : ¬ Blank.IsSpace other) :
    c ≠ other := by
  rintro rfl
  exact hother h

/-- White space becomes blanks. -/
theorem toAscii_spaces (h : ∀ c ∈ cs, Blank.IsSpace c) :
    ∃ blanks, (∀ c ∈ blanks, Blank.isBlank c = true) ∧
      ∀ rest, toAscii (cs ++ rest) = blanks ++ toAscii rest := by
  induction cs with
  | nil => exact ⟨[], fun c hc => (nomatch hc), fun _ => rfl⟩
  | cons c cs ih =>
    obtain ⟨hc, hcs⟩ := List.forall_mem_cons.1 h
    obtain ⟨blanks, hblanks, hascii⟩ := ih hcs
    rcases hc with hblank | hwide
    · have hlow := toNat_of_isBlank hblank
      refine ⟨c :: blanks, List.forall_mem_cons.2 ⟨hblank, hblanks⟩, fun rest => ?_⟩
      rw [List.cons_append, toAscii, if_pos hlow, hascii, List.cons_append]
    · have hhigh := toNat_of_isWideBlank hwide
      refine ⟨' ' :: blanks, List.forall_mem_cons.2 ⟨by decide, hblanks⟩, fun rest => ?_⟩
      rw [List.cons_append, toAscii, if_neg (Nat.not_lt.2 hhigh), if_pos hwide, hascii,
        List.cons_append]

/-! ## Whole texts -/

/-- A text is read if, behind blanks and a sign, it has digits and then nothing but blanks. In base
ten they must not be too many. -/
theorem readBase_eq {text : String} {blanks after : List Char} {negative : Bool}
    (hascii : toAscii text.toList = blanks ++ cs)
    (hblanks : ∀ c ∈ blanks, Blank.isBlank c = true) (hcs : cs.dropWhile Blank.isBlank = cs)
    (hsign : splitSign cs = (negative, rest))
    (hrun : digitRun base true (if base = 16 then dropMark rest else rest) = some (vs, after))
    (hafter : ∀ c ∈ after, Blank.isBlank c = true) (hsize : base = 10 → vs.length ≤ maxDigits) :
    readBase base text = .ok (if negative then -(value base vs : Int) else value base vs) := by
  have hlong : ¬ (base = 10 ∧ maxDigits < vs.length) := fun h => absurd (hsize h.1) (by omega)
  simp only [readBase, hascii, List.dropWhile_append_of_pos hblanks, hcs, hsign, hrun]
  rw [if_neg hlong, if_pos (List.all_eq_true.2 hafter)]

theorem isMarked_eq_false (h : ∀ c ∈ cs, c ≠ 'x' ∧ c ≠ 'X') : isMarked cs = false := by
  unfold isMarked
  split
  · next mark _ =>
    obtain ⟨hlower, hupper⟩ := h mark (by simp)
    simp [hlower, hupper]
  · rfl

/-- An integer is written as its sign and the digits of its magnitude. -/
theorem toList_toString (n : Int) :
    (toString n).toList = Hex.sign n ++ Nat.toDigits 10 n.natAbs := by
  cases n with
  | ofNat m =>
    have hsign : Hex.sign (m : Int) = [] := if_neg (by omega)
    show m.repr.toList = Hex.sign (m : Int) ++ _
    rw [hsign]
    exact Nat.toList_repr
  | negSucc m =>
    have hsign : Hex.sign (Int.negSucc m) = ['-'] := if_pos (by omega)
    rw [hsign]
    show ("-" ++ (m + 1).repr).toList = _
    rw [String.toList_append, Nat.toList_repr]
    rfl

theorem eq_of_mem_sign {n : Int} (h : c ∈ Hex.sign n) : c = '-' := by
  unfold Hex.sign at h
  split_ifs at h
  · exact List.mem_singleton.1 h
  · cases h

theorem splitSign_of_ne (hminus : c ≠ '-') (hplus : c ≠ '+') (rest : List Char) :
    splitSign (c :: rest) = (false, c :: rest) := by
  unfold splitSign
  split
  · next hcons => exact absurd (List.cons.inj hcons).1 hminus
  · next hcons => exact absurd (List.cons.inj hcons).1 hplus
  · rfl

/-- A sign is taken off the digits behind it, and no blank stands before them. -/
theorem sign_digits (n : Int) (h : Digits 10 ds vs) (hds : ds ≠ []) (rest : List Char) :
    (Hex.sign n ++ (ds ++ rest)).dropWhile Blank.isBlank = Hex.sign n ++ (ds ++ rest) ∧
      splitSign (Hex.sign n ++ (ds ++ rest)) = (decide (n < 0), ds ++ rest) := by
  by_cases hneg : n < 0
  · have hsign : Hex.sign n = ['-'] := if_pos hneg
    rw [hsign, decide_eq_true hneg]
    exact ⟨rfl, rfl⟩
  · have hsign : Hex.sign n = [] := if_neg hneg
    rw [hsign, decide_eq_false hneg]
    cases h with
    | nil => exact absurd rfl hds
    | cons hc _ =>
      refine ⟨List.dropWhile_cons_of_neg (by simp [isBlank_of_digit? hc]), ?_⟩
      exact splitSign_of_ne (ne_of_digit? hc rfl) (ne_of_digit? hc rfl) _

theorem read_decimal (n : Int) {before after : List Char} (hbefore : ∀ c ∈ before, Blank.IsSpace c)
    (hafter : ∀ c ∈ after, Blank.IsSpace c) (hshort : IsShort n) :
    read (String.ofList (before ++ (toString n).toList ++ after)) = .ok n := by
  obtain ⟨vs, hvs, hvalue⟩ := digits_toDigits (.inl rfl) n.natAbs
  obtain ⟨blanks, hblanks, hfront⟩ := toAscii_spaces hbefore
  obtain ⟨blanks', hblanks', hback⟩ := toAscii_spaces hafter
  have hds : Nat.toDigits 10 n.natAbs ≠ [] := Nat.toDigits_ne_nil
  have hdigits : ∀ c ∈ Nat.toDigits 10 n.natAbs, c ≠ 'x' ∧ c ≠ 'X' :=
    hvs.forall_mem fun c d hc => ⟨ne_of_digit? hc rfl, ne_of_digit? hc rfl⟩
  have hunmarked : isMarked (before ++ (toString n).toList ++ after) = false := by
    refine isMarked_eq_false fun c hc => ?_
    rw [toList_toString, List.mem_append, List.mem_append, List.mem_append] at hc
    rcases hc with (hc | hc | hc) | hc
    · exact ⟨ne_of_isSpace (hbefore c hc) (by decide), ne_of_isSpace (hbefore c hc) (by decide)⟩
    · rw [eq_of_mem_sign hc]
      decide
    · exact hdigits c hc
    · exact ⟨ne_of_isSpace (hafter c hc) (by decide), ne_of_isSpace (hafter c hc) (by decide)⟩
  have hascii : toAscii (String.ofList (before ++ (toString n).toList ++ after)).toList =
      blanks ++ (Hex.sign n ++ (Nat.toDigits 10 n.natAbs ++ blanks')) := by
    have hlast : toAscii after = blanks' := by simpa [toAscii] using hback []
    have hsign : ∀ c ∈ Hex.sign n, c.toNat < 0x80 := by
      intro c hc
      rw [eq_of_mem_sign hc]
      decide
    rw [String.toList_ofList, List.append_assoc, hfront, toList_toString, List.append_assoc,
      toAscii_append hsign, toAscii_append hvs.ascii, hlast]
  obtain ⟨hdrop, hsplit⟩ := sign_digits n hvs hds blanks'
  have hread := readBase_eq hascii hblanks hdrop hsplit (digitRun_first hvs hds hblanks') hblanks'
    fun _ => hvs.length_eq ▸ hshort
  rw [read, String.toList_ofList, hunmarked, if_neg Bool.false_ne_true, hread, hvalue]
  congr 1
  simp only [decide_eq_true_eq]
  split_ifs <;> omega

/-- The mark of base sixteen is taken off, as no underscore comes behind it. -/
theorem dropMark_digits {mark : Char} (hmark : mark = 'x' ∨ mark = 'X') (h : Digits 16 cs vs) :
    dropMark ('0' :: mark :: cs) = cs := by
  simp only [dropMark, if_pos hmark]
  split
  · cases h with
    | cons hc _ => exact absurd rfl (ne_of_digit? hc rfl)
  · rfl

/-- Hexadecimal digits behind `0x` are read as what they stand for. -/
theorem read_marked {mark : Char} (hmark : mark = 'x' ∨ mark = 'X') (h : Digits 16 cs vs)
    (hcs : cs ≠ []) : read (String.ofList ('0' :: mark :: cs)) = .ok (value 16 vs) := by
  have hnone : ∀ c ∈ ([] : List Char), Blank.isBlank c = true := by simp
  have hmarked : isMarked ('0' :: mark :: cs) = true := by
    rcases hmark with rfl | rfl <;> rfl
  have hchars : ∀ c ∈ '0' :: mark :: cs, c.toNat < 0x80 := by
    refine List.forall_mem_cons.2 ⟨by decide, List.forall_mem_cons.2 ⟨?_, h.ascii⟩⟩
    rcases hmark with rfl | rfl <;> decide
  have hascii : toAscii (String.ofList ('0' :: mark :: cs)).toList = [] ++ '0' :: mark :: cs := by
    rw [String.toList_ofList]
    simpa [toAscii] using toAscii_append hchars []
  have hrun : digitRun 16 true
      (if 16 = 16 then dropMark ('0' :: mark :: cs) else '0' :: mark :: cs) = some (vs, []) := by
    rw [if_pos rfl, dropMark_digits hmark h]
    simpa using digitRun_first h hcs hnone
  rw [read, String.toList_ofList, hmarked, if_pos rfl]
  exact readBase_eq hascii hnone rfl rfl hrun hnone fun hten => absurd hten (by decide)

theorem read_hexadecimal (n zeros : Nat) {mark : Char} (hmark : mark = 'x' ∨ mark = 'X')
    (hds : ds.map Char.toLower = Hex.digits n) :
    read (String.ofList ('0' :: mark :: (List.replicate zeros '0' ++ ds))) = .ok n := by
  obtain ⟨vs, hvs, hvalue⟩ := digits_toDigits (.inr rfl) n
  have hall : Digits 16 (List.replicate zeros '0' ++ ds) (List.replicate zeros 0 ++ vs) :=
    List.rel_append (digits_zeros zeros) (digits_of_toLower (hds ▸ hvs))
  have hne : List.replicate zeros '0' ++ ds ≠ [] := by
    intro hnil
    rw [(List.append_eq_nil_iff.1 hnil).2] at hds
    exact Nat.toDigits_ne_nil hds.symm
  rw [read_marked hmark hall hne, value_zeros, hvalue]

/-- **Reading undoes writing**, as long as a decimal numeral is not too long. -/
theorem read_of_writes {n : Int} {text : String} (h : Writes n text)
    (hshort : IsShort n) : read text = .ok n := by
  cases h with
  | decimal _ hbefore hafter => exact read_decimal n hbefore hafter hshort
  | hexadecimal n zeros hmark hds => exact read_hexadecimal n zeros hmark hds

end Numeral

end Chip8
