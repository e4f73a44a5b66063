import Chip8.Text.UpperCase

/-!
# Capitals

What stands for a character in upper case is left alone by another upper-casing.

- `UpperCase.IsCapital`: a character that no entry of the tables begins with.
- `UpperCase.ofChar_capitals`: the upper case of a character consists of capitals.
- `UpperCase.ofString_ofString`: upper-casing a text twice is the same as once.

That the tables lead out of themselves is seen on the ends of the runs: the capitals of a run lie
on one side of another run, or at every second place, between its characters.
-/

namespace Chip8

namespace UpperCase

/-- The character of this number lies in no run and has no expansion. -/
def IsCapital (n : Nat) : Prop :=
  (∀ r ∈ runs, r.covers n = false) ∧ ∀ e ∈ expansions, e.1 ≠ n

/-- A capital is its own upper case. -/
theorem ofChar_of_isCapital {c : Char} (h : IsCapital c.toNat) : ofChar c = [c] := by
  obtain ⟨hruns, hexpansions⟩ := h
  unfold ofChar
  split
  · -- the lower-case letters of ASCII are the first run
    have hfirst := hruns ⟨0x0061, 0x007A, 1, -32⟩ List.mem_cons_self
    have hletter : ¬ ('a'.val ≤ c.val ∧ c.val ≤ 'z'.val) := by
      rintro ⟨hlow, hhigh⟩
      have hlow : 97 ≤ c.toNat := UInt32.le_iff_toNat_le.1 hlow
      have hhigh : c.toNat ≤ 122 := UInt32.le_iff_toNat_le.1 hhigh
      simp [Run.covers, Nat.mod_one] at hfirst
      omega
    have hsame : c.toUpper = c := dif_neg hletter
    rw [hsame]
  · have hnone : expansions.find? (·.1 = c.toNat) = none :=
      List.find?_eq_none.2 fun e he => by simpa using hexpansions e he
    have hout : runs.find? (·.covers c.toNat) = none :=
      List.find?_eq_none.2 fun r hr => by simp [hruns r hr]
    rw [hnone, hout]

/-- The same, where the number is given. -/
theorem ofChar_ofNat {n : Nat} (hvalid : n.isValidChar) (h : IsCapital n) :
    ofChar (Char.ofNat n) = [Char.ofNat n] := by
  refine ofChar_of_isCapital ?_
  have hnumber : (Char.ofNat n).toNat = n := by
    rw [Char.ofNat, dif_pos hvalid]
    rfl
  rwa [hnumber]

/-! ## The tables -/

namespace Run

variable {r s : Run} {n : Nat}

/-- The capital of the first character. -/
def low (r : Run) : Nat := (r.first + r.distance).toNat

/-- The capital of the last character. -/
def high (r : Run) : Nat := (r.last + r.distance).toNat

/-- None of the capitals of `r` lies in `s`. -/
def misses (r s : Run) : Bool :=
  Nat.blt s.last r.low || Nat.blt r.high s.first ||
    s.step == 2 && (r.step == 2 || r.first == r.last) && (r.low + s.first) % 2 == 1

/-- The capitals of the run are characters, and none of them begins an entry of the tables. -/
def leadsOut (r : Run) : Bool :=
  (0 ≤ r.first + r.distance && (r.high < 0xD800 || 0xDFFF < r.low && r.high < 0x110000)) &&
    runs.all r.misses && expansions.all fun e => Nat.blt e.1 r.low || Nat.blt r.high e.1

/-- The capitals of a run go along with its characters. -/
theorem capital_eq (hlow : 0 ≤ r.first + r.distance) (hn : r.covers n = true) :
    r.low ≤ (n + r.distance).toNat ∧ (n + r.distance).toNat ≤ r.high ∧
      (n + r.distance).toNat = r.low + (n - r.first) := by
  simp only [covers, Bool.and_eq_true, decide_eq_true_iff] at hn
  simp only [low, high]
  omega

theorem covers_capital (hlow : 0 ≤ r.first + r.distance) (hn : r.covers n = true)
    (h : r.misses s = true) : s.covers (n + r.distance).toNat = false := by
  obtain ⟨hle, hge, hplace⟩ := capital_eq hlow hn
  generalize (n + r.distance).toNat = m at hle hge hplace ⊢
  simp only [misses, Bool.or_eq_true, Nat.blt_eq, Bool.and_eq_true, beq_iff_eq] at h
  simp only [covers, Bool.and_eq_true, decide_eq_true_iff] at hn
  refine Bool.eq_false_iff.2 fun hm => ?_
  simp only [covers, Bool.and_eq_true, decide_eq_true_iff] at hm
  obtain ⟨⟨hfirst, hlast⟩, hstep⟩ := hn
  obtain ⟨⟨hfirst', hlast'⟩, hstep'⟩ := hm
  rcases h with (h | h) | ⟨⟨htwo, hother⟩, hodd⟩
  · omega
  · omega
  · -- the capital is an odd number of places away from the run's characters
    rw [htwo] at hstep'
    rcases hother with hother | hother
    · rw [hother] at hstep
      omega
    · omega

/-- The capitals of a run that leads out of the tables. -/
theorem isCapital_of_leadsOut (h : r.leadsOut = true) (hn : r.covers n = true) :
    (n + r.distance).toNat.isValidChar ∧ IsCapital (n + r.distance).toNat := by
  simp only [leadsOut, Bool.and_eq_true, Bool.or_eq_true, decide_eq_true_iff, List.all_eq_true,
    Nat.blt_eq] at h
  obtain ⟨⟨⟨hlow, hvalid⟩, hruns⟩, hexpansions⟩ := h
  obtain ⟨hle, hge, -⟩ := capital_eq hlow hn
  refine ⟨?_, fun s hs => covers_capital hlow hn (hruns s hs), fun e he => ?_⟩
  · unfold Nat.isValidChar
    omega
  · have := hexpansions e he
    omega

end Run

theorem runs_leadOut : ∀ r ∈ runs, r.leadsOut = true := by decide +kernel

theorem expansions_leadOut :
    ∀ e ∈ expansions, ∀ n ∈ e.2, ofChar (Char.ofNat n) = [Char.ofNat n] := by decide +kernel

theorem ascii_leadOut : ∀ n < 0x80, (Char.ofNat n).toUpper.toNat < 0x80 ∧
    (Char.ofNat n).toUpper.toUpper = (Char.ofNat n).toUpper := by decide +kernel

/-! ## Texts -/

/-- The upper case of a character consists of characters that are their own upper case. -/
theorem ofChar_capitals (c : Char) : ∀ d ∈ ofChar c, ofChar d = [d] := by
  intro d hd
  unfold ofChar at hd
  split at hd
  case isTrue hascii =>
    obtain rfl := List.mem_singleton.1 hd
    obtain ⟨hout, htwice⟩ := ascii_leadOut c.toNat hascii
    rw [Char.ofNat_toNat] at hout htwice
    rw [ofChar, if_pos hout, htwice]
  case isFalse =>
    split at hd
    case h_1 key capitals hfind =>
      obtain ⟨n, hn, rfl⟩ := List.mem_map.1 hd
      exact expansions_leadOut _ (List.mem_of_find?_eq_some hfind) n hn
    case h_2 hunexpanded =>
      split at hd
      case h_1 r hfind =>
        obtain rfl := List.mem_singleton.1 hd
        have hcovers := List.find?_some hfind
        have hout := runs_leadOut r (List.mem_of_find?_eq_some hfind)
        obtain ⟨hvalid, hcapital⟩ := Run.isCapital_of_leadsOut hout hcovers
        exact ofChar_ofNat hvalid hcapital
      case h_2 huncovered =>
        obtain rfl := List.mem_singleton.1 hd
        refine ofChar_of_isCapital ⟨fun r hr => ?_, fun e he => ?_⟩
        · exact Bool.eq_false_iff.2 (List.find?_eq_none.1 huncovered r hr)
        · simpa using List.find?_eq_none.1 hunexpanded e he

/-- Texts of such characters are their own upper case. -/
theorem flatMap_ofChar {cs : List Char} (h : ∀ c ∈ cs, ofChar c = [c]) : cs.flatMap ofChar = cs := by
  induction cs with
  | nil => rfl
  | cons c rest ih =>
    obtain ⟨hfirst, hrest⟩ := List.forall_mem_cons.1 h
    rw [List.flatMap_cons, hfirst, ih hrest]
    rfl

/-- **Upper-casing twice is the same as once.** -/
theorem ofString_ofString (s : String) : ofString (ofString s) = ofString s := by
  have hcapitals : ∀ d ∈ s.toList.flatMap ofChar, ofChar d = [d] := by
    intro d hd
    obtain ⟨c, -, hdc⟩ := List.mem_flatMap.1 hd
    exact ofChar_capitals c d hdc
  rw [ofString, ofString, String.toList_ofList, flatMap_ofChar hcapitals]

end UpperCase

end Chip8
