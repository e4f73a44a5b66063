import Chip8.Instruction
import Mathlib.Tactic.FinCases

/-!
# The words of the instruction set

The instruction table's left column: which words carry which instruction. A
word is written with four hexadecimal digits, and a pattern such as `8XY4`
stands for all words that have its digits in their places.

- `Word.Matches`: a word is one of those that a pattern stands for.
- `opcodes`: the patterns, each with the instruction it stands for.
- `decode_of_matches`, `decode_unlisted`: decoding is looking up the table, and
  a word that is in no row of it is `unknown`.
- `decode_iff_matches`: no word is decoded to an instruction of another row.
-/

namespace Chip8

namespace Word

/-! ## Patterns -/

/-- The digit that a character of a pattern asks for; `X`, `Y` and `N` ask for none. -/
def digit? (c : Char) : Option Nat :=
  if '0' ≤ c ∧ c ≤ '9' then some (c.toNat - 48)
  else if 'A' ≤ c ∧ c ≤ 'F' then some (c.toNat - 55)
  else none

/-- `w` has as many hexadecimal digits as there are characters, at most, and has the digits that
they ask for. Digits and characters go from the last to the first. -/
def AgreesWith : List Char → Nat → Prop
  | [], w => w = 0
  | c :: cs, w => (∀ d ∈ digit? c, w % 16 = d) ∧ AgreesWith cs (w / 16)

instance decidableAgreesWith : ∀ (cs : List Char) (w : Nat), Decidable (AgreesWith cs w)
  | [], w => inferInstanceAs (Decidable (w = 0))
  | c :: cs, w =>
    have := decidableAgreesWith cs (w / 16)
    inferInstanceAs (Decidable ((∀ d ∈ digit? c, w % 16 = d) ∧ AgreesWith cs (w / 16)))

/-- The word `w` is one of those that the pattern stands for. -/
def Matches (pattern : String) (w : Nat) : Prop :=
  AgreesWith pattern.toList.reverse w

instance (pattern : String) (w : Nat) : Decidable (Matches pattern w) :=
  decidableAgreesWith _ _

example : Matches "DXYN" 0xD123 ∧ ¬ Matches "00EE" 0x00E0 := by decide

/-! ## The fields of a word, by its digits -/

theorem field_ofNat (w i n : Nat) : field ⟨(w : Int)⟩ i n = w / Nat.pow 2 i % Nat.pow 2 n := by
  show ((w : Int) >>> i % ((Nat.pow 2 n : Nat) : Int)).toNat = _
  rw [Int.shiftRight_eq_div_pow]
  exact congrArg Int.toNat (by norm_cast)

theorem family_ofNat (w : Nat) : family ⟨(w : Int)⟩ = w / 16 / 16 / 16 % 16 := by
  rw [family, field_ofNat]
  show w / 4096 % 16 = _
  omega

theorem n_ofNat (w : Nat) : n ⟨(w : Int)⟩ = w % 16 := by
  rw [n, field_ofNat]
  show w / 1 % 16 = _
  omega

theorem nn_ofNat (w : Nat) : nn ⟨(w : Int)⟩ = w / 16 % 16 * 16 + w % 16 := by
  rw [nn, field_ofNat]
  show w / 1 % 256 = _
  omega

theorem nnn_ofNat (w : Nat) :
    nnn ⟨(w : Int)⟩ = w / 16 / 16 % 16 * 256 + w / 16 % 16 * 16 + w % 16 := by
  rw [nnn, field_ofNat]
  show w / 1 % 4096 = _
  omega

end Word

/-! ## The table -/

/-- What the letters of a pattern stand for in a word. -/
structure Operands where
  x : Register
  y : Register
  n : Fin 16
  nn : UInt8
  nnn : Address

namespace Operands

/-- The operands in a word. -/
def ofWord (w : Nat) : Operands where
  x := .ofNat (w / 256)
  y := .ofNat (w / 16)
  n := ⟨w % 16, by omega⟩
  nn := UInt8.ofNat w
  nnn := ⟨w % 4096, by omega⟩

variable (w : Nat)

theorem x_ofWord : Word.x ⟨(w : Int)⟩ = (ofWord w).x := by
  ext
  simp [Word.x, Word.field_ofNat, ofWord, Register.ofNat]

theorem y_ofWord : Word.y ⟨(w : Int)⟩ = (ofWord w).y := by
  ext
  simp [Word.y, Word.field_ofNat, ofWord, Register.ofNat]

theorem n_ofWord :
    (⟨Word.n ⟨(w : Int)⟩ % 16, Nat.mod_lt _ (by decide)⟩ : Fin 16) = (ofWord w).n := by
  ext
  simp [Word.n, Word.field_ofNat, ofWord]

theorem nn_ofWord : UInt8.ofNat (Word.nn ⟨(w : Int)⟩) = (ofWord w).nn := by
  apply UInt8.toNat_inj.1
  simp [Word.nn, Word.field_ofNat, ofWord]

theorem nnn_ofWord :
    (⟨Word.nnn ⟨(w : Int)⟩ % 4096, Nat.mod_lt _ (by decide)⟩ : Address) = (ofWord w).nnn := by
  ext
  simp [Word.nnn, Word.field_ofNat, ofWord]

end Operands

/-- A row of the instruction table. -/
structure Opcode where
  pattern : String
  instruction : Operands → Instruction

/-- The instruction table. -/
def opcodes : List Opcode :=
  [ ⟨"0000", fun _ => .halt⟩,
    ⟨"00E0", fun _ => .clear⟩,
    ⟨"00EE", fun _ => .ret⟩,
    ⟨"1NNN", fun o => .jump o.nnn⟩,
    ⟨"2NNN", fun o => .call o.nnn⟩,
    ⟨"3XNN", fun o => .skipIfValue o.x o.nn⟩,
    ⟨"4XNN", fun o => .skipUnlessValue o.x o.nn⟩,
    ⟨"5XYN", fun o => .skipIfSame o.x o.y⟩,
    ⟨"6XNN", fun o => .setValue o.x o.nn⟩,
    ⟨"7XNN", fun o => .addValue o.x o.nn⟩,
    ⟨"8XY0", fun o => .copy o.x o.y⟩,
    ⟨"8XY1", fun o => .or o.x o.y⟩,
    ⟨"8XY2", fun o => .and o.x o.y⟩,
    ⟨"8XY3", fun o => .xor o.x o.y⟩,
    ⟨"8XY4", fun o => .add o.x o.y⟩,
    ⟨"8XY5", fun o => .sub o.x o.y⟩,
    ⟨"8XY6", fun o => .shiftRight o.x o.y⟩,
    ⟨"8XY7", fun o => .subFrom o.x o.y⟩,
    ⟨"8XYE", fun o => .shiftLeft o.x o.y⟩,
    ⟨"9XYN", fun o => .skipUnlessSame o.x o.y⟩,
    ⟨"ANNN", fun o => .setIndex o.nnn⟩,
    ⟨"BNNN", fun o => .jumpFrom o.nnn⟩,
    ⟨"CXNN", fun o => .random o.x o.nn⟩,
    ⟨"DXYN", fun o => .draw o.x o.y o.n⟩,
    ⟨"EX9E", fun o => .skipIfHeld o.x⟩,
    ⟨"EXA1", fun o => .skipUnlessHeld o.x⟩,
    ⟨"FX07", fun o => .getDelay o.x⟩,
    ⟨"FX0A", fun o => .awaitKey o.x⟩,
    ⟨"FX15", fun o => .setDelay o.x⟩,
    ⟨"FX18", fun o => .setSound o.x⟩,
    ⟨"FX1E", fun o => .addIndex o.x⟩,
    ⟨"FX29", fun o => .setIndexToDigit o.x⟩,
    ⟨"FX33", fun o => .storeDecimal o.x⟩,
    ⟨"FX55", fun o => .dump o.x⟩,
    ⟨"FX65", fun o => .restore o.x⟩ ]

namespace Instruction

/-- A word that matches a row is decoded to the row's instruction with the word's operands. -/
theorem decode_of_matches {w : Nat} {op : Opcode} (hop : op ∈ opcodes)
    (hw : Word.Matches op.pattern w) :
    decode ⟨(w : Int)⟩ = op.instruction (Operands.ofWord w) := by
  simp only [decode, decodeArithmetic, decodeTransfer, Operands.x_ofWord, Operands.y_ofWord,
    Operands.n_ofWord, Operands.nn_ofWord, Operands.nnn_ofWord]
  -- one case for each row, whose digits decide every branch of the decoder
  fin_cases hop
  all_goals
    simp [Word.Matches, Word.AgreesWith, Word.digit?] at hw
    simp [Word.family_ofNat, Word.nnn_ofNat, Word.nn_ofNat, Word.n_ofNat, hw]

/-- A word that matches no row is decoded to `unknown`. -/
theorem decode_unlisted {w : Nat} (hw : w < 65536)
    (h : ∀ op ∈ opcodes, ¬ Word.Matches op.pattern w) :
    decode ⟨(w : Int)⟩ = unknown w := by
  have hlast : w / 16 / 16 / 16 < 16 := by omega
  simp [opcodes, Word.Matches, Word.AgreesWith, Word.digit?, hlast] at h
  -- the operands play no part, the digits decide
  simp only [decode, decodeArithmetic, decodeTransfer, Operands.x_ofWord, Operands.y_ofWord,
    Operands.n_ofWord, Operands.nn_ofWord, Operands.nnn_ofWord]
  generalize Operands.ofWord w = o
  simp only [Word.family_ofNat, Word.nnn_ofNat, Word.nn_ofNat, Word.n_ofNat]
  have hn : w % 16 < 16 := Nat.mod_lt _ (by decide)
  have hy : w / 16 % 16 < 16 := Nat.mod_lt _ (by decide)
  have hx : w / 16 / 16 % 16 < 16 := Nat.mod_lt _ (by decide)
  have hc : w / 16 / 16 / 16 % 16 < 16 := Nat.mod_lt _ (by decide)
  generalize w % 16 = n at h hn ⊢
  generalize w / 16 % 16 = y at h hy ⊢
  generalize w / 16 / 16 % 16 = x at h hx ⊢
  generalize w / 16 / 16 / 16 % 16 = c at h hc ⊢
  -- the families that have a second level: 0, 8, E and F
  split
  case h_1 =>
    obtain ⟨halt, clear, ret⟩ : (n = 0 → y = 0 → x ≠ 0) ∧ (n = 0 → y = 14 → x ≠ 0) ∧
        (n = 14 → y = 14 → x ≠ 0) := by simpa using h
    rw [if_neg fun e => halt (by omega) (by omega) (by omega),
      if_neg fun e => clear (by omega) (by omega) (by omega),
      if_neg fun e => ret (by omega) (by omega) (by omega)]
  case h_9 =>
    simp at h
    split <;> simp_all
  case h_15 =>
    obtain ⟨held, free⟩ : (n = 14 → y ≠ 9) ∧ (n = 1 → y ≠ 10) := by simpa using h
    rw [if_neg fun e => held (by omega) (by omega), if_neg fun e => free (by omega) (by omega)]
  case h_16 =>
    obtain rfl : c = 15 := by grind
    simp at h
    split <;> grind
  all_goals simp_all

/-- The rows of the table stand in the order of the instruction set. -/
theorem ctorIdx_row (o : Operands) (k : Nat) (hk : k < opcodes.length) :
    (opcodes[k].instruction o).ctorIdx = k := by
  have hrows : (opcodes.map fun op => (op.instruction o).ctorIdx) = List.range 35 := rfl
  have hrow := List.getElem_map (fun op : Opcode => (op.instruction o).ctorIdx)
    (l := opcodes) (i := k) (h := by simpa using hk)
  rw [← hrow]
  simp only [hrows, List.getElem_range]

/-- No two rows share an instruction. -/
theorem row_unique {op op' : Opcode} (hop : op ∈ opcodes) (hop' : op' ∈ opcodes) {o o' : Operands}
    (h : op.instruction o = op'.instruction o') : op = op' := by
  obtain ⟨k, hk, rfl⟩ := List.getElem_of_mem hop
  obtain ⟨k', hk', rfl⟩ := List.getElem_of_mem hop'
  have hidx : k = k' := by
    rw [← ctorIdx_row o k hk, ← ctorIdx_row o' k' hk', h]
  subst hidx
  rfl

/-- **Decoding tells the rows apart**: a word is decoded to an instruction of a row iff it matches
the row. -/
theorem decode_iff_matches {w : Nat} (hw : w < 65536) {op : Opcode} (hop : op ∈ opcodes) :
    (∃ o, decode ⟨(w : Int)⟩ = op.instruction o) ↔ Word.Matches op.pattern w := by
  constructor
  · rintro ⟨o, ho⟩
    by_cases hlisted : ∃ op' ∈ opcodes, Word.Matches op'.pattern w
    · obtain ⟨op', hop', hmatches⟩ := hlisted
      rw [decode_of_matches hop' hmatches] at ho
      rw [← row_unique hop' hop ho]
      exact hmatches
    · -- a word outside the table is decoded to what is in no row
      rw [decode_unlisted hw fun op' hop' hmatches => hlisted ⟨op', hop', hmatches⟩] at ho
      obtain ⟨k, hk, rfl⟩ := List.getElem_of_mem hop
      have hidx := congrArg Instruction.ctorIdx ho
      rw [ctorIdx_row o k hk] at hidx
      exact absurd hidx (Nat.ne_of_gt hk)
  · intro hmatches
    exact ⟨_, decode_of_matches hop hmatches⟩

end Instruction

end Chip8
