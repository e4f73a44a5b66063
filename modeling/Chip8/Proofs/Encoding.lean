import Chip8.Proofs.Opcode

/-!
# Encoding

The word of an instruction, and which words decoding cannot tell apart.

- `Instruction.word`: an instruction as a word again.
- `Word.Loose`: the words that have a nibble without a meaning.
- `Word.canonical`: a word with zero for such a nibble.
- `Instruction.word_decode`: encoding gives back the word that was decoded, in its canonical form.
- `Instruction.decode_eq_iff`: the words of one instruction have one canonical form.
-/

namespace Chip8

namespace Word

variable {v w : Nat}

/-- The families that skip on two registers leave the last nibble of the word without a meaning. -/
def Loose (w : Nat) : Prop :=
  w / 4096 = 5 ∨ w / 4096 = 9

instance (w : Nat) : Decidable (Loose w) :=
  inferInstanceAs (Decidable (_ ∨ _))

/-- The word with zero for a nibble without a meaning. -/
def canonical (w : Nat) : Nat :=
  if Loose w then w / 16 * 16 else w

theorem canonical_cases (w : Nat) :
    (w / 4096 = 5 ∨ w / 4096 = 9) ∧ canonical w = w / 16 * 16 ∨
      w / 4096 ≠ 5 ∧ w / 4096 ≠ 9 ∧ canonical w = w := by
  by_cases h : Loose w
  · exact .inl ⟨h, if_pos h⟩
  · obtain ⟨hfive, hnine⟩ := not_or.1 h
    exact .inr ⟨hfive, hnine, if_neg h⟩

theorem canonical_of_not_loose (h : ¬ Loose w) : canonical w = w :=
  if_neg h

theorem canonical_le (w : Nat) : canonical w ≤ w := by
  have := canonical_cases w
  omega

theorem canonical_canonical (w : Nat) : canonical (canonical w) = canonical w := by
  have hw := canonical_cases w
  have hagain := canonical_cases (canonical w)
  omega

/-- Words have one canonical form if they differ at most in a nibble without a meaning. -/
theorem canonical_eq_iff :
    canonical v = canonical w ↔ v = w ∨
      (v / 4096 = 5 ∧ w / 4096 = 5 ∨ v / 4096 = 9 ∧ w / 4096 = 9) ∧ v / 16 = w / 16 := by
  have hv := canonical_cases v
  have hw := canonical_cases w
  omega

end Word

namespace Instruction

/-- The word of an instruction; a nibble without a meaning is zero. -/
def word : Instruction → Nat
  | halt => 0x0000
  | clear => 0x00E0
  | ret => 0x00EE
  | jump a => 0x1000 + a.val
  | call a => 0x2000 + a.val
  | skipIfValue x v => 0x3000 + x.val * 256 + v.toNat
  | skipUnlessValue x v => 0x4000 + x.val * 256 + v.toNat
  | skipIfSame x y => 0x5000 + x.val * 256 + y.val * 16
  | setValue x v => 0x6000 + x.val * 256 + v.toNat
  | addValue x v => 0x7000 + x.val * 256 + v.toNat
  | copy x y => 0x8000 + x.val * 256 + y.val * 16
  | or x y => 0x8001 + x.val * 256 + y.val * 16
  | and x y => 0x8002 + x.val * 256 + y.val * 16
  | xor x y => 0x8003 + x.val * 256 + y.val * 16
  | add x y => 0x8004 + x.val * 256 + y.val * 16
  | sub x y => 0x8005 + x.val * 256 + y.val * 16
  | shiftRight x y => 0x8006 + x.val * 256 + y.val * 16
  | subFrom x y => 0x8007 + x.val * 256 + y.val * 16
  | shiftLeft x y => 0x800E + x.val * 256 + y.val * 16
  | skipUnlessSame x y => 0x9000 + x.val * 256 + y.val * 16
  | setIndex a => 0xA000 + a.val
  | jumpFrom a => 0xB000 + a.val
  | random x mask => 0xC000 + x.val * 256 + mask.toNat
  | draw x y rows => 0xD000 + x.val * 256 + y.val * 16 + rows.val
  | skipIfHeld x => 0xE09E + x.val * 256
  | skipUnlessHeld x => 0xE0A1 + x.val * 256
  | getDelay x => 0xF007 + x.val * 256
  | awaitKey x => 0xF00A + x.val * 256
  | setDelay x => 0xF015 + x.val * 256
  | setSound x => 0xF018 + x.val * 256
  | addIndex x => 0xF01E + x.val * 256
  | setIndexToDigit x => 0xF029 + x.val * 256
  | storeDecimal x => 0xF033 + x.val * 256
  | dump x => 0xF055 + x.val * 256
  | restore x => 0xF065 + x.val * 256
  | unknown word => word.toNat

variable {v w : Nat}

/-- A row's instruction is encoded as the word that it was decoded from. -/
theorem word_of_matches {op : Opcode} (hop : op ∈ opcodes) (hw : Word.Matches op.pattern w) :
    (op.instruction (Operands.ofWord w)).word = Word.canonical w := by
  have hcanonical := Word.canonical_cases w
  -- one case for each row, whose digits are those that encoding puts there
  fin_cases hop
  all_goals
    simp [Word.Matches, Word.AgreesWith, Word.digit?] at hw
    simp only [word, Operands.ofWord, Register.ofNat, Fin.ofNat, UInt8.toNat_ofNat']
    omega

theorem matches_of_five (h : w / 4096 = 5) : Word.Matches "5XYN" w := by
  have hdigits : w / 16 / 16 / 16 = 5 := by omega
  simp [Word.Matches, Word.AgreesWith, Word.digit?, hdigits]

theorem matches_of_nine (h : w / 4096 = 9) : Word.Matches "9XYN" w := by
  have hdigits : w / 16 / 16 / 16 = 9 := by omega
  simp [Word.Matches, Word.AgreesWith, Word.digit?, hdigits]

/-- The row of a loose word has the two registers and nothing else. -/
theorem row_of_loose (h : Word.Loose w) : ∃ op ∈ opcodes, Word.Matches op.pattern w ∧
    op.instruction (Operands.ofWord w) =
      (if w / 4096 = 5 then skipIfSame else skipUnlessSame)
        (.ofNat (w / 256)) (.ofNat (w / 16)) := by
  rcases h with hfive | hnine
  · refine ⟨⟨"5XYN", fun o => .skipIfSame o.x o.y⟩, by simp [opcodes], matches_of_five hfive, ?_⟩
    rw [if_pos hfive]
    rfl
  · refine ⟨⟨"9XYN", fun o => .skipUnlessSame o.x o.y⟩, by simp [opcodes], matches_of_nine hnine,
      ?_⟩
    rw [if_neg (by omega)]
    rfl

/-- **Encoding undoes decoding**, but for a nibble without a meaning. -/
theorem word_decode (hw : w < 65536) : (decode ⟨(w : Int)⟩).word = Word.canonical w := by
  by_cases hlisted : ∃ op ∈ opcodes, Word.Matches op.pattern w
  · obtain ⟨op, hop, hmatches⟩ := hlisted
    rw [decode_of_matches hop hmatches, word_of_matches hop hmatches]
  · have hunlisted := decode_unlisted hw fun op hop hmatches => hlisted ⟨op, hop, hmatches⟩
    have htight : ¬ Word.Loose w := fun hloose =>
      let ⟨op, hop, hmatches, _⟩ := row_of_loose hloose
      hlisted ⟨op, hop, hmatches⟩
    rw [hunlisted, Word.canonical_of_not_loose htight]
    rfl

theorem decode_loose (h : Word.Loose w) : decode ⟨(w : Int)⟩ =
    (if w / 4096 = 5 then skipIfSame else skipUnlessSame) (.ofNat (w / 256)) (.ofNat (w / 16)) := by
  obtain ⟨op, hop, hmatches, hrow⟩ := row_of_loose h
  rw [decode_of_matches hop hmatches, hrow]

/-- **Which words are the same instruction.** -/
theorem decode_eq_iff (hv : v < 65536) (hw : w < 65536) :
    decode ⟨(v : Int)⟩ = decode ⟨(w : Int)⟩ ↔ Word.canonical v = Word.canonical w := by
  constructor
  · intro h
    rw [← word_decode hv, ← word_decode hw, h]
  · intro h
    rcases Word.canonical_eq_iff.1 h with rfl | ⟨hfamily, hnibbles⟩
    · rfl
    · have hx : v / 256 = w / 256 := by omega
      have hsame : v / 4096 = w / 4096 := by omega
      rw [decode_loose (hfamily.imp And.left And.left),
        decode_loose (hfamily.imp And.right And.right), hnibbles, hx, hsame]

theorem decode_canonical (hw : w < 65536) :
    decode ⟨(Word.canonical w : Int)⟩ = decode ⟨(w : Int)⟩ :=
  (decode_eq_iff (Nat.lt_of_le_of_lt (Word.canonical_le w) hw) hw).2 (Word.canonical_canonical w)

end Instruction

end Chip8
