import Chip8.Instruction.Text
import Chip8.Numeral
import Chip8.Proofs.Encoding
import Chip8.Proofs.Listing

/-!
# Assembling

Assembly texts read back: an assembler for the texts that instructions are written as.

- `Operand`: what an operand stands for, with its text and how that is read back.
- `Instruction.ofText?`: the instruction of a text.
- `Instruction.ofText?_text`: it undoes writing an instruction.
- `Instruction.assemble?`: the word of a text.
- `Instruction.text_lossless`: the texts tell the instructions apart, and assembling a listing
  gives back what was disassembled.
-/

namespace Chip8

/-! ## Operands -/

/-- An operand of an assembly text. -/
inductive Operand where
  | register (r : Register)
  | byte (value : UInt8)
  | address (a : Address)
  | word (w : Int)
  | rows (n : Fin 16)
  /-- The index register. -/
  | index
  /-- The memory at the index. -/
  | cells
  | delay
  | sound
  | digit
  | decimal
  | key
  deriving DecidableEq

namespace Operand

/-- An operand as it is written. -/
def text : Operand → String
  | register r => r.name
  | byte value => Instruction.byteText value
  | address a => Instruction.addressText a
  | word w => "0x" ++ Hex.upper 4 w
  | rows n => toString n.val
  | index => "I"
  | cells => "[I]"
  | delay => "DT"
  | sound => "ST"
  | digit => "F"
  | decimal => "B"
  | key => "K"

/-- The operand of the hexadecimal digits behind `0x`; how many they are tells its kind. -/
def ofDigits (ds : List Char) : Operand :=
  if ds.length = 2 then byte (UInt8.ofNat (Hex.value ds))
  else if ds.length = 3 then address (Fin.ofNat 4096 (Hex.value ds))
  else word (Hex.value ds)

/-- The operand that is written with these characters. -/
def ofChars? : List Char → Option Operand
  | '0' :: 'x' :: ds => some (ofDigits ds)
  | ['V', d] => some (register (.ofNat (Hex.value [d])))
  | ['I'] => some index
  | ['[', 'I', ']'] => some cells
  | ['D', 'T'] => some delay
  | ['S', 'T'] => some sound
  | ['F'] => some digit
  | ['B'] => some decimal
  | ['K'] => some key
  | cs => do
    let ds ← cs.mapM (Numeral.digit? 10)
    if h : Numeral.value 10 ds < 16 then some (rows ⟨Numeral.value 10 ds, h⟩) else none

/-- Only a number of sixteen bits is written as the operand of a word. -/
def Fits : Operand → Prop
  | word w => 0 ≤ w ∧ w ≤ 0xFFFF
  | _ => True

theorem ofDigits_upper_two {n : Nat} (h : n < 256) :
    ofDigits (Hex.upper 2 n).toList = byte (UInt8.ofNat n) := by
  have hvalue := Int.ofNat.inj (Hex.writes_upper 2 (Int.natCast_nonneg n)).value
  rw [ofDigits, if_pos (Hex.length_upper (by decide) h), hvalue]

theorem ofDigits_upper_three {n : Nat} (h : n < 4096) :
    ofDigits (Hex.upper 3 n).toList = address (Fin.ofNat 4096 n) := by
  have hlength : (Hex.upper 3 n).toList.length = 3 := Hex.length_upper (by decide) h
  have hvalue := Int.ofNat.inj (Hex.writes_upper 3 (Int.natCast_nonneg n)).value
  rw [ofDigits, hlength, if_neg (by decide), if_pos rfl, hvalue]

theorem ofDigits_upper_four {n : Nat} (h : n < 65536) :
    ofDigits (Hex.upper 4 n).toList = word n := by
  have hlength : (Hex.upper 4 n).toList.length = 4 := Hex.length_upper (by decide) h
  have hvalue := (Hex.writes_upper 4 (Int.natCast_nonneg n)).value
  rw [ofDigits, hlength, if_neg (by decide), if_neg (by decide), hvalue]

theorem ofChars?_marked (s : String) : ofChars? ("0x" ++ s).toList = some (ofDigits s.toList) := by
  rw [String.toList_append]
  rfl

theorem ofChars?_register : ∀ r : Register, ofChars? r.name.toList = some (register r) := by
  decide

theorem ofChars?_rows : ∀ n : Fin 16, ofChars? (toString n.val).toList = some (rows n) := by
  decide

/-- An operand is read back as it was written. -/
theorem ofChars?_text : ∀ {o : Operand}, o.Fits → ofChars? o.text.toList = some o
  | register r, _ => ofChars?_register r
  | byte value, _ => by
    rw [text, Instruction.byteText, ofChars?_marked, ofDigits_upper_two value.toNat_lt,
      UInt8.ofNat_toNat]
  | address a, _ => by
    rw [text, Instruction.addressText, ofChars?_marked, ofDigits_upper_three a.isLt,
      Fin.ofNat_val_eq_self]
  | word w, hfits => by
    obtain ⟨n, rfl⟩ := Int.eq_ofNat_of_zero_le hfits.1
    rw [text, ofChars?_marked, ofDigits_upper_four (by have := hfits.2; omega)]
  | rows n, _ => ofChars?_rows n
  | index, _ | cells, _ | delay, _ | sound, _ | digit, _ | decimal, _ | key, _ => rfl

/-- So is a row of operands. -/
theorem mapM_ofChars?_text {os : List Operand} (h : ∀ o ∈ os, o.Fits) :
    (os.map fun o => o.text.toList).mapM ofChars? = some os := by
  induction os with
  | nil => rfl
  | cons o os ih =>
    rw [List.forall_mem_cons] at h
    rw [List.map_cons, List.mapM_cons, ofChars?_text h.1, ih h.2]
    rfl

end Operand

/-! ## Words -/

namespace Assembly

/-- What stands between the words of a text. -/
def isSeparator (c : Char) : Bool :=
  c = ' ' || c = ','

/-- The words of a text. -/
def words (cs : List Char) : List (List Char) :=
  (cs.splitOnP isSeparator).filter (· ≠ [])

/-- One word, with nothing in it that stands between words. -/
def IsWord (cs : List Char) : Prop :=
  cs ≠ [] ∧ cs.all fun c => !isSeparator c

instance (cs : List Char) : Decidable (IsWord cs) :=
  inferInstanceAs (Decidable (_ ∧ _))

theorem words_of_isWord {cs : List Char} (h : IsWord cs) : words cs = [cs] := by
  have hplain : ∀ c ∈ cs, isSeparator c = false := by simpa using h.2
  rw [words, List.splitOnP_eq_singleton hplain]
  simp [h.1]

theorem words_append_cons {sep : Char} (h : isSeparator sep = true) (cs ds : List Char) :
    words (cs ++ sep :: ds) = words cs ++ words ds := by
  rw [words, List.splitOnP_append_cons cs ds h, List.filter_append]
  rfl

theorem words_append_comma (cs ds : List Char) :
    words (cs ++ ", ".toList ++ ds) = words cs ++ words ds := by
  have hblank : words (' ' :: ds) = words ds := words_append_cons (by decide) [] ds
  show words (cs ++ [',', ' '] ++ ds) = _
  rw [List.append_assoc, List.cons_append, words_append_cons (by decide)]
  exact congrArg (words cs ++ ·) hblank

theorem words_intercalate {texts : List String} (h : ∀ t ∈ texts, IsWord t.toList) :
    words (String.intercalate ", " texts).toList = texts.map String.toList := by
  induction texts with
  | nil => rfl
  | cons first rest ih =>
    rw [List.forall_mem_cons] at h
    cases rest with
    | nil => rw [String.intercalate_singleton, words_of_isWord h.1, List.map_singleton]
    | cons second rest =>
      rw [String.intercalate_cons_cons, String.toList_append, String.toList_append,
        words_append_comma, words_of_isWord h.1, ih h.2]
      rfl

end Assembly

namespace Operand

open Assembly

theorem isWord_register : ∀ r : Register, IsWord r.name.toList := by
  decide

theorem isWord_rows : ∀ n : Fin 16, IsWord (toString n.val).toList := by
  decide

theorem isWord_upper (width n : Nat) : IsWord ("0x" ++ Hex.upper width n).toList := by
  have hdigits : Hex.upperDigits.all fun c => !isSeparator c := by decide
  rw [String.toList_append]
  refine ⟨List.append_ne_nil_of_left_ne_nil (by decide) _, ?_⟩
  rw [List.all_append, Bool.and_eq_true]
  refine ⟨by decide, List.all_eq_true.2 fun c hc => ?_⟩
  have hdigit := (Hex.writes_upper width (Int.natCast_nonneg n)).digits c hc
  exact List.all_eq_true.1 hdigits c hdigit

/-- An operand is one word. -/
theorem isWord_text : ∀ {o : Operand}, o.Fits → IsWord o.text.toList
  | register r, _ => isWord_register r
  | byte _, _ | address _, _ => isWord_upper _ _
  | word w, hfits => by
    obtain ⟨n, rfl⟩ := Int.eq_ofNat_of_zero_le hfits.1
    exact isWord_upper 4 n
  | rows n, _ => isWord_rows n
  | index, _ | cells, _ | delay, _ | sound, _ | digit, _ | decimal, _ | key, _ => by decide

end Operand

/-! ## Instructions -/

namespace Instruction

open Assembly

/-- What the operands of an instruction stand for. -/
def arguments : Instruction → List Operand
  | halt | clear | ret => []
  | jump a | call a => [.address a]
  | setIndex a => [.index, .address a]
  | jumpFrom a => [.register Register.base, .address a]
  | skipIfValue x v | skipUnlessValue x v | setValue x v | addValue x v | random x v =>
    [.register x, .byte v]
  | skipIfSame x y | skipUnlessSame x y | copy x y | or x y | and x y | xor x y | add x y
  | sub x y | shiftRight x y | subFrom x y | shiftLeft x y => [.register x, .register y]
  | draw x y rows => [.register x, .register y, .rows rows]
  | skipIfHeld x | skipUnlessHeld x => [.register x]
  | getDelay x => [.register x, .delay]
  | awaitKey x => [.register x, .key]
  | setDelay x => [.delay, .register x]
  | setSound x => [.sound, .register x]
  | addIndex x => [.index, .register x]
  | setIndexToDigit x => [.digit, .register x]
  | storeDecimal x => [.decimal, .register x]
  | dump x => [.cells, .register x]
  | restore x => [.register x, .cells]
  | unknown word => [.word word]

/-- The instructions with these operands, by their mnemonics. -/
def withArguments : List Operand → List (String × Instruction)
  | [] => [("END", halt), ("CLS", clear), ("RET", ret)]
  | [.address a] => [("JP", jump a), ("CALL", call a)]
  | [.index, .address a] => [("LD", setIndex a)]
  -- the register is always the base
  | [.register _, .address a] => [("JP", jumpFrom a)]
  | [.register x, .byte v] =>
    [("SE", skipIfValue x v), ("SNE", skipUnlessValue x v), ("LD", setValue x v),
      ("ADD", addValue x v), ("RND", random x v)]
  | [.register x, .register y] =>
    [("SE", skipIfSame x y), ("SNE", skipUnlessSame x y), ("LD", copy x y), ("OR", or x y),
      ("AND", and x y), ("XOR", xor x y), ("ADD", add x y), ("SUB", sub x y),
      ("SHR", shiftRight x y), ("SUBN", subFrom x y), ("SHL", shiftLeft x y)]
  | [.register x, .register y, .rows n] => [("DRW", draw x y n)]
  | [.register x] => [("SKP", skipIfHeld x), ("SKNP", skipUnlessHeld x)]
  | [.register x, .delay] => [("LD", getDelay x)]
  | [.register x, .key] => [("LD", awaitKey x)]
  | [.delay, .register x] => [("LD", setDelay x)]
  | [.sound, .register x] => [("LD", setSound x)]
  | [.index, .register x] => [("ADD", addIndex x)]
  | [.digit, .register x] => [("LD", setIndexToDigit x)]
  | [.decimal, .register x] => [("LD", storeDecimal x)]
  | [.cells, .register x] => [("LD", dump x)]
  | [.register x, .cells] => [("LD", restore x)]
  | [.word w] => [("DW", unknown w)]
  | _ => []

/-- The instruction of a text. -/
def ofText? (text : String) : Option Instruction :=
  match words text.toList with
  | [] => none
  | name :: operands => do
    let arguments ← operands.mapM Operand.ofChars?
    (withArguments arguments).lookup (String.ofList name)

/-- Only a number of sixteen bits is written as a word. -/
def Fits : Instruction → Prop
  | unknown word => 0 ≤ word ∧ word ≤ 0xFFFF
  | _ => True

theorem operands_eq (i : Instruction) : i.operands = i.arguments.map Operand.text := by
  cases i <;> rfl

/-- Mnemonic and operands tell the instruction. -/
theorem lookup_mnemonic (i : Instruction) :
    (withArguments i.arguments).lookup i.mnemonic = some i := by
  cases i <;> rfl

theorem fits_arguments {i : Instruction} (h : i.Fits) : ∀ o ∈ i.arguments, o.Fits := by
  cases i
  case unknown => simpa [arguments, Operand.Fits, Fits] using h
  all_goals simp [arguments, Operand.Fits]

theorem isWord_mnemonic (i : Instruction) : IsWord i.mnemonic.toList := by
  cases i <;> rw [mnemonic] <;> decide

/-- The words of an instruction's text are its mnemonic and its operands. -/
theorem words_text {i : Instruction} (h : i.Fits) :
    words i.text.toList = i.mnemonic.toList :: i.operands.map String.toList := by
  have hoperands : ∀ t ∈ i.operands, IsWord t.toList := by
    rw [operands_eq, List.forall_mem_map]
    exact fun o ho => Operand.isWord_text (fits_arguments h o ho)
  rw [text]
  split
  case h_1 hnone =>
    rw [words_of_isWord i.isWord_mnemonic, hnone]
    rfl
  case h_2 =>
    rw [String.toList_append, String.toList_append, List.append_assoc]
    show words (i.mnemonic.toList ++ ' ' :: _) = _
    rw [words_append_cons (by decide), words_of_isWord i.isWord_mnemonic]
    exact congrArg (_ :: ·) (words_intercalate hoperands)

/-- **Reading undoes writing.** -/
theorem ofText?_text {i : Instruction} (h : i.Fits) : ofText? i.text = some i := by
  have harguments : (i.operands.map String.toList).mapM Operand.ofChars? = some i.arguments := by
    rw [operands_eq, List.map_map]
    exact Operand.mapM_ofChars?_text (fits_arguments h)
  rw [ofText?, words_text h]
  show ((i.operands.map String.toList).mapM Operand.ofChars? >>= _) = _
  rw [harguments]
  show (withArguments i.arguments).lookup (String.ofList i.mnemonic.toList) = _
  rw [String.ofList_toList, lookup_mnemonic]

/-- Texts tell instructions apart. -/
theorem text_inj {i j : Instruction} (hi : i.Fits) (hj : j.Fits) : i.text = j.text ↔ i = j := by
  constructor
  · intro h
    have hsame : some i = some j := by rw [← ofText?_text hi, h, ofText?_text hj]
    exact Option.some.inj hsame
  · exact congrArg text

/-! ## Words and their texts -/

/-- The word of a text. -/
def assemble? (text : String) : Option Nat :=
  (ofText? text).map word

/-- Decoding a number of sixteen bits gives no larger number. -/
theorem fits_decode {w : Nat} (h : w < 65536) : (decode ⟨(w : Int)⟩).Fits := by
  by_cases hlisted : ∃ op ∈ opcodes, Word.Matches op.pattern w
  · obtain ⟨op, hop, hmatches⟩ := hlisted
    rw [decode_of_matches hop hmatches]
    fin_cases hop <;> trivial
  · rw [decode_unlisted h fun op hop hmatches => hlisted ⟨op, hop, hmatches⟩]
    exact ⟨by omega, by omega⟩

/-- The text of a decoded word is assembled to that word in its canonical form. -/
theorem assemble?_text {w : Nat} (h : w < 65536) :
    assemble? (decode ⟨(w : Int)⟩).text = some (Word.canonical w) := by
  rw [assemble?, ofText?_text (fits_decode h), Option.map_some, word_decode h]

/-- **Texts lose nothing but the nibbles without a meaning.** Words of sixteen bits are the same
instruction if they are equal, or in one of the families 5 and 9 and different in the last nibble at
most, and the texts of different instructions are different. What the assembler makes of a line of a
listing is a word for the instruction there, and the word itself if it is in neither family. -/
theorem text_lossless :
    (∀ v w : Int, 0 ≤ v ∧ v ≤ 0xFFFF → 0 ≤ w ∧ w ≤ 0xFFFF →
      ∃ i j, ofWord? v = .ok i ∧ ofWord? w = .ok j ∧
        (i = j ↔ v = w ∨
          (v / 0x1000 = 5 ∧ w / 0x1000 = 5 ∨ v / 0x1000 = 9 ∧ w / 0x1000 = 9) ∧
            v / 0x10 = w / 0x10) ∧
        (i.text = j.text ↔ i = j)) ∧
    ∀ (m : Memory) (start length : Int) (ls : List Listing),
      Listing.ofRange m start length = .ok ls → ∀ l ∈ ls,
        ∃ w a i, m.readWord l.address = .ok w ∧ ofWord? w = .ok i ∧
          assemble? l.text = some a ∧ ofWord? a = .ok i ∧
          (w / 0x1000 ≠ 5 → w / 0x1000 ≠ 9 → a = w) := by
  refine ⟨?words, ?listing⟩
  case words =>
    intro v w hv hw
    obtain ⟨v, rfl⟩ := Int.eq_ofNat_of_zero_le hv.1
    obtain ⟨w, rfl⟩ := Int.eq_ofNat_of_zero_le hw.1
    have hv : v < 65536 := by omega
    have hw : w < 65536 := by omega
    refine ⟨_, _, ofWord?_of_lt hv, ofWord?_of_lt hw, ?_,
      text_inj (fits_decode hv) (fits_decode hw)⟩
    rw [decode_eq_iff hv hw, Word.canonical_eq_iff]
    omega
  case listing =>
    intro m start length ls hls l hl
    obtain ⟨address, hin, rfl⟩ := Listing.eq_lineAt_of_ofRange hls hl
    have hword := m.wordAt_lt address
    refine ⟨_, _, _, Memory.readWord_inRange hin, ofWord?_of_lt hword, assemble?_text hword,
      ?_, ?_⟩
    · rw [ofWord?_of_lt (Nat.lt_of_le_of_lt (Word.canonical_le _) hword), decode_canonical hword]
      rfl
    · exact fun hfive hnine => Word.canonical_of_not_loose (not_or.2 ⟨hfive, hnine⟩)

/-- The last nibble of a skip is lost, that of a sum is not. The listing of a program is assembled
to its words. -/
theorem text_lossless_program :
    let m := Memory.blank.overlay Memory.programBase [0xA2, 0x0A, 0xD1, 0x25]
    (∃ i, ofWord? 0x5121 = .ok i ∧ ofWord? 0x512F = .ok i) ∧
    (∃ i j, ofWord? 0x8124 = .ok i ∧ ofWord? 0x8125 = .ok j ∧ i.text ≠ j.text) ∧
    ∃ ls, Listing.ofRange m 0x200 4 = .ok ls ∧
      ∀ l ∈ ls, ∃ w, m.readWord l.address = .ok w ∧
        (w / 0x1000 ≠ 5 → w / 0x1000 ≠ 9 → assemble? l.text = some w) := by
  intro m
  obtain ⟨hwords, hlisting⟩ := text_lossless
  have hlines : Listing.ofRange m 0x200 4 = .ok _ := Listing.ofRange_eq (by decide) 4
  refine ⟨?_, ?_, _, hlines, fun l hl => ?_⟩
  · obtain ⟨i, j, hi, hj, hsame, -⟩ := hwords 0x5121 0x512F (by decide) (by decide)
    have hij : i = j := hsame.2 (by decide)
    exact ⟨i, hi, hij ▸ hj⟩
  · obtain ⟨i, j, hi, hj, hsame, htext⟩ := hwords 0x8124 0x8125 (by decide) (by decide)
    exact ⟨i, j, hi, hj, fun h => absurd (hsame.1 (htext.1 h)) (by decide)⟩
  · obtain ⟨w, a, i, hw, -, ha, -, hsame⟩ := hlisting m 0x200 4 _ hlines l hl
    exact ⟨w, hw, fun hfive hnine => hsame hfive hnine ▸ ha⟩

end Instruction

end Chip8
