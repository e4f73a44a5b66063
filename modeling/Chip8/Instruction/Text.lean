import Chip8.Instruction

/-!
# Assembly text

An instruction is written as a mnemonic and, behind a blank, its operands with
a comma and a blank between them. Byte operands have two hexadecimal digits,
addresses three, words four; the height of a sprite is decimal.
-/

namespace Chip8

namespace Instruction

/-- A byte as an operand. -/
def byteText (value : UInt8) : String :=
  "0x" ++ Hex.upper 2 value.toNat

/-- An address as an operand. -/
def addressText (address : Address) : String :=
  "0x" ++ Hex.upper 3 address.val

/-- The name that an instruction shares with its relatives. -/
def mnemonic : Instruction → String
  | halt => "END"
  | clear => "CLS"
  | ret => "RET"
  | jump _ | jumpFrom _ => "JP"
  | call _ => "CALL"
  | skipIfValue .. | skipIfSame .. => "SE"
  | skipUnlessValue .. | skipUnlessSame .. => "SNE"
  | setValue .. | copy .. | setIndex _ | getDelay _ | awaitKey _ | setDelay _ | setSound _
  | setIndexToDigit _ | storeDecimal _ | dump _ | restore _ => "LD"
  | addValue .. | add .. | addIndex _ => "ADD"
  | or .. => "OR"
  | and .. => "AND"
  | xor .. => "XOR"
  | sub .. => "SUB"
  | shiftRight .. => "SHR"
  | subFrom .. => "SUBN"
  | shiftLeft .. => "SHL"
  | random .. => "RND"
  | draw .. => "DRW"
  | skipIfHeld _ => "SKP"
  | skipUnlessHeld _ => "SKNP"
  | unknown _ => "DW"

/-- The operands in their order. -/
def operands : Instruction → List String
  | halt | clear | ret => []
  | jump a | call a => [addressText a]
  | setIndex a => ["I", addressText a]
  | jumpFrom a => ["V0", addressText a]
  | skipIfValue x v | skipUnlessValue x v | setValue x v | addValue x v | random x v =>
    [x.name, byteText v]
  | skipIfSame x y | skipUnlessSame x y | copy x y | or x y | and x y | xor x y | add x y
  | sub x y | shiftRight x y | subFrom x y | shiftLeft x y => [x.name, y.name]
  | draw x y rows => [x.name, y.name, toString rows.val]
  | skipIfHeld x | skipUnlessHeld x => [x.name]
  | getDelay x => [x.name, "DT"]
  | awaitKey x => [x.name, "K"]
  | setDelay x => ["DT", x.name]
  | setSound x => ["ST", x.name]
  | addIndex x => ["I", x.name]
  | setIndexToDigit x => ["F", x.name]
  | storeDecimal x => ["B", x.name]
  | dump x => ["[I]", x.name]
  | restore x => [x.name, "[I]"]
  | unknown word => ["0x" ++ Hex.upper 4 word]

/-- The instruction as assembly text. -/
def text (i : Instruction) : String :=
  match i.operands with
  | [] => i.mnemonic
  | operands => i.mnemonic ++ " " ++ String.intercalate ", " operands

end Instruction

end Chip8
