import Chip8.Numeral

/-!
# Errors in a YAML text

Why a text is not read as a tree. `YamlError.isSyntax` tells the errors of the
text's form from those of a value that is formed well and cannot be had.
-/

namespace Chip8

/-- Why a text is not read as a tree. -/
inductive YamlError where
  /-- A character that may not stand in a text at all. -/
  | unprintable (c : Char)
  /-- A character that begins no token. -/
  | stray (c : Char)
  /-- The text ends inside a quotation. -/
  | unclosedQuote
  /-- A document marker inside a quotation. -/
  | markerInQuote
  /-- An escape that is not known, or is cut off. -/
  | badEscape
  /-- A key, item or value where none may begin. -/
  | misplaced
  /-- A key without its colon. -/
  | missingColon
  /-- A name for a part of the text that nothing bears. -/
  | unknownAlias
  /-- Tags, anchors, directives, block texts and merge keys are not read. -/
  | unsupported (c : Char)
  /-- A token where another one is needed. -/
  | unexpectedToken
  /-- A second document. -/
  | secondDocument
  /-- A list or a mapping as a key. -/
  | compoundKey
  /-- An integer without digits, or with too many. -/
  | numeral (cause : NumeralError)
  /-- An escape for a number that is no code point. -/
  | codePoint (n : Nat)

namespace YamlError

/-- The text is not well formed. -/
def isSyntax : YamlError → Bool
  | numeral _ | codePoint _ => false
  | _ => true

/-- What is said about each cause. -/
def message : YamlError → String
  | unprintable c => "the text holds the special character " ++ Quoted.ofString c.toString
  | stray c => "the character " ++ Quoted.ofString c.toString ++ " begins no token"
  | unclosedQuote => "the text ends inside a quotation"
  | markerInQuote => "a document marker inside a quotation"
  | badEscape => "an unknown escape"
  | misplaced => "no key, item or value may begin here"
  | missingColon => "a key without its colon"
  | unknownAlias => "an alias for nothing"
  | unsupported c => "not read: " ++ Quoted.ofString c.toString
  | unexpectedToken => "another token is needed here"
  | secondDocument => "more than one document"
  | compoundKey => "a key has to be a scalar"
  | numeral cause => cause.message
  | codePoint _ => "chr() arg not in range(0x110000)"

end YamlError

end Chip8
