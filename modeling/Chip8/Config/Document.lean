import Chip8.Config.Load

/-!
# Configuration texts

A configuration is written as a text in some notation for trees. What parses
the notation is given as a function, so that nothing here depends on it. A text
whose tree counts as nothing chooses nothing.
-/

namespace Chip8

/-- How the tree of a text is found, and why there is none. -/
abbrev Parser (ε : Type) := String → Except ε Value

/-- Why a text is no configuration. -/
inductive DocumentError (ε : Type) where
  /-- The text has no tree. -/
  | parse (cause : ε)
  | config (cause : ConfigError)

variable {ε : Type}

/-- What is said about each cause, given what is said about texts without a tree. -/
def DocumentError.message (say : ε → String) : DocumentError ε → String
  | parse cause => say cause
  | config cause => cause.message

/-- The configuration of a text. -/
def Config.ofText (parse : Parser ε) (text : String) : Except (DocumentError ε) Config := do
  let v ← (parse text).mapError .parse
  (ofDocument v).mapError .config

end Chip8
