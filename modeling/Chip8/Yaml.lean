import Chip8.Yaml.Node
import Chip8.Yaml.Resolve

/-!
# Trees from YAML texts

A configuration file is a YAML text: mappings and lists, indented or in
brackets, with plain and quoted texts, comments and document markers. That is a
part of the notation: tags, anchors, directives, block texts and merge keys are
refused, and a date is a text.

- `Yaml.parse`: the tree of a text; null if the text is empty.
-/

namespace Chip8.Yaml

mutual

/-- The tree of a node. -/
def Node.value : Node → Except YamlError Value
  | .text s isPlain =>
    if isPlain then (Resolve.scalar s).map .scalar else .ok (.scalar (.text s))
  | .list items => (valuesOf items).map .list
  | .map entries => (pairsOf entries).map .ofPairs

/-- The trees of items. -/
def valuesOf : List Node → Except YamlError (List Value)
  | [] => .ok []
  | n :: ns => do
    let v ← n.value
    return v :: (← valuesOf ns)

/-- The keys and trees of entries; a key has to be a scalar. -/
def pairsOf : List (Node × Node) → Except YamlError (List (Scalar × Value))
  | [] => .ok []
  | (k, n) :: ns => do
    match ← k.value with
    | .scalar key =>
      let v ← n.value
      return (key, v) :: (← pairsOf ns)
    | _ => throw .compoundKey

end

/-- The tree of a text. -/
def parse (text : String) : Except YamlError Value := do
  match ← Node.ofTokens (← Token.ofText text) with
  | some node => node.value
  | none => return .scalar .null

/-- The tree of a text by way of its tokens and their node. -/
theorem parse_of_tokens {text : String} {tokens : List Token} {node : Node} {v : Value}
    (htokens : (Token.ofText text).toOption = some tokens)
    (hnode : Node.ofTokens tokens = .ok (some node)) (hvalue : node.value = .ok v) :
    parse text = .ok v := by
  unfold parse
  cases hread : Token.ofText text with
  | error e =>
    rw [hread] at htokens
    cases htokens
  | ok found =>
    rw [hread] at htokens
    obtain rfl := Option.some.inj htokens
    show (Node.ofTokens found >>= _) = _
    rw [hnode]
    exact hvalue

end Chip8.Yaml
