import Chip8.Yaml.Token

/-!
# Nodes of a YAML text

The tree that a sequence of tokens describes, before it is known what its texts
stand for. A part that is left out is the empty plain text.

- `Node.ofTokens`: the tree of a text's tokens; none if the text has no document.
-/

namespace Chip8.Yaml

/-- A part of the tree. -/
inductive Node where
  | text (s : String) (isPlain : Bool)
  | list (items : List Node)
  | map (entries : List (Node × Node))

namespace Node

/-- A part that is left out. -/
def missing : Node := text "" true

/-- The tokens begin with one of these, or are over. -/
def startsWith (ts : List Token) (kinds : List Token) : Bool :=
  match ts with
  | [] => true
  | t :: _ => kinds.contains t

mutual

/-- A node. `inBlock` allows the tokens of blocks, `unindented` a list whose items stand in the
column of the key before them. Every call that does not take a token is followed by one that
does, so a fuel of three for each token is enough. -/
def read (inBlock unindented : Bool) : Nat → List Token → Except YamlError (Node × List Token)
  | 0, _ => .error .unexpectedToken
  | fuel + 1, ts =>
    match ts with
    | .text s isPlain :: ts => .ok (text s isPlain, ts)
    | .openList :: ts => do
      let (items, ts) ← readFlowItems true fuel ts
      return (list items, ts)
    | .openMap :: ts => do
      let (entries, ts) ← readFlowEntries true fuel ts
      return (map entries, ts)
    | .item :: _ =>
      if unindented then do
        let (items, ts) ← readUnindented fuel ts
        return (list items, ts)
      else .error .unexpectedToken
    | .blockList :: ts =>
      if inBlock then do
        let (items, ts) ← readItems fuel ts
        return (list items, ts)
      else .error .unexpectedToken
    | .blockMap :: ts =>
      if inBlock then do
        let (entries, ts) ← readEntries fuel ts
        return (map entries, ts)
      else .error .unexpectedToken
    | _ => .error .unexpectedToken

/-- The items of an indented list. -/
def readItems : Nat → List Token → Except YamlError (List Node × List Token)
  | 0, _ => .error .unexpectedToken
  | fuel + 1, ts =>
    match ts with
    | .item :: ts => do
      let (first, ts) ←
        if startsWith ts [.item, .blockEnd] then pure (missing, ts) else read true false fuel ts
      let (rest, ts) ← readItems fuel ts
      return (first :: rest, ts)
    | .blockEnd :: ts => .ok ([], ts)
    | _ => .error .unexpectedToken

/-- The items of a list that is not indented; it ends with its last item. -/
def readUnindented : Nat → List Token → Except YamlError (List Node × List Token)
  | 0, _ => .error .unexpectedToken
  | fuel + 1, ts =>
    match ts with
    | .item :: ts => do
      let (first, ts) ←
        if startsWith ts [.item, .key, .value, .blockEnd] then pure (missing, ts)
        else read true false fuel ts
      let (rest, ts) ← readUnindented fuel ts
      return (first :: rest, ts)
    | ts => .ok ([], ts)

/-- The entries of an indented mapping. -/
def readEntries : Nat → List Token → Except YamlError (List (Node × Node) × List Token)
  | 0, _ => .error .unexpectedToken
  | fuel + 1, ts =>
    match ts with
    | .key :: ts => do
      let (k, ts) ←
        if startsWith ts [.key, .value, .blockEnd] then pure (missing, ts)
        else read true true fuel ts
      let (v, ts) ← readValue fuel ts
      let (rest, ts) ← readEntries fuel ts
      return ((k, v) :: rest, ts)
    | .blockEnd :: ts => .ok ([], ts)
    | _ => .error .unexpectedToken

/-- The value of an entry of an indented mapping. -/
def readValue : Nat → List Token → Except YamlError (Node × List Token)
  | 0, _ => .error .unexpectedToken
  | fuel + 1, ts =>
    match ts with
    | .value :: ts =>
      if startsWith ts [.key, .value, .blockEnd] then .ok (missing, ts) else read true true fuel ts
    | ts => .ok (missing, ts)

/-- The items of a bracketed list. A key among them makes a mapping of a single entry. -/
def readFlowItems (isFirst : Bool) : Nat → List Token → Except YamlError (List Node × List Token)
  | 0, _ => .error .unexpectedToken
  | fuel + 1, ts =>
    match isFirst, ts with
    | _, .closeList :: ts => .ok ([], ts)
    | false, .comma :: ts | true, ts =>
      match ts with
      | .closeList :: ts => .ok ([], ts)
      | .key :: ts => do
        let (k, ts) ←
          if startsWith ts [.value, .comma, .closeList] then pure (missing, ts)
          else read false false fuel ts
        let (v, ts) ← readFlowValue .closeList fuel ts
        let (rest, ts) ← readFlowItems false fuel ts
        return (map [(k, v)] :: rest, ts)
      | ts => do
        let (first, ts) ← read false false fuel ts
        let (rest, ts) ← readFlowItems false fuel ts
        return (first :: rest, ts)
    | _, _ => .error .unexpectedToken

/-- The entries of a bracketed mapping. One without a colon has no value. -/
def readFlowEntries (isFirst : Bool) : Nat → List Token → Except YamlError (List (Node × Node) × List Token)
  | 0, _ => .error .unexpectedToken
  | fuel + 1, ts =>
    match isFirst, ts with
    | _, .closeMap :: ts => .ok ([], ts)
    | false, .comma :: ts | true, ts =>
      match ts with
      | .closeMap :: ts => .ok ([], ts)
      | .key :: ts => do
        let (k, ts) ←
          if startsWith ts [.value, .comma, .closeMap] then pure (missing, ts)
          else read false false fuel ts
        let (v, ts) ← readFlowValue .closeMap fuel ts
        let (rest, ts) ← readFlowEntries false fuel ts
        return ((k, v) :: rest, ts)
      | ts => do
        let (k, ts) ← read false false fuel ts
        let (rest, ts) ← readFlowEntries false fuel ts
        return ((k, missing) :: rest, ts)
    | _, _ => .error .unexpectedToken

/-- The value of a bracketed entry, in brackets that end with `close`. -/
def readFlowValue (close : Token) : Nat → List Token → Except YamlError (Node × List Token)
  | 0, _ => .error .unexpectedToken
  | fuel + 1, ts =>
    match ts with
    | .value :: ts =>
      if startsWith ts [.comma, close] then .ok (missing, ts) else read false false fuel ts
    | ts => .ok (missing, ts)

end

/-- A marked or unmarked document, and the tokens that follow it. -/
def readDocument (ts : List Token) : Except YamlError (Node × List Token) :=
  let fuel := 3 * ts.length + 3
  match ts with
  | .documentStart :: ts =>
    if startsWith ts [.documentStart, .documentEnd] then .ok (missing, ts)
    else read true false fuel ts
  | ts => read true false fuel ts

/-- The tree of a text's tokens. Nothing but end markers may follow its only document. -/
def ofTokens (ts : List Token) : Except YamlError (Option Node) :=
  if ts.isEmpty then .ok none
  else do
    let (node, rest) ← readDocument ts
    if rest.all (· = .documentEnd) then return some node else throw .secondDocument

end Node

end Chip8.Yaml
