import Fieldwise.Yaml.Scan.Step

/-!
The structure of YAML text: scalars, sequences and mappings. What a key or an entry has no text for
is the empty plain scalar, and so is a text without a document.
-/

namespace Fieldwise.Yaml

inductive Node where
  | scalar (text : String) (plain : Bool)
  | sequence (items : List Node)
  | mapping (members : List (Node × Node))

namespace Node

/-- What stands where nothing is written. -/
def absent : Node := scalar "" true

/-- Tokens after which nothing is written for the key or value that they follow. -/
def endsBlockPart : List Token → Bool
  | [] => true
  | .key :: _ => true
  | .value :: _ => true
  | .blockEnd :: _ => true
  | _ => false

/-- Tokens after which nothing is written for the entry that they follow. -/
def endsEntry : List Token → Bool
  | [] => true
  | .blockEntry :: _ => true
  | .blockEnd :: _ => true
  | _ => false

/-- Tokens after which nothing is written for the key or value in brackets that they follow. -/
def endsFlowPart : List Token → Bool
  | [] => true
  | .value :: _ => true
  | .flowEntry :: _ => true
  | .flowSequenceEnd :: _ => true
  | .flowMappingEnd :: _ => true
  | _ => false

mutual

/-- Reads a node. `block` allows collections without brackets, and `indentless` a sequence whose
    dashes stand in the column of the mapping around it. The first argument bounds how often a
    reader may call another. -/
def read? : Nat → (block indentless : Bool) → List Token → Option (Node × List Token)
  | 0, _, _, _ => none
  | fuel + 1, block, indentless, tokens =>
    match tokens with
    | .scalar text plain :: rest => some (scalar text plain, rest)
    | .flowSequenceStart :: rest =>
      (flowItems? fuel true rest).map fun (items, rest) => (sequence items, rest)
    | .flowMappingStart :: rest =>
      (flowMembers? fuel true rest).map fun (members, rest) => (mapping members, rest)
    | .blockSequenceStart :: rest =>
      if block then (blockItems? fuel rest).map fun (items, rest) => (sequence items, rest) else none
    | .blockMappingStart :: rest =>
      if block then (blockMembers? fuel rest).map fun (members, rest) => (mapping members, rest)
      else none
    | .blockEntry :: _ =>
      if indentless then
        (indentlessItems? fuel tokens).map fun (items, rest) => (sequence items, rest)
      else none
    | _ => none

def blockItems? : Nat → List Token → Option (List Node × List Token)
  | 0, _ => none
  | fuel + 1, tokens =>
    match tokens with
    | .blockEnd :: rest => some ([], rest)
    | .blockEntry :: rest => do
      let (item, rest) ← if endsEntry rest then some (absent, rest) else read? fuel true false rest
      let (items, rest) ← blockItems? fuel rest
      return (item :: items, rest)
    | _ => none

/-- Reads the entries of a sequence that has no end of its own. -/
def indentlessItems? : Nat → List Token → Option (List Node × List Token)
  | 0, _ => none
  | fuel + 1, tokens =>
    match tokens with
    | .blockEntry :: rest => do
      let (item, rest) ←
        if endsEntry rest || endsBlockPart rest then some (absent, rest)
        else read? fuel true false rest
      let (items, rest) ← indentlessItems? fuel rest
      return (item :: items, rest)
    | _ => some ([], tokens)

def blockMembers? : Nat → List Token → Option (List (Node × Node) × List Token)
  | 0, _ => none
  | fuel + 1, tokens =>
    match tokens with
    | .blockEnd :: rest => some ([], rest)
    | .key :: rest => do
      let (key, rest) ← if endsBlockPart rest then some (absent, rest) else read? fuel true true rest
      let (value, rest) ← blockValue? fuel rest
      let (members, rest) ← blockMembers? fuel rest
      return ((key, value) :: members, rest)
    | _ => none

def blockValue? : Nat → List Token → Option (Node × List Token)
  | 0, _ => none
  | fuel + 1, tokens =>
    match tokens with
    | .value :: rest => if endsBlockPart rest then some (absent, rest) else read? fuel true true rest
    | _ => some (absent, tokens)

/-- Reads the entries of a sequence in brackets, the first of which needs no comma before it. -/
def flowItems? : Nat → (first : Bool) → List Token → Option (List Node × List Token)
  | 0, _, _ => none
  | fuel + 1, first, tokens =>
    match tokens, first with
    | .flowSequenceEnd :: rest, _ => some ([], rest)
    | .flowEntry :: .flowSequenceEnd :: rest, false => some ([], rest)
    | .flowEntry :: rest, false => do
      let (item, rest) ← flowItem? fuel rest
      let (items, rest) ← flowItems? fuel false rest
      return (item :: items, rest)
    | _, true => do
      let (item, rest) ← flowItem? fuel tokens
      let (items, rest) ← flowItems? fuel false rest
      return (item :: items, rest)
    | _, false => none

/-- Reads one entry of a sequence in brackets, which may be a single member of a mapping. -/
def flowItem? : Nat → List Token → Option (Node × List Token)
  | 0, _ => none
  | fuel + 1, tokens =>
    match tokens with
    | .key :: rest => do
      let (key, rest) ← flowPart? fuel rest
      let (value, rest) ← flowValue? fuel rest
      return (mapping [(key, value)], rest)
    | _ => read? fuel false false tokens

/-- Reads the members of a mapping in brackets, the first of which needs no comma before it. -/
def flowMembers? : Nat → (first : Bool) → List Token → Option (List (Node × Node) × List Token)
  | 0, _, _ => none
  | fuel + 1, first, tokens =>
    match tokens, first with
    | .flowMappingEnd :: rest, _ => some ([], rest)
    | .flowEntry :: .flowMappingEnd :: rest, false => some ([], rest)
    | .flowEntry :: rest, false => do
      let (member, rest) ← flowMember? fuel rest
      let (members, rest) ← flowMembers? fuel false rest
      return (member :: members, rest)
    | _, true => do
      let (member, rest) ← flowMember? fuel tokens
      let (members, rest) ← flowMembers? fuel false rest
      return (member :: members, rest)
    | _, false => none

/-- Reads one member of a mapping in brackets; a key alone has no value. -/
def flowMember? : Nat → List Token → Option ((Node × Node) × List Token)
  | 0, _ => none
  | fuel + 1, tokens =>
    match tokens with
    | .key :: rest => do
      let (key, rest) ← flowPart? fuel rest
      let (value, rest) ← flowValue? fuel rest
      return ((key, value), rest)
    | _ => do
      let (key, rest) ← read? fuel false false tokens
      return ((key, absent), rest)

def flowPart? : Nat → List Token → Option (Node × List Token)
  | 0, _ => none
  | fuel + 1, tokens =>
    if endsFlowPart tokens then some (absent, tokens) else read? fuel false false tokens

def flowValue? : Nat → List Token → Option (Node × List Token)
  | 0, _ => none
  | fuel + 1, tokens =>
    match tokens with
    | .value :: rest => flowPart? fuel rest
    | _ => some (absent, tokens)

end

/-- Enough calls to read any node of these tokens: at most four for each token. -/
def enoughCalls (tokens : List Token) : Nat := 4 * tokens.length + 4

/-- The node of a document, before the tokens that end it. -/
def documentNode? (explicit : Bool) (tokens : List Token) : Option (Node × List Token) :=
  match tokens with
  | [] => some (absent, [])
  | .documentEnd :: _ => if explicit then some (absent, tokens) else none
  | _ => read? (enoughCalls tokens) true false tokens

/-- The node of a text that holds at most one document. -/
def ofTokens? (tokens : List Token) : Option Node := do
  let (node, rest) ← match tokens with
    | .documentStart :: rest => documentNode? true rest
    | _ => documentNode? false tokens
  if rest.all (· = .documentEnd) then some node else none

def ofText? (text : List Char) : Option Node := (tokens? text).bind ofTokens?

end Node

end Fieldwise.Yaml
