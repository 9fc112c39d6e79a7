import BlockWeave.Table
import BlockWeave.Yaml.Token

/-! # The nodes of a document

The tokens of a document are put together to a tree of nodes. A missing key, item or
value is an empty scalar. A node may be given a name, and stands for itself where the
name is used later on. The number given to the readers bounds the nesting. -/

namespace BlockWeave.Yaml

/-- A node of a document. -/
inductive Node where
  /-- A scalar, and whether it is written plain. -/
  | scalar (plain : Bool) (text : Text)
  | sequence (items : List Node)
  /-- A mapping, with its number among those of the document. -/
  | mapping (number : Nat) (entries : List (Node × Node))
  /-- A node that is given a name. -/
  | anchored (name : Text) (node : Node)
  /-- The node that has been given a name. -/
  | alias (name : Text)
  deriving Inhabited

/-- The node of what is missing. -/
def Node.empty : Node := .scalar true []

/-- A token that ends an entry of a block collection. -/
def endsBlockEntry : Option Token → Bool
  | some .key | some .value | some .blockEnd | none => true
  | _ => false

/-- A token that starts or ends an item of a block sequence. -/
def endsBlockItem : Option Token → Bool
  | some .blockEntry | some .blockEnd => true
  | _ => false

/-- A token that ends a part of an entry between brackets. -/
def endsFlowPart : Option Token → Bool
  | some .value | some .flowEntry | some .flowSequenceEnd | some .flowMappingEnd => true
  | _ => false

/-- A token that starts the node that a name is for. -/
def startsNode (inBlock inMapping : Bool) : Option Token → Bool
  | some (.scalar ..) | some .flowSequenceStart | some .flowMappingStart => true
  | some .blockSequenceStart | some .blockMappingStart => inBlock
  | some .blockEntry => inMapping
  | _ => false

/-- The tokens behind a comma, which is not needed before the first item. -/
def skipComma? (first : Bool) (tokens : List Token) : Option (List Token) :=
  if first then some tokens
  else
    match tokens with
    | .flowEntry :: tokens => some tokens
    | _ => none

mutual

/-- A node. In a mapping a sequence may stand at the indent of its key, without a token
for its start. -/
def node? : Nat → Bool → Bool → List Token → Option (Node × List Token)
  | 0, _, _, _ => none
  | fuel + 1, inBlock, inMapping, tokens =>
      match tokens with
      | .scalar plain text :: tokens => some (.scalar plain text, tokens)
      | .alias name :: tokens => some (.alias name, tokens)
      | .anchor name :: tokens =>
          if startsNode inBlock inMapping tokens.head? then
            (node? fuel inBlock inMapping tokens).map fun (node, tokens) =>
              (.anchored name node, tokens)
          else some (.anchored name .empty, tokens)
      | .flowSequenceStart :: tokens =>
          (flowItems? fuel true tokens).map fun (items, tokens) => (.sequence items, tokens)
      | .flowMappingStart :: tokens =>
          (flowEntries? fuel true tokens).map fun (entries, tokens) =>
            (.mapping 0 entries, tokens)
      | .blockSequenceStart :: tokens =>
          if inBlock then
            (blockItems? fuel tokens).map fun (items, tokens) => (.sequence items, tokens)
          else none
      | .blockMappingStart :: tokens =>
          if inBlock then
            (blockEntries? fuel tokens).map fun (entries, tokens) =>
              (.mapping 0 entries, tokens)
          else none
      | .blockEntry :: _ =>
          if inMapping then
            (flatItems? fuel tokens).map fun (items, tokens) => (.sequence items, tokens)
          else none
      | _ => none

/-- The items of a block sequence up to its end. -/
def blockItems? : Nat → List Token → Option (List Node × List Token)
  | 0, _ => none
  | fuel + 1, tokens =>
      match tokens with
      | .blockEnd :: tokens => some ([], tokens)
      | .blockEntry :: tokens => do
          let (item, tokens) ←
            if endsBlockItem tokens.head? then some (Node.empty, tokens)
            else node? fuel true false tokens
          let (items, tokens) ← blockItems? fuel tokens
          return (item :: items, tokens)
      | _ => none

/-- The items of a sequence at the indent of its key. -/
def flatItems? : Nat → List Token → Option (List Node × List Token)
  | 0, _ => none
  | fuel + 1, tokens =>
      match tokens with
      | .blockEntry :: tokens => do
          let (item, tokens) ←
            if endsBlockItem tokens.head? || endsBlockEntry tokens.head? then
              some (Node.empty, tokens)
            else node? fuel true false tokens
          let (items, tokens) ← flatItems? fuel tokens
          return (item :: items, tokens)
      | tokens => some ([], tokens)

/-- The entries of a block mapping up to its end. -/
def blockEntries? : Nat → List Token → Option (List (Node × Node) × List Token)
  | 0, _ => none
  | fuel + 1, tokens =>
      match tokens with
      | .blockEnd :: tokens => some ([], tokens)
      | .key :: tokens => do
          let (key, tokens) ←
            if endsBlockEntry tokens.head? then some (Node.empty, tokens)
            else node? fuel true true tokens
          let (value, tokens) ← blockValue? fuel tokens
          let (entries, tokens) ← blockEntries? fuel tokens
          return ((key, value) :: entries, tokens)
      | _ => none

/-- The value of a block mapping's entry. -/
def blockValue? : Nat → List Token → Option (Node × List Token)
  | 0, _ => none
  | fuel + 1, tokens =>
      match tokens with
      | .value :: tokens =>
          if endsBlockEntry tokens.head? then some (.empty, tokens) else node? fuel true true tokens
      | tokens => some (.empty, tokens)

/-- The items of a sequence between brackets; an item may be one entry of a mapping. -/
def flowItems? : Nat → Bool → List Token → Option (List Node × List Token)
  | 0, _, _ => none
  | fuel + 1, first, tokens =>
      match tokens with
      | .flowSequenceEnd :: tokens => some ([], tokens)
      | tokens => do
          match ← skipComma? first tokens with
          | .flowSequenceEnd :: tokens => return ([], tokens)
          | .key :: tokens =>
              let (key, tokens) ← flowPart? fuel tokens
              let (value, tokens) ← flowValue? fuel tokens
              let (items, tokens) ← flowItems? fuel false tokens
              return (.mapping 0 [(key, value)] :: items, tokens)
          | tokens =>
              let (item, tokens) ← node? fuel false false tokens
              let (items, tokens) ← flowItems? fuel false tokens
              return (item :: items, tokens)

/-- The entries of a mapping between braces. -/
def flowEntries? : Nat → Bool → List Token → Option (List (Node × Node) × List Token)
  | 0, _, _ => none
  | fuel + 1, first, tokens =>
      match tokens with
      | .flowMappingEnd :: tokens => some ([], tokens)
      | tokens => do
          match ← skipComma? first tokens with
          | .flowMappingEnd :: tokens => return ([], tokens)
          | .key :: tokens =>
              let (key, tokens) ← flowPart? fuel tokens
              let (value, tokens) ← flowValue? fuel tokens
              let (entries, tokens) ← flowEntries? fuel false tokens
              return ((key, value) :: entries, tokens)
          | tokens =>
              let (key, tokens) ← node? fuel false false tokens
              let (entries, tokens) ← flowEntries? fuel false tokens
              return ((key, .empty) :: entries, tokens)

/-- A key or a value between brackets, which may be missing. -/
def flowPart? : Nat → List Token → Option (Node × List Token)
  | 0, _ => none
  | fuel + 1, tokens =>
      if endsFlowPart tokens.head? then some (.empty, tokens) else node? fuel false false tokens

/-- The value of an entry between brackets. -/
def flowValue? : Nat → List Token → Option (Node × List Token)
  | 0, _ => none
  | fuel + 1, tokens =>
      match tokens with
      | .value :: tokens => flowPart? fuel tokens
      | tokens => some (.empty, tokens)

end

/-- What is known of the nodes of a document so far. -/
structure Composer where
  /-- The number of the next mapping. -/
  next : Nat := 0
  /-- The nodes by their names; a node that is not complete is not there yet. -/
  nodes : Table Text (Option Node) := []

namespace Node

mutual

/-- The node with its mappings numbered and its names replaced by what they stand for. A
name is given once, and not used inside its own node. -/
def compose : Node → StateT Composer (Except Error) Node
  | scalar plain text => return scalar plain text
  | sequence items => return sequence (← composeItems items)
  | mapping _ entries => do
      let number := (← get).next
      modify fun composer => { composer with next := number + 1 }
      return mapping number (← composeEntries entries)
  | anchored name node => do
      if (← get).nodes.has name then throw .malformedData
      modify fun composer => { composer with nodes := composer.nodes.put name none }
      let node ← compose node
      modify fun composer => { composer with nodes := composer.nodes.put name (some node) }
      return node
  | .alias name => do
      match ((← get).nodes.get? name).join with
      | some node => return node
      | none => throw .malformedData

/-- The items of a sequence, one after the other. -/
def composeItems : List Node → StateT Composer (Except Error) (List Node)
  | [] => return []
  | item :: items => do
      let item ← compose item
      return item :: (← composeItems items)

/-- The keys and values of a mapping, one after the other. -/
def composeEntries : List (Node × Node) → StateT Composer (Except Error) (List (Node × Node))
  | [] => return []
  | (key, node) :: entries => do
      let key ← compose key
      let node ← compose node
      return (key, node) :: (← composeEntries entries)

end

end Node

/-- The tokens without those that end a document at their start. -/
def skipDocumentEnds : List Token → List Token
  | .documentEnd :: tokens => skipDocumentEnds tokens
  | tokens => tokens

/-- The node of the only document of a stream. -/
def Node.ofTokens? (tokens : List Token) : Option Node := do
  let (node, rest) ← match tokens with
    | [] | [.documentStart] => some (Node.empty, [])
    | .documentStart :: .documentStart :: _ => none
    | .documentStart :: .documentEnd :: rest => some (Node.empty, rest)
    | .documentStart :: body => node? (3 * tokens.length + 3) true false body
    | body => node? (3 * tokens.length + 3) true false body
  if (skipDocumentEnds rest).isEmpty then return node else none

end BlockWeave.Yaml
