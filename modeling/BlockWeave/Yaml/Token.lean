import BlockWeave.Yaml.Scalar

/-! # Tokens of a document

The layout of a document is turned into tokens: where collections start and end is
told by indentation or by brackets, and a key is known only when the colon behind it
is found. The scalar that may turn out to be a key is therefore remembered with its
place among the tokens. -/

namespace BlockWeave.Yaml

/-- A token. -/
inductive Token where
  | documentStart
  | documentEnd
  | blockSequenceStart
  | blockMappingStart
  | blockEnd
  | blockEntry
  | flowSequenceStart
  | flowSequenceEnd
  | flowMappingStart
  | flowMappingEnd
  | flowEntry
  | key
  | value
  /-- A name for the node behind it. -/
  | anchor (name : Text)
  /-- The node that has a name. -/
  | alias (name : Text)
  /-- A scalar, and whether it is written plain. -/
  | scalar (plain : Bool) (text : Text)
  deriving Inhabited

/-- A scalar or collection that may turn out to be a key. -/
structure PossibleKey where
  /-- Its place among the tokens. -/
  place : Nat
  /-- At this indentation nothing but a key may stand. -/
  required : Bool
  index : Nat
  line : Nat
  column : Nat

/-- The state between two tokens. -/
structure Layout where
  cursor : Cursor
  tokens : List Token := []
  /-- The depth of brackets. -/
  depth : Nat := 0
  indent : Int := -1
  /-- The indentations around the current one, the innermost first. -/
  outer : List Int := []
  /-- A key may start here. -/
  keyAllowed : Bool := true
  /-- The possible keys by the depth of brackets. -/
  keys : List (Nat × PossibleKey) := []

namespace Layout

/-- The layout with one more token. -/
def push (layout : Layout) (token : Token) : Layout :=
  { layout with tokens := layout.tokens ++ [token] }

/-- The layout with a token put in at a place. -/
def insert (layout : Layout) (place : Nat) (token : Token) : Layout :=
  { layout with tokens := layout.tokens.insertIdx place token }

/-- Leaves the blocks that are indented further than a column. -/
def unwind (layout : Layout) (column : Int) : Layout :=
  if 0 < layout.depth then layout else go layout layout.outer
where
  go (layout : Layout) : List Int → Layout
    | [] => if column < layout.indent then { layout.push .blockEnd with indent := -1, outer := [] }
        else layout
    | above :: outer =>
        if column < layout.indent then
          go { layout.push .blockEnd with indent := above, outer } outer
        else layout

/-- Enters a block at a column, unless one is there already. -/
def openBlock (layout : Layout) (column : Nat) : Option Layout :=
  if layout.indent < column then
    some { layout with indent := column, outer := layout.indent :: layout.outer }
  else none

/-- Forgets the possible key at the current depth, which must not be required. -/
def dropKey (layout : Layout) : Except Error Layout :=
  match layout.keys.lookup layout.depth with
  | some key => if key.required then refuse
      else .ok { layout with keys := layout.keys.filter fun entry => entry.1 != layout.depth }
  | none => .ok layout

/-- Forgets the possible keys that are too far back. -/
def dropStaleKeys (layout : Layout) : Except Error Layout :=
  let stale (key : PossibleKey) : Bool :=
    key.line != layout.cursor.line || 1024 < layout.cursor.index - key.index
  if layout.keys.any fun entry => stale entry.2 && entry.2.required then refuse
  else .ok { layout with keys := layout.keys.filter fun entry => !stale entry.2 }

/-- Remembers that a key may start at the cursor. -/
def saveKey (layout : Layout) : Except Error Layout := do
  if layout.keyAllowed then
    let layout ← layout.dropKey
    let key : PossibleKey := {
      place := layout.tokens.length
      required := layout.depth = 0 && layout.indent = layout.cursor.column
      index := layout.cursor.index
      line := layout.cursor.line
      column := layout.cursor.column }
    return { layout with keys := (layout.depth, key) :: layout.keys }
  else return layout

/-- The cursor behind blanks, comments and line ends. A line end outside brackets
allows a key. -/
def skipSpace : Nat → Layout → Layout
  | 0, layout => layout
  | fuel + 1, layout =>
      let cursor := layout.cursor.skipWhile (· == ' ')
      let cursor := if cursor.peek == some '#' then cursor.skipWhile fun c => !isBreak c else cursor
      match cursor.lineBreak with
      | ([], cursor) => { layout with cursor }
      | (_, cursor) =>
          skipSpace fuel { layout with cursor, keyAllowed := layout.keyAllowed || layout.depth = 0 }

/-- The end of the document, or a line that separates documents. -/
def readSeparator (layout : Layout) : Except Error Layout := do
  let layout ← (layout.unwind (-1)).dropKey
  return { layout with keyAllowed := false }

/-- An opening bracket. -/
def readOpening (layout : Layout) (token : Token) : Except Error Layout := do
  let layout ← layout.saveKey
  return { layout.push token with
    depth := layout.depth + 1, keyAllowed := true, cursor := layout.cursor.next }

/-- A closing bracket. -/
def readClosing (layout : Layout) (token : Token) : Except Error Layout := do
  let layout ← layout.dropKey
  if layout.depth = 0 then refuse
  else return { layout.push token with
    depth := layout.depth - 1, keyAllowed := false, cursor := layout.cursor.next }

/-- A comma. -/
def readComma (layout : Layout) : Except Error Layout := do
  let layout ← layout.dropKey
  return { layout.push .flowEntry with keyAllowed := true, cursor := layout.cursor.next }

/-- The layout with a block opened at the cursor, which must be a place for keys. -/
def openAtCursor (layout : Layout) (token : Token) : Except Error Layout :=
  if 0 < layout.depth then .ok layout
  else if layout.keyAllowed then
    match layout.openBlock layout.cursor.column with
    | some opened => .ok (opened.push token)
    | none => .ok layout
  else refuse

/-- The hyphen of a sequence entry. -/
def readEntry (layout : Layout) : Except Error Layout := do
  let layout ← layout.openAtCursor .blockSequenceStart
  let layout ← { layout with keyAllowed := true }.dropKey
  return { layout.push .blockEntry with cursor := layout.cursor.next }

/-- The question mark of a key. -/
def readKeyMark (layout : Layout) : Except Error Layout := do
  let layout ← layout.openAtCursor .blockMappingStart
  let layout ← { layout with keyAllowed := layout.depth = 0 }.dropKey
  return { layout.push .key with cursor := layout.cursor.next }

/-- The colon of a value: what was a possible key is one. -/
def readColon (layout : Layout) : Except Error Layout := do
  let layout ← match layout.keys.lookup layout.depth with
    | some key =>
        let layout := { layout with
          keys := layout.keys.filter fun entry => entry.1 != layout.depth
          keyAllowed := false }
        let layout := layout.insert key.place .key
        if 0 < layout.depth then pure layout
        else
          match layout.openBlock key.column with
          | some opened => pure (opened.insert key.place .blockMappingStart)
          | none => pure layout
    | none => do
        let layout ← layout.openAtCursor .blockMappingStart
        { layout with keyAllowed := layout.depth = 0 }.dropKey
  return { layout.push .value with cursor := layout.cursor.next }

/-- A character of the name of a node. -/
def isNameChar (c : Char) : Bool :=
  c.isAlphanum || c == '-' || c == '_'

/-- A character that may stand behind the name of a node. -/
def endsName (c : Char) : Bool :=
  isBlankOrBreak c || List.elem c ['?', ':', ',', ']', '\x7d', '%', '@', '\x60']

/-- The name of a node behind its sign. -/
def readName (layout : Layout) (token : Text → Token) : Except Error Layout := do
  let layout ← layout.saveKey
  let (name, cursor) := layout.cursor.next.span isNameChar
  if name = [] ∨ !cursor.endsAt 0 endsName then refuse
  else return { layout.push (token name) with keyAllowed := false, cursor }

/-- A quoted scalar. -/
def readQuotedScalar (fuel : Nat) (layout : Layout) (quote : Char) : Except Error Layout := do
  let layout ← layout.saveKey
  let (text, cursor) ← readQuoted quote fuel layout.cursor.next
  return { layout.push (.scalar false text) with keyAllowed := false, cursor }

/-- A block scalar. -/
def readBlockScalar (fuel : Nat) (layout : Layout) (folded : Bool) : Except Error Layout := do
  let layout ← { layout with keyAllowed := true }.dropKey
  let (text, cursor) ← readBlock folded layout.indent fuel layout.cursor.next
  return { layout.push (.scalar false text) with cursor }

/-- A plain scalar. -/
def readPlainScalar (fuel : Nat) (layout : Layout) : Except Error Layout := do
  let layout ← layout.saveKey
  let (text, cursor, lineEnded) :=
    readPlain (0 < layout.depth) (layout.indent + 1) fuel layout.cursor
  return { layout.push (.scalar true text) with keyAllowed := lineEnded, cursor }

/-- The characters that start no plain scalar. -/
def indicators : List Char :=
  ['-', '?', ':', ',', '[', ']', '\x7b', '\x7d', '#', '&', '*', '!', '|', '>', '\x27', '\x22', '%',
    '@', '\x60']

/-- A plain scalar starts at the cursor. -/
def atPlain (layout : Layout) (c : Char) : Bool :=
  !(isBlankOrBreak c || indicators.contains c) ||
    (!layout.cursor.endsAt 1 isBlankOrBreak &&
      (c == '-' || (layout.depth = 0 && (c == '?' || c == ':'))))

/-- One token at a cursor that stands at a character. -/
def readToken (fuel : Nat) (layout : Layout) (c : Char) : Except Error Layout :=
  let blankNext := layout.cursor.endsAt 1 isBlankOrBreak
  if layout.cursor.column = 0 && layout.cursor.atSeparator then do
    let layout ← layout.readSeparator
    let token := if c == '-' then Token.documentStart else .documentEnd
    return { layout.push token with cursor := layout.cursor.skip 3 }
  else if c == '%' && layout.cursor.column = 0 then refuse
  else if c == '[' then layout.readOpening .flowSequenceStart
  else if c == '\x7b' then layout.readOpening .flowMappingStart
  else if c == ']' then layout.readClosing .flowSequenceEnd
  else if c == '\x7d' then layout.readClosing .flowMappingEnd
  else if c == ',' then layout.readComma
  else if c == '-' && blankNext then layout.readEntry
  else if c == '?' && (0 < layout.depth || blankNext) then layout.readKeyMark
  else if c == ':' && (0 < layout.depth || blankNext) then layout.readColon
  else if c == '*' then layout.readName .alias
  else if c == '&' then layout.readName .anchor
  else if c == '|' && layout.depth = 0 then layout.readBlockScalar fuel false
  else if c == '>' && layout.depth = 0 then layout.readBlockScalar fuel true
  else if c == '\x27' || c == '\x22' then layout.readQuotedScalar fuel c
  else if layout.atPlain c then layout.readPlainScalar fuel
  else refuse

/-- All tokens of a document. -/
def readAll : Nat → Layout → Except Error (List Token)
  | 0, _ => refuse
  | fuel + 1, layout => do
      let layout ← (skipSpace (fuel + 1) layout).dropStaleKeys
      let layout := layout.unwind layout.cursor.column
      match layout.cursor.peek with
      | none => return (← layout.readSeparator).tokens
      | some c => readAll fuel (← layout.readToken (fuel + 1) c)

end Layout

/-- Characters that a document may hold. -/
def isAllowed (c : Char) : Bool :=
  let code := c.toNat
  code == 9 || code == 10 || code == 13 || (0x20 ≤ code && code ≤ 0x7e) || code == 0x85 ||
    (0xa0 ≤ code && code ≤ 0xd7ff) || (0xe000 ≤ code && code ≤ 0xfffd) ||
    0x10000 ≤ code

/-- The tokens of a document. A byte order mark at its start does not count. -/
def tokens (s : Text) : Except Error (List Token) :=
  if s.all isAllowed then
    let s := match s with
      | c :: rest => if c.toNat = 0xfeff then rest else s
      | [] => []
    Layout.readAll (s.length + 2) { cursor := { rest := s } }
  else refuse

end BlockWeave.Yaml
