import BlockWeave.Error
import BlockWeave.Text.Unit
import BlockWeave.Yaml.Cursor

/-! # Scalars of a document

A scalar is written plain, between quotes, or as an indented block. Lines of a
plain or quoted scalar are folded: one line end counts as a space, and of several
all but the first count. The number given to the readers bounds their steps. -/

namespace BlockWeave.Yaml

/-- What is read is no part of a document. -/
def refuse {α : Type} : Except Error α :=
  .error .malformedData

/-- The line ends between two lines of a folded scalar, after the first of them. -/
def foldBreaks (first : Text) (others : Text) : Text :=
  if first ≠ ['\n'] then first ++ others
  else if others = [] then [' ']
  else others

/-- The line ends at the cursor of a plain scalar, spaces between them left out, or
nothing when a separator line stops the scalar. -/
def plainBreaks : Nat → Cursor → Option Text × Cursor
  | 0, cursor => (some [], cursor)
  | fuel + 1, cursor =>
      if cursor.atSeparator && cursor.column == 0 then (none, cursor)
      else
        let cursor := cursor.skipWhile (· == ' ')
        match cursor.lineBreak with
        | ([], cursor) => (some [], cursor)
        | (lineEnd, cursor) =>
            let (others, cursor) := plainBreaks fuel cursor
            (others.map (lineEnd ++ ·), cursor)

/-- The spaces between two pieces of a plain scalar as they count, and whether a line
ended. Nothing is given when the scalar cannot go on. -/
def plainGap (fuel : Nat) (cursor : Cursor) : Option Text × Cursor × Bool :=
  let (spaces, cursor) := cursor.span (· == ' ')
  match cursor.lineBreak with
  | ([], cursor) => (if spaces = [] then none else some spaces, cursor, false)
  | (first, cursor) =>
      let (others, cursor) := plainBreaks fuel cursor
      (others.map (foldBreaks first), cursor, true)

/-- The characters that may not stand in a plain scalar inside brackets. -/
def isFlowIndicator (c : Char) : Bool :=
  List.elem c [',', '[', ']', '\x7b', '\x7d']

/-- The number of characters up to the end of a piece of a plain scalar. -/
def plainLength (inFlow : Bool) : Text → Nat
  | [] => 0
  | c :: rest =>
      let stops :=
        isBlankOrBreak c ||
          (c == ':' && (rest.head?.all fun d => isBlankOrBreak d || (inFlow && isFlowIndicator d))) ||
          (inFlow && (isFlowIndicator c || c == '?'))
      if stops then 0 else plainLength inFlow rest + 1

/-- A plain scalar: its text, the cursor behind it, and whether a line ended at its
end. -/
def readPlain (inFlow : Bool) (indent : Int) : Nat → Cursor → Text × Cursor × Bool
  | 0, cursor => ([], cursor, false)
  | fuel + 1, cursor =>
      let length := if cursor.peek == some '#' then 0 else plainLength inFlow cursor.rest
      if length = 0 then ([], cursor, false)
      else
        let piece := cursor.rest.take length
        match plainGap fuel (cursor.skip length) with
        | (none, cursor, lineEnded) => (piece, cursor, lineEnded)
        | (some gap, cursor, lineEnded) =>
            if cursor.peek == some '#' || (!inFlow && cursor.column < indent) then
              (piece, cursor, lineEnded)
            else
              match readPlain inFlow indent fuel cursor with
              | ([], cursor, _) => (piece, cursor, lineEnded)
              | (more, cursor, lineEnded) => (piece ++ gap ++ more, cursor, lineEnded)

/-- The line ends inside a quoted scalar, blanks between them left out. A separator
line is not allowed. -/
def quotedBreaks : Nat → Cursor → Except Error (Text × Cursor)
  | 0, _ => refuse
  | fuel + 1, cursor =>
      if cursor.column == 0 && cursor.atSeparator then refuse
      else
        let cursor := cursor.skipWhile fun c => c == ' ' || c == '\t'
        match cursor.lineBreak with
        | ([], cursor) => .ok ([], cursor)
        | (lineEnd, cursor) => do
            let (others, cursor) ← quotedBreaks fuel cursor
            return (lineEnd ++ others, cursor)

/-- The characters of one-letter escapes. -/
def escapes : List (Char × Nat) := [
  ('0', 0x00), ('a', 0x07), ('b', 0x08), ('t', 0x09), ('\t', 0x09), ('n', 0x0a), ('v', 0x0b),
  ('f', 0x0c), ('r', 0x0d), ('e', 0x1b), (' ', 0x20), ('\x22', 0x22), ('\\', 0x5c), ('/', 0x2f),
  ('N', 0x85), ('_', 0xa0), ('L', 0x2028), ('P', 0x2029)]

/-- The numbers of hexadecimal digits of escapes by whole codes. -/
def codeEscapes : List (Char × Nat) := [('x', 2), ('u', 4), ('U', 8)]

/-- The characters of an escape behind its backslash. -/
def readEscape (fuel : Nat) (cursor : Cursor) : Except Error (Text × Cursor) := do
  let some c := cursor.peek | refuse
  match escapes.lookup c, codeEscapes.lookup c with
  | some code, _ => return ([Char.ofNat code], cursor.next)
  | none, some count =>
      let digits := cursor.next.rest.take count
      if digits.length = count ∧ digits.all fun d => (Text.hexValue? d).isSome then
        let code := Text.ofHex digits
        if 0x110000 ≤ code then throw .noSuchCharacter
        return ([Text.charOfCode code], cursor.next.skip count)
      else refuse
  | none, none => if isBreak c then quotedBreaks fuel cursor.lineBreak.2 else refuse

/-- The characters between the quotes of a scalar, and the cursor behind the closing
quote. -/
def readQuoted (quote : Char) : Nat → Cursor → Except Error (Text × Cursor)
  | 0, _ => refuse
  | fuel + 1, cursor => do
      let some c := cursor.peek | refuse
      if c == quote then
        if quote == '\x27' && cursor.peekAt 1 == some quote then
          let (more, cursor) ← readQuoted quote fuel (cursor.skip 2)
          return (quote :: more, cursor)
        else return ([], cursor.next)
      else if c == '\\' && quote == '\x22' then
        let (chars, cursor) ← readEscape fuel cursor.next
        let (more, cursor) ← readQuoted quote fuel cursor
        return (chars ++ more, cursor)
      else if isBlankOrBreak c then
        let (blanks, cursor) := cursor.span fun d => d == ' ' || d == '\t'
        match cursor.lineBreak with
        | ([], cursor) =>
            let (more, cursor) ← readQuoted quote fuel cursor
            return (blanks ++ more, cursor)
        | (first, cursor) =>
            let (others, cursor) ← quotedBreaks fuel cursor
            let (more, cursor) ← readQuoted quote fuel cursor
            return (foldBreaks first others ++ more, cursor)
      else
        let (more, cursor) ← readQuoted quote fuel cursor.next
        return (c :: more, cursor)

/-- What is done with the line ends at the end of a block scalar. -/
inductive Chomping where
  | clip
  | strip
  | keep
  deriving DecidableEq

/-- The indicators behind the mark of a block scalar, in either order. -/
def readIndicators (cursor : Cursor) : Except Error (Chomping × Option Nat × Cursor) :=
  let chomping? (cursor : Cursor) : Option Chomping × Cursor :=
    match cursor.peek with
    | some '+' => (some .keep, cursor.next)
    | some '-' => (some .strip, cursor.next)
    | _ => (none, cursor)
  let increment? (cursor : Cursor) : Option Nat × Cursor :=
    match cursor.peek with
    | some c => if c.isDigit then (some (c.toNat - 0x30), cursor.next) else (none, cursor)
    | none => (none, cursor)
  let (before, cursor) := chomping? cursor
  let (increment, cursor) := increment? cursor
  let (after, cursor) := if before.isNone then chomping? cursor else (none, cursor)
  if increment == some 0 || !cursor.endsAt 0 isSpaceOrBreak then refuse
  else .ok ((before.or after).getD .clip, increment, cursor)

/-- The cursor behind the rest of the line, which may hold a comment only. -/
def skipHeadLine (cursor : Cursor) : Except Error Cursor :=
  let cursor := cursor.skipWhile (· == ' ')
  let cursor := if cursor.peek == some '#' then cursor.skipWhile fun c => !isBreak c else cursor
  if cursor.endsAt 0 isBreak then .ok cursor.lineBreak.2 else refuse

/-- The empty lines before the first line of a block scalar, and the widest column
reached in them. -/
def blockStart : Nat → Cursor → Nat → Text × Nat × Cursor
  | 0, cursor, widest => ([], widest, cursor)
  | fuel + 1, cursor, widest =>
      let cursor := cursor.skipWhile (· == ' ')
      let widest := max widest cursor.column
      match cursor.lineBreak with
      | ([], cursor) => ([], widest, cursor)
      | (lineEnd, cursor) =>
          let (others, widest, cursor) := blockStart fuel cursor widest
          (lineEnd ++ others, widest, cursor)

/-- The cursor behind the spaces at the start of a line, up to a column. -/
def skipIndent (indent : Nat) : Nat → Cursor → Cursor
  | 0, cursor => cursor
  | fuel + 1, cursor =>
      if cursor.column < indent && cursor.peek == some ' ' then skipIndent indent fuel cursor.next
      else cursor

/-- The empty lines at the cursor, and the cursor behind the indentation. -/
def blockBreaks (indent : Nat) : Nat → Cursor → Text × Cursor
  | 0, cursor => ([], cursor)
  | fuel + 1, cursor =>
      let cursor := skipIndent indent indent cursor
      match cursor.lineBreak with
      | ([], cursor) => ([], cursor)
      | (lineEnd, cursor) =>
          let (others, cursor) := blockBreaks indent fuel cursor
          (lineEnd ++ others, cursor)

/-- The lines of a block scalar after empty lines: the text, the last line end, the
empty lines behind it, and the cursor. -/
def blockLines (folded : Bool) (indent : Nat) :
    Nat → Text → Cursor → Text × Text × Text × Cursor
  | 0, breaks, cursor => ([], [], breaks, cursor)
  | fuel + 1, breaks, cursor =>
      if cursor.column ≠ indent ∨ cursor.peek.isNone then ([], [], breaks, cursor)
      else
        let leading := cursor.peek.any fun c => c != ' ' && c != '\t'
        let (line, cursor) := cursor.span fun c => !isBreak c
        let (lineEnd, cursor) := cursor.lineBreak
        let (after, cursor) := blockBreaks indent fuel cursor
        if cursor.column = indent ∧ cursor.peek.isSome then
          let folds :=
            folded && lineEnd == ['\n'] && leading && cursor.peek.any fun c => c != ' ' && c != '\t'
          let joint := if folds then if after = [] then [' '] else [] else lineEnd
          let (more, lastEnd, last, cursor) := blockLines folded indent fuel after cursor
          (breaks ++ line ++ joint ++ more, lastEnd, last, cursor)
        else (breaks ++ line, lineEnd, after, cursor)

/-- A block scalar behind its mark, below a given indentation. -/
def readBlock (folded : Bool) (parent : Int) (fuel : Nat) (cursor : Cursor) :
    Except Error (Text × Cursor) := do
  let (chomping, increment, cursor) ← readIndicators cursor
  let cursor ← skipHeadLine cursor
  let least := (max (parent + 1) 1).toNat
  let (breaks, indent, cursor) :=
    match increment with
    | some n =>
        let indent := least + n - 1
        let (breaks, cursor) := blockBreaks indent fuel cursor
        (breaks, indent, cursor)
    | none =>
        let (breaks, widest, cursor) := blockStart fuel cursor 0
        (breaks, max least widest, cursor)
  let (text, lastEnd, last, cursor) := blockLines folded indent fuel breaks cursor
  return match chomping with
    | .strip => (text, cursor)
    | .clip => (text ++ lastEnd, cursor)
    | .keep => (text ++ lastEnd ++ last, cursor)

end BlockWeave.Yaml
