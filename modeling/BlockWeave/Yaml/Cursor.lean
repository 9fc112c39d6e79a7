import BlockWeave.Text.Basic

/-! # A place in a document

A cursor is the text still to be read with the position of its first character.
Lines end at a line feed, a carriage return, the two together, a next-line
character, or a line or paragraph separator. -/

namespace BlockWeave.Yaml

/-- A character that ends a line. -/
def isBreak (c : Char) : Bool :=
  c == '\n' || c == '\r' || c.toNat == 0x85 || c.toNat == 0x2028 || c.toNat == 0x2029

/-- A space, or a character that ends a line. -/
def isSpaceOrBreak (c : Char) : Bool :=
  c == ' ' || isBreak c

/-- A blank, or a character that ends a line. -/
def isBlankOrBreak (c : Char) : Bool :=
  c == ' ' || c == '\t' || isBreak c

/-- The text still to be read, and where it starts. -/
structure Cursor where
  rest : Text
  line : Nat := 0
  column : Nat := 0
  index : Nat := 0

namespace Cursor

/-- The next character. -/
def peek (cursor : Cursor) : Option Char :=
  cursor.rest.head?

/-- The character some places further on. -/
def peekAt (cursor : Cursor) (distance : Nat) : Option Char :=
  cursor.rest[distance]?

/-- The text ends, or the character some places further on is in a class. -/
def endsAt (cursor : Cursor) (distance : Nat) (p : Char → Bool) : Bool :=
  match cursor.peekAt distance with
  | none => true
  | some c => p c

/-- The cursor one character further on. -/
def next (cursor : Cursor) : Cursor :=
  match cursor.rest with
  | [] => cursor
  | c :: rest =>
      let cursor := { cursor with rest, index := cursor.index + 1 }
      if c == '\r' then
        if rest.head? == some '\n' then { cursor with column := cursor.column + 1 }
        else { cursor with line := cursor.line + 1, column := 0 }
      else if isBreak c then { cursor with line := cursor.line + 1, column := 0 }
      else if c.toNat == 0xfeff then cursor
      else { cursor with column := cursor.column + 1 }

/-- The cursor some characters further on. -/
def skip (cursor : Cursor) : Nat → Cursor
  | 0 => cursor
  | count + 1 => (cursor.next).skip count

/-- The characters of a class at the cursor, and the cursor behind them. -/
def span (cursor : Cursor) (p : Char → Bool) : Text × Cursor :=
  let taken := cursor.rest.takeWhile p
  (taken, cursor.skip taken.length)

/-- The cursor behind the characters of a class. -/
def skipWhile (cursor : Cursor) (p : Char → Bool) : Cursor :=
  (cursor.span p).2

/-- The end of a line at the cursor as it counts in a text, which is nothing if no
line ends here. -/
def lineBreak (cursor : Cursor) : Text × Cursor :=
  match cursor.rest with
  | '\r' :: '\n' :: _ => (['\n'], cursor.skip 2)
  | c :: _ =>
      if c == '\n' || c == '\r' || c.toNat == 0x85 then (['\n'], cursor.next)
      else if isBreak c then ([c], cursor.next)
      else ([], cursor)
  | [] => ([], cursor)

/-- A line of three hyphens or three periods starts here. -/
def atSeparator (cursor : Cursor) : Bool :=
  (Text.startsWith ['-', '-', '-'] cursor.rest || Text.startsWith ['.', '.', '.'] cursor.rest) &&
    cursor.endsAt 3 isBlankOrBreak

end Cursor
end BlockWeave.Yaml
