import BlockWeave.Text.Basic

/-! # Markers

A marker is a block that a comment opens and closes inside a text. It comes in
two families, told apart by the comment's delimiters, and in three shapes, told
apart by how the block ends. A marker keeps its parts, so that its text can be
put together again around another body. -/

namespace BlockWeave

/-- The comment delimiters around a marker. -/
inductive Family where
  /-- Delimited by `<!--` and `-->`. -/
  | html
  /-- Delimited by `/*<` and `>*/`. -/
  | block
  deriving Repr, DecidableEq

/-- How a marker ends. -/
inductive Shape where
  /-- An `include` without a body. -/
  | selfClosing
  /-- A body ended by a closing marker of its own. -/
  | markerPair
  /-- A body ended by a closing tag inside the same comment. -/
  | tagPair
  deriving Repr, DecidableEq

namespace Family

/-- The characters that a marker of the family starts with. -/
def opening : Family → Text
  | html => ['<', '!', '-', '-']
  | block => ['/', '*', '<']

/-- The characters that end a comment of the family. -/
def ending : Family → Text
  | html => ['-', '-', '>']
  | block => ['>', '*', '/']

/-- The closing marker that repeats a tag. -/
def closingMarker (family : Family) (tag : Text) : Text :=
  family.opening ++ '/' :: tag ++ family.ending

/-- The closing tag that ends the block and the comment together. -/
def closingTag (family : Family) (tag : Text) : Text :=
  '<' :: '/' :: tag ++ family.ending

theorem opening_ne_nil (family : Family) : family.opening ≠ [] := by
  cases family <;> simp [opening]

end Family

/-- A marker found in a text, taken apart into the pieces it is written with. -/
structure Marker where
  family : Family
  shape : Shape
  tag : Text
  /-- The attributes as written, with the blanks before them. -/
  attrText : Text
  /-- What stands between the attributes and the body. -/
  openingClose : Text
  body : Text
  closing : Text
  /-- Position of the first character in the outermost text. -/
  offset : Int
  deriving Repr, DecidableEq

namespace Marker

/-- The characters that the marker starts with. -/
def opening (m : Marker) : Text :=
  m.family.opening

/-- Everything in front of the body. -/
def head (m : Marker) : Text :=
  m.opening ++ m.tag ++ m.attrText ++ m.openingClose

/-- The marker's text around another body. -/
def rebuild (m : Marker) (body : Text) : Text :=
  m.head ++ body ++ m.closing

/-- The marker's own text. -/
def text (m : Marker) : Text :=
  m.rebuild m.body

/-- Position of the first character of the body in the outermost text. -/
def bodyOffset (m : Marker) : Int :=
  m.offset + m.head.length

/-- A marker is never empty, since it has an opening. -/
theorem text_ne_nil (m : Marker) : m.text ≠ [] := by
  simp [text, rebuild, head, opening, m.family.opening_ne_nil]

theorem text_length_pos (m : Marker) : 0 < m.text.length :=
  List.length_pos_iff.2 m.text_ne_nil

/-- The body is shorter than the marker around it. -/
theorem body_length_lt (m : Marker) : m.body.length < m.text.length := by
  have h := List.length_pos_iff.2 m.family.opening_ne_nil
  simp only [text, rebuild, head, opening, List.length_append]
  omega

end Marker
end BlockWeave
