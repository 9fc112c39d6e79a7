import BlockWeave.Text.Blank

/-! # Comments around a body

A body may be wrapped in one comment, with blanks around it. The first character
that is no blank says which of the two kinds of comment is looked for. -/

namespace BlockWeave.Comment

/-- A text without a given tail, if it ends with it. -/
def dropEnd? (tail s : Text) : Option Text :=
  (Text.dropLead? tail.reverse s.reverse).map List.reverse

/-- The text between two delimiters and blanks. -/
def inside? (opening closing s : Text) : Option Text := do
  let rest ← Text.dropLead? opening (s.dropWhile Text.isBlank)
  dropEnd? closing (Text.trimRight Text.isBlank rest)

/-- The text without one comment around it. -/
def strip (s : Text) : Text :=
  let found :=
    if (s.dropWhile Text.isBlank).head? = some '<' then
      inside? ['<', '!', '-', '-'] ['-', '-', '>'] s
    else inside? ['/', '*'] ['*', '/'] s
  found.getD s

end BlockWeave.Comment
