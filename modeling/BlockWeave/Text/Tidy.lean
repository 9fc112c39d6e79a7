import BlockWeave.Text.Basic

/-! # Tidying white space

Tidying removes the blanks at the end of every line and then shortens each run of
three or more line feeds to two. -/

namespace BlockWeave.Text

/-- The blanks that a line may not end with. -/
def isTrailingBlank (c : Char) : Bool :=
  c == ' ' || c == '\t' || c.toNat == 0x0b || c.toNat == 0x0c

/-- A text without the blanks at the end of its lines. -/
def trimLines (s : Text) : Text :=
  join ['\n'] ((splitOn '\n' s).map (trimRight isTrailingBlank))

/-- A text without line feeds that follow two others, when it comes right after
`seen` line feeds. -/
def limitFeeds : Nat → Text → Text
  | _, [] => []
  | seen, c :: s =>
      if c = '\n' then
        if seen < 2 then c :: limitFeeds (seen + 1) s else limitFeeds seen s
      else c :: limitFeeds 0 s

/-- Lines without blanks at their end, and at most one empty line in a row. -/
def tidy (s : Text) : Text :=
  limitFeeds 0 (trimLines s)

end BlockWeave.Text
