import BlockWeave.Text.Basic

/-! # Blank characters

Two classes are in use: the six blanks of ASCII, by which markers are spaced,
and the blanks of all scripts, which surround values and comments. -/

namespace BlockWeave.Text

/-- Space, tab, line feed, vertical tab, form feed and carriage return. -/
def isAsciiBlank (c : Char) : Bool :=
  c == ' ' || (9 ≤ c.toNat && c.toNat ≤ 13)

/-- The blanks of all scripts, the information separators included. -/
def isBlank (c : Char) : Bool :=
  let code := c.toNat
  (9 ≤ code && code ≤ 13) || (0x1c ≤ code && code ≤ 0x20) || code == 0x85 || code == 0xa0 ||
    code == 0x1680 || (0x2000 ≤ code && code ≤ 0x200a) || code == 0x2028 || code == 0x2029 ||
    code == 0x202f || code == 0x205f || code == 0x3000

/-- A text without the blanks at its two ends. -/
def strip (s : Text) : Text :=
  trim isBlank s

end BlockWeave.Text
