import BlockWeave.Text.Hex

/-! # String literals

A literal stands between double quotes. The quote, the backslash and the control
characters are escaped; every other character stands for itself. -/

namespace BlockWeave.Text

/-- A character as it is written inside a literal. -/
def literalChar (c : Char) : Text :=
  if c = '"' then ['\\', '"']
  else if c = '\\' then ['\\', '\\']
  else if c = '\n' then ['\\', 'n']
  else if c = '\r' then ['\\', 'r']
  else if c = '\t' then ['\\', 't']
  else if c.toNat = 0x0c then ['\\', 'f']
  else if c.toNat = 0x08 then ['\\', 'b']
  else if c.toNat < 0x20 then '\\' :: 'u' :: hexPadded hexDigit 4 c.toNat
  else [c]

/-- A text as a double-quoted literal. -/
def literal (s : Text) : Text :=
  '"' :: s.flatMap literalChar ++ ['"']

end BlockWeave.Text
