import BlockWeave.Text.Hex
import BlockWeave.Text.Printable

/-! # Quoted texts in messages

A message shows a text between single quotes, or between double quotes when it
holds a single quote and no double one. Backslash, the quote in use, and the
characters without a visible form are escaped. -/

namespace BlockWeave.Text

/-- The single quote. -/
def singleQuote : Char := '\x27'

/-- The double quote. -/
def doubleQuote : Char := '\x22'

/-- The quote that a text is shown between. -/
def quoteFor (s : Text) : Char :=
  if List.elem singleQuote s && !List.elem doubleQuote s then doubleQuote else singleQuote

/-- A character as the escape of its code. -/
def codeEscape (c : Char) : Text :=
  if c.toNat < 0x100 then '\\' :: 'x' :: hexPadded hexDigit 2 c.toNat
  else if c.toNat < 0x10000 then '\\' :: 'u' :: hexPadded hexDigit 4 c.toNat
  else '\\' :: 'U' :: hexPadded hexDigit 8 c.toNat

/-- A character inside a quoted text. -/
def quotedChar (quote c : Char) : Text :=
  if c = quote ∨ c = '\\' then ['\\', c]
  else if c = '\n' then ['\\', 'n']
  else if c = '\r' then ['\\', 'r']
  else if c = '\t' then ['\\', 't']
  else if isPrintable c then [c]
  else codeEscape c

/-- A text as a message shows it. -/
def quoted (s : Text) : Text :=
  let quote := quoteFor s
  quote :: s.flatMap (quotedChar quote) ++ [quote]

end BlockWeave.Text
