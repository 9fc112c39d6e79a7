import BlockWeave.Codec.Utf8
import BlockWeave.Text.Hex

/-! # Percent encodings

Two encodings write characters as percent signs with hexadecimal digits: the one
for URI components works on the bytes of the text, the older escape on its 16-bit
units. -/

namespace BlockWeave.Text

/-- Letters and digits of ASCII, and `-_.!~*'()`. -/
def isUriChar (c : Char) : Bool :=
  c.isAlphanum || List.elem c ['-', '_', '.', '!', '~', '*', singleQuote, '(', ')']

/-- A byte of a URI component. -/
def uriByte (b : UInt8) : Text :=
  let c := Char.ofNat b.toNat
  if isUriChar c then [c] else '%' :: hexPadded hexDigitUpper 2 b.toNat

/-- A text as a URI component. -/
def uriComponent (s : Text) : Text :=
  (Utf8.encode s).flatMap uriByte

/-- Letters and digits of ASCII, and `@*_+-./`. -/
def isEscapeChar (c : Char) : Bool :=
  c.isAlphanum || List.elem c ['@', '*', '_', '+', '-', '.', '/']

/-- A 16-bit unit of an escaped text. -/
def escapeUnit (unit : Nat) : Text :=
  if unit < 0x100 then '%' :: hexPadded hexDigitUpper 2 unit
  else '%' :: 'u' :: hexPadded hexDigitUpper 4 unit

/-- A character as its 16-bit units. -/
def units16 (c : Char) : List Nat :=
  if c.toNat < 0x10000 then [c.toNat]
  else
    let code := c.toNat - 0x10000
    [0xd800 + code / 0x400, 0xdc00 + code % 0x400]

/-- A character of an escaped text. -/
def escapeChar (c : Char) : Text :=
  if isEscapeChar c then [c] else (units16 c).flatMap escapeUnit

/-- A text in the older escape. -/
def escape (s : Text) : Text :=
  s.flatMap escapeChar

end BlockWeave.Text
