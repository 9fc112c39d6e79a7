import BlockWeave.Error
import BlockWeave.Text.EntityName
import BlockWeave.Text.Hex
import BlockWeave.Text.Integer

/-! # Character references

Encoding writes the five characters that markup reserves as references. Decoding
reads references by code, in decimal or hexadecimal, and by name; what is no
reference stays as it is. -/

namespace BlockWeave.Text

/-- A character as markup writes it. -/
def entityFor (c : Char) : Text :=
  if c = '&' then ['&', 'a', 'm', 'p', ';']
  else if c = '<' then ['&', 'l', 't', ';']
  else if c = '>' then ['&', 'g', 't', ';']
  else if c = doubleQuote then ['&', 'q', 'u', 'o', 't', ';']
  else if c = singleQuote then ['&', '#', 'x', '2', '7', ';']
  else [c]

/-- A text with the reserved characters as references. -/
def encodeEntities (s : Text) : Text :=
  s.flatMap entityFor

/-- Codes that stand for another character than their own. -/
def replacedCodes : List (Nat × Nat) := [
  (0x00, 0xfffd), (0x0d, 0x0d), (0x80, 0x20ac), (0x81, 0x81), (0x82, 0x201a), (0x83, 0x192),
  (0x84, 0x201e), (0x85, 0x2026), (0x86, 0x2020), (0x87, 0x2021), (0x88, 0x2c6), (0x89, 0x2030),
  (0x8a, 0x160), (0x8b, 0x2039), (0x8c, 0x152), (0x8d, 0x8d), (0x8e, 0x17d), (0x8f, 0x8f),
  (0x90, 0x90), (0x91, 0x2018), (0x92, 0x2019), (0x93, 0x201c), (0x94, 0x201d), (0x95, 0x2022),
  (0x96, 0x2013), (0x97, 0x2014), (0x98, 0x2dc), (0x99, 0x2122), (0x9a, 0x161), (0x9b, 0x203a),
  (0x9c, 0x153), (0x9d, 0x9d), (0x9e, 0x17e), (0x9f, 0x178)]

/-- Codes that stand for nothing: most control characters and the noncharacters. -/
def isVoidCode (code : Nat) : Bool :=
  (1 ≤ code && code ≤ 8) || code == 0x0b || (0x0e ≤ code && code ≤ 0x1f) ||
    (0x7f ≤ code && code ≤ 0x9f) || (0xfdd0 ≤ code && code ≤ 0xfdef) ||
    code % 0x10000 == 0xfffe || code % 0x10000 == 0xffff

/-- The characters that a code stands for. -/
def ofCode (code : Nat) : Text :=
  match replacedCodes.lookup code with
  | some other => [Char.ofNat other]
  | none =>
      if (0xd800 ≤ code && code ≤ 0xdfff) || 0x10ffff < code then [Char.ofNat 0xfffd]
      else if isVoidCode code then []
      else [Char.ofNat code]

/-- The text without a semicolon at its start. -/
def skipSemicolon : Text → Text
  | ';' :: s => s
  | s => s

/-- A digit of ASCII. -/
def isAsciiDigit (c : Char) : Bool := c.isDigit

/-- Characters that a reference name may hold. -/
def isEntityNameChar (c : Char) : Bool :=
  !(c == '\t' || c == '\n' || c.toNat == 0x0c || c == ' ' || c == '<' || c == '&' || c == '#' ||
    c == ';')

/-- The value of a decimal reference. -/
def decimalCode (digits : Text) : Except Error Nat :=
  let values := digits.filterMap digitValue?
  if digitLimit < values.length then .error (.digitLimit values.length)
  else .ok (ofDigits values)

/-- What a name stands for: the characters of the name itself, or those of its
longest leading part of at least two characters that is a name, followed by the
rest. The number bounds the leading part. -/
def expandName (name : Text) : Nat → Text
  | 0 | 1 => '&' :: name
  | length + 2 =>
      match entity? (name.take (length + 2)) with
      | some chars => chars ++ name.drop (length + 2)
      | none => expandName name (length + 1)

/-- The reference behind an ampersand at the start of a text: its characters, and
the rest. -/
def readEntity? (s : Text) : Option (Except Error Text × Text) :=
  match s with
  | '#' :: s =>
      let digits := s.takeWhile isAsciiDigit
      if digits ≠ [] then
        some ((decimalCode digits).map ofCode, skipSemicolon (s.dropWhile isAsciiDigit))
      else
        match s with
        | x :: s =>
            let digits := s.takeWhile fun c => (hexValue? c).isSome
            if (x = 'x' ∨ x = 'X') ∧ digits ≠ [] then
              some (.ok (ofCode (ofHex digits)), skipSemicolon (s.drop digits.length))
            else none
        | [] => none
  | s =>
      let name := (s.takeWhile isEntityNameChar).take 32
      let rest := s.drop name.length
      if name = [] then none
      else
        match rest with
        | ';' :: rest => some (.ok (expandName (name ++ [';']) (name.length + 1)), rest)
        | rest => some (.ok (expandName name name.length), rest)

/-- The text behind the references that it writes. -/
def decodeEntities : Text → Except Error Text
  | [] => .ok []
  | c :: s =>
      if c = '&' then
        match readEntity? s with
        | some (chars, rest) =>
            if _h : rest.length < (c :: s).length then do
              let chars ← chars
              let tail ← decodeEntities rest
              return chars ++ tail
            else (decodeEntities s).map (c :: ·)
        | none => (decodeEntities s).map (c :: ·)
      else (decodeEntities s).map (c :: ·)
termination_by s => s.length
decreasing_by all_goals (simp only [List.length_cons] at *; omega)

end BlockWeave.Text
