import BlockWeave.Text.Hex

/-! # Characters written as 16-bit units

An escape may write a character as the four hexadecimal digits of a 16-bit unit. A
character beyond the first plane takes two such escapes, one for each half. A half
without its partner is no character, and no text has it. -/

namespace BlockWeave.Text

/-- Four hexadecimal digits, and the rest. -/
def unit? (s : Text) : Option (Nat × Text) :=
  match s with
  | a :: b :: c :: d :: rest =>
      if [a, b, c, d].all fun x => (hexValue? x).isSome then
        some (ofHex [a, b, c, d], rest)
      else none
  | _ => none

/-- A unit is one half of a pair. -/
def isHalf (unit : Nat) : Bool :=
  0xd800 ≤ unit && unit < 0xe000

/-- A character for a code that is written alone. Half a pair has none, so one for private use
stands in for it. -/
def charOfCode (code : Nat) : Char :=
  Char.ofNat (if isHalf code then 0x100000 + code else code)

/-- The character of a 16-bit unit, which may be the first half of a pair. -/
def unitChar? (unit : Nat) (s : Text) : Option (Char × Text) :=
  if isHalf unit then do
    let rest ← dropLead? ['\\', 'u'] s
    let (low, rest) ← unit? rest
    if unit < 0xdc00 ∧ 0xdc00 ≤ low ∧ low < 0xe000 then
      return (Char.ofNat (0x10000 + (unit - 0xd800) * 0x400 + (low - 0xdc00)), rest)
    else none
  else some (Char.ofNat unit, s)

/-- The character of the digits of an escape and of the escape behind it, if it needs
that one too. -/
def readUnit? (s : Text) : Option (Char × Text) := do
  let (unit, rest) ← unit? s
  unitChar? unit rest

end BlockWeave.Text
