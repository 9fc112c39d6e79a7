import BlockWeave.Text.Quoted

/-! # UTF-8

Encoding writes a character in one to four bytes. Decoding reads one character or
one maximal piece of a broken sequence at a time. -/

namespace BlockWeave.Utf8

/-- A continuation byte that holds six bits. -/
def continuation (n : Nat) : UInt8 :=
  UInt8.ofNat (0x80 + n % 0x40)

/-- The bytes of a character. -/
def encodeChar (c : Char) : List UInt8 :=
  let n := c.toNat
  if n < 0x80 then [UInt8.ofNat n]
  else if n < 0x800 then [UInt8.ofNat (0xc0 + n / 0x40), continuation n]
  else if n < 0x10000 then
    [UInt8.ofNat (0xe0 + n / 0x1000), continuation (n / 0x40), continuation n]
  else
    [UInt8.ofNat (0xf0 + n / 0x40000), continuation (n / 0x1000), continuation (n / 0x40),
      continuation n]

/-- The bytes of a text. -/
def encode (s : Text) : List UInt8 :=
  s.flatMap encodeChar

/-- The number of bytes that follow a lead byte, and the range of the first of them.
A byte that starts no character has none. -/
def following? (lead : Nat) : Option (Nat × Nat × Nat) :=
  if 0xc2 ≤ lead ∧ lead ≤ 0xdf then some (1, 0x80, 0xbf)
  else if lead = 0xe0 then some (2, 0xa0, 0xbf)
  else if lead = 0xed then some (2, 0x80, 0x9f)
  else if 0xe1 ≤ lead ∧ lead ≤ 0xef then some (2, 0x80, 0xbf)
  else if lead = 0xf0 then some (3, 0x90, 0xbf)
  else if 0xf1 ≤ lead ∧ lead ≤ 0xf3 then some (3, 0x80, 0xbf)
  else if lead = 0xf4 then some (3, 0x80, 0x8f)
  else none

/-- The bits of a lead byte with the given number of bytes behind it. -/
def leadBits (lead count : Nat) : Nat :=
  if count = 1 then lead - 0xc0 else if count = 2 then lead - 0xe0 else lead - 0xf0

/-- Continues a character with `count` more bytes, the next of them in a range. Gives
the code, or nothing when the sequence breaks off, and the bytes not taken. -/
def continueChar (code : Nat) : Nat → Nat → Nat → List UInt8 → Option Nat × List UInt8
  | 0, _, _, bytes => (some code, bytes)
  | _ + 1, _, _, [] => (none, [])
  | count + 1, low, high, b :: bytes =>
      if low ≤ b.toNat ∧ b.toNat ≤ high then
        continueChar (code * 0x40 + (b.toNat - 0x80)) count 0x80 0xbf bytes
      else (none, b :: bytes)

theorem continueChar_length_le (code count low high : Nat) (bytes : List UInt8) :
    (continueChar code count low high bytes).2.length ≤ bytes.length := by
  induction bytes generalizing code count low high with
  | nil => cases count <;> simp [continueChar]
  | cons b bytes ih =>
      cases count with
      | zero => simp [continueChar]
      | succ count =>
          simp only [continueChar]
          split
          · have h := ih (code * 0x40 + (b.toNat - 0x80)) count 0x80 0xbf
            simp only [List.length_cons]
            omega
          · simp

/-- One character or one broken piece behind a first byte, and the bytes not taken. -/
def readChar (lead : UInt8) (bytes : List UInt8) : Option Char × List UInt8 :=
  if lead.toNat < 0x80 then (some (Char.ofNat lead.toNat), bytes)
  else
    match following? lead.toNat with
    | none => (none, bytes)
    | some (count, low, high) =>
        let (code, rest) := continueChar (leadBits lead.toNat count) count low high bytes
        (code.map Char.ofNat, rest)

theorem readChar_length_le (lead : UInt8) (bytes : List UInt8) :
    (readChar lead bytes).2.length ≤ bytes.length := by
  simp only [readChar]
  split
  · simp
  · split
    · simp
    · exact continueChar_length_le ..

/-- The characters of a sequence of bytes, a broken piece being none. -/
def read : List UInt8 → List (Option Char)
  | [] => []
  | lead :: bytes => (readChar lead bytes).1 :: read (readChar lead bytes).2
termination_by bytes => bytes.length
decreasing_by
  have h := readChar_length_le lead bytes
  simp only [List.length_cons]
  omega

/-- The text of a sequence of bytes, each broken piece as the replacement character. -/
def decode (bytes : List UInt8) : Text :=
  (read bytes).map fun c => c.getD (Char.ofNat 0xfffd)

/-- The text of a sequence of bytes without broken pieces. -/
def decode? (bytes : List UInt8) : Option Text :=
  (read bytes).mapM id

end BlockWeave.Utf8
