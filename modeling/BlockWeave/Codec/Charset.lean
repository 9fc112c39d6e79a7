import BlockWeave.Codec.Utf8
import BlockWeave.Error

/-! # Character sets

A character set turns texts into bytes and bytes into texts. Which ones there are is
for the surroundings to say: a build asks for a character set by its name. Three of them
are described here, the ones that every system has. -/

namespace BlockWeave

/-- A character set, as what it makes of texts and of bytes. -/
structure Charset where
  /-- The bytes of a text, if each of its characters has a code. -/
  encode? : Text → Option (List UInt8)
  /-- The text of a sequence of bytes. What is no text should become the replacement
  character; a character set may also refuse it. -/
  decode? : List UInt8 → Option Text

/-- Character sets by their names. -/
abbrev Codecs := String → Option Charset

namespace Charset

/-- The bytes of a text. -/
def encode (set : Charset) (s : Text) : Except Error (List UInt8) :=
  match set.encode? s with
  | some bytes => .ok bytes
  | none => .error .unencodable

/-- The text of a sequence of bytes. -/
def decode (set : Charset) (bytes : List UInt8) : Except Error Text :=
  match set.decode? bytes with
  | some s => .ok s
  | none => .error .undecodable

/-- All characters, in one to four bytes. -/
def utf8 : Charset where
  encode? s := some (Utf8.encode s)
  decode? bytes := some (Utf8.decode bytes)

/-- The characters below a bound, in one byte. -/
def below (bound : Nat) : Charset where
  encode? s := s.mapM fun c => if c.toNat < bound then some (UInt8.ofNat c.toNat) else none
  decode? bytes := some (bytes.map fun b =>
    if b.toNat < bound then Char.ofNat b.toNat else Char.ofNat 0xfffd)

/-- The characters of seven bits. -/
def ascii : Charset := below 0x80

/-- The characters of eight bits. -/
def latin1 : Charset := below 0x100

/-- The spellings of the names of character sets, in lower case and with underscores. -/
def spellings : List (Charset × List String) := [
  (utf8, ["utf_8", "utf8", "u8", "utf"]),
  (ascii, ["ascii", "us_ascii", "646"]),
  (latin1, ["latin_1", "latin1", "latin", "l1", "iso_8859_1", "iso8859_1", "8859", "cp819"])]

/-- The character sets that are described here. Case, and the choice between space, hyphen
and underscore, do not matter in their names. -/
def standard : Codecs := fun name =>
  let spelling := String.ofList <| name.toList.map fun c =>
    if c = '-' ∨ c = ' ' then '_' else c.toLower
  (spellings.find? fun entry => entry.2.contains spelling).map Prod.fst

end Charset
end BlockWeave
