import BlockWeave.Text.Integer
import BlockWeave.Text.Unit
import BlockWeave.Value.Basic

/-! # Reading JSON

A strict reader for documents, with names for the numbers that are not finite. When a
mapping gives a key twice, the last value counts. Every reader gives the value and
the rest of the text; the nesting depth is bounded by the length of the text. -/

namespace BlockWeave.Json

/-- The blanks of the format. -/
def isSpace (c : Char) : Bool :=
  c == ' ' || c == '\t' || c == '\n' || c == '\r'

/-- What follows the blanks at the start. -/
def skipSpace (s : Text) : Text :=
  s.dropWhile isSpace

/-- The character of an escape, behind its backslash. -/
def escape? : Text → Option (Char × Text)
  | 'u' :: s => Text.readUnit? s
  | 'n' :: s => some ('\n', s)
  | 't' :: s => some ('\t', s)
  | 'r' :: s => some ('\r', s)
  | 'b' :: s => some (Char.ofNat 8, s)
  | 'f' :: s => some (Char.ofNat 12, s)
  | '/' :: s => some ('/', s)
  | '\\' :: s => some ('\\', s)
  | '\x22' :: s => some ('\x22', s)
  | _ => none

/-- The characters of a text behind its opening quote. -/
def chars? : Nat → Text → Option (Text × Text)
  | 0, _ => none
  | _ + 1, [] => none
  | fuel + 1, c :: s =>
      if c = '\x22' then some ([], s)
      else if c = '\\' then do
        let (d, s) ← escape? s
        let (rest, s) ← chars? fuel s
        return (d :: rest, s)
      else if c.toNat < 0x20 then none
      else do
        let (rest, s) ← chars? fuel s
        return (c :: rest, s)

/-- A text behind its opening quote. -/
def text? (s : Text) : Option (String × Text) :=
  (chars? (s.length + 1) s).map fun (chars, rest) => (String.ofList chars, rest)

/-- The digits at the start, without leading zeros, and the rest. -/
def wholeDigits (s : Text) : Text × Text :=
  match s with
  | '0' :: rest => (['0'], rest)
  | s => s.span Char.isDigit

/-- The digits behind a point, and the rest. A point without digits is not taken. -/
def fractionDigits (s : Text) : Text × Text :=
  match s with
  | '.' :: rest =>
      let (digits, behind) := rest.span Char.isDigit
      if digits = [] then ([], s) else (digits, behind)
  | s => ([], s)

/-- An exponent, if there is one, and the rest. -/
def exponent? (s : Text) : Option Int × Text :=
  match s with
  | c :: rest =>
      if c = 'e' ∨ c = 'E' then
        let (negative, unsigned) :=
          match rest with
          | '-' :: rest => (true, rest)
          | '+' :: rest => (false, rest)
          | rest => (false, rest)
        let (digits, behind) := unsigned.span Char.isDigit
        if digits = [] then (none, s)
        else
          let n : Int := Text.ofDigits (digits.filterMap Text.digitValue?)
          (some (if negative then -n else n), behind)
      else (none, s)
  | [] => (none, [])

/-- A number: a real one when it has a fraction or an exponent, and an integer
otherwise. -/
def number? (s : Text) : Option (Value × Text) :=
  let (negative, unsigned) :=
    match s with
    | '-' :: s => (true, s)
    | s => (false, s)
  let (whole, behind) := wholeDigits unsigned
  let (fraction, behind) := fractionDigits behind
  let (exponent, rest) := exponent? behind
  let n := Text.ofDigits ((whole ++ fraction).filterMap Text.digitValue?)
  if whole = [] then none
  else if fraction = [] ∧ exponent = none then
    if Text.digitLimit < whole.length then none
    else some (.int (if negative then -(n : Int) else n), rest)
  else some (.float (Double.ofScaled negative n (exponent.getD 0 - fraction.length)), rest)

/-- The name of the infinite number behind its first letter. -/
def infinityRest : Text := ['n', 'f', 'i', 'n', 'i', 't', 'y']

mutual

/-- A value, blanks before it allowed. -/
def value? : Nat → Text → Option (Value × Text)
  | 0, _ => none
  | fuel + 1, s =>
      match skipSpace s with
      | '\x22' :: s => (text? s).map fun (t, s) => (.str t, s)
      | '[' :: s =>
          match skipSpace s with
          | ']' :: s => some (.list [], s)
          | s => (items? fuel s).map fun (items, s) => (.list items, s)
      | '\x7b' :: s =>
          match skipSpace s with
          | '\x7d' :: s => some (.map [], s)
          | s => (entries? fuel s).map fun (entries, s) => (.map (Fields.ofList entries), s)
      | 'n' :: s => (Text.dropLead? ['u', 'l', 'l'] s).map fun s => (.null, s)
      | 't' :: s => (Text.dropLead? ['r', 'u', 'e'] s).map fun s => (.bool true, s)
      | 'f' :: s => (Text.dropLead? ['a', 'l', 's', 'e'] s).map fun s => (.bool false, s)
      | 'N' :: s => (Text.dropLead? ['a', 'N'] s).map fun s => (.float .nan, s)
      | 'I' :: s => (Text.dropLead? infinityRest s).map fun s => (.float (.infinity false), s)
      | '-' :: 'I' :: s => (Text.dropLead? infinityRest s).map fun s => (.float (.infinity true), s)
      | s => number? s

/-- The items of a list up to its closing bracket. -/
def items? : Nat → Text → Option (List Value × Text)
  | 0, _ => none
  | fuel + 1, s => do
      let (item, s) ← value? fuel s
      match skipSpace s with
      | ']' :: s => return ([item], s)
      | ',' :: s =>
          let (items, s) ← items? fuel s
          return (item :: items, s)
      | _ => none

/-- The entries of a mapping up to its closing brace. -/
def entries? : Nat → Text → Option (List (Key × Value) × Text)
  | 0, _ => none
  | fuel + 1, s => do
      let s ← Text.dropLead? ['\x22'] (skipSpace s)
      let (name, s) ← text? s
      let s ← Text.dropLead? [':'] (skipSpace s)
      let (item, s) ← value? fuel s
      match skipSpace s with
      | '\x7d' :: s => return ([(.str name, item)], s)
      | ',' :: s =>
          let (entries, s) ← entries? fuel s
          return ((.str name, item) :: entries, s)
      | _ => none

end

/-- The value that a document writes. -/
def parse? (s : Text) : Option Value := do
  let (v, rest) ← value? (2 * s.length + 2) s
  if skipSpace rest = [] then return v else none

end BlockWeave.Json
