import BlockWeave.Text.Hex
import BlockWeave.Text.Integer
import BlockWeave.Text.Name
import BlockWeave.Text.Quoted
import BlockWeave.Text.Unit

/-! # Lexemes

The code in a template is cut into names, quoted texts, numbers and symbols. A number
may group its digits by single underscores. What cannot be read is a lexeme too, so
that a fault shows up where the code is used and not before. -/

namespace BlockWeave.Template

/-- A lexeme of the code in a template. -/
inductive Lexeme where
  | name (name : String)
  | text (text : String)
  | integer (value : Nat)
  /-- The number `digits * 10 ^ scale`. -/
  | real (digits : Nat) (scale : Int)
  | symbol (symbol : String)
  /-- An integer with more digits than are read. -/
  | oversized (digits : Nat)
  /-- Anything else, also the end of a template inside its code. -/
  | unreadable
  deriving Repr, DecidableEq, Inhabited

/-- A lexeme and the line it stands on. -/
structure Token where
  line : Nat
  lexeme : Lexeme
  deriving Repr, DecidableEq, Inhabited

/-- The tokens of a piece of code. -/
abbrev Code := List Token

/-! ## Numbers -/

/-- Digits behind a digit, single underscores between them, and the rest. -/
def digitTail (value? : Char → Option Nat) : Text → List Nat × Text
  | [] => ([], [])
  | '_' :: c :: s =>
      match value? c with
      | some d =>
          let (more, rest) := digitTail value? s
          (d :: more, rest)
      | none => ([], '_' :: c :: s)
  | c :: s =>
      match value? c with
      | some d =>
          let (more, rest) := digitTail value? s
          (d :: more, rest)
      | none => ([], c :: s)

/-- Decimal digits of any script, at least one, and the rest. -/
def digitSpan? : Text → Option (List Nat × Text)
  | [] => none
  | c :: s =>
      (Text.digitValue? c).map fun d =>
        let (more, rest) := digitTail Text.digitValue? s
        (d :: more, rest)

/-- The value of a digit below a base. -/
def digitBelow? (base : Nat) (c : Char) : Option Nat :=
  if base = 16 then (Text.digitValue? c).or (Text.hexValue? c)
  else (Text.hexValue? c).filter (· < base)

/-- The base that a letter behind a zero stands for. -/
def baseOf? : Char → Option Nat
  | 'b' | 'B' => some 2
  | 'o' | 'O' => some 8
  | 'x' | 'X' => some 16
  | _ => none

/-- The number that digits write in a base. -/
def ofBase (base : Nat) (digits : List Nat) : Nat :=
  digits.foldl (fun n d => n * base + d) 0

/-- A decimal integer, unless it has too many digits. -/
def decimal (digits : List Nat) : Lexeme :=
  match Text.boundedDigits digits with
  | .ok n => .integer n
  | .error _ => .oversized digits.length

/-- An integer at the start of a text, and the rest. A decimal integer other than zero
does not start with a zero. -/
def integer? : Text → Option (Lexeme × Text)
  | [] => none
  | '0' :: s =>
      let based := do
        let base ← baseOf? (← s.head?)
        match digitTail (digitBelow? base) s.tail with
        | ([], _) => none
        | (digits, rest) => some (Lexeme.integer (ofBase base digits), rest)
      let (zeros, rest) := digitTail (digitBelow? 1) s
      some (based.getD (decimal (0 :: zeros), rest))
  | c :: s =>
      if '1' ≤ c ∧ c ≤ '9' then
        let (digits, rest) := digitTail Text.digitValue? s
        some (decimal ((c.toNat - 0x30) :: digits), rest)
      else none

/-- The exponent of a real number, and the rest. -/
def exponent? : Text → Option (Int × Text)
  | [] => none
  | c :: s =>
      if c = 'e' ∨ c = 'E' then
        match s with
        | '-' :: s => (digitSpan? s).map fun (digits, rest) => (-(Text.ofDigits digits : Int), rest)
        | '+' :: s => (digitSpan? s).map fun (digits, rest) => ((Text.ofDigits digits : Int), rest)
        | s => (digitSpan? s).map fun (digits, rest) => ((Text.ofDigits digits : Int), rest)
      else none

/-- A real number at the start of a text, and the rest: digits with a fraction, with an
exponent, or with both. -/
def real? (s : Text) : Option (Lexeme × Text) := do
  let (whole, rest) ← digitSpan? s
  let fraction? := (Text.dropLead? ['.'] rest).bind digitSpan?
  match fraction? with
  | some (fraction, rest) =>
      let digits := Text.ofDigits (whole ++ fraction)
      match exponent? rest with
      | some (exponent, rest) => some (.real digits (exponent - fraction.length), rest)
      | none => some (.real digits (-(fraction.length : Int)), rest)
  | none =>
      (exponent? rest).map fun (exponent, rest) => (.real (Text.ofDigits whole) exponent, rest)

/-! ## Quoted texts -/

/-- The characters of a quoted text as they are written, and the rest behind the
closing quote. -/
def rawQuoted? (quote : Char) : Text → Option (Text × Text)
  | [] => none
  | '\\' :: c :: s => (rawQuoted? quote s).map fun (raw, rest) => ('\\' :: c :: raw, rest)
  | c :: s =>
      if c = quote then some ([], s)
      else (rawQuoted? quote s).map fun (raw, rest) => (c :: raw, rest)

/-- The characters of one-letter escapes in a quoted text. -/
def simpleEscapes : List (Char × Nat) := [
  ('\\', 0x5c), ('\x27', 0x27), ('\x22', 0x22), ('n', 0x0a), ('r', 0x0d), ('t', 0x09), ('b', 0x08),
  ('f', 0x0c), ('a', 0x07), ('v', 0x0b)]

/-- The character of a code that an escape writes in hexadecimal digits. -/
def escaped? (digits : Text) (count : Nat) : Option Char :=
  if digits.length = count ∧ digits.all (fun d => (Text.hexValue? d).isSome) ∧
      Text.ofHex digits < 0x110000 then
    some (Text.charOfCode (Text.ofHex digits))
  else none

/-- The text of the characters of a quoted text, escapes resolved. An escape that does
not exist stands for itself; behind its backslash, a character beyond ASCII is written
by its code. -/
def unescape? : Nat → Text → Option Text
  | 0, _ => none
  | _ + 1, [] => some []
  | fuel + 1, '\\' :: c :: s =>
      match simpleEscapes.lookup c, [('x', 2), ('u', 4), ('U', 8)].lookup c with
      | some code, _ => (unescape? fuel s).map (Char.ofNat code :: ·)
      | none, some count => do
          let found ← escaped? (s.take count) count
          return found :: (← unescape? fuel (s.drop count))
      | none, none =>
          if c = '\n' then unescape? fuel s
          else if '0' ≤ c ∧ c ≤ '7' then
            let digits := ((c :: s).take 3).takeWhile fun d => '0' ≤ d && d ≤ '7'
            let code := digits.foldl (fun n d => n * 8 + (d.toNat - 0x30)) 0
            (unescape? fuel ((c :: s).drop digits.length)).map (Char.ofNat code :: ·)
          else if c = 'N' then none
          else if c.toNat < 0x80 then (unescape? fuel s).map fun rest => '\\' :: c :: rest
          else (unescape? fuel s).map fun rest => Text.codeEscape c ++ rest
  | fuel + 1, c :: s => (unescape? fuel s).map (c :: ·)

/-! ## Symbols -/

/-- The symbols of the code, those that start with others first. -/
def symbols : List Text := [
  ['*', '*'], ['/', '/'], ['=', '='], ['!', '='], ['>', '='], ['<', '='], ['+'], ['-'], ['*'], ['/'],
  ['%'], ['~'], ['['], [']'], ['('], [')'], ['\x7b'], ['\x7d'], ['>'], ['<'], ['='], ['.'], [':'],
  ['|'], [','], [';']]

/-- The symbol at the start of a text, and the rest. -/
def symbolAt? (s : Text) : Option (Lexeme × Text) :=
  symbols.findSome? fun symbol =>
    (Text.dropLead? symbol s).map fun rest => (.symbol (String.ofList symbol), rest)

/-- The lexeme at the start of a code that is not blank, and the rest. The flag says
that a point comes right before, so that no real number starts here. -/
def lexeme? (afterPoint : Bool) (s : Text) : Option (Lexeme × Text) :=
  let number := if afterPoint then integer? s else (real? s).or (integer? s)
  match number, s with
  | some found, _ => some found
  | none, [] => none
  | none, c :: rest =>
      if Text.isNamePart c then
        let word := s.takeWhile Text.isNamePart
        if Text.isName word then some (.name (String.ofList word), s.drop word.length) else none
      else if c = '\x27' ∨ c = '\x22' then do
        let (raw, rest) ← rawQuoted? c rest
        let chars ← unescape? (raw.length + 1) raw
        return (.text (String.ofList chars), rest)
      else symbolAt? s

end BlockWeave.Template
