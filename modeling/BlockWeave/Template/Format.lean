import BlockWeave.Template.Datum
import BlockWeave.Text.Unit

/-! # Formatting values

A format is a text with directives: a percent sign, the key of an argument in
parentheses, flags, a width, a precision and a letter that says how to write the
argument. A directive without a key takes the next item of a tuple of arguments, or
the one argument there is. -/

namespace BlockWeave.Template.Format

/-- How an argument is to be written. -/
structure Directive where
  left : Bool := false
  plus : Bool := false
  blank : Bool := false
  alternate : Bool := false
  zero : Bool := false
  width : Option Nat := none
  precision : Option Nat := none
  letter : Char := 's'
  deriving Repr, DecidableEq

/-- The arguments of a format that are not used yet. -/
structure Supply where
  /-- The items of a tuple, or the one argument. -/
  queue : List Datum
  /-- The argument whose parts directives with a key take. -/
  mapping : Option Datum

/-- The arguments of a format. Anything that has items may be left unused. -/
def Supply.of (arguments : Datum) : Supply :=
  match arguments with
  | .tuple items => ⟨items, none⟩
  | .map _ | .list _ | .range _ _ _ | .undefined _ _ => ⟨[arguments], some arguments⟩
  | _ => ⟨[arguments], none⟩

/-- The next argument. -/
def Supply.next (supply : Supply) : Except Error (Datum × Supply) :=
  match supply.queue with
  | [] => .error .wrongType
  | d :: queue => .ok (d, { supply with queue })

/-- The part of the arguments at a key becomes the next argument. -/
def Supply.choose (supply : Supply) (key : Text) : Except Error Supply := do
  match supply.mapping with
  | some (.map fields) =>
      match Datum.field? fields (.ofText key) with
      | some d => return { supply with queue := [d] }
      | none => throw .missingKey
  | some (.undefined _ reason) => throw (.undefinedValue reason)
  | _ => throw .wrongType

/-! ## Reading a directive -/

/-- The format from a place on, and the place. -/
structure Cursor where
  rest : Text
  place : Nat

/-- The next character. -/
def Cursor.take (cursor : Cursor) : Except Error (Char × Cursor) :=
  match cursor.rest with
  | [] => .error (.invalidValue "incomplete format")
  | c :: rest => .ok (c, ⟨rest, cursor.place + 1⟩)

/-- The key up to the parenthesis that closes it, with the number of those that are
open, and the rest. -/
def key? : Nat → Text → Option (Text × Text)
  | _, [] => none
  | depth, c :: s =>
      if c = ')' ∧ depth = 0 then some ([], s)
      else
        let depth := if c = '(' then depth + 1 else if c = ')' then depth - 1 else depth
        (key? depth s).map fun (key, rest) => (c :: key, rest)

/-- A directive with the flag of a character set. -/
def flag? (directive : Directive) : Char → Option Directive
  | '-' => some { directive with left := true }
  | '+' => some { directive with plus := true }
  | ' ' => some { directive with blank := true }
  | '#' => some { directive with alternate := true }
  | '0' => some { directive with zero := true }
  | _ => none

/-- The flags of a directive, and the first character behind them. -/
def flags : Nat → Directive → Cursor → Except Error (Directive × Char × Cursor)
  | 0, _, _ => .error (.invalidValue "incomplete format")
  | fuel + 1, directive, cursor => do
      let (c, cursor) ← cursor.take
      match flag? directive c with
      | some directive => flags fuel directive cursor
      | none => return (directive, c, cursor)

/-- A number whose first digit is known, and the first character behind it. -/
def number : Nat → Nat → Cursor → Except Error (Nat × Char × Cursor)
  | 0, _, _ => .error (.invalidValue "incomplete format")
  | fuel + 1, n, cursor => do
      let (c, cursor) ← cursor.take
      if c.isDigit then number fuel (n * 10 + (c.toNat - 0x30)) cursor
      else return (n, c, cursor)

/-- The largest width. -/
def widthLimit : Nat := Decimal.twoTo 63 - 1

/-- The largest precision. -/
def precisionLimit : Nat := Decimal.twoTo 31 - 1

/-- An argument that is an integer. -/
def Supply.integer (supply : Supply) (limit : Nat) : Except Error (Int × Supply) := do
  let (d, supply) ← supply.next
  match d.integer? with
  | some n => if limit < n.natAbs then throw .outOfRange else return (n, supply)
  | none => throw .wrongType

/-- The width of a directive behind its first character, and the character behind the
width. -/
def readWidth (directive : Directive) (c : Char) (cursor : Cursor) (supply : Supply) :
    Except Error (Directive × Char × Cursor × Supply) := do
  if c = '*' then
    let (n, supply) ← supply.integer widthLimit
    let (c, cursor) ← cursor.take
    let left := directive.left || n < 0
    return ({ directive with width := some n.natAbs, left }, c, cursor, supply)
  else if c.isDigit then
    let (n, c, cursor) ← number (cursor.rest.length + 1) (c.toNat - 0x30) cursor
    if widthLimit < n then throw (.invalidValue "width too big")
    return ({ directive with width := some n }, c, cursor, supply)
  else return (directive, c, cursor, supply)

/-- The precision of a directive behind its point, and the character behind it. -/
def readPrecision (directive : Directive) (c : Char) (cursor : Cursor) (supply : Supply) :
    Except Error (Directive × Char × Cursor × Supply) := do
  if c ≠ '.' then return (directive, c, cursor, supply)
  let (c, cursor) ← cursor.take
  if c = '*' then
    let (n, supply) ← supply.integer precisionLimit
    let (c, cursor) ← cursor.take
    return ({ directive with precision := some n.toNat }, c, cursor, supply)
  else if c.isDigit then
    let (n, c, cursor) ← number (cursor.rest.length + 1) (c.toNat - 0x30) cursor
    if precisionLimit < n then throw (.invalidValue "precision too big")
    return ({ directive with precision := some n }, c, cursor, supply)
  else return ({ directive with precision := some 0 }, c, cursor, supply)

/-- The directive behind a percent sign. -/
def directive (cursor : Cursor) (supply : Supply) :
    Except Error (Directive × Cursor × Supply) := do
  let (cursor, supply) ← match cursor.rest with
    | '(' :: rest =>
        if supply.mapping.isNone then throw .wrongType
        match key? 0 rest with
        | none => throw (.invalidValue "incomplete format key")
        | some (key, rest) =>
            pure (Cursor.mk rest (cursor.place + key.length + 2), ← supply.choose key)
    | _ => pure (cursor, supply)
  let (found, c, cursor) ← flags (cursor.rest.length + 1) {} cursor
  let (found, c, cursor, supply) ← readWidth found c cursor supply
  let (found, c, cursor, supply) ← readPrecision found c cursor supply
  let (c, cursor) ← if c = 'h' ∨ c = 'l' ∨ c = 'L' then cursor.take else pure (c, cursor)
  return ({ found with letter := c }, cursor, supply)

/-! ## Writing an argument -/

/-- A text padded to the width. -/
def pad (directive : Directive) (s : Text) : Text :=
  let fill := List.replicate (directive.width.getD 0 - s.length) ' '
  if directive.left then s ++ fill else fill ++ s

/-- A number padded to the width: its sign, what comes before its digits, and its
digits. Zeros go between the two, blanks go outside. -/
def padNumber (directive : Directive) (negative : Bool) (lead digits : Text) : Text :=
  let sign : Text :=
    if negative then ['-'] else if directive.plus then ['+']
    else if directive.blank then [' '] else []
  if directive.zero && !directive.left then
    let used := sign.length + lead.length + digits.length
    sign ++ lead ++ List.replicate (directive.width.getD 0 - used) '0' ++ digits
  else pad directive (sign ++ lead ++ digits)

/-- The digits of a number in a base. -/
def baseDigits (base : Nat) (upper : Bool) (n : Nat) : Text :=
  (Nat.toDigits base n).map fun c => if upper then c.toUpper else c

/-- An integer in the base of a letter. -/
def integerText (directive : Directive) (n : Int) : Except Error Text := do
  let fill (digits : Text) : Text :=
    List.replicate (directive.precision.getD 0 - digits.length) '0' ++ digits
  let lead (mark : Char) : Text := if directive.alternate then ['0', mark] else []
  let upper := directive.letter = 'X'
  match directive.letter with
  | 'o' => return padNumber directive (n < 0) (lead 'o') (fill (baseDigits 8 false n.natAbs))
  | 'x' | 'X' =>
      return padNumber directive (n < 0) (lead directive.letter)
        (fill (baseDigits 16 upper n.natAbs))
  | _ =>
      let digits ← Datum.integerText n.natAbs
      return padNumber directive (n < 0) [] (fill digits.toList)

/-- The integer that an argument counts as for a letter. Only the decimal letters take
real numbers, whose fraction they drop. -/
def integerArgument (letter : Char) (d : Datum) : Except Error Int :=
  let decimal := letter = 'd' ∨ letter = 'i' ∨ letter = 'u'
  match d with
  | .undefined _ reason => .error (if decimal then .undefinedValue reason else .wrongType)
  | .real x =>
      if decimal then
        if x.isNaN then .error (.invalidValue "cannot convert float NaN to integer")
        else if x.isInf then .error .outOfRange
        else
          let exact := Decimal.Fraction.ofFloat x
          let n : Int := (exact.numerator / exact.denominator : Nat)
          .ok (if exact.negative then -n else n)
      else .error .wrongType
  | d =>
      match d.integer? with
      | some n => .ok n
      | none => .error .wrongType

/-- A real number in the form of a letter. -/
def realText (directive : Directive) (x : Float) : Text :=
  let raise (s : Text) : Text :=
    if directive.letter.isUpper then s.map Char.toUpper else s
  match Decimal.special? x with
  | some text =>
      let negative := text.head? = some '-'
      raise (padNumber directive negative [] (if negative then text.tail else text))
  | none =>
      let exact := Decimal.Fraction.ofFloat x
      let count := directive.precision.getD 6
      let form := match directive.letter with
        | 'e' | 'E' => Decimal.exponentForm
        | 'f' | 'F' => Decimal.fixedText
        | _ => Decimal.generalForm
      raise (padNumber directive exact.negative []
        (form directive.alternate count exact.numerator exact.denominator))

/-- The real number that an argument counts as. -/
def realArgument (d : Datum) : Except Error Float :=
  match d, d.real? with
  | .undefined _ reason, _ => .error (.undefinedValue reason)
  | _, some x => x
  | _, none => .error .wrongType

/-- The character that an argument is or has the code of. -/
def characterArgument (d : Datum) : Except Error Char :=
  match d with
  | .str s =>
      match s.toList with
      | [c] => .ok c
      | _ => .error .wrongType
  | d =>
      match d.integer? with
      | some n =>
          if 0 ≤ n ∧ n < 0x110000 then .ok (Text.charOfCode n.toNat) else .error .outOfRange
      | none => .error .wrongType

/-- A text with the characters beyond ASCII written by their codes. -/
def asciiOnly (s : Text) : Text :=
  s.flatMap fun c => if c.toNat < 0x80 then [c] else Text.codeEscape c

/-- What stands for a letter that no directive has. -/
def unsupported (letter : Char) (place : Nat) : Error :=
  let shown := if 31 ≤ letter.toNat ∧ letter.toNat < 128 then letter else '?'
  .invalidValue ("unsupported format character \x27" ++ String.ofList [shown] ++ "\x27 (0x" ++
    String.ofList (Nat.toDigits 16 letter.toNat) ++ ") at index " ++ toString place)

/-- An argument as a directive writes it. -/
def write (directive : Directive) (d : Datum) : Except Error Text := do
  let cut (s : String) : Text :=
    pad directive (match directive.precision with
      | some count => s.toList.take count
      | none => s.toList)
  match directive.letter with
  | 's' => return cut (← d.text)
  | 'r' => return cut (← d.quoted)
  | 'a' => return cut (String.ofList (asciiOnly (← d.quoted).toList))
  | 'c' => return pad directive [← characterArgument d]
  | 'd' | 'i' | 'u' | 'o' | 'x' | 'X' =>
      integerText directive (← integerArgument directive.letter d)
  | _ => return realText directive (← realArgument d)

/-- The letters of directives. -/
def letters : List Char :=
  ['s', 'r', 'a', 'c', 'd', 'i', 'u', 'o', 'x', 'X', 'e', 'E', 'f', 'F', 'g', 'G']

/-- A format from a place on, with its arguments filled in. -/
def fillFrom : Nat → Cursor → Supply → Except Error Text
  | 0, _, _ => .error (.invalidValue "incomplete format")
  | fuel + 1, cursor, supply => do
      match cursor.rest with
      | [] =>
          if supply.queue.isEmpty || supply.mapping.isSome then return [] else throw .wrongType
      | '%' :: '%' :: rest =>
          return '%' :: (← fillFrom fuel ⟨rest, cursor.place + 2⟩ supply)
      | '%' :: rest => do
          let (found, cursor, supply) ← directive ⟨rest, cursor.place + 1⟩ supply
          let (d, supply) ← supply.next
          if letters.contains found.letter then
            let text ← write found d
            return text ++ (← fillFrom fuel cursor supply)
          else throw (unsupported found.letter (cursor.place - 1))
      | c :: rest => return c :: (← fillFrom fuel ⟨rest, cursor.place + 1⟩ supply)

/-- A format with its arguments filled in. -/
def fill (format : Text) (arguments : Datum) : Except Error Text :=
  fillFrom (format.length + 1) ⟨format, 0⟩ (.of arguments)

end BlockWeave.Template.Format
