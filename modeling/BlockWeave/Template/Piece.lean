import BlockWeave.Template.Lexeme

/-! # Pieces of a template

A template is text with pieces of code between braces: `{{` starts an output, `{%` a
block and `{#` a comment. A hyphen at the inner side of a delimiter takes
away the blanks on the outer side. Pieces are read from left to right; what cannot be
read is the last piece. -/

namespace BlockWeave.Template

/-- A piece of a template. -/
inductive Piece where
  | text (text : Text)
  | output (code : Code)
  | block (code : Code)
  /-- A comment or a text without code that is not closed. -/
  | unclosed
  deriving Repr, DecidableEq

/-- Line ends as line feeds. -/
def normalizeBreaks : Text → Text
  | [] => []
  | '\r' :: '\n' :: s => '\n' :: normalizeBreaks s
  | '\r' :: s => '\n' :: normalizeBreaks s
  | c :: s => c :: normalizeBreaks s

/-- The line ends between a place of a text and a later one. -/
def linesBetween (s rest : Text) : Nat :=
  s.count '\n' - rest.count '\n'

/-- The bracket that closes an opening one. -/
def closingFor : String → Option String
  | "[" => some "]"
  | "(" => some ")"
  | "\x7b" => some "\x7d"
  | _ => none

/-- The brackets that are open behind a lexeme, unless it closes the wrong one. -/
def track? (closers : List String) : Lexeme → Option (List String)
  | .symbol symbol =>
      match closingFor symbol with
      | some closer => some (closer :: closers)
      | none =>
          if ["]", ")", "\x7d"].contains symbol then
            if closers.head? = some symbol then some closers.tail else none
          else some closers
  | _ => some closers

/-- The rest behind the end of a piece of code, if it ends here. -/
def codeEnd? (ending : Text) (plus : Bool) (s : Text) : Option Text :=
  match Text.dropLead? ending s, Text.dropLead? ('-' :: ending) s with
  | some rest, _ => some rest
  | none, some rest => some (rest.dropWhile Text.isBlank)
  | none, none => if plus then Text.dropLead? ('+' :: ending) s else none

/-- The tokens of a piece of code that starts on a line, with the brackets that are
open, and the rest behind its end. Inside brackets the end is not looked for. -/
def codeFrom (ending : Text) (plus : Bool) :
    Nat → Bool → List String → Nat → Text → Code × Option Text
  | 0, _, _, line, _ => ([⟨line, .unreadable⟩], none)
  | fuel + 1, afterPoint, closers, line, s =>
      let ended := if closers = [] then codeEnd? ending plus s else none
      match ended, s with
      | some rest, _ => ([], some rest)
      | none, [] => ([⟨line, .unreadable⟩], none)
      | none, c :: tail =>
          if Text.isBlank c then
            codeFrom ending plus fuel false closers (if c = '\n' then line + 1 else line) tail
          else
            let found := do
              let (lexeme, rest) ← lexeme? afterPoint s
              return (lexeme, rest, ← track? closers lexeme)
            match found with
            | none => ([⟨line, .unreadable⟩], none)
            | some (lexeme, rest, closers) =>
                let next := match lexeme with
                  | .text _ => line + linesBetween s rest
                  | _ => line
                let (more, rest) :=
                  codeFrom ending plus fuel (lexeme == .symbol ".") closers next rest
                (⟨line, lexeme⟩ :: more, rest)

/-- The rest behind a sign at the inner side of a delimiter, and whether the blanks
before the delimiter go. -/
def sign : Text → Bool × Text
  | '-' :: s => (true, s)
  | '+' :: s => (false, s)
  | s => (false, s)

/-- The word that starts text without code. -/
def rawWord : Text := ['r', 'a', 'w']

/-- The word that ends text without code. -/
def endRawWord : Text := ['e', 'n', 'd', 'r', 'a', 'w']

/-- What follows a block that holds one word only. -/
def wordBlock? (word : Text) (plus : Bool) (s : Text) : Option Text := do
  let rest ← Text.dropLead? word (s.dropWhile Text.isBlank)
  codeEnd? ['%', '\x7d'] plus (rest.dropWhile Text.isBlank)

/-- The text up to the block that ends it, whether that block takes the blanks before
it away, and the rest. -/
def rawText? : Text → Option (Text × Bool × Text)
  | [] => none
  | c :: s =>
      let here := do
        let rest ← Text.dropLead? ['\x7b', '%'] (c :: s)
        let (strip, rest) := sign rest
        let rest ← wordBlock? endRawWord true rest
        return (strip, rest)
      match here with
      | some (strip, rest) => some ([], strip, rest)
      | none => (rawText? s).map fun (text, strip, rest) => (c :: text, strip, rest)

/-- The text before the first delimiter, and the rest from it on. -/
def splitAtCode : Text → Text × Text
  | [] => ([], [])
  | '\x7b' :: c :: s =>
      if c = '\x7b' ∨ c = '%' ∨ c = '#' then ([], '\x7b' :: c :: s)
      else
        let (before, rest) := splitAtCode (c :: s)
        ('\x7b' :: before, rest)
  | c :: s =>
      let (before, rest) := splitAtCode s
      (c :: before, rest)

/-- The pieces of a template from a line on. A comment or a text without code may be
left open at the very end. -/
def piecesFrom : Nat → Nat → Text → List Piece
  | 0, _, _ => [.unclosed]
  | fuel + 1, line, s =>
      let (before, rest) := splitAtCode s
      let lead (strip : Bool) : Piece :=
        .text (if strip then Text.trimRight Text.isBlank before else before)
      let following (rest : Text) : List Piece :=
        piecesFrom fuel (line + linesBetween s rest) rest
      let coded (make : Code → Piece) (ending : Text) (plus : Bool) (start : Text) : List Piece :=
        let (code, rest) :=
          codeFrom ending plus (start.length + 1) false [] (line + linesBetween s start) start
        make code :: (rest.map following).getD []
      match rest with
      | '\x7b' :: '#' :: rest =>
          let (strip, rest) := sign rest
          if rest = [] then [lead strip]
          else
            match Text.cutFirst? ['#', '\x7d'] rest with
            | none => [lead strip, .unclosed]
            | some (comment, rest) =>
                lead strip :: following
                  (if comment.getLast? = some '-' then rest.dropWhile Text.isBlank else rest)
      | '\x7b' :: '%' :: rest =>
          let (strip, rest) := sign rest
          match wordBlock? rawWord false rest with
          | none => lead strip :: coded .block ['%', '\x7d'] true rest
          | some [] => [lead strip]
          | some body =>
              match rawText? body with
              | none => [lead strip, .unclosed]
              | some (raw, stripRaw, rest) =>
                  let raw := if stripRaw then Text.trimRight Text.isBlank raw else raw
                  lead strip :: .text raw :: following rest
      | '\x7b' :: _ :: rest =>
          let (strip, rest) := sign rest
          lead strip :: coded .output ['\x7d', '\x7d'] false rest
      | _ => [.text before]

/-- The pieces of a template. -/
def pieces (source : Text) : List Piece :=
  let source := normalizeBreaks source
  piecesFrom (source.length + 1) 1 source

end BlockWeave.Template
