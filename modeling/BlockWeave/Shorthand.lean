import BlockWeave.Text.Blank
import BlockWeave.Text.Literal
import BlockWeave.Text.Quoted
import BlockWeave.Text.Substitution
import BlockWeave.Text.Word

/-! # Function shorthands

Two shorthands are expanded in resolved text. A function after `/*#*/` whose body
is one comment stands for a literal of the comment's text. A function after
`/*,*/` is preceded by the list of its parameter names. -/

namespace BlockWeave.Shorthand

open Text (isBlank isWord dropLead? substitute)

/-- What follows the blanks at the start of a text. -/
def skipBlanks (s : Text) : Text :=
  s.dropWhile isBlank

/-- What follows blanks and a lead. -/
def token? (lead s : Text) : Option Text :=
  dropLead? lead (skipBlanks s)

/-- The word that starts both shorthands. -/
def functionWord : Text := ['f', 'u', 'n', 'c', 't', 'i', 'o', 'n']

/-- The comment text up to the first end that is followed, over blanks and
semicolons, by the end of the function body; and what follows the body. -/
def commentBody? : Text → Option (Text × Text)
  | [] => none
  | c :: s =>
      let here := do
        let rest ← dropLead? ['*', '/'] (c :: s)
        dropLead? ['\x7d'] (rest.dropWhile fun d => isBlank d || d == ';')
      match here with
      | some rest => some ([], rest)
      | none => (commentBody? s).map fun (body, rest) => (c :: body, rest)

/-- The comment function at the start of a text: its literal, and the rest. -/
def commentFunction? (s : Text) : Option (Text × Text) := do
  let s ← dropLead? ['/', '*', '#', '*', '/'] s
  let s ← token? functionWord s
  let s ← token? ['('] s
  let s ← token? [')'] s
  let s ← token? ['\x7b'] s
  let s ← token? ['/', '*'] s
  let (body, rest) ← commentBody? ((dropLead? ['!'] s).getD s)
  return (Text.literal body, rest)

/-- What follows the optional name of a function. -/
def skipName (s : Text) : Text :=
  let name := (skipBlanks s).dropWhile fun c => isWord c || c == '$'
  if (s.head?.any isBlank) && name.length < (skipBlanks s).length then name else s

/-- The parameter list between its parentheses without the blanks it starts with;
a list of nothing but blanks keeps its last one. -/
def parameterText (inside : Text) : Text :=
  match skipBlanks inside with
  | [] => inside.drop (inside.length - 1)
  | params => params

/-- The names of a parameter list in quotes, the rest as it stands. The flag says
that the text continues a name. -/
def quoteNames : Bool → Text → Text
  | inName, [] => if inName then [Text.singleQuote] else []
  | inName, c :: s =>
      if isBlank c || c == ',' then
        if inName then Text.singleQuote :: c :: quoteNames false s else c :: quoteNames false s
      else if inName then c :: quoteNames true s
      else Text.singleQuote :: c :: quoteNames true s

/-- A function with parameters, from its first word to the closing parenthesis:
its parameter list, and the rest. -/
def functionHead? (s : Text) : Option (Text × Text) := do
  let s ← dropLead? functionWord s
  let s ← token? ['('] (skipName s)
  let inside := s.takeWhile fun c => c != '(' && c != ')'
  let rest ← dropLead? [')'] (s.dropWhile fun c => c != '(' && c != ')')
  if inside = [] then none else return (parameterText inside, rest)

/-- The signature function at the start of a text: the list of its parameters with
the function behind it, and the rest. -/
def signatureFunction? (s : Text) : Option (Text × Text) := do
  let s ← dropLead? ['/', '*', ',', '*', '/'] s
  let s := skipBlanks s
  let (params, rest) ← functionHead? s
  let function := s.take (s.length - rest.length)
  return ('[' :: quoteNames false params ++ [']', ',', ' '] ++ function, rest)

/-- A text with both shorthands expanded, the comment functions first. -/
def expand (s : Text) : Text :=
  substitute signatureFunction? (substitute commentFunction? s)

end BlockWeave.Shorthand
