import BlockWeave.Template.Operation
import BlockWeave.Template.Piece

/-! # Expressions of a template

An expression is read from tokens by precedence: a conditional expression binds
loosest, then `or`, `and`, `not`, comparisons, sums, joined texts, products, powers
and signs; subscripts, calls and filters bind tightest. The number given to the
readers bounds the nesting. A reader that fails says so at the token it stopped at. -/

namespace BlockWeave.Template

/-- How an argument is passed. -/
inductive Passing where
  | placed
  /-- The items of the argument are passed by place. -/
  | spread
  | named (name : String)
  /-- The entries of the argument are passed by name. -/
  | spreadNamed
  deriving Repr, DecidableEq

/-- An expression. -/
inductive Expr where
  | constant (value : Datum)
  | name (name : String)
  | list (items : List Expr)
  | tuple (items : List Expr)
  | mapping (entries : List (Expr × Expr))
  | dot (owner : Expr) (name : String)
  | item (owner key : Expr)
  | slice (owner start stop step : Expr)
  | call (function : Expr) (arguments : List (Passing × Expr))
  | filter (name : String) (subject : Expr) (arguments : List (Passing × Expr))
  | test (name : String) (subject : Expr) (arguments : List (Passing × Expr))
  | sign (negative : Bool) (operand : Expr)
  | not (operand : Expr)
  | and (left right : Expr)
  | or (left right : Expr)
  | binary (operator : Operator) (left right : Expr)
  | join (operands : List Expr)
  | compare (first : Expr) (others : List (Comparison × Expr))
  /-- The first value if the test holds, else the second one. -/
  | choose (test yes no : Expr)
  /-- A value if the test holds; the line is for the message when it does not. -/
  | provided (line : Nat) (test yes : Expr)
  deriving Inhabited

/-! ## Tokens -/

/-- What is wrong with a code that cannot be read from a token on. -/
def unexpected : Code → Error
  | ⟨_, .oversized digits⟩ :: _ => .digitLimit digits
  | _ => .malformedTemplate

/-- The first lexeme of a code. -/
def lexemeOf : Code → Option Lexeme
  | [] => none
  | token :: _ => some token.lexeme

/-- The line of the first token of a code. -/
def lineOf : Code → Nat
  | [] => 0
  | token :: _ => token.line

/-- A code starts with a symbol. -/
def startsSymbol (symbol : String) (code : Code) : Bool :=
  lexemeOf code == some (.symbol symbol)

/-- A code starts with a word. -/
def startsWord (word : String) (code : Code) : Bool :=
  lexemeOf code == some (.name word)

/-- The code behind a symbol. -/
def expectSymbol (symbol : String) (code : Code) : Except Error Code :=
  if startsSymbol symbol code then .ok code.tail else .error (unexpected code)

/-- The code behind a word. -/
def expectWord (word : String) (code : Code) : Except Error Code :=
  if startsWord word code then .ok code.tail else .error (unexpected code)

/-- A name, and the code behind it. -/
def expectName : Code → Except Error (String × Code)
  | ⟨_, .name name⟩ :: code => .ok (name, code)
  | code => .error (unexpected code)

/-- Nothing is left of a code. -/
def expectEnd (code : Code) : Except Error Unit :=
  if code.isEmpty then .ok () else .error (unexpected code)

/-- A comma-separated run without brackets may end here. -/
def endsTuple (code : Code) : Bool :=
  code.isEmpty || startsSymbol ")" code

/-- The operator of a sum. -/
def sumOperator? : Code → Option (Operator × Code)
  | ⟨_, .symbol "+"⟩ :: rest => some (.add, rest)
  | ⟨_, .symbol "-"⟩ :: rest => some (.subtract, rest)
  | _ => none

/-- The operator of a product. -/
def productOperator? : Code → Option (Operator × Code)
  | ⟨_, .symbol "*"⟩ :: rest => some (.multiply, rest)
  | ⟨_, .symbol "/"⟩ :: rest => some (.divide, rest)
  | ⟨_, .symbol "//"⟩ :: rest => some (.floorDivide, rest)
  | ⟨_, .symbol "%"⟩ :: rest => some (.modulo, rest)
  | _ => none

/-- The operator of a comparison. -/
def comparison? : Code → Option (Comparison × Code)
  | ⟨_, .symbol "=="⟩ :: rest => some (.equal, rest)
  | ⟨_, .symbol "!="⟩ :: rest => some (.notEqual, rest)
  | ⟨_, .symbol "<"⟩ :: rest => some (.less, rest)
  | ⟨_, .symbol "<="⟩ :: rest => some (.lessEqual, rest)
  | ⟨_, .symbol ">"⟩ :: rest => some (.greater, rest)
  | ⟨_, .symbol ">="⟩ :: rest => some (.greaterEqual, rest)
  | ⟨_, .name "in"⟩ :: rest => some (.member, rest)
  | ⟨_, .name "not"⟩ :: ⟨_, .name "in"⟩ :: rest => some (.notMember, rest)
  | _ => none

/-- The constant that a word stands for. -/
def constantWord? : String → Option Datum
  | "true" | "True" => some (.bool true)
  | "false" | "False" => some (.bool false)
  | "none" | "None" => some .null
  | _ => none

/-- Quoted texts that follow each other are one text. -/
def adjacentTexts : Code → String × Code
  | ⟨_, .text text⟩ :: code =>
      let (more, code) := adjacentTexts code
      (text ++ more, code)
  | code => ("", code)

/-- The points and names behind the name of a filter or a test. -/
def dottedName : Nat → String → Code → Except Error (String × Code)
  | 0, _, code => .error (unexpected code)
  | fuel + 1, name, code => do
      if startsSymbol "." code then
        let (part, code) ← expectName code.tail
        dottedName fuel (name ++ "." ++ part) code
      else return (name, code)

/-- A test without parentheses takes what starts here as its argument. -/
def startsArgument (code : Code) : Bool :=
  match lexemeOf code with
  | some (.name name) => !(["else", "or", "and"].contains name)
  | some (.text _) | some (.integer _) | some (.real _ _) => true
  | some (.symbol symbol) => symbol = "[" || symbol = "\x7b"
  | _ => false

/-- Arguments in the order in which they are evaluated. -/
def evaluationOrder (arguments : List (Passing × Expr)) : List (Passing × Expr) :=
  let isNamed : Passing → Bool
    | .named _ => true
    | _ => false
  arguments.filter (fun argument => argument.1 = .placed) ++
    arguments.filter (fun argument => argument.1 = .spread) ++
    arguments.filter (fun argument => isNamed argument.1) ++
    arguments.filter (fun argument => argument.1 = .spreadNamed)

/-- An argument may follow others: nothing follows the entries of an argument, and only
named ones follow named ones or the items of an argument. -/
def mayFollow (arguments : List (Passing × Expr)) (passing : Passing) : Bool :=
  let has (p : Passing → Bool) : Bool := arguments.any fun argument => p argument.1
  match passing with
  | .placed => arguments.all fun argument => argument.1 = .placed
  | .spread => !has (· = .spread) && !has (· = .spreadNamed)
  | .named _ => !has (· = .spreadNamed)
  | .spreadNamed => !has (· = .spreadNamed)

/-- How the argument is passed that starts here, and the code of its value. -/
def passing : Code → Passing × Code
  | ⟨_, .symbol "*"⟩ :: code => (.spread, code)
  | ⟨_, .symbol "**"⟩ :: code => (.spreadNamed, code)
  | ⟨_, .name name⟩ :: ⟨_, .symbol "="⟩ :: code => (.named name, code)
  | code => (.placed, code)

/-! ## Readers -/

mutual

/-- An expression with its conditional parts. -/
def readExpr : Nat → Code → Except Error (Expr × Code)
  | 0, code => .error (unexpected code)
  | fuel + 1, code => do
      let line := lineOf code
      let (e, code) ← readOr fuel code
      readConditions fuel line e code

/-- The conditions behind an expression that starts on a line. -/
def readConditions : Nat → Nat → Expr → Code → Except Error (Expr × Code)
  | 0, _, _, code => .error (unexpected code)
  | fuel + 1, line, yes, code =>
      if startsWord "if" code then do
        let (test, code) ← readOr fuel code.tail
        if startsWord "else" code then
          let (no, code) ← readExpr fuel code.tail
          readConditions fuel (lineOf code) (.choose test yes no) code
        else readConditions fuel (lineOf code) (.provided line test yes) code
      else .ok (yes, code)

/-- Expressions joined by `or`. -/
def readOr : Nat → Code → Except Error (Expr × Code)
  | 0, code => .error (unexpected code)
  | fuel + 1, code => do
      let (e, code) ← readAnd fuel code
      readDisjuncts fuel e code

/-- The further parts of a disjunction. -/
def readDisjuncts : Nat → Expr → Code → Except Error (Expr × Code)
  | 0, _, code => .error (unexpected code)
  | fuel + 1, left, code =>
      if startsWord "or" code then do
        let (right, code) ← readAnd fuel code.tail
        readDisjuncts fuel (.or left right) code
      else .ok (left, code)

/-- Expressions joined by `and`. -/
def readAnd : Nat → Code → Except Error (Expr × Code)
  | 0, code => .error (unexpected code)
  | fuel + 1, code => do
      let (e, code) ← readNot fuel code
      readConjuncts fuel e code

/-- The further parts of a conjunction. -/
def readConjuncts : Nat → Expr → Code → Except Error (Expr × Code)
  | 0, _, code => .error (unexpected code)
  | fuel + 1, left, code =>
      if startsWord "and" code then do
        let (right, code) ← readNot fuel code.tail
        readConjuncts fuel (.and left right) code
      else .ok (left, code)

/-- A comparison behind any number of `not`. -/
def readNot : Nat → Code → Except Error (Expr × Code)
  | 0, code => .error (unexpected code)
  | fuel + 1, code => do
      if startsWord "not" code then
        let (e, code) ← readNot fuel code.tail
        return (.not e, code)
      else
        let (first, code) ← readSum fuel code
        let (others, code) ← readComparisons fuel code
        return (if others.isEmpty then first else .compare first others, code)

/-- The comparisons behind an expression. -/
def readComparisons : Nat → Code → Except Error (List (Comparison × Expr) × Code)
  | 0, code => .error (unexpected code)
  | fuel + 1, code =>
      match comparison? code with
      | none => .ok ([], code)
      | some (comparison, code) => do
          let (e, code) ← readSum fuel code
          let (others, code) ← readComparisons fuel code
          return ((comparison, e) :: others, code)

/-- A sum. -/
def readSum : Nat → Code → Except Error (Expr × Code)
  | 0, code => .error (unexpected code)
  | fuel + 1, code => do
      let (e, code) ← readJoined fuel code
      readSummands fuel e code

/-- The further parts of a sum. -/
def readSummands : Nat → Expr → Code → Except Error (Expr × Code)
  | 0, _, code => .error (unexpected code)
  | fuel + 1, left, code =>
      match sumOperator? code with
      | none => .ok (left, code)
      | some (operator, code) => do
          let (right, code) ← readJoined fuel code
          readSummands fuel (.binary operator left right) code

/-- Texts joined by `~`. -/
def readJoined : Nat → Code → Except Error (Expr × Code)
  | 0, code => .error (unexpected code)
  | fuel + 1, code => do
      let (first, code) ← readProduct fuel code
      let (others, code) ← readJoints fuel code
      return (if others.isEmpty then first else .join (first :: others), code)

/-- The further parts of joined texts. -/
def readJoints : Nat → Code → Except Error (List Expr × Code)
  | 0, code => .error (unexpected code)
  | fuel + 1, code => do
      if startsSymbol "~" code then
        let (e, code) ← readProduct fuel code.tail
        let (others, code) ← readJoints fuel code
        return (e :: others, code)
      else return ([], code)

/-- A product. -/
def readProduct : Nat → Code → Except Error (Expr × Code)
  | 0, code => .error (unexpected code)
  | fuel + 1, code => do
      let (e, code) ← readPower fuel code
      readFactors fuel e code

/-- The further parts of a product. -/
def readFactors : Nat → Expr → Code → Except Error (Expr × Code)
  | 0, _, code => .error (unexpected code)
  | fuel + 1, left, code =>
      match productOperator? code with
      | none => .ok (left, code)
      | some (operator, code) => do
          let (right, code) ← readPower fuel code
          readFactors fuel (.binary operator left right) code

/-- A power. -/
def readPower : Nat → Code → Except Error (Expr × Code)
  | 0, code => .error (unexpected code)
  | fuel + 1, code => do
      let (e, code) ← readSigned fuel true code
      readExponents fuel e code

/-- The exponents behind an expression, applied from left to right. -/
def readExponents : Nat → Expr → Code → Except Error (Expr × Code)
  | 0, _, code => .error (unexpected code)
  | fuel + 1, left, code =>
      if startsSymbol "**" code then do
        let (right, code) ← readSigned fuel true code.tail
        readExponents fuel (.binary .power left right) code
      else .ok (left, code)

/-- An expression behind signs, with filters and tests if they may follow. -/
def readSigned : Nat → Bool → Code → Except Error (Expr × Code)
  | 0, _, code => .error (unexpected code)
  | fuel + 1, filters, code => do
      let (e, code) ←
        if startsSymbol "-" code then do
          let (e, code) ← readSigned fuel false code.tail
          pure (Expr.sign true e, code)
        else if startsSymbol "+" code then do
          let (e, code) ← readSigned fuel false code.tail
          pure (Expr.sign false e, code)
        else readPrimary fuel code
      let (e, code) ← readTrailers fuel e code
      if filters then readFilters fuel e code else return (e, code)

/-- A literal, a name, or an expression in brackets. -/
def readPrimary : Nat → Code → Except Error (Expr × Code)
  | 0, code => .error (unexpected code)
  | fuel + 1, code =>
      match lexemeOf code with
      | some (.name name) =>
          match constantWord? name with
          | some value => .ok (.constant value, code.tail)
          | none => .ok (.name name, code.tail)
      | some (.text _) =>
          let (text, code) := adjacentTexts code
          .ok (.constant (.str text), code)
      | some (.integer n) => .ok (.constant (.int n), code.tail)
      | some (.real digits scale) =>
          .ok (.constant (.real (Decimal.ofScaled digits scale)), code.tail)
      | some (.symbol "(") => do
          let (e, code) ← readTuple fuel true true code.tail
          return (e, ← expectSymbol ")" code)
      | some (.symbol "[") => do
          let (items, code) ← readItems fuel code.tail
          return (.list items, code)
      | some (.symbol "\x7b") => do
          let (entries, code) ← readEntries fuel code.tail
          return (.mapping entries, code)
      | _ => .error (unexpected code)

/-- An expression, or several with commas between them. The first flag says that the
expressions may be conditional ones, the second that there may be none. -/
def readTuple : Nat → Bool → Bool → Code → Except Error (Expr × Code)
  | 0, _, _, code => .error (unexpected code)
  | fuel + 1, conditional, mayBeEmpty, code => do
      if endsTuple code then
        if mayBeEmpty then return (.tuple [], code) else throw (unexpected code)
      else
        let (first, code) ← readElement fuel conditional code
        if startsSymbol "," code then
          let (others, code) ← readTupleRest fuel conditional code.tail
          return (.tuple (first :: others), code)
        else return (first, code)

/-- An expression of a tuple. -/
def readElement : Nat → Bool → Code → Except Error (Expr × Code)
  | 0, _, code => .error (unexpected code)
  | fuel + 1, conditional, code =>
      if conditional then readExpr fuel code else readOr fuel code

/-- The further items of a tuple, which may end in a comma. -/
def readTupleRest : Nat → Bool → Code → Except Error (List Expr × Code)
  | 0, _, code => .error (unexpected code)
  | fuel + 1, conditional, code => do
      if endsTuple code then return ([], code)
      else
        let (e, code) ← readElement fuel conditional code
        if startsSymbol "," code then
          let (others, code) ← readTupleRest fuel conditional code.tail
          return (e :: others, code)
        else return ([e], code)

/-- The items of a list up to its closing bracket. -/
def readItems : Nat → Code → Except Error (List Expr × Code)
  | 0, code => .error (unexpected code)
  | fuel + 1, code => do
      if startsSymbol "]" code then return ([], code.tail)
      else
        let (e, code) ← readExpr fuel code
        if startsSymbol "]" code then return ([e], code.tail)
        else
          let (others, code) ← readItems fuel (← expectSymbol "," code)
          return (e :: others, code)

/-- The entries of a mapping up to its closing brace. -/
def readEntries : Nat → Code → Except Error (List (Expr × Expr) × Code)
  | 0, code => .error (unexpected code)
  | fuel + 1, code => do
      if startsSymbol "\x7d" code then return ([], code.tail)
      else
        let (key, code) ← readExpr fuel code
        let (value, code) ← readExpr fuel (← expectSymbol ":" code)
        if startsSymbol "\x7d" code then return ([(key, value)], code.tail)
        else
          let (others, code) ← readEntries fuel (← expectSymbol "," code)
          return ((key, value) :: others, code)

/-- Attributes, subscripts and calls behind an expression. -/
def readTrailers : Nat → Expr → Code → Except Error (Expr × Code)
  | 0, _, code => .error (unexpected code)
  | fuel + 1, e, code =>
      if startsSymbol "." code then
        match lexemeOf code.tail with
        | some (.name name) => readTrailers fuel (.dot e name) code.tail.tail
        | some (.integer n) => readTrailers fuel (.item e (.constant (.int n))) code.tail.tail
        | _ => .error (unexpected code.tail)
      else if startsSymbol "[" code then do
        let (e, code) ← readSubscript fuel e code.tail
        readTrailers fuel e code
      else if startsSymbol "(" code then do
        let (arguments, code) ← readArguments fuel [] code.tail
        readTrailers fuel (.call e arguments) code
      else .ok (e, code)

/-- The subscript of an expression behind its opening bracket: a slice, a key, or
several keys, which are one tuple. -/
def readSubscript : Nat → Expr → Code → Except Error (Expr × Code)
  | 0, _, code => .error (unexpected code)
  | fuel + 1, owner, code => do
      if startsSymbol "]" code then return (.item owner (.tuple []), code.tail)
      else if startsSymbol ":" code then readSlice fuel owner (.constant .null) code.tail
      else
        let (key, code) ← readExpr fuel code
        if startsSymbol ":" code then readSlice fuel owner key code.tail
        else if startsSymbol "]" code then return (.item owner key, code.tail)
        else
          let (others, code) ← readKeys fuel (← expectSymbol "," code)
          return (.item owner (.tuple (key :: others)), code)

/-- The further keys of a subscript. -/
def readKeys : Nat → Code → Except Error (List Expr × Code)
  | 0, code => .error (unexpected code)
  | fuel + 1, code => do
      let (key, code) ← readExpr fuel code
      if startsSymbol "]" code then return ([key], code.tail)
      else
        let (others, code) ← readKeys fuel (← expectSymbol "," code)
        return (key :: others, code)

/-- A slice behind its first colon. -/
def readSlice : Nat → Expr → Expr → Code → Except Error (Expr × Code)
  | 0, _, _, code => .error (unexpected code)
  | fuel + 1, owner, start, code => do
      let (stop, code) ← readBound fuel code
      let (step, code) ←
        if startsSymbol ":" code then readBound fuel code.tail
        else pure (Expr.constant .null, code)
      return (.slice owner start stop step, ← expectSymbol "]" code)

/-- A bound of a slice, which may be left out. -/
def readBound : Nat → Code → Except Error (Expr × Code)
  | 0, code => .error (unexpected code)
  | fuel + 1, code =>
      if startsSymbol ":" code || startsSymbol "]" code then .ok (.constant .null, code)
      else readExpr fuel code

/-- The arguments of a call behind others, up to its closing parenthesis. -/
def readArguments : Nat → List (Passing × Expr) → Code →
    Except Error (List (Passing × Expr) × Code)
  | 0, _, code => .error (unexpected code)
  | fuel + 1, before, code => do
      if startsSymbol ")" code then return (evaluationOrder before, code.tail)
      else
        let (passing, start) := passing code
        if !mayFollow before passing then throw (unexpected code)
        let (e, code) ← readExpr fuel start
        let arguments := before ++ [(passing, e)]
        if startsSymbol ")" code then return (evaluationOrder arguments, code.tail)
        else readArguments fuel arguments (← expectSymbol "," code)

/-- Filters, tests and calls behind an expression. -/
def readFilters : Nat → Expr → Code → Except Error (Expr × Code)
  | 0, _, code => .error (unexpected code)
  | fuel + 1, e, code =>
      if startsSymbol "|" code then do
        let ((name, arguments), code) ← readFilter fuel code.tail
        readFilters fuel (.filter name e arguments) code
      else if startsWord "is" code then do
        let negated := startsWord "not" code.tail
        let (e, code) ← readTest fuel e (if negated then code.tail.tail else code.tail)
        readFilters fuel (if negated then .not e else e) code
      else if startsSymbol "(" code then do
        let (arguments, code) ← readArguments fuel [] code.tail
        readFilters fuel (.call e arguments) code
      else .ok (e, code)

/-- The name and the arguments of a filter. -/
def readFilter : Nat → Code → Except Error ((String × List (Passing × Expr)) × Code)
  | 0, code => .error (unexpected code)
  | fuel + 1, code => do
      let (name, code) ← expectName code
      let (name, code) ← dottedName (code.length + 1) name code
      if startsSymbol "(" code then
        let (arguments, code) ← readArguments fuel [] code.tail
        return ((name, arguments), code)
      else return ((name, []), code)

/-- The test of an expression, from its name on. Without parentheses it takes one
argument, which is no test itself. -/
def readTest : Nat → Expr → Code → Except Error (Expr × Code)
  | 0, _, code => .error (unexpected code)
  | fuel + 1, subject, code => do
      let (name, code) ← expectName code
      let (name, code) ← dottedName (code.length + 1) name code
      if startsSymbol "(" code then
        let (arguments, code) ← readArguments fuel [] code.tail
        return (.test name subject arguments, code)
      else if startsArgument code then
        if startsWord "is" code then throw (unexpected code)
        let (e, code) ← readPrimary fuel code
        let (e, code) ← readTrailers fuel e code
        return (.test name subject [(.placed, e)], code)
      else return (.test name subject [], code)

end

/-- A bound for the steps of reading a code. -/
def readingBound (code : Code) : Nat :=
  20 * code.length + 40

/-- The expression or tuple that a whole code writes. -/
def Expr.ofCode (code : Code) : Except Error Expr := do
  let (e, rest) ← readTuple (readingBound code) true false code
  expectEnd rest
  return e

end BlockWeave.Template
