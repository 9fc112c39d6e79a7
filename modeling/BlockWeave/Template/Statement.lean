import BlockWeave.Template.Expression

/-! # Statements of a template

The pieces of a template are put together to statements: text, outputs, branches,
loops and assignments. Blocks are closed by a block of their own; a template with a
block that is not closed is malformed. -/

namespace BlockWeave.Template

/-- What a loop or an assignment gives values to. -/
inductive Target where
  | name (name : String)
  | tuple (targets : List Target)
  /-- A member of what a name stands for. -/
  | member (owner name : String)
  deriving Inhabited

/-- A filter with its arguments. -/
abbrev Filtering := String × List (Passing × Expr)

/-- A statement. -/
inductive Statement where
  | text (text : Text)
  | output (e : Expr)
  | assign (target : Target) (e : Expr)
  /-- What the statements write, filtered, becomes a value. -/
  | capture (target : Target) (filters : List Filtering) (body : List Statement)
  | branch (test : Expr) (body otherwise : List Statement)
  | loop (target : Target) (items : Expr) (test : Option Expr) (body otherwise : List Statement)
  deriving Inhabited

/-! ## Targets -/

mutual

/-- The target that an expression can be read as. -/
def Expr.toTarget? : Expr → Option Target
  | .name name => some (.name name)
  | .tuple items => (targets? items).map .tuple
  | _ => none

/-- The targets that expressions can be read as. -/
def targets? : List Expr → Option (List Target)
  | [] => some []
  | e :: es => do
      let first ← e.toTarget?
      return first :: (← targets? es)

end

/-- A part of a target, and the code behind it. Members are read only where they may
stand; a part that cannot be given a value is none. -/
def readTargetPart (members : Bool) (code : Code) : Except Error (Option Target × Code) :=
  match lexemeOf code with
  | some (.name owner) =>
      if members && (constantWord? owner).isNone && startsSymbol "." code.tail then do
        let (name, code) ← expectName code.tail.tail
        return (some (.member owner name), code)
      else do
        let (e, code) ← readPrimary (readingBound code) code
        return (e.toTarget?, code)
  | _ => do
      let (e, code) ← readPrimary (readingBound code) code
      return (e.toTarget?, code)

/-- The further parts of a target, which may end in a comma. -/
def readTargetRest (members : Bool) : Nat → Code → Except Error (List (Option Target) × Code)
  | 0, code => .error (unexpected code)
  | fuel + 1, code => do
      if endsTuple code then return ([], code)
      else
        let (part, code) ← readTargetPart members code
        if startsSymbol "," code then
          let (others, code) ← readTargetRest members fuel code.tail
          return (part :: others, code)
        else return ([part], code)

/-- A target, or several with commas between them. -/
def readTarget (members : Bool) (code : Code) : Except Error (Target × Code) := do
  let (first, code) ← readTargetPart members code
  let (found, code) ←
    if startsSymbol "," code then do
      let (others, code) ← readTargetRest members (code.length + 1) code.tail
      pure (((first :: others).mapM id).map Target.tuple, code)
    else pure (first, code)
  match found with
  | some target => return (target, code)
  | none => throw (unexpected code)

/-! ## Heads of blocks -/

/-- Nothing is left of the head of a block but a colon. -/
def expectHeadEnd (code : Code) : Except Error Unit :=
  expectEnd (if startsSymbol ":" code then code.tail else code)

/-- The parts of the head of a loop: target, items and condition. -/
def readLoopHead (code : Code) : Except Error (Target × Expr × Option Expr) := do
  let (target, code) ← readTarget false code
  let code ← expectWord "in" code
  let (items, code) ← readTuple (readingBound code) false false code
  let (test, code) ←
    if startsWord "if" code then do
      let (test, code) ← readExpr (readingBound code) code.tail
      pure (some test, code)
    else pure (none, code)
  expectHeadEnd (if startsWord "recursive" code then code.tail else code)
  return (target, items, test)

/-- The test of a branch. -/
def readBranchHead (code : Code) : Except Error Expr := do
  let (e, code) ← readTuple (readingBound code) false false code
  expectHeadEnd code
  return e

/-- The filters at the head of a block. -/
def readFilterChain : Nat → Code → Except Error (List Filtering × Code)
  | 0, code => .error (unexpected code)
  | fuel + 1, code => do
      if startsSymbol "|" code then
        let (filter, code) ← readFilter (readingBound code) code.tail
        let (others, code) ← readFilterChain fuel code
        return (filter :: others, code)
      else return ([], code)

/-- Expressions to be written one after the other. -/
def readPrints : Nat → Code → Except Error (List Expr)
  | 0, code => .error (unexpected code)
  | fuel + 1, code => do
      let (e, code) ← readExpr (readingBound code) code
      if code.isEmpty then return [e]
      else return e :: (← readPrints fuel (← expectSymbol "," code))

/-! ## Blocks -/

/-- The statements up to a block that closes them: the statements, the code of that
block behind its first word, that word, and the pieces behind it. -/
structure Body where
  statements : List Statement
  closer : String
  code : Code
  rest : List Piece

mutual

/-- The statements up to a block that starts with one of the given words. Without such
words the statements reach to the end. -/
def readBody : Nat → List String → List Piece → Except Error Body
  | 0, _, _ => .error .malformedTemplate
  | fuel + 1, closers, pieces =>
      match pieces with
      | [] => if closers.isEmpty then .ok ⟨[], "", [], []⟩ else .error .malformedTemplate
      | .unclosed :: _ => .error .malformedTemplate
      | .text text :: pieces => do
          let body ← readBody fuel closers pieces
          return { body with statements := .text text :: body.statements }
      | .output code :: pieces => do
          let e ← Expr.ofCode code
          let body ← readBody fuel closers pieces
          return { body with statements := .output e :: body.statements }
      | .block code :: pieces => do
          let (word, arguments) ← expectName code
          if closers.contains word then return ⟨[], word, arguments, pieces⟩
          else
            let (found, pieces) ← readBlock fuel word arguments pieces
            let body ← readBody fuel closers pieces
            return { body with statements := found ++ body.statements }

/-- The statements that a block starts, and the pieces behind it. -/
def readBlock : Nat → String → Code → List Piece → Except Error (List Statement × List Piece)
  | 0, _, _, _ => .error .malformedTemplate
  | fuel + 1, word, code, pieces => do
      match word with
      | "if" =>
          let (statement, pieces) ← readBranch fuel code pieces
          return ([statement], pieces)
      | "for" =>
          let (target, items, test) ← readLoopHead code
          let body ← readBody fuel ["endfor", "else"] pieces
          if body.closer = "else" then
            expectHeadEnd body.code
            let otherwise ← readBody fuel ["endfor"] body.rest
            expectEnd otherwise.code
            return ([.loop target items test body.statements otherwise.statements],
              otherwise.rest)
          else
            expectEnd body.code
            return ([.loop target items test body.statements []], body.rest)
      | "set" =>
          let (target, code) ← readTarget true code
          if startsSymbol "=" code then
            return ([.assign target (← Expr.ofCode code.tail)], pieces)
          else
            let (filters, code) ← readFilterChain (code.length + 1) code
            expectHeadEnd code
            let body ← readBody fuel ["endset"] pieces
            expectEnd body.code
            return ([.capture target filters body.statements], body.rest)
      | "print" =>
          if code.isEmpty then return ([], pieces)
          else return ((← readPrints (code.length + 1) code).map .output, pieces)
      | _ => throw .malformedTemplate

/-- A branch behind its first word. -/
def readBranch : Nat → Code → List Piece → Except Error (Statement × List Piece)
  | 0, _, _ => .error .malformedTemplate
  | fuel + 1, code, pieces => do
      let test ← readBranchHead code
      let body ← readBody fuel ["elif", "else", "endif"] pieces
      match body.closer with
      | "elif" =>
          let (inner, rest) ← readBranch fuel body.code body.rest
          return (.branch test body.statements [inner], rest)
      | "else" =>
          expectHeadEnd body.code
          let otherwise ← readBody fuel ["endif"] body.rest
          expectEnd otherwise.code
          return (.branch test body.statements otherwise.statements, otherwise.rest)
      | _ =>
          expectEnd body.code
          return (.branch test body.statements [], body.rest)

end

/-- The statements of a template. -/
def parse (source : Text) : Except Error (List Statement) := do
  let pieces := pieces source
  return (← readBody (3 * pieces.length + 3) [] pieces).statements

end BlockWeave.Template
