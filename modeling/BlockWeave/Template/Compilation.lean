import BlockWeave.Template.Constant

/-! # Compiling a template

Before a template is rendered, constant parts are replaced by their values and the
rest is checked: its filters and tests exist, no argument is named twice, and no loop
gives a value to the name of its state. Filters and tests in branches and in
conditional expressions are left alone; they are missed only where they are reached.
A constant that is written anew must not have too many digits. -/

namespace BlockWeave.Template

namespace Datum

mutual

/-- A value can be written as a constant: it is a scalar, or made of such values. -/
def isPlain : Datum → Bool
  | null => true
  | bool _ => true
  | int _ => true
  | real _ => true
  | str _ => true
  | range _ _ _ => true
  | list items => arePlain items
  | tuple items => arePlain items
  | map fields => fieldsPlain fields
  | _ => false

/-- All values of a list can be written as constants. -/
def arePlain : List Datum → Bool
  | [] => true
  | x :: xs => isPlain x && arePlain xs

/-- All entries of a mapping can be written as constants. -/
def fieldsPlain : List (Datum × Datum) → Bool
  | [] => true
  | (key, x) :: xs => isPlain key && isPlain x && fieldsPlain xs

end

end Datum

/-- A constant, if it can be written. -/
def constant (d : Datum) : Except Error Expr := do
  let _ ← d.quoted
  return .constant d

/-- The constant that takes the place of an expression. -/
def replacement? (e : Expr) : Except Error (Option Expr) := do
  probe e
  match fold e with
  | .ok d => if d.isPlain then return some (← constant d) else return none
  | .error _ => return none

/-- A name occurs more than once among arguments. -/
def repeatsName : List (Passing × Expr) → Bool
  | [] => false
  | (.named name, _) :: arguments =>
      arguments.any (·.1 = .named name) || repeatsName arguments
  | _ :: arguments => repeatsName arguments

/-- No argument is named twice. -/
def checkNames (arguments : List (Passing × Expr)) : Except Error Unit :=
  if repeatsName arguments then .error .repeatedArgument else .ok ()

/-- A filter or a test exists, or need not. -/
def checkKnown (lenient : Bool) (parameters : List (String × List String)) (name : String) :
    Except Error Unit :=
  if lenient || (parameters.lookup name).isSome then .ok () else .error .unknownFilter

mutual

/-- An expression with its constant parts replaced, all names checked. The flag says
that filters and tests need not exist. -/
def refine (lenient : Bool) : Expr → Except Error Expr
  | .constant d => constant d
  | .name name => .ok (.name name)
  | .list es => do return .list (← refineAll lenient es)
  | .tuple es => do return .tuple (← refineAll lenient es)
  | .mapping entries => do return .mapping (← refineEntries lenient entries)
  | .dot owner name => do
      if let some found ← replacement? (.dot owner name) then return found
      return .dot (← refine lenient owner) name
  | .item owner key => do
      if let some found ← replacement? (.item owner key) then return found
      let owner ← refine lenient owner
      return .item owner (← refine lenient key)
  | .slice owner start stop step => do
      if let some found ← replacement? (.slice owner start stop step) then return found
      let owner ← refine lenient owner
      let start ← refine lenient start
      let stop ← refine lenient stop
      return .slice owner start stop (← refine lenient step)
  | .call function arguments => do
      probe (.call function arguments)
      let function ← refine lenient function
      checkNames arguments
      return .call function (← refineArguments lenient arguments)
  | .filter name subject arguments => do
      if let some found ← replacement? (.filter name subject arguments) then return found
      checkKnown lenient filterParameters name
      let subject ← refine lenient subject
      checkNames arguments
      return .filter name subject (← refineArguments lenient arguments)
  | .test name subject arguments => do
      if let some found ← replacement? (.test name subject arguments) then return found
      checkKnown lenient testParameters name
      let subject ← refine lenient subject
      checkNames arguments
      return .test name subject (← refineArguments lenient arguments)
  | .sign negative e => do
      if let some found ← replacement? (.sign negative e) then return found
      return .sign negative (← refine lenient e)
  | .not e => do
      if let some found ← replacement? (.not e) then return found
      return .not (← refine lenient e)
  | .and left right => do
      if let some found ← replacement? (.and left right) then return found
      let left ← refine lenient left
      return .and left (← refine lenient right)
  | .or left right => do
      if let some found ← replacement? (.or left right) then return found
      let left ← refine lenient left
      return .or left (← refine lenient right)
  | .binary operator left right => do
      if let some found ← replacement? (.binary operator left right) then return found
      let left ← refine lenient left
      return .binary operator left (← refine lenient right)
  | .join es => do
      if let some found ← replacement? (.join es) then return found
      return .join (← refineAll lenient es)
  | .compare first others => do
      if let some found ← replacement? (.compare first others) then return found
      let first ← refine lenient first
      return .compare first (← refineComparisons lenient others)
  | .choose test yes no => do
      if let some found ← replacement? (.choose test yes no) then return found
      let yes ← refine true yes
      let test ← refine true test
      return .choose test yes (← refine true no)
  | .provided line test yes => do
      if let some found ← replacement? (.provided line test yes) then return found
      let yes ← refine true yes
      return .provided line (← refine true test) yes

/-- Expressions with their constant parts replaced. -/
def refineAll (lenient : Bool) : List Expr → Except Error (List Expr)
  | [] => .ok []
  | e :: es => do
      let e ← refine lenient e
      return e :: (← refineAll lenient es)

/-- Entries with their constant parts replaced. -/
def refineEntries (lenient : Bool) : List (Expr × Expr) → Except Error (List (Expr × Expr))
  | [] => .ok []
  | (key, e) :: entries => do
      let key ← refine lenient key
      let e ← refine lenient e
      return (key, e) :: (← refineEntries lenient entries)

/-- Arguments with their constant parts replaced. -/
def refineArguments (lenient : Bool) :
    List (Passing × Expr) → Except Error (List (Passing × Expr))
  | [] => .ok []
  | (passing, e) :: arguments => do
      let e ← refine lenient e
      return (passing, e) :: (← refineArguments lenient arguments)

/-- Comparisons with their constant parts replaced. -/
def refineComparisons (lenient : Bool) :
    List (Comparison × Expr) → Except Error (List (Comparison × Expr))
  | [] => .ok []
  | (comparison, e) :: others => do
      let e ← refine lenient e
      return (comparison, e) :: (← refineComparisons lenient others)

end

/-! ## Statements -/

/-- The name of the state of a loop. -/
def loopName : String := "loop"

mutual

/-- A target gives a value to a name. -/
def Target.stores (name : String) : Target → Bool
  | .name other => other = name
  | .tuple targets => targetsStore name targets
  | .member _ _ => false

/-- One of the targets gives a value to a name. -/
def targetsStore (name : String) : List Target → Bool
  | [] => false
  | target :: targets => target.stores name || targetsStore name targets

end

mutual

/-- A statement gives a value to a name. -/
def Statement.stores (name : String) : Statement → Bool
  | .text _ => false
  | .output _ => false
  | .assign target _ => target.stores name
  | .capture target _ body => target.stores name || statementsStore name body
  | .branch _ body otherwise => statementsStore name body || statementsStore name otherwise
  | .loop target _ _ body otherwise =>
      target.stores name || statementsStore name body || statementsStore name otherwise

/-- One of the statements gives a value to a name. -/
def statementsStore (name : String) : List Statement → Bool
  | [] => false
  | statement :: statements => statement.stores name || statementsStore name statements

end

/-- An output: its text if that is constant, else the refined expression. -/
def refineOutput (lenient : Bool) (e : Expr) : Except Error Statement :=
  match fold e with
  | .ok d =>
      match d.text with
      | .ok text => .ok (.text text.toList)
      | .error _ => (refine lenient e).map .output
  | .error _ => (refine lenient e).map .output

/-- Filters with their constant parts replaced. -/
def refineFilters : List Filtering → Except Error (List Filtering)
  | [] => .ok []
  | (name, arguments) :: filters => do
      let others ← refineFilters filters
      checkKnown false filterParameters name
      checkNames arguments
      return (name, ← refineArguments false arguments) :: others

mutual

/-- A statement with its constant parts replaced, all names checked. -/
def refineStatement (lenient : Bool) : Statement → Except Error Statement
  | .text text => .ok (.text text)
  | .output e => refineOutput lenient e
  | .assign target e => do return .assign target (← refine lenient e)
  | .capture target filters body => do
      let body ← refineStatements false body
      return .capture target (← refineFilters filters) body
  | .branch test body otherwise => do
      let test ← refine true test
      let body ← refineStatements true body
      return .branch test body (← refineStatements true otherwise)
  | .loop target items test body otherwise => do
      let test ← test.mapM (refine false)
      if target.stores loopName || statementsStore loopName body ||
          statementsStore loopName otherwise then
        throw .loopAssigned
      let items ← refine lenient items
      let body ← refineStatements false body
      return .loop target items test body (← refineStatements false otherwise)

/-- Statements with their constant parts replaced, all names checked. -/
def refineStatements (lenient : Bool) : List Statement → Except Error (List Statement)
  | [] => .ok []
  | statement :: statements => do
      let statement ← refineStatement lenient statement
      return statement :: (← refineStatements lenient statements)

end

/-- The statements of a template that can be rendered. -/
def compile (source : Text) : Except Error (List Statement) := do
  refineStatements false (← parse source)

end BlockWeave.Template
