import BlockWeave.Template.Compilation

/-! # Scopes

The body of a loop and a captured text have a scope of their own. A name that a scope
gives a value to before it reads it is its own from the start and has no value until
then, even if there are data of that name; unless a scope around it knows the name, or
the value is given in a branch. What an inner scope does with a name is no concern of
the outer one. -/

namespace BlockWeave.Template

mutual

/-- The names that an expression reads. -/
def Expr.names : Expr → List String
  | .constant _ => []
  | .name name => [name]
  | .list es => allNames es
  | .tuple es => allNames es
  | .mapping entries => entryNames entries
  | .dot owner _ => owner.names
  | .item owner key => owner.names ++ key.names
  | .slice owner start stop step => owner.names ++ start.names ++ stop.names ++ step.names
  | .call function arguments => function.names ++ argumentNames arguments
  | .filter _ subject arguments => subject.names ++ argumentNames arguments
  | .test _ subject arguments => subject.names ++ argumentNames arguments
  | .sign _ e => e.names
  | .not e => e.names
  | .and left right => left.names ++ right.names
  | .or left right => left.names ++ right.names
  | .binary _ left right => left.names ++ right.names
  | .join es => allNames es
  | .compare first others => first.names ++ comparisonNames others
  | .choose test yes no => test.names ++ yes.names ++ no.names
  | .provided _ test yes => test.names ++ yes.names

/-- The names that expressions read. -/
def allNames : List Expr → List String
  | [] => []
  | e :: es => e.names ++ allNames es

/-- The names that entries read. -/
def entryNames : List (Expr × Expr) → List String
  | [] => []
  | (key, e) :: entries => key.names ++ e.names ++ entryNames entries

/-- The names that arguments read. -/
def argumentNames : List (Passing × Expr) → List String
  | [] => []
  | (_, e) :: arguments => e.names ++ argumentNames arguments

/-- The names that comparisons read. -/
def comparisonNames : List (Comparison × Expr) → List String
  | [] => []
  | (_, e) :: others => e.names ++ comparisonNames others

end

mutual

/-- The names that a target gives values to. -/
def Target.names : Target → List String
  | .name name => [name]
  | .tuple targets => targetNames targets
  | .member _ _ => []

/-- The names that targets give values to. -/
def targetNames : List Target → List String
  | [] => []
  | target :: targets => target.names ++ targetNames targets

end

mutual

/-- The names whose members a target gives values to. -/
def Target.owners : Target → List String
  | .name _ => []
  | .tuple targets => targetOwners targets
  | .member owner _ => [owner]

/-- The names whose members targets give values to. -/
def targetOwners : List Target → List String
  | [] => []
  | target :: targets => target.owners ++ targetOwners targets

end

/-- What is known of the names of a scope. -/
structure Scope where
  /-- The names that this scope or one around it mentions. -/
  known : List String
  /-- The names that are this scope's own and have no value at its start. -/
  own : List String
  deriving Repr, DecidableEq

namespace Scope

/-- A scope inside one that knows names. -/
def inside (known : List String) : Scope :=
  ⟨known, []⟩

/-- A scope that reads a name. -/
def load (scope : Scope) (name : String) : Scope :=
  if scope.known.contains name then scope else { scope with known := name :: scope.known }

/-- A scope that gives a value to a name. -/
def store (scope : Scope) (name : String) : Scope :=
  if scope.known.contains name then scope else ⟨name :: scope.known, name :: scope.own⟩

/-- A scope that reads names. -/
def loadAll (scope : Scope) (names : List String) : Scope :=
  names.foldl load scope

/-- A scope that gives values to a target. -/
def assign (scope : Scope) (target : Target) : Scope :=
  target.names.foldl store (scope.loadAll target.owners)

/-- A scope that knows names beside its own. -/
def learn (scope : Scope) (names : List String) : Scope :=
  { scope with known := names ++ scope.known }

mutual

/-- A scope behind a statement. -/
def visit (scope : Scope) : Statement → Scope
  | .text _ => scope
  | .output e => scope.loadAll e.names
  | .assign target e => (scope.loadAll e.names).assign target
  | .capture target _ _ => scope.assign target
  | .branch test body otherwise =>
      let scope := scope.loadAll test.names
      scope.learn ((visitAll scope body).known ++ (visitAll scope otherwise).known)
  | .loop _ items _ _ _ => scope.loadAll items.names

/-- A scope behind statements. -/
def visitAll (scope : Scope) : List Statement → Scope
  | [] => scope
  | statement :: statements => visitAll (visit scope statement) statements

end

/-- The scope of statements inside one that knows names. -/
def of (known : List String) (statements : List Statement) : Scope :=
  visitAll (inside known) statements

end Scope
end BlockWeave.Template
