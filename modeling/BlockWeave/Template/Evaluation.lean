import BlockWeave.Template.Scope

/-! # Rendering a template

Expressions are evaluated with the values of names. Statements write text and may
give values to names; what a loop or a captured text gives to a name is forgotten
behind it. -/

namespace BlockWeave.Template

/-- The names of functions that are there without data. -/
def builtinNames : List String :=
  ["range", "dict", "lipsum", "cycler", "joiner", "namespace", "self"]

/-- The values of names. -/
structure Environment where
  /-- The data of the template. -/
  data : List (String × Datum)
  /-- The names that the scopes around mention. -/
  known : List String := []
  /-- The values that were given to names, the latest first; a name of a scope's own
  may have none. -/
  given : List (String × Option Datum) := []

namespace Environment

/-- The value of a name, or what is missing. -/
def value (env : Environment) (name : String) : Datum :=
  match env.given.lookup name with
  | some (some d) => d
  | some none => .unknownName name
  | none =>
      match env.data.lookup name with
      | some d => d
      | none => if builtinNames.contains name then .builtin name else .unknownName name

/-- A name with a value. -/
def give (env : Environment) (name : String) (d : Datum) : Environment :=
  { env with given := (name, some d) :: env.given }

/-- The environment inside a scope. -/
def enter (env : Environment) (scope : Scope) : Environment :=
  { env with known := scope.known, given := scope.own.map (·, none) ++ env.given }

end Environment

/-! ## Expressions -/

/-- What is missing when a condition fails and nothing is said for that case. -/
def noElse (line : Nat) : Datum :=
  .undefined false ("the inline if-expression on line " ++ toString line ++
    " evaluated to false and no else section was defined.")

mutual

/-- The value of an expression. -/
def eval (env : Environment) : Expr → Except Error Datum
  | .constant d => .ok d
  | .name name => .ok (env.value name)
  | .list es => (evalAll env es).map .list
  | .tuple es => (evalAll env es).map .tuple
  | .mapping entries => do Datum.mapOf (← evalEntries env entries)
  | .dot owner name => do (← eval env owner).dot name
  | .item owner key => do
      let owner ← eval env owner
      owner.item (← eval env key)
  | .slice owner start stop step => do
      let owner ← eval env owner
      let start ← eval env start
      let stop ← eval env stop
      owner.slice start stop (← eval env step)
  | .call function arguments => do
      let function ← eval env function
      let arguments ← gather (← evalArguments env arguments)
      function.call arguments.placed arguments.named
  | .filter name subject arguments => do
      let subject ← eval env subject
      applyFilter name subject (← gather (← evalArguments env arguments))
  | .test name subject arguments => do
      let subject ← eval env subject
      applyTest name subject (← gather (← evalArguments env arguments))
  | .sign negative e => do applySign negative (← eval env e)
  | .not e => do return .bool !(← (← eval env e).truthy)
  | .and left right => do
      let left ← eval env left
      if ← left.truthy then eval env right else return left
  | .or left right => do
      let left ← eval env left
      if ← left.truthy then return left else eval env right
  | .binary operator left right => do
      let left ← eval env left
      applyOperator operator left (← eval env right)
  | .join es => do joinTexts (← evalAll env es)
  | .compare first others => do evalComparisons env (← eval env first) others
  | .choose test yes no => do
      if ← (← eval env test).truthy then eval env yes else eval env no
  | .provided line test yes => do
      if ← (← eval env test).truthy then eval env yes else return noElse line

/-- The values of expressions from left to right. -/
def evalAll (env : Environment) : List Expr → Except Error (List Datum)
  | [] => .ok []
  | e :: es => do
      let d ← eval env e
      return d :: (← evalAll env es)

/-- The entries of a mapping. -/
def evalEntries (env : Environment) :
    List (Expr × Expr) → Except Error (List (Datum × Datum))
  | [] => .ok []
  | (key, e) :: entries => do
      let key ← eval env key
      let d ← eval env e
      return (key, d) :: (← evalEntries env entries)

/-- The values of arguments. -/
def evalArguments (env : Environment) :
    List (Passing × Expr) → Except Error (List (Passing × Datum))
  | [] => .ok []
  | (passing, e) :: arguments => do
      let d ← eval env e
      return (passing, d) :: (← evalArguments env arguments)

/-- A chain of comparisons holds if each of them does; what follows one that fails is
not evaluated. -/
def evalComparisons (env : Environment) (left : Datum) :
    List (Comparison × Expr) → Except Error Datum
  | [] => .ok (.bool true)
  | (comparison, e) :: others => do
      let right ← eval env e
      if ← applyComparison comparison left right then evalComparisons env right others
      else return .bool false

end

/-! ## Assignments -/

mutual

/-- The environment with values given to a target. -/
def assign (env : Environment) (d : Datum) : Target → Except Error Environment
  | .name name => .ok (env.give name d)
  | .tuple targets => do
      let items ← d.items
      if items.length = targets.length then assignAll env targets items
      else throw (.unpacking targets.length items.length)
  | .member _ _ => .error .memberAssigned

/-- The environment with values given to targets one after the other. -/
def assignAll (env : Environment) : List Target → List Datum → Except Error Environment
  | [], _ => .ok env
  | target :: targets, ds =>
      match ds with
      | [] => .ok env
      | d :: ds => do assignAll (← assign env d target) targets ds

end

/-- The result of filters one after the other. -/
def applyFilters (env : Environment) (d : Datum) (filters : List Filtering) :
    Except Error Datum :=
  filters.foldlM (fun d (name, arguments) => do
    applyFilter name d (← gather (← evalArguments env arguments))) d

/-! ## Statements -/

/-- The items of a loop for which its condition holds, up to the first one where it
fails to be a condition, and that failure. -/
def chosenItems (holds : Datum → Except Error Bool) : List Datum → List Datum × Option Error
  | [] => ([], none)
  | d :: ds =>
      match holds d with
      | .error e => ([], some e)
      | .ok true =>
          let (others, failure) := chosenItems holds ds
          (d :: others, failure)
      | .ok false => chosenItems holds ds

/-- The rounds of a loop: each item with the state of the loop. -/
def rounds (items : List Datum) : List (Datum × Datum) :=
  items.zipIdx.map fun (d, index) =>
    let previous := if index = 0 then none else items[index - 1]?
    (d, .loop index items.length previous items[index + 1]?)

mutual

/-- The text that a statement writes, and the environment behind it. -/
def exec (env : Environment) : Statement → Except Error (Text × Environment)
  | .text text => .ok (text, env)
  | .output e => do
      let d ← eval env e
      return ((← d.text).toList, env)
  | .assign target e => do
      if !target.owners.isEmpty then throw .memberAssigned
      let d ← eval env e
      return ([], ← assign env d target)
  | .capture target filters body => do
      let (text, inner) ← execAll (env.enter (.of env.known body)) body
      let d ← applyFilters inner (.ofText text) filters
      return ([], ← assign env d target)
  | .branch test body otherwise => do
      if ← (← eval env test).truthy then execAll env body else execAll env otherwise
  | .loop target items test body otherwise => do
      let found ← (← eval env items).items
      let holds (d : Datum) : Except Error Bool :=
        match test with
        | none => .ok true
        | some test => do (← eval (← assign env d target) test).truthy
      let (chosen, failure) := chosenItems holds found
      let scope := Scope.of (loopName :: target.names ++ env.known) body
      let texts ← (rounds chosen).mapM fun (d, state) => do
        let inner ← assign (env.enter scope) d target
        let (text, _) ← execAll (inner.give loopName state) body
        return text
      if let some e := failure then throw e
      if chosen.isEmpty then
        let (text, _) ← execAll (env.enter (.of env.known otherwise)) otherwise
        return (text, env)
      else return (texts.flatten, env)

/-- The text that statements write one after the other. -/
def execAll (env : Environment) : List Statement → Except Error (Text × Environment)
  | [] => .ok ([], env)
  | statement :: statements => do
      let (first, env) ← exec env statement
      let (others, env) ← execAll env statements
      return (first ++ others, env)

end

/-! ## Rendering -/

/-- The data of a template. Keys must be texts, and one name is reserved. -/
def templateFields (data : Fields) : Except Error (List (String × Datum)) :=
  data.mapM fun (key, v) =>
    match key with
    | .str name => if name = "self" then .error .wrongType else .ok (name, Datum.ofValue v)
    | _ => .error .wrongType

/-- The text that a template writes for data. -/
def render (statements : List Statement) (data : Fields) : Except Error Text := do
  let env : Environment := { data := ← templateFields data }
  return (← execAll (env.enter (.of [] statements)) statements).1

end BlockWeave.Template
