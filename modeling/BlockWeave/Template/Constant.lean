import BlockWeave.Template.Filter
import BlockWeave.Template.Statement

/-! # Constant parts of a template

An expression without names and calls is evaluated before anything is written, and
its value takes its place. Some operations that fail on the way are left to be done
again when the expression is reached; the others make the whole template fail. -/

namespace BlockWeave.Template

/-- Why an expression has no constant value: it must be evaluated later, or it
fails. -/
inductive NoConstant where
  | later
  | failed (e : Error)

/-- A failure means that the expression is evaluated later. -/
def postponed {α : Type} (result : Except Error α) : Except NoConstant α :=
  result.mapError fun _ => .later

/-- A failure is final. -/
def final {α : Type} (result : Except Error α) : Except NoConstant α :=
  result.mapError .failed

/-- Any reason means that the expression is evaluated later. -/
def guarded {α : Type} (result : Except NoConstant α) : Except NoConstant α :=
  result.mapError fun _ => .later

/-- Arguments put together from how they are passed. -/
def gather (arguments : List (Passing × Datum)) : Except Error Arguments :=
  arguments.foldlM (fun found (passing, d) =>
    match passing with
    | .placed => .ok { found with placed := found.placed ++ [d] }
    | .spread => do return { found with placed := found.placed ++ (← d.items) }
    | .named name => .ok { found with named := found.named ++ [(name, d)] }
    | .spreadNamed =>
        match d with
        | .map fields => do
            let named ← fields.mapM fun (key, value) =>
              match key with
              | .str name =>
                  if found.named.any (·.1 = name) then .error .wrongType else .ok (name, value)
              | _ => .error .wrongType
            return { found with named := found.named ++ named }
        | .undefined _ reason => .error (.undefinedValue reason)
        | _ => .error .wrongType) ⟨[], []⟩

/-- Arguments of which the last one of a name counts. -/
def lastNamed (arguments : Arguments) : Arguments :=
  { arguments with named := arguments.named.reverse }

mutual

/-- The constant value of an expression. -/
def fold : Expr → Except NoConstant Datum
  | .constant d => .ok d
  | .name _ => .error .later
  | .call _ _ => .error .later
  | .list es => (foldAll es).map .list
  | .tuple es => (foldAll es).map .tuple
  | .mapping entries => do final (Datum.mapOf (← foldEntries entries))
  | .dot owner name => guarded do postponed ((← fold owner).dot name)
  | .item owner key => guarded do
      let owner ← fold owner
      postponed (owner.item (← fold key))
  | .slice owner start stop step => guarded do
      let owner ← fold owner
      let start ← fold start
      let stop ← fold stop
      let step ← fold step
      match owner.slice start stop step with
      | .error .wrongType =>
          let bounds ← postponed (Datum.quotedItems [start, stop, step])
          return owner.noElement ("slice(" ++ ", ".intercalate bounds ++ ")")
      | found => postponed found
  | .filter name subject arguments => do
      if (filterParameters.lookup name).isNone then throw .later
      let arguments ← postponed (gather (← foldArguments arguments))
      let subject ← fold subject
      postponed (applyFilter name subject (lastNamed arguments))
  | .test name subject arguments => do
      if (testParameters.lookup name).isNone then throw .later
      let arguments ← postponed (gather (← foldArguments arguments))
      let subject ← fold subject
      postponed (applyTest name subject (lastNamed arguments))
  | .sign negative e => guarded do postponed (applySign negative (← fold e))
  | .not e => guarded do return .bool !(← postponed (← fold e).truthy)
  | .and left right => do
      let left ← fold left
      if ← final left.truthy then fold right else return left
  | .or left right => do
      let left ← fold left
      if ← final left.truthy then return left else fold right
  | .binary operator left right => guarded do
      let left ← fold left
      postponed (applyOperator operator left (← fold right))
  | .join es => do return .str ("".intercalate (← foldTexts es))
  | .compare first others => do guarded (foldComparisons (← fold first) others)
  | .choose test yes no => do
      if ← final (← fold test).truthy then fold yes else fold no
  | .provided _ test yes => do
      if ← final (← fold test).truthy then fold yes else throw .later

/-- The constant values of expressions. -/
def foldAll : List Expr → Except NoConstant (List Datum)
  | [] => .ok []
  | e :: es => do
      let d ← fold e
      return d :: (← foldAll es)

/-- The texts of the constant values of expressions. -/
def foldTexts : List Expr → Except NoConstant (List String)
  | [] => .ok []
  | e :: es => do
      let text ← final (← fold e).text
      return text :: (← foldTexts es)

/-- The constant entries of a mapping. -/
def foldEntries : List (Expr × Expr) → Except NoConstant (List (Datum × Datum))
  | [] => .ok []
  | (key, e) :: entries => do
      let key ← fold key
      let d ← fold e
      return (key, d) :: (← foldEntries entries)

/-- The constant values of arguments. -/
def foldArguments : List (Passing × Expr) → Except NoConstant (List (Passing × Datum))
  | [] => .ok []
  | (passing, e) :: arguments => do
      let d ← fold e
      return (passing, d) :: (← foldArguments arguments)

/-- The constant value of a chain of comparisons. -/
def foldComparisons (left : Datum) : List (Comparison × Expr) → Except NoConstant Datum
  | [] => .ok (.bool true)
  | (comparison, e) :: others => do
      let right ← fold e
      if ← postponed (applyComparison comparison left right) then foldComparisons right others
      else return .bool false

end

/-- An expression does not fail while its constant value is looked for. -/
def settled (e : Expr) : Except Error Unit :=
  match fold e with
  | .error (.failed e) => .error e
  | _ => .ok ()

mutual

/-- Neither an expression nor a part of it fails while constant values are looked
for. -/
def probe : Expr → Except Error Unit
  | .constant _ => .ok ()
  | .name _ => .ok ()
  | .list es => probeAll es
  | .tuple es => probeAll es
  | .mapping entries => do
      probeEntries entries
      settled (.mapping entries)
  | .dot owner _ => probe owner
  | .item owner key => do
      probe owner
      probe key
  | .slice owner start stop step => do
      probe owner
      probe start
      probe stop
      probe step
  | .call function arguments => do
      probe function
      probeArguments arguments
  | .filter _ subject arguments => do
      probe subject
      probeArguments arguments
  | .test _ subject arguments => do
      probe subject
      probeArguments arguments
  | .sign _ e => probe e
  | .not e => probe e
  | .and left right => do
      probe left
      probe right
      settled (.and left right)
  | .or left right => do
      probe left
      probe right
      settled (.or left right)
  | .binary _ left right => do
      probe left
      probe right
  | .join es => do
      probeAll es
      settled (.join es)
  | .compare first others => do
      probe first
      probeComparisons others
  | .choose test yes no => do
      probe test
      probe yes
      probe no
      settled (.choose test yes no)
  | .provided line test yes => do
      probe test
      probe yes
      settled (.provided line test yes)

/-- No part of the expressions fails. -/
def probeAll : List Expr → Except Error Unit
  | [] => .ok ()
  | e :: es => do
      probe e
      probeAll es

/-- No part of the entries fails. -/
def probeEntries : List (Expr × Expr) → Except Error Unit
  | [] => .ok ()
  | (key, e) :: entries => do
      probe key
      probe e
      probeEntries entries

/-- No part of the arguments fails. -/
def probeArguments : List (Passing × Expr) → Except Error Unit
  | [] => .ok ()
  | (_, e) :: arguments => do
      probe e
      probeArguments arguments

/-- No part of the comparisons fails. -/
def probeComparisons : List (Comparison × Expr) → Except Error Unit
  | [] => .ok ()
  | (_, e) :: others => do
      probe e
      probeComparisons others

end

end BlockWeave.Template
