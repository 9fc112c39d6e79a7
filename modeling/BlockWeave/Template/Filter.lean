import BlockWeave.Template.Access
import BlockWeave.Template.Operation

/-! # Filters and tests

A filter makes a value of another one, a test says whether something holds of it. Both
may take arguments, by place or by name; arguments that do not fit are refused. -/

namespace BlockWeave.Template

/-- The arguments of a call, filter or test. -/
structure Arguments where
  placed : List Datum
  named : List (String × Datum)

/-- The arguments by the names of the parameters; a missing one is nothing. -/
def Arguments.arrange (arguments : Arguments) (names : List String) :
    Except Error (List (Option Datum)) :=
  let free := names.drop arguments.placed.length
  if names.length < arguments.placed.length ||
      arguments.named.any (fun entry => !free.contains entry.1) then
    .error .wrongType
  else
    .ok (arguments.placed.map some ++ free.map fun name => arguments.named.lookup name)

/-! ## Filters -/

/-- The filters, with the names of their parameters. -/
def filterParameters : List (String × List String) := [
  ("join", ["d", "attribute"]), ("upper", []), ("lower", []), ("length", []), ("count", []),
  ("trim", ["chars"]), ("first", []), ("last", []), ("replace", ["old", "new", "count"]),
  ("default", ["default_value", "boolean"]), ("d", ["default_value", "boolean"]), ("list", []),
  ("string", [])]

/-- A text with the first places of a part replaced, or all of them. -/
def replaceParts (part new : Text) : Nat → Option Nat → Text → Text
  | 0, _, s => s
  | _, some 0, s => s
  | fuel + 1, count, s =>
      match Text.cutFirst? part s with
      | none => s
      | some (before, rest) =>
          before ++ new ++ replaceParts part new fuel (count.map (· - 1)) rest

/-- A text with a new one before each character and at the end. -/
def interleave (new : Text) : Option Nat → Text → Text
  | some 0, s => s
  | _, [] => new
  | count, c :: s => new ++ c :: interleave new (count.map (· - 1)) s

/-- The count of replacements; a negative one means all. -/
def replaceCount : Option Datum → Except Error (Option Nat)
  | none | some .null => .ok none
  | some d =>
      match d.integer? with
      | some n =>
          if repeatBound ≤ n.natAbs then .error .outOfRange
          else .ok (if n < 0 then none else some n.toNat)
      | none => .error .wrongType

/-- The keys that a path of attributes stands for: the words between points, those of
digits being indices; any other value stands for itself. -/
def pathKeys : Datum → Except Error (List Datum)
  | .str path =>
      (Text.splitOn '.' path.toList).mapM fun word =>
        if word ≠ [] ∧ word.all (fun c => (Text.digitValue? c).isSome) then
          match Text.readInteger word with
          | .ok n => .ok (.int n)
          | .error (.tooLong digits) => .error (.digitLimit digits)
          | .error .malformed => .ok (.ofText word)
        else .ok (.ofText word)
  | d => .ok [d]

/-- The value at the end of a path of keys. -/
def follow (d : Datum) (keys : List Datum) : Except Error Datum :=
  keys.foldlM Datum.item d

/-- The texts of the items of a value, or of what an attribute of theirs holds, with a
separator between them. -/
def joinItems (d : Datum) (separator path : Option Datum) : Except Error Datum := do
  let separatorText : Except Error String := (separator.getD (.str "")).text
  match path with
  | none | some .null =>
      let separator ← separatorText
      let pieces ← (← d.items).mapM Datum.text
      return .str (separator.intercalate pieces)
  | some path =>
      let keys ← pathKeys path
      let items ← d.items
      let separator ← separatorText
      let pieces ← items.mapM fun item => do (← follow item keys).text
      return .str (separator.intercalate pieces)

/-- The last item of a value. -/
def lastItem (d : Datum) : Except Error Datum := do
  return (← d.items).getLast?.getD (.undefined true "No last item, sequence was empty.")

/-- A value, or another one if it is undefined. With the flag set, a value that counts
as false is replaced too. -/
def orDefault (d : Datum) (value flag : Option Datum) : Except Error Datum := do
  let value := value.getD (.str "")
  if d.isUndefined then return value
  let whenFalse ← (flag.map Datum.truthy).getD (.ok false)
  if whenFalse && !(← d.truthy) then return value else return d

/-- The result of a filter on arranged arguments. -/
def runFilter (name : String) (d : Datum) (arguments : List (Option Datum)) :
    Except Error Datum := do
  match name, arguments with
  | "join", [separator, path] => joinItems d separator path
  | "upper", _ => return .ofText (Text.toUpper (← d.text).toList)
  | "lower", _ => return .ofText (Text.toLower (← d.text).toList)
  | "trim", [chars] =>
      let s := (← d.text).toList
      match chars with
      | none | some .null => return .ofText (Text.strip s)
      | some (.str set) => return .ofText (Text.trim (fun c => List.elem c set.toList) s)
      | some _ => throw .wrongType
  | "first", _ =>
      return (← d.items).head?.getD (.undefined true "No first item, sequence was empty.")
  | "last", _ => lastItem d
  | "replace", [some old, some new, count] =>
      let s := (← d.text).toList
      let old := (← old.text).toList
      let new := (← new.text).toList
      let count ← replaceCount count
      return .ofText
        (if old = [] then interleave new count s
        else replaceParts old new (s.length + 1) count s)
  | "list", _ => return .list (← d.items)
  | "string", _ => return .str (← d.text)
  | "length", _ => return .int (← d.length)
  | "count", _ => return .int (← d.length)
  | _, [value, flag] => orDefault d value flag
  | _, _ => throw .wrongType

/-- The result of a filter. One that does not exist takes no names. -/
def applyFilter (name : String) (d : Datum) (arguments : Arguments) : Except Error Datum := do
  match filterParameters.lookup name with
  | none => if arguments.named.isEmpty then throw .missingFilter else throw .wrongType
  | some names => runFilter name d (← arguments.arrange names)

/-! ## Tests -/

/-- The tests, with the names of their parameters; a parameter without a name is given
by place only. -/
def testParameters : List (String × List String) := [
  ("defined", []), ("undefined", []), ("none", []), ("boolean", []), ("true", []), ("false", []),
  ("integer", []), ("float", []), ("number", []), ("string", []), ("mapping", []),
  ("iterable", []), ("sequence", []), ("callable", []), ("even", []), ("odd", []),
  ("divisibleby", ["num"]), ("in", ["seq"]), ("eq", [""]), ("equalto", [""]), ("ne", [""]),
  ("lt", [""]), ("lessthan", [""]), ("le", [""]), ("gt", [""]), ("greaterthan", [""]),
  ("ge", [""])]

/-- The comparisons that a test may ask for. -/
def testComparison? : String → Option Comparison
  | "eq" | "equalto" => some .equal
  | "ne" => some .notEqual
  | "lt" | "lessthan" => some .less
  | "le" => some .lessEqual
  | "gt" | "greaterthan" => some .greater
  | "ge" => some .greaterEqual
  | "in" => some .member
  | _ => none

/-- The kind of a value is the one that a test asks for. -/
def isKind : String → Datum → Bool
  | "undefined", .undefined _ _ => true
  | "none", .null => true
  | "boolean", .bool _ => true
  | "true", .bool b => b
  | "false", .bool b => !b
  | "integer", .int _ => true
  | "float", .real _ => true
  | "number", .bool _ | "number", .int _ | "number", .real _ => true
  | "string", .str _ => true
  | "mapping", .map _ => true
  | "sequence", .undefined strict _ => !strict
  | "sequence", .str _ | "sequence", .list _ | "sequence", .tuple _ => true
  | "sequence", .map _ | "sequence", .range _ _ _ => true
  | "callable", .undefined _ _ | "callable", .method _ _ => true
  | "callable", .loop _ _ _ _ => true
  | "callable", .builtin name => name ≠ "self"
  | _, _ => false

/-- The rest of a division is a given number. -/
def leaves (d divisor rest : Datum) : Except Error Bool := do
  (← applyOperator .modulo d divisor).equal rest

/-- The result of a test on arranged arguments. -/
def runTest (name : String) (d : Datum) (arguments : List (Option Datum)) :
    Except Error Bool :=
  match name, arguments with
  | "defined", [] => .ok !d.isUndefined
  | "iterable", [] =>
      match d.items with
      | .ok _ => .ok true
      | .error .wrongType => .ok false
      | .error e => .error e
  | "even", [] => leaves d (.int 2) (.int 0)
  | "odd", [] => leaves d (.int 2) (.int 1)
  | "divisibleby", [some divisor] => leaves d divisor (.int 0)
  | name, [some other] =>
      match testComparison? name with
      | some comparison => applyComparison comparison d other
      | none => .error .wrongType
  | name, [] => .ok (isKind name d)
  | _, _ => .error .wrongType

/-- The result of a test. One that does not exist takes no names. -/
def applyTest (name : String) (d : Datum) (arguments : Arguments) : Except Error Datum := do
  match testParameters.lookup name with
  | none => if arguments.named.isEmpty then throw .missingFilter else throw .wrongType
  | some names => return .bool (← runTest name d (← arguments.arrange names))

end BlockWeave.Template
