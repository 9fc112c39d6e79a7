import BlockWeave.Template.Datum
import BlockWeave.Text.Blank
import BlockWeave.Text.Case

/-! # Attributes and items

A point asks for an attribute first and then for the item of that name; a subscript
asks for the item first and then, if it is a text, for the attribute. The attributes
of a value are its methods and a few numbers; they hide entries of a mapping from the
point. A value that has neither gives an undefined value, which says what was asked
for. -/

namespace BlockWeave.Template

/-- The words of a list with blanks between them. -/
def words (s : String) : List String :=
  (Text.splitOn ' ' s.toList).map String.ofList

/-! ## Names of attributes -/

/-- The attributes of every value. -/
def commonAttributes : List String :=
  words (
    "__class__ __delattr__ __dir__ __doc__ __eq__ __format__ __ge__ __getattribute__ " ++
    "__getstate__ __gt__ __hash__ __init__ __init_subclass__ __le__ __lt__ __ne__ __new__ " ++
    "__reduce__ __reduce_ex__ __repr__ __setattr__ __sizeof__ __str__ __subclasshook__")

/-- The attributes of texts. -/
def textAttributes : List String :=
  words (
    "capitalize casefold center count encode endswith expandtabs find format format_map index " ++
    "isalnum isalpha isascii isdecimal isdigit isidentifier islower isnumeric isprintable " ++
    "isspace istitle isupper join ljust lower lstrip maketrans partition removeprefix " ++
    "removesuffix replace rfind rindex rjust rpartition rsplit rstrip split splitlines " ++
    "startswith strip swapcase title translate upper zfill __add__ __contains__ __getitem__ " ++
    "__getnewargs__ __iter__ __len__ __mod__ __mul__ __rmod__ __rmul__")

/-- The attributes of integers and truth values. -/
def integerAttributes : List String :=
  words (
    "as_integer_ratio bit_count bit_length conjugate denominator from_bytes imag numerator " ++
    "real to_bytes __abs__ __add__ __and__ __bool__ __ceil__ __divmod__ __float__ __floor__ " ++
    "__floordiv__ __getnewargs__ __index__ __int__ __invert__ __lshift__ __mod__ __mul__ " ++
    "__neg__ __or__ __pos__ __pow__ __radd__ __rand__ __rdivmod__ __rfloordiv__ __rlshift__ " ++
    "__rmod__ __rmul__ __ror__ __round__ __rpow__ __rrshift__ __rshift__ __rsub__ " ++
    "__rtruediv__ __rxor__ __sub__ __truediv__ __trunc__ __xor__")

/-- The attributes of real numbers. -/
def realAttributes : List String :=
  words (
    "as_integer_ratio conjugate fromhex hex imag is_integer real __abs__ __add__ __bool__ " ++
    "__ceil__ __divmod__ __float__ __floor__ __floordiv__ __getformat__ __getnewargs__ " ++
    "__int__ __mod__ __mul__ __neg__ __pos__ __pow__ __radd__ __rdivmod__ __rfloordiv__ " ++
    "__rmod__ __rmul__ __round__ __rpow__ __rsub__ __rtruediv__ __sub__ __truediv__ __trunc__")

/-- The attributes of lists. -/
def listAttributes : List String :=
  words (
    "append clear copy count extend index insert pop remove reverse sort __add__ " ++
    "__class_getitem__ __contains__ __delitem__ __getitem__ __iadd__ __imul__ __iter__ " ++
    "__len__ __mul__ __reversed__ __rmul__ __setitem__")

/-- The attributes of tuples. -/
def tupleAttributes : List String :=
  words (
    "count index __add__ __class_getitem__ __contains__ __getitem__ __getnewargs__ __iter__ " ++
    "__len__ __mul__ __rmul__")

/-- The attributes of mappings. -/
def mapAttributes : List String :=
  words (
    "clear copy fromkeys get items keys pop popitem setdefault update values " ++
    "__class_getitem__ __contains__ __delitem__ __getitem__ __ior__ __iter__ __len__ __or__ " ++
    "__reversed__ __ror__ __setitem__")

/-- The attributes of views of the keys or the entries of a mapping. -/
def keysAttributes : List String :=
  words (
    "isdisjoint mapping __and__ __contains__ __iter__ __len__ __or__ __rand__ __reversed__ " ++
    "__ror__ __rsub__ __rxor__ __sub__ __xor__")

/-- The attributes of views of the values of a mapping. -/
def valuesAttributes : List String :=
  words (
    "mapping __iter__ __len__ __reversed__")

/-- The attributes of ranges. -/
def rangeAttributes : List String :=
  words (
    "count index start step stop __bool__ __contains__ __getitem__ __iter__ __len__ " ++
    "__reversed__")

/-- The attributes of functions. -/
def methodAttributes : List String :=
  words (
    "__call__ __module__ __name__ __qualname__ __self__ __text_signature__")

namespace Datum

/-- The names of the methods of a value. -/
def methodNames : Datum → List String
  | undefined _ _ => []
  | null => "__bool__" :: commonAttributes
  | bool _ => integerAttributes ++ commonAttributes
  | int _ => integerAttributes ++ commonAttributes
  | real _ => realAttributes ++ commonAttributes
  | str _ => textAttributes ++ commonAttributes
  | list _ => listAttributes ++ commonAttributes
  | tuple _ => tupleAttributes ++ commonAttributes
  | map _ => mapAttributes ++ commonAttributes
  | view .values _ => valuesAttributes ++ commonAttributes
  | view _ _ => keysAttributes ++ commonAttributes
  | range _ _ _ => rangeAttributes ++ commonAttributes
  | loop _ _ _ _ => "cycle" :: "changed" :: commonAttributes
  | method _ _ => methodAttributes ++ commonAttributes
  | builtin "dict" => mapAttributes ++ methodAttributes ++ commonAttributes
  | builtin "range" => rangeAttributes ++ methodAttributes ++ commonAttributes
  | builtin _ => methodAttributes ++ commonAttributes

/-- The parts of an integer. -/
def integerPart? (n : Int) : String → Option Datum
  | "real" | "numerator" => some (int n)
  | "imag" => some (int 0)
  | "denominator" => some (int 1)
  | _ => none

/-- What the state of a loop says. -/
def loopPart? (index length : Nat) (previous next : Option Datum) : String → Option Datum
  | "index" => some (int (index + 1))
  | "index0" => some (int index)
  | "revindex" => some (int (length - index))
  | "revindex0" => some (int (length - index - 1))
  | "first" => some (bool (index = 0))
  | "last" => some (bool next.isNone)
  | "length" => some (int length)
  | "depth" => some (int 1)
  | "depth0" => some (int 0)
  | "previtem" => some (previous.getD (undefined true "there is no previous item"))
  | "nextitem" => some (next.getD (undefined true "there is no next item"))
  | _ => none

/-- The attribute of a value. -/
def attribute? (d : Datum) (name : String) : Option Datum :=
  let part := match d with
    | bool b => integerPart? (if b then 1 else 0) name
    | int n => integerPart? n name
    | real x =>
        match name with
        | "real" => some (real x)
        | "imag" => some (real 0.0)
        | _ => none
    | range start stop step =>
        match name with
        | "start" => some (int start)
        | "stop" => some (int stop)
        | "step" => some (int step)
        | _ => none
    | loop index length previous next => loopPart? index length previous next name
    | _ => none
  part.or (if d.methodNames.contains name then some (method d name) else none)

/-! ## Access -/

/-- What is missing when a value has no such attribute. -/
def noAttribute (d : Datum) (name : String) : Datum :=
  undefined true (quotedString d.typeName ++ " has no attribute " ++ quotedString name)

/-- What is missing when a value has no such item. -/
def noElement (d : Datum) (key : String) : Datum :=
  undefined true (d.typeName ++ " has no element " ++ key)

/-- The place of an index in a list, from the end if it is negative. -/
def place? (length : Nat) (index : Int) : Option Nat :=
  let place := if index < 0 then index + length else index
  if 0 ≤ place ∧ place < length then some place.toNat else none

/-- The item of a list at an index. -/
def itemAt? (xs : List Datum) (key : Datum) : Option Datum := do
  xs[← place? xs.length (← key.integer?)]?

/-- The item of a value at a key or index, if it has one. -/
def item? (d key : Datum) : Except Error (Option Datum) :=
  match d with
  | undefined _ reason => .error (.undefinedValue reason)
  | list xs => .ok (itemAt? xs key)
  | tuple xs => .ok (itemAt? xs key)
  | str s => .ok (itemAt? (characters s) key)
  | range start stop step => .ok (itemAt? ((rangeItems start stop step).map int) key)
  | map fields =>
      match lookup fields key with
      | .error .wrongType => .ok none
      | found => found
  | _ => .ok none

/-- The item of a value at a key, or else its attribute. -/
def item (d key : Datum) : Except Error Datum := do
  match ← d.item? key, key with
  | some found, _ => return found
  | none, str name => return (d.attribute? name).getD (d.noAttribute name)
  | none, key => return d.noElement (← key.quoted)

/-- The attribute of a value, or else its item of that name. -/
def dot (d : Datum) (name : String) : Except Error Datum := do
  match d.missing?, d.attribute? name with
  | some reason, _ => throw (.undefinedValue reason)
  | none, some found => return found
  | none, none => return (← d.item? (str name)).getD (d.noAttribute name)

/-! ## Slices -/

/-- A bound of a slice: nothing or an integer. -/
def bound : Datum → Except Error (Option Int)
  | null => .ok none
  | d =>
      match d.integer? with
      | some n => .ok (some n)
      | none => .error .wrongType

/-- A bound of a slice within a list, counted from the end if it is negative. -/
def clamp (low high length : Int) (n : Int) : Int :=
  max low (min high (if n < 0 then n + length else n))

/-- The first place of a slice, the place it stops before, and its step. -/
def slicePlaces (length : Nat) (start stop step : Datum) : Except Error (Int × Int × Int) := do
  let step := (← bound step).getD 1
  if step = 0 then throw (.invalidValue "slice step cannot be zero")
  let start ← bound start
  let stop ← bound stop
  let length : Int := length
  if 0 < step then
    return ((start.map (clamp 0 length length)).getD 0,
      (stop.map (clamp 0 length length)).getD length, step)
  else
    return ((start.map (clamp (-1) (length - 1) length)).getD (length - 1),
      (stop.map (clamp (-1) (length - 1) length)).getD (-1), step)

/-- The items of a list in a slice. -/
def sliceItems {α : Type} (xs : List α) (start stop step : Datum) : Except Error (List α) := do
  let (first, limit, step) ← slicePlaces xs.length start stop step
  return (rangeItems first limit step).filterMap fun place => xs[place.toNat]?

/-- A slice of a value. -/
def slice (d start stop step : Datum) : Except Error Datum :=
  match d with
  | undefined _ reason => .error (.undefinedValue reason)
  | list xs => (sliceItems xs start stop step).map list
  | tuple xs => (sliceItems xs start stop step).map tuple
  | str s => (sliceItems s.toList start stop step).map ofText
  | range first limit gap => do
      let (i, j, k) ← slicePlaces (rangeLength first limit gap) start stop step
      return range (first + i * gap) (first + j * gap) (gap * k)
  | _ => .error .wrongType

/-! ## Calls -/

/-- The result of a method. -/
def callMethod (owner : Datum) (name : String) (arguments : List Datum) : Except Error Datum :=
  match owner, name, arguments with
  | map fields, "items", [] => .ok (view .entries fields)
  | map fields, "keys", [] => .ok (view .keys fields)
  | map fields, "values", [] => .ok (view .values fields)
  | map fields, "copy", [] => .ok (map fields)
  | map fields, "get", [key] => (lookup fields key).map (·.getD null)
  | map fields, "get", [key, default] => (lookup fields key).map (·.getD default)
  | list xs, "copy", [] => .ok (list xs)
  | str s, "upper", [] => .ok (ofText (Text.toUpper s.toList))
  | str s, "lower", [] => .ok (ofText (Text.toLower s.toList))
  | str s, "strip", [] => .ok (ofText (Text.strip s.toList))
  | str s, "strip", [null] => .ok (ofText (Text.strip s.toList))
  | str s, "strip", [str set] =>
      .ok (ofText (Text.trim (fun c => List.elem c set.toList) s.toList))
  | loop index _ _ _, "cycle", x :: xs => .ok ((x :: xs).getD (index % (x :: xs).length) x)
  | _, _, _ => .error .wrongType

/-- The range of one to three bounds. -/
def callRange (arguments : List Datum) : Except Error Datum := do
  match arguments.mapM integer? with
  | some [stop] => return range 0 stop 1
  | some [start, stop] => return range start stop 1
  | some [start, stop, step] =>
      if step = 0 then throw (.invalidValue "range() arg 3 must not be zero")
      return range start stop step
  | _ => throw .wrongType

/-- The result of a call. -/
def call (function : Datum) (arguments : List Datum) (named : List (String × Datum)) :
    Except Error Datum :=
  match function, arguments, named with
  | undefined _ reason, _, _ => .error (.undefinedValue reason)
  | method owner name, arguments, [] => owner.callMethod name arguments
  | builtin "range", arguments, [] => callRange arguments
  | builtin "dict", [], named => mapOf (named.map fun (name, d) => (str name, d))
  | builtin "dict", [map fields], named =>
      mapOf (fields ++ named.map fun (name, d) => (str name, d))
  | _, _, _ => .error .wrongType

end Datum
end BlockWeave.Template
