import BlockWeave.Document
import BlockWeave.Error
import BlockWeave.Json.Reader
import BlockWeave.Log
import BlockWeave.Table
import BlockWeave.Text.Case

/-! # Settings from the environment

A variable whose name starts with a fixed lead is a setting. The rest of its name
says where the setting goes: the keys on the way stand between double underscores, or
between the first single underscore when there is no double one. The text of the
variable is read as a truth value, an integer, a list or a mapping where it looks like
one. Variables are taken in the order of their names. A value is written into the mapping
that its keys lead to, which may stand at several places. -/

namespace BlockWeave.Config

/-- The variables of an environment, with their texts. -/
abbrev Environment := Table Text Text

/-- A step of loading settings; a step that fails keeps what has been logged. -/
abbrev Loading := ExceptT Error (StateM (List LogEntry))

namespace Loading

/-- An entry for the log. -/
def note (entry : LogEntry) : Loading Unit :=
  modify fun log => log ++ [entry]

/-- A result that may be a failure. -/
def ofExcept {α : Type} (result : Except Error α) : Loading α :=
  MonadExcept.ofExcept result

end Loading

namespace Environment

/-- The lead of the names of settings. -/
def settingLead : Text := ['J', 'D', 'I', 'S', 'T', 'S', '_']

/-- The pieces of a text between double underscores. -/
def splitDouble : Text → List Text
  | [] => [[]]
  | '_' :: '_' :: s => [] :: splitDouble s
  | c :: s =>
      match splitDouble s with
      | [] => [[c]]
      | piece :: pieces => (c :: piece) :: pieces

/-- The pieces of a setting's name. -/
def pieces (name : Text) : List Text :=
  if Text.contains ['_', '_'] name then splitDouble name
  else
    match Text.cutFirst? ['_'] name with
    | some (section?, rest) => [section?, rest]
    | none => [name]

/-- The keys that lead to a setting. A name with an empty piece leads nowhere. -/
def place? (name : Text) : Option (List Key) :=
  let pieces := pieces name
  if pieces.contains [] then none
  else some (pieces.map fun piece => .str (String.ofList (Text.toLower piece)))

/-- The sign and the digits of an integer that is written without anything else. -/
def integerDigits? (s : Text) : Option (Bool × List Nat) :=
  let (negative, unsigned) :=
    match s with
    | '-' :: rest => (true, rest)
    | '+' :: rest => (false, rest)
    | rest => (false, rest)
  if unsigned = [] then none
  else (unsigned.mapM Text.digitValue?).map fun digits => (negative, digits)

/-- A text stands between two brackets. -/
def isEnclosed (left right : Char) (s : Text) : Bool :=
  s.head? == some left && s.getLast? == some right

/-- The value that the text of a variable stands for. -/
def readSetting (raw : Text) : Except Error Value :=
  let s := Text.strip raw
  let lower := Text.toLower s
  if lower = ['t', 'r', 'u', 'e'] then .ok (.bool true)
  else if lower = ['f', 'a', 'l', 's', 'e'] then .ok (.bool false)
  else
    match integerDigits? s with
    | some (negative, digits) =>
        if Text.digitLimit < digits.length then .error (.digitLimit digits.length)
        else
          let n : Int := Text.ofDigits digits
          .ok (.int (if negative then -n else n))
    | none =>
        if isEnclosed '[' ']' s || isEnclosed '\x7b' '\x7d' s then
          .ok ((Json.parse? s).getD (.str (String.ofList s)))
        else .ok (.str (String.ofList s))

/-- The mapping at a key with its number, or a new one. -/
def mappingAt (key : Key) (entries : Entries) : Option Nat × Entries :=
  match Fields.get? entries key with
  | some (.map origin below) => (origin, below)
  | _ => (none, [])

/-- The entries with a value written where some keys lead to, and what is then in the
innermost mapping on the way that has a number. What is no mapping on the way becomes a
new one. -/
def write (value : Value) : List Key → Entries → Entries × Option (Nat × Entries)
  | [], entries => (entries, none)
  | [key], entries => (Fields.put entries key (.ofValue value), none)
  | key :: keys, entries =>
      let (origin, below) := mappingAt key entries
      let (written, inner) := write value keys below
      (Fields.put entries key (.map origin written),
        inner.or (origin.map fun number => (number, written)))

/-- Sets the value that some keys lead to. A mapping that it is written into is changed
wherever it stands. -/
def assign (value : Value) (keys : List Key) (entries : Entries) : Entries :=
  match write value keys entries with
  | (written, none) => written
  | (_, some (origin, content)) => Document.refillEntries origin content entries

/-- The names of all settings in the order of their characters, with their texts. -/
def settings (environment : Environment) : List (Text × Text) :=
  (environment.filter fun entry => Text.startsWith settingLead entry.1).mergeSort
    fun a b => Text.notAfter a.1 b.1

/-- The configuration with one setting more. -/
def applySetting (config : Entries) (setting : Text × Text) : Loading Entries := do
  match place? (setting.1.drop settingLead.length) with
  | none =>
      Loading.note (.warning .configuration
        ("Ignoring malformed environment override " ++ String.ofList setting.1))
      return config
  | some place =>
      let value ← Loading.ofExcept (readSetting setting.2)
      return assign value place config

/-- The configuration with all settings of an environment. -/
def overlay (environment : Environment) (config : Entries) : Loading Entries :=
  environment.settings.foldlM applySetting config

end Environment
end BlockWeave.Config
