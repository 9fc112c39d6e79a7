import BlockWeave.Text.Basic
import BlockWeave.Text.Digit
import BlockWeave.Text.Quoted

/-! # Command line arguments

Arguments are options or operands. A long option may be shortened as long as it is the
only one with that beginning, and takes its value behind an equals sign or from the
next argument. Short options may stand together in one argument, the last of them
with its value. Behind a lone double hyphen all arguments are operands. What no rule
takes is left over, and it is for the caller to say what becomes of it. -/

namespace BlockWeave.Command

/-- What an option does. -/
inductive Effect (ι : Type) where
  /-- Shows the help text. -/
  | help
  /-- Shows the version. -/
  | version
  /-- Is there or not. -/
  | flag (name : ι)
  /-- Has a value. -/
  | value (name : ι)

/-- An option with all its spellings. -/
structure Switch (ι : Type) where
  spellings : List Text
  effect : Effect ι

/-- The operands that are taken. -/
inductive Operands where
  | none
  /-- One operand, which must be there. -/
  | one (name : String)
  /-- An operand, if there is one, and all arguments behind it. -/
  | command

/-- What a program takes on its command line. -/
structure Grammar (ι : Type) where
  switches : List (Switch ι)
  operands : Operands

/-- An option that has been found, by which spelling, and with what behind it. -/
structure Hit (ι : Type) where
  switch : Switch ι
  spelling : Text
  /-- The text in the same argument, behind an equals sign or not. -/
  attached : Option Text

/-- An argument by the part it plays. -/
inductive Argument (ι : Type) where
  | operand (text : Text)
  | separator
  | option (text : Text) (hit : Option (Hit ι))

/-- Why a command line is not carried out. -/
inductive Halt where
  | help
  | version
  | misuse (message : String)
  deriving Repr, DecidableEq

/-- What a command line says. -/
structure Parsed (ι : Type) where
  /-- The options in order, with their values. -/
  given : List (ι × Option Text) := []
  operands : List Text := []
  /-- The arguments left over. -/
  extras : List Text := []

/-- The lone double hyphen. -/
def separatorText : Text := ['-', '-']

variable {ι : Type}

namespace Switch

/-- An option in a message. -/
def label (switch : Switch ι) : String :=
  String.ofList (Text.join ['/'] switch.spellings)

end Switch

namespace Argument

/-- An argument as it was given. -/
def text : Argument ι → Text
  | operand text => text
  | separator => separatorText
  | option text _ => text

end Argument

namespace Grammar

/-- All spellings in order. -/
def spelled (grammar : Grammar ι) : List (Text × Switch ι) :=
  grammar.switches.flatMap fun switch =>
    switch.spellings.map fun spelling => (spelling, switch)

/-- The option with a spelling. -/
def switch? (grammar : Grammar ι) (spelling : Text) : Option (Switch ι) :=
  grammar.switches.find? fun switch => switch.spellings.contains spelling

/-- The option whose spelling stands before an equals sign. -/
def assigned? (grammar : Grammar ι) (text : Text) : Option (Hit ι) := do
  let (spelling, value) ← Text.cutFirst? ['='] text
  let switch ← grammar.switch? spelling
  return ⟨switch, spelling, some value⟩

/-- The options that an argument may mean by the beginning of a long spelling, or by a
short spelling at its start. -/
def guesses (grammar : Grammar ι) (text : Text) : List (Hit ι) :=
  match text with
  | '-' :: '-' :: _ =>
      let (lead, attached) :=
        match Text.cutFirst? ['='] text with
        | some (lead, value) => (lead, some value)
        | none => (text, none)
      grammar.spelled.filterMap fun (spelling, switch) =>
        if Text.startsWith lead spelling then some ⟨switch, spelling, attached⟩ else none
  | '-' :: c :: tail =>
      grammar.spelled.filterMap fun (spelling, switch) =>
        if spelling = ['-', c] then some ⟨switch, spelling, some tail⟩
        else if Text.startsWith text spelling then some ⟨switch, spelling, none⟩
        else none
  | _ => []

/-- A text is a decimal digit after the other, at least one. -/
def isDigits (s : Text) : Bool :=
  !s.isEmpty && s.all fun c => (Text.digitValue? c).isSome

/-- An argument that looks like a negative number, which is an operand. -/
def isNegativeNumber : Text → Bool
  | '-' :: s =>
      let s := if s.getLast? = some '\n' then s.dropLast else s
      isDigits s ||
        match Text.cutFirst? ['.'] s with
        | some (whole, rest) => (whole.isEmpty || isDigits whole) && isDigits rest
        | none => false
  | _ => false

/-- The part that an argument plays. -/
def classify (grammar : Grammar ι) (text : Text) : Except Halt (Argument ι) :=
  if text.head? ≠ some '-' then .ok (.operand text)
  else
    match grammar.switch? text with
    | some switch => .ok (.option text (some ⟨switch, text, none⟩))
    | none =>
        if text.length = 1 then .ok (.operand text)
        else
          match grammar.assigned? text with
          | some hit => .ok (.option text (some hit))
          | none =>
              match grammar.guesses text with
              | [hit] => .ok (.option text (some hit))
              | [] =>
                  if isNegativeNumber text || List.elem ' ' text then .ok (.operand text)
                  else .ok (.option text none)
              | hits =>
                  .error (.misuse ("ambiguous option: " ++ String.ofList text ++
                    " could match " ++
                    ", ".intercalate (hits.map fun hit => String.ofList hit.spelling)))

/-- The parts that all arguments play. -/
def arguments (grammar : Grammar ι) : List Text → Except Halt (List (Argument ι))
  | [] => .ok []
  | text :: texts =>
      if text = separatorText then .ok (.separator :: texts.map .operand)
      else do
        let argument ← grammar.classify text
        let rest ← grammar.arguments texts
        return argument :: rest

/-- A message about an option. -/
def misuse (switch : Switch ι) (message : String) : Halt :=
  .misuse ("argument " ++ switch.label ++ ": " ++ message)

/-- What an argument does: its effects in order, and how many of the next arguments it
takes. -/
structure Yield (ι : Type) where
  effects : List (Effect ι × Option Text)
  taken : Nat := 0

/-- An option without a value in the same argument; a value is the next argument. -/
def takeAlone (switch : Switch ι) (rest : List (Argument ι)) : Except Halt (Yield ι) :=
  match switch.effect, rest with
  | .value name, .operand text :: _ => .ok { effects := [(.value name, some text)], taken := 1 }
  | .value _, _ => .error (misuse switch "expected one argument")
  | effect, _ => .ok { effects := [(effect, none)] }

/-- An option with a text for its value. A lone double hyphen is no value. -/
def takeValue (name : ι) (text : Text) : Yield ι :=
  { effects := [(.value name, if text = separatorText then none else some text)] }

/-- A text is refused by an option that has no value. -/
def refuse (switch : Switch ι) (text : Text) : Halt :=
  misuse switch ("ignored explicit argument " ++ String.ofList (Text.quoted text))

/-- A short option with more text in its argument: its value, or more short options,
of which the last may have its value behind it. An option without a value refuses a
text that starts with no short option. -/
def takeCluster (grammar : Grammar ι) (rest : List (Argument ι)) (switch : Switch ι) :
    Text → Except Halt (Yield ι)
  | [] => takeAlone switch rest
  | c :: tail =>
      match switch.effect with
      | .value name => .ok (takeValue name (c :: tail))
      | effect =>
          match grammar.switch? ['-', c] with
          | none => .error (refuse switch (c :: tail))
          | some next => do
              let rest ← grammar.takeCluster rest next tail
              return { rest with effects := (effect, none) :: rest.effects }

/-- An option with all it takes. A long option, and one with an equals sign and nothing
behind it, takes the text in its argument as a value or not at all. -/
def take (grammar : Grammar ι) (hit : Hit ι) (rest : List (Argument ι)) :
    Except Halt (Yield ι) :=
  match hit.attached, hit.switch.effect with
  | none, _ => takeAlone hit.switch rest
  | some text, .value name => .ok (takeValue name text)
  | some text, _ =>
      if text = [] ∨ Text.startsWith separatorText hit.spelling then
        .error (refuse hit.switch text)
      else grammar.takeCluster rest hit.switch text

/-- What a command line says, with one more option. -/
def carryOut (parsed : Parsed ι) (effect : Effect ι × Option Text) : Except Halt (Parsed ι) :=
  match effect with
  | (.help, _) => .error .help
  | (.version, _) => .error .version
  | (.flag name, _) => .ok { parsed with given := parsed.given ++ [(name, none)] }
  | (.value name, value) => .ok { parsed with given := parsed.given ++ [(name, value)] }

/-- The operands at the start of the arguments, and how many arguments they are. -/
def takeOperands : Operands → List (Argument ι) → Option (List Text × Nat)
  | .one _, .operand text :: .separator :: _ => some ([text], 2)
  | .one _, .operand text :: _ => some ([text], 1)
  | .one _, .separator :: .operand text :: _ => some ([text], 2)
  | .command, .operand text :: rest =>
      some (text :: rest.map Argument.text, rest.length + 1)
  | .command, .separator :: .operand text :: rest =>
      some (separatorText :: text :: rest.map Argument.text, rest.length + 2)
  | _, _ => none

/-- Goes through the arguments, with the operands that are still to be found. -/
def walk (grammar : Grammar ι) (pending : Operands) (parsed : Parsed ι) :
    List (Argument ι) → Except Halt (Parsed ι)
  | [] =>
      match pending with
      | .one name => .error (.misuse ("the following arguments are required: " ++ name))
      | _ => .ok parsed
  | .option text none :: rest =>
      grammar.walk pending { parsed with extras := parsed.extras ++ [text] } rest
  | .option _ (some hit) :: rest => do
      let step ← grammar.take hit rest
      let parsed ← step.effects.foldlM carryOut parsed
      grammar.walk pending parsed (rest.drop step.taken)
  | argument :: rest =>
      match takeOperands pending (argument :: rest) with
      | some (operands, taken) =>
          grammar.walk .none { parsed with operands } (rest.drop (taken - 1))
      | none =>
          grammar.walk pending { parsed with extras := parsed.extras ++ [argument.text] } rest
termination_by rest => rest.length

/-- What a command line says. -/
def parse (grammar : Grammar ι) (texts : List Text) : Except Halt (Parsed ι) := do
  grammar.walk grammar.operands {} (← grammar.arguments texts)

end Grammar

namespace Parsed

variable [DecidableEq ι]

/-- An option is there. -/
def has (parsed : Parsed ι) (name : ι) : Bool :=
  parsed.given.any fun entry => entry.1 = name

/-- The last value of an option. -/
def value? (parsed : Parsed ι) (name : ι) : Option (Option Text) :=
  (parsed.given.reverse.find? fun entry => entry.1 = name).map Prod.snd

end Parsed
end BlockWeave.Command
