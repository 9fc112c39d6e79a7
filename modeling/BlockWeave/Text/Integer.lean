import BlockWeave.Text.Blank
import BlockWeave.Text.Digit

/-! # Reading integers

An integer is written with an optional sign and decimal digits of any script;
single underscores may stand between digits. A number of more than 4300 digits,
leading zeros counted, is refused. -/

namespace BlockWeave.Text

/-- The most digits that an integer may be written with. -/
def digitLimit : Nat := 4300

/-- Why a text is not read as an integer. -/
inductive IntegerFault where
  | malformed
  | tooLong (digits : Nat)
  deriving Repr, DecidableEq

/-- The digits of an unsigned number, underscores left out. The flag says that a
digit comes right before, so that an underscore may follow. -/
def digitRun? : Bool → Text → Option (List Nat)
  | afterDigit, [] => if afterDigit then some [] else none
  | afterDigit, c :: s =>
      match digitValue? c with
      | some d => (digitRun? true s).map (d :: ·)
      | none => if c = '_' ∧ afterDigit then digitRun? false s else none

/-- The number written by digits, the most significant first. -/
def ofDigits (digits : List Nat) : Nat :=
  digits.foldl (fun n d => n * 10 + d) 0

/-- The number of a run of digits, unless there are too many. -/
def boundedDigits (digits : List Nat) : Except IntegerFault Nat :=
  if digitLimit < digits.length then .error (.tooLong digits.length)
  else .ok (ofDigits digits)

/-- The integer that a text writes, blanks around it allowed. -/
def readInteger (s : Text) : Except IntegerFault Int :=
  let (negative, unsigned) :=
    match strip s with
    | '-' :: rest => (true, rest)
    | '+' :: rest => (false, rest)
    | rest => (false, rest)
  match digitRun? false unsigned with
  | none => .error .malformed
  | some digits => do
      let n ← boundedDigits digits
      return if negative then -(n : Int) else n

end BlockWeave.Text
