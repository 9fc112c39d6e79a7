import BlockWeave.Content
import BlockWeave.Marker.Attributes

/-! # Records of blocks

A record holds what is known about a block: the places where it occurs, or the
source of a whole file, and the content once it has been resolved. Its state goes
from unvisited over in progress to done. -/

namespace BlockWeave

/-- How far the resolution of a block has come. -/
inductive BlockState where
  | unvisited
  | inProgress
  | done
  deriving Repr, DecidableEq

/-- One place where a block occurs. -/
structure Occurrence where
  offset : Int
  attributes : Attributes
  body : Text
  deriving Repr, DecidableEq

/-- What is known about a block. -/
structure Record where
  key : BlockKey
  isFile : Bool := false
  isBinary : Bool := false
  content : Option Content := none
  occurrences : List Occurrence := []
  state : BlockState := .unvisited
  /-- The text of a whole file as it was found. -/
  source : Option Text := none
  deriving Repr, DecidableEq

namespace Record

/-- The occurrences by ascending offset, those of one offset in the order in which
they were found. -/
def ordered (record : Record) : List Occurrence :=
  record.occurrences.mergeSort fun a b => a.offset ≤ b.offset

/-- The record with one more occurrence. -/
def addOccurrence (record : Record) (occurrence : Occurrence) : Record :=
  { record with occurrences := record.occurrences ++ [occurrence] }

/-- The record with its content, which it may get once. -/
def complete (record : Record) (content : Content) : Except Error Record :=
  if record.state = .done then .error (.alreadyResolved record.key)
  else .ok { record with content := some content, state := .done }

/-- Puts a record in progress below the blocks that are being resolved. A record that
is in progress already closes a cycle. -/
def enter (record : Record) (chain : List BlockKey) : Except Error (Record × List BlockKey) :=
  if record.state = .inProgress then .error (.circular record.key (chain ++ [record.key]))
  else .ok ({ record with state := .inProgress }, chain ++ [record.key])

/-- Gives the innermost block its content. The block leaves the chain even when it
turns out to be another one. -/
def leave (record : Record) (content : Content) (chain : List BlockKey) :
    Except Error Record × List BlockKey :=
  match chain.getLast? with
  | none => (.error .chainEmpty, chain)
  | some popped =>
      (if popped ≠ record.key then .error (.chainOutOfOrder popped record.key)
        else record.complete content, chain.dropLast)

end Record
end BlockWeave
