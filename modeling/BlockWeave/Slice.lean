import BlockWeave.Content
import BlockWeave.Text.Integer

/-! # Slices

A slice is written as two bounds with a comma between them. A missing or blank
bound is the end of the content on its side, a bound that is no integer is ignored,
and a negative bound counts from the end. -/

namespace BlockWeave

/-- The part of a content between two bounds. -/
structure Slice where
  start : Option Int
  stop : Option Int
  /-- The bounds that are no integers, without the blanks around them. -/
  ignored : List Text
  deriving Repr, DecidableEq

namespace Slice

/-- A bound, or the text of one that is ignored. -/
def bound (raw : Text) : Option Int × List Text :=
  let raw := Text.strip raw
  if raw = [] then (none, [])
  else
    match Text.readInteger raw with
    | .ok n => (some n, [])
    | .error _ => (none, [raw])

/-- The slice that a text writes; what follows a second comma does not count. -/
def parse (spec : Text) : Slice :=
  let pieces := Text.splitOn ',' spec
  let (start, ignoredStart) := bound (pieces.getD 0 [])
  let (stop, ignoredStop) := bound (pieces.getD 1 [])
  { start, stop, ignored := ignoredStart ++ ignoredStop }

/-- The position that a bound means in a content of the given length. -/
def position (length : Nat) (bound : Int) : Nat :=
  if bound < 0 then (bound + length).toNat else min bound.toNat length

/-- The elements between the two bounds. -/
def ofList {α : Type} (slice : Slice) (xs : List α) : List α :=
  let low := (slice.start.map (position xs.length)).getD 0
  let high := (slice.stop.map (position xs.length)).getD xs.length
  (xs.take high).drop low

/-- The part of a content between the two bounds. -/
def apply (slice : Slice) : Content → Content
  | .text t => .text (slice.ofList t)
  | .bytes b => .bytes (slice.ofList b)

end Slice
end BlockWeave
