import BlockWeave.Proofs.Marker.Include
import Mathlib.Logic.Relation

/-!
# Files that include each other

The files of one directory, each a list of pieces, form a graph: a file refers to the
files that its markers include. A file expands when every marker in it can be replaced
by the expansion of its target, and this is so exactly when no cycle can be reached.

## Implementation notes

`Expansion` is inductive, so an expansion is finite; the files that it goes through are
accessible against the direction of reference, which no file on a cycle is.
-/

namespace BlockWeave.Include

open Relation

/-- A piece of a file. -/
inductive Piece where
  /-- A text that stands for itself. -/
  | literal (text : Text)
  /-- A marker that includes a file. -/
  | file (name : Text)
  deriving Repr, DecidableEq

namespace Piece

/-- A piece as it is written. -/
def text : Piece → Text
  | literal text => text
  | file name => includeText name

/-- Literals are plain, and files have names of letters and digits. -/
def Proper : Piece → Prop
  | literal text => IsPlain text
  | file name => IsFileName name

end Piece

/-- Pieces as they are written, one after the other. -/
def sourceOf (pieces : List Piece) : Text :=
  pieces.flatMap Piece.text

/-- The files of a directory by their names. -/
structure FileSet where
  files : Table Text (List Piece)
  isFileName : ∀ name pieces, files.get? name = some pieces → IsFileName name
  proper : ∀ name pieces, files.get? name = some pieces → ∀ piece ∈ pieces, piece.Proper

namespace FileSet

/-- The pieces of a file; a file that is not there has none. -/
def pieces (set : FileSet) (name : Text) : List Piece :=
  (set.files.get? name).getD []

/-- A file of the set has a marker that includes another file, which need not be in the
set. -/
def Refers (set : FileSet) (name target : Text) : Prop :=
  .file target ∈ set.pieces name

/-- A file is reached that refers to itself, directly or through other files. -/
def Cyclic (set : FileSet) (entry : Text) : Prop :=
  ∃ name, ReflTransGen set.Refers entry name ∧ TransGen set.Refers name name

/-- What pieces expand to. -/
inductive Expansion (set : FileSet) : List Piece → Text → Prop
  | nil : Expansion set [] []
  | literal {text out : Text} {rest : List Piece} (hrest : Expansion set rest out) :
      Expansion set (.literal text :: rest) (text ++ out)
  /-- A marker is replaced by the expansion of its target, which is empty when the
  target does not exist. -/
  | file {name text out : Text} {rest : List Piece} (hfile : Expansion set (set.pieces name) text)
      (hrest : Expansion set rest out) : Expansion set (.file name :: rest) (text ++ out)

/-- What a file expands to. -/
def Expands (set : FileSet) (name text : Text) : Prop :=
  set.Expansion (set.pieces name) text

variable {set : FileSet}

theorem proper_pieces (set : FileSet) (name : Text) :
    ∀ piece ∈ set.pieces name, piece.Proper := by
  intro piece hpiece
  cases hfile : set.files.get? name with
  | none => simp [pieces, hfile] at hpiece
  | some found => exact set.proper name found hfile piece (by simpa [pieces, hfile] using hpiece)

/-- A file that refers to another one is in the set. -/
theorem exists_of_refers {name target : Text} (h : set.Refers name target) :
    ∃ pieces, set.files.get? name = some pieces := by
  cases hfile : set.files.get? name with
  | none => simp [Refers, pieces, hfile] at h
  | some found => exact ⟨found, rfl⟩

theorem isFileName_of_refers {name target : Text} (h : set.Refers name target) :
    IsFileName target :=
  set.proper_pieces name (.file target) h

namespace Expansion

variable {pieces : List Piece} {text other : Text}

/-- Pieces expand to one text. -/
theorem unique (h : set.Expansion pieces text) (h' : set.Expansion pieces other) :
    text = other := by
  induction h generalizing other with
  | nil =>
      cases h'
      rfl
  | literal _ ih =>
      cases h' with
      | literal hrest => rw [ih hrest]
  | file _ _ ihfile ihrest =>
      cases h' with
      | file hfile hrest => rw [ihfile hfile, ihrest hrest]

/-- Whatever proper pieces expand to is plain. -/
theorem plain (h : set.Expansion pieces text) (hproper : ∀ piece ∈ pieces, piece.Proper) :
    IsPlain text := by
  induction h with
  | nil => exact IsPlain.nil
  | literal _ ih =>
      have hliteral := hproper _ List.mem_cons_self
      exact IsPlain.append hliteral (ih fun piece hp => hproper piece (by simp [hp]))
  | @file name _ _ _ _ _ ihfile ihrest =>
      have htarget := ihfile (set.proper_pieces name)
      exact htarget.append (ihrest fun piece hp => hproper piece (by simp [hp]))

/-- An expansion goes through accessible files only. -/
theorem acc (h : set.Expansion pieces text) {name : Text} (hname : .file name ∈ pieces) :
    Acc (Function.swap set.Refers) name := by
  induction h generalizing name with
  | nil => simp at hname
  | literal _ ih => exact ih (by simpa using hname)
  | @file target _ _ _ _ _ ihfile ihrest =>
      rcases List.mem_cons.1 hname with he | hname
      · obtain rfl : name = target := by simpa using he
        exact Acc.intro name fun next hnext => ihfile hnext
      · exact ihrest hname

end Expansion

/-- An accessible file lies on no cycle. -/
theorem not_transGen_self {name : Text} (h : Acc (Function.swap set.Refers) name) :
    ¬ TransGen set.Refers name name := by
  have hacc := h.transGen
  clear h
  rw [← transGen_swap]
  induction hacc with
  | intro name _ ih => exact fun hcycle => ih name hcycle hcycle

/-- A file that expands reaches no cycle. -/
theorem Expands.not_cyclic {entry text : Text} (h : set.Expands entry text) :
    ¬ set.Cyclic entry := by
  rintro ⟨name, hreach, hcycle⟩
  have hentry : Acc (Function.swap set.Refers) entry :=
    Acc.intro entry fun next hnext => h.acc hnext
  rcases reflTransGen_iff_eq_or_transGen.1 hreach with rfl | hreach
  · exact not_transGen_self hentry hcycle
  · exact not_transGen_self (hentry.inv_of_transGen (transGen_swap.2 hreach)) hcycle

end FileSet
end BlockWeave.Include
