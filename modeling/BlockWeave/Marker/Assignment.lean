import BlockWeave.Text.Blank
import BlockWeave.Text.Word

/-! # Attribute assignments

An assignment is a name, an equals sign and a quoted value, with blanks allowed
around the sign. `Assignment.read?` reads one at the start of a text.
`attributeList` reads the run of spaced assignments that follows a tag, and
`findAssignments` collects the assignments that stand anywhere in a text. -/

namespace BlockWeave

/-- Letters and digits of ASCII, underscore, hyphen and period. -/
def isNameChar (c : Char) : Bool :=
  Text.isAsciiWord c || c == '-' || c == '.'

/-- A name bound to a quoted value, with the blanks around the equals sign. -/
structure Assignment where
  name : Text
  gapBefore : Text
  gapAfter : Text
  value : Text
  deriving Repr, DecidableEq

namespace Assignment

/-- The assignment as it is written. -/
def text (a : Assignment) : Text :=
  a.name ++ a.gapBefore ++ '=' :: a.gapAfter ++ '"' :: a.value ++ ['"']

/-- The assignment at the start of a text, and the rest. Name and value are not
empty, and the value reaches to the next quote. -/
def read? (s : Text) : Option (Assignment × Text) :=
  let name := s.takeWhile isNameChar
  let s₁ := s.dropWhile isNameChar
  let gapBefore := s₁.takeWhile Text.isAsciiBlank
  match s₁.dropWhile Text.isAsciiBlank with
  | '=' :: s₂ =>
      let gapAfter := s₂.takeWhile Text.isAsciiBlank
      match s₂.dropWhile Text.isAsciiBlank with
      | '"' :: s₃ =>
          let value := s₃.takeWhile (· != '"')
          match s₃.dropWhile (· != '"') with
          | '"' :: rest =>
              if name = [] ∨ value = [] then none
              else some ({ name, gapBefore, gapAfter, value }, rest)
          | _ => none
      | _ => none
  | _ => none

/-- Reading an assignment loses nothing. -/
theorem read?_append {s rest : Text} {a : Assignment} (h : read? s = some (a, rest)) :
    s = a.text ++ rest := by
  have h₀ := List.takeWhile_append_dropWhile (p := isNameChar) (l := s)
  simp only [read?] at h
  split at h
  next s₂ h₁ =>
    have e₁ := List.takeWhile_append_dropWhile (p := Text.isAsciiBlank)
      (l := s.dropWhile isNameChar)
    have e₂ := List.takeWhile_append_dropWhile (p := Text.isAsciiBlank) (l := s₂)
    split at h
    next s₃ h₂ =>
      have e₃ := List.takeWhile_append_dropWhile (p := (· != '"')) (l := s₃)
      split at h
      next r h₃ =>
        split at h
        · simp at h
        · simp only [Option.some.injEq, Prod.mk.injEq] at h
          obtain ⟨rfl, rfl⟩ := h
          rw [h₃] at e₃
          rw [h₂, ← e₃] at e₂
          rw [h₁, ← e₂] at e₁
          rw [← e₁] at h₀
          refine h₀.symm.trans ?_
          simp [text]
      · simp at h
    · simp at h
  · simp at h

/-- An assignment that has been read holds at least one character. -/
theorem read?_length_lt {s rest : Text} {a : Assignment} (h : read? s = some (a, rest)) :
    rest.length < s.length := by
  rw [read?_append h]
  simp [text]
  omega

end Assignment

/-- The longest run of assignments at the start of a text, each with the blanks in
front of it, and the rest. -/
def attributeList (s : Text) : List (Text × Assignment) × Text :=
  match _h : Assignment.read? (s.dropWhile Text.isAsciiBlank) with
  | some (a, rest) =>
      let (items, last) := attributeList rest
      ((s.takeWhile Text.isAsciiBlank, a) :: items, last)
  | none => ([], s)
termination_by s.length
decreasing_by
  have h₁ := Assignment.read?_length_lt _h
  have h₂ := (List.dropWhile_sublist (p := Text.isAsciiBlank) (l := s)).length_le
  omega

/-- A run of spaced assignments as it is written. -/
def attributeText (items : List (Text × Assignment)) : Text :=
  (items.map fun (blanks, a) => blanks ++ a.text).flatten

/-- Reading a run of assignments loses nothing. -/
theorem attributeList_append (s : Text) :
    s = attributeText (attributeList s).1 ++ (attributeList s).2 := by
  fun_induction attributeList s with
  | case1 s a rest h items last hrec ih =>
      rw [hrec] at ih
      have h₁ := List.takeWhile_append_dropWhile (p := Text.isAsciiBlank) (l := s)
      rw [Assignment.read?_append h, ih] at h₁
      refine h₁.symm.trans ?_
      simp [attributeText]
  | case2 s h => simp [attributeText]

/-- The assignments of a text from left to right: where none starts, one character
is passed over. -/
def findAssignments : Text → List Assignment
  | [] => []
  | c :: s =>
      match _h : Assignment.read? (c :: s) with
      | some (a, rest) => a :: findAssignments rest
      | none => findAssignments s
termination_by s => s.length
decreasing_by
  · exact Assignment.read?_length_lt _h
  · simp

end BlockWeave
