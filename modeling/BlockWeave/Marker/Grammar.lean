import BlockWeave.Marker.Assignment
import BlockWeave.Marker.Basic

/-! # Recognising a marker

Six rules, one for each family and shape, are tried in a fixed order at the start
of a text. A tag may be any leading part of a run of name characters, so the
choices are tried from the longest to the shortest; attributes are read as far as
they go, and a body ends at the first place where its closing stands. -/

namespace BlockWeave

/-- The ways to take a name off the start of a text, the longest name first. -/
def nameChoices : Text → List (Text × Text)
  | [] => []
  | c :: s =>
      if isNameChar c then
        (nameChoices s).map (fun (name, rest) => (c :: name, rest)) ++ [([c], s)]
      else []

/-- Each choice splits the text into a name and the rest. -/
theorem nameChoices_append {s : Text} {choice : Text × Text} (h : choice ∈ nameChoices s) :
    s = choice.1 ++ choice.2 := by
  induction s generalizing choice with
  | nil => simp [nameChoices] at h
  | cons c s ih =>
      simp only [nameChoices] at h
      split at h
      · simp only [List.mem_append, List.mem_map, List.mem_singleton] at h
        rcases h with ⟨inner, hm, rfl⟩ | rfl
        · simp [ih hm]
        · rfl
      · simp at h

/-- The tag of references that need no body. -/
def includeTag : Text := ['i', 'n', 'c', 'l', 'u', 'd', 'e']

/-- Blanks followed by a fixed ending: both as one piece, and the rest. -/
def blanksThen? (ending s : Text) : Option (Text × Text) := do
  let rest ← Text.dropLead? ending (s.dropWhile Text.isAsciiBlank)
  return (s.takeWhile Text.isAsciiBlank ++ ending, rest)

/-- Blanks and the ending are taken off the start. -/
theorem blanksThen?_append {ending s piece rest : Text}
    (h : blanksThen? ending s = some (piece, rest)) : s = piece ++ rest := by
  simp only [blanksThen?, Option.bind_eq_bind, Option.bind_eq_some_iff, Option.pure_def,
    Option.some.injEq, Prod.mk.injEq] at h
  obtain ⟨r, hr, rfl, rfl⟩ := h
  have h₁ := List.takeWhile_append_dropWhile (p := Text.isAsciiBlank) (l := s)
  rw [Text.dropLead?_eq_some_iff.1 hr] at h₁
  rw [List.append_assoc, h₁]

/-- The end of a marker without a body: a slash may stand before the ending. -/
def selfClosing? (family : Family) (s : Text) : Option (Text × Text) :=
  (blanksThen? ('/' :: family.ending) s).or (blanksThen? family.ending s)

theorem selfClosing?_append {family : Family} {s piece rest : Text}
    (h : selfClosing? family s = some (piece, rest)) : s = piece ++ rest := by
  simp only [selfClosing?, Option.or_eq_some_iff] at h
  rcases h with h | ⟨_, h⟩
  · exact blanksThen?_append h
  · exact blanksThen?_append h

/-- What ends the opening of a marker with a body. -/
def Shape.openingEnd (shape : Shape) (family : Family) : Text :=
  match shape with
  | .selfClosing | .markerPair => family.ending
  | .tagPair => ['>']

/-- What ends the body of a marker. -/
def Shape.bodyEnd (shape : Shape) (family : Family) (tag : Text) : Text :=
  match shape with
  | .selfClosing => []
  | .markerPair => family.closingMarker tag
  | .tagPair => family.closingTag tag

/-- A rule: the family and the shape of the markers it recognises. -/
structure Rule where
  family : Family
  shape : Shape
  deriving Repr, DecidableEq

namespace Rule

/-- The `include` marker without a body at the start of a text. -/
def readSelfClosing? (family : Family) (offset : Int) (s : Text) : Option Marker := do
  let afterOpening ← Text.dropLead? family.opening s
  let afterTag ← Text.dropLead? includeTag afterOpening
  let (items, afterItems) := attributeList afterTag
  let (closing, _) ← selfClosing? family afterItems
  return {
    family, shape := .selfClosing, tag := includeTag, attrText := attributeText items,
    openingClose := [], body := [], closing, offset }

theorem readSelfClosing?_append {family : Family} {offset : Int} {s : Text} {m : Marker}
    (h : readSelfClosing? family offset s = some m) : ∃ rest, s = m.text ++ rest := by
  simp only [readSelfClosing?, Option.bind_eq_bind, Option.bind_eq_some_iff, Option.pure_def,
    Option.some.injEq] at h
  obtain ⟨afterOpening, h₁, afterTag, h₂, ⟨closing, rest⟩, h₃, rfl⟩ := h
  refine ⟨rest, ?_⟩
  have e₁ := Text.dropLead?_eq_some_iff.1 h₁
  have e₂ := Text.dropLead?_eq_some_iff.1 h₂
  have e₃ := attributeList_append afterTag
  have e₄ := selfClosing?_append h₃
  rw [e₁, e₂]
  conv => lhs; rw [e₃, e₄]
  simp [Marker.text, Marker.rebuild, Marker.head, Marker.opening]

/-- A marker with a body whose tag has been chosen. -/
def readTagged? (rule : Rule) (offset : Int) (choice : Text × Text) : Option Marker := do
  let (tag, afterTag) := choice
  let (items, afterItems) := attributeList afterTag
  let (openingClose, afterOpening) ← blanksThen? (rule.shape.openingEnd rule.family) afterItems
  let closing := rule.shape.bodyEnd rule.family tag
  let (body, _) ← Text.cutFirst? closing afterOpening
  return {
    family := rule.family, shape := rule.shape, tag, attrText := attributeText items,
    openingClose, body, closing, offset }

theorem readTagged?_append {rule : Rule} {offset : Int} {choice : Text × Text} {m : Marker}
    (h : rule.readTagged? offset choice = some m) :
    ∃ rest, rule.family.opening ++ (choice.1 ++ choice.2) = m.text ++ rest := by
  simp only [readTagged?, Option.bind_eq_bind, Option.bind_eq_some_iff, Option.pure_def,
    Option.some.injEq] at h
  obtain ⟨⟨openingClose, afterOpening⟩, h₁, ⟨body, rest⟩, h₂, rfl⟩ := h
  refine ⟨rest, ?_⟩
  have e₁ := attributeList_append choice.2
  have e₂ := blanksThen?_append h₁
  have e₃ : afterOpening = _ := Text.cutFirst?_append h₂
  conv => lhs; rw [e₁, e₂, e₃]
  simp [Marker.text, Marker.rebuild, Marker.head, Marker.opening]

/-- The marker that a rule recognises at the start of a text. -/
def read? (rule : Rule) (offset : Int) (s : Text) : Option Marker :=
  match rule.shape with
  | .selfClosing => readSelfClosing? rule.family offset s
  | .markerPair | .tagPair => do
      let afterOpening ← Text.dropLead? rule.family.opening s
      (nameChoices afterOpening).findSome? (rule.readTagged? offset)

/-- A marker that a rule recognises is a leading part of the text. -/
theorem read?_append {rule : Rule} {offset : Int} {s : Text} {m : Marker}
    (h : rule.read? offset s = some m) : ∃ rest, s = m.text ++ rest := by
  have tagged (h : ((Text.dropLead? rule.family.opening s).bind fun afterOpening =>
      (nameChoices afterOpening).findSome? (rule.readTagged? offset)) = some m) :
      ∃ rest, s = m.text ++ rest := by
    obtain ⟨afterOpening, h₁, h₂⟩ := Option.bind_eq_some_iff.1 h
    obtain ⟨choice, hc, h₃⟩ := List.exists_of_findSome?_eq_some h₂
    rw [Text.dropLead?_eq_some_iff.1 h₁, nameChoices_append hc]
    exact readTagged?_append h₃
  obtain ⟨family, shape⟩ := rule
  cases shape with
  | selfClosing => exact readSelfClosing?_append h
  | markerPair => exact tagged h
  | tagPair => exact tagged h

end Rule

/-- The rules in the order in which they are tried. -/
def rules : List Rule := [
  ⟨.html, .selfClosing⟩, ⟨.html, .markerPair⟩, ⟨.html, .tagPair⟩,
  ⟨.block, .selfClosing⟩, ⟨.block, .markerPair⟩, ⟨.block, .tagPair⟩]

/-- The marker at the start of a text that stands at the given offset. -/
def readMarker? (offset : Int) (s : Text) : Option Marker :=
  rules.findSome? fun rule => rule.read? offset s

/-- A marker is a leading part of the text it is read from. -/
theorem readMarker?_append {offset : Int} {s : Text} {m : Marker}
    (h : readMarker? offset s = some m) : ∃ rest, s = m.text ++ rest := by
  obtain ⟨rule, _, hr⟩ := List.exists_of_findSome?_eq_some h
  exact Rule.read?_append hr

/-- The marker at a position of a content whose first character has offset `base`.
A position before the content reads at its start and keeps its own offset. -/
def markerAt? (content : Text) (position base : Int) : Option Marker :=
  readMarker? (base + position) (content.drop position.toNat)

end BlockWeave
