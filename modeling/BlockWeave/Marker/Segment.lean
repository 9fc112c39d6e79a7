import BlockWeave.Marker.Grammar

/-! # Cutting a text at its markers

A text is cut from left to right into literal pieces and markers. Only places
where an opening stands are tried; when no rule fits there, one character is kept
and the search goes on behind it. The pieces put together give the text back, and
replacing the markers one after the other is a walk along the pieces. -/

namespace BlockWeave

/-- A piece of a text. -/
inductive Segment where
  | literal (text : Text)
  | marker (marker : Marker)
  deriving Repr, DecidableEq

namespace Segment

/-- The characters of a piece. -/
def text : Segment → Text
  | literal t => t
  | marker m => m.text

/-- The marker of a piece. -/
def marker? : Segment → Option Marker
  | literal _ => none
  | marker m => some m

end Segment

/-- An opening of either family stands at the start. -/
def atOpening (s : Text) : Bool :=
  Text.startsWith Family.html.opening s || Text.startsWith Family.block.opening s

/-- The part before the first opening, and the rest from there on. -/
def splitAtOpening : Text → Text × Text
  | [] => ([], [])
  | c :: s =>
      if atOpening (c :: s) then ([], c :: s)
      else
        let (before, rest) := splitAtOpening s
        (c :: before, rest)

theorem splitAtOpening_append (s : Text) :
    (splitAtOpening s).1 ++ (splitAtOpening s).2 = s := by
  induction s with
  | nil => rfl
  | cons c s ih =>
      simp only [splitAtOpening]
      split
      · rfl
      · simp [ih]

theorem splitAtOpening_length_le (s : Text) : (splitAtOpening s).2.length ≤ s.length := by
  have h := congrArg List.length (splitAtOpening_append s)
  simp only [List.length_append] at h
  omega

/-- The pieces of a content whose first character has the given offset. -/
def segments (offset : Int) (content : Text) : List Segment :=
  let before := (splitAtOpening content).1
  match _h : (splitAtOpening content).2 with
  | [] => [.literal before]
  | c :: rest =>
      let start := offset + before.length
      match readMarker? start (c :: rest) with
      | some m =>
          .literal before :: .marker m ::
            segments (start + m.text.length) ((c :: rest).drop m.text.length)
      | none => .literal (before ++ [c]) :: segments (start + 1) rest
termination_by content.length
decreasing_by
  · have h₁ := splitAtOpening_length_le content
    have h₂ := m.text_length_pos
    rw [_h] at h₁
    simp only [List.length_drop, List.length_cons] at h₁ ⊢
    omega
  · have h₁ := splitAtOpening_length_le content
    rw [_h] at h₁
    simp only [List.length_cons] at h₁
    omega

/-- The markers of a content from left to right, those inside bodies left out. -/
def markers (offset : Int) (content : Text) : List Marker :=
  (segments offset content).filterMap Segment.marker?

/-- The pieces put together are the content. -/
theorem segments_text (offset : Int) (content : Text) :
    ((segments offset content).map Segment.text).flatten = content := by
  fun_induction segments offset content with
  | case1 offset content before h =>
      have e := splitAtOpening_append content
      rw [h] at e
      simpa [Segment.text, before] using e
  | case2 offset content before c rest h start m hm ih =>
      have e := splitAtOpening_append content
      obtain ⟨tail, ht⟩ := readMarker?_append hm
      rw [ht, List.drop_left] at ih
      rw [h, ht] at e
      simpa [Segment.text, before, ht, ih] using e
  | case3 offset content before c rest h start hm ih =>
      have e := splitAtOpening_append content
      rw [h] at e
      simpa [Segment.text, before, ih] using e

/-- A marker of a content is not longer than the content. -/
theorem length_text_le_of_mem_markers {offset : Int} {content : Text} {m : Marker}
    (h : m ∈ markers offset content) : m.text.length ≤ content.length := by
  obtain ⟨segment, hs, hm⟩ := List.mem_filterMap.1 h
  have e : segment = .marker m := by
    cases segment with
    | literal t => simp [Segment.marker?] at hm
    | marker k => simpa [Segment.marker?] using hm
  subst e
  have hsub := List.sublist_flatten_of_mem (List.mem_map_of_mem (f := Segment.text) hs)
  rw [segments_text] at hsub
  exact hsub.length_le

/-- A content with each marker replaced by what the handler gives for it, the
handler being asked from left to right. -/
def replaceMarkers {m : Type → Type} [Monad m] (handler : Marker → m Text)
    (offset : Int) (content : Text) : m Text := do
  let pieces ← (segments offset content).mapM fun
    | .literal t => pure t
    | .marker marker => handler marker
  return pieces.flatten

end BlockWeave
