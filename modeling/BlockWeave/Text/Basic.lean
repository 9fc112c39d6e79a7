/-! # Texts

A text is its list of characters. The operations here cut a text at a known
lead, at a needle or at a separator; each is followed by the equation that says
that nothing is lost. -/

namespace BlockWeave

/-- A text, as the list of its characters. -/
abbrev Text := List Char

namespace Text

/-- What follows a given lead, if the text starts with it. -/
def dropLead? : Text → Text → Option Text
  | [], s => some s
  | _ :: _, [] => none
  | c :: lead, d :: s => if c = d then dropLead? lead s else none

theorem dropLead?_eq_some_iff {lead s rest : Text} :
    dropLead? lead s = some rest ↔ s = lead ++ rest := by
  induction lead generalizing s with
  | nil => simp [dropLead?, eq_comm]
  | cons c lead ih =>
      cases s with
      | nil => simp [dropLead?]
      | cons d s =>
          by_cases h : c = d
          · simp [dropLead?, h, ih]
          · simp [dropLead?, h, Ne.symm h]

/-- A text starts with a lead. -/
def startsWith (lead s : Text) : Bool :=
  (dropLead? lead s).isSome

/-- The parts before and after the first place where a needle stands. -/
def cutFirst? (needle : Text) : Text → Option (Text × Text)
  | [] => (dropLead? needle []).map fun rest => ([], rest)
  | c :: s =>
      match dropLead? needle (c :: s) with
      | some rest => some ([], rest)
      | none => (cutFirst? needle s).map fun (before, rest) => (c :: before, rest)

/-- Cutting at a needle loses nothing. -/
theorem cutFirst?_append {needle s before rest : Text}
    (h : cutFirst? needle s = some (before, rest)) : s = before ++ needle ++ rest := by
  induction s generalizing before with
  | nil =>
      simp only [cutFirst?, Option.map_eq_some_iff, Prod.mk.injEq] at h
      obtain ⟨r, hr, rfl, rfl⟩ := h
      simpa using dropLead?_eq_some_iff.1 hr
  | cons c s ih =>
      simp only [cutFirst?] at h
      split at h
      next r hr =>
        simp only [Option.some.injEq, Prod.mk.injEq] at h
        obtain ⟨rfl, rfl⟩ := h
        simpa using dropLead?_eq_some_iff.1 hr
      next =>
        simp only [Option.map_eq_some_iff, Prod.mk.injEq] at h
        obtain ⟨⟨b, r⟩, hr, rfl, rfl⟩ := h
        simpa using ih hr

/-- A text holds a needle somewhere. -/
def contains (needle s : Text) : Bool :=
  (cutFirst? needle s).isSome

/-- The pieces of a text between the places where a separator stands. -/
def splitOn (separator : Char) : Text → List Text
  | [] => [[]]
  | c :: s =>
      if c = separator then [] :: splitOn separator s
      else
        match splitOn separator s with
        | [] => [[c]]
        | piece :: pieces => (c :: piece) :: pieces

/-- A text does not come after another one in the order of their characters. -/
def notAfter : Text → Text → Bool
  | [], _ => true
  | _ :: _, [] => false
  | c :: s, d :: t => c.toNat < d.toNat || (c == d && notAfter s t)

/-- Pieces put together with a separator between them. -/
def join (separator : Text) (pieces : List Text) : Text :=
  (pieces.intersperse separator).flatten

/-- A text without the characters of a class at its end. -/
def trimRight (p : Char → Bool) (s : Text) : Text :=
  (s.reverse.dropWhile p).reverse

/-- A text without the characters of a class at its two ends. -/
def trim (p : Char → Bool) (s : Text) : Text :=
  trimRight p (s.dropWhile p)

end Text
end BlockWeave
