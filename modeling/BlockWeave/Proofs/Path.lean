import BlockWeave.Path
import Mathlib.Data.List.Induction

/-!
# Paths and their parts

An absolute path is its list of parts: writing proper parts and taking them off again
is the identity, so the directory of a path and the paths of the names in a directory
can be computed on the parts. Taking double dots away leaves some of the parts, in their
order, and no double dot; what it leaves leads only through places that the parts lead
through too.
-/

namespace BlockWeave

namespace Text

variable {separator : Char}

theorem splitOn_of_notMem {s : Text} (h : separator ∉ s) : splitOn separator s = [s] := by
  induction s with
  | nil => rfl
  | cons c s ih =>
      obtain ⟨hc, hs⟩ := not_or.1 (mt List.mem_cons.2 h)
      simp only [splitOn, Ne.symm hc, if_false, ih hs]

theorem splitOn_append {s : Text} (h : separator ∉ s) (rest : Text) :
    splitOn separator (s ++ separator :: rest) = s :: splitOn separator rest := by
  induction s with
  | nil => simp [splitOn]
  | cons c s ih =>
      obtain ⟨hc, hs⟩ := not_or.1 (mt List.mem_cons.2 h)
      simp only [List.cons_append, splitOn, Ne.symm hc, if_false, ih hs]

/-- Pieces without the separator are found again in the text that joins them. -/
theorem splitOn_join {pieces : List Text} (h : ∀ piece ∈ pieces, separator ∉ piece)
    (hne : pieces ≠ []) : splitOn separator (join [separator] pieces) = pieces := by
  induction pieces with
  | nil => exact absurd rfl hne
  | cons piece pieces ih =>
      have hpiece := h piece (by simp)
      cases pieces with
      | nil => simpa [join] using splitOn_of_notMem hpiece
      | cons next others =>
          have hjoin : join [separator] (piece :: next :: others) =
              piece ++ separator :: join [separator] (next :: others) := by
            simp [join]
          rw [hjoin, splitOn_append hpiece, ih (fun other ho => h other (by simp [ho])) (by simp)]

/-- Pieces left out, and the separators with them, leave a part of what was joined. -/
theorem join_sublist (separator : Char) {pieces others : List Text}
    (h : pieces.Sublist others) : (join [separator] pieces).Sublist (join [separator] others) := by
  have hcons (piece : Text) (pieces : List Text) : join [separator] (piece :: pieces) =
      piece ++ if pieces = [] then [] else separator :: join [separator] pieces := by
    cases pieces with
    | nil => simp [join]
    | cons next pieces => simp [join]
  induction h with
  | slnil => exact List.Sublist.refl _
  | @cons pieces others piece h ih =>
      rw [hcons]
      apply ih.trans
      by_cases hothers : others = []
      · subst hothers
        exact List.nil_sublist _
      · rw [if_neg hothers]
        exact (List.sublist_cons_self _ _).trans (List.sublist_append_right _ _)
  | @cons_cons pieces others piece h ih =>
      rw [hcons, hcons]
      apply List.Sublist.append_left
      by_cases hpieces : pieces = []
      · rw [if_pos hpieces]
        exact List.nil_sublist _
      · have hothers : others ≠ [] := by
          rintro rfl
          exact hpieces (List.sublist_nil.1 h)
        rw [if_neg hpieces, if_neg hothers]
        exact ih.cons_cons _

end Text

namespace Path

/-- A part of a path that stands for itself. -/
structure IsPart (part : Text) : Prop where
  ne_nil : part ≠ []
  ne_here : part ≠ here
  ne_up : part ≠ up
  slash : '/' ∉ part
  null : Char.ofNat 0 ∉ part

section Parts

variable {above : List Text} {name : Text}

/-- The parts of an absolute path are those that it was made of. -/
theorem parts_absolute (h : ∀ part ∈ above, IsPart part) : parts (absolute above) = above := by
  have hkeep : above.filter (fun part => part ≠ [] ∧ part ≠ here) = above := by
    rw [List.filter_eq_self]
    intro part hpart
    simpa using ⟨(h part hpart).ne_nil, (h part hpart).ne_here⟩
  have hsplit : Text.splitOn '/' (absolute above) =
      [] :: Text.splitOn '/' (Text.join ['/'] above) := by
    simp [absolute, Text.splitOn]
  rw [parts, hsplit]
  cases above with
  | nil => rfl
  | cons part above =>
      rw [Text.splitOn_join (fun other ho => (h other ho).slash) (by simp), List.filter_cons]
      simpa using hkeep

theorem absolute_inj {other : List Text} (h : ∀ part ∈ above, IsPart part)
    (hother : ∀ part ∈ other, IsPart part) (he : absolute above = absolute other) :
    above = other := by
  rw [← parts_absolute h, he, parts_absolute hother]

/-- Parts without double dots are normal. -/
theorem normal_of_notMem (h : up ∉ above) : normal above = above := by
  have hfold (done : List Text) : above.foldl climb done = above.reverse ++ done := by
    induction above generalizing done with
    | nil => rfl
    | cons part above ih =>
        obtain ⟨hpart, habove⟩ := not_or.1 (mt List.mem_cons.2 h)
        have hclimb : climb done part = part :: done := by
          rw [climb, if_neg (Ne.symm hpart)]
        rw [List.foldl_cons, hclimb, ih habove]
        simp
  rw [normal, hfold [], List.append_nil, List.reverse_reverse]

/-- Parts that stand for themselves are normal. -/
theorem normal_eq_self (h : ∀ part ∈ above, IsPart part) : normal above = above :=
  normal_of_notMem fun hup => (h up hup).ne_up rfl

theorem isPart_concat (h : ∀ part ∈ above, IsPart part) (hname : IsPart name) :
    ∀ part ∈ above ++ [name], IsPart part := by
  intro part hpart
  rcases List.mem_append.1 hpart with hpart | hpart
  · exact h part hpart
  · rw [List.mem_singleton.1 hpart]
    exact hname

/-- The directory of a name. -/
theorem parent_absolute (h : ∀ part ∈ above, IsPart part) (hname : IsPart name) :
    parent (absolute (above ++ [name])) = absolute above := by
  rw [parent, parts_absolute (isPart_concat h hname), List.dropLast_concat]

/-- The path of a name in a directory. -/
theorem resolve_absolute (h : ∀ part ∈ above, IsPart part) (hname : IsPart name) :
    resolve (absolute above) name = .ok (absolute (above ++ [name])) := by
  have hrelative : isAbsolute name = false := by
    obtain ⟨c, rest, rfl⟩ := List.exists_cons_of_ne_nil hname.ne_nil
    have hc := List.ne_of_not_mem_cons hname.slash
    simpa [isAbsolute] using Ne.symm hc
  have hparts : parts name = [name] := by
    rw [parts, Text.splitOn_of_notMem hname.slash]
    simp [hname.ne_nil, hname.ne_here]
  have hall := isPart_concat h hname
  have hnull : (above ++ [name]).any (fun part => List.elem (Char.ofNat 0) part) = false := by
    rw [List.any_eq_false]
    intro part hpart
    simpa using (hall part hpart).null
  simp only [resolve, hrelative, hparts, parts_absolute h, hnull, normal_eq_self hall,
    Bool.false_eq_true, if_false]

end Parts

section Places

theorem normal_concat (above : List Text) (part : Text) :
    normal (above ++ [part]) =
      if part = up then (normal above).dropLast else normal above ++ [part] := by
  simp only [normal, List.foldl_append, List.foldl_cons, List.foldl_nil, climb]
  split
  · rw [List.drop_one, List.dropLast_reverse]
  · rw [List.reverse_cons]

/-- Taking double dots away only leaves parts out. -/
theorem normal_sublist (above : List Text) : (normal above).Sublist above := by
  induction above using List.reverseRecOn with
  | nil => exact List.Sublist.refl _
  | append_singleton above part ih =>
      rw [normal_concat]
      split
      · exact (List.dropLast_sublist _).trans (ih.trans (List.sublist_append_left _ _))
      · exact ih.append_right _

theorem up_notMem_normal (above : List Text) : up ∉ normal above := by
  induction above using List.reverseRecOn with
  | nil => exact List.not_mem_nil
  | append_singleton above part ih =>
      rw [normal_concat]
      split
      · exact fun h => ih (List.dropLast_subset _ h)
      next hpart => simp [ih, Ne.symm hpart]

/-- A place above the one that parts lead to is passed on the way there. -/
theorem exists_normal_eq_of_prefix {above front : List Text} (h : front <+: normal above) :
    ∃ passed, passed <+: above ∧ normal passed = front := by
  induction above using List.reverseRecOn with
  | nil => exact ⟨[], List.nil_prefix, (List.prefix_nil.1 h).symm⟩
  | append_singleton above part ih =>
      have hbefore (hfront : front <+: normal above) :
          ∃ passed, passed <+: above ++ [part] ∧ normal passed = front := by
        obtain ⟨passed, hpassed, hnormal⟩ := ih hfront
        exact ⟨passed, hpassed.trans (List.prefix_append _ _), hnormal⟩
      rw [normal_concat] at h
      split at h
      · exact hbefore (h.trans (List.dropLast_prefix _))
      next hup =>
        rcases List.prefix_concat_iff.1 h with rfl | hfront
        · exact ⟨above ++ [part], List.prefix_rfl, by rw [normal_concat, if_neg hup]⟩
        · exact hbefore hfront

theorem absolute_sublist {above other : List Text} (h : above.Sublist other) :
    (absolute above).Sublist (absolute other) :=
  (Text.join_sublist '/' h).cons_cons _

theorem mem_absolute {above : List Text} {part : Text} (h : part ∈ above) {c : Char}
    (hc : c ∈ part) : c ∈ absolute above := by
  have hpart : [part].Sublist above := List.singleton_sublist.2 h
  apply (absolute_sublist hpart).subset
  simp [absolute, Text.join, hc]

end Places
end Path
end BlockWeave
