import BlockWeave.Proofs.Path
import BlockWeave.Proofs.Text.Integer
import BlockWeave.Slice

/-!
# What a slice keeps

A slice is two bounds, each of them an integer or missing. A negative bound counts from the end,
and one that lies outside of the content means the end that it lies beyond. The elements at the
positions from the first bound up to the second are kept.
-/

namespace BlockWeave

/-- The elements at the positions from a low bound up to a high one. -/
def elementsBetween {α : Type} (low high : Int) (xs : List α) : List α :=
  (xs.zipIdx.filter fun x => low ≤ x.2 ∧ x.2 < high).map Prod.fst

namespace Content

/-- The elements of a content at the positions from a low bound up to a high one. -/
def between (low high : Int) : Content → Content
  | text t => text (elementsBetween low high t)
  | bytes b => bytes (elementsBetween low high b)

/-- A content is one content followed by another. -/
inductive Joins : Content → Content → Content → Prop
  | text (front back : Text) : Joins (text front) (text back) (text (front ++ back))
  | bytes (front back : List UInt8) : Joins (bytes front) (bytes back) (bytes (front ++ back))

end Content

namespace Slice

/-- The position that a bound means: a negative one has the length added, and what is outside of
the content is moved to its end. -/
def target (length : Nat) (bound : Int) : Int :=
  max 0 (min length (if bound < 0 then bound + length else bound))

theorem position_eq (length : Nat) (bound : Int) :
    (position length bound : Int) = target length bound := by
  rw [position, target]
  split_ifs <;> omega

section Elements

variable {α : Type}

/-- Counting from a start, the elements from a low position up to a high one. -/
theorem filter_zipIdx_eq (low high start : Nat) (xs : List α) :
    ((xs.zipIdx start).filter fun x => (low : Int) ≤ x.2 ∧ (x.2 : Int) < high).map Prod.fst =
      (xs.take (high - start)).drop (low - start) := by
  induction xs generalizing start with
  | nil => simp
  | cons x xs ih =>
      rw [List.zipIdx_cons, List.filter_cons]
      by_cases hhigh : start < high
      · have htake : high - start = (high - (start + 1)) + 1 := by omega
        rw [htake, List.take_succ_cons]
        by_cases hlow : low ≤ start
        · have hdrop : low - (start + 1) = 0 := by omega
          have hzero : low - start = 0 := by omega
          rw [if_pos (by simp [hlow, hhigh]), List.map_cons, ih, hdrop, hzero]
          rfl
        · have hdrop : low - start = (low - (start + 1)) + 1 := by omega
          rw [if_neg (by simp [hlow]), ih, hdrop, List.drop_succ_cons]
      · have htake : high - start = 0 := by omega
        have hnext : high - (start + 1) = 0 := by omega
        rw [if_neg (by simp [hhigh]), ih, htake, hnext, List.take_zero, List.take_zero,
          List.drop_nil, List.drop_nil]

/-- A slice keeps the elements between the positions that its bounds mean. -/
theorem ofList_eq (slice : Slice) (xs : List α) :
    slice.ofList xs =
      elementsBetween ((slice.start.map (target xs.length)).getD 0)
        ((slice.stop.map (target xs.length)).getD xs.length) xs := by
  have hlow : (slice.start.map (target xs.length)).getD 0 =
      ((slice.start.map (position xs.length)).getD 0 : Nat) := by
    cases slice.start with
    | none => rfl
    | some bound => exact (position_eq xs.length bound).symm
  have hhigh : (slice.stop.map (target xs.length)).getD xs.length =
      ((slice.stop.map (position xs.length)).getD xs.length : Nat) := by
    cases slice.stop with
    | none => rfl
    | some bound => exact (position_eq xs.length bound).symm
  rw [hlow, hhigh, elementsBetween, filter_zipIdx_eq]
  rfl

theorem apply_eq (slice : Slice) (content : Content) :
    slice.apply content =
      content.between ((slice.start.map (target content.length)).getD 0)
        ((slice.stop.map (target content.length)).getD content.length) := by
  cases content with
  | text t => exact congrArg Content.text (ofList_eq slice t)
  | bytes b => exact congrArg Content.bytes (ofList_eq slice b)

/-- What ends at a bound, followed by what starts at it, is the whole. -/
theorem joins_apply (bound : Int) (content : Content) :
    Content.Joins (apply ⟨none, some bound, []⟩ content) (apply ⟨some bound, none, []⟩ content)
      content := by
  have hjoin {α : Type} (xs : List α) :
      ofList ⟨none, some bound, []⟩ xs ++ ofList ⟨some bound, none, []⟩ xs = xs := by
    simp [ofList]
  cases content with
  | text t =>
      have h := Content.Joins.text (ofList ⟨none, some bound, []⟩ t)
        (ofList ⟨some bound, none, []⟩ t)
      rwa [hjoin] at h
  | bytes b =>
      have h := Content.Joins.bytes (ofList ⟨none, some bound, []⟩ b)
        (ofList ⟨some bound, none, []⟩ b)
      rwa [hjoin] at h

end Elements

section Writing

/-- How a bound is written: an integer, or nothing but blanks where there is none. -/
inductive IsBound : Text → Option Int → Prop
  | blank {raw} (h : ∀ c ∈ raw, Text.isBlank c = true) : IsBound raw none
  | integer {raw n} (h : Text.IsInteger raw n) : IsBound raw (some n)

/-- How a slice is written: one bound, or two with a comma between them, behind which a second
comma may start what does not count. -/
inductive Writes : Text → Option Int → Option Int → Prop
  | start {raw start} (h : IsBound raw start) : Writes raw start none
  | both {first second start stop} (hfirst : IsBound first start) (hsecond : IsBound second stop) :
      Writes (first ++ ',' :: second) start stop
  | more {first second start stop} (hfirst : IsBound first start) (hsecond : IsBound second stop)
      (rest : Text) : Writes (first ++ ',' :: (second ++ ',' :: rest)) start stop

variable {raw spec : Text} {start stop bound : Option Int}

/-- A missing bound. -/
theorem IsBound.nil : IsBound [] none :=
  .blank (by simp)

theorem IsBound.notMem (h : IsBound raw bound) : ',' ∉ raw := by
  cases h with
  | blank h =>
      intro hcomma
      exact absurd (h _ hcomma) (by decide)
  | integer h => exact h.notMem

theorem IsBound.bound_eq (h : IsBound raw bound) : Slice.bound raw = (bound, []) := by
  cases h with
  | blank h =>
      rw [Slice.bound, Text.strip_eq_nil h]
      rfl
  | integer h =>
      obtain ⟨hne, hread⟩ := h.readInteger_strip
      simp only [Slice.bound, hne, if_false, hread]

/-- A written slice is read, and no part of it is ignored. -/
theorem Writes.parse_eq (h : Writes spec start stop) : parse spec = ⟨start, stop, []⟩ := by
  cases h with
  | start h =>
      have hmissing : Slice.bound [] = (none, []) := rfl
      rw [parse, Text.splitOn_of_notMem h.notMem]
      simp [h.bound_eq, hmissing]
  | both hfirst hsecond =>
      rw [parse, Text.splitOn_append hfirst.notMem, Text.splitOn_of_notMem hsecond.notMem]
      simp [hfirst.bound_eq, hsecond.bound_eq]
  | more hfirst hsecond rest =>
      rw [parse, Text.splitOn_append hfirst.notMem, Text.splitOn_append hsecond.notMem]
      simp [hfirst.bound_eq, hsecond.bound_eq]

/-- A written slice keeps the elements at the positions from its first bound up to its second one,
where a negative bound counts from the end, a bound outside of the content means the end that it
lies beyond, and a missing one the end on its side. What ends at an integer, followed by what
starts at it, is the content again. -/
theorem apply_parse :
    (∀ {spec : Text} {start stop : Option Int}, Writes spec start stop → ∀ content : Content,
      (parse spec).apply content =
        content.between ((start.map (target content.length)).getD 0)
          ((stop.map (target content.length)).getD content.length)) ∧
    ∀ {raw : Text} {n : Int}, Text.IsInteger raw n → ∀ content : Content,
      Content.Joins ((parse (',' :: raw)).apply content) ((parse (raw ++ [','])).apply content)
        content := by
  constructor
  · intro spec start stop h content
    rw [h.parse_eq, apply_eq]
  · intro raw n h content
    have hstop : parse (',' :: raw) = ⟨none, some n, []⟩ :=
      Writes.parse_eq (.both .nil (.integer h))
    have hstart : parse (raw ++ [',']) = ⟨some n, none, []⟩ :=
      Writes.parse_eq (.both (.integer h) .nil)
    rw [hstop, hstart]
    exact joins_apply n content

/-- Digits of two scripts, blanks around the bounds and a field that does not count. -/
theorem apply_parse_blanks :
    Writes [' ', '-', '٤', ' ', ',', '\t', '+', '0', '3', ',', 'x'] (some (-4)) (some 3) ∧
      (parse [' ', '-', '٤', ' ', ',', '\t', '+', '0', '3', ',', 'x']).apply
        (.text ['a', 'b', 'c', 'd', 'e', 'f']) = .text ['c'] ∧
      Text.IsInteger ['-', '2'] (-2) ∧
      Content.Joins ((parse [',', '-', '2']).apply (.bytes [1, 2, 3]))
        ((parse ['-', '2', ',']).apply (.bytes [1, 2, 3])) (.bytes [1, 2, 3]) := by
  have hfour : Text.IsInteger [' ', '-', '٤', ' '] (-4) :=
    @Text.IsInteger.mk [' '] ['-'] (-1) ['٤'] [4] [' ']
      (List.forall_mem_singleton.2 (by decide)) .minus (.cons (by decide) .nil) (by decide)
      (by decide) (List.forall_mem_singleton.2 (by decide))
  have hthree : Text.IsInteger ['\t', '+', '0', '3'] 3 :=
    @Text.IsInteger.mk ['\t'] ['+'] 1 ['0', '3'] [0, 3] []
      (List.forall_mem_singleton.2 (by decide)) .plus
      (.cons (by decide) (.cons (by decide) .nil)) (by decide) (by decide)
      (List.forall_mem_nil _)
  have htwo : Text.IsInteger ['-', '2'] (-2) :=
    @Text.IsInteger.mk [] ['-'] (-1) ['2'] [2] [] (List.forall_mem_nil _) .minus
      (.cons (by decide) .nil) (by decide) (by decide) (List.forall_mem_nil _)
  have hwrites : Writes [' ', '-', '٤', ' ', ',', '\t', '+', '0', '3', ',', 'x'] (some (-4))
      (some 3) := .more (.integer hfour) (.integer hthree) ['x']
  exact ⟨hwrites, (apply_parse.1 hwrites _).trans (by decide), htwo, apply_parse.2 htwo _⟩

end Writing

end Slice

end BlockWeave
