import BlockWeave.Proofs.Text.Blank
import BlockWeave.Text.Integer
import Mathlib.Data.List.Forall2
import Mathlib.Data.Nat.Digits.Defs

/-!
# Written integers are read

An integer is written in digits of any script, with a sign in front of them or without one, and
blanks around it. As long as there are not too many digits, the number that they stand for is read.
-/

namespace BlockWeave.Text

section Digits

/-- A character is the digit of a value when it stands so many places behind the zero of its
script. -/
def IsDigit (c : Char) (value : Nat) : Prop :=
  value < 10 ∧ ∃ base ∈ digitZeros, c.toNat = base + value

instance (c : Char) (value : Nat) : Decidable (IsDigit c value) :=
  inferInstanceAs (Decidable (_ ∧ _))

variable {c : Char} {value : Nat} {chars : Text} {digits : List Nat}

/-- The digits of no two scripts overlap. -/
theorem digitZeros_pairwise : digitZeros.Pairwise fun base next => base + 10 ≤ next := by
  decide

theorem digitValue?_of_isDigit (h : IsDigit c value) : digitValue? c = some value := by
  obtain ⟨hvalue, base, hbase, hcode⟩ := h
  obtain ⟨lower, higher, hbases⟩ := List.append_of_mem hbase
  have hlower : ∀ other ∈ lower, other + 10 ≤ base := by
    have hpairwise := digitZeros_pairwise
    rw [hbases, List.pairwise_append] at hpairwise
    exact fun other hother => hpairwise.2.2 other hother base List.mem_cons_self
  rw [digitValue?, List.findSome?_eq_some_iff]
  refine ⟨lower, base, higher, hbases, ?_, fun other hother => ?_⟩
  · rw [if_pos]
    · simp [hcode]
    · simp only [Bool.and_eq_true, decide_eq_true_eq]
      omega
  · have hfar := hlower other hother
    rw [if_neg]
    simp only [Bool.and_eq_true, decide_eq_true_eq]
    omega

theorem IsDigit.isBlank_eq_false (h : IsDigit c value) : isBlank c = false := by
  have hapart : ∀ base ∈ digitZeros, ∀ blank ∈ blankRanges,
      base + 9 < blank.1 ∨ blank.2 < base := by decide
  obtain ⟨hvalue, base, hbase, hcode⟩ := h
  rw [Bool.eq_false_iff]
  intro hblank
  obtain ⟨blank, hrange, hlow, hhigh⟩ := isBlank_iff.1 hblank
  have hfar := hapart base hbase blank hrange
  omega

/-- The zero of ASCII is the first of all digits. -/
theorem IsDigit.le_toNat (h : IsDigit c value) : 48 ≤ c.toNat := by
  have hfirst : ∀ base ∈ digitZeros, 48 ≤ base := by decide
  obtain ⟨-, base, hbase, hcode⟩ := h
  have hle := hfirst base hbase
  omega

theorem digitRun?_eq (h : List.Forall₂ IsDigit chars digits) {afterDigit : Bool}
    (hsome : digits = [] → afterDigit = true) : digitRun? afterDigit chars = some digits := by
  induction h generalizing afterDigit with
  | nil => simp [digitRun?, hsome rfl]
  | cons hdigit h ih =>
      simp only [digitRun?, digitValue?_of_isDigit hdigit]
      rw [ih fun _ => rfl, Option.map_some]

theorem ofDigits_eq (digits : List Nat) : ofDigits digits = Nat.ofDigits 10 digits.reverse := by
  induction digits using List.reverseRecOn with
  | nil => rfl
  | append_singleton digits digit ih =>
      have hstep : ofDigits (digits ++ [digit]) = ofDigits digits * 10 + digit := by
        simp [ofDigits, List.foldl_append]
      rw [hstep, ih, List.reverse_append, List.reverse_singleton, List.singleton_append,
        Nat.ofDigits_cons]
      omega

end Digits

/-- A sign, and the factor that it means. -/
inductive IsSign : Text → Int → Prop
  | none : IsSign [] 1
  | plus : IsSign ['+'] 1
  | minus : IsSign ['-'] (-1)

/-- How an integer is written, with its most significant digit first. -/
inductive IsInteger : Text → Int → Prop
  | mk {before sign factor chars digits after} (hbefore : ∀ c ∈ before, isBlank c = true)
      (hsign : IsSign sign factor) (hdigits : List.Forall₂ IsDigit chars digits)
      (hsome : digits ≠ []) (hlimit : digits.length ≤ 4300)
      (hafter : ∀ c ∈ after, isBlank c = true) :
      IsInteger (before ++ (sign ++ chars ++ after))
        (factor * (Nat.ofDigits 10 digits.reverse : Nat))

section Integers

variable {sign chars s : Text} {digits : List Nat} {factor n : Int}

theorem exists_isDigit (h : List.Forall₂ IsDigit chars digits) :
    ∀ c ∈ chars, ∃ value, IsDigit c value := by
  induction h with
  | nil => simp
  | cons hdigit _ ih => exact List.forall_mem_cons.2 ⟨⟨_, hdigit⟩, ih⟩

/-- No blank and no comma stands in a number with its sign. -/
theorem isBlank_eq_false_of_mem (hsign : IsSign sign factor)
    (hdigits : List.Forall₂ IsDigit chars digits) :
    ∀ c ∈ sign ++ chars, isBlank c = false ∧ c ≠ ',' := by
  intro c hc
  rcases List.mem_append.1 hc with hc | hc
  · cases hsign with
    | none => cases hc
    | plus =>
        obtain rfl := List.mem_singleton.1 hc
        decide
    | minus =>
        obtain rfl := List.mem_singleton.1 hc
        decide
  · obtain ⟨value, hdigit⟩ := exists_isDigit hdigits c hc
    refine ⟨hdigit.isBlank_eq_false, ?_⟩
    rintro rfl
    exact absurd hdigit.le_toNat (by decide)

theorem readInteger_of_strip (hsign : IsSign sign factor)
    (hdigits : List.Forall₂ IsDigit chars digits) (hsome : digits ≠ [])
    (hlimit : digits.length ≤ 4300) (hstrip : strip s = sign ++ chars) :
    readInteger s = .ok (factor * (Nat.ofDigits 10 digits.reverse : Nat)) := by
  have hrun : digitRun? false chars = some digits := digitRun?_eq hdigits fun h => absurd h hsome
  have hbounded : boundedDigits digits = .ok (Nat.ofDigits 10 digits.reverse) := by
    rw [boundedDigits, digitLimit, if_neg (Nat.not_lt.2 hlimit), ofDigits_eq]
  rw [readInteger, hstrip]
  cases hsign with
  | none =>
      cases hdigits with
      | nil => exact absurd rfl hsome
      | @cons c digit chars digits hdigit hdigits =>
          have hcode := hdigit.le_toNat
          have hminus : c ≠ '-' := by
            rintro rfl
            exact absurd hcode (by decide)
          have hplus : c ≠ '+' := by
            rintro rfl
            exact absurd hcode (by decide)
          simp only [List.nil_append, List.cons.injEq, hminus, hplus, false_and, imp_self,
            implies_true, hrun, hbounded, one_mul]
          rfl
  | plus =>
      simp only [List.singleton_append, hrun, hbounded, one_mul]
      rfl
  | minus =>
      simp only [List.singleton_append, hrun, hbounded, neg_one_mul]
      rfl

/-- What stands between the blanks around an integer is read as it. -/
theorem IsInteger.readInteger_strip (h : IsInteger s n) :
    strip s ≠ [] ∧ readInteger (strip s) = .ok n := by
  obtain @⟨before, sign, factor, chars, digits, after, hbefore, hsign, hdigits, hsome, hlimit,
    hafter⟩ := h
  have hcore : ∀ c ∈ sign ++ chars, isBlank c = false :=
    fun c hc => (isBlank_eq_false_of_mem hsign hdigits c hc).1
  rw [strip_append hbefore hcore hafter]
  constructor
  · apply List.append_ne_nil_of_right_ne_nil
    rintro rfl
    exact hsome (List.forall₂_nil_left_iff.1 hdigits)
  · exact readInteger_of_strip hsign hdigits hsome hlimit (strip_eq_self hcore)

theorem IsInteger.notMem (h : IsInteger s n) : ',' ∉ s := by
  obtain @⟨before, sign, factor, chars, digits, after, hbefore, hsign, hdigits, -, -, hafter⟩ := h
  intro hcomma
  rcases List.mem_append.1 hcomma with hcomma | hcomma
  · exact absurd (hbefore _ hcomma) (by decide)
  rcases List.mem_append.1 hcomma with hcomma | hcomma
  · exact (isBlank_eq_false_of_mem hsign hdigits _ hcomma).2 rfl
  · exact absurd (hafter _ hcomma) (by decide)

end Integers

end BlockWeave.Text
