import BlockWeave.Codec.Base64
import Mathlib.Data.List.Basic

/-!
# Base64 is read back

The reader knows the alphabet as a list of characters in the order of their values. It takes four
characters as three bytes, and only in the last group may padding stand for bits that are zero.
What is written is read back, a group at a time.
-/

namespace BlockWeave.Base64

/-- The characters that stand for the values below 64, in order. -/
def alphabet : Text := [
  'A', 'B', 'C', 'D', 'E', 'F', 'G', 'H', 'I', 'J', 'K', 'L', 'M', 'N', 'O', 'P',
  'Q', 'R', 'S', 'T', 'U', 'V', 'W', 'X', 'Y', 'Z', 'a', 'b', 'c', 'd', 'e', 'f',
  'g', 'h', 'i', 'j', 'k', 'l', 'm', 'n', 'o', 'p', 'q', 'r', 's', 't', 'u', 'v',
  'w', 'x', 'y', 'z', '0', '1', '2', '3', '4', '5', '6', '7', '8', '9', '+', '/']

/-- The value of a character. -/
def value? (c : Char) : Option Nat :=
  alphabet.idxOf? c

/-- The three bytes of a group of four characters. -/
def bytes? (a b c d : Char) : Option (List UInt8) := do
  let n := ((← value? a) * 64 + (← value? b)) * 4096 + (← value? c) * 64 + (← value? d)
  return [UInt8.ofNat (n / 65536), UInt8.ofNat (n / 256 % 256), UInt8.ofNat (n % 256)]

/-- The first bytes of a group, if those behind them are zero. -/
def leading? (count : Nat) (group : List UInt8) : Option (List UInt8) :=
  if (group.drop count).all (· = 0) then some (group.take count) else none

/-- The bytes of a text in base64. Padding stands in the place of zero bits at the very end. -/
def decode? : Text → Option (List UInt8)
  | [] => some []
  | a :: b :: c :: d :: s =>
      if d ≠ '=' then do return (← bytes? a b c d) ++ (← decode? s)
      else if s ≠ [] then none
      else if c ≠ '=' then bytes? a b c 'A' >>= leading? 2
      else bytes? a b 'A' 'A' >>= leading? 1
  | _ => none

theorem value?_digit {n : Nat} (h : n < 64) : value? (digit n) = some n := by
  have hall : ∀ n < 64, value? (digit n) = some n := by decide
  exact hall n h

theorem digit_mem_alphabet {n : Nat} (h : n < 64) : digit n ∈ alphabet := by
  have hall : ∀ n < 64, digit n ∈ alphabet := by decide
  exact hall n h

theorem digit_ne_padding {n : Nat} (h : n < 64) : digit n ≠ '=' := by
  intro he
  have hpadding : '=' ∉ alphabet := by decide
  exact hpadding (he ▸ digit_mem_alphabet h)

/-- Four digits are read as three bytes if both write the same number. -/
theorem bytes?_digits {p q r s : Nat} (hp : p < 64) (hq : q < 64) (hr : r < 64) (hs : s < 64)
    {x y z : UInt8}
    (h : (p * 64 + q) * 4096 + r * 64 + s = x.toNat * 65536 + y.toNat * 256 + z.toNat) :
    bytes? (digit p) (digit q) (digit r) (digit s) = some [x, y, z] := by
  have hy : y.toNat < 256 := y.toNat_lt
  have hz : z.toNat < 256 := z.toNat_lt
  simp only [bytes?, value?_digit hp, value?_digit hq, value?_digit hr, value?_digit hs, h,
    Option.bind_eq_bind, Option.bind_some, Option.pure_def, Option.some.injEq]
  rw [show (x.toNat * 65536 + y.toNat * 256 + z.toNat) / 65536 = x.toNat by omega,
    show (x.toNat * 65536 + y.toNat * 256 + z.toNat) / 256 % 256 = y.toNat by omega,
    show (x.toNat * 65536 + y.toNat * 256 + z.toNat) % 256 = z.toNat by omega]
  simp only [UInt8.ofNat_toNat]

section Groups

/-- A byte that is left over is written as two digits, with zero bits behind it. -/
theorem encode_one (a : UInt8) : ∃ p q, p < 64 ∧ q < 64 ∧
    (p * 64 + q) * 4096 = a.toNat * 65536 ∧ encode [a] = [digit p, digit q, '=', '='] := by
  have ha : a.toNat < 256 := a.toNat_lt
  refine ⟨a.toNat * 16 / 64, a.toNat * 16 % 64, ?_, ?_, ?_, rfl⟩
  all_goals omega

theorem encode_two (a b : UInt8) : ∃ p q r, p < 64 ∧ q < 64 ∧ r < 64 ∧
    (p * 64 + q) * 4096 + r * 64 = a.toNat * 65536 + b.toNat * 256 ∧
    encode [a, b] = [digit p, digit q, digit r, '='] := by
  have ha : a.toNat < 256 := a.toNat_lt
  have hb : b.toNat < 256 := b.toNat_lt
  obtain ⟨n, hn⟩ : ∃ n, n = (a.toNat * 256 + b.toNat) * 4 := ⟨_, rfl⟩
  refine ⟨n / 4096, n / 64 % 64, n % 64, ?_, ?_, ?_, ?_, by rw [hn]; rfl⟩
  all_goals omega

/-- Three bytes and four digits write the same number. -/
theorem encode_three (a b c : UInt8) (bytes : List UInt8) :
    ∃ p q r s, p < 64 ∧ q < 64 ∧ r < 64 ∧ s < 64 ∧
      (p * 64 + q) * 4096 + r * 64 + s = a.toNat * 65536 + b.toNat * 256 + c.toNat ∧
      encode (a :: b :: c :: bytes) =
        digit p :: digit q :: digit r :: digit s :: encode bytes := by
  have ha : a.toNat < 256 := a.toNat_lt
  have hb : b.toNat < 256 := b.toNat_lt
  have hc : c.toNat < 256 := c.toNat_lt
  obtain ⟨n, hn⟩ : ∃ n, n = (a.toNat * 256 + b.toNat) * 256 + c.toNat := ⟨_, rfl⟩
  refine ⟨n / 262144, n / 4096 % 64, n / 64 % 64, n % 64, ?_, ?_, ?_, ?_, ?_, by rw [hn]; rfl⟩
  all_goals omega

end Groups

/-- What is written is read back. -/
theorem decode?_encode (bytes : List UInt8) : decode? (encode bytes) = some bytes := by
  -- Where padding stands, the reader takes the digit of zero.
  have hpadding : digit 0 = 'A' := rfl
  induction bytes using encode.induct with
  | case1 => rfl
  | case2 a =>
      obtain ⟨p, q, hp, hq, hnumber, hwritten⟩ := encode_one a
      have hgroup : bytes? (digit p) (digit q) 'A' 'A' = some [a, 0, 0] := by
        rw [← hpadding]
        apply bytes?_digits hp hq (by decide) (by decide)
        simpa using hnumber
      simp [hwritten, decode?, hgroup, leading?]
  | case3 a b =>
      obtain ⟨p, q, r, hp, hq, hr, hnumber, hwritten⟩ := encode_two a b
      have hgroup : bytes? (digit p) (digit q) (digit r) 'A' = some [a, b, 0] := by
        rw [← hpadding]
        apply bytes?_digits hp hq hr (by decide)
        simpa using hnumber
      simp [hwritten, decode?, hgroup, digit_ne_padding hr, leading?]
  | case4 a b c bytes ih =>
      obtain ⟨p, q, r, s, hp, hq, hr, hs, hnumber, hwritten⟩ := encode_three a b c bytes
      have hgroup := bytes?_digits hp hq hr hs hnumber
      simp [hwritten, decode?, hgroup, digit_ne_padding hs, ih]

/-- Padding that stands for other bits than zeros is refused. -/
example : decode? ['T', 'Q', '=', '='] = some [0x4d] ∧ decode? ['T', 'R', '=', '='] = none := by
  decide

/-- A last group of one or two bytes is filled up with padding, and there is none elsewhere. -/
theorem exists_encode_eq (bytes : List UInt8) :
    ∃ body, encode bytes = body ++ List.replicate ((3 - bytes.length % 3) % 3) '=' ∧
      ∀ c ∈ body, c ∈ alphabet := by
  induction bytes using encode.induct with
  | case1 => exact ⟨[], rfl, by simp⟩
  | case2 a =>
      obtain ⟨p, q, hp, hq, -, hwritten⟩ := encode_one a
      refine ⟨[digit p, digit q], hwritten, ?_⟩
      simp only [List.forall_mem_cons]
      exact ⟨digit_mem_alphabet hp, digit_mem_alphabet hq, by simp⟩
  | case3 a b =>
      obtain ⟨p, q, r, hp, hq, hr, -, hwritten⟩ := encode_two a b
      refine ⟨[digit p, digit q, digit r], hwritten, ?_⟩
      simp only [List.forall_mem_cons]
      exact ⟨digit_mem_alphabet hp, digit_mem_alphabet hq, digit_mem_alphabet hr, by simp⟩
  | case4 a b c bytes ih =>
      obtain ⟨p, q, r, s, hp, hq, hr, hs, -, hwritten⟩ := encode_three a b c bytes
      obtain ⟨body, hbody, hmem⟩ := ih
      have hlength : (a :: b :: c :: bytes).length % 3 = bytes.length % 3 := by
        simp only [List.length_cons]
        omega
      refine ⟨digit p :: digit q :: digit r :: digit s :: body, ?_, ?_⟩
      · rw [hwritten, hlength, hbody]
        rfl
      · simp only [List.forall_mem_cons]
        exact ⟨digit_mem_alphabet hp, digit_mem_alphabet hq, digit_mem_alphabet hr,
          digit_mem_alphabet hs, hmem⟩

/-- Three bytes take four characters, and so does what is left of them. -/
theorem length_encode (bytes : List UInt8) :
    (encode bytes).length = 4 * ((bytes.length + 2) / 3) := by
  fun_induction encode bytes with
  | case1 => rfl
  | case2 a n => simp
  | case3 a b n => simp
  | case4 a b c bytes n ih =>
      simp only [List.length_cons, ih]
      omega

end BlockWeave.Base64
