/-
  `parseInt` without a radix, as ECMAScript specifies it: leading white space, an optional sign,
  an optional `0x`, and the longest prefix of digits.  `none` stands for `NaN`.

  * `EndsNumber`: the characters behind which nothing is read.
-/
import Mathlib.Data.Int.Basic
import Mathlib.Tactic.Common

namespace GatewayRealtime

/-- The characters that `parseInt` skips. -/
def isJsSpace (c : Char) : Bool :=
  c = ' ' || c = '\t' || c = '\n' || c = '\r' || c.toNat ∈ [11, 12, 0xa0, 0x1680, 0x2028, 0x2029,
    0x202f, 0x205f, 0x3000, 0xfeff] || (0x2000 ≤ c.toNat && c.toNat ≤ 0x200a)

/-- The value of a digit. -/
def digitValue (c : Char) : ℕ :=
  if '0' ≤ c ∧ c ≤ '9' then c.toNat - 48
  else if 'a' ≤ c ∧ c ≤ 'z' then c.toNat - 87
  else if 'A' ≤ c ∧ c ≤ 'Z' then c.toNat - 55
  else 36

/-- The number that the longest prefix of digits denotes. -/
def parseDigits (radix : ℕ) (cs : List Char) : Option ℕ :=
  match cs.takeWhile fun c => decide (digitValue c < radix) with
  | [] => none
  | ds => some (ds.foldl (fun n c => n * radix + digitValue c) 0)

/-- The digits after an optional `0x`. -/
def parseUnsigned : List Char → Option ℕ
  | '0' :: 'x' :: cs => parseDigits 16 cs
  | '0' :: 'X' :: cs => parseDigits 16 cs
  | cs => parseDigits 10 cs

/-- `parseInt(s)`. -/
def parseInt (s : String) : Option ℤ :=
  match s.toList.dropWhile isJsSpace with
  | '-' :: cs => (parseUnsigned cs).map fun n => -(n : ℤ)
  | '+' :: cs => (parseUnsigned cs).map fun n => (n : ℤ)
  | cs => (parseUnsigned cs).map fun n => (n : ℤ)

example : (parseInt " 15m", parseInt "-7", parseInt "0x1F", parseInt "soon") =
    (some 15, some (-7), some 31, none) := by decide

/-! ## Where a number ends -/

/-- A character that ends a number, wherever it stands. -/
structure EndsNumber (c : Char) : Prop where
  space : isJsSpace c = false
  sign : c ≠ '-' ∧ c ≠ '+'
  radix : c ≠ 'x' ∧ c ≠ 'X'
  digit : 16 ≤ digitValue c

namespace EndsNumber

variable {c : Char}

theorem parseDigits_append (h : EndsNumber c) {radix : ℕ} (hr : radix ≤ 16) (l l' : List Char) :
    parseDigits radix (l ++ c :: l') = parseDigits radix l := by
  have hc : decide (digitValue c < radix) = false :=
    decide_eq_false (not_lt.2 (le_trans hr h.digit))
  have hdigits : (l ++ c :: l').takeWhile (fun c => decide (digitValue c < radix)) =
      l.takeWhile fun c => decide (digitValue c < radix) := by
    rw [List.takeWhile_append, List.takeWhile_cons_of_neg (by simp [hc]), List.append_nil]
    split_ifs with hall
    · exact ((List.takeWhile_prefix _).eq_of_length hall).symm
    · rfl
  unfold parseDigits
  rw [hdigits]

theorem ne_zero (h : EndsNumber c) : c ≠ '0' := by
  rintro rfl
  exact absurd h.digit (by decide)

theorem parseUnsigned_append (h : EndsNumber c) (l l' : List Char) :
    parseUnsigned (l ++ c :: l') = parseUnsigned l := by
  rcases l with _ | ⟨a, _ | ⟨b, l⟩⟩
  · rw [List.nil_append, parseUnsigned, parseUnsigned]
    · exact h.parseDigits_append (by decide) [] l'
    all_goals simp [h.ne_zero]
  · rw [List.singleton_append, parseUnsigned, parseUnsigned]
    · exact h.parseDigits_append (by decide) [a] l'
    all_goals simp [h.radix]
  · rw [List.cons_append, List.cons_append]
    by_cases hx : a = '0' ∧ (b = 'x' ∨ b = 'X')
    · obtain ⟨rfl, rfl | rfl⟩ := hx <;> exact h.parseDigits_append (by decide) l l'
    · rw [not_and_or, not_or] at hx
      rw [parseUnsigned, parseUnsigned]
      · exact h.parseDigits_append (by decide) (a :: b :: l) l'
      all_goals
        intro cs heq
        simp_all

/-- What follows such a character is not read. -/
theorem parseInt_append (h : EndsNumber c) (s s' : String) :
    parseInt (s ++ String.singleton c ++ s') = parseInt s := by
  have hspace : (s.toList ++ c :: s'.toList).dropWhile isJsSpace =
      s.toList.dropWhile isJsSpace ++ c :: s'.toList := by
    rw [List.dropWhile_append, List.dropWhile_cons_of_neg (by simp [h.space])]
    split_ifs with hall
    · rw [List.isEmpty_iff.1 hall, List.nil_append]
    · rfl
  have hlist : (s ++ String.singleton c ++ s').toList = s.toList ++ c :: s'.toList := by simp
  unfold parseInt
  rw [hlist, hspace]
  generalize s.toList.dropWhile isJsSpace = m
  rcases m with _ | ⟨a, m⟩
  · have hnil := h.parseUnsigned_append [] s'.toList
    rw [List.nil_append] at hnil ⊢
    split
    · simp_all [h.sign]
    · simp_all [h.sign]
    · rw [hnil]
  · rw [List.cons_append]
    by_cases hminus : a = '-'
    · subst hminus
      simp only [h.parseUnsigned_append]
    · by_cases hplus : a = '+'
      · subst hplus
        simp only [h.parseUnsigned_append]
      · have hcons := h.parseUnsigned_append (a :: m) s'.toList
        rw [List.cons_append] at hcons
        split
        · simp_all
        · simp_all
        · rw [hcons]
          split
          · simp_all
          · simp_all
          · rfl

end EndsNumber

end GatewayRealtime
