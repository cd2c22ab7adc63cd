/-
  Global replacement: every match of an expression is replaced by one text, from left to right.

  * `Matcher`: what an expression matches at the beginning of a text; never nothing.
  * `rewrite`: all matches replaced, each search going on behind the last match.
  * `Rewritten`: the same as a relation, which the proofs are inductions on.
  * `rewrite_eq_self`: a text whose matches are the replacement already stays as it is.
  * `filter_rewrite`: what matches and replacement do not have stays, in its order.
-/
import Mathlib.Data.List.Basic
import Mathlib.Tactic.Common

namespace GatewayRealtime

universe u
variable {α : Type u}

/-- How many elements of the beginning of a text are matched, if the text begins with a match. -/
structure Matcher (α : Type u) where
  find : List α → Option ℕ
  pos : ∀ t n, find t = some n → 0 < n
  le : ∀ t n, find t = some n → n ≤ t.length

/-- The matches are replaced by `out`, after the first `n` elements, which are dropped. -/
def rewriteFrom (m : Matcher α) (out : List α) : ℕ → List α → List α
  | _, [] => []
  | n + 1, _ :: l => rewriteFrom m out n l
  | 0, a :: l =>
    match m.find (a :: l) with
    | some n => out ++ rewriteFrom m out (n - 1) l
    | none => a :: rewriteFrom m out 0 l

/-- The matches are replaced by `out`. -/
def rewrite (m : Matcher α) (out t : List α) : List α := rewriteFrom m out 0 t

/-- A text and what replacing its matches makes of it. -/
inductive Rewritten (m : Matcher α) (out : List α) : List α → List α → Prop
  | nil : Rewritten m out [] []
  | keep {a l l'} : m.find (a :: l) = none → Rewritten m out l l' →
      Rewritten m out (a :: l) (a :: l')
  | hit {found rest l'} : found ≠ [] → m.find (found ++ rest) = some found.length →
      Rewritten m out rest l' → Rewritten m out (found ++ rest) (out ++ l')

section
variable {m : Matcher α} {out t t' : List α}

theorem rewriteFrom_eq (m : Matcher α) (out : List α) : ∀ (n : ℕ) (l : List α),
    rewriteFrom m out n l = rewrite m out (l.drop n)
  | 0, _ => rfl
  | _ + 1, [] => rfl
  | n + 1, _ :: l => rewriteFrom_eq m out n l

theorem rewrite_cons_none {a : α} {l : List α} (h : m.find (a :: l) = none) :
    rewrite m out (a :: l) = a :: rewrite m out l := by
  rw [rewrite, rewriteFrom, h]
  rfl

theorem rewrite_append_some {found rest : List α} (hne : found ≠ [])
    (h : m.find (found ++ rest) = some found.length) :
    rewrite m out (found ++ rest) = out ++ rewrite m out rest := by
  cases found with
  | nil => exact absurd rfl hne
  | cons a found =>
    rw [List.cons_append] at h ⊢
    rw [rewrite, rewriteFrom, h]
    dsimp only
    rw [rewriteFrom_eq, List.length_cons, Nat.add_sub_cancel, List.drop_left]

/-- Replacing is what the relation says. -/
theorem rewritten_rewrite (m : Matcher α) (out t : List α) :
    Rewritten m out t (rewrite m out t) := by
  induction hlen : t.length using Nat.strongRecOn generalizing t with
  | ind n ih =>
    cases t with
    | nil => exact .nil
    | cons a l =>
      cases hfind : m.find (a :: l) with
      | none =>
        rw [rewrite_cons_none hfind]
        exact .keep hfind (ih l.length (by rw [← hlen, List.length_cons]; omega) l rfl)
      | some k =>
        have hpos := m.pos _ _ hfind
        have hle := m.le _ _ hfind
        have hlength : ((a :: l).take k).length = k := List.length_take_of_le hle
        have hne : (a :: l).take k ≠ [] := by
          intro hnil
          rw [hnil, List.length_nil] at hlength
          omega
        have hfound : m.find ((a :: l).take k ++ (a :: l).drop k) =
            some ((a :: l).take k).length := by
          rw [List.take_append_drop, hlength, hfind]
        have hrest := ih ((a :: l).drop k).length (by rw [List.length_drop]; omega)
          ((a :: l).drop k) rfl
        have hhit := Rewritten.hit hne hfound hrest
        rwa [← rewrite_append_some hne hfound, List.take_append_drop] at hhit

/-- A text without a match stays as it is. -/
theorem rewrite_of_none : ∀ {t : List α}, (∀ s, s <:+ t → m.find s = none) →
    rewrite m out t = t
  | [], _ => rfl
  | a :: l, h => by
    rw [rewrite_cons_none (h _ List.suffix_rfl),
      rewrite_of_none fun s hs => h s (hs.trans (List.suffix_cons a l))]

/-- A text whose matches are what they are replaced by stays as it is. -/
theorem rewrite_eq_self (h : ∀ s, s <:+ t → ∀ n, m.find s = some n → s.take n = out) :
    rewrite m out t = t := by
  have hrel := rewritten_rewrite m out t
  generalize rewrite m out t = t' at hrel
  induction hrel with
  | nil => rfl
  | keep _ _ ih => rw [ih fun s hs => h s (hs.trans (List.suffix_cons _ _))]
  | @hit found rest l' _ hfind _ ih =>
    have hout : found = out := by simpa using h _ List.suffix_rfl _ hfind
    rw [ih fun s hs => h s (hs.trans (List.suffix_append found rest)), hout]

/-- Elements that neither a match nor the replacement has stay, in their order. -/
theorem filter_rewrite {p : α → Bool} (hout : out.filter p = [])
    (hfind : ∀ s n, m.find s = some n → (s.take n).filter p = []) :
    (rewrite m out t).filter p = t.filter p := by
  have hrel := rewritten_rewrite m out t
  generalize rewrite m out t = t' at hrel
  induction hrel with
  | nil => rfl
  | keep _ _ ih => rw [List.filter_cons, List.filter_cons, ih]
  | @hit found rest l' _ hmatch _ ih =>
    have hfound : found.filter p = [] := by simpa using hfind _ _ hmatch
    rw [List.filter_append, List.filter_append, hout, hfound, ih]

end

end GatewayRealtime
