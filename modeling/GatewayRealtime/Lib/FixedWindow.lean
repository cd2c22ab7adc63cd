/-
  The fixed-window rate limiter, as an automaton.

  A window opens at the first request, at the first one that comes more than `window` after the
  start of the current window, and at the first one after a block.  The first `limit` requests of a
  window are allowed; the next one is refused and starts a block of `window`.

  * `request`, `answers`, `allowed`: one request, the answers to a sequence of requests, and the
    instants of those that are allowed.
  * `windows`: the windows of a sequence of requests of which none is refused.
  * `answers_succ_iff`: limits of `n` and `n + 1` are told apart by a window with more than `n`
    requests.
  * `countP_allowed_le`: an interval of length `window` has at most `2 * limit` allowed requests.
-/
import Mathlib.Algebra.Order.Group.Defs
import Mathlib.Algebra.Order.Group.Unbundled.Basic
import Mathlib.Algebra.Ring.Nat
import Mathlib.Tactic.Common
import Mathlib.Data.List.TakeWhile

namespace GatewayRealtime.FixedWindow

universe u
variable {τ : Type u}

/-- Where the limiter stands: before the first request, in a window with its start and the number
    of its requests, or in a block with its end. -/
inductive State (τ : Type u)
  | idle
  | opened (start : τ) (count : ℕ)
  | blocked (until_ : τ)

/-- The answer to a request: the number of requests of its window so far, and the end of the block
    if it is refused. -/
structure Answer (τ : Type u) where
  count : ℕ
  blockedUntil : Option τ
deriving DecidableEq

section
variable [AddCommGroup τ] [LinearOrder τ] (window : τ) (limit : ℕ)

/-- A request. -/
def request (now : τ) : State τ → State τ × Answer τ
  | .idle => (.opened now 1, ⟨1, none⟩)
  | .opened start count =>
    if now ≤ start + window then
      if count < limit then (.opened start (count + 1), ⟨count + 1, none⟩)
      else (.blocked (now + window), ⟨limit + 1, some (now + window)⟩)
    else (.opened now 1, ⟨1, none⟩)
  | .blocked until_ =>
    if now < until_ then (.blocked until_, ⟨limit + 1, some until_⟩)
    else (.opened now 1, ⟨1, none⟩)

/-- The answers to a sequence of requests. -/
def answers : State τ → List τ → List (Answer τ)
  | _, [] => []
  | s, now :: nows =>
    (request window limit now s).2 :: answers (request window limit now s).1 nows

/-- The instants of the requests that are allowed. -/
def allowed (s : State τ) (nows : List τ) : List τ :=
  ((nows.zip (answers window limit s nows)).filter fun x => x.2.blockedUntil.isNone).map Prod.fst

/-- The windows of a sequence of requests, if none of them is refused. -/
def windows : List τ → List (List τ)
  | [] => []
  | now :: nows =>
    (now :: nows.takeWhile (· ≤ now + window)) :: windows (nows.dropWhile (· ≤ now + window))
termination_by nows => nows.length
decreasing_by
  have hle := (List.dropWhile_sublist (fun t => decide (t ≤ now + window)) (l := nows)).length_le
  simp only [List.length_cons]
  omega

end

section
variable [AddCommGroup τ] [LinearOrder τ] {window : τ} {limit : ℕ} {s : State τ} {now : τ}
  {nows : List τ}

@[simp] theorem allowed_nil (s : State τ) : allowed window limit s [] = [] := rfl

theorem allowed_cons_of_none (h : (request window limit now s).2.blockedUntil = none) :
    allowed window limit s (now :: nows) =
      now :: allowed window limit (request window limit now s).1 nows := by
  simp [allowed, answers, h]

theorem allowed_cons_of_some {t : τ}
    (h : (request window limit now s).2.blockedUntil = some t) :
    allowed window limit s (now :: nows) =
      allowed window limit (request window limit now s).1 nows := by
  simp [allowed, answers, h]

/-! ## Neighbouring limits -/

/-- In an open window, limits of `limit` and `limit + 1` answer alike as long as no window has more
    than `limit` requests. -/
theorem answers_opened_iff (hpos : 0 < limit) (start : τ) (count : ℕ) (hcount : count ≤ limit) :
    answers window limit (.opened start count) nows =
        answers window (limit + 1) (.opened start count) nows ↔
      count + (nows.takeWhile (· ≤ start + window)).length ≤ limit ∧
        ∀ w ∈ windows window (nows.dropWhile (· ≤ start + window)), w.length ≤ limit := by
  induction nows generalizing start count with
  | nil => simp [answers, windows, hcount]
  | cons now nows ih =>
    by_cases hin : now ≤ start + window
    · by_cases hlt : count < limit
      · have hlt' : count < limit + 1 := by omega
        have hrec := ih start (count + 1) (by omega)
        simp only [answers, request, hin, hlt, hlt', if_true, List.cons.injEq, true_and, hrec]
        simp [hin]
        omega
      · have hlt' : count < limit + 1 := by omega
        simp [answers, request, hin, hlt, hlt']
        omega
    · have hrec := ih now 1 hpos
      simp only [answers, request, hin, if_false, List.cons.injEq, true_and, hrec]
      rw [List.takeWhile_cons_of_neg (by simpa using hin),
        List.dropWhile_cons_of_neg (by simpa using hin), windows, List.forall_mem_cons]
      simp only [List.length_nil, List.length_cons, Nat.add_zero, hcount, true_and]
      rw [Nat.add_comm 1]

/-- **Limits of `limit` and `limit + 1` are told apart** by a window with more than `limit`
    requests. -/
theorem answers_succ_iff (hpos : 0 < limit) :
    answers window limit .idle nows = answers window (limit + 1) .idle nows ↔
      ∀ w ∈ windows window nows, w.length ≤ limit := by
  cases nows with
  | nil => simp [answers, windows]
  | cons now nows =>
    simp only [answers, request, List.cons.injEq, true_and,
      answers_opened_iff hpos now 1 hpos]
    rw [windows, List.forall_mem_cons, List.length_cons, Nat.add_comm 1]

end

/-! ## Bursts -/

/-- The number of requests of the window that is open. -/
def State.count : State τ → ℕ
  | .opened _ count => count
  | _ => 0

/-- The instant lies in the interval of length `window` that starts at `a`. -/
def within [AddCommGroup τ] [LinearOrder τ] (window a t : τ) : Bool :=
  decide (a ≤ t ∧ t ≤ a + window)

section
variable [AddCommGroup τ] [LinearOrder τ] {window : τ} {limit : ℕ} {s : State τ} {a now : τ}
  {nows : List τ}

theorem request_count_le (hlimit : 0 < limit) (h : s.count ≤ limit) :
    (request window limit now s).1.count ≤ limit := by
  cases s with
  | idle => exact hlimit
  | opened start count =>
    simp only [request]
    split_ifs with hin hlt
    · exact hlt
    · exact Nat.zero_le _
    · exact hlimit
  | blocked until_ =>
    simp only [request]
    split_ifs
    · exact Nat.zero_le _
    · exact hlimit

variable (window limit s now nows) in
/-- A request adds one to the number of those that are allowed, or nothing. -/
theorem countP_allowed_cons_le (p : τ → Bool) :
    (allowed window limit s (now :: nows)).countP p ≤
      (allowed window limit (request window limit now s).1 nows).countP p + 1 := by
  cases h : (request window limit now s).2.blockedUntil with
  | none =>
    rw [allowed_cons_of_none h, List.countP_cons]
    split_ifs <;> omega
  | some t =>
    rw [allowed_cons_of_some h]
    omega

/-- A full window turns into a block at the next request. -/
theorem allowed_cons_full {start : τ} {count : ℕ} (hin : now ≤ start + window)
    (hfull : ¬ count < limit) :
    allowed window limit (.opened start count) (now :: nows) =
      allowed window limit (.blocked (now + window)) nows := by
  have hrequest : request window limit now (.opened start count) =
      (.blocked (now + window), ⟨limit + 1, some (now + window)⟩) := by
    simp [request, hin, hfull]
  rw [allowed_cons_of_some (congrArg (·.2.blockedUntil) hrequest), hrequest]

/-- A block passes over the requests before its end. -/
theorem allowed_cons_blocked {until_ : τ} (hlt : now < until_) :
    allowed window limit (.blocked until_) (now :: nows) =
      allowed window limit (.blocked until_) nows := by
  have hrequest : request window limit now (.blocked until_) =
      (.blocked until_, ⟨limit + 1, some until_⟩) := if_pos hlt
  rw [allowed_cons_of_some (congrArg (·.2.blockedUntil) hrequest), hrequest]

/-- A request before the interval does not count. -/
theorem countP_allowed_cons_of_lt (h : now < a) :
    (allowed window limit s (now :: nows)).countP (within window a) =
      (allowed window limit (request window limit now s).1 nows).countP (within window a) := by
  cases hb : (request window limit now s).2.blockedUntil with
  | none =>
    rw [allowed_cons_of_none hb, List.countP_cons]
    simp [within, h]
  | some t => rw [allowed_cons_of_some hb]

/-- Nothing counts from a request behind the interval on. -/
theorem countP_cons_eq_zero_of_gt (s : State τ) (hsorted : (now :: nows).Pairwise (· ≤ ·))
    (h : a + window < now) :
    (allowed window limit s (now :: nows)).countP (within window a) = 0 := by
  refine List.countP_eq_zero.2 fun t ht => ?_
  obtain ⟨x, hx, rfl⟩ := List.mem_map.1 ht
  have hmem := (List.of_mem_zip (List.mem_filter.1 hx).1).1
  have hbehind : a + window < x.1 := by
    rcases List.mem_cons.1 hmem with heq | hmem
    · exact heq ▸ h
    · exact lt_of_lt_of_le h ((List.pairwise_cons.1 hsorted).1 _ hmem)
  simp [within, hbehind]

/-- Nothing counts in a block that ends behind the interval. -/
theorem countP_blocked_eq_zero (hsorted : nows.Pairwise (· ≤ ·)) {until_ : τ}
    (huntil : a + window < until_) :
    (allowed window limit (.blocked until_) nows).countP (within window a) = 0 := by
  induction nows with
  | nil => rfl
  | cons now nows ih =>
    by_cases hlt : now < until_
    · rw [allowed_cons_blocked hlt]
      exact ih (List.pairwise_cons.1 hsorted).2
    · exact countP_cons_eq_zero_of_gt _ hsorted (lt_of_lt_of_le huntil (not_lt.1 hlt))

end

section
variable [AddCommGroup τ] [LinearOrder τ] [IsOrderedAddMonoid τ] {window : τ} {limit : ℕ}
  {s : State τ} {a start until_ : τ} {count : ℕ} {nows : List τ}

variable (window) in
/-- A window that starts behind `a` counts alone: the next one starts behind the interval. -/
theorem countP_opened_le_of_lt (hsorted : nows.Pairwise (· ≤ ·)) (hstart : a < start)
    (hfrom : ∀ t ∈ nows, start ≤ t) (hcount : count ≤ limit) :
    (allowed window limit (.opened start count) nows).countP (within window a) + count ≤
      limit := by
  induction nows generalizing count with
  | nil => simpa using hcount
  | cons now nows ih =>
    have htail := (List.pairwise_cons.1 hsorted).2
    rw [List.forall_mem_cons] at hfrom
    by_cases hin : now ≤ start + window
    · by_cases hlt : count < limit
      · have hstep := countP_allowed_cons_le window limit (.opened start count) now nows
          (within window a)
        have hrec := ih htail hfrom.2 (show count + 1 ≤ limit from hlt)
        simp only [request, hin, hlt, if_true] at hstep
        omega
      · -- the block that starts now ends behind the interval
        have hend : a + window < now + window := by
          simpa using lt_of_lt_of_le hstart hfrom.1
        rw [allowed_cons_full hin hlt, countP_blocked_eq_zero htail hend]
        omega
    · have hnow : a + window < now := lt_trans (by simpa using hstart) (not_le.1 hin)
      rw [countP_cons_eq_zero_of_gt _ hsorted hnow]
      omega

variable (window) in
/-- A block that ends behind `a` leaves one window to count. -/
theorem countP_blocked_le (hlimit : 0 < limit) (hsorted : nows.Pairwise (· ≤ ·))
    (huntil : a < until_) :
    (allowed window limit (.blocked until_) nows).countP (within window a) ≤ limit := by
  induction nows with
  | nil => simp
  | cons now nows ih =>
    rw [List.pairwise_cons] at hsorted
    by_cases hlt : now < until_
    · rw [allowed_cons_blocked hlt]
      exact ih hsorted.2
    · have hstep := countP_allowed_cons_le window limit (.blocked until_) now nows (within window a)
      have hopened := countP_opened_le_of_lt window hsorted.2
        (lt_of_lt_of_le huntil (not_lt.1 hlt)) hsorted.1 (show 1 ≤ limit from hlimit)
      simp only [request, hlt, if_false] at hstep
      omega

variable (start count) in
/-- A window that has not ended before `a` counts with the one after it. -/
theorem countP_opened_le (hwindow : 0 < window) (hlimit : 0 < limit)
    (hsorted : nows.Pairwise (· ≤ ·)) (hfrom : ∀ t ∈ nows, a ≤ t) (hend : a ≤ start + window)
    (hcount : count ≤ limit) :
    (allowed window limit (.opened start count) nows).countP (within window a) + count ≤
      2 * limit := by
  induction nows generalizing count with
  | nil =>
    simp only [allowed_nil, List.countP_nil]
    omega
  | cons now nows ih =>
    rw [List.pairwise_cons] at hsorted
    rw [List.forall_mem_cons] at hfrom
    have hstep := countP_allowed_cons_le window limit (.opened start count) now nows
      (within window a)
    by_cases hin : now ≤ start + window
    · by_cases hlt : count < limit
      · have hrec := ih (count + 1) hsorted.2 hfrom.2 (show count + 1 ≤ limit from hlt)
        simp only [request, hin, hlt, if_true] at hstep
        omega
      · have hblocked := countP_blocked_le window hlimit hsorted.2
          (lt_of_le_of_lt hfrom.1 (lt_add_of_pos_right now hwindow))
        rw [allowed_cons_full hin hlt]
        omega
    · -- the next window starts behind `a`
      have hopened := countP_opened_le_of_lt window hsorted.2
        (lt_of_le_of_lt hend (not_le.1 hin)) hsorted.1 (show 1 ≤ limit from hlimit)
      simp only [request, hin, if_false] at hstep
      omega

/-- Of the requests from `a` on, two windows count. -/
theorem countP_le_of_forall_le (hwindow : 0 < window) (hlimit : 0 < limit)
    (hsorted : nows.Pairwise (· ≤ ·)) (hfrom : ∀ t ∈ nows, a ≤ t) (hcount : s.count ≤ limit) :
    (allowed window limit s nows).countP (within window a) ≤ 2 * limit := by
  cases nows with
  | nil => simp
  | cons now nows =>
    have hall := hsorted
    have hmem := hfrom
    rw [List.pairwise_cons] at hsorted
    rw [List.forall_mem_cons] at hfrom
    have hstep := countP_allowed_cons_le window limit s now nows (within window a)
    have hnew := countP_opened_le now 1 hwindow hlimit hsorted.2 hfrom.2
      (hfrom.1.trans (le_add_of_nonneg_right hwindow.le)) hlimit
    cases s with
    | idle =>
      simp only [request] at hstep
      omega
    | opened start count =>
      have hcount' : count ≤ limit := hcount
      by_cases hend : a ≤ start + window
      · have hopened := countP_opened_le start count hwindow hlimit hall hmem hend hcount'
        omega
      · have hin : ¬ now ≤ start + window := fun h => hend (hfrom.1.trans h)
        simp only [request, hin, if_false] at hstep
        omega
    | blocked until_ =>
      by_cases hlt : now < until_
      · have hblocked := countP_blocked_le window hlimit hall
          (lt_of_le_of_lt hfrom.1 hlt)
        omega
      · simp only [request, hlt, if_false] at hstep
        omega

/-- **The burst bound.**  An interval of length `window` has at most `2 * limit` allowed
    requests. -/
theorem countP_allowed_le (hwindow : 0 < window) (hlimit : 0 < limit)
    (hsorted : nows.Pairwise (· ≤ ·)) (s : State τ) (hcount : s.count ≤ limit) (a : τ) :
    (allowed window limit s nows).countP (within window a) ≤ 2 * limit := by
  induction nows generalizing s with
  | nil => simp
  | cons now nows ih =>
    by_cases hnow : now < a
    · rw [countP_allowed_cons_of_lt hnow]
      exact ih (List.pairwise_cons.1 hsorted).2 _ (request_count_le hlimit hcount)
    · refine countP_le_of_forall_le hwindow hlimit hsorted (fun t ht => ?_) hcount
      rcases List.mem_cons.1 ht with rfl | ht
      · exact not_lt.1 hnow
      · exact (not_lt.1 hnow).trans ((List.pairwise_cons.1 hsorted).1 t ht)

end

end GatewayRealtime.FixedWindow
