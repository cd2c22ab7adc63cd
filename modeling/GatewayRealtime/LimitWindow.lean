/-
  The windows of the rate limiter: `increment` on one key, call after call.

  * `results`, `RateLimitStore.allowed`: what the calls return, and the instants of those that are
    not blocked.
  * `results_eq`: the counter is the fixed-window automaton with the limit `attemptsLimit`.
  * `results_eq_documented_iff`: when the calls return what the documented window gives.
  * `allowed_burst_le`: how many requests are allowed in an interval of the length of the window.
-/
import Mathlib.Algebra.Order.Archimedean.Real.Basic
import Mathlib.Algebra.Order.Floor.Ring
import Mathlib.Algebra.Order.Group.Int
import Mathlib.Order.Interval.Set.Defs
import GatewayRealtime.Lib.FixedWindow
import GatewayRealtime.RateLimit

namespace GatewayRealtime

/-! ## Calls for one key -/

section
variable (key : LimitKey) (windowMs maxAttempts : ℤ)

/-- What calls of `increment` return. -/
def RateLimitStore.results : RateLimitStore → List ℤ → List IncrementResult
  | _, [] => []
  | store, now :: nows =>
    (store.increment key windowMs maxAttempts now).2 ::
      RateLimitStore.results (store.increment key windowMs maxAttempts now).1 nows

/-- The instants of the calls that are not blocked. -/
def RateLimitStore.allowed (store : RateLimitStore) (nows : List ℤ) : List ℤ :=
  ((nows.zip (store.results key windowMs maxAttempts nows)).filter fun x => !x.2.blocked).map
    Prod.fst

end

/-- The result that an answer of the automaton stands for. -/
def IncrementResult.ofAnswer (answer : FixedWindow.Answer ℤ) : IncrementResult :=
  ⟨answer.count, answer.blockedUntil.isSome, answer.blockedUntil⟩

/-! ## The automaton of a counter -/

/-- How many requests of a window the code allows: the first one is never compared, and from the
    second on the count has to stay below `maxAttempts`. -/
def attemptsLimit (maxAttempts : ℤ) : ℕ := (max 1 (maxAttempts - 1)).toNat

/-- The state that a counter stands for. -/
def RateLimitInfo.state : Option RateLimitInfo → FixedWindow.State ℤ
  | none => .idle
  | some info =>
    match info.blockedUntil.filter (· ≠ 0) with
    | some blockedUntil => .blocked blockedUntil
    | none => .opened info.firstAttempt info.count

/-- A counter is within its limit, or one above it and blocked. -/
def RateLimitInfo.Within (limit : ℕ) (info : RateLimitInfo) : Prop :=
  info.blockedUntil = none ∧ 1 ≤ info.count ∧ info.count ≤ limit ∨
    (∃ t, info.blockedUntil = some t ∧ t ≠ 0) ∧ info.count = limit + 1

section
variable {key : LimitKey} {windowMs maxAttempts now : ℤ} {info : Option RateLimitInfo}
  {store : RateLimitStore} {nows : List ℤ}

theorem attemptsLimit_pos (maxAttempts : ℤ) : 0 < attemptsLimit maxAttempts := by
  unfold attemptsLimit
  omega

/-- A first request is within the limit. -/
theorem RateLimitInfo.within_first (maxAttempts now : ℤ) :
    RateLimitInfo.Within (attemptsLimit maxAttempts) ⟨1, now, none⟩ :=
  Or.inl ⟨rfl, le_refl 1, attemptsLimit_pos maxAttempts⟩

/-- One attempt is one request of the automaton. -/
theorem RateLimitInfo.attempt_eq_request (hwindow : 1 ≤ windowMs) (hnow : 0 < now)
    (hwithin : ∀ i ∈ info, RateLimitInfo.Within (attemptsLimit maxAttempts) i) :
    RateLimitInfo.state (some (RateLimitInfo.attempt windowMs maxAttempts now info).1) =
        (FixedWindow.request windowMs (attemptsLimit maxAttempts) now
          (RateLimitInfo.state info)).1 ∧
      IncrementResult.of (RateLimitInfo.attempt windowMs maxAttempts now info) =
        .ofAnswer (FixedWindow.request windowMs (attemptsLimit maxAttempts) now
          (RateLimitInfo.state info)).2 ∧
      RateLimitInfo.Within (attemptsLimit maxAttempts)
        (RateLimitInfo.attempt windowMs maxAttempts now info).1 := by
  have hfirst := RateLimitInfo.within_first maxAttempts now
  cases info with
  | none => exact ⟨rfl, rfl, hfirst⟩
  | some info =>
    obtain ⟨count, firstAttempt, blockedUntil⟩ := info
    rcases hwithin _ rfl with ⟨hnone, hone, hcount⟩ | ⟨⟨t, ht, hne⟩, hcount⟩
    · dsimp only at hnone hone hcount
      subst hnone
      have hopen : now - firstAttempt ≤ windowMs ↔ now ≤ firstAttempt + windowMs := by omega
      have hmax : maxAttempts ≤ count + 1 ↔ ¬ count < attemptsLimit maxAttempts := by
        unfold attemptsLimit
        omega
      simp only [RateLimitInfo.attempt, RateLimitInfo.state, FixedWindow.request,
        Option.filter_none, hopen, hmax, ite_not]
      split_ifs with hin hlt
      · exact ⟨rfl, rfl, Or.inl ⟨rfl, Nat.le_add_left 1 count, hlt⟩⟩
      · -- the limit is reached, and a block starts
        have heq : count = attemptsLimit maxAttempts := by omega
        have hend : now + windowMs ≠ 0 := by omega
        refine ⟨?_, ?_, Or.inr ⟨⟨_, rfl, hend⟩, ?_⟩⟩
        · simp [Option.filter, hend]
        · simp [IncrementResult.of, IncrementResult.ofAnswer, heq]
        · simp [heq]
      · exact ⟨rfl, rfl, hfirst⟩
    · dsimp only at ht hcount
      subst ht hcount
      have hfilter : (some t).filter (fun s : ℤ => decide (s ≠ 0)) = some t := by
        simp [Option.filter, hne]
      simp only [RateLimitInfo.attempt, RateLimitInfo.state, FixedWindow.request, hfilter]
      split_ifs with hlt
      · refine ⟨?_, rfl, Or.inr ⟨⟨t, rfl, hne⟩, rfl⟩⟩
        simp only [hfilter]
      · exact ⟨rfl, rfl, hfirst⟩

theorem RateLimitStore.increment_get? :
    (store.increment key windowMs maxAttempts now).1.get? key =
      some (RateLimitInfo.attempt windowMs maxAttempts now (store.get? key)).1 := by
  simp [RateLimitStore.increment, OMap.get?_set]

/-- **The counter of a key is a fixed-window automaton**, with the limit `attemptsLimit`. -/
theorem RateLimitStore.results_eq (store : RateLimitStore) (hwindow : 1 ≤ windowMs)
    (hpos : ∀ t ∈ nows, 0 < t)
    (hwithin : ∀ i ∈ store.get? key, RateLimitInfo.Within (attemptsLimit maxAttempts) i) :
    store.results key windowMs maxAttempts nows =
      (FixedWindow.answers windowMs (attemptsLimit maxAttempts)
        (RateLimitInfo.state (store.get? key)) nows).map .ofAnswer := by
  induction nows generalizing store with
  | nil => rfl
  | cons now nows ih =>
    rw [List.forall_mem_cons] at hpos
    obtain ⟨hstate, hresult, hnext⟩ :=
      RateLimitInfo.attempt_eq_request hwindow hpos.1 hwithin
    have hrec := ih (store.increment key windowMs maxAttempts now).1 hpos.2 (by
      rw [RateLimitStore.increment_get?]
      intro i hi
      rwa [← Option.some.inj hi])
    rw [RateLimitStore.increment_get?, hstate] at hrec
    rw [RateLimitStore.results, FixedWindow.answers, List.map_cons, hrec, ← hresult]
    rfl

theorem IncrementResult.ofAnswer_injective : Function.Injective IncrementResult.ofAnswer := by
  rintro ⟨count, until_⟩ ⟨count', until_'⟩ h
  simp only [IncrementResult.ofAnswer, IncrementResult.mk.injEq] at h
  rw [h.1, h.2.2]

/-! ## The documented window -/

/-- **When the limiter is the documented one.**  A key that has no counter yet is answered as by
    the fixed window that allows `maxAttempts` requests iff `maxAttempts` is 1, or no window has
    that many requests. -/
theorem results_eq_documented_iff (hwindow : 1 ≤ windowMs) (hmax : 1 ≤ maxAttempts)
    (hnew : store.get? key = none) (hpos : ∀ t ∈ nows, 0 < t) :
    store.results key windowMs maxAttempts nows =
        (FixedWindow.answers windowMs maxAttempts.toNat .idle nows).map .ofAnswer ↔
      maxAttempts = 1 ∨
        ∀ w ∈ FixedWindow.windows windowMs nows, (w.length : ℤ) < maxAttempts := by
  rw [RateLimitStore.results_eq store hwindow hpos (by simp [hnew]), hnew]
  rw [(List.map_injective_iff.2 IncrementResult.ofAnswer_injective).eq_iff]
  show FixedWindow.answers windowMs (attemptsLimit maxAttempts) .idle nows = _ ↔ _
  by_cases hone : maxAttempts = 1
  · subst hone
    simp [attemptsLimit]
  · have hlimit : maxAttempts.toNat = attemptsLimit maxAttempts + 1 := by
      unfold attemptsLimit
      omega
    rw [hlimit, FixedWindow.answers_succ_iff (attemptsLimit_pos maxAttempts)]
    simp only [hone, false_or]
    refine forall₂_congr fun w _ => ?_
    unfold attemptsLimit
    omega

/-- Three requests, the third one after the window of the first two. -/
theorem results_eq_documented_apart :
    RateLimitStore.results (.str "203.0.113.9") 60000 3 .empty
        [1702656000000, 1702656001000, 1702656060001] =
      (FixedWindow.answers 60000 (3 : ℤ).toNat .idle
        [1702656000000, 1702656001000, 1702656060001]).map .ofAnswer :=
  (results_eq_documented_iff (by decide) (by decide) rfl (by decide)).2
    (Or.inr (by simp [FixedWindow.windows]))

/-- Three requests in one window of at most three: the third one is refused. -/
theorem third_refused :
    RateLimitStore.results (.str "203.0.113.9") 60000 3 .empty
        [1702656000000, 1702656001000, 1702656002000] =
        [⟨1, false, none⟩, ⟨2, false, none⟩, ⟨3, true, some 1702656062000⟩] ∧
      RateLimitStore.results (.str "203.0.113.9") 60000 3 .empty
          [1702656000000, 1702656001000, 1702656002000] ≠
        (FixedWindow.answers 60000 (3 : ℤ).toNat .idle
          [1702656000000, 1702656001000, 1702656002000]).map .ofAnswer := by
  decide

/-! ## Bursts -/

theorem RateLimitStore.allowed_eq (hwindow : 1 ≤ windowMs) (hpos : ∀ t ∈ nows, 0 < t)
    (hnew : store.get? key = none) :
    store.allowed key windowMs maxAttempts nows =
      FixedWindow.allowed windowMs (attemptsLimit maxAttempts) .idle nows := by
  unfold RateLimitStore.allowed FixedWindow.allowed
  rw [RateLimitStore.results_eq store hwindow hpos (by simp [hnew]), hnew, List.zip_map_right,
    List.filter_map, List.map_map]
  have hpred : ((fun x : ℤ × IncrementResult => !x.2.blocked) ∘
      Prod.map id IncrementResult.ofAnswer) = fun x => x.2.blockedUntil.isNone := by
    funext x
    simp [IncrementResult.ofAnswer]
  rw [hpred]
  rfl

/-- An instant of an interval of the reals lies in the interval of the integers. -/
theorem within_ceil_of_mem {a : ℝ} {t : ℤ} (h : (t : ℝ) ∈ Set.Icc a (a + windowMs)) :
    FixedWindow.within windowMs ⌈a⌉ t = true := by
  refine decide_eq_true ⟨Int.ceil_le.2 h.1, ?_⟩
  have hle : ((t - windowMs : ℤ) : ℝ) ≤ ⌈a⌉ := by
    refine le_trans ?_ (Int.le_ceil a)
    push_cast
    linarith only [h.2]
  have hint : t - windowMs ≤ ⌈a⌉ := by exact_mod_cast hle
  omega

/-- **The burst bound of the limiter.**  A closed interval of length `windowMs`, wherever it
    starts, has at most `2 * max 1 (maxAttempts - 1)` allowed requests. -/
theorem allowed_burst_le (maxAttempts : ℤ) (hwindow : 1 ≤ windowMs) (hnew : store.get? key = none)
    (hpos : ∀ t ∈ nows, 0 < t) (hsorted : nows.Pairwise (· ≤ ·)) (a : ℝ) :
    ((store.allowed key windowMs maxAttempts nows).countP
        fun t : ℤ => decide ((t : ℝ) ∈ Set.Icc a (a + windowMs)) : ℤ) ≤
      2 * max 1 (maxAttempts - 1) := by
  have hburst := FixedWindow.countP_allowed_le (by omega : 0 < windowMs)
    (attemptsLimit_pos maxAttempts) hsorted .idle (Nat.zero_le _) ⌈a⌉
  rw [RateLimitStore.allowed_eq hwindow hpos hnew]
  refine le_trans (Nat.cast_le.2 (List.countP_mono_left (q := FixedWindow.within windowMs ⌈a⌉)
    fun t _ ht => within_ceil_of_mem (of_decide_eq_true ht))) ?_
  unfold attemptsLimit at hburst ⊢
  omega

end

/-- The second request of a window, and the two of the next. -/
theorem allowed_burst_le_four :
    ((RateLimitStore.allowed (.str "203.0.113.9") 60000 3 .empty
        [1702656000000, 1702656060000, 1702656060001, 1702656060002]).countP
        fun t : ℤ => decide ((t : ℝ) ∈ Set.Icc (1702656000002 : ℝ) (1702656000002 + (60000 : ℤ))) :
        ℤ) ≤ 2 * max 1 (3 - 1) :=
  allowed_burst_le 3 (by decide) rfl (by decide) (by decide) 1702656000002

end GatewayRealtime
