/-
  The rate limiter (`modules/ratelimitters/`): one map of counters for all requests.

  * `LimitKey`, `extractKey`: the keys, and how the three extractors make them.
  * `RateLimitStore.increment`: `InMemoryProvider.increment`; `getRule`, `allow`, `execute`.
  * `decision`: what becomes of a request after earlier ones.
  * `NoInterference`: the decision depends on the earlier requests of the same transport, rule and
    key alone.
  * `noInterference_iff`: when it does.
-/
import Mathlib.Data.Rat.Defs
import Mathlib.Data.Set.Basic
import GatewayRealtime.Types
import GatewayRealtime.Lib.Keyed
import GatewayRealtime.Lib.ParseInt

namespace GatewayRealtime

/-! ## Requests and their keys -/

/-- `TransportType`. -/
inductive TransportType
  | rest | ws
deriving DecidableEq, Repr

/-- `RuleNameType`. -/
inductive RuleNameType
  | preConnect | postConnect
deriving DecidableEq, Repr

/-- What can be a key: a text, or another value out of a body that nothing has validated.  Objects
    are told apart by their addresses. -/
inductive LimitKey
  | undefined
  | null
  | bool (b : Bool)
  | num (q : ℚ)
  | infinity (negative : Bool)
  | str (s : String)
  | ref (address : ℕ)
deriving DecidableEq

/-- `!v`. -/
def LimitKey.falsy : LimitKey → Bool
  | .undefined | .null => true
  | .bool b => !b
  | .num q => q = 0
  | .infinity _ => false
  | .str s => s = ""
  | .ref _ => false

/-- What the guards read of a request. -/
inductive Request
  /-- a call of the API: `body?.client_id`, the header `authorization`, and `ip` -/
  | rest (clientId : LimitKey) (authorization : Option String) (ip : Option String)
  /-- a handshake: the headers `x-forwarded-for` and `host`, `remoteAddress` and `url` -/
  | ws (forwarded host remoteAddress : Option String) (url : String)
deriving DecidableEq

def Request.transport : Request → TransportType
  | .rest .. => .rest
  | .ws .. => .ws

/-- A request and the rule that it is checked against. -/
structure Call where
  rule : RuleNameType
  request : Request
deriving DecidableEq

/-- A property of a request, if it is there. -/
def LimitKey.ofText : Option String → LimitKey
  | some s => .str s
  | none => .undefined

/-- `trim`. -/
def jsTrim (cs : List Char) : List Char :=
  ((cs.dropWhile isJsSpace).reverse.dropWhile isJsSpace).reverse

/-- `getClientIp`. -/
def getClientIp (forwarded remoteAddress : Option String) : String :=
  match forwarded.filter (· ≠ "") with
  | some forwarded => String.ofList (jsTrim (forwarded.toList.takeWhile (· ≠ ',')))
  | none => (remoteAddress.filter (· ≠ "")).getD "unknown"

/-- `new URL(url, "http://" + host).searchParams.get('token')`; `none` when the constructor
    throws. -/
abbrev TokenParam := String → Option String → Option (Option String)

/-- The extractor that `getExtractor` gives for a transport and a rule, at work. -/
def extractKey (tokenParam : TokenParam) (call : Call) : Except Failure LimitKey :=
  match call.request, call.rule with
  | .rest clientId _ ip, .preConnect => .ok (if clientId.falsy then .ofText ip else clientId)
  | .rest _ authorization ip, .postConnect =>
    .ok (match authorization.filter (· ≠ "") with
      | some authorization => .str authorization
      | none => .ofText ip)
  | .ws forwarded host remoteAddress url, .preConnect =>
    let ip := getClientIp forwarded remoteAddress
    match tokenParam url host with
    | none => .error (.internal "Invalid URL")
    | some token =>
      .ok (.str (match token.filter (· ≠ "") with
        | some token => ip ++ ":" ++ token
        | none => ip))
  | .ws .., .postConnect => .error (.internal "No key extractor for rule postConnect")

/-! ## Counters -/

/-- `RateLimitInfo`. -/
structure RateLimitInfo where
  count : ℕ
  firstAttempt : ℤ
  blockedUntil : Option ℤ := none
deriving DecidableEq

/-- `InMemoryProvider.store`. -/
abbrev RateLimitStore := OMap LimitKey RateLimitInfo

/-- What an attempt makes of the counter of its key, and whether it is blocked. -/
def RateLimitInfo.attempt (windowMs maxAttempts now : ℤ) :
    Option RateLimitInfo → RateLimitInfo × Bool
  | none => (⟨1, now, none⟩, false)
  | some info =>
    match info.blockedUntil.filter (· ≠ 0) with
    | some blockedUntil =>
      if now < blockedUntil then (info, true) else (⟨1, now, none⟩, false)
    | none =>
      if now - info.firstAttempt ≤ windowMs then
        if maxAttempts ≤ info.count + 1 then
          ({ info with count := info.count + 1, blockedUntil := some (now + windowMs) }, true)
        else ({ info with count := info.count + 1 }, false)
      else (⟨1, now, none⟩, false)

/-- What `increment` returns. -/
structure IncrementResult where
  currentCount : ℕ
  blocked : Bool
  blockedUntil : Option ℤ := none
deriving DecidableEq

/-- The counter after an attempt, and whether it is blocked, as a result. -/
def IncrementResult.of (attempt : RateLimitInfo × Bool) : IncrementResult :=
  ⟨attempt.1.count, attempt.2, if attempt.2 then attempt.1.blockedUntil else none⟩

/-- `increment`. -/
def RateLimitStore.increment (store : RateLimitStore) (key : LimitKey)
    (windowMs maxAttempts now : ℤ) : RateLimitStore × IncrementResult :=
  let attempt := RateLimitInfo.attempt windowMs maxAttempts now (store.get? key)
  (store.set key attempt.1, .of attempt)

/-- `rate-limit.config`, with the defaults of the code. -/
structure RateLimitConfig where
  RATE_LIMIT_WS_PRE_WINDOW_MS : ℕ := 60000
  RATE_LIMIT_WS_PRE_MAX_ATTEMPTS : ℕ := 20
  RATE_LIMIT_WS_POST_WINDOW_MS : ℕ := 60000
  RATE_LIMIT_WS_POST_MAX_ATTEMPTS : ℕ := 20
  RATE_LIMIT_REST_PRE_TTL : ℕ := 60
  RATE_LIMIT_REST_PRE_LIMIT : ℕ := 5
  RATE_LIMIT_REST_POST_TTL : ℕ := 60
  RATE_LIMIT_REST_POST_LIMIT : ℕ := 10

/-- A request that arrives at some time. -/
structure Attempt where
  now : ℤ
  call : Call
deriving DecidableEq

section
variable (cfg : RateLimitConfig) (tokenParam : TokenParam)

/-- `getRule`: `windowMs` and `maxAttempts`. -/
def RateLimitConfig.getRule : TransportType → RuleNameType → ℕ × ℕ
  | .ws, .preConnect => (cfg.RATE_LIMIT_WS_PRE_WINDOW_MS, cfg.RATE_LIMIT_WS_PRE_MAX_ATTEMPTS)
  | .ws, .postConnect => (cfg.RATE_LIMIT_WS_POST_WINDOW_MS, cfg.RATE_LIMIT_WS_POST_MAX_ATTEMPTS)
  | .rest, .preConnect => (cfg.RATE_LIMIT_REST_PRE_TTL * 1000, cfg.RATE_LIMIT_REST_PRE_LIMIT)
  | .rest, .postConnect => (cfg.RATE_LIMIT_REST_POST_TTL * 1000, cfg.RATE_LIMIT_REST_POST_LIMIT)

/-- `getBlockRemaining`. -/
def RateLimitStore.getBlockRemaining (store : RateLimitStore) (key : LimitKey) (now : ℤ) :
    Option ℤ :=
  match ((store.get? key).bind (·.blockedUntil)).filter (· ≠ 0) with
  | some blockedUntil => if 0 < blockedUntil - now then some (blockedUntil - now) else none
  | none => none

/-- The `HttpException` of a request that is blocked. -/
def tooManyRequests (remaining : Option ℤ) : Failure :=
  .http (match remaining with
    | some ms => "Too many requests. Try again in " ++ toString (-(-ms / 1000)) ++ " seconds."
    | none => "Too many requests. Try again later.")

/-- `execute`.  It waits for nothing but the store in memory. -/
def execute (store : RateLimitStore) (a : Attempt) : RateLimitStore × Except Failure Unit :=
  match extractKey tokenParam a.call with
  | .error f => (store, .error f)
  | .ok key =>
    let rule := cfg.getRule a.call.request.transport a.call.rule
    let result := store.increment key rule.1 rule.2 a.now
    if result.2.blocked then
      (result.1, .error (tooManyRequests (result.1.getBlockRemaining key a.now)))
    else (result.1, .ok ())

/-- The counters after some requests. -/
def counters (earlier : List Attempt) : RateLimitStore :=
  earlier.foldl (fun store a => (execute cfg tokenParam store a).1) .empty

/-- The decision about a request after earlier ones. -/
def decision (earlier : List Attempt) (a : Attempt) : Except Failure Unit :=
  (execute cfg tokenParam (counters cfg tokenParam earlier) a).2

/-- The key of a request, unless its extractor throws. -/
def Attempt.key (a : Attempt) : Option LimitKey := (extractKey tokenParam a.call).toOption

/-- The two requests are of one transport and one rule, and have the same key. -/
def Attempt.sameQuota (a b : Attempt) : Bool :=
  decide (a.call.request.transport = b.call.request.transport ∧ a.call.rule = b.call.rule ∧
    a.key tokenParam = b.key tokenParam)

/-- **Rules do not interfere.**  In every sequence of calls out of `calls`, the decision about a
    call is what it would be if the earlier ones under another transport, rule or key had not been
    made. -/
def NoInterference (calls : Set Call) : Prop :=
  ∀ (earlier : List Attempt) (a : Attempt), (∀ b ∈ earlier, b.call ∈ calls) → a.call ∈ calls →
    decision cfg tokenParam earlier a =
      decision cfg tokenParam (earlier.filter (a.sameQuota tokenParam)) a

/-- No two calls under different transports or rules have the same key. -/
def KeysApart (calls : Set Call) : Prop :=
  ∀ a ∈ calls, ∀ b ∈ calls, ∀ key, extractKey tokenParam a = .ok key →
    extractKey tokenParam b = .ok key →
      a.request.transport = b.request.transport ∧ a.rule = b.rule

end

section
variable {cfg : RateLimitConfig} {tokenParam : TokenParam} {calls : Set Call} {a b : Attempt}
  {key : LimitKey} {store store' : RateLimitStore}

/-! ## The counters of other keys -/

theorem Attempt.key_eq_some :
    a.key tokenParam = some key ↔ extractKey tokenParam a.call = .ok key := by
  unfold Attempt.key
  cases extractKey tokenParam a.call <;> simp [Except.toOption]

/-- What a request makes of the counter of its key. -/
def Attempt.count (cfg : RateLimitConfig) (a : Attempt) (info : Option RateLimitInfo) :
    RateLimitInfo × Bool :=
  RateLimitInfo.attempt (cfg.getRule a.call.request.transport a.call.rule).1
    (cfg.getRule a.call.request.transport a.call.rule).2 a.now info

theorem execute_store (store : RateLimitStore) (hkey : extractKey tokenParam a.call = .ok key) :
    (execute cfg tokenParam store a).1 = store.set key (a.count cfg (store.get? key)).1 := by
  unfold execute
  rw [hkey]
  dsimp only
  split_ifs <;> rfl

/-- A request touches the counter of its key alone. -/
theorem execute_touchesKey (cfg : RateLimitConfig) (tokenParam : TokenParam) :
    TouchesKey (fun store a => (execute cfg tokenParam store a).1) (Attempt.key tokenParam)
      fun a info => some (a.count cfg info).1 := by
  intro store a k
  cases hkey : extractKey tokenParam a.call with
  | error f => simp [execute, hkey, Attempt.key, Except.toOption]
  | ok key =>
    dsimp only
    rw [execute_store store hkey, OMap.get?_set, Attempt.key_eq_some.2 hkey]
    by_cases hk : k = key
    · simp [hk]
    · have hk' : ¬ key = k := fun h => hk h.symm
      simp [hk, hk']

/-- The decision about a request depends on the counter of its key alone. -/
theorem execute_congr (hkey : ∀ key, extractKey tokenParam a.call = .ok key →
    store.get? key = store'.get? key) :
    (execute cfg tokenParam store a).2 = (execute cfg tokenParam store' a).2 := by
  unfold execute
  cases h : extractKey tokenParam a.call with
  | error f => rfl
  | ok key =>
    have heq := hkey key h
    simp only [RateLimitStore.increment, RateLimitStore.getBlockRemaining, heq, OMap.get?_set]
    split_ifs <;> rfl

/-- Earlier requests with other keys do not matter. -/
theorem decision_filter {p : Attempt → Bool} {earlier : List Attempt}
    (hp : ∀ b ∈ earlier, ∀ key, b.key tokenParam = some key → a.key tokenParam = some key →
      p b = true) :
    decision cfg tokenParam (earlier.filter p) a = decision cfg tokenParam earlier a := by
  refine execute_congr fun key hkey => ?_
  exact (execute_touchesKey cfg tokenParam).get?_filter
    (fun b hb hbkey => hp b hb key hbkey (Attempt.key_eq_some.2 hkey)) _

/-! ## A key under two rules -/

theorem execute_ok_iff (hkey : extractKey tokenParam a.call = .ok key) :
    (execute cfg tokenParam store a).2 = .ok () ↔ (a.count cfg (store.get? key)).2 = false := by
  have hresult : (store.increment key (cfg.getRule a.call.request.transport a.call.rule).1
      (cfg.getRule a.call.request.transport a.call.rule).2 a.now).2.blocked =
        (a.count cfg (store.get? key)).2 := rfl
  unfold execute
  rw [hkey]
  dsimp only
  rw [hresult]
  cases (a.count cfg (store.get? key)).2 <;> simp

/-- At the instant of the first attempt, the window is open. -/
theorem Attempt.count_of_open (cfg : RateLimitConfig) (a : Attempt) (n : ℕ) :
    (a.count cfg (some ⟨n, a.now, none⟩)).2 =
        decide ((cfg.getRule a.call.request.transport a.call.rule).2 ≤ n + 1) ∧
      (n + 1 < (cfg.getRule a.call.request.transport a.call.rule).2 →
        (a.count cfg (some ⟨n, a.now, none⟩)).1 = ⟨n + 1, a.now, none⟩) := by
  have hopen : a.now - a.now ≤ ((cfg.getRule a.call.request.transport a.call.rule).1 : ℤ) := by
    rw [Int.sub_self]
    exact Int.natCast_nonneg _
  have hcast : ((cfg.getRule a.call.request.transport a.call.rule).2 : ℤ) ≤ (n : ℤ) + 1 ↔
      (cfg.getRule a.call.request.transport a.call.rule).2 ≤ n + 1 := by omega
  simp only [Attempt.count, RateLimitInfo.attempt, Option.filter_none, if_pos hopen, hcast]
  split_ifs with hmax
  · exact ⟨(decide_eq_true hmax).symm, fun h => absurd hmax (not_le.2 h)⟩
  · exact ⟨(decide_eq_false hmax).symm, fun _ => rfl⟩

/-- After a first request under any rule, and `n` calls that stay below their limit. -/
theorem counters_replicate {first : Attempt} {now : ℤ} {call : Call} {n : ℕ}
    (hfirst : extractKey tokenParam first.call = .ok key) (hnow : first.now = now)
    (hcall : extractKey tokenParam call = .ok key)
    (hn : n = 0 ∨ n + 1 < (cfg.getRule call.request.transport call.rule).2) :
    (counters cfg tokenParam (first :: List.replicate n ⟨now, call⟩)).get? key =
      some ⟨n + 1, now, none⟩ := by
  induction n with
  | zero =>
    unfold counters
    simp only [List.replicate_zero, List.foldl_cons, List.foldl_nil]
    rw [execute_store _ hfirst, OMap.get?_set, if_pos rfl, ← hnow]
    rfl
  | succ n ih =>
    have hn' : n + 1 + 1 < (cfg.getRule call.request.transport call.rule).2 := by omega
    have hprev := ih (Or.inr (by omega))
    unfold counters at hprev ⊢
    rw [List.replicate_succ', ← List.cons_append, List.foldl_append]
    simp only [List.foldl_cons, List.foldl_nil] at hprev ⊢
    rw [execute_store _ hcall, OMap.get?_set, if_pos rfl, hprev]
    exact congrArg some ((Attempt.count_of_open cfg ⟨now, call⟩ (n + 1)).2 hn')

/-- A call is refused at its limit, whoever made the first request under its key. -/
theorem decision_at_limit (first : Attempt) {now : ℤ} {call : Call}
    (hfirst : extractKey tokenParam first.call = .ok key) (hnow : first.now = now)
    (hcall : extractKey tokenParam call = .ok key) :
    decision cfg tokenParam (first :: List.replicate
      ((cfg.getRule call.request.transport call.rule).2 - 2) ⟨now, call⟩) ⟨now, call⟩ ≠ .ok () := by
  intro hok
  have hcount := (execute_ok_iff hcall).1 hok
  rw [counters_replicate hfirst hnow hcall (by omega)] at hcount
  rw [(Attempt.count_of_open cfg ⟨now, call⟩ _).1, decide_eq_false_iff_not] at hcount
  dsimp only at hcount
  omega

/-- Without that first request it is allowed. -/
theorem decision_below_limit {now : ℤ} {call : Call}
    (hcall : extractKey tokenParam call = .ok key) :
    decision cfg tokenParam (List.replicate
      ((cfg.getRule call.request.transport call.rule).2 - 2) ⟨now, call⟩) ⟨now, call⟩ = .ok () := by
  refine (execute_ok_iff hcall).2 ?_
  cases hn : (cfg.getRule call.request.transport call.rule).2 - 2 with
  | zero => rfl
  | succ n =>
    rw [List.replicate_succ, counters_replicate hcall rfl hcall (by omega),
      (Attempt.count_of_open cfg ⟨now, call⟩ _).1, decide_eq_false_iff_not]
    dsimp only
    omega

/-- **When rules do not interfere.**  In all sequences of the calls, iff no two of them under
    different transports or rules have the same key. -/
theorem noInterference_iff (cfg : RateLimitConfig) (tokenParam : TokenParam) (calls : Set Call) :
    NoInterference cfg tokenParam calls ↔ KeysApart tokenParam calls := by
  constructor
  · intro hfree a ha b hb key hakey hbkey
    by_contra hdiffer
    -- one call of `a` takes the place of one of `b`
    have hfilter : ∀ n, (⟨0, a⟩ :: List.replicate n ⟨0, b⟩).filter
        (Attempt.sameQuota tokenParam ⟨0, b⟩) = List.replicate n ⟨0, b⟩ := by
      intro n
      rw [List.filter_cons_of_neg, List.filter_eq_self.2]
      · intro c hc
        rw [(List.mem_replicate.1 hc).2]
        simp [Attempt.sameQuota]
      · simp only [Attempt.sameQuota, decide_eq_true_eq]
        exact fun h => hdiffer ⟨h.1.symm, h.2.1.symm⟩
    refine decision_at_limit ⟨0, a⟩ hakey rfl hbkey
      ((hfree _ ⟨0, b⟩ (fun c hc => ?_) hb).trans ?_)
    · rcases List.mem_cons.1 hc with rfl | hc
      · exact ha
      · rw [(List.mem_replicate.1 hc).2]
        exact hb
    · rw [hfilter]
      exact decision_below_limit hbkey
  · intro hapart earlier a hearlier ha
    refine (decision_filter fun b hb key hbkey hakey => ?_).symm
    have hsame := hapart a.call ha b.call (hearlier b hb) key (Attempt.key_eq_some.1 hakey)
      (Attempt.key_eq_some.1 hbkey)
    simp [Attempt.sameQuota, hsame, hakey, hbkey]

end

/-! ## A body that names an address -/

/-- Somebody asks for a token as the client `203.0.113.9`. -/
def namedAddress : Call :=
  ⟨.preConnect, .rest (.str "203.0.113.9") none (some "198.51.100.7")⟩

/-- A handshake without a token from the address `203.0.113.9`. -/
def bareHandshake : Call :=
  ⟨.preConnect, .ws none (some "gateway.example") (some "203.0.113.9") "/?type=device"⟩

/-- Five requests of the one are at the limit of the API, and the other is refused. -/
theorem namedAddress_blocks :
    decision {} (fun _ _ => some none) (List.replicate 5 ⟨1702656000000, namedAddress⟩)
        ⟨1702656001000, bareHandshake⟩ =
        .error (.http "Too many requests. Try again in 59 seconds.") ∧
      decision {} (fun _ _ => some none) ((List.replicate 5 ⟨1702656000000, namedAddress⟩).filter
        (Attempt.sameQuota (fun _ _ => some none) ⟨1702656001000, bareHandshake⟩))
        ⟨1702656001000, bareHandshake⟩ = .ok () ∧
      ¬ NoInterference {} (fun _ _ => some none) Set.univ := by
  have hblocked : decision {} (fun _ _ => some none)
      (List.replicate 5 ⟨1702656000000, namedAddress⟩) ⟨1702656001000, bareHandshake⟩ =
        .error (.http "Too many requests. Try again in 59 seconds.") := by decide
  have hfree : decision {} (fun _ _ => some none)
      ((List.replicate 5 ⟨1702656000000, namedAddress⟩).filter
        (Attempt.sameQuota (fun _ _ => some none) ⟨1702656001000, bareHandshake⟩))
      ⟨1702656001000, bareHandshake⟩ = .ok () := by decide
  refine ⟨hblocked, hfree, fun h => ?_⟩
  have hsame := h (List.replicate 5 ⟨1702656000000, namedAddress⟩) ⟨1702656001000, bareHandshake⟩
    (fun _ _ => trivial) trivial
  rw [hblocked, hfree] at hsame
  cases hsame

end GatewayRealtime
