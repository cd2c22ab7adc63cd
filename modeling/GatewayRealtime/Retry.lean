/-
  Redelivery (`services/event-retry-heartbeat.service.ts`, `shouldRetry`).

  * `retryStep`: the store, used by anybody, and the retry service, which sends to one connected
    user after the other; `sent` records what it sent.
  * `retryPendingEvents_run`: a tick of the gateway is such turns.
  * `Counted`: the attempts of a record bound what the service sent.
  * `retries_bounded`: no event is sent to a user more than `MAX_ATTEMPT_PER_EVENT` times, as long
    as none is that was delivered that often: `shouldRetry` counts the attempts of failed
    deliveries only.
  * `retry_window_iff`: with the defaults of the code, when a delivery that is not acknowledged is
    ever retried before the event expires.
-/
import Mathlib.Data.List.Count
import GatewayRealtime.Gateway
import GatewayRealtime.RecordStep

namespace GatewayRealtime

open EventStore

/-! ## The retry service -/

/-- A call of the store, or the turn of a connected user in `retryPendingEvents`. -/
inductive RetryOp
  | store (op : StoreOp JsObj)
  | retry (userId : ℕ) (jitter : String → ℚ)

/-- The store, and what the retry service has sent: users and events, oldest first. -/
structure RetryWorld where
  world : StoreWorld JsObj
  sent : List (ℕ × String)

/-- A process that has just started. -/
def RetryWorld.init (now : ℤ) : RetryWorld := ⟨StoreWorld.init JsObj now, []⟩

/-- The store after the records of a turn were sent. -/
def EventStore.markAllSent {P : Type} (s : EventStore P) (userId : ℕ) (now : ℤ)
    (records : List (EventRecord P)) : EventStore P :=
  records.foldl (fun s record => s.markSent userId record now) s

/-- What the callers of the store promise: only events of quality 1 and 2 are stored. -/
def StoreOp.promised {P : Type} : StoreOp P → Bool
  | .create _ _ _ _ qos _ => qos ≠ .qos0
  | _ => true

/-- One step at one reading of the clock. -/
def retryStep (cfg : StoreConfig) (w : RetryWorld) (op : ℤ × RetryOp) : Option RetryWorld :=
  match op with
  | (now, .store op) =>
    if op.promised then (storeStep cfg w.world (now, op)).map fun w' => ⟨w', w.sent⟩ else none
  | (now, .retry userId jitter) =>
    if w.world.clock ≤ now then
      let toRetry := w.world.store.getPendingWithRetry cfg userId now jitter
      some ⟨⟨w.world.store.markAllSent userId now toRetry, now, w.world.issued⟩,
        w.sent ++ toRetry.map fun record => (userId, record.eventId)⟩
    else none

/-! ## The ticks of the gateway -/

/-- The session and the event of a frame that carries a stored event. -/
def Effect.stored? : Effect → Option (SessionRef × String)
  | .send _ r _ (.stored eventId) => some (r, eventId)
  | _ => none

section
variable {k : Connections}

theorem stored?_send {r : SessionRef} (hactive : k.isActive r = true) (frame : Frame)
    (eventId : String) :
    (k.send r frame (.stored eventId)).filterMap Effect.stored? = [(r, eventId)] := by
  obtain ⟨c, hc, hopen⟩ := k.isActive_iff.1 hactive
  simp [Connections.send, hc, hopen, Effect.stored?]

theorem stored?_flatMap_send {r : SessionRef} (hactive : k.isActive r = true) :
    ∀ records : List (EventRecord JsObj),
    (records.flatMap fun record =>
        k.send r (.json (Connections.retryMessage record)) (.stored record.eventId)).filterMap
      Effect.stored? = records.map fun record => (r, record.eventId)
  | [] => rfl
  | record :: records => by
    rw [List.flatMap_cons, List.filterMap_append, stored?_send hactive,
      stored?_flatMap_send hactive records]
    rfl

/-- A user's part of a tick is the turn of the user, if it is connected. -/
theorem retryUser_run (k : Connections) (cfg : StoreConfig) (now : ℤ) (jitter : ℕ → String → ℚ)
    (issued : List String) (u : ℕ) (acc : List Effect × EventStore JsObj)
    (sent : List (ℕ × String)) :
    ∃ ops new, (∀ op ∈ ops, op = (now, .retry u (jitter u))) ∧
      Run (retryStep cfg) anyStep ⟨⟨acc.2, now, issued⟩, sent⟩ ops
        ⟨⟨(k.retryUser cfg now jitter acc u).2, now, issued⟩, sent ++ new⟩ ∧
      (k.retryUser cfg now jitter acc u).1.filterMap Effect.stored? =
        acc.1.filterMap Effect.stored? ++
          new.filterMap fun d => (k.find d.1).map fun r => (r, d.2) := by
  have hstay : ∃ ops new, (∀ op ∈ ops, op = (now, .retry u (jitter u))) ∧
      Run (retryStep cfg) anyStep ⟨⟨acc.2, now, issued⟩, sent⟩ ops
        ⟨⟨acc.2, now, issued⟩, sent ++ new⟩ ∧ acc.1.filterMap Effect.stored? =
          acc.1.filterMap Effect.stored? ++
            new.filterMap fun d => (k.find d.1).map fun r => (r, d.2) :=
    ⟨[], [], nofun, by simpa using Run.nil, by simp⟩
  unfold Connections.retryUser
  cases hfind : k.find u with
  | none => exact hstay
  | some r =>
    dsimp only
    split_ifs with hactive
    · refine ⟨[(now, .retry u (jitter u))],
        (acc.2.getPendingWithRetry cfg u now (jitter u)).map fun record => (u, record.eventId),
        by simp, .single trivial (by simp [retryStep, markAllSent]), ?_⟩
      rw [List.filterMap_append, stored?_flatMap_send hactive, List.filterMap_map]
      congr 1
      rw [← List.filterMap_eq_map]
      exact List.filterMap_congr fun record _ => by simp [hfind]
    · exact hstay

theorem retryUsers_run (k : Connections) (cfg : StoreConfig) (now : ℤ) (jitter : ℕ → String → ℚ)
    (issued : List String) : ∀ (us : List ℕ) (acc : List Effect × EventStore JsObj)
    (sent : List (ℕ × String)),
    ∃ ops new, (∀ op ∈ ops, ∃ u, op = (now, .retry u (jitter u))) ∧
      Run (retryStep cfg) anyStep ⟨⟨acc.2, now, issued⟩, sent⟩ ops
        ⟨⟨(us.foldl (k.retryUser cfg now jitter) acc).2, now, issued⟩, sent ++ new⟩ ∧
      (us.foldl (k.retryUser cfg now jitter) acc).1.filterMap Effect.stored? =
        acc.1.filterMap Effect.stored? ++
          new.filterMap fun d => (k.find d.1).map fun r => (r, d.2)
  | [], acc, sent => ⟨[], [], nofun, by simpa using Run.nil, by simp⟩
  | u :: us, acc, sent => by
    obtain ⟨ops₁, new₁, hops₁, hrun₁, hsent₁⟩ :=
      retryUser_run k cfg now jitter issued u acc sent
    obtain ⟨ops₂, new₂, hops₂, hrun₂, hsent₂⟩ :=
      retryUsers_run k cfg now jitter issued us (k.retryUser cfg now jitter acc u) (sent ++ new₁)
    refine ⟨ops₁ ++ ops₂, new₁ ++ new₂, fun op hop => ?_, ?_, ?_⟩
    · rcases List.mem_append.1 hop with hop | hop
      · exact ⟨u, hops₁ op hop⟩
      · exact hops₂ op hop
    · rw [← List.append_assoc]
      exact hrun₁.append hrun₂
    · rw [List.foldl_cons, hsent₂, hsent₁, List.filterMap_append, List.append_assoc]

/-- **A tick is turns.**  `retryPendingEvents` does to the store what turns of connected users do,
    and sends a frame to the session of the user for each event that they send. -/
theorem retryPendingEvents_run (k : Connections) (cfg : StoreConfig) (now : ℤ)
    (jitter : ℕ → String → ℚ) (s : EventStore JsObj) (issued : List String)
    (sent : List (ℕ × String)) :
    ∃ ops new, (∀ op ∈ ops, ∃ u, op = (now, .retry u (jitter u))) ∧
      Run (retryStep cfg) anyStep ⟨⟨s, now, issued⟩, sent⟩ ops
        ⟨⟨(k.retryPendingEvents cfg now jitter s).2, now, issued⟩, sent ++ new⟩ ∧
      (k.retryPendingEvents cfg now jitter s).1.filterMap Effect.stored? =
        new.filterMap fun d => (k.find d.1).map fun r => (r, d.2) := by
  obtain ⟨ops, new, hops, hrun, hsent⟩ :=
    retryUsers_run k cfg now jitter issued s.getAllUserIds ([], s) sent
  exact ⟨ops, new, hops, hrun, hsent⟩

end

namespace EventStore

/-! ## What is retried -/

section
variable {P : Type} {s : EventStore P} {cfg : StoreConfig} {now : ℤ} {u : ℕ} {e : String}
  {jitter : String → ℚ} {r : EventRecord P}

/-- The records of one turn have different ids. -/
theorem nodup_getPendingWithRetry (hs : StoreInv s) :
    ((s.getPendingWithRetry cfg u now jitter).map EventRecord.eventId).Nodup := by
  have hindexed : (s.indexed u).Nodup := by
    unfold indexed
    cases s.userEvents.get? u with
    | none => simp
    | some set => exact set.nodup
  have hrecords : ((s.indexed u).filterMap s.events.get?).Nodup := by
    refine hindexed.filterMap fun a a' b hb hb' => ?_
    rw [← hs.keyed a b hb, ← hs.keyed a' b hb']
  refine List.Nodup.map_on (fun x hx y hy heq => ?_) ?_
  · obtain ⟨⟨id, -, hx⟩, -⟩ := mem_getPendingWithRetry.1 hx
    obtain ⟨⟨id', -, hy⟩, -⟩ := mem_getPendingWithRetry.1 hy
    rw [hs.keyed id x hx, hs.keyed id' y hy] at heq
    rw [heq, hy] at hx
    exact (Option.some.inj hx).symm
  · exact (List.perm_insertionSort _ _).nodup_iff.2 (hrecords.filter _)

/-! ## Attempts bound what was sent -/

/-- The state of a recipient accounts for `n` deliveries: its attempts are as many, or one less
    if it has applied the event; and an event that was never sent has no attempts. -/
def Counts (n : ℕ) (x : RecipientState) : Prop :=
  n ≤ x.attempts + (if x.status = some .APPLIED then 1 else 0) ∧
    (x.status = some .STORED → x.attempts = 0)

theorem Counts.le {n : ℕ} {x : RecipientState} (h : Counts n x)
    (hne : x.status ≠ some .APPLIED) : n ≤ x.attempts := by
  have hle := h.1
  rwa [if_neg hne] at hle

/-- Nobody but the retry service has to count. -/
theorem RecipientStep.counts {op : StoreOp P} {n : ℕ} {x y : RecipientState}
    (h : RecipientStep cfg now u e op x y) (hy : ∃ st, y.status = some st) (hx : Counts n x) :
    Counts n y := by
  cases h with
  | same => exact hx
  | evicted =>
    obtain ⟨st, hst⟩ := hy
    cases hst
  | delivered hne =>
    have hle := hx.le hne
    exact ⟨by simp; omega, by simp⟩
  | failed error hne =>
    have hle := hx.1
    refine ⟨?_, by simp⟩
    split_ifs at hle <;> simp <;> omega
  | applied =>
    have hle := hx.1
    refine ⟨?_, by simp⟩
    split_ifs at hle <;> simp <;> omega
  | stale hst =>
    have hle := hx.1
    rw [hst] at hle
    exact ⟨by simpa using hle, by simp⟩

/-- The attempts on record account for `n` deliveries to `u`, as long as it is a recipient. -/
def Counted (u : ℕ) (e : String) (n : ℕ) (s : EventStore P) : Prop :=
  ∀ r, s.events.get? e = some r → inIndex s.userEvents u e → Counts n (r.recipientState u)

/-- The recipient `u` has not applied the event. -/
def Unapplied (u : ℕ) (e : String) (s : EventStore P) : Prop :=
  ∀ r, s.events.get? e = some r → inIndex s.userEvents u e → r.userStatus.get? u ≠ some .APPLIED

variable {n : ℕ} {op : StoreOp P}

theorem Counted.apply (h : Counted u e n s) (hs : StoreInv s) (hop : e ∉ op.issues)
    (hnew : ∀ e' ∈ op.issues, s.events.get? e' = none) : Counted u e n (op.apply cfg now s) := by
  intro r' hr' hi'
  obtain ⟨r, hr, -, hstep⟩ := apply_recipientStep cfg now s hop hr'
  obtain ⟨r₁, st, hr₁, hst⟩ := (hs.apply cfg now hnew).recipient u e hi'
  obtain rfl : r₁ = r' := Option.some.inj (hr₁.symm.trans hr')
  exact (hstep u).counts ⟨st, hst⟩ (h r hr (apply_inIndex cfg now s hop hi'))

theorem Unapplied.apply (h : Unapplied u e s) (hop : e ∉ op.issues)
    (hack : op ≠ .markApplied u e) : Unapplied u e (op.apply cfg now s) := by
  intro r' hr' hi' happlied
  obtain ⟨r, hr, -, hstep⟩ := apply_recipientStep cfg now s hop hr'
  rcases (hstep u).applied_cases happlied with hold | hnew
  · exact h r hr (apply_inIndex cfg now s hop hi') hold
  · exact hack hnew

/-- What the service does after it sent a record. -/
theorem markSent_apply (cfg : StoreConfig) (u : ℕ) (hqos : r.qos ≠ .qos0) (now : ℤ) :
    (r.qos = .qos1 ∧ s.markSent u r now = (StoreOp.markApplied u r.eventId).apply cfg now s) ∨
      r.qos = .qos2 ∧ s.markSent u r now = (StoreOp.markDelivered u r.eventId).apply cfg now s := by
  unfold markSent
  cases hq : r.qos with
  | qos0 => exact absurd hq hqos
  | qos1 => exact Or.inl ⟨rfl, rfl⟩
  | qos2 => exact Or.inr ⟨rfl, rfl⟩

theorem StoreInv.markSent (hs : StoreInv s) (u : ℕ) (r : EventRecord P) (now : ℤ) :
    StoreInv (s.markSent u r now) := by
  unfold EventStore.markSent
  split
  · exact hs.markApplied u r.eventId
  · exact hs.markDelivered u r.eventId now
  · exact hs

/-- A delivery that the service makes is one more attempt. -/
theorem Counted.markSent (h : Counted u r.eventId n s) (hun : Unapplied u r.eventId s)
    (hqos : r.qos ≠ .qos0) (now : ℤ) : Counted u r.eventId (n + 1) (s.markSent u r now) := by
  intro r' hr' hi'
  rcases markSent_apply (s := s) {} u hqos now with ⟨-, heq⟩ | ⟨-, heq⟩ <;> rw [heq] at hr' hi' <;>
    obtain ⟨r₀, hr₀, -, -⟩ := apply_recipientStep {} now s (by simp [StoreOp.issues]) hr' <;>
    have hi₀ := apply_inIndex {} now s (by simp [StoreOp.issues]) hi' <;>
    have hcounts := h r₀ hr₀ hi₀ <;> have hun₀ := hun r₀ hr₀ hi₀
  · rw [markApplied_state hr₀ hr']
    exact ⟨by simpa using hcounts.le hun₀, by simp⟩
  · obtain ⟨r₁, hr₁, -, hstate⟩ := markDelivered_state hr₀ hun₀ now
    obtain rfl : r₁ = r' := Option.some.inj (hr₁.symm.trans hr')
    rw [hstate]
    exact ⟨by simpa [EventRecord.recipientState] using hcounts.le hun₀, by simp⟩

theorem Counted.markSent_ne (h : Counted u e n s) (hs : StoreInv s) (v : ℕ)
    (hqos : r.qos ≠ .qos0) (now : ℤ) : Counted u e n (s.markSent v r now) := by
  rcases markSent_apply (s := s) {} v hqos now with ⟨-, heq⟩ | ⟨-, heq⟩ <;> rw [heq] <;>
    exact h.apply hs (by simp [StoreOp.issues]) (by simp [StoreOp.issues])

theorem Unapplied.markSent (h : Unapplied u e s) (hne : r.eventId ≠ e) (hqos : r.qos ≠ .qos0)
    (now : ℤ) : Unapplied u e (s.markSent u r now) := by
  rcases markSent_apply (s := s) {} u hqos now with ⟨-, heq⟩ | ⟨-, heq⟩ <;> rw [heq] <;>
    refine h.apply (by simp [StoreOp.issues]) ?_
  · simpa using hne
  · simp

/-- A turn of another user, or without the event, changes nothing about the count. -/
theorem Counted.markAllSent_ne (v : ℕ) (now : ℤ) : ∀ (records : List (EventRecord P))
    {s : EventStore P}, Counted u e n s → StoreInv s → (∀ r ∈ records, r.qos ≠ .qos0) →
    Counted u e n (s.markAllSent v now records)
  | [], _, h, _, _ => h
  | r :: records, _, h, hs, hqos =>
    Counted.markAllSent_ne v now records (h.markSent_ne hs v (hqos r List.mem_cons_self) now)
      (hs.markSent v r now) fun r' hr' => hqos r' (List.mem_cons_of_mem r hr')

/-- A turn of the user counts the event once, if it sends it. -/
theorem Counted.markAllSent (now : ℤ) : ∀ (records : List (EventRecord P)) {s : EventStore P},
    Counted u e n s → StoreInv s → (∀ r ∈ records, r.qos ≠ .qos0) →
    (records.map EventRecord.eventId).Nodup →
    (e ∈ records.map EventRecord.eventId → Unapplied u e s) →
    Counted u e (n + (records.map EventRecord.eventId).count e) (s.markAllSent u now records)
  | [], _, h, _, _, _, _ => h
  | r :: records, s, h, hs, hqos, hnd, hun => by
    have hqos' : ∀ r' ∈ records, r'.qos ≠ .qos0 := fun r' hr' =>
      hqos r' (List.mem_cons_of_mem r hr')
    rw [List.map_cons, List.nodup_cons] at hnd
    by_cases he : r.eventId = e
    · subst he
      have hcount : (records.map EventRecord.eventId).count r.eventId = 0 :=
        List.count_eq_zero.2 hnd.1
      rw [List.map_cons, List.count_cons_self, hcount]
      exact Counted.markAllSent_ne u now records
        (h.markSent (hun (by simp)) (hqos r List.mem_cons_self) now) (hs.markSent u r now) hqos'
    · rw [List.map_cons, List.count_cons_of_ne he]
      exact Counted.markAllSent now records
        (h.markSent_ne hs u (hqos r List.mem_cons_self) now) (hs.markSent u r now) hqos' hnd.2
        fun hmem => (hun (List.mem_cons_of_mem _ hmem)).markSent he (hqos r List.mem_cons_self) now

theorem StoreInv.markAllSent (u : ℕ) (now : ℤ) : ∀ (records : List (EventRecord P))
    {s : EventStore P}, StoreInv s → StoreInv (s.markAllSent u now records)
  | [], _, hs => hs
  | r :: records, _, hs => StoreInv.markAllSent u now records (hs.markSent u r now)

theorem noGrow_markAllSent (u : ℕ) (now : ℤ) (records : List (EventRecord P))
    (s : EventStore P) : NoGrow s (s.markAllSent u now records) :=
  have hops : Operated {} now s (s.markAllSent u now records) :=
    operated_foldl (fun _ r => operated_markSent u r) records s
  hops.noGrow

/-- A new event has not been sent to anybody. -/
theorem create_attempts {targetIds : List ℕ} {eventName : String} {payload : P} {qos : QoS}
    {options : CreateOptions} {r' : EventRecord P}
    (hr' : (s.create cfg e targetIds eventName payload qos options now).events.get? e = some r') :
    (r'.recipientState u).attempts = 0 := by
  rw [create_events] at hr'
  obtain ⟨r, hr, -, hkept⟩ := kept_foldl (kept_enforcePerUserLimit cfg now) targetIds _ r' hr'
  have hnew : (r.recipientState u).attempts = 0 := by
    simp only [insertEvent, OMap.get?_set, newRecord, if_true] at hr
    cases hr
    have hattempts : ∀ (vs : List ℕ) (r : EventRecord P),
        ((vs.foldl (addTarget now) r).recipientState u).attempts =
          (r.recipientState u).attempts := by
      intro vs
      induction vs with
      | nil => exact fun _ => rfl
      | cons v vs ih => exact fun r => ih _
    rw [hattempts]
    rfl
  rcases hkept u with h | h <;> rw [h] <;> exact hnew

theorem qos_of_header {r r' : EventRecord P} (h : r'.header = r.header) : r'.qos = r.qos := by
  have := congrArg EventRecord.qos h
  exact this

end

/-! ## The bound -/

/-- No event is sent again that was delivered as often as it may be retried. -/
def RetriesCounted (cfg : StoreConfig) (w : RetryWorld) (op : ℤ × RetryOp) : Prop :=
  match op.2 with
  | .store _ => True
  | .retry u jitter =>
    ∀ r ∈ w.world.store.getPendingWithRetry cfg u op.1 jitter,
      r.getUserStatus u = .DELIVERED → r.getDeliveryAttempts u < cfg.MAX_ATTEMPT_PER_EVENT

instance (cfg : StoreConfig) (w : RetryWorld) (op : ℤ × RetryOp) :
    Decidable (RetriesCounted cfg w op) :=
  match op with
  | (_, .store _) => isTrue trivial
  | (now, .retry u jitter) =>
    inferInstanceAs (Decidable (∀ r ∈ w.world.store.getPendingWithRetry cfg u now jitter,
      r.getUserStatus u = .DELIVERED → r.getDeliveryAttempts u < cfg.MAX_ATTEMPT_PER_EVENT))

/-- What a run of the retry service preserves. -/
structure Bounded (cfg : StoreConfig) (w : RetryWorld) : Prop where
  world : WorldInv w.world
  qos : ∀ id r, w.world.store.events.get? id = some r → r.qos ≠ .qos0
  unsent : ∀ u e, e ∉ w.world.issued → w.sent.count (u, e) = 0
  counted : ∀ u e, Counted u e (w.sent.count (u, e)) w.world.store
  bounded : ∀ u e, w.sent.count (u, e) ≤ cfg.MAX_ATTEMPT_PER_EVENT

section
variable {cfg : StoreConfig} {w w' : RetryWorld} {now : ℤ}

theorem bounded_init (cfg : StoreConfig) (t : ℤ) : Bounded cfg (RetryWorld.init t) where
  world := .init t
  qos _ _ h := by cases h
  unsent _ _ _ := rfl
  counted _ _ r h := by cases h
  bounded _ _ := Nat.zero_le _

theorem Bounded.store (h : Bounded cfg w) {op : StoreOp JsObj} (hqos : op.promised = true)
    {world' : StoreWorld JsObj} (hst : storeStep cfg w.world (now, op) = some world') :
    Bounded cfg ⟨world', w.sent⟩ := by
  have hworld := h.world.step hst
  obtain ⟨⟨-, hen⟩, rfl⟩ := by simpa [storeStep] using hst
  have hfresh : ∀ e ∈ op.issues, e ∉ w.world.issued := StoreOp.fresh_of_enabled hen
  refine ⟨hworld, fun id r' hr' => ?_, fun u e he => ?_, fun u e => ?_, h.bounded⟩
  · by_cases hop : id ∈ op.issues
    · cases op with
      | create e targetIds eventName payload qos options =>
        rcases (create_growsBy cfg w.world.store e targetIds eventName payload qos options
          now).events id r' hr' with ⟨r, hr, hh⟩ | ⟨-, hh⟩
        · rw [qos_of_header hh]
          exact h.qos id r hr
        · rw [qos_of_header hh]
          simpa [StoreOp.promised, newRecord] using hqos
      | _ => simp [StoreOp.issues] at hop
    · obtain ⟨r, hr, hh, -⟩ := apply_recipientStep cfg now w.world.store hop hr'
      rw [qos_of_header hh]
      exact h.qos id r hr
  · exact h.unsent u e fun he' => he (List.mem_append_right _ he')
  · by_cases hop : e ∈ op.issues
    · intro r' hr' _
      dsimp only
      rw [h.unsent u e (hfresh e hop)]
      cases op with
      | create e' targetIds eventName payload qos options =>
        obtain rfl : e = e' := by simpa [StoreOp.issues] using hop
        exact ⟨Nat.zero_le _, fun _ => create_attempts hr'⟩
      | _ => simp [StoreOp.issues] at hop
    · exact (h.counted u e).apply h.world.store hop fun e' he' => h.world.fresh (hfresh e' he')

/-- An event that is sent in a turn was sent less often than it may be. -/
theorem Bounded.lt (h : Bounded cfg w) (hmax : 0 < cfg.MAX_ATTEMPT_PER_EVENT) {u : ℕ}
    {jitter : String → ℚ} (hok : RetriesCounted cfg w (now, .retry u jitter))
    {r : EventRecord JsObj} (hr : r ∈ w.world.store.getPendingWithRetry cfg u now jitter) :
    w.sent.count (u, r.eventId) < cfg.MAX_ATTEMPT_PER_EVENT := by
  obtain ⟨⟨id, hi, hget⟩, -, hretry⟩ := mem_getPendingWithRetry.1 hr
  obtain ⟨r₀, st, hr₀, hst⟩ := h.world.store.recipient u id hi
  obtain rfl : r₀ = r := Option.some.inj (hr₀.symm.trans hget)
  obtain rfl := h.world.store.keyed id r₀ hget
  have hstatus : r₀.getUserStatus u = st := by rw [EventRecord.getUserStatus, hst]; rfl
  obtain ⟨hne, hfailed⟩ := shouldRetry_status hretry
  have hcounts := h.counted u r₀.eventId r₀ hget hi
  have hle : w.sent.count (u, r₀.eventId) ≤ r₀.getDeliveryAttempts u :=
    hcounts.le (by rw [EventRecord.recipientState, hst]; simpa [hstatus] using hne)
  refine hle.trans_lt ?_
  cases st with
  | STORED =>
    have hzero : r₀.getDeliveryAttempts u = 0 := hcounts.2 hst
    omega
  | DELIVERED => exact hok r₀ hr hstatus
  | APPLIED => exact absurd hstatus hne
  | FAILED => exact hfailed hstatus

theorem count_turn (u v : ℕ) (e : String) (ids : List String) :
    (ids.map fun id => (u, id)).count (v, e) = if v = u then ids.count e else 0 := by
  split_ifs with h
  · subst h
    exact List.count_map_of_injective ids _ (fun _ _ heq => (Prod.mk.inj heq).2) e
  · refine List.count_eq_zero.2 fun hmem => ?_
    obtain ⟨_, -, heq⟩ := List.mem_map.1 hmem
    exact h (Prod.mk.inj heq).1.symm

theorem Bounded.retry (h : Bounded cfg w) (hmax : 0 < cfg.MAX_ATTEMPT_PER_EVENT) {u : ℕ}
    {jitter : String → ℚ} (hok : RetriesCounted cfg w (now, .retry u jitter))
    (hst : retryStep cfg w (now, .retry u jitter) = some w') : Bounded cfg w' := by
  simp only [retryStep] at hst
  split_ifs at hst with hclock
  cases hst
  let toRetry := w.world.store.getPendingWithRetry cfg u now jitter
  have hqos : ∀ r ∈ toRetry, r.qos ≠ .qos0 := fun r hr => by
    obtain ⟨⟨id, -, hget⟩, -⟩ := mem_getPendingWithRetry.1 hr
    exact h.qos id r hget
  have hnodup : (toRetry.map EventRecord.eventId).Nodup := nodup_getPendingWithRetry h.world.store
  have hgrow := noGrow_markAllSent u now toRetry w.world.store
  have hcount : ∀ v e, (w.sent ++ toRetry.map fun r => (u, r.eventId)).count (v, e) =
      w.sent.count (v, e) + if v = u then (toRetry.map EventRecord.eventId).count e else 0 := by
    intro v e
    rw [List.count_append, ← count_turn, List.map_map]
    rfl
  constructor
  · exact h.world.noGrow (StoreInv.markAllSent u now toRetry h.world.store) hgrow hclock
      (List.Subset.refl _)
  · intro id r' hr'
    obtain ⟨r, hr, hh⟩ := hgrow.events id r' hr'
    rw [qos_of_header hh]
    exact h.qos id r hr
  · intro v e he
    have hnot : e ∉ toRetry.map EventRecord.eventId := by
      intro hmem
      obtain ⟨r, hr, rfl⟩ := List.mem_map.1 hmem
      obtain ⟨⟨id, -, hget⟩, -⟩ := mem_getPendingWithRetry.1 hr
      rw [h.world.store.keyed id r hget] at he
      exact he (h.world.issued id r hget)
    rw [hcount, h.unsent v e he, List.count_eq_zero.2 hnot, ite_self]
  · intro v e
    dsimp only
    rw [hcount]
    split_ifs with hv
    · subst hv
      refine Counted.markAllSent now toRetry (h.counted v e) h.world.store hqos hnodup ?_
      intro hmem r hr hi
      obtain ⟨r', hr', rfl⟩ := List.mem_map.1 hmem
      obtain ⟨⟨id, -, hget⟩, -, hretry⟩ := mem_getPendingWithRetry.1 hr'
      rw [h.world.store.keyed id r' hget] at hr
      obtain rfl : r' = r := Option.some.inj (hget.symm.trans hr)
      intro happlied
      exact (shouldRetry_status hretry).1 (by rw [EventRecord.getUserStatus, happlied]; rfl)
    · exact Counted.markAllSent_ne u now toRetry (h.counted v e) h.world.store hqos
  · intro v e
    rw [hcount]
    split_ifs with hv
    · subst hv
      by_cases hmem : e ∈ toRetry.map EventRecord.eventId
      · obtain ⟨r, hr, rfl⟩ := List.mem_map.1 hmem
        rw [List.count_eq_one_of_mem hnodup hmem]
        exact h.lt hmax hok hr
      · rw [List.count_eq_zero.2 hmem]
        exact h.bounded v e
    · exact h.bounded v e

/-- **Retries are bounded** in every run in which no event is sent again that was delivered as
    often as it may be retried. -/
theorem retries_bounded {t : ℤ} {ops : List (ℤ × RetryOp)}
    (hmax : 0 < cfg.MAX_ATTEMPT_PER_EVENT)
    (hrun : Run (retryStep cfg) (RetriesCounted cfg) (RetryWorld.init t) ops w) (u : ℕ)
    (e : String) : w.sent.count (u, e) ≤ cfg.MAX_ATTEMPT_PER_EVENT := by
  refine (hrun.inv (bounded_init cfg t) ?_).bounded u e
  rintro w₁ ⟨now, op⟩ w₂ h hok hst
  cases op with
  | store op =>
    simp only [retryStep] at hst
    split_ifs at hst with hqos
    obtain ⟨world', hst', rfl⟩ := Option.map_eq_some_iff.1 hst
    exact h.store hqos hst'
  | retry u jitter => exact h.retry hmax hok hst

end

/-- An event without an end, and the turns of its recipient `1` at the given instants. -/
def neverAcked (turns : List ℤ) : List (ℤ × RetryOp) :=
  (10, .store (.create "e" [1] "sync-alarm" [] .qos2 {})) ::
    turns.map fun now => (now, .retry 1 fun _ => 1)

theorem retries_bounded_neverAcked :
    ∃ w, exec (guarded (retryStep {}) (RetriesCounted {})) (RetryWorld.init 0)
        (neverAcked [20, 30021]) = some w ∧ w.sent.count (1, "e") ≤ 5 := by
  have hexec : (exec (guarded (retryStep {}) (RetriesCounted {})) (RetryWorld.init 0)
      (neverAcked [20, 30021])).isSome = true := by decide
  obtain ⟨w, hw⟩ := Option.isSome_iff_exists.1 hexec
  exact ⟨w, hw, retries_bounded (by decide) (run_of_exec_guarded hw) 1 "e"⟩

/-- With the defaults of the code, a user that never acknowledges is sent the event six times. -/
theorem neverAcked_six :
    ¬ ∀ (cfg : StoreConfig) (t : ℤ) (ops : List (ℤ × RetryOp)) (w : RetryWorld) (u : ℕ)
      (e : String), 0 < cfg.MAX_ATTEMPT_PER_EVENT →
        Run (retryStep cfg) anyStep (RetryWorld.init t) ops w →
          w.sent.count (u, e) ≤ cfg.MAX_ATTEMPT_PER_EVENT := by
  intro h
  have hexec : (exec (retryStep {}) (RetryWorld.init 0)
      (neverAcked [20, 30021, 60022, 90023, 120024, 150025])).map
        (fun w => w.sent.count (1, "e")) = some 6 := by decide
  obtain ⟨w, hw, hcount⟩ := Option.map_eq_some_iff.1 hexec
  have hle := h {} 0 _ w 1 "e" (by decide) (run_of_exec hw)
  rw [hcount] at hle
  exact absurd hle (by decide)

/-! ## The window for a retry -/

section
variable {P : Type} {cfg : StoreConfig} {u : ℕ} {e : String} {w w' : StoreWorld P}

/-- The operation does not mark the event for the recipient. -/
def Unmarked (u : ℕ) (e : String) (_ : StoreWorld P) (op : ℤ × StoreOp P) : Prop :=
  op.2 ≠ .markDelivered u e ∧ op.2 ≠ .markApplied u e ∧ ∀ error, op.2 ≠ .markFailed u e error

/-- The event of a record that expires at `expiry` was last sent to `u` at the instant `d`, and
    only waiting has passed since. -/
structure Waiting (cfg : StoreConfig) (u : ℕ) (e : String) (expiry d : ℤ) (w : StoreWorld P) :
    Prop where
  world : WorldInv w
  issued : e ∈ w.issued
  record : ∀ r, w.store.events.get? e = some r → r.expiresAt = some expiry ∧
    (inIndex w.store.userEvents u e → (r.recipientState u).last = some d ∧
      ((r.recipientState u).status = some .DELIVERED ∨
        (r.recipientState u).status = some .FAILED ∧ cfg.STALE_TIMEOUT < w.clock - d))

theorem expiresAt_of_header {r r' : EventRecord P} (h : r'.header = r.header) :
    r'.expiresAt = r.expiresAt := by
  have := congrArg EventRecord.expiresAt h
  exact this

/-- Waiting goes on with every operation that does not mark the event for the recipient. -/
theorem Waiting.step {expiry d : ℤ} {op : ℤ × StoreOp P} (h : Waiting cfg u e expiry d w)
    (hok : Unmarked u e w op) (hst : storeStep cfg w op = some w') :
    Waiting cfg u e expiry d w' := by
  have hworld := h.world.step hst
  obtain ⟨⟨hclock, hen⟩, rfl⟩ := by simpa [storeStep] using hst
  obtain ⟨now, op⟩ := op
  have hop : e ∉ op.issues := fun he => StoreOp.fresh_of_enabled hen e he h.issued
  refine ⟨hworld, List.mem_append_right _ h.issued, fun r' hr' => ?_⟩
  obtain ⟨r, hr, hh, hstep⟩ := apply_recipientStep cfg now w.store hop hr'
  obtain ⟨hexpiry, hwait⟩ := h.record r hr
  refine ⟨(expiresAt_of_header hh).trans hexpiry, fun hi' => ?_⟩
  obtain ⟨hlast, hstatus⟩ := hwait (apply_inIndex cfg now w.store hop hi')
  obtain ⟨r₁, st', hr₁, hst'⟩ := hworld.store.recipient u e hi'
  obtain rfl : r₁ = r' := Option.some.inj (hr₁.symm.trans hr')
  have hsome : ∃ st, (r₁.recipientState u).status = some st := ⟨st', hst'⟩
  have hstepu := hstep u
  generalize r₁.recipientState u = y at hstepu hsome ⊢
  cases hstepu with
  | same => exact ⟨hlast, hstatus.imp_right fun hf => ⟨hf.1, by dsimp only; omega⟩⟩
  | evicted =>
    obtain ⟨st, hst⟩ := hsome
    cases hst
  | delivered => exact absurd rfl hok.1
  | failed error => exact absurd rfl (hok.2.2 error)
  | applied => exact absurd rfl hok.2.1
  | stale _ hlast' _ hlt =>
    rw [hlast] at hlast'
    cases hlast'
    exact ⟨hlast, Or.inr ⟨rfl, hlt⟩⟩

/-- With the timeouts of the code, an event that waits and lives no longer than 30 seconds is
    never retried before it expires. -/
theorem Waiting.not_retried {expiry d t : ℤ} {jitter : String → ℚ} {r : EventRecord P}
    (h : Waiting cfg u e expiry d w) (hdelivered : cfg.DELIVERED_TIMEOUT = 30000)
    (hstale : cfg.STALE_TIMEOUT = 3600000) (hexpiry : expiry ≤ d + 30000) (hd : d ≠ 0)
    (h0 : expiry ≠ 0) (ht : w.clock ≤ t) (hr : r ∈ w.store.getPendingWithRetry cfg u t jitter) :
    r.eventId ≠ e := by
  rintro rfl
  obtain ⟨⟨id, hi, hget⟩, hlive, hretry⟩ := mem_getPendingWithRetry.1 hr
  obtain rfl := h.world.store.keyed id r hget
  obtain ⟨hexp, hwait⟩ := h.record r hget
  obtain ⟨hlast, hstatus⟩ := hwait hi
  have hbefore : t ≤ expiry := by simpa [EventRecord.isExpired, hexp, h0] using hlive
  have hlast' : r.getLastDeliveryAttempt u = some d := hlast
  rcases hstatus with hst | ⟨-, hlt⟩
  · have hst' : r.getUserStatus u = .DELIVERED := by
      rw [EventRecord.getUserStatus, show r.userStatus.get? u = some .DELIVERED from hst]
      rfl
    rw [EventRecord.shouldRetry, hst'] at hretry
    simp only [hlast', Bool.or_eq_true, decide_eq_true_eq] at hretry
    omega
  · omega

/-- Every event that is dispatched with quality 2 lives between three and thirty seconds. -/
theorem ttl_bounds {h : WsEventJSON} (hh : h ∈ WS_EVENT_JSON_CLASSES) (hqos : h.qos = .qos2) :
    0 < h.ttl ∧ h.ttl ≤ 30000 := by
  have hall : ∀ h ∈ WS_EVENT_JSON_CLASSES, h.qos = .qos2 → 0 < h.ttl ∧ h.ttl ≤ 30000 := by decide
  exact hall h hh hqos

variable {c d ttl : ℤ} {eventName : String} {payload : P} {options : CreateOptions}

/-- The record of an event that lives a while says when it expires. -/
theorem newRecord_expiresAt (hpos : 0 < ttl) (httl : options.ttl = some ttl) :
    (newRecord e eventName payload .qos2 options c).expiresAt = some (c + ttl) := by
  simp [newRecord, httl, truthy, hpos.ne']

/-- An outstanding event that was just sent to its recipient waits. -/
theorem waiting_of_delivered (hw : WorldInv w) (hpos : 0 < ttl) (httl : options.ttl = some ttl)
    (hout : Outstanding (newRecord e eventName payload .qos2 options c) u w.store)
    (hst : storeStep cfg w (d, .markDelivered u e) = some w') :
    Waiting cfg u e (c + ttl) d w' ∧ c ≤ d ∧
      ∃ r, w'.store.events.get? e = some r ∧ inIndex w'.store.userEvents u e ∧
        r.userStatus.get? u = some .DELIVERED := by
  have hworld := hw.step hst
  obtain ⟨⟨hclock, -⟩, rfl⟩ := by simpa [storeStep] using hst
  obtain ⟨⟨r, hr, hh, st, hrst, hne⟩, hi⟩ := hout
  obtain ⟨r', hr', hh', hstate⟩ :=
    markDelivered_state hr (by rw [hrst]; simpa using hne) (e := e) d
  have hi' : inIndex (w.store.markDelivered u e d).userEvents u e := by
    unfold EventStore.markDelivered
    rw [show w.store.events.get? e = some r from hr]
    dsimp only
    split_ifs <;> exact hi
  have hexp : r'.expiresAt = some (c + ttl) :=
    (expiresAt_of_header (hh'.trans hh)).trans (newRecord_expiresAt hpos httl)
  refine ⟨⟨hworld, List.mem_append_right _ (hw.issued e r hr), fun r₁ hr₁ => ?_⟩, ?_, r', hr', hi',
    congrArg RecipientState.status hstate⟩
  · obtain rfl : r' = r₁ := Option.some.inj (hr'.symm.trans hr₁)
    exact ⟨hexp, fun _ => by rw [hstate]; exact ⟨rfl, Or.inl rfl⟩⟩
  · have hcreated := hw.created e r hr
    rw [createdAt_of_header hh] at hcreated
    exact hcreated.trans hclock

/-- **When a delivery can be retried.**  With the timeouts and the lifetimes of the code, an
    event that was sent to a recipient which does not acknowledge it is retried before it expires
    at no instant at all, unless the clock read 0 when it was sent or reads 0 when it expires:
    then the code takes the instant for a missing one. -/
theorem retry_window_iff {h : WsEventJSON} (hh : h ∈ WS_EVENT_JSON_CLASSES) (hqos : h.qos = .qos2)
    (hdelivered : cfg.DELIVERED_TIMEOUT = 30000) (hstale : cfg.STALE_TIMEOUT = 3600000)
    (httl : options.ttl = some h.ttl) {t₀ : ℤ} {ops : List (ℤ × StoreOp P)}
    (hrun : Run (storeStep cfg) anyStep (StoreWorld.init P t₀) ops w)
    (hout : Outstanding (newRecord e eventName payload .qos2 options c) u w.store)
    (hlive : (newRecord e eventName payload .qos2 options c).isExpired d = false)
    (hst : storeStep cfg w (d, .markDelivered u e) = some w') :
    (∃ post w'' t jitter, Run (storeStep cfg) (Unmarked u e) w' post w'' ∧ w''.clock ≤ t ∧
      ∃ r ∈ w''.store.getPendingWithRetry cfg u t jitter, r.eventId = e) ↔
    d = 0 ∨ c + h.ttl = 0 := by
  obtain ⟨hpos, hle⟩ := ttl_bounds hh hqos
  obtain ⟨hwait, hcd, r, hr, hi, hdel⟩ :=
    waiting_of_delivered (worldInv_run hrun) hpos httl hout hst
  have hclock : w'.clock = d := by
    obtain ⟨-, rfl⟩ := by simpa [storeStep] using hst
    rfl
  constructor
  · rintro ⟨post, w'', t, jitter, hpost, ht, r', hr', rfl⟩
    by_contra hnot
    rw [not_or] at hnot
    have hwait' := hpost.inv hwait fun _ _ _ h hok hst => h.step hok hst
    exact hwait'.not_retried hdelivered hstale (by omega) hnot.1 hnot.2 ht hr' rfl
  · intro hzero
    obtain ⟨hexp, hlast⟩ := hwait.record r hr
    have hlast' : r.getLastDeliveryAttempt u = some d := (hlast hi).1
    have hstatus : r.getUserStatus u = .DELIVERED := by rw [EventRecord.getUserStatus, hdel]; rfl
    have hretry : ∀ t, r.isExpired t = false → (d = 0 ∨ 30000 < t - d) →
        r ∈ w'.store.getPendingWithRetry cfg u t fun _ => 1 := fun t hx hdue => by
      refine mem_getPendingWithRetry.2 ⟨⟨e, hi, hr⟩, hx, ?_⟩
      rw [EventRecord.shouldRetry, hstatus]
      simpa [hlast', hdelivered] using hdue
    have hid := hwait.world.store.keyed e r hr
    rcases hzero with rfl | hzero
    · refine ⟨[], w', 0, fun _ => 1, .nil, hclock.le, r, hretry 0 ?_ (Or.inl rfl), hid⟩
      simpa [EventRecord.isExpired, hexp, newRecord_expiresAt hpos httl] using hlive
    · refine ⟨[], w', d + 30001, fun _ => 1, .nil, by omega, r, hretry _ ?_ (Or.inr (by omega)),
        hid⟩
      simp [EventRecord.isExpired, hexp, hzero]

end

/-- An alarm for device user 1, as it is stored. -/
def storedAlarm : ℤ × StoreOp JsObj :=
  (10, .create "e" [1] "sync-alarm" [] .qos2 { ttl := some SyncAlarmEvent.ttl })

theorem outstanding_storedAlarm :
    ∃ w w', exec (storeStep {}) (StoreWorld.init JsObj 0) [storedAlarm] = some w ∧
      storeStep {} w (11, .markDelivered 1 "e") = some w' ∧
      Outstanding (newRecord "e" "sync-alarm" [] .qos2 { ttl := some SyncAlarmEvent.ttl } 10) 1
        w.store := by
  refine ⟨_, _, rfl, rfl, ⟨_, rfl, rfl, .STORED, rfl, nofun⟩, ⟨_, rfl, by decide⟩⟩

theorem retry_window_iff_storedAlarm :
    ∃ w w', exec (storeStep {}) (StoreWorld.init JsObj 0) [storedAlarm] = some w ∧
      storeStep {} w (11, .markDelivered 1 "e") = some w' ∧
      ((∃ post w'' t jitter, Run (storeStep {}) (Unmarked 1 "e") w' post w'' ∧ w''.clock ≤ t ∧
        ∃ r ∈ w''.store.getPendingWithRetry {} 1 t jitter, r.eventId = "e") ↔
          (11 : ℤ) = 0 ∨ 10 + SyncAlarmEvent.ttl = 0) := by
  obtain ⟨w, w', hw, hw', hout⟩ := outstanding_storedAlarm
  exact ⟨w, w', hw, hw', retry_window_iff (by simp [WS_EVENT_JSON_CLASSES]) rfl rfl rfl rfl
    (run_of_exec hw) hout (by decide) hw'⟩

/-- The alarm expires before its retry is due. -/
theorem storedAlarm_not_retried :
    ¬ ∀ (h : WsEventJSON) (options : CreateOptions) (t₀ c d : ℤ) (ops : List (ℤ × StoreOp JsObj))
      (w w' : StoreWorld JsObj) (u : ℕ) (e eventName : String) (payload : JsObj),
      h ∈ WS_EVENT_JSON_CLASSES → h.qos = .qos2 → options.ttl = some h.ttl →
      Run (storeStep {}) anyStep (StoreWorld.init JsObj t₀) ops w →
      Outstanding (newRecord e eventName payload .qos2 options c) u w.store →
      (newRecord e eventName payload .qos2 options c).isExpired d = false →
      storeStep {} w (d, .markDelivered u e) = some w' →
      ∃ post w'' t jitter, Run (storeStep {}) (Unmarked u e) w' post w'' ∧ w''.clock ≤ t ∧
        ∃ r ∈ w''.store.getPendingWithRetry {} u t jitter, r.eventId = e := by
  intro h
  obtain ⟨w, w', hw, hw', hout⟩ := outstanding_storedAlarm
  obtain ⟨post, w'', t, jitter, hpost, ht, r, hr, he⟩ := h SyncAlarmEvent _ 0 10 11 _ w w' 1 "e" _ _
    (by simp [WS_EVENT_JSON_CLASSES]) rfl rfl (run_of_exec hw) hout (by decide) hw'
  obtain ⟨hwait, -⟩ := waiting_of_delivered (worldInv_run (run_of_exec hw)) (by decide) rfl hout hw'
  have hwait' := hpost.inv hwait fun _ _ _ h hok hst => h.step hok hst
  exact hwait'.not_retried rfl rfl (by decide) (by decide) (by decide) ht hr he

end EventStore

end GatewayRealtime
