/-
  What an operation of the store does to the delivery of an event to one recipient.

  * `RecipientState`: what a record says about a recipient: its status, how often the event was
    sent to it, and when last.
  * `RecipientStep`: the transitions of this state, each with the operation that makes it.
  * `apply_recipientStep`: a record that an operation leaves in the store was there before, and
    has taken such a step for every recipient.
  * `Kept`: the operations that send nothing and acknowledge nothing.
  * `Awaits`: an event is pending for a user; operations that create nothing let nobody await
    an event anew.
  * `AppliedBy`: a user has applied an event; nothing changes that.
-/
import GatewayRealtime.Create

namespace GatewayRealtime

/-- What a record says about a recipient. -/
structure RecipientState where
  status : Option TypeEventStatus
  attempts : ℕ
  last : Option ℤ
deriving DecidableEq

namespace EventRecord

variable {P : Type} (r : EventRecord P)

def recipientState (userId : ℕ) : RecipientState where
  status := r.userStatus.get? userId
  attempts := r.getDeliveryAttempts userId
  last := r.getLastDeliveryAttempt userId

/-- A recipient that is dropped loses its status; its attempts stay. -/
theorem dropUser_recipientState (v u : ℕ) :
    (r.dropUser v).recipientState u =
      if u = v then { r.recipientState u with status := none } else r.recipientState u := by
  unfold recipientState
  split_ifs with h
  · subst h
    simp [getDeliveryAttempts, getLastDeliveryAttempt, dropUser]
  · simp [getDeliveryAttempts, getLastDeliveryAttempt, dropUser, h]

theorem setUserStatus_recipientState (v u : ℕ) (status : TypeEventStatus) :
    (r.setUserStatus v status).recipientState u =
      if u = v then { r.recipientState u with status := some status }
      else r.recipientState u := by
  unfold recipientState
  split_ifs with h <;> simp [getDeliveryAttempts, getLastDeliveryAttempt, setUserStatus, h]

theorem incrementDeliveryAttempt_recipientState (v u : ℕ) (now : ℤ) :
    (r.incrementDeliveryAttempt v now).recipientState u =
      if u = v then
        ⟨(r.recipientState u).status, (r.recipientState u).attempts + 1, some now⟩
      else r.recipientState u := by
  unfold recipientState
  split_ifs with h <;>
    simp [getDeliveryAttempts, getLastDeliveryAttempt, incrementDeliveryAttempt, h]

theorem addDeliveryError_recipientState (v u : ℕ) (error : String) :
    (r.addDeliveryError v error).recipientState u = r.recipientState u := rfl

end EventRecord

namespace EventStore

variable {P : Type}

/-- The transitions of the state of recipient `u` of event `e`, at the instant `now`. -/
inductive RecipientStep (cfg : StoreConfig) (now : ℤ) (u : ℕ) (e : String) :
    StoreOp P → RecipientState → RecipientState → Prop
  | same (op x) : RecipientStep cfg now u e op x x
  /-- the limit of the recipient drops it from the event -/
  | evicted (e' targetIds eventName payload qos options x) :
      RecipientStep cfg now u e (.create e' targetIds eventName payload qos options) x
        { x with status := none }
  | delivered {x : RecipientState} (h : x.status ≠ some .APPLIED) :
      RecipientStep cfg now u e (.markDelivered u e) x ⟨some .DELIVERED, x.attempts + 1, some now⟩
  | failed {x : RecipientState} (error) (h : x.status ≠ some .FAILED) :
      RecipientStep cfg now u e (.markFailed u e error) x
        ⟨some .FAILED, x.attempts + 1, some now⟩
  | applied (x : RecipientState) :
      RecipientStep cfg now u e (.markApplied u e) x { x with status := some .APPLIED }
  | stale {x : RecipientState} {last : ℤ} (hst : x.status = some .DELIVERED)
      (hlast : x.last = some last) (h0 : last ≠ 0) (hlt : cfg.STALE_TIMEOUT < now - last) :
      RecipientStep cfg now u e .cleanup x { x with status := some .FAILED }

section
variable {cfg : StoreConfig} {now : ℤ} {u : ℕ} {e : String} {op : StoreOp P} {x y : RecipientState}

theorem RecipientStep.status_some (h : RecipientStep cfg now u e op x y) (hop : op.issues = [])
    (hx : ∃ st, x.status = some st) : ∃ st, y.status = some st := by
  cases h with
  | same => exact hx
  | evicted => cases hop
  | delivered => exact ⟨_, rfl⟩
  | failed => exact ⟨_, rfl⟩
  | applied => exact ⟨_, rfl⟩
  | stale => exact ⟨_, rfl⟩

/-- Only the acknowledgement of a user makes it one that has applied the event. -/
theorem RecipientStep.applied_cases (h : RecipientStep cfg now u e op x y)
    (hy : y.status = some .APPLIED) : x.status = some .APPLIED ∨ op = .markApplied u e := by
  cases h with
  | same => exact Or.inl hy
  | applied => exact Or.inr rfl
  | _ => simp at hy

end

/-! ## Steps that send nothing and acknowledge nothing -/

/-- A record of `e` in `s'` is the one in `s`, except that recipients may have been dropped. -/
def Kept (e : String) (s s' : EventStore P) : Prop :=
  ∀ r', s'.events.get? e = some r' → ∃ r, s.events.get? e = some r ∧ r'.header = r.header ∧
    ∀ u, r'.recipientState u = r.recipientState u ∨
      r'.recipientState u = { r.recipientState u with status := none }

section
variable {e : String} {s s' : EventStore P}

theorem Kept.refl (e : String) (s : EventStore P) : Kept e s s :=
  fun r h => ⟨r, h, rfl, fun _ => Or.inl rfl⟩

theorem Kept.trans {s'' : EventStore P} (h : Kept e s s') (h' : Kept e s' s'') : Kept e s s'' := by
  intro r'' hr''
  obtain ⟨r', hr', hh', hu'⟩ := h' r'' hr''
  obtain ⟨r, hr, hh, hu⟩ := h r' hr'
  refine ⟨r, hr, hh'.trans hh, fun u => ?_⟩
  rcases hu' u with h₁ | h₁ <;> rcases hu u with h₂ | h₂ <;> simp [h₁, h₂]

/-- Only the records matter. -/
theorem Kept.congr {s'' : EventStore P} (h : Kept e s s') (he : s''.events = s'.events) :
    Kept e s s'' := by
  unfold Kept
  rw [he]
  exact h

theorem kept_foldl {α : Type} {f : EventStore P → α → EventStore P}
    (hf : ∀ s a, Kept e s (f s a)) : ∀ (l : List α) (s : EventStore P), Kept e s (l.foldl f s)
  | [], s => .refl e s
  | a :: l, s => (hf s a).trans (kept_foldl hf l (f s a))

theorem kept_removeEvent (s : EventStore P) (e' : String) (reason : RemoveReason) :
    Kept e s (s.removeEvent e' reason) := by
  intro r h
  rw [removeEvent_events] at h
  split_ifs at h
  exact ⟨r, h, rfl, fun _ => Or.inl rfl⟩

theorem kept_dropForUser (v : ℕ) (s : EventStore P) (e' : String) :
    Kept e s (s.dropForUser v e') := by
  intro r' h
  obtain ⟨r, hr, rfl | rfl⟩ := dropForUser_events h
  · exact ⟨r', hr, rfl, fun _ => Or.inl rfl⟩
  · refine ⟨r, hr, rfl, fun u => ?_⟩
    rw [r.dropUser_recipientState]
    split_ifs
    · exact Or.inr rfl
    · exact Or.inl rfl

theorem kept_enforcePerUserLimit (cfg : StoreConfig) (now : ℤ) (s : EventStore P) (v : ℕ) :
    Kept e s (s.enforcePerUserLimit cfg now v) := by
  unfold enforcePerUserLimit
  split_ifs
  · exact .refl e s
  · exact kept_foldl (kept_dropForUser v) _ s

theorem kept_forceCleanup (cfg : StoreConfig) (s : EventStore P) : Kept e s (s.forceCleanup cfg) :=
  kept_foldl (fun s e' => kept_removeEvent s e' .force) _ s

theorem kept_makeRoom (cfg : StoreConfig) (s : EventStore P) : Kept e s (s.makeRoom cfg) := by
  unfold makeRoom
  split_ifs
  · exact kept_forceCleanup cfg s
  · exact .refl e s

/-- A new event leaves the other records alone. -/
theorem kept_create (cfg : StoreConfig) (s : EventStore P) {e' : String} (hne : e ≠ e')
    (targetIds : List ℕ) (eventName : String) (payload : P) (qos : QoS) (options : CreateOptions)
    (now : ℤ) : Kept e s (s.create cfg e' targetIds eventName payload qos options now) := by
  have hinsert : Kept e (s.makeRoom cfg) ((s.makeRoom cfg).insertEvent targetIds
      (newRecord e' eventName payload qos options now) now) := by
    intro r h
    simp only [insertEvent, OMap.get?_set, newRecord, hne, if_false] at h
    exact ⟨r, h, rfl, fun _ => Or.inl rfl⟩
  exact (((kept_makeRoom cfg s).trans hinsert).trans
    (kept_foldl (kept_enforcePerUserLimit cfg now) targetIds _)).congr (create_events ..)

/-! ## Every operation -/

/-- A record after a rewriting. -/
theorem updateEvent_some {e' : String} {f : EventRecord P → EventRecord P} {r' : EventRecord P}
    (h : (s.updateEvent e' f).events.get? e = some r') :
    ∃ r, s.events.get? e = some r ∧ (r' = r ∨ e = e' ∧ r' = f r) := by
  rw [updateEvent_events] at h
  split_ifs at h with heq
  · obtain ⟨r, hr, rfl⟩ := Option.map_eq_some_iff.1 h
    exact ⟨r, heq ▸ hr, Or.inr ⟨heq, rfl⟩⟩
  · exact ⟨r', h, Or.inl rfl⟩

theorem isStale_iff {cfg : StoreConfig} {now : ℤ} {r : EventRecord P} {u : ℕ}
    {status : TypeEventStatus} : isStale cfg now r u status = true ↔ status = .DELIVERED ∧
      ∃ last, r.getLastDeliveryAttempt u = some last ∧ last ≠ 0 ∧
        cfg.STALE_TIMEOUT < now - last := by
  unfold isStale
  cases status <;> cases r.getLastDeliveryAttempt u <;> simp

/-- Marking stale deliveries as failed makes a recipient take the stale step, or none. -/
theorem failStale_recipientStep (cfg : StoreConfig) (now : ℤ) (r : EventRecord P) (u : ℕ) :
    RecipientStep cfg now u e (.cleanup : StoreOp P) (r.recipientState u)
      ((failStale cfg now r).recipientState u) := by
  have hstate : (failStale cfg now r).recipientState u = { r.recipientState u with
      status := (r.userStatus.get? u).map fun status =>
        if isStale cfg now r u status then .FAILED else status } := by
    rw [← failStale_status]
    rfl
  rw [hstate]
  cases hst : r.userStatus.get? u with
  | none =>
    have hx : (r.recipientState u).status = none := hst
    rw [Option.map_none, ← hx]
    exact .same _ _
  | some status =>
    have hx : (r.recipientState u).status = some status := hst
    rw [Option.map_some]
    split_ifs with hstale
    · obtain ⟨rfl, last, hlast, h0, hlt⟩ := isStale_iff.1 hstale
      exact .stale hx hlast h0 hlt
    · rw [← hx]
      exact .same _ _

/-- The record of an event after an operation comes from the one before: it has its header, and
    its recipients have taken a step of the operation. -/
def Stepped (cfg : StoreConfig) (now : ℤ) (e : String) (op : StoreOp P) (s s' : EventStore P) :
    Prop :=
  ∀ r', s'.events.get? e = some r' → ∃ r, s.events.get? e = some r ∧ r'.header = r.header ∧
    ∀ u, RecipientStep cfg now u e op (r.recipientState u) (r'.recipientState u)

section

variable (cfg : StoreConfig) (now : ℤ) (s : EventStore P)

theorem Stepped.refl (op : StoreOp P) : Stepped cfg now e op s s :=
  fun r' hr' => ⟨r', hr', rfl, fun _ => .same _ _⟩

/-- Removing an event afterwards takes no step back. -/
theorem Stepped.removeEvent {op : StoreOp P} {s s' : EventStore P}
    (h : Stepped cfg now e op s s') (e' : String) (reason : RemoveReason) :
    Stepped cfg now e op s (s'.removeEvent e' reason) := by
  intro r' hr'
  rw [removeEvent_events] at hr'
  split_ifs at hr'
  exact h r' hr'

/-- A rewriting by which the recipients of its own record take a step. -/
theorem stepped_updateEvent {op : StoreOp P} {e' : String} {f : EventRecord P → EventRecord P}
    (hheader : ∀ r, (f r).header = r.header)
    (hstep : e = e' → ∀ r, s.events.get? e = some r → ∀ u,
      RecipientStep cfg now u e op (r.recipientState u) ((f r).recipientState u)) :
    Stepped cfg now e op s (s.updateEvent e' f) := by
  intro r' h
  obtain ⟨r, hr, rfl | ⟨he, rfl⟩⟩ := updateEvent_some h
  · exact ⟨r', hr, rfl, fun u => .same _ _⟩
  · exact ⟨r, hr, hheader r, hstep he r hr⟩

theorem stepped_create {e' : String} (hne : e ≠ e') (targetIds : List ℕ) (eventName : String)
    (payload : P) (qos : QoS) (options : CreateOptions) :
    Stepped cfg now e (.create e' targetIds eventName payload qos options) s
      (s.create cfg e' targetIds eventName payload qos options now) := by
  intro r' hr'
  obtain ⟨r, hr, hh, hu⟩ := kept_create cfg s hne targetIds eventName payload qos options now
    r' hr'
  refine ⟨r, hr, hh, fun u => ?_⟩
  rcases hu u with h | h <;> rw [h]
  · exact .same _ _
  · exact .evicted ..

theorem stepped_markDelivered (v : ℕ) (e' : String) :
    Stepped cfg now e (.markDelivered v e') s (s.markDelivered v e' now) := by
  unfold markDelivered
  split
  · exact .refl cfg now s _
  · rename_i event hevent
    split_ifs with happlied
    · exact .refl cfg now s _
    · refine stepped_updateEvent cfg now s (fun _ => rfl) fun he r hr u => ?_
      subst he
      obtain rfl : event = r := Option.some.inj (hevent.symm.trans hr)
      rw [EventRecord.incrementDeliveryAttempt_recipientState,
        EventRecord.setUserStatus_recipientState]
      split_ifs with huv
      · subst huv
        refine .delivered fun h => happlied ?_
        have hst : event.userStatus.get? u = some .APPLIED := h
        rw [EventRecord.getUserStatus, hst]
        rfl
      · exact .same _ _

theorem stepped_markFailed (v : ℕ) (e' error : String) :
    Stepped cfg now e (.markFailed v e' error) s (s.markFailed v e' error now) := by
  unfold markFailed
  split
  · exact .refl cfg now s _
  · rename_i event hevent
    split_ifs with hfailed
    · exact .refl cfg now s _
    · refine stepped_updateEvent cfg now s (fun _ => rfl) fun he r hr u => ?_
      subst he
      obtain rfl : event = r := Option.some.inj (hevent.symm.trans hr)
      rw [EventRecord.addDeliveryError_recipientState,
        EventRecord.incrementDeliveryAttempt_recipientState,
        EventRecord.setUserStatus_recipientState]
      split_ifs with huv
      · subst huv
        refine .failed error fun h => hfailed ?_
        have hst : event.userStatus.get? u = some .FAILED := h
        rw [EventRecord.getUserStatus, hst]
        rfl
      · exact .same _ _

theorem stepped_markApplied (v : ℕ) (e' : String) :
    Stepped cfg now e (.markApplied v e') s (s.markApplied v e') := by
  have hset : Stepped cfg now e (.markApplied v e' : StoreOp P) s
      { s.updateEvent e' (·.setUserStatus v .APPLIED) with
        stats := { s.stats with totalEventsApplied := s.stats.totalEventsApplied + 1 } } := by
    refine stepped_updateEvent cfg now s (fun _ => rfl) fun he r _ u => ?_
    subst he
    rw [EventRecord.setUserStatus_recipientState]
    split_ifs with huv
    · subst huv
      exact .applied _
    · exact .same _ _
  simp only [markApplied]
  split
  · exact .refl cfg now s _
  · split_ifs
    · exact hset.removeEvent cfg now e' .applied
    · exact hset

theorem stepped_expiryTimer (e' : String) :
    Stepped cfg now e (.expiryTimer e') s (s.expiryTimer e' now) := by
  have htimer : Stepped cfg now e (.expiryTimer e' : StoreOp P) s
      { s with timers := s.timers.delete e' } := .refl cfg now s _
  simp only [expiryTimer]
  split
  · split_ifs
    · exact htimer.removeEvent cfg now e' .expired
    · exact htimer
  · exact htimer

theorem stepped_cleanup : Stepped cfg now e (.cleanup : StoreOp P) s (s.cleanup cfg now) := by
  have hstale : Stepped cfg now e (.cleanup : StoreOp P) s
      ((s.cleanupExpiredEvents now).cleanupStaleDelivered cfg now) := by
    intro r' hr'
    simp only [cleanupStaleDelivered, OMap.get?_mapVal] at hr'
    obtain ⟨r, hr, rfl⟩ := Option.map_eq_some_iff.1 hr'
    simp only [cleanupExpiredEvents] at hr
    rw [foldl_removeEvent_events] at hr
    split_ifs at hr
    exact ⟨r, hr, rfl, failStale_recipientStep cfg now r⟩
  intro r' hr'
  simp only [cleanup, enforceMemoryLimits] at hr'
  split_ifs at hr'
  · rw [forceCleanup, foldl_removeEvent_events] at hr'
    split_ifs at hr'
    exact hstale r' hr'
  · exact hstale r' hr'

/-- **What an operation does to a record.**  A record that is there after an operation that did
    not create it was there before, with the same header, and the state of each recipient has
    taken a step of that operation. -/
theorem apply_recipientStep {op : StoreOp P} (hop : e ∉ op.issues) {r' : EventRecord P}
    (hr' : (op.apply cfg now s).events.get? e = some r') :
    ∃ r, s.events.get? e = some r ∧ r'.header = r.header ∧
      ∀ u, RecipientStep cfg now u e op (r.recipientState u) (r'.recipientState u) := by
  have hstepped : Stepped cfg now e op s (op.apply cfg now s) := by
    cases op with
    | create e' targetIds eventName payload qos options =>
      have hne : e ≠ e' := by simpa [StoreOp.issues] using hop
      exact stepped_create cfg now s hne targetIds eventName payload qos options
    | markDelivered v e' => exact stepped_markDelivered cfg now s v e'
    | markFailed v e' error => exact stepped_markFailed cfg now s v e' error
    | markApplied v e' => exact stepped_markApplied cfg now s v e'
    | expiryTimer e' => exact stepped_expiryTimer cfg now s e'
    | cleanup => exact stepped_cleanup cfg now s
  exact hstepped r' hr'

end

/-- A delivery is recorded, unless the recipient has applied the event. -/
theorem markDelivered_state {r : EventRecord P} (hr : s.events.get? e = some r) {u : ℕ}
    (h : r.userStatus.get? u ≠ some .APPLIED) (now : ℤ) :
    ∃ r', (s.markDelivered u e now).events.get? e = some r' ∧ r'.header = r.header ∧
      r'.recipientState u = ⟨some .DELIVERED, r.getDeliveryAttempts u + 1, some now⟩ := by
  have hne : r.getUserStatus u ≠ .APPLIED := by
    unfold EventRecord.getUserStatus
    cases hst : r.userStatus.get? u <;> simp_all
  refine ⟨(r.setUserStatus u .DELIVERED).incrementDeliveryAttempt u now, ?_, rfl, ?_⟩
  · unfold markDelivered
    simp [hr, hne]
  · rw [EventRecord.incrementDeliveryAttempt_recipientState,
      EventRecord.setUserStatus_recipientState, if_pos rfl, if_pos rfl]
    rfl

/-- An acknowledgement is recorded, if the event stays. -/
theorem markApplied_state {r r' : EventRecord P} (hr : s.events.get? e = some r) {u : ℕ}
    (hr' : (s.markApplied u e).events.get? e = some r') :
    r'.recipientState u = { r.recipientState u with status := some .APPLIED } := by
  unfold markApplied at hr'
  rw [hr] at hr'
  dsimp only at hr'
  split_ifs at hr'
  · simp [removeEvent_events] at hr'
  · simp only [updateEvent_events, if_true, hr, Option.map_some, Option.some.injEq] at hr'
    rw [← hr', EventRecord.setUserStatus_recipientState, if_pos rfl]

/-- The index of an event that is not new does not grow. -/
theorem apply_inIndex (cfg : StoreConfig) (now : ℤ) (s : EventStore P) {op : StoreOp P}
    (hop : e ∉ op.issues) {u : ℕ} (h : inIndex (op.apply cfg now s).userEvents u e) :
    inIndex s.userEvents u e := by
  cases op with
  | create e' targetIds eventName payload qos options =>
    rcases (create_growsBy cfg s e' targetIds eventName payload qos options now).index u e h with
      h | ⟨rfl, -⟩
    · exact h
    · simp [StoreOp.issues] at hop
  | markDelivered v e' => exact (apply_noGrow cfg now s rfl).index u e h
  | markFailed v e' error => exact (apply_noGrow cfg now s rfl).index u e h
  | markApplied v e' => exact (apply_noGrow cfg now s rfl).index u e h
  | expiryTimer e' => exact (apply_noGrow cfg now s rfl).index u e h
  | cleanup => exact (apply_noGrow cfg now s rfl).index u e h

/-! ## Who awaits an event -/

variable {cfg : StoreConfig} {now : ℤ} {u : ℕ} {op : StoreOp P} {x y : RecipientState}

/-- The event is stored and indexed for the user, who has not applied it, and not expired. -/
structure Awaits (s : EventStore P) (u : ℕ) (e : String) (now : ℤ) : Prop where
  indexed : inIndex s.userEvents u e
  record : ∃ r, s.events.get? e = some r ∧ r.isPending u now = true

section
variable {r : EventRecord P} {jitter : String → ℚ}

theorem mem_getPending : r ∈ s.getPending u now ↔
    (∃ id, inIndex s.userEvents u id ∧ s.events.get? id = some r) ∧ r.isPending u now = true := by
  rw [getPending, List.mem_insertionSort, pendingRecords, List.mem_filter, List.mem_filterMap]
  simp only [mem_indexed]

theorem mem_getPendingWithRetry :
    r ∈ s.getPendingWithRetry cfg u now jitter ↔
      (∃ id, inIndex s.userEvents u id ∧ s.events.get? id = some r) ∧ r.isExpired now = false ∧
        r.shouldRetry u now cfg.MAX_ATTEMPT_PER_EVENT cfg.DELIVERED_TIMEOUT cfg.BASE_BACKOFF_EVENT
          (jitter r.eventId) = true := by
  rw [getPendingWithRetry, List.mem_insertionSort, List.mem_filter, List.mem_filterMap]
  simp only [mem_indexed, Bool.and_eq_true, Bool.not_eq_true']

/-- A retry is due for an event that was not applied, and that failed less often than it may. -/
theorem shouldRetry_status {maxAttempts : ℕ} {deliveredTimeout : ℤ} {backoffBase jitter : ℚ}
    (h : r.shouldRetry u now maxAttempts deliveredTimeout backoffBase jitter = true) :
    r.getUserStatus u ≠ .APPLIED ∧
      (r.getUserStatus u = .FAILED → r.getDeliveryAttempts u < maxAttempts) := by
  unfold EventRecord.shouldRetry at h
  split at h
  · cases h
  · simp [*]
  · simp [*]
  · rename_i hst
    split_ifs at h with hmax
    exact ⟨by simp [hst], fun _ => not_le.1 hmax⟩

theorem awaits_of_mem_getPending (hs : StoreInv s) (h : r ∈ s.getPending u now) :
    s.Awaits u r.eventId now := by
  obtain ⟨⟨id, hid, hr⟩, hpending⟩ := mem_getPending.1 h
  rw [hs.keyed id r hr]
  exact ⟨hid, r, hr, hpending⟩

theorem awaits_of_mem_getPendingWithRetry (hs : StoreInv s)
    (h : r ∈ s.getPendingWithRetry cfg u now jitter) : s.Awaits u r.eventId now := by
  obtain ⟨⟨id, hid, hr⟩, hlive, hretry⟩ := mem_getPendingWithRetry.1 h
  rw [hs.keyed id r hr]
  refine ⟨hid, r, hr, ?_⟩
  simp [EventRecord.isPending, (shouldRetry_status hretry).1, hlive]

end

/-- An acknowledgement stays, unless the recipient is dropped or a failure reported. -/
theorem RecipientStep.applied_stays (h : RecipientStep cfg now u e op x y) (hop : op.quiet = true)
    (hx : x.status = some .APPLIED) : y.status = some .APPLIED := by
  cases h with
  | same => exact hx
  | evicted => cases hop
  | delivered h => exact absurd hx h
  | failed => cases hop
  | applied => rfl
  | stale hst => rw [hst] at hx; cases hx

theorem isExpired_of_header {r r' : EventRecord P} (h : r'.header = r.header) (now : ℤ) :
    r'.isExpired now = r.isExpired now := by
  have hheader := congrArg EventRecord.expiresAt h
  have hexp : r'.expiresAt = r.expiresAt := hheader
  unfold EventRecord.isExpired
  rw [hexp]

theorem getUserStatus_eq_applied {r : EventRecord P} :
    r.getUserStatus u = .APPLIED ↔ (r.recipientState u).status = some .APPLIED := by
  unfold EventRecord.getUserStatus EventRecord.recipientState
  cases r.userStatus.get? u <;> simp

/-- An operation that creates nothing lets nobody await an event anew. -/
theorem Awaits.of_quiet (hop : op.quiet = true) (h : (op.apply cfg now s).Awaits u e now) :
    s.Awaits u e now := by
  have hissues : e ∉ op.issues := by
    rw [StoreOp.issues_of_quiet hop]
    exact List.not_mem_nil
  obtain ⟨hindexed, r', hr', hpending⟩ := h
  obtain ⟨r, hr, hheader, hstep⟩ := apply_recipientStep cfg now s hissues hr'
  refine ⟨apply_inIndex cfg now s hissues hindexed, r, hr, ?_⟩
  unfold EventRecord.isPending at hpending ⊢
  rw [isExpired_of_header hheader] at hpending
  simp only [ne_eq, Bool.and_eq_true, decide_eq_true_eq, getUserStatus_eq_applied] at hpending ⊢
  exact ⟨fun happlied => hpending.1 ((hstep u).applied_stays hop happlied), hpending.2⟩

/-- What is pending now was pending before. -/
theorem Awaits.earlier {now' : ℤ} (h : s.Awaits u e now') (hle : now ≤ now') :
    s.Awaits u e now := by
  obtain ⟨hindexed, r, hr, hpending⟩ := h
  refine ⟨hindexed, r, hr, ?_⟩
  unfold EventRecord.isPending at hpending ⊢
  rw [Bool.and_eq_true, Bool.not_eq_true'] at hpending ⊢
  refine ⟨hpending.1, ?_⟩
  cases hexp : r.isExpired now with
  | false => rfl
  | true =>
    have hlater := EventRecord.isExpired_mono r hle hexp
    rw [hpending.2] at hlater
    cases hlater

/-- A new event lets nobody await another one anew: whoever it is taken from is not indexed any
    more. -/
theorem Awaits.of_create (hs : StoreInv s) {e' : String} (hne : e ≠ e')
    (hnew : s.events.get? e' = none) {targetIds : List ℕ} {eventName : String} {payload : P}
    {qos : QoS} {options : CreateOptions}
    (h : (s.create cfg e' targetIds eventName payload qos options now).Awaits u e now) :
    s.Awaits u e now := by
  obtain ⟨hindexed, r', hr', hpending⟩ := h
  obtain ⟨r, hr, hheader, hstates⟩ := kept_create cfg s hne targetIds eventName payload qos options
    now r' hr'
  have hissues : e ∉ (StoreOp.create e' targetIds eventName payload qos options).issues := by
    simpa [StoreOp.issues] using hne
  refine ⟨apply_inIndex cfg now s hissues hindexed, r, hr, ?_⟩
  obtain ⟨r'', st, hr'', hst⟩ := (hs.create cfg e' targetIds eventName payload qos options now
    hnew).recipient u e hindexed
  obtain rfl : r' = r'' := Option.some.inj (hr'.symm.trans hr'')
  have hsame : r'.recipientState u = r.recipientState u := by
    rcases hstates u with hsame | hdropped
    · exact hsame
    · have hstatus := congrArg RecipientState.status hdropped
      exact absurd (hst.symm.trans hstatus) (by simp)
  unfold EventRecord.isPending at hpending ⊢
  rw [isExpired_of_header hheader] at hpending
  simp only [ne_eq, Bool.and_eq_true, decide_eq_true_eq, getUserStatus_eq_applied, hsame]
    at hpending ⊢
  exact hpending

theorem Awaits.of_operated {s' : EventStore P} (hop : Operated cfg now s s')
    (h : s'.Awaits u e now) : s.Awaits u e now := by
  induction hop with
  | refl => exact h
  | tail _ hlast ih =>
    obtain ⟨op, hop, -, rfl⟩ := hlast
    exact ih (h.of_quiet hop)

/-! ## Who has applied an event -/

/-- The user has applied the event, if it is stored. -/
def AppliedBy (u : ℕ) (e : String) (s : EventStore P) : Prop :=
  ∀ r, s.events.get? e = some r → (r.recipientState u).status = some .APPLIED

/-- A store with fewer records. -/
theorem AppliedBy.anti {s' : EventStore P} (h : AppliedBy u e s)
    (hsub : ∀ r, s'.events.get? e = some r → s.events.get? e = some r) : AppliedBy u e s' :=
  fun r hr => h r (hsub r hr)

theorem AppliedBy.of_quiet (h : AppliedBy u e s) (hop : op.quiet = true) :
    AppliedBy u e (op.apply cfg now s) := by
  have hissues : e ∉ op.issues := by
    rw [StoreOp.issues_of_quiet hop]
    exact List.not_mem_nil
  intro r' hr'
  obtain ⟨r, hr, -, hstep⟩ := apply_recipientStep cfg now s hissues hr'
  exact (hstep u).applied_stays hop (h r hr)

theorem AppliedBy.operated {s' : EventStore P} (h : AppliedBy u e s)
    (hop : Operated cfg now s s') : AppliedBy u e s' := by
  induction hop with
  | refl => exact h
  | tail _ hlast ih =>
    obtain ⟨op, hop, -, rfl⟩ := hlast
    exact ih.of_quiet hop

theorem appliedBy_markApplied (s : EventStore P) (u : ℕ) (e : String) :
    AppliedBy u e (s.markApplied u e) := by
  intro r' hr'
  have hquiet : (StoreOp.markApplied u e : StoreOp P).issues = [] := rfl
  obtain ⟨r, hr, -⟩ := (apply_noGrow {} 0 s hquiet).events e r' hr'
  rw [markApplied_state hr hr']

theorem AppliedBy.not_awaits (h : AppliedBy u e s) (now : ℤ) : ¬ s.Awaits u e now := by
  rintro ⟨-, r, hr, hpending⟩
  have happlied := getUserStatus_eq_applied.2 (h r hr)
  simp [EventRecord.isPending, happlied] at hpending

/-- An event that is dropped leaves the records of the others alone. -/
theorem foldl_dropForUser_other {v : ℕ} : ∀ {ids : List String} {s : EventStore P}, e ∉ ids →
    (ids.foldl (EventStore.dropForUser v) s).events.get? e = s.events.get? e
  | [], _, _ => rfl
  | id :: ids, s, hne => by
    rw [List.mem_cons, not_or] at hne
    have hone : (s.dropForUser v id).events.get? e = s.events.get? e := by
      unfold EventStore.dropForUser
      dsimp only
      split
      · split_ifs
        · rw [removeEvent_events, if_neg hne.1, updateEvent_events, if_neg hne.1]
        · rw [updateEvent_events, if_neg hne.1]
      · rw [updateEvent_events, if_neg hne.1]
    rw [List.foldl_cons, foldl_dropForUser_other hne.2, hone]

/-- The limit takes no event from a user that has applied it. -/
theorem AppliedBy.enforcePerUserLimit (h : AppliedBy u e s) (hs : StoreInv s) (v : ℕ) :
    AppliedBy u e (s.enforcePerUserLimit cfg now v) := by
  unfold EventStore.enforcePerUserLimit
  split_ifs
  · exact h
  · by_cases huv : u = v
    · subst huv
      refine h.anti fun r hr => ?_
      rw [foldl_dropForUser_other] at hr
      · exact hr
      · -- what is dropped is pending for the user
        intro hmem
        obtain ⟨record, hrecord, heq⟩ := List.mem_map.1 hmem
        have hpending := sliceTo_subset _ _ hrecord
        rw [List.mem_insertionSort, pendingRecords, List.mem_filter, List.mem_filterMap]
          at hpending
        obtain ⟨⟨id, -, hid⟩, hispending⟩ := hpending
        obtain rfl : id = e := (hs.keyed id record hid).symm.trans heq
        have happlied := getUserStatus_eq_applied.2 (h record hid)
        simp [EventRecord.isPending, happlied] at hispending
    · refine List.foldlRecOn (motive := AppliedBy u e) _ _ h fun s h id _ r' hr' => ?_
      obtain ⟨r, hr, rfl | rfl⟩ := dropForUser_events hr'
      · exact h r' hr
      · rw [r.dropUser_recipientState, if_neg huv]
        exact h r hr

/-- A new event takes no other one from a user that has applied it. -/
theorem AppliedBy.create (h : AppliedBy u e s) (hs : StoreInv s) {e' : String} (hne : e ≠ e')
    (hnew : s.events.get? e' = none) (targetIds : List ℕ) (eventName : String) (payload : P)
    (qos : QoS) (options : CreateOptions) :
    AppliedBy u e (s.create cfg e' targetIds eventName payload qos options now) := by
  have hinserted : AppliedBy u e ((s.makeRoom cfg).insertEvent targetIds
      (newRecord e' eventName payload qos options now) now) := by
    refine h.anti fun r hr => ?_
    simp only [insertEvent, OMap.get?_set, newRecord, hne, if_false] at hr
    unfold makeRoom at hr
    split_ifs at hr
    · rw [forceCleanup, foldl_removeEvent_events] at hr
      split_ifs at hr
      exact hr
    · exact hr
  have hinv : StoreInv ((s.makeRoom cfg).insertEvent targetIds
      (newRecord e' eventName payload qos options now) now) :=
    (hs.makeRoom cfg).insertEvent targetIds _ now (makeRoom_events_none cfg hnew)
  have hboth : ∀ (vs : List ℕ) {s : EventStore P}, StoreInv s → AppliedBy u e s →
      AppliedBy u e (vs.foldl (EventStore.enforcePerUserLimit cfg now) s) := by
    intro vs
    induction vs with
    | nil => exact fun _ h => h
    | cons v vs ih =>
      intro s hs h
      exact ih (hs.enforcePerUserLimit cfg now v) (h.enforcePerUserLimit hs v)
  intro r hr
  rw [create_events] at hr
  exact hboth targetIds hinv hinserted r hr

end

end EventStore

end GatewayRealtime
