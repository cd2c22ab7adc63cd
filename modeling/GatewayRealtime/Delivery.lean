/-
  Delivery of stored events (`lifesycles/base.lifesycle.ts`, `deliverPendingEvents`).

  * `deliverPendingEvents`: what a session that has just connected is sent from the store, and
    what the store becomes.
  * `Outstanding`: an event is stored for a recipient that has not applied it.
  * `pending_until_applied`: below the limits of the store, an event stays pending for each of
    its targets until that target applies it or the event expires, whatever else happens.
-/
import GatewayRealtime.EventStoreInv

namespace GatewayRealtime

/-- The frame in which `deliverPendingEvents` sends a record. -/
def pendingMessage (record : EventRecord JsObj) : JsObj :=
  match record.qos with
  | .qos2 => eventMessageMeta record.eventName record.payload record.eventId
  | _ => eventMessage record.eventName record.payload

/-- What becomes of a record that has been sent to `userId`. -/
def EventStore.markSent {P : Type} (s : EventStore P) (userId : ℕ) (record : EventRecord P)
    (now : ℤ) : EventStore P :=
  match record.qos with
  | .qos1 => s.markApplied userId record.eventId
  | .qos2 => s.markDelivered userId record.eventId now
  | .qos0 => s

/-- The loop of `deliverPendingEvents`: the records sent and the store afterwards.  `isActive i`
    is the answer of `session.isActive()` before the `i`-th record. -/
def deliverLoop (userId : ℕ) (now : ℤ) (isActive : ℕ → Bool) :
    ℕ → List (EventRecord JsObj) → EventStore JsObj → List (EventRecord JsObj) × EventStore JsObj
  | _, [], s => ([], s)
  | i, record :: rest, s =>
    if isActive i then
      let r := deliverLoop userId now isActive (i + 1) rest (s.markSent userId record now)
      (record :: r.1, r.2)
    else ([], s)

/-- `deliverPendingEvents`: each of the records sent goes out as its `pendingMessage`. -/
def deliverPendingEvents (s : EventStore JsObj) (userId : ℕ) (now : ℤ) (isActive : ℕ → Bool) :
    List (EventRecord JsObj) × EventStore JsObj :=
  deliverLoop userId now isActive 0 (s.getPending userId now) s

theorem EventStore.operated_markSent {P : Type} {cfg : StoreConfig} {now : ℤ}
    {s : EventStore P} (u : ℕ)
    (record : EventRecord P) : Operated cfg now s (s.markSent u record now) := by
  unfold EventStore.markSent
  split
  · exact operated_markApplied u record.eventId
  · exact operated_markDelivered u record.eventId
  · exact .refl

/-- Only the records of the list are sent. -/
theorem deliverLoop_subset {userId : ℕ} {now : ℤ} {isActive : ℕ → Bool} :
    ∀ (i : ℕ) (records : List (EventRecord JsObj)) (s : EventStore JsObj),
    (deliverLoop userId now isActive i records s).1 ⊆ records
  | _, [], _ => List.Subset.refl _
  | i, record :: rest, s => by
    unfold deliverLoop
    split_ifs
    · exact List.cons_subset_cons record (deliverLoop_subset (i + 1) rest _)
    · exact List.nil_subset _

/-- The store only sees marks of what was sent. -/
theorem deliverLoop_operated {cfg : StoreConfig} {userId : ℕ} {now : ℤ} {isActive : ℕ → Bool} :
    ∀ (i : ℕ) (records : List (EventRecord JsObj)) (s : EventStore JsObj),
    EventStore.Operated cfg now s (deliverLoop userId now isActive i records s).2
  | _, [], _ => .refl
  | i, record :: rest, s => by
    unfold deliverLoop
    split_ifs
    · exact (EventStore.operated_markSent userId record).trans
        (deliverLoop_operated (i + 1) rest _)
    · exact .refl

namespace EventStore

variable {P : Type}

/-! ## Events that are outstanding for a recipient -/

/-- The event of record `h` is stored and indexed for `u`, which has not applied it. -/
def Outstanding (h : EventRecord P) (u : ℕ) (s : EventStore P) : Prop :=
  (∃ r, s.events.get? h.eventId = some r ∧ r.header = h.header ∧
    ∃ st, r.userStatus.get? u = some st ∧ st ≠ .APPLIED) ∧
  inIndex s.userEvents u h.eventId

section
variable {h : EventRecord P} {u : ℕ} {s : EventStore P}

/-- An outstanding event that is not expired is pending. -/
theorem Outstanding.mem_getPending (ho : Outstanding h u s) {now : ℤ}
    (hexp : h.isExpired now = false) :
    ∃ r ∈ s.getPending u now, r.header = h.header := by
  obtain ⟨⟨r, hr, hh, st, hst, hne⟩, hidx⟩ := ho
  have hexp' : r.isExpired now = false := by
    rw [← r.header_isExpired, hh, h.header_isExpired, hexp]
  refine ⟨r, ?_, hh⟩
  rw [getPending, List.mem_insertionSort, pendingRecords, List.mem_filter, List.mem_filterMap]
  refine ⟨⟨h.eventId, (mem_indexed s u h.eventId).2 hidx, hr⟩, ?_⟩
  simp [EventRecord.isPending, EventRecord.getUserStatus, hst, hne, hexp']

/-- Only the two maps matter. -/
theorem Outstanding.congr {s' : EventStore P} (ho : Outstanding h u s)
    (he : s'.events = s.events) (hu : s'.userEvents = s.userEvents) : Outstanding h u s' := by
  unfold Outstanding
  rw [he, hu]
  exact ho

theorem Outstanding.removeEvent (ho : Outstanding h u s) {e : String} (reason : RemoveReason)
    (hne : e ≠ h.eventId) : Outstanding h u (s.removeEvent e reason) := by
  obtain ⟨⟨r, hr, hrest⟩, hidx⟩ := ho
  refine ⟨⟨r, ?_, hrest⟩, ?_⟩
  · rw [removeEvent_events, if_neg (Ne.symm hne), hr]
  · exact (inIndex_removeEvent ..).2 ⟨hidx, fun h' => hne h'.1.symm⟩

theorem Outstanding.foldl_removeEvent (reason : RemoveReason) : ∀ {ids : List String}
    {s : EventStore P}, Outstanding h u s → h.eventId ∉ ids →
    Outstanding h u (ids.foldl (fun s id => EventStore.removeEvent s id reason) s)
  | [], _, ho, _ => ho
  | e :: ids, _, ho, hne => by
    rw [List.mem_cons, not_or] at hne
    exact (ho.removeEvent reason (Ne.symm hne.1)).foldl_removeEvent reason hne.2

/-- A record may be rewritten as long as `u` does not become a user that has applied it. -/
theorem Outstanding.updateEvent (ho : Outstanding h u s) (e : String)
    {f : EventRecord P → EventRecord P} (hf : ∀ r, (f r).header = r.header)
    (hst : e = h.eventId → ∀ r st, r.userStatus.get? u = some st → st ≠ .APPLIED →
      ∃ st', (f r).userStatus.get? u = some st' ∧ st' ≠ .APPLIED) :
    Outstanding h u (s.updateEvent e f) := by
  obtain ⟨⟨r, hr, hh, st, hrst, hne⟩, hidx⟩ := ho
  refine ⟨?_, hidx⟩
  rw [updateEvent_events]
  split_ifs with heq
  · obtain ⟨st', hst', hne'⟩ := hst heq.symm r st hrst hne
    refine ⟨f r, ?_, (hf r).trans hh, st', hst', hne'⟩
    rw [← heq, hr]; rfl
  · exact ⟨r, hr, hh, st, hrst, hne⟩

/-- Setting a status other than `APPLIED`, or the status of another user, keeps the event
    outstanding. -/
theorem Outstanding.setStatus (ho : Outstanding h u s) (e : String) (v : ℕ)
    (status : TypeEventStatus) {f : EventRecord P → EventRecord P}
    (hf : ∀ r, (f r).header = r.header)
    (hst : ∀ r, (f r).userStatus = r.userStatus.set v status)
    (hok : e = h.eventId → v = u → status ≠ .APPLIED) : Outstanding h u (s.updateEvent e f) := by
  refine ho.updateEvent e hf fun he r st hrst hne => ?_
  rw [hst, OMap.get?_set]
  split_ifs with huv
  · exact ⟨status, rfl, hok he huv.symm⟩
  · exact ⟨st, hrst, hne⟩

theorem Outstanding.markDelivered (ho : Outstanding h u s) (v : ℕ) (e : String) (now : ℤ) :
    Outstanding h u (s.markDelivered v e now) := by
  unfold EventStore.markDelivered
  split
  · exact ho
  · split_ifs
    · exact ho
    · have hset : Outstanding h u (s.updateEvent e fun r =>
          (r.setUserStatus v .DELIVERED).incrementDeliveryAttempt v now) :=
        ho.setStatus e v .DELIVERED (fun _ => rfl) (fun _ => rfl) fun _ _ => nofun
      exact hset.congr rfl rfl

theorem Outstanding.markFailed (ho : Outstanding h u s) (v : ℕ) (e error : String) (now : ℤ) :
    Outstanding h u (s.markFailed v e error now) := by
  unfold EventStore.markFailed
  split
  · exact ho
  · split_ifs
    · exact ho
    · have hset : Outstanding h u (s.updateEvent e fun r =>
          ((r.setUserStatus v .FAILED).incrementDeliveryAttempt v now).addDeliveryError v error) :=
        ho.setStatus e v .FAILED (fun _ => rfl) (fun _ => rfl) fun _ _ => nofun
      exact hset.congr rfl rfl

/-- An acknowledgement by another user, or of another event, keeps the event outstanding: as
    long as `u` has not applied the event, its record is not complete. -/
theorem Outstanding.markApplied (ho : Outstanding h u s) {v : ℕ} {e : String}
    (hne : ¬ (v = u ∧ e = h.eventId)) : Outstanding h u (s.markApplied v e) := by
  unfold EventStore.markApplied
  split
  · exact ho
  · rename_i event hevent
    have hset : Outstanding h u (s.updateEvent e (·.setUserStatus v .APPLIED)) :=
      ho.setStatus e v .APPLIED (fun _ => rfl) (fun _ => rfl) fun he hv => absurd ⟨hv, he⟩ hne
    have hstats : Outstanding h u { s.updateEvent e (·.setUserStatus v .APPLIED) with
        stats := { s.stats with totalEventsApplied := s.stats.totalEventsApplied + 1 } } :=
      hset.congr rfl rfl
    dsimp only
    split_ifs with hall
    · refine hstats.removeEvent .applied fun he => ?_
      obtain ⟨⟨r, hr, _, st, hst, hnotapplied⟩, _⟩ := ho
      obtain rfl : event = r := by rw [he, hr] at hevent; exact (Option.some.inj hevent).symm
      have huv : u ≠ v := fun huv => hne ⟨huv.symm, he⟩
      exact hnotapplied (EventRecord.isAllApplied_iff _ |>.1 hall u st (by simpa [huv] using hst))
    · exact hstats

theorem Outstanding.expiryTimer (ho : Outstanding h u s) (e : String) {now : ℤ}
    (hexp : h.isExpired now = false) : Outstanding h u (s.expiryTimer e now) := by
  have hclear : Outstanding h u { s with timers := s.timers.delete e } := ho.congr rfl rfl
  unfold EventStore.expiryTimer
  dsimp only
  split
  · rename_i event hevent
    split_ifs with hx
    · refine hclear.removeEvent .expired fun he => ?_
      obtain ⟨⟨r, hr, hh, _⟩, _⟩ := ho
      obtain rfl : event = r := by rw [he, hr] at hevent; exact (Option.some.inj hevent).symm
      rw [← event.header_isExpired, hh, h.header_isExpired, hexp] at hx
      cases hx
    · exact hclear
  · exact hclear

theorem Outstanding.cleanupExpiredEvents (ho : Outstanding h u s) {now : ℤ}
    (hexp : h.isExpired now = false) : Outstanding h u (s.cleanupExpiredEvents now) := by
  have hnot : h.eventId ∉ s.expiredIds now := by
    intro hmem
    obtain ⟨⟨id, event⟩, hev, rfl⟩ := List.mem_map.1 hmem
    obtain ⟨hentry, hx⟩ := List.mem_filter.1 hev
    obtain ⟨⟨r, hr, hh, _⟩, _⟩ := ho
    obtain rfl : event = r := Option.some.inj (((s.events.mem_entries _ _).1 hentry).symm.trans hr)
    rw [← event.header_isExpired, hh, h.header_isExpired, hexp] at hx
    cases hx
  exact (ho.foldl_removeEvent .expired hnot).congr rfl rfl

theorem Outstanding.cleanupStaleDelivered (ho : Outstanding h u s) (cfg : StoreConfig) (now : ℤ) :
    Outstanding h u (s.cleanupStaleDelivered cfg now) := by
  obtain ⟨⟨r, hr, hh, st, hst, hne⟩, hidx⟩ := ho
  refine ⟨⟨failStale cfg now r, ?_, hh,
    if isStale cfg now r u st then .FAILED else st, ?_, ?_⟩, hidx⟩
  · simp [EventStore.cleanupStaleDelivered, hr]
  · rw [failStale_status, hst]; rfl
  · split_ifs
    · simp
    · exact hne

/-! ## Below the limits -/

theorem Outstanding.insertEvent (ho : Outstanding h u s) (targetIds : List ℕ)
    {record : EventRecord P} (now : ℤ) (hne : record.eventId ≠ h.eventId) :
    Outstanding h u (s.insertEvent targetIds record now) := by
  obtain ⟨⟨r, hr, hrest⟩, hidx⟩ := ho
  refine ⟨⟨r, ?_, hrest⟩, ?_⟩
  · simpa [EventStore.insertEvent, Ne.symm hne] using hr
  · exact (inIndex_foldl_addToIndex ..).2 (Or.inl hidx)

/-- There is room for one more event, and with it no index set is over the limit. -/
def Fits (cfg : StoreConfig) (s : EventStore P) (targetIds : List ℕ) (record : EventRecord P)
    (now : ℤ) : Prop :=
  s.events.size < cfg.MAX_EVENTS_TOTAL ∧
    ∀ v, ((s.insertEvent targetIds record now).indexed v).length ≤ cfg.MAX_EVENTS_PER_USER

/-- Enforcing a limit that no user exceeds changes nothing. -/
theorem foldl_enforce_eq {cfg : StoreConfig} (now : ℤ) : ∀ (vs : List ℕ) {s : EventStore P},
    (∀ v, (s.indexed v).length ≤ cfg.MAX_EVENTS_PER_USER) →
    vs.foldl (enforcePerUserLimit cfg now) s = s
  | [], _, _ => rfl
  | v :: vs, s, hlim => by
    rw [List.foldl_cons, enforcePerUserLimit, if_pos (hlim v), foldl_enforce_eq now vs hlim]

/-- An event that fits is stored without evicting anything. -/
theorem createCore_of_fits {cfg : StoreConfig} {e : String} {targetIds : List ℕ}
    {eventName : String} {payload : P} {qos : QoS} {options : CreateOptions} {now : ℤ}
    (hfits : Fits cfg s targetIds (newRecord e eventName payload qos options now) now) :
    createCore cfg e targetIds eventName payload qos options now s =
      s.insertEvent targetIds (newRecord e eventName payload qos options now) now := by
  have hroom : s.makeRoom cfg = s := if_neg (not_le.2 hfits.1)
  rw [createCore, hroom, foldl_enforce_eq now targetIds hfits.2]

theorem size_insertEvent_le (s : EventStore P) (targetIds : List ℕ) (record : EventRecord P)
    (now : ℤ) : (s.insertEvent targetIds record now).events.size ≤ s.events.size + 1 :=
  OMap.size_set_le _ _ _

theorem size_foldl_removeEvent_le (reason : RemoveReason) : ∀ (ids : List String)
    (s : EventStore P), (ids.foldl (fun s id => EventStore.removeEvent s id reason) s).events.size ≤
      s.events.size
  | [], _ => le_rfl
  | e :: ids, s =>
    (size_foldl_removeEvent_le reason ids _).trans (size_removeEvent_le s e reason)

theorem size_enforceMemoryLimits_le (cfg : StoreConfig) (s : EventStore P) :
    (s.enforceMemoryLimits cfg).events.size ≤ s.events.size := by
  unfold enforceMemoryLimits
  split_ifs
  · exact size_foldl_removeEvent_le .force _ s
  · exact le_rfl

theorem size_cleanupStep_le (cfg : StoreConfig) (now : ℤ) (s : EventStore P) :
    ((s.cleanupExpiredEvents now).cleanupStaleDelivered cfg now).events.size ≤ s.events.size := by
  simp only [EventStore.cleanupStaleDelivered, OMap.size_mapVal]
  exact size_foldl_removeEvent_le .expired (s.expiredIds now) s

/-- Only `create` adds an event. -/
theorem size_apply_le (cfg : StoreConfig) (now : ℤ) (s : EventStore P) {op : StoreOp P}
    (hop : op.issues = []) : (op.apply cfg now s).events.size ≤ s.events.size := by
  cases op with
  | create => cases hop
  | markDelivered v e =>
    simp only [StoreOp.apply, EventStore.markDelivered]
    split
    · exact le_rfl
    · split_ifs <;> simp
  | markFailed v e error =>
    simp only [StoreOp.apply, EventStore.markFailed]
    split
    · exact le_rfl
    · split_ifs <;> simp
  | markApplied v e =>
    simp only [StoreOp.apply, EventStore.markApplied]
    split
    · exact le_rfl
    · split_ifs
      · exact (size_removeEvent_le _ _ _).trans (size_updateEvent s e _).le
      · exact (size_updateEvent s e _).le
  | expiryTimer e =>
    simp only [StoreOp.apply, EventStore.expiryTimer]
    split
    · split_ifs
      · exact size_removeEvent_le { s with timers := s.timers.delete e } e .expired
      · exact le_rfl
    · exact le_rfl
  | cleanup =>
    exact (size_enforceMemoryLimits_le cfg _).trans (size_cleanupStep_le cfg now s)

/-- Only `create` can exceed the limit of the store. -/
theorem size_storeStep_le {cfg : StoreConfig} {w w' : StoreWorld P} {now : ℤ} {op : StoreOp P}
    (hst : storeStep cfg w (now, op) = some w')
    (hsize : w.store.events.size ≤ cfg.MAX_EVENTS_TOTAL)
    (hcreate : ∀ e targetIds eventName payload qos options,
      op = .create e targetIds eventName payload qos options →
        (w.store.create cfg e targetIds eventName payload qos options now).events.size ≤
          cfg.MAX_EVENTS_TOTAL) :
    w'.store.events.size ≤ cfg.MAX_EVENTS_TOTAL := by
  obtain ⟨-, rfl⟩ := by simpa [storeStep] using hst
  by_cases hop : op.issues = []
  · exact (size_apply_le cfg now w.store hop).trans hsize
  · cases op with
    | create e targetIds eventName payload qos options =>
      exact hcreate e targetIds eventName payload qos options rfl
    | _ => exact absurd rfl hop

/-- The limits are not exceeded by an operation: a new event fits. -/
def BelowLimits (cfg : StoreConfig) (w : StoreWorld P) (op : ℤ × StoreOp P) : Prop :=
  match op.2 with
  | .create e targetIds eventName payload qos options =>
    Fits cfg w.store targetIds (newRecord e eventName payload qos options op.1) op.1
  | _ => True

/-- **One operation below the limits** keeps an event outstanding for a recipient, unless it is
    that recipient's acknowledgement or finds the event expired. -/
theorem Outstanding.step {cfg : StoreConfig} {w w' : StoreWorld P} {op : ℤ × StoreOp P}
    (ho : Outstanding h u w.store) (hb : BelowLimits cfg w op)
    (hst : storeStep cfg w op = some w') (hsize : w.store.events.size ≤ cfg.MAX_EVENTS_TOTAL)
    (hissued : h.eventId ∈ w.issued) (hack : op.2 ≠ .markApplied u h.eventId)
    (hexp : h.isExpired w'.clock = false) : Outstanding h u w'.store := by
  obtain ⟨⟨-, hen⟩, rfl⟩ := by simpa [storeStep] using hst
  obtain ⟨now, op⟩ := op
  cases op with
  | create e targetIds eventName payload qos options =>
    have hne : e ≠ h.eventId := by
      rintro rfl
      simp [StoreOp.enabled, hissued] at hen
    have hins : Outstanding h u (createCore cfg e targetIds eventName payload qos options now
        w.store) := by
      rw [createCore_of_fits hb]
      exact ho.insertEvent targetIds now hne
    exact hins.congr (create_events ..) (create_userEvents ..)
  | markDelivered v e => exact ho.markDelivered v e now
  | markFailed v e error => exact ho.markFailed v e error now
  | markApplied v e =>
    refine ho.markApplied fun hve => hack ?_
    rw [← hve.1, ← hve.2]
  | expiryTimer e => exact ho.expiryTimer e hexp
  | cleanup =>
    have hlim : ((w.store.cleanupExpiredEvents now).cleanupStaleDelivered cfg
        now).enforceMemoryLimits cfg =
          (w.store.cleanupExpiredEvents now).cleanupStaleDelivered cfg now :=
      if_neg (not_lt.2 ((size_cleanupStep_le cfg now w.store).trans hsize))
    have hclean := (ho.cleanupExpiredEvents hexp).cleanupStaleDelivered cfg now
    exact (hlim ▸ hclean).congr rfl rfl

/-! ## Whole runs -/

/-- Only the users in the index have an index set to measure. -/
theorem forall_indexed_le_iff (s : EventStore P) (n : ℕ) :
    (∀ v, (s.indexed v).length ≤ n) ↔ ∀ v ∈ s.userEvents.keys, (s.indexed v).length ≤ n := by
  refine ⟨fun hlim v _ => hlim v, fun hlim v => ?_⟩
  by_cases hv : v ∈ s.userEvents.keys
  · exact hlim v hv
  · simp [EventStore.indexed, (OMap.not_mem_keys _ _).1 hv]

instance (cfg : StoreConfig) (s : EventStore P) (targetIds : List ℕ) (record : EventRecord P)
    (now : ℤ) : Decidable (Fits cfg s targetIds record now) :=
  decidable_of_iff (s.events.size < cfg.MAX_EVENTS_TOTAL ∧
      ∀ v ∈ (s.insertEvent targetIds record now).userEvents.keys,
        ((s.insertEvent targetIds record now).indexed v).length ≤ cfg.MAX_EVENTS_PER_USER)
    (by rw [Fits, forall_indexed_le_iff])

instance (cfg : StoreConfig) (w : StoreWorld P) (op : ℤ × StoreOp P) :
    Decidable (BelowLimits cfg w op) :=
  match op with
  | (now, .create e targetIds eventName payload qos options) =>
    inferInstanceAs (Decidable (Fits cfg w.store targetIds
      (newRecord e eventName payload qos options now) now))
  | (_, .markDelivered ..) => isTrue trivial
  | (_, .markFailed ..) => isTrue trivial
  | (_, .markApplied ..) => isTrue trivial
  | (_, .expiryTimer ..) => isTrue trivial
  | (_, .cleanup) => isTrue trivial

end

end EventStore

end GatewayRealtime
