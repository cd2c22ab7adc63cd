/-
  What the counters of the store count (`stats`, `updateStats`, `getStats`).

  * `pendingPairs`: the users with the events that are pending for them; what each operation that
    creates nothing does to them.
  * `Ledger`: the store with what has happened so far: who has applied which event, and which
    events were removed because they expired.
  * `Ledger.Right`: the counters agree with it.
  * `counters_right_iff`: they do throughout a run iff all its steps are `Counted`.
-/
import Mathlib.Data.Finset.Card
import GatewayRealtime.Capacity

namespace GatewayRealtime

namespace EventStore

variable {P : Type} {s s' : EventStore P} {cfg : StoreConfig} {now : ℤ} {u v : ℕ} {e e' : String}

/-! ## Pending pairs -/

/-- `getStats`; the sizes and the configuration that it adds to the counters are left out. -/
def getStats (s : EventStore P) : StoreStats := s.stats

/-- The pairs of a user and an event that is pending for it. -/
def pendingPairs (s : EventStore P) (now : ℤ) : Finset (ℕ × String) :=
  (s.userEvents.keys.flatMap fun u => (s.getPending u now).map fun r => (u, r.eventId)).toFinset

theorem mem_pendingPairs (hs : StoreInv s) {p : ℕ × String} :
    p ∈ s.pendingPairs now ↔ s.Awaits p.1 p.2 now := by
  obtain ⟨u, e⟩ := p
  simp only [pendingPairs, List.mem_toFinset, List.mem_flatMap, List.mem_map]
  constructor
  · rintro ⟨v, -, r, hr, heq⟩
    cases heq
    exact awaits_of_mem_getPending hs hr
  · rintro ⟨hindexed, r, hr, hpending⟩
    obtain ⟨set, hset, -⟩ := id hindexed
    refine ⟨u, (OMap.mem_keys _ _).2 ⟨set, hset⟩, r, ?_, ?_⟩
    · exact mem_getPending.2 ⟨⟨e, hindexed, hr⟩, hpending⟩
    · rw [hs.keyed e r hr]

/-- `updateStats` counts the pending pairs. -/
theorem card_pendingPairs (hs : StoreInv s) (now : ℤ) :
    (s.pendingPairs now).card = (s.userEvents.keys.map (s.pendingCount now)).sum := by
  have hnodup : (s.userEvents.keys.flatMap fun u =>
      (s.getPending u now).map fun r => (u, r.eventId)).Nodup := by
    refine List.nodup_flatMap.2 ⟨fun u _ => ?_, s.userEvents.nodup.imp fun hne => ?_⟩
    · have hmap := (nodup_getPending hs u now).map (f := Prod.mk u) (Prod.mk_right_injective u)
      rwa [List.map_map] at hmap
    · intro p hp hp'
      obtain ⟨_, -, rfl⟩ := List.mem_map.1 hp
      obtain ⟨_, -, heq⟩ := List.mem_map.1 hp'
      exact hne (congrArg Prod.fst heq).symm
  rw [pendingPairs, List.toFinset_card_of_nodup hnodup, List.length_flatMap]
  refine congrArg List.sum (List.map_congr_left fun u _ => ?_)
  rw [List.length_map, getPending, List.length_insertionSort, pendingCount]

/-- With time, the pairs whose event expires are gone. -/
theorem pendingPairs_later (hs : StoreInv s) {now' : ℤ} (hle : now ≤ now') :
    s.pendingPairs now' = (s.pendingPairs now).filter fun p =>
      ∀ r ∈ s.events.get? p.2, r.isExpired now' = false := by
  ext ⟨u, e⟩
  rw [Finset.mem_filter, mem_pendingPairs hs, mem_pendingPairs hs]
  constructor
  · intro hlater
    refine ⟨hlater.earlier hle, fun r hr => ?_⟩
    obtain ⟨r', hr', hpending⟩ := hlater.record
    obtain rfl : r = r' := Option.some.inj (Eq.trans (Eq.symm hr) hr')
    simpa using (Bool.and_eq_true_iff.1 hpending).2
  · rintro ⟨hawaits, hlive⟩
    obtain ⟨r, hr, hpending⟩ := hawaits.record
    refine ⟨hawaits.indexed, r, hr, ?_⟩
    exact Bool.and_eq_true_iff.2 ⟨(Bool.and_eq_true_iff.1 hpending).1, by simp [hlive r hr]⟩

/-- What keeps who awaits what keeps the pending pairs. -/
theorem pendingPairs_congr (hs : StoreInv s) (hs' : StoreInv s')
    (h : ∀ u e, s'.Awaits u e now ↔ s.Awaits u e now) :
    s'.pendingPairs now = s.pendingPairs now := by
  ext p
  rw [mem_pendingPairs hs', mem_pendingPairs hs]
  exact h p.1 p.2

/-! ## Operations -/

/-- Only the records and the index matter. -/
theorem awaits_congr (he : s'.events = s.events) (hu : s'.userEvents = s.userEvents) :
    s'.Awaits u e now ↔ s.Awaits u e now := by
  constructor <;> rintro ⟨hindexed, hrecord⟩
  · exact ⟨hu ▸ hindexed, he ▸ hrecord⟩
  · exact ⟨hu.symm ▸ hindexed, he.symm ▸ hrecord⟩

/-- Nobody awaits an event that is removed. -/
theorem awaits_removeEvent {reason : RemoveReason} :
    (s.removeEvent e' reason).Awaits u e now ↔ s.Awaits u e now ∧ e ≠ e' := by
  constructor
  · rintro ⟨hindexed, r, hr, hpending⟩
    rw [removeEvent_events] at hr
    split_ifs at hr with hne
    exact ⟨⟨((inIndex_removeEvent ..).1 hindexed).1, r, hr, hpending⟩, hne⟩
  · rintro ⟨⟨hindexed, r, hr, hpending⟩, hne⟩
    refine ⟨(inIndex_removeEvent ..).2 ⟨hindexed, fun h => hne h.1⟩, r, ?_, hpending⟩
    rw [removeEvent_events, if_neg hne, hr]

theorem awaits_foldl_removeEvent {reason : RemoveReason} : ∀ {ids : List String}
    {s : EventStore P},
    (ids.foldl (fun s id => EventStore.removeEvent s id reason) s).Awaits u e now ↔
      s.Awaits u e now ∧ e ∉ ids
  | [], _ => by simp
  | id :: ids, s => by
    rw [List.foldl_cons, awaits_foldl_removeEvent, awaits_removeEvent, List.mem_cons, not_or,
      and_assoc]

/-- The event is stored and indexed for the user, and has not expired. -/
structure Live (s : EventStore P) (u : ℕ) (e : String) (now : ℤ) : Prop where
  indexed : inIndex s.userEvents u e
  record : ∃ r, s.events.get? e = some r ∧ r.isExpired now = false

theorem awaits_iff : s.Awaits u e now ↔ s.Live u e now ∧ ¬ AppliedBy u e s := by
  constructor
  · intro h
    obtain ⟨r, hr, hpending⟩ := h.record
    have hlive := (Bool.and_eq_true_iff.1 hpending).2
    exact ⟨⟨h.indexed, r, hr, by simpa using hlive⟩, fun happlied => happlied.not_awaits now h⟩
  · rintro ⟨⟨hindexed, r, hr, hlive⟩, hnot⟩
    refine ⟨hindexed, r, hr, ?_⟩
    have hne : r.getUserStatus u ≠ .APPLIED := by
      intro happlied
      refine hnot fun r' hr' => ?_
      obtain rfl : r = r' := Option.some.inj (hr.symm.trans hr')
      exact getUserStatus_eq_applied.1 happlied
    simp [EventRecord.isPending, hlive, hne]

/-- What a change of the status of `v` does to the pairs that are pending. -/
theorem awaits_setStatus (v : ℕ) (status : TypeEventStatus) (f : EventRecord P → EventRecord P)
    (he : s'.events = (s.updateEvent e' f).events) (hu : s'.userEvents = s.userEvents)
    (hstatus : ∀ r, (f r).userStatus = r.userStatus.set v status)
    (hexpires : ∀ r, (f r).isExpired now = r.isExpired now) :
    s'.Awaits u e now ↔
      if u = v ∧ e = e' then s.Live u e now ∧ status ≠ .APPLIED else s.Awaits u e now := by
  have hpending : ∀ r, (f r).isPending u now =
      if u = v then decide (status ≠ .APPLIED) && !r.isExpired now else r.isPending u now := by
    intro r
    unfold EventRecord.isPending EventRecord.getUserStatus
    rw [hstatus, hexpires, OMap.get?_set]
    split_ifs <;> rfl
  have hafter : s'.Awaits u e now ↔ (s.updateEvent e' f).Awaits u e now := awaits_congr he hu
  rw [hafter]
  by_cases heq : e = e'
  · subst heq
    have hget : ∀ r', (s.updateEvent e f).events.get? e = some r' ↔
        ∃ r, s.events.get? e = some r ∧ f r = r' := by
      intro r'
      rw [updateEvent_events, if_pos rfl, Option.map_eq_some_iff]
    simp only [and_true]
    constructor
    · rintro ⟨hindexed, r', hr', hafter⟩
      obtain ⟨r, hr, rfl⟩ := (hget r').1 hr'
      rw [hpending] at hafter
      split_ifs at hafter ⊢
      · simp only [Bool.and_eq_true, decide_eq_true_eq, Bool.not_eq_true'] at hafter
        exact ⟨⟨hindexed, r, hr, hafter.2⟩, hafter.1⟩
      · exact ⟨hindexed, r, hr, hafter⟩
    · intro h
      split_ifs at h with huv
      · obtain ⟨⟨hindexed, r, hr, hlive⟩, hne⟩ := h
        refine ⟨hindexed, f r, (hget _).2 ⟨r, hr, rfl⟩, ?_⟩
        rw [hpending, if_pos huv]
        simp [hlive, hne]
      · obtain ⟨hindexed, r, hr, hbefore⟩ := h
        refine ⟨hindexed, f r, (hget _).2 ⟨r, hr, rfl⟩, ?_⟩
        rwa [hpending, if_neg huv]
  · rw [if_neg fun h => heq h.2]
    have hget : (s.updateEvent e' f).events.get? e = s.events.get? e := by
      rw [updateEvent_events, if_neg heq]
    constructor <;> rintro ⟨hindexed, hrecord⟩
    · exact ⟨hindexed, hget ▸ hrecord⟩
    · exact ⟨hindexed, hget.symm ▸ hrecord⟩

theorem awaits_markDelivered :
    (s.markDelivered v e' now).Awaits u e now ↔ s.Awaits u e now := by
  unfold markDelivered
  split
  · rfl
  · rename_i event hevent
    split_ifs with happlied
    · rfl
    · refine (awaits_setStatus v .DELIVERED (fun r =>
        (r.setUserStatus v .DELIVERED).incrementDeliveryAttempt v now) (by rfl) (by rfl)
          (fun _ => rfl) fun _ => rfl).trans ?_
      split_ifs with heq
      · obtain ⟨rfl, rfl⟩ := heq
        have hnot : ¬ AppliedBy u e s := fun h =>
          happlied (getUserStatus_eq_applied.2 (h event hevent))
        simp [awaits_iff, hnot]
      · rfl

/-- A failure that is reported of an event lets a user that has applied it await it anew. -/
theorem awaits_markFailed (error : String) : (s.markFailed v e' error now).Awaits u e now ↔
    s.Awaits u e now ∨ (u = v ∧ e = e') ∧ s.Live u e now ∧ AppliedBy u e s := by
  unfold markFailed
  split
  · rename_i hnone
    refine (or_iff_left ?_).symm
    rintro ⟨⟨rfl, rfl⟩, ⟨-, r, hr, -⟩, -⟩
    rw [hnone] at hr
    cases hr
  · rename_i event hevent
    split_ifs with hfailed
    · refine (or_iff_left ?_).symm
      rintro ⟨⟨rfl, rfl⟩, -, happlied⟩
      rw [getUserStatus_eq_applied.2 (happlied event hevent)] at hfailed
      cases hfailed
    · refine (awaits_setStatus v .FAILED (fun r => ((r.setUserStatus v
        .FAILED).incrementDeliveryAttempt v now).addDeliveryError v error) (by rfl) (by rfl)
          (fun _ => rfl) fun _ => rfl).trans ?_
      split_ifs with heq
      · obtain ⟨rfl, rfl⟩ := heq
        rw [awaits_iff]
        by_cases happlied : AppliedBy u e s <;> simp [happlied]
      · simp [heq]

/-- Whoever has applied an event does not await it. -/
theorem awaits_markApplied (hs : StoreInv s) :
    (s.markApplied v e').Awaits u e now ↔ s.Awaits u e now ∧ ¬ (u = v ∧ e = e') := by
  unfold markApplied
  split
  · rename_i hnone
    refine (and_iff_left_of_imp ?_).symm
    rintro ⟨-, r, hr, -⟩ ⟨rfl, rfl⟩
    rw [hnone] at hr
    cases hr
  · rename_i event hevent
    have hset : ∀ {s' : EventStore P},
        s'.events = (s.updateEvent e' (·.setUserStatus v .APPLIED)).events →
        s'.userEvents = s.userEvents →
        (s'.Awaits u e now ↔ s.Awaits u e now ∧ ¬ (u = v ∧ e = e')) := by
      intro s' he hu
      refine (awaits_setStatus v .APPLIED (·.setUserStatus v .APPLIED) he hu (fun _ => rfl)
        fun _ => rfl).trans ?_
      split_ifs with heq <;> simp [heq]
    dsimp only
    split_ifs with hall
    · refine awaits_removeEvent.trans ((and_congr_left' (hset (by rfl) (by rfl))).trans ?_)
      refine and_iff_left_of_imp fun ⟨h, hne⟩ heq => hne ⟨?_, heq⟩
      -- a recipient that awaits the event keeps it in the store
      subst heq
      obtain ⟨r, st, hr, hst⟩ := hs.recipient u e h.indexed
      obtain rfl : event = r := Option.some.inj (hevent.symm.trans hr)
      by_contra huv
      have happlied : st = .APPLIED := by
        refine (EventRecord.isAllApplied_iff _).1 hall u st ?_
        rw [EventRecord.setUserStatus_userStatus, OMap.get?_set, if_neg huv, hst]
      refine (awaits_iff.1 h).2 fun r hr => ?_
      obtain rfl : event = r := Option.some.inj (hevent.symm.trans hr)
      exact happlied ▸ hst
    · exact hset rfl rfl

/-- An event that its timer removes is pending for nobody. -/
theorem awaits_expiryTimer : (s.expiryTimer e' now).Awaits u e now ↔ s.Awaits u e now := by
  have htimer : ({ s with timers := s.timers.delete e' } : EventStore P).Awaits u e now ↔
      s.Awaits u e now := awaits_congr rfl rfl
  unfold expiryTimer
  dsimp only
  split
  · rename_i event hevent
    split_ifs with hexpired
    · rw [awaits_removeEvent, htimer]
      refine and_iff_left_of_imp ?_
      rintro ⟨-, r, hr, hpending⟩ rfl
      obtain rfl : event = r := Option.some.inj (hevent.symm.trans hr)
      simp [EventRecord.isPending, hexpired] at hpending
    · exact htimer
  · exact htimer

theorem mem_expiredIds :
    e ∈ s.expiredIds now ↔ ∃ r, s.events.get? e = some r ∧ r.isExpired now = true := by
  simp [expiredIds, OMap.mem_entries]

/-- The store when the memory limit is enforced. -/
def swept (cfg : StoreConfig) (now : ℤ) (s : EventStore P) : EventStore P :=
  (s.cleanupExpiredEvents now).cleanupStaleDelivered cfg now

theorem awaits_swept : (s.swept cfg now).Awaits u e now ↔ s.Awaits u e now := by
  have hexpired : (s.cleanupExpiredEvents now).Awaits u e now ↔ s.Awaits u e now := by
    have hremoved : (s.cleanupExpiredEvents now).Awaits u e now ↔
        s.Awaits u e now ∧ e ∉ s.expiredIds now :=
      (awaits_congr (by rfl) (by rfl)).trans awaits_foldl_removeEvent
    refine hremoved.trans (and_iff_left_of_imp ?_)
    rintro ⟨-, r, hr, hpending⟩ hmem
    obtain ⟨r', hr', hexpired⟩ := mem_expiredIds.1 hmem
    obtain rfl : r = r' := Option.some.inj (hr.symm.trans hr')
    simp [EventRecord.isPending, hexpired] at hpending
  -- a delivery that has become a failure is pending as before
  have hpending : ∀ r : EventRecord P,
      (failStale cfg now r).isPending u now = r.isPending u now := by
    intro r
    unfold EventRecord.isPending EventRecord.getUserStatus
    rw [failStale_status]
    cases r.userStatus.get? u with
    | none => rfl
    | some status =>
      cases hstale : isStale cfg now r u status with
      | false => simp [hstale, failStale, EventRecord.isExpired]
      | true =>
        obtain ⟨rfl, -⟩ := isStale_iff.1 hstale
        simp [hstale, failStale, EventRecord.isExpired]
  rw [← hexpired, swept]
  constructor
  · rintro ⟨hindexed, r', hr', hawaits⟩
    simp only [cleanupStaleDelivered, OMap.get?_mapVal] at hr'
    obtain ⟨r, hr, rfl⟩ := Option.map_eq_some_iff.1 hr'
    exact ⟨hindexed, r, hr, (hpending r).symm.trans hawaits⟩
  · rintro ⟨hindexed, r, hr, hawaits⟩
    refine ⟨hindexed, failStale cfg now r, ?_, (hpending r).trans hawaits⟩
    simp [cleanupStaleDelivered, hr]

/-- The periodic cleanup takes pending events only to enforce the memory limit. -/
theorem awaits_cleanup : (s.cleanup cfg now).Awaits u e now ↔
    s.Awaits u e now ∧ e ∉ (victims cfg (s.swept cfg now)).map EventRecord.eventId := by
  have hlimited : (s.cleanup cfg now).Awaits u e now ↔
      ((s.swept cfg now).enforceMemoryLimits cfg).Awaits u e now := awaits_congr rfl rfl
  rw [hlimited, ← show (s.swept cfg now).Awaits u e now ↔ s.Awaits u e now from awaits_swept]
  unfold enforceMemoryLimits
  split_ifs with hfull
  · rw [forceCleanup_eq hfull.le, awaits_foldl_removeEvent]
  · have hnone : victims cfg (s.swept cfg now) = [] := by
      rw [victims, Nat.sub_eq_zero_of_le (not_lt.1 hfull), List.take_zero]
    simp [hnone]

/-! ## What the operations do to the pending pairs -/

theorem pendingPairs_markDelivered (hs : StoreInv s) (v : ℕ) (e : String) (now : ℤ) :
    (s.markDelivered v e now).pendingPairs now = s.pendingPairs now :=
  pendingPairs_congr hs (hs.markDelivered v e now) fun _ _ => awaits_markDelivered

theorem pendingPairs_expiryTimer (hs : StoreInv s) (e : String) (now : ℤ) :
    (s.expiryTimer e now).pendingPairs now = s.pendingPairs now :=
  pendingPairs_congr hs (hs.expiryTimer e now) fun _ _ => awaits_expiryTimer

theorem pendingPairs_markFailed_of_not (hs : StoreInv s) (error : String)
    (h : ¬ (s.Live v e now ∧ AppliedBy v e s)) :
    (s.markFailed v e error now).pendingPairs now = s.pendingPairs now := by
  refine pendingPairs_congr hs (hs.markFailed v e error now) fun u e' => ?_
  refine (awaits_markFailed error).trans (or_iff_left ?_)
  rintro ⟨⟨rfl, rfl⟩, hrevived⟩
  exact h hrevived

/-- The failure of an event that was acknowledged revives its pair. -/
theorem pendingPairs_markFailed_of_applied (hs : StoreInv s) (error : String)
    (h : s.Live v e now ∧ AppliedBy v e s) :
    (s.markFailed v e error now).pendingPairs now = insert (v, e) (s.pendingPairs now) := by
  ext ⟨u, e'⟩
  rw [mem_pendingPairs (hs.markFailed v e error now), awaits_markFailed, Finset.mem_insert,
    mem_pendingPairs hs, Prod.mk.injEq, or_comm]
  refine or_congr_left (and_iff_left_of_imp ?_)
  rintro ⟨rfl, rfl⟩
  exact h

theorem pendingPairs_markApplied (hs : StoreInv s) (v : ℕ) (e : String) (now : ℤ) :
    (s.markApplied v e).pendingPairs now = (s.pendingPairs now).erase (v, e) := by
  ext ⟨u, e'⟩
  rw [mem_pendingPairs (hs.markApplied v e), awaits_markApplied hs, Finset.mem_erase,
    mem_pendingPairs hs, ne_eq, Prod.mk.injEq, and_comm]

theorem pendingPairs_cleanup (hs : StoreInv s) (cfg : StoreConfig) (now : ℤ) :
    (s.cleanup cfg now).pendingPairs now = (s.pendingPairs now).filter fun p =>
      p.2 ∉ (victims cfg (s.swept cfg now)).map EventRecord.eventId := by
  ext p
  rw [mem_pendingPairs (hs.cleanup cfg now), awaits_cleanup, Finset.mem_filter,
    mem_pendingPairs hs]

/-! ## The counters -/

theorem removeEvent_stats (s : EventStore P) (e : String) (reason : RemoveReason) :
    (s.removeEvent e reason).stats = s.stats := by
  unfold removeEvent
  split <;> rfl

theorem foldl_stats {α : Type} {f : EventStore P → α → EventStore P}
    (hf : ∀ s a, (f s a).stats = s.stats) : ∀ (l : List α) (s : EventStore P),
    (l.foldl f s).stats = s.stats
  | [], _ => rfl
  | a :: l, s => (foldl_stats hf l (f s a)).trans (hf s a)

theorem dropForUser_stats (v : ℕ) (s : EventStore P) (e : String) :
    (s.dropForUser v e).stats = s.stats := by
  unfold dropForUser
  dsimp only
  split
  · split_ifs
    · exact removeEvent_stats _ e .force
    · rfl
  · rfl

theorem enforcePerUserLimit_stats (cfg : StoreConfig) (now : ℤ) (s : EventStore P) (v : ℕ) :
    (s.enforcePerUserLimit cfg now v).stats = s.stats := by
  rw [enforcePerUserLimit_eq]
  exact foldl_stats (dropForUser_stats v) _ s

theorem forceCleanup_stats (cfg : StoreConfig) (s : EventStore P) :
    (s.forceCleanup cfg).stats = s.stats :=
  foldl_stats (fun s e => removeEvent_stats s e .force) _ s

theorem makeRoom_stats (cfg : StoreConfig) (s : EventStore P) :
    (s.makeRoom cfg).stats = s.stats := by
  unfold makeRoom
  split_ifs
  · exact forceCleanup_stats cfg s
  · rfl

theorem startTimer_stats (s : EventStore P) (e : String) (ttl : Option ℤ) (now : ℤ) :
    (s.startTimer e ttl now).stats = s.stats := by
  unfold startTimer
  split
  · split_ifs <;> rfl
  · rfl

/-- A new event is counted, and what is pending is counted anew. -/
theorem create_stats (cfg : StoreConfig) (s : EventStore P) (e : String) (targetIds : List ℕ)
    (eventName : String) (payload : P) (qos : QoS) (options : CreateOptions) (now : ℤ) :
    (s.create cfg e targetIds eventName payload qos options now).stats.totalEventsApplied =
        s.stats.totalEventsApplied ∧
      (s.create cfg e targetIds eventName payload qos options now).stats.totalEventsExpired =
        s.stats.totalEventsExpired := by
  have hstats : ((targetIds.foldl (enforcePerUserLimit cfg now) ((s.makeRoom cfg).insertEvent
      targetIds (newRecord e eventName payload qos options now) now)).startTimer e options.ttl
        now).stats = s.stats := by
    rw [startTimer_stats, foldl_stats (enforcePerUserLimit_stats cfg now)]
    exact makeRoom_stats cfg s
  unfold create updateStats
  dsimp only
  rw [hstats]
  exact ⟨rfl, rfl⟩

theorem cleanup_stats (cfg : StoreConfig) (now : ℤ) (s : EventStore P) :
    (s.cleanup cfg now).stats.totalEventsApplied = s.stats.totalEventsApplied ∧
      (s.cleanup cfg now).stats.totalEventsExpired =
        s.stats.totalEventsExpired + (s.expiredIds now).length ∧
      (s.cleanup cfg now).stats.currentPending = s.stats.currentPending := by
  have hremoved := foldl_stats (fun s id => removeEvent_stats s id .expired) (s.expiredIds now) s
  have hlimited : ((s.swept cfg now).enforceMemoryLimits cfg).stats = (s.swept cfg now).stats := by
    unfold enforceMemoryLimits
    split_ifs
    · exact forceCleanup_stats cfg _
    · rfl
  have hstats : (s.cleanup cfg now).stats =
      { (s.swept cfg now).stats with lastCleanup := now } := by
    rw [← hlimited]
    rfl
  rw [hstats, swept, cleanupStaleDelivered, cleanupExpiredEvents]
  dsimp only
  rw [hremoved]
  exact ⟨rfl, rfl, rfl⟩

theorem markApplied_stats (s : EventStore P) (u : ℕ) (e : String) :
    (s.markApplied u e).stats.totalEventsApplied =
        s.stats.totalEventsApplied + (if s.events.has e = true then 1 else 0) ∧
      (s.markApplied u e).stats.totalEventsExpired = s.stats.totalEventsExpired ∧
      (s.markApplied u e).stats.currentPending = s.stats.currentPending := by
  unfold markApplied OMap.has
  cases s.events.get? e with
  | none => exact ⟨rfl, rfl, rfl⟩
  | some event =>
    dsimp only
    split_ifs
    · rw [removeEvent_stats]
      exact ⟨rfl, rfl, rfl⟩
    · exact absurd rfl ‹_›
    · exact ⟨rfl, rfl, rfl⟩
    · exact absurd rfl ‹_›

end EventStore

/-- The operations that leave the three counters alone. -/
def StoreOp.uncounted {P : Type} : StoreOp P → Bool
  | .markDelivered .. | .markFailed .. | .expiryTimer .. => true
  | _ => false

theorem StoreOp.uncounted_stats {P : Type} {op : StoreOp P} (hop : op.uncounted = true)
    (cfg : StoreConfig) (now : ℤ) (s : EventStore P) :
    (op.apply cfg now s).stats.totalEventsApplied = s.stats.totalEventsApplied ∧
      (op.apply cfg now s).stats.totalEventsExpired = s.stats.totalEventsExpired ∧
      (op.apply cfg now s).stats.currentPending = s.stats.currentPending := by
  cases op with
  | markDelivered u e =>
    simp only [StoreOp.apply, EventStore.markDelivered]
    split
    · exact ⟨rfl, rfl, rfl⟩
    · split_ifs <;> exact ⟨rfl, rfl, rfl⟩
  | markFailed u e error =>
    simp only [StoreOp.apply, EventStore.markFailed]
    split
    · exact ⟨rfl, rfl, rfl⟩
    · split_ifs <;> exact ⟨rfl, rfl, rfl⟩
  | expiryTimer e =>
    simp only [StoreOp.apply, EventStore.expiryTimer]
    split
    · split_ifs
      · rw [EventStore.removeEvent_stats]
        exact ⟨rfl, rfl, rfl⟩
      · exact ⟨rfl, rfl, rfl⟩
    · exact ⟨rfl, rfl, rfl⟩
  | _ => cases hop

/-! ## What has happened -/

/-- The pairs of a recipient and an event that an operation makes `APPLIED`. -/
def StoreOp.applies {P : Type} (s : EventStore P) : StoreOp P → List (ℕ × String)
  | .markApplied u e => if e ∈ s.indexed u then [(u, e)] else []
  | _ => []

/-- The events that an operation removes because they have expired. -/
def StoreOp.expires {P : Type} (s : EventStore P) (now : ℤ) : StoreOp P → List String
  | .expiryTimer e => if e ∈ s.expiredIds now then [e] else []
  | .cleanup => s.expiredIds now
  | _ => []

/-- The store, with who has applied which event so far, and which events were removed because
    they had expired. -/
structure Ledger (P : Type) where
  world : StoreWorld P
  applied : Finset (ℕ × String) := ∅
  expired : List String := []

/-- The store of a process that has just started. -/
def Ledger.start (P : Type) (t : ℤ) : Ledger P := { world := StoreWorld.init P t }

/-- Time passes, or an operation runs. -/
inductive LedgerAct (P : Type)
  | tick (now : ℤ)
  | op (op : StoreOp P)

/-- A step of the store, entered in the ledger. -/
def ledgerStep {P : Type} (cfg : StoreConfig) (l : Ledger P) : LedgerAct P → Option (Ledger P)
  | .tick now =>
    if l.world.clock ≤ now then some { l with world := { l.world with clock := now } } else none
  | .op op =>
    (storeStep cfg l.world (l.world.clock, op)).map fun w =>
      { world := w
        applied := l.applied ∪ (op.applies l.world.store).toFinset
        expired := l.expired ++ op.expires l.world.store l.world.clock }

namespace Ledger

variable {P : Type} (cfg : StoreConfig) (l : Ledger P)

/-- The pairs that are pending at the moment. -/
def pending : Finset (ℕ × String) := l.world.store.pendingPairs l.world.clock

/-- **The counters count what happened.** -/
structure Right : Prop where
  applied : l.world.store.getStats.totalEventsApplied = l.applied.card
  expired : l.world.store.getStats.totalEventsExpired = l.expired.length
  pending : l.world.store.getStats.currentPending = l.pending.card

/-- A stored event is acknowledged by a recipient, and for the first time. -/
def AcksOnce : LedgerAct P → Prop
  | .op (.markApplied u e) => l.world.store.events.has e = true →
      e ∈ l.world.store.indexed u ∧ (u, e) ∉ l.applied
  | _ => True

/-- A timer does not find its event expired. -/
def TimerIdle : LedgerAct P → Prop
  | .op (.expiryTimer e) => e ∉ l.world.store.expiredIds l.world.clock
  | _ => True

/-- No pair stops or starts being pending, except when an event is created: no pending event
    expires, is acknowledged or has to go for the memory limit, and no failure is reported of an
    event that was acknowledged and is still there. -/
def PendingKept : LedgerAct P → Prop
  | .tick now => ∀ u e, l.world.store.Awaits u e l.world.clock →
      ∀ r ∈ l.world.store.events.get? e, r.isExpired now = false
  | .op (.markApplied u e) => ¬ l.world.store.Awaits u e l.world.clock
  | .op (.markFailed u e _) => ¬ (l.world.store.Live u e l.world.clock ∧
      EventStore.AppliedBy u e l.world.store)
  | .op .cleanup => ∀ r ∈ EventStore.victims cfg (l.world.store.swept cfg l.world.clock),
      ∀ u, ¬ l.world.store.Awaits u r.eventId l.world.clock
  | .op _ => True

/-- The counters agree with what happened after the step, if they did before. -/
structure Counted (a : LedgerAct P) : Prop where
  acks : l.AcksOnce a
  timer : l.TimerIdle a
  pending : l.PendingKept cfg a

end Ledger

section
variable {P : Type} {cfg : StoreConfig} {l l' : Ledger P} {a : LedgerAct P} {t₀ : ℤ}

/-- What a step can do. -/
theorem ledgerStep_cases (h : ledgerStep cfg l a = some l') :
    (∃ now, a = .tick now ∧ l.world.clock ≤ now ∧
      l' = { l with world := { l.world with clock := now } }) ∨
    ∃ op, a = .op op ∧ storeStep cfg l.world (l.world.clock, op) = some l'.world ∧
      l'.world.store = op.apply cfg l.world.clock l.world.store ∧
      l'.world.clock = l.world.clock ∧
      l'.applied = l.applied ∪ (op.applies l.world.store).toFinset ∧
      l'.expired = l.expired ++ op.expires l.world.store l.world.clock := by
  cases a with
  | tick now =>
    obtain ⟨hle, rfl⟩ := by simpa [ledgerStep] using h
    exact Or.inl ⟨now, rfl, hle, rfl⟩
  | op op =>
    obtain ⟨w, hw, rfl⟩ := Option.map_eq_some_iff.1 h
    obtain ⟨-, rfl⟩ := by simpa [storeStep] using hw
    exact Or.inr ⟨op, rfl, hw, rfl, rfl, rfl, rfl⟩

/-- The ledger of a run of the store. -/
theorem ledger_of_run {ops : List (ℤ × StoreOp P)} {w : StoreWorld P}
    (h : Run (storeStep cfg) anyStep (StoreWorld.init P t₀) ops w) :
    ∃ l, Run (ledgerStep cfg) anyStep (Ledger.start P t₀)
      (ops.flatMap fun o => [.tick o.1, .op o.2]) l ∧ l.world = w := by
  induction h with
  | nil => exact ⟨_, .nil, rfl⟩
  | @snoc ops w op w' _ _ hst ih =>
    obtain ⟨l, hrun, rfl⟩ := ih
    obtain ⟨now, op⟩ := op
    obtain ⟨⟨hle, hen⟩, rfl⟩ := by simpa [storeStep] using hst
    have htick : ledgerStep cfg l (.tick now) =
        some { l with world := { l.world with clock := now } } := if_pos hle
    have hen' : op.enabled { l.world with clock := now } now = true := by
      cases op <;> exact hen
    have hop : ledgerStep cfg { l with world := { l.world with clock := now } } (.op op) =
        some ⟨⟨op.apply cfg now l.world.store, now, op.issues ++ l.world.issued⟩,
          l.applied ∪ (op.applies l.world.store).toFinset,
          l.expired ++ op.expires l.world.store now⟩ := by
      simp [ledgerStep, storeStep, hen']
    simp only [List.flatMap_append]
    exact ⟨_, hrun.append (.cons trivial htick (.single trivial hop)), rfl⟩

/-! ## One step -/

theorem Ledger.inv_step (hl : EventStore.WorldInv l.world) (hst : ledgerStep cfg l a = some l') :
    EventStore.WorldInv l'.world := by
  obtain ⟨now, -, hle, rfl⟩ | ⟨op, -, hst, -⟩ := ledgerStep_cases hst
  · exact ⟨hl.store, hl.issued, fun id r hr => (hl.created id r hr).trans hle⟩
  · exact hl.step hst

/-- An acknowledgement is counted right iff it is the first one by a recipient. -/
theorem Ledger.applied_step (hl : EventStore.WorldInv l.world)
    (hright : l.world.store.getStats.totalEventsApplied = l.applied.card)
    (hst : ledgerStep cfg l a = some l') :
    l'.world.store.getStats.totalEventsApplied = l'.applied.card ↔ l.AcksOnce a := by
  obtain ⟨now, rfl, -, rfl⟩ | ⟨op, rfl, -, hstore, -, happlied, -⟩ := ledgerStep_cases hst
  · exact iff_of_true hright trivial
  · rw [hstore, happlied]
    unfold EventStore.getStats at hright ⊢
    cases op with
    | create e targetIds eventName payload qos options =>
      refine iff_of_true ?_ trivial
      simpa [StoreOp.apply, StoreOp.applies, EventStore.create_stats] using hright
    | markApplied u e =>
      simp only [StoreOp.apply, StoreOp.applies, Ledger.AcksOnce,
        (EventStore.markApplied_stats _ u e).1, hright]
      split_ifs with hhas hindexed hindexed
      · by_cases hmem : (u, e) ∈ l.applied
        · simp [hhas, hmem]
        · simp [hindexed, hmem]
      · simp [hhas, hindexed]
      · -- what is indexed is stored
        obtain ⟨r, -, hr, -⟩ := hl.store.recipient u e ((EventStore.mem_indexed ..).1 hindexed)
        exact absurd ((OMap.has_iff _ _).2 ⟨r, hr⟩) hhas
      · simp [hhas]
    | cleanup =>
      refine iff_of_true ?_ trivial
      simpa [StoreOp.apply, StoreOp.applies, EventStore.cleanup_stats] using hright
    | _ =>
      refine iff_of_true ?_ trivial
      rw [(StoreOp.uncounted_stats rfl cfg _ _).1]
      simpa [StoreOp.applies] using hright

/-- The expired events are counted right iff no timer removes one. -/
theorem Ledger.expired_step
    (hright : l.world.store.getStats.totalEventsExpired = l.expired.length)
    (hst : ledgerStep cfg l a = some l') :
    l'.world.store.getStats.totalEventsExpired = l'.expired.length ↔ l.TimerIdle a := by
  obtain ⟨now, rfl, -, rfl⟩ | ⟨op, rfl, -, hstore, -, -, hexpired⟩ := ledgerStep_cases hst
  · exact iff_of_true hright trivial
  · rw [hstore, hexpired, List.length_append]
    unfold EventStore.getStats at hright ⊢
    cases op with
    | create e targetIds eventName payload qos options =>
      refine iff_of_true ?_ trivial
      simpa [StoreOp.apply, StoreOp.expires, EventStore.create_stats] using hright
    | markApplied u e =>
      refine iff_of_true ?_ trivial
      simpa [StoreOp.apply, StoreOp.expires, EventStore.markApplied_stats] using hright
    | expiryTimer e =>
      rw [(StoreOp.uncounted_stats rfl cfg _ _).2.1, hright]
      simp only [StoreOp.expires, Ledger.TimerIdle]
      split_ifs with hmem <;> simp [hmem]
    | cleanup =>
      refine iff_of_true ?_ trivial
      simpa [StoreOp.apply, StoreOp.expires, EventStore.cleanup_stats] using hright
    | _ =>
      refine iff_of_true ?_ trivial
      rw [(StoreOp.uncounted_stats rfl cfg _ _).2.1]
      simpa [StoreOp.expires] using hright

variable (cfg) in
/-- An operation that counts nothing counts right iff it keeps the number of pending pairs. -/
theorem Ledger.pending_op (op : StoreOp P)
    (hright : l.world.store.getStats.currentPending = l.pending.card)
    (hstats : (op.apply cfg l.world.clock l.world.store).stats.currentPending =
      l.world.store.stats.currentPending) {after : Finset (ℕ × String)}
    (hafter : (op.apply cfg l.world.clock l.world.store).pendingPairs l.world.clock = after) :
    (op.apply cfg l.world.clock l.world.store).getStats.currentPending =
        ((op.apply cfg l.world.clock l.world.store).pendingPairs l.world.clock).card ↔
      after.card = l.pending.card := by
  unfold EventStore.getStats at hright ⊢
  rw [hstats, hright, hafter, eq_comm]

/-- The pending pairs are counted right iff none has stopped being pending, or started to be. -/
theorem Ledger.pending_step (hl : EventStore.WorldInv l.world)
    (hright : l.world.store.getStats.currentPending = l.pending.card)
    (hst : ledgerStep cfg l a = some l') :
    l'.world.store.getStats.currentPending = l'.pending.card ↔ l.PendingKept cfg a := by
  have hmem : ∀ u e, (u, e) ∈ l.pending ↔ l.world.store.Awaits u e l.world.clock :=
    fun u e => EventStore.mem_pendingPairs hl.store
  have hl' := (Ledger.inv_step hl hst).store
  obtain ⟨now, rfl, hle, rfl⟩ | ⟨op, rfl, -, hstore, hclock, -, -⟩ := ledgerStep_cases hst
  · change l.world.store.getStats.currentPending = (l.world.store.pendingPairs now).card ↔ _
    rw [hright, EventStore.pendingPairs_later hl.store hle, eq_comm]
    refine Finset.card_filter_eq_iff.trans ⟨fun hkept u e hawaits => ?_, fun hkept p hp => ?_⟩
    · exact hkept (u, e) ((hmem u e).2 hawaits)
    · exact hkept p.1 p.2 ((hmem p.1 p.2).1 hp)
  · rw [Ledger.pending, hclock, hstore]
    have huncounted : op.uncounted = true → (op.apply cfg l.world.clock
        l.world.store).stats.currentPending = l.world.store.stats.currentPending :=
      fun hop => (StoreOp.uncounted_stats hop cfg _ _).2.2
    cases op with
    | create e targetIds eventName payload qos options =>
      rw [hstore] at hl'
      exact iff_of_true (EventStore.card_pendingPairs hl' l.world.clock).symm trivial
    | markDelivered u e =>
      have hpairs := EventStore.pendingPairs_markDelivered hl.store u e l.world.clock
      exact (Ledger.pending_op cfg _ hright (huncounted rfl) hpairs).trans (iff_of_true rfl trivial)
    | markFailed u e error =>
      by_cases hrevived : l.world.store.Live u e l.world.clock ∧
          EventStore.AppliedBy u e l.world.store
      · have hpairs := EventStore.pendingPairs_markFailed_of_applied hl.store error hrevived
        refine (Ledger.pending_op cfg _ hright (huncounted rfl) hpairs).trans
          (iff_of_false ?_ (not_not.2 hrevived))
        have hnew : (u, e) ∉ l.pending := fun hp => hrevived.2.not_awaits _ ((hmem u e).1 hp)
        exact (Finset.card_insert_of_notMem hnew).trans_ne (Nat.succ_ne_self _)
      · have hpairs := EventStore.pendingPairs_markFailed_of_not hl.store error hrevived
        exact (Ledger.pending_op cfg _ hright (huncounted rfl) hpairs).trans
          (iff_of_true rfl hrevived)
    | markApplied u e =>
      have hstats := (EventStore.markApplied_stats l.world.store u e).2.2
      have hpairs := EventStore.pendingPairs_markApplied hl.store u e l.world.clock
      refine (Ledger.pending_op cfg (.markApplied u e) hright hstats hpairs).trans ?_
      change _ ↔ ¬ l.world.store.Awaits u e l.world.clock
      rw [← hmem]
      constructor
      · intro hcard hp
        exact (Finset.card_erase_lt_of_mem hp).ne hcard
      · intro hp
        exact congrArg Finset.card (Finset.erase_eq_of_notMem hp)
    | expiryTimer e =>
      have hpairs := EventStore.pendingPairs_expiryTimer hl.store e l.world.clock
      exact (Ledger.pending_op cfg _ hright (huncounted rfl) hpairs).trans (iff_of_true rfl trivial)
    | cleanup =>
      have hstats := (EventStore.cleanup_stats cfg l.world.clock l.world.store).2.2
      have hpairs := EventStore.pendingPairs_cleanup hl.store cfg l.world.clock
      refine (Ledger.pending_op cfg .cleanup hright hstats hpairs).trans
        (Finset.card_filter_eq_iff.trans
          ⟨fun hkept r hr u hawaits => ?_, fun hkept p hp hvictim => ?_⟩)
      · exact hkept (u, r.eventId) ((hmem u _).2 hawaits) (List.mem_map_of_mem hr)
      · obtain ⟨r, hr, heq⟩ := List.mem_map.1 hvictim
        exact hkept r hr p.1 ((hmem p.1 _).1 (heq ▸ hp))

/-! ## Every run -/

/-- **When the counters count what happened.**  In every state of a run, iff each step leaves them
    right: every acknowledgement of a stored event is the first one, by a recipient; no timer
    removes an event; and no pair stops or starts being pending, except when an event is
    created. -/
theorem counters_right_iff {acts : List (LedgerAct P)}
    (h : Run (ledgerStep cfg) anyStep (Ledger.start P t₀) acts l) :
    (∀ l', Visited (ledgerStep cfg) (Ledger.start P t₀) acts l' → l'.Right) ↔
      Run (ledgerStep cfg) (Ledger.Counted cfg) (Ledger.start P t₀) acts l := by
  have hstart : EventStore.WorldInv (Ledger.start P t₀).world := .init t₀
  have hkeep : ∀ (l : Ledger P) a l', EventStore.WorldInv l.world → ledgerStep cfg l a = some l' →
      EventStore.WorldInv l'.world := fun _ _ _ => Ledger.inv_step
  have happlied : (∀ l', Visited (ledgerStep cfg) (Ledger.start P t₀) acts l' →
      l'.world.store.getStats.totalEventsApplied = l'.applied.card) ↔
        Run (ledgerStep cfg) Ledger.AcksOnce (Ledger.start P t₀) acts l :=
    h.safe_iff_of_exact hstart rfl hkeep fun _ _ _ => Ledger.applied_step
  have hexpired : (∀ l', Visited (ledgerStep cfg) (Ledger.start P t₀) acts l' →
      l'.world.store.getStats.totalEventsExpired = l'.expired.length) ↔
        Run (ledgerStep cfg) Ledger.TimerIdle (Ledger.start P t₀) acts l :=
    h.safe_iff_of_exact hstart rfl hkeep fun _ _ _ _ => Ledger.expired_step
  have hpending : (∀ l', Visited (ledgerStep cfg) (Ledger.start P t₀) acts l' →
      l'.world.store.getStats.currentPending = l'.pending.card) ↔
        Run (ledgerStep cfg) (Ledger.PendingKept cfg) (Ledger.start P t₀) acts l :=
    h.safe_iff_of_exact hstart rfl hkeep fun _ _ _ => Ledger.pending_step
  constructor
  · intro hright
    have hboth := ((happlied.1 fun l' hl' => (hright l' hl').applied).and
      (hexpired.1 fun l' hl' => (hright l' hl').expired)).and
        (hpending.1 fun l' hl' => (hright l' hl').pending)
    exact hboth.mono fun _ _ hok => ⟨hok.1.1, hok.1.2, hok.2⟩
  · intro hrun l' hl'
    exact ⟨happlied.2 (hrun.mono fun _ _ hok => hok.acks) l' hl',
      hexpired.2 (hrun.mono fun _ _ hok => hok.timer) l' hl',
      hpending.2 (hrun.mono fun _ _ hok => hok.pending) l' hl'⟩

end

/-- An event is created and delivered. -/
def deliveredOnly : List (LedgerAct JsObj) :=
  [.tick 10, .op (.create "e" [1] "sync-alarm" [] .qos2 {}), .op (.markDelivered 1 "e")]

theorem counters_right_iff_delivered : ∃ l,
    Run (ledgerStep {}) anyStep (Ledger.start JsObj 0) deliveredOnly l ∧
    ((∀ l', Visited (ledgerStep {}) (Ledger.start JsObj 0) deliveredOnly l' → l'.Right) ↔
      Run (ledgerStep {}) (Ledger.Counted {}) (Ledger.start JsObj 0) deliveredOnly l) :=
  ⟨_, run_of_exec rfl, counters_right_iff (run_of_exec rfl)⟩

/-- One of two recipients acknowledges an event twice, and another event expires. -/
def drifting : List (LedgerAct JsObj) :=
  [.tick 10, .op (.create "e" [1, 2] "sync-alarm" [] .qos2 {}),
    .op (.create "f" [1] "change-mode" [] .qos2 { ttl := some 10 }), .op (.markApplied 1 "e"),
    .op (.markApplied 1 "e"), .tick 30, .op (.expiryTimer "f")]

/-- Two acknowledgements are counted for one pair, no expiry, and three pending events for one. -/
theorem drifting_wrong : ∃ l,
    Run (ledgerStep {}) anyStep (Ledger.start JsObj 0) drifting l ∧
      l.world.store.getStats.totalEventsApplied = 2 ∧ l.applied = {(1, "e")} ∧
      l.world.store.getStats.totalEventsExpired = 0 ∧ l.expired = ["f"] ∧
      l.world.store.getStats.currentPending = 3 ∧ l.pending = {(2, "e")} ∧ ¬ l.Right := by
  refine ⟨(exec (ledgerStep {}) (Ledger.start JsObj 0) drifting).getD (Ledger.start JsObj 0),
    run_of_exec rfl, rfl, rfl, rfl, rfl, rfl, by decide, fun h => ?_⟩
  have happlied := h.applied
  revert happlied
  decide

end GatewayRealtime
