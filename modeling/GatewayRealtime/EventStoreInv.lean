/-
  The invariant of the event store, operation by operation.

  * `inIndex`: the relation that `userEvents` describes, and what each index update does to it.
  * `StoreInv`: every record is stored under its own id, and every indexed pair (user, event)
    is one of a stored record and one of its recipients.
  * `NoGrow`, `GrowsBy`: an operation adds nothing, or one new event for its targets.
  * `Operated`: operations that create nothing, at one reading of the clock.
  * `worldInv_run`: after every run of the store, `StoreInv` holds and every record was created
    with an issued id.  In particular no method of the source ever meets an indexed id without
    a record.
-/
import Mathlib.Logic.Relation
import GatewayRealtime.EventStore

namespace GatewayRealtime

namespace EventStore

variable {P : Type}

/-! ## The index as a relation -/

/-- `id` is in the index set of `u`. -/
def inIndex (index : OMap ℕ (OSet String)) (u : ℕ) (id : String) : Prop :=
  ∃ set, index.get? u = some set ∧ id ∈ set

theorem mem_indexed (s : EventStore P) (u : ℕ) (id : String) :
    id ∈ s.indexed u ↔ inIndex s.userEvents u id := by
  unfold indexed inIndex
  cases s.userEvents.get? u <;> simp [OSet.mem_def]

theorem nodup_indexed (s : EventStore P) (u : ℕ) : (s.indexed u).Nodup := by
  unfold indexed
  cases s.userEvents.get? u with
  | none => simp
  | some set => exact set.nodup

theorem inIndex_set (index : OMap ℕ (OSet String)) (v : ℕ) (set : OSet String) (u : ℕ)
    (id : String) :
    inIndex (index.set v set) u id ↔ if u = v then id ∈ set else inIndex index u id := by
  unfold inIndex
  rw [OMap.get?_set]
  split_ifs <;> simp

@[simp] theorem inIndex_addToIndex (e : String) (index : OMap ℕ (OSet String)) (v u : ℕ)
    (id : String) :
    inIndex (addToIndex e index v) u id ↔ inIndex index u id ∨ (u = v ∧ id = e) := by
  rw [addToIndex, inIndex_set]
  split_ifs with h
  · subst h
    cases hu : index.get? u <;> simp [inIndex, hu]
  · simp [h]

@[simp] theorem inIndex_unindex (e : String) (index : OMap ℕ (OSet String)) (v u : ℕ)
    (id : String) :
    inIndex (unindex e index v) u id ↔ inIndex index u id ∧ ¬ (u = v ∧ id = e) := by
  unfold unindex
  cases hv : index.get? v with
  | none =>
    refine ⟨fun h => ⟨h, ?_⟩, And.left⟩
    rintro ⟨rfl, -⟩
    obtain ⟨set, hs, -⟩ := h
    simp [hv] at hs
  | some set =>
    by_cases hu : u = v
    · subst hu
      dsimp only
      split_ifs with h0
      · have hnone := (OSet.size_eq_zero _).1 h0 id
        simp only [OSet.mem_remove, not_and, not_not] at hnone
        simpa [inIndex, hv] using hnone
      · simp [inIndex, hv]
    · dsimp only
      split_ifs <;> simp [inIndex, hu]

@[simp] theorem inIndex_modify_remove (e : String) (index : OMap ℕ (OSet String)) (v u : ℕ)
    (id : String) :
    inIndex (index.modify v (·.remove e)) u id ↔ inIndex index u id ∧ ¬ (u = v ∧ id = e) := by
  unfold inIndex
  rw [OMap.get?_modify]
  split_ifs with h
  · subst h
    cases index.get? u <;> simp
  · simp [h]

theorem inIndex_foldl_addToIndex (e : String) (u : ℕ) (id : String) : ∀ (vs : List ℕ)
    (index : OMap ℕ (OSet String)),
    inIndex (vs.foldl (addToIndex e) index) u id ↔ inIndex index u id ∨ (u ∈ vs ∧ id = e)
  | [], _ => by simp
  | v :: vs, index => by
    rw [List.foldl_cons, inIndex_foldl_addToIndex e u id vs, inIndex_addToIndex, List.mem_cons]
    tauto

theorem inIndex_foldl_unindex (e : String) (u : ℕ) (id : String) : ∀ (vs : List ℕ)
    (index : OMap ℕ (OSet String)),
    inIndex (vs.foldl (unindex e) index) u id ↔ inIndex index u id ∧ ¬ (u ∈ vs ∧ id = e)
  | [], _ => by simp
  | v :: vs, index => by
    rw [List.foldl_cons, inIndex_foldl_unindex e u id vs, inIndex_unindex, List.mem_cons]
    tauto

/-! ## What each step does to the two maps -/

section
variable (s : EventStore P)

@[simp] theorem updateEvent_events (e : String) (f : EventRecord P → EventRecord P) (id : String) :
    (s.updateEvent e f).events.get? id =
      if id = e then (s.events.get? e).map f else s.events.get? id :=
  OMap.get?_modify ..

@[simp] theorem updateEvent_userEvents (e : String) (f : EventRecord P → EventRecord P) :
    (s.updateEvent e f).userEvents = s.userEvents := rfl

theorem removeEvent_events (e : String) (reason : RemoveReason) (id : String) :
    (s.removeEvent e reason).events.get? id = if id = e then none else s.events.get? id := by
  unfold removeEvent
  cases h : s.events.get? e with
  | none => dsimp only; split_ifs with hid <;> simp [hid, h]
  | some r => simp

theorem inIndex_removeEvent (e : String) (reason : RemoveReason) (u : ℕ) (id : String) :
    inIndex (s.removeEvent e reason).userEvents u id ↔ inIndex s.userEvents u id ∧
      ¬ (id = e ∧ ∃ r st, s.events.get? e = some r ∧ r.userStatus.get? u = some st) := by
  unfold removeEvent
  cases h : s.events.get? e with
  | none => simp
  | some r =>
    simp only [inIndex_foldl_unindex, OMap.mem_keys, Option.some.injEq]
    constructor
    · rintro ⟨h₁, h₂⟩
      refine ⟨h₁, ?_⟩
      rintro ⟨rfl, r', st, rfl, hst⟩
      exact h₂ ⟨⟨st, hst⟩, rfl⟩
    · rintro ⟨h₁, h₂⟩
      refine ⟨h₁, ?_⟩
      rintro ⟨⟨st, hst⟩, rfl⟩
      exact h₂ ⟨rfl, r, st, rfl, hst⟩

theorem size_removeEvent_le (e : String) (reason : RemoveReason) :
    (s.removeEvent e reason).events.size ≤ s.events.size := by
  unfold removeEvent
  cases s.events.get? e with
  | none => exact le_rfl
  | some r => exact OMap.size_delete_le _ _

@[simp] theorem size_updateEvent (e : String) (f : EventRecord P → EventRecord P) :
    (s.updateEvent e f).events.size = s.events.size := OMap.size_modify _ _ _

end

/-! ## The invariant -/

/-- Records are stored under their ids, and indexed pairs are pairs of a stored record and one
    of its recipients. -/
structure StoreInv (s : EventStore P) : Prop where
  keyed : ∀ id r, s.events.get? id = some r → r.eventId = id
  recipient : ∀ u id, inIndex s.userEvents u id →
    ∃ r st, s.events.get? id = some r ∧ r.userStatus.get? u = some st

/-- The empty store meets the invariant. -/
theorem storeInv_empty (stats : StoreStats) : StoreInv ({ stats := stats } : EventStore P) where
  keyed _ _ h := by simp at h
  recipient _ _ := fun ⟨_, h, _⟩ => by simp at h

section
variable {s : EventStore P}

theorem StoreInv.removeEvent (hs : StoreInv s) (e : String) (reason : RemoveReason) :
    StoreInv (s.removeEvent e reason) where
  keyed id r h := by
    rw [removeEvent_events] at h
    split_ifs at h
    exact hs.keyed id r h
  recipient u id h := by
    obtain ⟨h₁, h₂⟩ := (inIndex_removeEvent s e reason u id).1 h
    obtain ⟨r, st, hr, hst⟩ := hs.recipient u id h₁
    have hne : id ≠ e := by
      rintro rfl
      exact h₂ ⟨rfl, r, st, hr, hst⟩
    exact ⟨r, st, by simpa [removeEvent_events, hne] using hr, hst⟩

theorem StoreInv.foldl_removeEvent (reason : RemoveReason) : ∀ (ids : List String)
    {s : EventStore P}, StoreInv s →
    StoreInv (ids.foldl (fun s id => EventStore.removeEvent s id reason) s)
  | [], _, hs => hs
  | id :: ids, _, hs => StoreInv.foldl_removeEvent reason ids (hs.removeEvent id reason)

/-- Rewriting a record keeps the invariant, if the record keeps its id and its recipients. -/
theorem StoreInv.updateEvent (hs : StoreInv s) (e : String) {f : EventRecord P → EventRecord P}
    (hid : ∀ r, (f r).eventId = r.eventId)
    (hrec : ∀ r u st, r.userStatus.get? u = some st → ∃ st', (f r).userStatus.get? u = some st') :
    StoreInv (s.updateEvent e f) where
  keyed id r h := by
    rw [updateEvent_events] at h
    split_ifs at h with heq
    · obtain ⟨r₀, hr₀, rfl⟩ := Option.map_eq_some_iff.1 h
      rw [hid, heq]
      exact hs.keyed e r₀ hr₀
    · exact hs.keyed id r h
  recipient u id h := by
    obtain ⟨r, st, hr, hst⟩ := hs.recipient u id h
    rw [updateEvent_events]
    split_ifs with heq
    · subst heq
      obtain ⟨st', hst'⟩ := hrec r u st hst
      exact ⟨f r, st', by rw [hr]; rfl, hst'⟩
    · exact ⟨r, st, hr, hst⟩

/-- The counters, timers and emissions are outside the invariant. -/
theorem StoreInv.congr {s' : EventStore P} (hs : StoreInv s) (he : s'.events = s.events)
    (hu : s'.userEvents = s.userEvents) : StoreInv s' where
  keyed := by rw [he]; exact hs.keyed
  recipient := by rw [he, hu]; exact hs.recipient

/-- Setting the status of a user keeps the invariant, recipient or not. -/
theorem StoreInv.setStatus (hs : StoreInv s) (e : String) (v : ℕ) (status : TypeEventStatus)
    {f : EventRecord P → EventRecord P} (hid : ∀ r, (f r).eventId = r.eventId)
    (hst : ∀ r, (f r).userStatus = r.userStatus.set v status) : StoreInv (s.updateEvent e f) := by
  refine hs.updateEvent e hid fun r u st h => ?_
  rw [hst, OMap.get?_set]
  split_ifs
  · exact ⟨_, rfl⟩
  · exact ⟨st, h⟩

theorem StoreInv.dropForUser (hs : StoreInv s) (v : ℕ) (e : String) :
    StoreInv (s.dropForUser v e) := by
  have hmid : StoreInv (EventStore.updateEvent
      { s with userEvents := s.userEvents.modify v (·.remove e) } e (·.dropUser v)) := by
    constructor
    · intro id r h
      rw [updateEvent_events] at h
      split_ifs at h with heq
      · obtain ⟨r₀, hr₀, rfl⟩ := Option.map_eq_some_iff.1 h
        rw [heq]
        exact hs.keyed e r₀ hr₀
      · exact hs.keyed id r h
    · intro u id h
      simp only [updateEvent_userEvents, inIndex_modify_remove] at h
      obtain ⟨r, st, hr, hst⟩ := hs.recipient u id h.1
      rw [updateEvent_events]
      split_ifs with heq
      · subst heq
        have hne : u ≠ v := fun hu => h.2 ⟨hu, rfl⟩
        exact ⟨r.dropUser v, st, by simp [hr], by simpa [hne] using hst⟩
      · exact ⟨r, st, hr, hst⟩
  unfold EventStore.dropForUser
  dsimp only
  split
  · split_ifs
    · exact hmid.removeEvent e .force
    · exact hmid
  · exact hmid

theorem StoreInv.foldl_dropForUser (v : ℕ) : ∀ (ids : List String) {s : EventStore P},
    StoreInv s → StoreInv (ids.foldl (EventStore.dropForUser v) s)
  | [], _, hs => hs
  | id :: ids, _, hs => StoreInv.foldl_dropForUser v ids (hs.dropForUser v id)

theorem StoreInv.enforcePerUserLimit (hs : StoreInv s) (cfg : StoreConfig) (now : ℤ) (v : ℕ) :
    StoreInv (s.enforcePerUserLimit cfg now v) := by
  unfold EventStore.enforcePerUserLimit
  split_ifs
  · exact hs
  · exact hs.foldl_dropForUser v _

theorem StoreInv.foldl_enforcePerUserLimit (cfg : StoreConfig) (now : ℤ) : ∀ (vs : List ℕ)
    {s : EventStore P}, StoreInv s →
    StoreInv (vs.foldl (EventStore.enforcePerUserLimit cfg now) s)
  | [], _, hs => hs
  | v :: vs, _, hs =>
    StoreInv.foldl_enforcePerUserLimit cfg now vs (hs.enforcePerUserLimit cfg now v)

theorem StoreInv.forceCleanup (hs : StoreInv s) (cfg : StoreConfig) :
    StoreInv (s.forceCleanup cfg) := hs.foldl_removeEvent .force _

theorem StoreInv.makeRoom (hs : StoreInv s) (cfg : StoreConfig) : StoreInv (s.makeRoom cfg) := by
  unfold EventStore.makeRoom
  split_ifs
  · exact hs.forceCleanup cfg
  · exact hs

/-! ### A new event -/

theorem foldl_addTarget_status (now : ℤ) (u : ℕ) : ∀ (vs : List ℕ) (r : EventRecord P),
    (vs.foldl (addTarget now) r).userStatus.get? u =
      if u ∈ vs then some .STORED else r.userStatus.get? u
  | [], _ => by simp
  | v :: vs, r => by
    rw [List.foldl_cons, foldl_addTarget_status now u vs]
    by_cases hvs : u ∈ vs
    · simp [hvs]
    · by_cases huv : u = v <;>
        simp [hvs, huv, addTarget, EventRecord.setUserSequence]

theorem foldl_addTarget_header (now : ℤ) : ∀ (vs : List ℕ) (r : EventRecord P),
    (vs.foldl (addTarget now) r).header = r.header
  | [], _ => rfl
  | _ :: vs, _ => foldl_addTarget_header now vs _

theorem foldl_addTarget_eventId (now : ℤ) : ∀ (vs : List ℕ) (r : EventRecord P),
    (vs.foldl (addTarget now) r).eventId = r.eventId
  | [], _ => rfl
  | _ :: vs, _ => foldl_addTarget_eventId now vs _

theorem StoreInv.insertEvent (hs : StoreInv s) (targetIds : List ℕ) (record : EventRecord P)
    (now : ℤ) (hnew : s.events.get? record.eventId = none) :
    StoreInv (s.insertEvent targetIds record now) := by
  constructor
  · intro id r h
    simp only [EventStore.insertEvent, OMap.get?_set] at h
    split_ifs at h with heq
    · rw [heq, ← Option.some.inj h, foldl_addTarget_eventId]
    · exact hs.keyed id r h
  · intro u id h
    simp only [EventStore.insertEvent, inIndex_foldl_addToIndex] at h
    simp only [EventStore.insertEvent, OMap.get?_set]
    rcases h with h | ⟨hu, rfl⟩
    · obtain ⟨r, st, hr, hst⟩ := hs.recipient u id h
      have hne : id ≠ record.eventId := by
        rintro rfl
        rw [hnew] at hr
        cases hr
      exact ⟨r, st, by simpa [hne] using hr, hst⟩
    · exact ⟨_, _, if_pos rfl, by rw [foldl_addTarget_status, if_pos hu]⟩

theorem startTimer_events (s : EventStore P) (e : String) (ttl : Option ℤ) (now : ℤ) :
    (s.startTimer e ttl now).events = s.events := by
  unfold startTimer
  split
  · split_ifs <;> rfl
  · rfl

theorem startTimer_userEvents (s : EventStore P) (e : String) (ttl : Option ℤ) (now : ℤ) :
    (s.startTimer e ttl now).userEvents = s.userEvents := by
  unfold startTimer
  split
  · split_ifs <;> rfl
  · rfl

/-- What `create` stores: the event inserted, the limit enforced for each target. -/
def createCore (cfg : StoreConfig) (e : String) (targetIds : List ℕ) (eventName : String)
    (payload : P) (qos : QoS) (options : CreateOptions) (now : ℤ) (s : EventStore P) :
    EventStore P :=
  targetIds.foldl (EventStore.enforcePerUserLimit cfg now)
    ((s.makeRoom cfg).insertEvent targetIds (newRecord e eventName payload qos options now) now)

section
variable (cfg : StoreConfig) (e : String) (targetIds : List ℕ) (eventName : String)
  (payload : P) (qos : QoS) (options : CreateOptions) (now : ℤ)

theorem create_events :
    (s.create cfg e targetIds eventName payload qos options now).events =
      (createCore cfg e targetIds eventName payload qos options now s).events :=
  startTimer_events _ _ _ _

theorem create_userEvents :
    (s.create cfg e targetIds eventName payload qos options now).userEvents =
      (createCore cfg e targetIds eventName payload qos options now s).userEvents :=
  startTimer_userEvents _ _ _ _

end

/-! ### All operations -/

theorem foldl_removeEvent_events (reason : RemoveReason) (id : String) : ∀ (ids : List String)
    (s : EventStore P),
    (ids.foldl (fun s id => EventStore.removeEvent s id reason) s).events.get? id =
      if id ∈ ids then none else s.events.get? id
  | [], _ => by simp
  | e :: ids, s => by
    rw [List.foldl_cons, foldl_removeEvent_events reason id ids, removeEvent_events]
    by_cases h : id ∈ ids <;> by_cases h' : id = e <;> simp [h, h']

/-- Making room adds no event. -/
theorem makeRoom_events_none (cfg : StoreConfig) {id : String} (h : s.events.get? id = none) :
    (s.makeRoom cfg).events.get? id = none := by
  unfold EventStore.makeRoom
  split_ifs
  · rw [EventStore.forceCleanup, foldl_removeEvent_events, h, ite_self]
  · exact h

theorem StoreInv.create (hs : StoreInv s) (cfg : StoreConfig) (e : String) (targetIds : List ℕ)
    (eventName : String) (payload : P) (qos : QoS) (options : CreateOptions) (now : ℤ)
    (hnew : s.events.get? e = none) :
    StoreInv (s.create cfg e targetIds eventName payload qos options now) := by
  have hcore : StoreInv (createCore cfg e targetIds eventName payload qos options now s) :=
    StoreInv.foldl_enforcePerUserLimit cfg now targetIds
      ((hs.makeRoom cfg).insertEvent targetIds _ now (makeRoom_events_none cfg hnew))
  exact hcore.congr (create_events ..) (create_userEvents ..)

theorem StoreInv.markDelivered (hs : StoreInv s) (v : ℕ) (e : String) (now : ℤ) :
    StoreInv (s.markDelivered v e now) := by
  unfold EventStore.markDelivered
  split
  · exact hs
  · split_ifs
    · exact hs
    · have hset : StoreInv (s.updateEvent e fun r =>
          (r.setUserStatus v .DELIVERED).incrementDeliveryAttempt v now) :=
        hs.setStatus e v .DELIVERED (fun _ => rfl) fun _ => rfl
      exact hset.congr rfl rfl

theorem StoreInv.markFailed (hs : StoreInv s) (v : ℕ) (e error : String) (now : ℤ) :
    StoreInv (s.markFailed v e error now) := by
  unfold EventStore.markFailed
  split
  · exact hs
  · split_ifs
    · exact hs
    · have hset : StoreInv (s.updateEvent e fun r =>
          ((r.setUserStatus v .FAILED).incrementDeliveryAttempt v now).addDeliveryError v error) :=
        hs.setStatus e v .FAILED (fun _ => rfl) fun _ => rfl
      exact hset.congr rfl rfl

theorem StoreInv.markApplied (hs : StoreInv s) (v : ℕ) (e : String) :
    StoreInv (s.markApplied v e) := by
  unfold EventStore.markApplied
  split
  · exact hs
  · have hset : StoreInv (s.updateEvent e (·.setUserStatus v .APPLIED)) :=
      hs.setStatus e v .APPLIED (fun _ => rfl) fun _ => rfl
    have hstats : StoreInv { s.updateEvent e (·.setUserStatus v .APPLIED) with
        stats := { s.stats with totalEventsApplied := s.stats.totalEventsApplied + 1 } } :=
      hset.congr rfl rfl
    dsimp only
    split_ifs
    · exact hstats.removeEvent e .applied
    · exact hstats

theorem StoreInv.expiryTimer (hs : StoreInv s) (e : String) (now : ℤ) :
    StoreInv (s.expiryTimer e now) := by
  have hclear : StoreInv { s with timers := s.timers.delete e } := hs.congr rfl rfl
  unfold EventStore.expiryTimer
  dsimp only
  split
  · split_ifs
    · exact hclear.removeEvent e .expired
    · exact hclear
  · exact hclear

theorem failStale_status (cfg : StoreConfig) (now : ℤ) (r : EventRecord P) (u : ℕ) :
    (failStale cfg now r).userStatus.get? u = (r.userStatus.get? u).map fun status =>
      if isStale cfg now r u status then .FAILED else status :=
  OMap.get?_mapVal ..

theorem StoreInv.cleanupStaleDelivered (hs : StoreInv s) (cfg : StoreConfig) (now : ℤ) :
    StoreInv (s.cleanupStaleDelivered cfg now) := by
  constructor
  · intro id r h
    simp only [EventStore.cleanupStaleDelivered, OMap.get?_mapVal] at h
    obtain ⟨r₀, hr₀, rfl⟩ := Option.map_eq_some_iff.1 h
    exact hs.keyed id r₀ hr₀
  · intro u id h
    obtain ⟨r, st, hr, hst⟩ := hs.recipient u id h
    simp only [EventStore.cleanupStaleDelivered, OMap.get?_mapVal, hr, Option.map_some]
    exact ⟨_, _, rfl, by rw [failStale_status, hst]; rfl⟩

theorem StoreInv.cleanupExpiredEvents (hs : StoreInv s) (now : ℤ) :
    StoreInv (s.cleanupExpiredEvents now) :=
  (hs.foldl_removeEvent .expired (s.expiredIds now)).congr rfl rfl

theorem StoreInv.cleanup (hs : StoreInv s) (cfg : StoreConfig) (now : ℤ) :
    StoreInv (s.cleanup cfg now) := by
  have h₂ := (hs.cleanupExpiredEvents now).cleanupStaleDelivered cfg now
  have h₃ : StoreInv (((s.cleanupExpiredEvents now).cleanupStaleDelivered cfg
      now).enforceMemoryLimits cfg) := by
    unfold EventStore.enforceMemoryLimits
    split_ifs
    · exact h₂.forceCleanup cfg
    · exact h₂
  exact h₃.congr rfl rfl

end

/-! ## No operation but `create` adds to the two maps -/

/-- Every record of `s'` is one of `s`, with the same header, and every indexed event of `s'` was
    indexed in `s`. -/
structure NoGrow (s s' : EventStore P) : Prop where
  events : ∀ id r', s'.events.get? id = some r' →
    ∃ r, s.events.get? id = some r ∧ r'.header = r.header
  index : ∀ u id, inIndex s'.userEvents u id → inIndex s.userEvents u id

theorem NoGrow.refl (s : EventStore P) : NoGrow s s := ⟨fun _ r h => ⟨r, h, rfl⟩, fun _ _ h => h⟩

theorem NoGrow.trans {s s' s'' : EventStore P} (h : NoGrow s s') (h' : NoGrow s' s'') :
    NoGrow s s'' where
  events id r'' hr'' := by
    obtain ⟨r', hr', hh'⟩ := h'.events id r'' hr''
    obtain ⟨r, hr, hh⟩ := h.events id r' hr'
    exact ⟨r, hr, hh'.trans hh⟩
  index u id hi := h.index u id (h'.index u id hi)

/-- Only the two maps matter. -/
theorem NoGrow.congr {s s' s'' : EventStore P} (h : NoGrow s s') (he : s''.events = s'.events)
    (hu : s''.userEvents = s'.userEvents) : NoGrow s s'' where
  events := he ▸ h.events
  index := hu ▸ h.index

theorem noGrow_removeEvent (s : EventStore P) (e : String) (reason : RemoveReason) :
    NoGrow s (s.removeEvent e reason) where
  events id r' h := by
    rw [removeEvent_events] at h
    split_ifs at h
    exact ⟨r', h, rfl⟩
  index u id h := ((inIndex_removeEvent ..).1 h).1

theorem noGrow_updateEvent (s : EventStore P) (e : String) {f : EventRecord P → EventRecord P}
    (hf : ∀ r, (f r).header = r.header) : NoGrow s (s.updateEvent e f) where
  events id r' h := by
    rw [updateEvent_events] at h
    split_ifs at h with heq
    · obtain ⟨r, hr, rfl⟩ := Option.map_eq_some_iff.1 h
      exact ⟨r, heq ▸ hr, hf r⟩
    · exact ⟨r', h, rfl⟩
  index _ _ h := h

theorem noGrow_foldl {α : Type} {f : EventStore P → α → EventStore P}
    (hf : ∀ s a, NoGrow s (f s a)) : ∀ (l : List α) (s : EventStore P), NoGrow s (l.foldl f s)
  | [], s => .refl s
  | a :: l, s => (hf s a).trans (noGrow_foldl hf l (f s a))

theorem noGrow_dropForUser (v : ℕ) (s : EventStore P) (e : String) :
    NoGrow s (s.dropForUser v e) := by
  have hindex : NoGrow s { s with userEvents := s.userEvents.modify v (·.remove e) } :=
    ⟨fun _ r h => ⟨r, h, rfl⟩, fun u id h => ((inIndex_modify_remove ..).1 h).1⟩
  have hmid := hindex.trans (noGrow_updateEvent _ e (f := (·.dropUser v)) fun _ => rfl)
  unfold dropForUser
  dsimp only
  split
  · split_ifs
    · exact hmid.trans (noGrow_removeEvent _ e .force)
    · exact hmid
  · exact hmid

theorem noGrow_enforcePerUserLimit (cfg : StoreConfig) (now : ℤ) (s : EventStore P) (v : ℕ) :
    NoGrow s (s.enforcePerUserLimit cfg now v) := by
  unfold enforcePerUserLimit
  split_ifs
  · exact .refl s
  · exact noGrow_foldl (noGrow_dropForUser v) _ s

theorem noGrow_forceCleanup (cfg : StoreConfig) (s : EventStore P) :
    NoGrow s (s.forceCleanup cfg) :=
  noGrow_foldl (fun s e => noGrow_removeEvent s e .force) _ s

theorem noGrow_makeRoom (cfg : StoreConfig) (s : EventStore P) : NoGrow s (s.makeRoom cfg) := by
  unfold makeRoom
  split_ifs
  · exact noGrow_forceCleanup cfg s
  · exact .refl s

theorem noGrow_cleanup (cfg : StoreConfig) (now : ℤ) (s : EventStore P) :
    NoGrow s (s.cleanup cfg now) := by
  have h₁ : NoGrow s (s.cleanupExpiredEvents now) :=
    (noGrow_foldl (fun s e => noGrow_removeEvent s e .expired) (s.expiredIds now) s).congr rfl rfl
  have h₂ : ∀ s : EventStore P, NoGrow s (s.cleanupStaleDelivered cfg now) := fun s => by
    refine ⟨fun id r' h => ?_, fun _ _ h => h⟩
    simp only [cleanupStaleDelivered, OMap.get?_mapVal] at h
    obtain ⟨r, hr, rfl⟩ := Option.map_eq_some_iff.1 h
    exact ⟨r, hr, rfl⟩
  have h₃ : ∀ s : EventStore P, NoGrow s (s.enforceMemoryLimits cfg) := fun s => by
    unfold enforceMemoryLimits
    split_ifs
    · exact noGrow_forceCleanup cfg s
    · exact .refl s
  exact ((h₁.trans (h₂ _)).trans (h₃ _)).congr rfl rfl

/-- An operation that creates nothing adds nothing. -/
theorem apply_noGrow (cfg : StoreConfig) (now : ℤ) (s : EventStore P) {op : StoreOp P}
    (hop : op.issues = []) : NoGrow s (op.apply cfg now s) := by
  cases op with
  | create => cases hop
  | markDelivered v e =>
    simp only [StoreOp.apply, markDelivered]
    split
    · exact .refl s
    · split_ifs
      · exact .refl s
      · exact (noGrow_updateEvent s e (f := fun r =>
          (r.setUserStatus v .DELIVERED).incrementDeliveryAttempt v now) fun _ => rfl).congr rfl rfl
  | markFailed v e error =>
    simp only [StoreOp.apply, markFailed]
    split
    · exact .refl s
    · split_ifs
      · exact .refl s
      · exact (noGrow_updateEvent s e (f := fun r =>
          ((r.setUserStatus v .FAILED).incrementDeliveryAttempt v now).addDeliveryError v error)
            fun _ => rfl).congr rfl rfl
  | markApplied v e =>
    have hset : NoGrow s { s.updateEvent e (·.setUserStatus v .APPLIED) with
        stats := { s.stats with totalEventsApplied := s.stats.totalEventsApplied + 1 } } :=
      (noGrow_updateEvent s e (f := (·.setUserStatus v .APPLIED)) fun _ => rfl).congr rfl rfl
    simp only [StoreOp.apply, markApplied]
    split
    · exact .refl s
    · split_ifs
      · exact hset.trans (noGrow_removeEvent _ e .applied)
      · exact hset
  | expiryTimer e =>
    have htimer : NoGrow s { s with timers := s.timers.delete e } := (NoGrow.refl s).congr rfl rfl
    simp only [StoreOp.apply, expiryTimer]
    split
    · split_ifs
      · exact htimer.trans (noGrow_removeEvent _ e .expired)
      · exact htimer
    · exact htimer
  | cleanup => exact noGrow_cleanup cfg now s

/-- What `create` adds: the new event, to the index sets of its targets. -/
structure GrowsBy (s s' : EventStore P) (record : EventRecord P) (targetIds : List ℕ) :
    Prop where
  events : ∀ id r', s'.events.get? id = some r' →
    (∃ r, s.events.get? id = some r ∧ r'.header = r.header) ∨
      id = record.eventId ∧ r'.header = record.header
  index : ∀ u id, inIndex s'.userEvents u id →
    inIndex s.userEvents u id ∨ id = record.eventId ∧ u ∈ targetIds

theorem create_growsBy (cfg : StoreConfig) (s : EventStore P) (e : String) (targetIds : List ℕ)
    (eventName : String) (payload : P) (qos : QoS) (options : CreateOptions) (now : ℤ) :
    GrowsBy s (s.create cfg e targetIds eventName payload qos options now)
      (newRecord e eventName payload qos options now) targetIds := by
  have hroom := noGrow_makeRoom cfg s
  have hlimits := noGrow_foldl (noGrow_enforcePerUserLimit cfg now) targetIds
    ((s.makeRoom cfg).insertEvent targetIds (newRecord e eventName payload qos options now) now)
  constructor
  · intro id r' h
    rw [create_events] at h
    obtain ⟨r, hr, hh⟩ := hlimits.events id r' h
    simp only [insertEvent, OMap.get?_set] at hr
    split_ifs at hr with hid
    · obtain rfl := Option.some.inj hr
      exact Or.inr ⟨hid, hh.trans (foldl_addTarget_header now targetIds _)⟩
    · obtain ⟨r₀, hr₀, hh₀⟩ := hroom.events id r hr
      exact Or.inl ⟨r₀, hr₀, hh.trans hh₀⟩
  · intro u id h
    rw [create_userEvents] at h
    rcases (inIndex_foldl_addToIndex ..).1 (hlimits.index u id h) with h' | ⟨hu, hid⟩
    · exact Or.inl (hroom.index u id h')
    · exact Or.inr ⟨hid, hu⟩

/-! ## Several operations at one reading of the clock -/

/-- One operation that creates nothing and reports no failure. -/
def Quiet (cfg : StoreConfig) (now : ℤ) (s s' : EventStore P) : Prop :=
  ∃ op : StoreOp P, op.quiet = true ∧ op.enabled ⟨s, now, []⟩ now = true ∧ s' = op.apply cfg now s

/-- Operations that create nothing, one after the other. -/
def Operated (cfg : StoreConfig) (now : ℤ) : EventStore P → EventStore P → Prop :=
  Relation.ReflTransGen (Quiet cfg now)

section
variable {cfg : StoreConfig} {now : ℤ} {s s' : EventStore P}

theorem Operated.noGrow (h : Operated cfg now s s') : NoGrow s s' := by
  induction h with
  | refl => exact .refl s
  | tail _ hop ih =>
    obtain ⟨op, hop, -, rfl⟩ := hop
    exact ih.trans (apply_noGrow cfg now _ (StoreOp.issues_of_quiet hop))

/-- They are a run of the store. -/
theorem Operated.run (h : Operated cfg now s s') {clock : ℤ} (hclock : clock ≤ now)
    (issued : List String) :
    ∃ ops clock', clock' ≤ now ∧
      Run (storeStep cfg) anyStep ⟨s, clock, issued⟩ ops ⟨s', clock', issued⟩ := by
  induction h with
  | refl => exact ⟨[], clock, hclock, .nil⟩
  | @tail t t' _ hop ih =>
    obtain ⟨ops, clock', hle, hrun⟩ := ih
    obtain ⟨op, hop, hen, rfl⟩ := hop
    have hen' : op.enabled ⟨t, clock', issued⟩ now = true := by
      cases op with
      | create => cases hop
      | _ => exact hen
    have hstep : storeStep cfg ⟨t, clock', issued⟩ (now, op) =
        some ⟨op.apply cfg now t, now, issued⟩ := by
      simp [storeStep, hle, hen', StoreOp.issues_of_quiet hop]
    exact ⟨ops ++ [(now, op)], now, le_rfl, hrun.snoc trivial hstep⟩

/-- A fold of operations that need nothing from the environment. -/
theorem operated_foldl {α : Type} {f : EventStore P → α → EventStore P}
    (hf : ∀ s a, Operated cfg now s (f s a)) : ∀ (l : List α) (s : EventStore P),
    Operated cfg now s (l.foldl f s)
  | [], _ => .refl
  | a :: l, s => (hf s a).trans (operated_foldl hf l _)

theorem operated_markDelivered (v : ℕ) (e : String) :
    Operated cfg now s (s.markDelivered v e now) :=
  .single ⟨.markDelivered v e, rfl, rfl, rfl⟩

theorem operated_markApplied (v : ℕ) (e : String) : Operated cfg now s (s.markApplied v e) :=
  .single ⟨.markApplied v e, rfl, rfl, rfl⟩

end

/-! ## Every run -/

/-- The invariant of a run of the store: `StoreInv`, and every stored event was issued, not
    later than now. -/
structure WorldInv (w : StoreWorld P) : Prop where
  store : StoreInv w.store
  issued : ∀ id r, w.store.events.get? id = some r → id ∈ w.issued
  created : ∀ id r, w.store.events.get? id = some r → r.createdAt ≤ w.clock

theorem WorldInv.init (t : ℤ) : WorldInv (StoreWorld.init P t) where
  store := storeInv_empty _
  issued _ _ h := by cases h
  created _ _ h := by cases h

/-- An event id that was not issued is new. -/
theorem WorldInv.fresh {w : StoreWorld P} (hw : WorldInv w) {id : String} (hid : id ∉ w.issued) :
    w.store.events.get? id = none := by
  cases hr : w.store.events.get? id with
  | none => rfl
  | some r => exact absurd (hw.issued id r hr) hid

theorem createdAt_of_header {r r' : EventRecord P} (h : r'.header = r.header) :
    r'.createdAt = r.createdAt := by
  have := congrArg EventRecord.createdAt h
  exact this

theorem eventName_of_header {r r' : EventRecord P} (h : r'.header = r.header) :
    r'.eventName = r.eventName := by
  have := congrArg EventRecord.eventName h
  exact this

/-- What an operation that creates nothing keeps. -/
theorem WorldInv.noGrow {w : StoreWorld P} (hw : WorldInv w) {s' : EventStore P}
    (hs' : StoreInv s') (h : NoGrow w.store s') {now : ℤ} (hclock : w.clock ≤ now)
    {issued : List String} (hissued : w.issued ⊆ issued) : WorldInv ⟨s', now, issued⟩ where
  store := hs'
  issued id r' hr' := by
    obtain ⟨r, hr, -⟩ := h.events id r' hr'
    exact hissued (hw.issued id r hr)
  created id r' hr' := by
    obtain ⟨r, hr, hh⟩ := h.events id r' hr'
    exact (createdAt_of_header hh).le.trans ((hw.created id r hr).trans hclock)

theorem StoreInv.apply {s : EventStore P} (hs : StoreInv s) (cfg : StoreConfig) (now : ℤ)
    {op : StoreOp P} (hnew : ∀ e ∈ op.issues, s.events.get? e = none) :
    StoreInv (op.apply cfg now s) := by
  cases op with
  | create e targetIds eventName payload qos options =>
    exact hs.create cfg e targetIds eventName payload qos options now
      (hnew e (List.mem_singleton_self e))
  | markDelivered v e => exact hs.markDelivered v e now
  | markFailed v e error => exact hs.markFailed v e error now
  | markApplied v e => exact hs.markApplied v e
  | expiryTimer e => exact hs.expiryTimer e now
  | cleanup => exact hs.cleanup cfg now

theorem WorldInv.step {cfg : StoreConfig} {w w' : StoreWorld P} {op : ℤ × StoreOp P}
    (hw : WorldInv w) (h : storeStep cfg w op = some w') : WorldInv w' := by
  obtain ⟨⟨hclock, hen⟩, rfl⟩ := by simpa [storeStep] using h
  obtain ⟨now, op⟩ := op
  by_cases hop : op.issues = []
  · exact hw.noGrow (hw.store.apply cfg now (by simp [hop])) (apply_noGrow cfg now _ hop) hclock
      (List.subset_append_right _ _)
  · cases op with
    | create e targetIds eventName payload qos options =>
      have hnew : e ∉ w.issued := by simpa [StoreOp.enabled] using hen
      have hgrow := create_growsBy cfg w.store e targetIds eventName payload qos options now
      refine ⟨hw.store.create cfg e targetIds eventName payload qos options now (hw.fresh hnew),
        fun id r' hr' => ?_, fun id r' hr' => ?_⟩
      · rcases hgrow.events id r' hr' with ⟨r, hr, -⟩ | ⟨hid, -⟩
        · exact List.mem_append_right _ (hw.issued id r hr)
        · exact List.mem_append_left _ (by simp [StoreOp.issues, hid, newRecord])
      · rcases hgrow.events id r' hr' with ⟨r, hr, hh⟩ | ⟨-, hh⟩
        · exact (createdAt_of_header hh).le.trans ((hw.created id r hr).trans hclock)
        · exact (createdAt_of_header hh).le
    | _ => exact absurd rfl hop

/-- **The store stays consistent.**  After every run, records are stored under their ids, every
    indexed event has a record that lists the user among its recipients, and every record was
    created with an issued id, not later than now. -/
theorem worldInv_run {cfg : StoreConfig} {ok : StoreWorld P → ℤ × StoreOp P → Prop} {t : ℤ}
    {ops : List (ℤ × StoreOp P)} {w : StoreWorld P}
    (h : Run (storeStep cfg) ok (StoreWorld.init P t) ops w) : WorldInv w :=
  h.inv (WorldInv.init t) fun _ _ _ hw _ hst => hw.step hst

end EventStore

end GatewayRealtime
