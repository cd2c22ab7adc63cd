/-
  A new event and the limits that its creation enforces.

  * `Newest`: the new event is the last one of every index set that holds it, no record is
    younger, and no recipient has applied it.
  * `enforcePerUserLimit_keeps`: as long as a user may have one event, enforcing the limit of a
    user drops other events only.
  * `create_indexed_iff`: after `create` the event is indexed for its targets, unless users may
    have no events at all.
-/
import GatewayRealtime.EventStoreInv
import GatewayRealtime.Lib.StableSort

namespace GatewayRealtime

/-! ## Slices -/

section
variable {α : Type}

theorem sliceTo_subset (l : List α) (stop : ℤ) : sliceTo l stop ⊆ l := by
  unfold sliceTo
  split_ifs <;> exact List.take_subset _ l

theorem sliceTo_length (l : List α) : sliceTo l (l.length - (0 : ℕ)) = l := by
  have hnonneg : ¬ (l.length : ℤ) - (0 : ℕ) < 0 := by omega
  rw [sliceTo, if_neg hnonneg]
  simp

/-- A slice that ends before a positive number of elements leaves out the last one. -/
theorem sliceTo_concat {l : List α} {x : α} {max : ℕ} (hmax : 0 < max) :
    sliceTo (l ++ [x]) ((l ++ [x]).length - max) ⊆ l := by
  have hle : ∀ n, n ≤ l.length → (l ++ [x]).take n ⊆ l := fun n hn => by
    rw [List.take_append_of_le_length hn]
    exact List.take_subset n l
  unfold sliceTo
  split_ifs <;> refine hle _ ?_ <;> rw [List.length_append, List.length_singleton] at * <;> omega

end

namespace EventStore

variable {P : Type} {s : EventStore P} {record : EventRecord P} {now : ℤ} {cfg : StoreConfig}

/-! ## The newest event -/

/-- The event of `record` is new: the last one of every index set that holds it, no younger than
    any record, and applied by no recipient. -/
structure Newest (record : EventRecord P) (s : EventStore P) : Prop where
  inv : StoreInv s
  unapplied : ∀ r, s.events.get? record.eventId = some r →
    r.header = record.header ∧ ∀ u, r.userStatus.get? u ≠ some .APPLIED
  created : ∀ id r, s.events.get? id = some r → r.createdAt ≤ record.createdAt
  last : ∀ v, inIndex s.userEvents v record.eventId → ∃ l, s.indexed v = l ++ [record.eventId]

/-- Dropping an event for a user touches no other index set. -/
theorem dropForUser_userEvents (s : EventStore P) (v : ℕ) (e : String) :
    (s.dropForUser v e).userEvents = s.userEvents.modify v (·.remove e) := by
  unfold dropForUser
  dsimp only
  split
  · rename_i event hevent
    split_ifs with hsize
    · -- nobody is left to take the event from
      have hkeys : event.userStatus.keys = [] := by
        rw [← List.length_eq_zero_iff, ← OMap.size_eq_keys]
        exact hsize
      unfold removeEvent
      rw [hevent]
      simp [hkeys, updateEvent]
    · rfl
  · rfl

/-- A record that is there after a drop has at most lost the user. -/
theorem dropForUser_events {v : ℕ} {e id : String} {r' : EventRecord P}
    (h : (s.dropForUser v e).events.get? id = some r') :
    ∃ r, s.events.get? id = some r ∧ (r' = r ∨ r' = r.dropUser v) := by
  have hmid : ∀ {r'}, (EventStore.updateEvent
      { s with userEvents := s.userEvents.modify v (·.remove e) } e (·.dropUser v)).events.get? id =
        some r' → ∃ r, s.events.get? id = some r ∧ (r' = r ∨ r' = r.dropUser v) := by
    intro r' h
    rw [updateEvent_events] at h
    split_ifs at h with heq
    · obtain ⟨r, hr, rfl⟩ := Option.map_eq_some_iff.1 h
      exact ⟨r, heq ▸ hr, Or.inr rfl⟩
    · exact ⟨r', h, Or.inl rfl⟩
  unfold dropForUser at h
  dsimp only at h
  split at h
  · split_ifs at h
    · rw [removeEvent_events] at h
      split_ifs at h
      exact hmid h
    · exact hmid h
  · exact hmid h

theorem Newest.dropForUser (hn : Newest record s) (v : ℕ) (e : String) :
    Newest record (s.dropForUser v e) where
  inv := hn.inv.dropForUser v e
  unapplied r' hr' := by
    obtain ⟨r, hr, rfl | rfl⟩ := dropForUser_events hr'
    · exact hn.unapplied r' hr
    · obtain ⟨hheader, hstatus⟩ := hn.unapplied r hr
      refine ⟨hheader, fun u => ?_⟩
      rw [EventRecord.dropUser_userStatus, OMap.get?_delete]
      split_ifs
      · simp
      · exact hstatus u
  created id r' hr' := by
    obtain ⟨r, hr, rfl | rfl⟩ := dropForUser_events hr'
    · exact hn.created id r' hr
    · exact hn.created id r hr
  last u hu := by
    rw [dropForUser_userEvents, inIndex_modify_remove] at hu
    obtain ⟨l, hl⟩ := hn.last u hu.1
    rw [indexed, dropForUser_userEvents, OMap.get?_modify]
    split_ifs with heq
    · subst heq
      have hne : record.eventId ≠ e := fun h => hu.2 ⟨rfl, h⟩
      refine ⟨l.filter (· ≠ e), ?_⟩
      rw [indexed] at hl
      cases hset : s.userEvents.get? u with
      | none => simp [hset] at hl
      | some set =>
        have helems : set.elems = l ++ [record.eventId] := by simpa [hset] using hl
        simp [OSet.remove, helems, hne]
    · exact ⟨l, hl⟩

theorem Newest.foldl_dropForUser (v : ℕ) : ∀ (ids : List String) {s : EventStore P},
    Newest record s → Newest record (ids.foldl (EventStore.dropForUser v) s)
  | [], _, hn => hn
  | id :: ids, _, hn => Newest.foldl_dropForUser v ids (hn.dropForUser v id)

theorem Newest.enforcePerUserLimit (hn : Newest record s) (v : ℕ) :
    Newest record (s.enforcePerUserLimit cfg now v) := by
  unfold EventStore.enforcePerUserLimit
  split_ifs
  · exact hn
  · exact hn.foldl_dropForUser v _

/-- An event that is not dropped stays indexed. -/
theorem inIndex_foldl_dropForUser {u v : ℕ} {id : String} : ∀ {ids : List String}
    {s : EventStore P}, id ∉ ids → inIndex s.userEvents u id →
    inIndex (ids.foldl (dropForUser v) s).userEvents u id
  | [], _, _, h => h
  | e :: ids, s, hid, h => by
    rw [List.mem_cons, not_or] at hid
    rw [List.foldl_cons]
    refine inIndex_foldl_dropForUser hid.2 ?_
    rw [dropForUser_userEvents, inIndex_modify_remove]
    exact ⟨h, fun h' => hid.1 h'.2⟩

/-- An event that is dropped for a user is not indexed for it any more. -/
theorem not_inIndex_foldl_dropForUser {v : ℕ} {id : String} : ∀ {ids : List String}
    {s : EventStore P}, id ∈ ids → ¬ inIndex (ids.foldl (dropForUser v) s).userEvents v id
  | e :: ids, s, hid, h => by
    rcases List.mem_cons.1 hid with rfl | hid
    · have hdropped := (noGrow_foldl (noGrow_dropForUser v) ids (s.dropForUser v id)).index v id h
      rw [dropForUser_userEvents, inIndex_modify_remove] at hdropped
      exact hdropped.2 ⟨rfl, rfl⟩
    · exact not_inIndex_foldl_dropForUser hid h

/-- The records pending for a user that the new event is stored for: the new one comes last, in
    the order of the index and in that of the sort. -/
theorem Newest.pendingRecords (hn : Newest record s) {v : ℕ}
    (hv : inIndex s.userEvents v record.eventId) (hexp : record.isExpired now = false) :
    ∃ l r, r.eventId = record.eventId ∧ (∀ a ∈ l, a.eventId ≠ record.eventId) ∧
      (s.pendingRecords v now).insertionSort EventRecord.before = l ++ [r] := by
  obtain ⟨l, hl⟩ := hn.last v hv
  obtain ⟨r, st, hr, hst⟩ := hn.inv.recipient v _ hv
  obtain ⟨hheader, hstatus⟩ := hn.unapplied r hr
  have hpending : r.isPending v now = true := by
    have hexp' : r.isExpired now = false := by
      rw [← r.header_isExpired, hheader, record.header_isExpired, hexp]
    have hne : st ≠ .APPLIED := fun h => hstatus v (h ▸ hst)
    simp [EventRecord.isPending, EventRecord.getUserStatus, hst, hexp', hne]
  have hnodup : record.eventId ∉ l := by
    obtain ⟨set, hset, -⟩ := hv
    have hnd := set.nodup
    have helems : set.elems = l ++ [record.eventId] := by simpa [indexed, hset] using hl
    rw [helems, List.nodup_append] at hnd
    exact fun hmem => hnd.2.2 _ hmem _ (List.mem_singleton_self _) rfl
  have hsplit : s.pendingRecords v now =
      (l.filterMap s.events.get?).filter (·.isPending v now) ++ [r] := by
    simp [EventStore.pendingRecords, hl, hr, hpending]
  refine ⟨((l.filterMap s.events.get?).filter (·.isPending v now)).insertionSort
    EventRecord.before, r, hn.inv.keyed _ r hr, fun a ha => ?_, ?_⟩
  · rw [List.mem_insertionSort, List.mem_filter, List.mem_filterMap] at ha
    obtain ⟨⟨id, hid, ha⟩, -⟩ := ha
    rw [hn.inv.keyed id a ha]
    exact fun h => hnodup (h ▸ hid)
  · rw [hsplit]
    refine insertionSort_concat fun a ha => ?_
    obtain ⟨⟨id, -, ha⟩, -⟩ := (by simpa [List.mem_filterMap] using ha :
      (∃ id ∈ l, s.events.get? id = some a) ∧ a.isPending v now = true)
    have hcreated := hn.created id a ha
    rwa [← createdAt_of_header hheader] at hcreated

/-- **The limit of a user spares the newest event**, as long as a user may have one at all. -/
theorem enforcePerUserLimit_keeps (hn : Newest record s) (hexp : record.isExpired now = false)
    (hmax : 0 < cfg.MAX_EVENTS_PER_USER) (u v : ℕ) (hu : inIndex s.userEvents u record.eventId) :
    inIndex (s.enforcePerUserLimit cfg now v).userEvents u record.eventId := by
  unfold enforcePerUserLimit
  split_ifs
  · exact hu
  · refine inIndex_foldl_dropForUser (fun hmem => ?_) hu
    obtain ⟨a, ha, haid⟩ := List.mem_map.1 hmem
    by_cases hv : inIndex s.userEvents v record.eventId
    · obtain ⟨l, r, -, hne, hsort⟩ := hn.pendingRecords hv hexp
      rw [hsort] at ha
      exact hne a (sliceTo_concat hmax ha) haid
    · -- only events that are indexed for `v` are dropped for it
      have hpending : a ∈ s.pendingRecords v now :=
        (List.mem_insertionSort _).1 (sliceTo_subset _ _ ha)
      obtain ⟨id, hid, hget⟩ := List.mem_filterMap.1 (List.mem_filter.1 hpending).1
      rw [hn.inv.keyed id a hget] at haid
      exact hv ((mem_indexed s v _).1 (haid ▸ hid))

/-- If users may have no events, the newest event is dropped as well. -/
theorem enforcePerUserLimit_zero (hn : Newest record s) (hexp : record.isExpired now = false)
    (hmax : cfg.MAX_EVENTS_PER_USER = 0) (v : ℕ) :
    ¬ inIndex (s.enforcePerUserLimit cfg now v).userEvents v record.eventId := by
  intro hafter
  have hv := (noGrow_enforcePerUserLimit cfg now s v).index v _ hafter
  obtain ⟨l, r, hid, -, hsort⟩ := hn.pendingRecords hv hexp
  have hindexed : (s.indexed v).length ≠ 0 := by
    intro h
    have hmem := (mem_indexed s v _).2 hv
    rw [List.length_eq_zero_iff.1 h] at hmem
    cases hmem
  unfold enforcePerUserLimit at hafter
  rw [hmax, if_neg (by omega)] at hafter
  refine not_inIndex_foldl_dropForUser ?_ hafter
  rw [hsort]
  rw [sliceTo_length]
  exact List.mem_map.2 ⟨r, by simp, hid⟩

theorem foldl_enforcePerUserLimit_keeps (hexp : record.isExpired now = false)
    (hmax : 0 < cfg.MAX_EVENTS_PER_USER) (u : ℕ) : ∀ (vs : List ℕ) {s : EventStore P},
    Newest record s → inIndex s.userEvents u record.eventId →
    inIndex (vs.foldl (enforcePerUserLimit cfg now) s).userEvents u record.eventId
  | [], _, _, hu => hu
  | v :: vs, _, hn, hu => foldl_enforcePerUserLimit_keeps hexp hmax u vs
      (hn.enforcePerUserLimit v) (enforcePerUserLimit_keeps hn hexp hmax u v hu)

theorem foldl_enforcePerUserLimit_zero (hexp : record.isExpired now = false)
    (hmax : cfg.MAX_EVENTS_PER_USER = 0) {u : ℕ} : ∀ {vs : List ℕ} {s : EventStore P},
    Newest record s → u ∈ vs →
    ¬ inIndex (vs.foldl (enforcePerUserLimit cfg now) s).userEvents u record.eventId
  | v :: vs, s, hn, hu, hafter => by
    rcases List.mem_cons.1 hu with rfl | hu
    · exact enforcePerUserLimit_zero hn hexp hmax u
        ((noGrow_foldl (noGrow_enforcePerUserLimit cfg now) vs _).index u _ hafter)
    · exact foldl_enforcePerUserLimit_zero hexp hmax (hn.enforcePerUserLimit v) hu hafter

/-! ## Creation -/

/-- An id that is added comes last, unless it was there. -/
theorem last_foldl_addToIndex {e : String} : ∀ (targetIds : List ℕ) {index : OMap ℕ (OSet String)},
    (∀ u, inIndex index u e → ∃ l, ((index.get? u).map OSet.elems).getD [] = l ++ [e]) →
    ∀ u, inIndex (targetIds.foldl (addToIndex e) index) u e →
      ∃ l, (((targetIds.foldl (addToIndex e) index).get? u).map OSet.elems).getD [] = l ++ [e]
  | [], _, h => h
  | v :: vs, index, h => by
    refine last_foldl_addToIndex vs fun u hu => ?_
    rw [addToIndex, OMap.get?_set]
    split_ifs with heq
    · subst heq
      cases hset : index.get? u with
      | none => exact ⟨[], rfl⟩
      | some set =>
        by_cases hmem : e ∈ set.elems
        · obtain ⟨l, hl⟩ := h u ⟨set, hset, hmem⟩
          exact ⟨l, by simpa [OSet.add, hmem, hset] using hl⟩
        · exact ⟨set.elems, by simp [OSet.add, hmem]⟩
    · exact h u (by simpa [inIndex, addToIndex, heq] using hu)

theorem newest_insertEvent (hs : StoreInv s) (targetIds : List ℕ)
    (hnew : s.events.get? record.eventId = none) (hstatus : record.userStatus = .empty)
    (hcreated : ∀ id r, s.events.get? id = some r → r.createdAt ≤ record.createdAt) :
    Newest record (s.insertEvent targetIds record now) where
  inv := hs.insertEvent targetIds record now hnew
  unapplied r hr := by
    have hr' : targetIds.foldl (addTarget now) record = r := by
      simpa [insertEvent] using hr
    rw [← hr']
    refine ⟨foldl_addTarget_header now targetIds record, fun u => ?_⟩
    rw [foldl_addTarget_status, hstatus]
    split_ifs <;> simp
  created id r hr := by
    simp only [insertEvent, OMap.get?_set] at hr
    split_ifs at hr
    · cases hr
      exact (createdAt_of_header (foldl_addTarget_header now targetIds record)).le
    · exact hcreated id r hr
  last u hu := by
    refine last_foldl_addToIndex targetIds (fun u hu => ?_) u hu
    obtain ⟨r, -, hr, -⟩ := hs.recipient u _ hu
    rw [hnew] at hr
    cases hr

/-- **Creation.**  The new event is indexed for exactly its targets; if users may have no
    events at all, for nobody. -/
theorem create_indexed_iff (cfg : StoreConfig) {e : String} (targetIds : List ℕ)
    (eventName : String) (payload : P) (qos : QoS) (options : CreateOptions) (hs : StoreInv s)
    (hnew : s.events.get? e = none)
    (hcreated : ∀ id r, s.events.get? id = some r → r.createdAt ≤ now)
    (httl : ∀ t, options.ttl = some t → 0 ≤ t) (u : ℕ) :
    inIndex (s.create cfg e targetIds eventName payload qos options now).userEvents u e ↔
      u ∈ targetIds ∧ 0 < cfg.MAX_EVENTS_PER_USER := by
  let record := newRecord e eventName payload qos options now
  have hexp : record.isExpired now = false := by
    cases ht : options.ttl with
    | none => simp [record, newRecord, EventRecord.isExpired, ht, truthy]
    | some t =>
      have h0 := httl t ht
      by_cases hz : t = 0
      · simp [record, newRecord, EventRecord.isExpired, ht, truthy, hz]
      · have hlt : ¬ now + t < now := by omega
        simp [record, newRecord, EventRecord.isExpired, ht, truthy, hz, hlt]
  have hroom := noGrow_makeRoom cfg s
  have hinserted : Newest record ((s.makeRoom cfg).insertEvent targetIds record now) :=
    newest_insertEvent (hs.makeRoom cfg) targetIds (makeRoom_events_none cfg hnew) rfl
      fun id r hr => by
        obtain ⟨r₀, hr₀, hheader⟩ := hroom.events id r hr
        exact (createdAt_of_header hheader).le.trans (hcreated id r₀ hr₀)
  have hindexed : inIndex ((s.makeRoom cfg).insertEvent targetIds record now).userEvents u e ↔
      u ∈ targetIds := by
    refine (inIndex_foldl_addToIndex ..).trans ⟨?_, fun hu => Or.inr ⟨hu, rfl⟩⟩
    rintro (h | h)
    · obtain ⟨r, -, hr, -⟩ := (hs.makeRoom cfg).recipient u e h
      rw [makeRoom_events_none cfg hnew] at hr
      cases hr
    · exact h.1
  rw [create_userEvents, createCore]
  constructor
  · intro hafter
    have hu := hindexed.1 ((noGrow_foldl (noGrow_enforcePerUserLimit cfg now) targetIds _).index u e
      hafter)
    refine ⟨hu, Nat.pos_of_ne_zero fun hmax => ?_⟩
    exact foldl_enforcePerUserLimit_zero hexp hmax hinserted hu hafter
  · rintro ⟨hu, hmax⟩
    exact foldl_enforcePerUserLimit_keeps hexp hmax u targetIds hinserted (hindexed.2 hu)

end EventStore

end GatewayRealtime
