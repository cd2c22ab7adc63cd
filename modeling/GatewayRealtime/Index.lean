/-
  The two maps of the event store describe one relation.

  * `Recipient`: a user is a recipient of a stored event, as the record says.
  * `IndexConsistent`: the index sets say the same, and none is empty.
  * `IndexConsistent.step`: every operation keeps it, except a mark for a user that is no
    recipient: `markDelivered`, `markFailed` and `markApplied` write the status of any user.
  * `indexConsistent_iff`: a run is consistent throughout iff it has no such mark.
-/
import GatewayRealtime.Create

namespace GatewayRealtime

namespace EventStore

variable {P : Type}

/-- The record of `id` has a status for `u`. -/
def Recipient (s : EventStore P) (u : ℕ) (id : String) : Prop :=
  ∃ r st, s.events.get? id = some r ∧ r.userStatus.get? u = some st

/-- The index sets and the records describe one relation, and no index set is empty. -/
structure IndexConsistent (s : EventStore P) : Prop where
  index : ∀ u id, inIndex s.userEvents u id ↔ Recipient s u id
  nonempty : ∀ u set, s.userEvents.get? u = some set → ∃ id, id ∈ set

section
variable {s : EventStore P}

theorem recipient_iff_of_get? {e : String} {r : EventRecord P} (hr : s.events.get? e = some r)
    (u : ℕ) : Recipient s u e ↔ u ∈ r.userStatus.keys := by
  simp only [Recipient, hr, Option.some.injEq, exists_and_left, exists_eq_left', OMap.mem_keys]

/-! ## What each step does to the relation -/

theorem recipient_removeEvent (e : String) (reason : RemoveReason) (u : ℕ) (id : String) :
    Recipient (s.removeEvent e reason) u id ↔ Recipient s u id ∧ id ≠ e := by
  unfold Recipient
  rw [removeEvent_events]
  split_ifs with hid <;> simp [hid]

theorem recipient_updateEvent_ne (e : String) (f : EventRecord P → EventRecord P) (u : ℕ)
    {id : String} (hid : id ≠ e) : Recipient (s.updateEvent e f) u id ↔ Recipient s u id := by
  unfold Recipient
  rw [updateEvent_events, if_neg hid]

theorem recipient_updateEvent (e : String) (f : EventRecord P → EventRecord P) (u : ℕ) :
    Recipient (s.updateEvent e f) u e ↔
      ∃ r st, s.events.get? e = some r ∧ (f r).userStatus.get? u = some st := by
  unfold Recipient
  simp only [updateEvent_events, if_true, Option.map_eq_some_iff]
  constructor
  · rintro ⟨_, st, ⟨r, hr, rfl⟩, hst⟩
    exact ⟨r, st, hr, hst⟩
  · rintro ⟨r, st, hr, hst⟩
    exact ⟨f r, st, ⟨r, hr, rfl⟩, hst⟩

/-- Writing the status of `v` makes `v` a recipient of a stored event. -/
theorem recipient_setStatus (e : String) (v : ℕ) (status : TypeEventStatus)
    {f : EventRecord P → EventRecord P}
    (hf : ∀ r, (f r).userStatus = r.userStatus.set v status) (u : ℕ) (id : String) :
    Recipient (s.updateEvent e f) u id ↔
      Recipient s u id ∨ (id = e ∧ u = v ∧ ∃ r, s.events.get? e = some r) := by
  by_cases hid : id = e
  · subst hid
    rw [recipient_updateEvent]
    by_cases huv : u = v
    · subst huv
      cases hr : s.events.get? id <;> simp [Recipient, hf, hr]
    · simp [Recipient, hf, huv]
  · simp [recipient_updateEvent_ne e f u hid, hid]

theorem recipient_dropUser (e : String) (v u : ℕ) (id : String) :
    Recipient (s.updateEvent e (·.dropUser v)) u id ↔
      Recipient s u id ∧ ¬ (u = v ∧ id = e) := by
  by_cases hid : id = e
  · subst hid
    rw [recipient_updateEvent]
    by_cases huv : u = v <;> simp [Recipient, huv]
  · simp [recipient_updateEvent_ne e _ u hid, hid]

theorem recipient_dropForUser (v : ℕ) (e : String) (u : ℕ) (id : String) :
    Recipient (s.dropForUser v e) u id ↔ Recipient s u id ∧ ¬ (u = v ∧ id = e) := by
  have hmid : Recipient (EventStore.updateEvent
      { s with userEvents := s.userEvents.modify v (·.remove e) } e (·.dropUser v)) u id ↔
        Recipient s u id ∧ ¬ (u = v ∧ id = e) :=
    recipient_dropUser e v u id
  unfold dropForUser
  dsimp only
  split
  · rename_i event hevent
    split_ifs with hsize
    · -- the record goes with its last recipient
      rw [recipient_removeEvent, hmid, and_iff_left_iff_imp]
      rintro h rfl
      have hu := (recipient_iff_of_get? hevent u).1 (hmid.2 h)
      rw [OMap.size_eq_keys, List.length_eq_zero_iff] at hsize
      rw [hsize] at hu
      cases hu
    · exact hmid
  · exact hmid

theorem recipient_insertEvent {record : EventRecord P} (hempty : record.userStatus = .empty)
    (hnew : s.events.get? record.eventId = none) (targetIds : List ℕ) (now : ℤ) (u : ℕ)
    (id : String) :
    Recipient (s.insertEvent targetIds record now) u id ↔
      Recipient s u id ∨ (u ∈ targetIds ∧ id = record.eventId) := by
  unfold Recipient
  simp only [insertEvent, OMap.get?_set]
  split_ifs with hid
  · subst hid
    simp [hnew, foldl_addTarget_status, hempty]
  · simp [hid]

/-! ## Index sets stay nonempty -/

/-- No index set is empty. -/
def NoEmptySet (index : OMap ℕ (OSet String)) : Prop :=
  ∀ u set, index.get? u = some set → ∃ id, id ∈ set

theorem NoEmptySet.unindex {index : OMap ℕ (OSet String)} (h : NoEmptySet index) (e : String)
    (v : ℕ) : NoEmptySet (EventStore.unindex e index v) := by
  unfold EventStore.unindex
  split
  · exact h
  · intro u set hset
    split_ifs at hset with hsize
    · rw [OMap.get?_delete] at hset
      split_ifs at hset
      exact h u set hset
    · rw [OMap.get?_set] at hset
      split_ifs at hset
      · cases hset
        simpa using mt (OSet.size_eq_zero _).2 hsize
      · exact h u set hset

theorem NoEmptySet.foldl_unindex (e : String) : ∀ (vs : List ℕ) {index : OMap ℕ (OSet String)},
    NoEmptySet index → NoEmptySet (vs.foldl (EventStore.unindex e) index)
  | [], _, h => h
  | v :: vs, _, h => NoEmptySet.foldl_unindex e vs (h.unindex e v)

theorem NoEmptySet.foldl_addToIndex (e : String) : ∀ (vs : List ℕ)
    {index : OMap ℕ (OSet String)}, NoEmptySet index →
    NoEmptySet (vs.foldl (EventStore.addToIndex e) index)
  | [], _, h => h
  | v :: vs, index, h => by
    refine NoEmptySet.foldl_addToIndex e vs fun u set hset => ?_
    rw [addToIndex, OMap.get?_set] at hset
    split_ifs at hset
    · cases hset
      exact ⟨e, by simp⟩
    · exact h u set hset

/-- The limit of a user drops fewer events than the index set of the user holds. -/
theorem sliceTo_length_lt {α : Type} {l : List α} {n max : ℕ} (hmax : 0 < max) (hn : max < n)
    (hl : l.length ≤ n) : (sliceTo l (l.length - max)).length < n := by
  unfold sliceTo
  split_ifs <;> rw [List.length_take] <;> omega

/-- A list with more elements than another has one that the other has not. -/
theorem exists_notMem_of_length_lt {α : Type} {l l' : List α} (hnd : l.Nodup)
    (hlt : l'.length < l.length) : ∃ a ∈ l, a ∉ l' := by
  by_contra hsub
  simp only [not_exists, not_and, not_not] at hsub
  exact absurd (List.subperm_of_subset hnd hsub).length_le (by omega)

theorem foldl_dropForUser_get? {u v : ℕ} (huv : u ≠ v) : ∀ (ids : List String)
    (s : EventStore P), (ids.foldl (EventStore.dropForUser v) s).userEvents.get? u =
      s.userEvents.get? u
  | [], _ => rfl
  | e :: ids, s => by
    rw [List.foldl_cons, foldl_dropForUser_get? huv ids, dropForUser_userEvents, OMap.get?_modify,
      if_neg huv]

/-- Dropping fewer events than the index set of a user holds leaves one in it. -/
theorem NoEmptySet.foldl_dropForUser {v : ℕ} {ids : List String} (h : NoEmptySet s.userEvents)
    (hlt : ids.length < (s.indexed v).length) :
    NoEmptySet (ids.foldl (EventStore.dropForUser v) s).userEvents := by
  intro u set hset
  by_cases huv : u = v
  · subst huv
    obtain ⟨id, hid, hkept⟩ := exists_notMem_of_length_lt (nodup_indexed s u) hlt
    obtain ⟨set', hset', hmem⟩ := inIndex_foldl_dropForUser hkept ((mem_indexed s u id).1 hid)
      (v := u)
    obtain rfl : set' = set := Option.some.inj (hset'.symm.trans hset)
    exact ⟨id, hmem⟩
  · exact h u set ((foldl_dropForUser_get? huv ids s).symm.trans hset)

/-! ## The operations keep the two maps in step -/

theorem indexConsistent_empty (stats : StoreStats) :
    IndexConsistent ({ stats := stats } : EventStore P) where
  index u id := by simp [inIndex, Recipient]
  nonempty u set h := by simp at h

/-- The counters, timers and emissions are not part of the two maps. -/
theorem IndexConsistent.congr {s' : EventStore P} (h : IndexConsistent s)
    (he : s'.events = s.events) (hu : s'.userEvents = s.userEvents) : IndexConsistent s' where
  index u id := by rw [hu, Recipient, he]; exact h.index u id
  nonempty := by rw [hu]; exact h.nonempty

/-- A removal repairs what is wrong about the event that is removed, as long as its index entries
    are those of recipients. -/
theorem indexConsistent_removeEvent {e : String} (reason : RemoveReason)
    (hother : ∀ u id, id ≠ e → (inIndex s.userEvents u id ↔ Recipient s u id))
    (he : ∀ u, inIndex s.userEvents u e → Recipient s u e)
    (hnonempty : NoEmptySet s.userEvents) : IndexConsistent (s.removeEvent e reason) where
  index u id := by
    rw [inIndex_removeEvent, recipient_removeEvent]
    by_cases hid : id = e
    · subst hid
      simpa [Recipient] using he u
    · simp [hid, hother u id hid]
  nonempty := by
    unfold EventStore.removeEvent
    split
    · exact hnonempty
    · exact NoEmptySet.foldl_unindex e _ hnonempty

theorem IndexConsistent.removeEvent (h : IndexConsistent s) (e : String) (reason : RemoveReason) :
    IndexConsistent (s.removeEvent e reason) :=
  indexConsistent_removeEvent reason (fun u id _ => h.index u id) (fun u => (h.index u e).1)
    h.nonempty

theorem IndexConsistent.foldl_removeEvent (reason : RemoveReason) : ∀ (ids : List String)
    {s : EventStore P}, IndexConsistent s →
    IndexConsistent (ids.foldl (fun s id => EventStore.removeEvent s id reason) s)
  | [], _, h => h
  | id :: ids, _, h => IndexConsistent.foldl_removeEvent reason ids (h.removeEvent id reason)

theorem IndexConsistent.makeRoom (h : IndexConsistent s) (cfg : StoreConfig) :
    IndexConsistent (s.makeRoom cfg) := by
  unfold EventStore.makeRoom
  split_ifs
  · exact h.foldl_removeEvent .force _
  · exact h

theorem IndexConsistent.insertEvent (h : IndexConsistent s) {record : EventRecord P}
    (hempty : record.userStatus = .empty) (hnew : s.events.get? record.eventId = none)
    (targetIds : List ℕ) (now : ℤ) : IndexConsistent (s.insertEvent targetIds record now) where
  index u id := by
    rw [recipient_insertEvent hempty hnew, ← h.index]
    exact inIndex_foldl_addToIndex ..
  nonempty := NoEmptySet.foldl_addToIndex _ targetIds h.nonempty

theorem dropForUser_index (hs : ∀ u id, inIndex s.userEvents u id ↔ Recipient s u id) (v : ℕ)
    (e : String) (u : ℕ) (id : String) :
    inIndex (s.dropForUser v e).userEvents u id ↔ Recipient (s.dropForUser v e) u id := by
  rw [dropForUser_userEvents, inIndex_modify_remove, recipient_dropForUser, hs]

theorem foldl_dropForUser_index (v : ℕ) : ∀ (ids : List String) {s : EventStore P},
    (∀ u id, inIndex s.userEvents u id ↔ Recipient s u id) → ∀ u id,
    inIndex (ids.foldl (EventStore.dropForUser v) s).userEvents u id ↔
      Recipient (ids.foldl (EventStore.dropForUser v) s) u id
  | [], _, h => h
  | e :: ids, _, h => foldl_dropForUser_index v ids (dropForUser_index h v e)

theorem length_pendingRecords_le (s : EventStore P) (v : ℕ) (now : ℤ) :
    (s.pendingRecords v now).length ≤ (s.indexed v).length :=
  (List.length_filter_le _ _).trans (List.length_filterMap_le _ _)

theorem IndexConsistent.enforcePerUserLimit (h : IndexConsistent s) {cfg : StoreConfig}
    (hmax : 0 < cfg.MAX_EVENTS_PER_USER) (now : ℤ) (v : ℕ) :
    IndexConsistent (s.enforcePerUserLimit cfg now v) := by
  unfold EventStore.enforcePerUserLimit
  split_ifs with hle
  · exact h
  · refine ⟨foldl_dropForUser_index v _ h.index, NoEmptySet.foldl_dropForUser h.nonempty ?_⟩
    rw [List.length_map]
    refine sliceTo_length_lt hmax (not_le.1 hle) ?_
    rw [List.length_insertionSort]
    exact length_pendingRecords_le s v now

theorem IndexConsistent.foldl_enforcePerUserLimit {cfg : StoreConfig}
    (hmax : 0 < cfg.MAX_EVENTS_PER_USER) (now : ℤ) : ∀ (vs : List ℕ) {s : EventStore P},
    IndexConsistent s → IndexConsistent (vs.foldl (EventStore.enforcePerUserLimit cfg now) s)
  | [], _, h => h
  | v :: vs, _, h =>
    IndexConsistent.foldl_enforcePerUserLimit hmax now vs (h.enforcePerUserLimit hmax now v)

theorem IndexConsistent.create (h : IndexConsistent s) {cfg : StoreConfig}
    (hmax : 0 < cfg.MAX_EVENTS_PER_USER) {e : String} (hnew : s.events.get? e = none)
    (targetIds : List ℕ) (eventName : String) (payload : P) (qos : QoS) (options : CreateOptions)
    (now : ℤ) :
    IndexConsistent (s.create cfg e targetIds eventName payload qos options now) := by
  have hcore : IndexConsistent (createCore cfg e targetIds eventName payload qos options now s) :=
    IndexConsistent.foldl_enforcePerUserLimit hmax now targetIds
      ((h.makeRoom cfg).insertEvent rfl (makeRoom_events_none cfg hnew) targetIds now)
  exact hcore.congr (create_events ..) (create_userEvents ..)

theorem IndexConsistent.expiryTimer (h : IndexConsistent s) (e : String) (now : ℤ) :
    IndexConsistent (s.expiryTimer e now) := by
  have hclear : IndexConsistent { s with timers := s.timers.delete e } := h.congr rfl rfl
  unfold EventStore.expiryTimer
  dsimp only
  split
  · split_ifs
    · exact hclear.removeEvent e .expired
    · exact hclear
  · exact hclear

theorem recipient_cleanupStaleDelivered (cfg : StoreConfig) (now : ℤ) (u : ℕ) (id : String) :
    Recipient (s.cleanupStaleDelivered cfg now) u id ↔ Recipient s u id := by
  unfold Recipient
  simp only [cleanupStaleDelivered, OMap.get?_mapVal]
  cases s.events.get? id <;> simp [failStale_status]

theorem IndexConsistent.cleanup (h : IndexConsistent s) (cfg : StoreConfig) (now : ℤ) :
    IndexConsistent (s.cleanup cfg now) := by
  have h₁ : IndexConsistent (s.cleanupExpiredEvents now) :=
    (h.foldl_removeEvent .expired (s.expiredIds now)).congr rfl rfl
  have h₂ : IndexConsistent ((s.cleanupExpiredEvents now).cleanupStaleDelivered cfg now) := by
    refine ⟨fun u id => ?_, h₁.nonempty⟩
    rw [recipient_cleanupStaleDelivered]
    exact h₁.index u id
  have h₃ : IndexConsistent (((s.cleanupExpiredEvents now).cleanupStaleDelivered cfg
      now).enforceMemoryLimits cfg) := by
    unfold EventStore.enforceMemoryLimits
    split_ifs
    · exact h₂.foldl_removeEvent .force _
    · exact h₂
  exact h₃.congr rfl rfl

/-! ## Marks -/

/-- Writing the status of a recipient keeps the relation. -/
theorem IndexConsistent.setStatus (h : IndexConsistent s) {e : String} {v : ℕ}
    {status : TypeEventStatus} {f : EventRecord P → EventRecord P}
    (hf : ∀ r, (f r).userStatus = r.userStatus.set v status)
    (hv : ∀ r ∈ s.events.get? e, v ∈ r.userStatus.keys) : IndexConsistent (s.updateEvent e f) where
  index u id := by
    rw [recipient_setStatus e v status hf, updateEvent_userEvents, h.index]
    refine ⟨Or.inl, ?_⟩
    rintro (hu | ⟨rfl, rfl, r, hr⟩)
    · exact hu
    · exact (recipient_iff_of_get? hr u).2 (hv r hr)
  nonempty := h.nonempty

/-- Writing the status of another user of a stored event breaks it. -/
theorem IndexConsistent.not_of_status (h : IndexConsistent s) {s' : EventStore P} {e : String}
    {v : ℕ} {r : EventRecord P} (hr : s.events.get? e = some r) (hv : v ∉ r.userStatus.keys)
    (hindex : s'.userEvents = s.userEvents) (hrec : Recipient s' v e) : ¬ IndexConsistent s' := by
  intro h'
  have hin := (h'.index v e).2 hrec
  rw [hindex, h.index, recipient_iff_of_get? hr] at hin
  exact hv hin

/-- An operation that marks an event for a user marks it for a recipient; an event that every
    recipient has applied may be applied by anybody, and goes. -/
def MarksRecipient (w : StoreWorld P) (op : ℤ × StoreOp P) : Prop :=
  match op.2 with
  | .markDelivered v e => ∀ r ∈ w.store.events.get? e, v ∈ r.userStatus.keys
  | .markFailed v e _ => ∀ r ∈ w.store.events.get? e, v ∈ r.userStatus.keys
  | .markApplied v e =>
    ∀ r ∈ w.store.events.get? e, v ∈ r.userStatus.keys ∨ r.isAllApplied = true
  | _ => True

instance (w : StoreWorld P) (op : ℤ × StoreOp P) : Decidable (MarksRecipient w op) :=
  match op with
  | (_, .markDelivered v e) =>
    inferInstanceAs (Decidable (∀ r ∈ w.store.events.get? e, v ∈ r.userStatus.keys))
  | (_, .markFailed v e _) =>
    inferInstanceAs (Decidable (∀ r ∈ w.store.events.get? e, v ∈ r.userStatus.keys))
  | (_, .markApplied v e) =>
    inferInstanceAs (Decidable
      (∀ r ∈ w.store.events.get? e, v ∈ r.userStatus.keys ∨ r.isAllApplied = true))
  | (_, .create ..) => isTrue trivial
  | (_, .expiryTimer _) => isTrue trivial
  | (_, .cleanup) => isTrue trivial

theorem recipient_of_setStatus {e : String} {v : ℕ} (status : TypeEventStatus)
    {f : EventRecord P → EventRecord P} {r : EventRecord P}
    (hf : ∀ r, (f r).userStatus = r.userStatus.set v status) (hr : s.events.get? e = some r) :
    Recipient (s.updateEvent e f) v e :=
  (recipient_setStatus e v status hf v e).2 (Or.inr ⟨rfl, rfl, r, hr⟩)

theorem IndexConsistent.markDelivered (h : IndexConsistent s) {v : ℕ} {e : String}
    (hv : ∀ r ∈ s.events.get? e, v ∈ r.userStatus.keys) (now : ℤ) :
    IndexConsistent (s.markDelivered v e now) := by
  unfold EventStore.markDelivered
  split
  · exact h
  · split_ifs
    · exact h
    · have hset : IndexConsistent (s.updateEvent e fun r =>
          (r.setUserStatus v .DELIVERED).incrementDeliveryAttempt v now) :=
        h.setStatus (fun _ => rfl) hv
      exact hset.congr rfl rfl

/-- A status that `getUserStatus` reads for a user that has none. -/
theorem getUserStatus_of_notMem {r : EventRecord P} {v : ℕ} (hv : v ∉ r.userStatus.keys) :
    r.getUserStatus v = .STORED := by
  rw [EventRecord.getUserStatus, (OMap.not_mem_keys _ _).1 hv]
  rfl

theorem IndexConsistent.not_markDelivered (h : IndexConsistent s) {v : ℕ} {e : String}
    {r : EventRecord P} (hr : s.events.get? e = some r) (hv : v ∉ r.userStatus.keys) (now : ℤ) :
    ¬ IndexConsistent (s.markDelivered v e now) := by
  refine h.not_of_status hr hv ?_ ?_ <;> unfold EventStore.markDelivered <;>
    simp only [hr, getUserStatus_of_notMem hv, reduceCtorEq, if_false]
  · rfl
  · exact recipient_of_setStatus .DELIVERED (fun _ => rfl) hr

theorem IndexConsistent.markFailed (h : IndexConsistent s) {v : ℕ} {e : String}
    (hv : ∀ r ∈ s.events.get? e, v ∈ r.userStatus.keys) (error : String) (now : ℤ) :
    IndexConsistent (s.markFailed v e error now) := by
  unfold EventStore.markFailed
  split
  · exact h
  · split_ifs
    · exact h
    · have hset : IndexConsistent (s.updateEvent e fun r =>
          ((r.setUserStatus v .FAILED).incrementDeliveryAttempt v now).addDeliveryError v error) :=
        h.setStatus (fun _ => rfl) hv
      exact hset.congr rfl rfl

theorem IndexConsistent.not_markFailed (h : IndexConsistent s) {v : ℕ} {e : String}
    {r : EventRecord P} (hr : s.events.get? e = some r) (hv : v ∉ r.userStatus.keys)
    (error : String) (now : ℤ) : ¬ IndexConsistent (s.markFailed v e error now) := by
  refine h.not_of_status hr hv ?_ ?_ <;> unfold EventStore.markFailed <;>
    simp only [hr, getUserStatus_of_notMem hv, reduceCtorEq, if_false]
  · rfl
  · exact recipient_of_setStatus .FAILED (fun _ => rfl) hr

theorem IndexConsistent.markApplied (h : IndexConsistent s) {v : ℕ} {e : String}
    (hv : ∀ r ∈ s.events.get? e, v ∈ r.userStatus.keys ∨ r.isAllApplied = true) :
    IndexConsistent (s.markApplied v e) := by
  unfold EventStore.markApplied
  split
  · exact h
  · rename_i event hevent
    dsimp only
    split_ifs with hall
    · -- the event goes, whoever has applied it
      refine indexConsistent_removeEvent .applied (fun u id hid => ?_) (fun u hu => ?_) h.nonempty
      · exact (h.index u id).trans (recipient_updateEvent_ne e _ u hid).symm
      · exact (recipient_setStatus e v .APPLIED (fun _ => rfl) u e).2 (Or.inl ((h.index u e).1 hu))
    · have hrec : v ∈ event.userStatus.keys := by
        refine (hv event hevent).resolve_right fun happlied => hall ?_
        rw [EventRecord.isAllApplied_iff] at happlied ⊢
        intro u st hst
        rw [EventRecord.setUserStatus_userStatus, OMap.get?_set] at hst
        split_ifs at hst
        · exact (Option.some.inj hst).symm
        · exact happlied u st hst
      have hset : IndexConsistent (s.updateEvent e (·.setUserStatus v .APPLIED)) :=
        h.setStatus (fun _ => rfl) fun r hr => by
          obtain rfl : event = r := Option.some.inj (hevent.symm.trans hr)
          exact hrec
      exact hset.congr rfl rfl

theorem IndexConsistent.not_markApplied (h : IndexConsistent s) {v : ℕ} {e : String}
    {r : EventRecord P} (hr : s.events.get? e = some r) (hv : v ∉ r.userStatus.keys)
    (hopen : r.isAllApplied = false) : ¬ IndexConsistent (s.markApplied v e) := by
  have hall : (r.setUserStatus v .APPLIED).isAllApplied = false := by
    rw [Bool.eq_false_iff, ne_eq, EventRecord.isAllApplied_iff] at hopen ⊢
    refine fun happlied => hopen fun u st hst => happlied u st ?_
    have huv : u ≠ v := by
      rintro rfl
      exact hv ((OMap.mem_keys _ _).2 ⟨st, hst⟩)
    simpa [huv] using hst
  refine h.not_of_status hr hv ?_ ?_ <;> unfold EventStore.markApplied <;>
    simp only [hr, hall, Bool.false_eq_true, if_false]
  · rfl
  · exact recipient_of_setStatus .APPLIED (fun _ => rfl) hr

end

/-! ## Every run -/

section
variable {cfg : StoreConfig} {w w' : StoreWorld P} {op : ℤ × StoreOp P}

/-- **One operation** that marks recipients only keeps the two maps in step. -/
theorem IndexConsistent.step (hmax : 0 < cfg.MAX_EVENTS_PER_USER) (hw : WorldInv w)
    (h : IndexConsistent w.store) (hok : MarksRecipient w op)
    (hst : storeStep cfg w op = some w') : IndexConsistent w'.store := by
  obtain ⟨⟨-, hen⟩, rfl⟩ := by simpa [storeStep] using hst
  obtain ⟨now, op⟩ := op
  cases op with
  | create e targetIds eventName payload qos options =>
    have hnew : e ∉ w.issued := by simpa [StoreOp.enabled] using hen
    exact h.create hmax (hw.fresh hnew) targetIds eventName payload qos options now
  | markDelivered v e => exact h.markDelivered hok now
  | markFailed v e error => exact h.markFailed hok error now
  | markApplied v e => exact h.markApplied hok
  | expiryTimer e => exact h.expiryTimer e now
  | cleanup => exact h.cleanup cfg now

/-- Any other mark puts them out of step at once. -/
theorem IndexConsistent.not_step (h : IndexConsistent w.store) (hbad : ¬ MarksRecipient w op)
    (hst : storeStep cfg w op = some w') : ¬ IndexConsistent w'.store := by
  obtain ⟨-, rfl⟩ := by simpa [storeStep] using hst
  obtain ⟨now, op⟩ := op
  cases op with
  | markDelivered v e =>
    simp only [MarksRecipient, not_forall] at hbad
    obtain ⟨r, hr, hv⟩ := hbad
    exact h.not_markDelivered hr hv now
  | markFailed v e error =>
    simp only [MarksRecipient, not_forall] at hbad
    obtain ⟨r, hr, hv⟩ := hbad
    exact h.not_markFailed hr hv error now
  | markApplied v e =>
    simp only [MarksRecipient, not_forall, not_or, Bool.not_eq_true] at hbad
    obtain ⟨r, hr, hv, hopen⟩ := hbad
    exact h.not_markApplied hr hv hopen
  | _ => exact absurd trivial hbad

/-- **When the index is consistent.**  As long as a user may have one event, the two maps
    describe one relation throughout a run exactly when every mark of the run is for a recipient
    of the event, or acknowledges an event that every recipient has applied. -/
theorem indexConsistent_iff {t : ℤ} {ops : List (ℤ × StoreOp P)}
    (hmax : 0 < cfg.MAX_EVENTS_PER_USER)
    (hrun : Run (storeStep cfg) anyStep (StoreWorld.init P t) ops w) :
    (∀ w', Visited (storeStep cfg) (StoreWorld.init P t) ops w' → IndexConsistent w'.store) ↔
      Run (storeStep cfg) MarksRecipient (StoreWorld.init P t) ops w :=
  hrun.safe_iff (I := fun w => WorldInv w ∧ IndexConsistent w.store)
    ⟨.init t, indexConsistent_empty _⟩ (fun _ h => h.2)
    (fun _ _ _ h hok hst => ⟨h.1.step hst, h.2.step hmax h.1 hok hst⟩)
    fun _ _ _ h hbad hst => h.2.not_step hbad hst

end

/-- One event for two users, one of which acknowledges it. -/
def ackedByRecipient : List (ℤ × StoreOp JsObj) :=
  [(10, .create "e" [1, 2] "sync-alarm" [] .qos2 {}), (11, .markDelivered 1 "e"),
    (12, .markApplied 1 "e")]

theorem indexConsistent_iff_ackedByRecipient :
    ∃ w, exec (guarded (storeStep {}) MarksRecipient) (StoreWorld.init JsObj 0)
        ackedByRecipient = some w ∧
      ((∀ w', Visited (storeStep {}) (StoreWorld.init JsObj 0) ackedByRecipient w' →
        IndexConsistent w'.store) ↔
          Run (storeStep {}) MarksRecipient (StoreWorld.init JsObj 0) ackedByRecipient w) := by
  have hexec : (exec (guarded (storeStep {}) MarksRecipient) (StoreWorld.init JsObj 0)
      ackedByRecipient).isSome = true := by decide
  obtain ⟨w, hw⟩ := Option.isSome_iff_exists.1 hexec
  have hrun : Run (storeStep {}) anyStep (StoreWorld.init JsObj 0) ackedByRecipient w :=
    (run_of_exec_guarded hw).mono fun _ _ _ => trivial
  exact ⟨w, hw, indexConsistent_iff (by decide) hrun⟩

/-- An event for user 1 that user 2 acknowledges. -/
def ackedByStranger : List (ℤ × StoreOp JsObj) :=
  [(10, .create "e" [1] "sync-alarm" [] .qos2 {}), (12, .markApplied 2 "e")]

/-- The record lists user 2 now, the index does not. -/
theorem ackedByStranger_inconsistent :
    ¬ ∀ (cfg : StoreConfig) (t : ℤ) (ops : List (ℤ × StoreOp JsObj)) (w : StoreWorld JsObj),
      0 < cfg.MAX_EVENTS_PER_USER →
        Run (storeStep cfg) anyStep (StoreWorld.init JsObj t) ops w → IndexConsistent w.store := by
  intro h
  have hexec : (exec (storeStep {}) (StoreWorld.init JsObj 0) ackedByStranger).map
      (fun w => ((w.store.events.get? "e").bind fun r => r.userStatus.get? 2,
        w.store.userEvents.get? 2)) = some (some .APPLIED, none) := by decide
  obtain ⟨w, hw, hread⟩ := Option.map_eq_some_iff.1 hexec
  obtain ⟨hstatus, hindex⟩ := Prod.mk.inj hread
  obtain ⟨r, hr, hst⟩ := Option.bind_eq_some_iff.1 hstatus
  obtain ⟨set, hset, -⟩ := ((h {} 0 ackedByStranger w (by decide) (run_of_exec hw)).index 2 "e").2
    ⟨r, _, hr, hst⟩
  rw [hindex] at hset
  cases hset

end EventStore

end GatewayRealtime
