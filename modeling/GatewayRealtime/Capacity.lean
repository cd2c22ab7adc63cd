/-
  How many events the store holds, and which ones it gives up.

  * `HasRoom`, `size_le_of_hasRoom`: as long as no event is created in a full store, the store
    stays within its limit.  A full store makes no room: `forceCleanup` removes what is above
    the limit, and nothing is yet (`size_create_of_full`).
  * `victims`, `survivors`: what `forceCleanup` removes and leaves, the two parts of the records
    in the order of `evictBefore`.
  * `EvictsLeast`: what the documentation promises of it.
  * `evictsLeast_iff`: it keeps the promise only when there is nothing to choose, since it
    starts with the events of the greatest weight.
-/
import GatewayRealtime.Delivery
import GatewayRealtime.PerUserLimit

namespace GatewayRealtime

namespace EventStore

variable {P : Type} {s : EventStore P} {cfg : StoreConfig} {now : ℤ}

/-! ## Room for a new event -/

/-- An event is created only while the store is not full. -/
def HasRoom (cfg : StoreConfig) (w : StoreWorld P) (op : ℤ × StoreOp P) : Prop :=
  op.2.issues ≠ [] → w.store.events.size < cfg.MAX_EVENTS_TOTAL

instance (cfg : StoreConfig) (w : StoreWorld P) (op : ℤ × StoreOp P) :
    Decidable (HasRoom cfg w op) :=
  inferInstanceAs (Decidable (op.2.issues ≠ [] → w.store.events.size < cfg.MAX_EVENTS_TOTAL))

theorem size_dropForUser_le (v : ℕ) (s : EventStore P) (e : String) :
    (s.dropForUser v e).events.size ≤ s.events.size := by
  have hmid : (EventStore.updateEvent { s with userEvents := s.userEvents.modify v (·.remove e) } e
      (·.dropUser v)).events.size = s.events.size := size_updateEvent ..
  unfold dropForUser
  dsimp only
  split
  · split_ifs
    · exact (size_removeEvent_le _ e .force).trans hmid.le
    · exact hmid.le
  · exact hmid.le

theorem size_foldl_le {α : Type} {f : EventStore P → α → EventStore P}
    (hf : ∀ s a, (f s a).events.size ≤ s.events.size) : ∀ (l : List α) (s : EventStore P),
    (l.foldl f s).events.size ≤ s.events.size
  | [], _ => le_rfl
  | a :: l, s => (size_foldl_le hf l (f s a)).trans (hf s a)

theorem size_enforcePerUserLimit_le (cfg : StoreConfig) (now : ℤ) (s : EventStore P) (v : ℕ) :
    (s.enforcePerUserLimit cfg now v).events.size ≤ s.events.size := by
  rw [enforcePerUserLimit_eq]
  exact size_foldl_le (size_dropForUser_le v) _ s

/-- A new event takes one place at most. -/
theorem size_create_le (hroom : s.events.size < cfg.MAX_EVENTS_TOTAL) (e : String)
    (targetIds : List ℕ) (eventName : String) (payload : P) (qos : QoS) (options : CreateOptions)
    (now : ℤ) :
    (s.create cfg e targetIds eventName payload qos options now).events.size ≤
      cfg.MAX_EVENTS_TOTAL := by
  have hsame : s.makeRoom cfg = s := if_neg (not_le.2 hroom)
  rw [create_events, createCore, hsame]
  exact (size_foldl_le (size_enforcePerUserLimit_le cfg now) targetIds _).trans
    ((size_insertEvent_le s targetIds _ now).trans hroom)

theorem HasRoom.step {w w' : StoreWorld P} {op : ℤ × StoreOp P} (hroom : HasRoom cfg w op)
    (hsize : w.store.events.size ≤ cfg.MAX_EVENTS_TOTAL) (hst : storeStep cfg w op = some w') :
    w'.store.events.size ≤ cfg.MAX_EVENTS_TOTAL := by
  refine size_storeStep_le hst hsize fun e targetIds eventName payload qos options hop => ?_
  have hissues : op.2.issues ≠ [] := by simp [hop, StoreOp.issues]
  exact size_create_le (hroom hissues) e targetIds eventName payload qos options op.1

/-- **The global limit is a limit**, in every run that creates no event in a full store. -/
theorem size_le_of_hasRoom {t : ℤ} {ops : List (ℤ × StoreOp P)} {w w' : StoreWorld P}
    (hrun : Run (storeStep cfg) (HasRoom cfg) (StoreWorld.init P t) ops w)
    (hw' : Visited (storeStep cfg) (StoreWorld.init P t) ops w') :
    w'.store.events.size ≤ cfg.MAX_EVENTS_TOTAL := by
  obtain ⟨ops', ⟨rest, rfl⟩, hrun'⟩ := hw'
  obtain ⟨w₁, hpre, -⟩ := hrun.split
  obtain rfl : w₁ = w' := hpre.det hrun'
  exact hpre.inv (Nat.zero_le _) fun _ _ _ hsize hroom hst => hroom.step hsize hst

/-! ## What forced cleanup removes -/

/-- The records in the order in which `forceCleanup` gives them up. -/
def evictionOrder (s : EventStore P) : List (EventRecord P) :=
  s.events.values.insertionSort evictBefore

/-- The records that `forceCleanup` removes from a store that has reached the limit. -/
def victims (cfg : StoreConfig) (s : EventStore P) : List (EventRecord P) :=
  s.evictionOrder.take (s.events.size - cfg.MAX_EVENTS_TOTAL)

/-- The records that it leaves. -/
def survivors (cfg : StoreConfig) (s : EventStore P) : List (EventRecord P) :=
  s.evictionOrder.drop (s.events.size - cfg.MAX_EVENTS_TOTAL)

theorem length_evictionOrder (s : EventStore P) : s.evictionOrder.length = s.events.size := by
  rw [evictionOrder, List.length_insertionSort, OMap.values, List.length_map, OMap.size]

theorem forceCleanup_eq (hfull : cfg.MAX_EVENTS_TOTAL ≤ s.events.size) :
    s.forceCleanup cfg = ((victims cfg s).map EventRecord.eventId).foldl
      (fun s eventId => s.removeEvent eventId .force) s := by
  have hslice : sliceTo s.evictionOrder (s.evictionOrder.length - cfg.MAX_EVENTS_TOTAL) =
      victims cfg s := by
    rw [sliceTo_excess, length_evictionOrder, if_pos hfull, victims]
  unfold forceCleanup
  dsimp only
  rw [← evictionOrder, hslice]

theorem mem_values_iff (hs : StoreInv s) {r : EventRecord P} :
    r ∈ s.events.values ↔ s.events.get? r.eventId = some r := by
  rw [OMap.mem_values]
  constructor
  · rintro ⟨id, hr⟩
    rwa [hs.keyed id r hr]
  · exact fun hr => ⟨_, hr⟩

/-- Two records have different ids. -/
theorem nodup_evictionOrder (hs : StoreInv s) :
    (s.evictionOrder.map EventRecord.eventId).Nodup := by
  have hkeys : s.events.values.map EventRecord.eventId = s.events.keys := by
    rw [OMap.values, OMap.keys, List.map_map]
    refine List.map_congr_left fun x hx => ?_
    exact hs.keyed x.1 x.2 ((s.events.mem_entries x.1 x.2).1 hx)
  have hperm := (s.events.values.perm_insertionSort evictBefore).map EventRecord.eventId
  rw [evictionOrder, hperm.nodup_iff, hkeys]
  exact s.events.nodup

theorem mem_evictionOrder (hs : StoreInv s) {r : EventRecord P} :
    r ∈ s.evictionOrder ↔ s.events.get? r.eventId = some r := by
  rw [evictionOrder, List.mem_insertionSort, mem_values_iff hs]

/-- A record is a victim or a survivor. -/
theorem survivors_eq (hs : StoreInv s) (cfg : StoreConfig) :
    survivors cfg s =
      s.evictionOrder.filter (·.eventId ∉ (victims cfg s).map EventRecord.eventId) :=
  (filter_notMem_take EventRecord.eventId _ (nodup_evictionOrder hs)).symm

/-- The records after a forced cleanup are the survivors. -/
theorem forceCleanup_get? (hs : StoreInv s) (hfull : cfg.MAX_EVENTS_TOTAL ≤ s.events.size)
    {id : String} {r : EventRecord P} :
    (s.forceCleanup cfg).events.get? id = some r ↔
      s.events.get? id = some r ∧ r ∈ survivors cfg s := by
  have hkept : s.events.get? id = some r →
      (r ∈ survivors cfg s ↔ id ∉ (victims cfg s).map EventRecord.eventId) := by
    intro hr
    have hid := hs.keyed id r hr
    rw [survivors_eq hs, List.mem_filter, mem_evictionOrder hs, hid, decide_eq_true_eq,
      and_iff_right hr]
  rw [forceCleanup_eq hfull, foldl_removeEvent_events]
  split_ifs with hid
  · constructor
    · exact fun hr => by cases hr
    · exact fun hr => absurd hid ((hkept hr.1).1 hr.2)
  · exact ⟨fun hr => ⟨hr, (hkept hr).2 hid⟩, And.left⟩

/-- A stored event is gone after a forced cleanup iff its record is a victim. -/
theorem forceCleanup_eq_none (hs : StoreInv s) (hfull : cfg.MAX_EVENTS_TOTAL ≤ s.events.size)
    {id : String} {r : EventRecord P} (hr : s.events.get? id = some r) :
    (s.forceCleanup cfg).events.get? id = none ↔ r ∈ victims cfg s := by
  rw [forceCleanup_eq hfull, foldl_removeEvent_events, hr]
  have hid := hs.keyed id r hr
  constructor
  · intro hgone
    have hmem : id ∈ (victims cfg s).map EventRecord.eventId := by
      by_contra hmem
      simp [hmem] at hgone
    obtain ⟨r', hr', heq⟩ := List.mem_map.1 hmem
    have hget := (mem_evictionOrder hs).1 (List.mem_of_mem_take hr')
    rw [heq, hr] at hget
    rwa [Option.some.inj hget]
  · exact fun hmem => if_pos (hid ▸ List.mem_map_of_mem hmem)

theorem entries_removeEvent (s : EventStore P) (e : String) (reason : RemoveReason) :
    (s.removeEvent e reason).events.entries = s.events.entries.filter fun x => x.1 ≠ e := by
  unfold removeEvent
  cases hr : s.events.get? e with
  | none =>
    refine (List.filter_eq_self.2 fun x hx => ?_).symm
    rw [decide_eq_true_eq]
    rintro rfl
    rw [(s.events.mem_entries x.1 x.2).1 hx] at hr
    cases hr
  | some r => rfl

theorem entries_foldl_removeEvent (reason : RemoveReason) : ∀ (ids : List String)
    (s : EventStore P), (ids.foldl (fun s id => removeEvent s id reason) s).events.entries =
      s.events.entries.filter fun x => x.1 ∉ ids
  | [], s => by simp
  | e :: ids, s => by
    rw [List.foldl_cons, entries_foldl_removeEvent reason ids, entries_removeEvent,
      List.filter_filter]
    refine List.filter_congr fun x _ => ?_
    by_cases hx : x.1 = e <;> simp [hx]

/-- A forced cleanup removes what is above the limit. -/
theorem size_forceCleanup (hs : StoreInv s) (hfull : cfg.MAX_EVENTS_TOTAL ≤ s.events.size) :
    (s.forceCleanup cfg).events.size = cfg.MAX_EVENTS_TOTAL := by
  have hvalues : (s.forceCleanup cfg).events.values =
      s.events.values.filter (·.eventId ∉ (victims cfg s).map EventRecord.eventId) := by
    rw [OMap.values, forceCleanup_eq hfull, entries_foldl_removeEvent, OMap.values,
      List.filter_map]
    congr 1
    refine List.filter_congr fun x hx => ?_
    rw [Function.comp_apply, hs.keyed x.1 x.2 ((s.events.mem_entries x.1 x.2).1 hx)]
  have hperm := ((s.events.values.perm_insertionSort evictBefore).filter
    (·.eventId ∉ (victims cfg s).map EventRecord.eventId)).length_eq
  rw [← evictionOrder, ← survivors_eq hs, ← hvalues, survivors, List.length_drop,
    length_evictionOrder, OMap.values, List.length_map] at hperm
  rw [OMap.size, ← hperm]
  omega

/-- A full store makes no room, unless the limit per user does: the new event comes on top. -/
theorem size_create_of_full (hs : StoreInv s) (hfull : s.events.size = cfg.MAX_EVENTS_TOTAL)
    {e : String} (hnew : s.events.get? e = none) (targetIds : List ℕ) (eventName : String)
    (payload : P) (qos : QoS) (options : CreateOptions)
    (hlimits : ∀ v, ((inserted cfg e targetIds eventName payload qos options now s).indexed
      v).length ≤ cfg.MAX_EVENTS_PER_USER) :
    (s.create cfg e targetIds eventName payload qos options now).events.size =
      cfg.MAX_EVENTS_TOTAL + 1 := by
  have hnone : (newRecord e eventName payload qos options now).eventId ∉
      (s.makeRoom cfg).events.keys :=
    (OMap.not_mem_keys _ _).2 (makeRoom_events_none cfg hnew)
  have hroom : (s.makeRoom cfg).events.size = cfg.MAX_EVENTS_TOTAL := by
    rw [makeRoom, if_pos hfull.ge, size_forceCleanup hs hfull.ge]
  rw [create_events, createCore_eq, foldl_enforce_eq now targetIds hlimits, inserted, insertEvent,
    OMap.size_set, if_neg hnone, hroom]

/-! ## Which events go -/

/-- What is promised of the removal of the excess events: no event that goes has a greater total
    status weight than one that stays, of two of equal weight the older one goes, exactly the
    excess goes, and neither map mentions what is gone. -/
structure EvictsLeast (cfg : StoreConfig) (s s' : EventStore P) : Prop where
  least : ∀ e r e' r', s.events.get? e = some r → s'.events.get? e = none →
    s'.events.get? e' = some r' → priority r ≤ priority r'
  older : ∀ e r e' r', s.events.get? e = some r → s'.events.get? e = none →
    s'.events.get? e' = some r' → priority r = priority r' → r.createdAt ≤ r'.createdAt
  excess : s'.events.size + (s.events.size - cfg.MAX_EVENTS_TOTAL) = s.events.size
  forgotten : ∀ e r, s.events.get? e = some r → s'.events.get? e = none →
    e ∉ s'.events.keys ∧ ∀ u, ¬ inIndex s'.userEvents u e

instance : Std.Total (evictBefore (P := P)) where
  total a b := by
    unfold evictBefore
    omega

instance : IsTrans (EventRecord P) evictBefore where
  trans a b c hab hbc := by
    unfold evictBefore at *
    omega

/-- Victims come before survivors. -/
theorem evictBefore_of_mem {r r' : EventRecord P} (hr : r ∈ victims cfg s)
    (hr' : r' ∈ survivors cfg s) : evictBefore r r' :=
  rel_of_mem_take_drop (List.pairwise_insertionSort evictBefore _) hr hr'

/-- The states in which `forceCleanup` is called: before an event is created in a store that has
    reached the limit, and after the other periodic cleanups, above the limit. -/
inductive Evicting (cfg : StoreConfig) : EventStore P → Prop
  | creating {start : ℤ} {ops : List (ℤ × StoreOp P)} {w : StoreWorld P}
      (hrun : Run (storeStep cfg) anyStep (StoreWorld.init P start) ops w)
      (hfull : cfg.MAX_EVENTS_TOTAL ≤ w.store.events.size) : Evicting cfg w.store
  | cleaning {start : ℤ} {ops : List (ℤ × StoreOp P)} {w : StoreWorld P}
      (hrun : Run (storeStep cfg) anyStep (StoreWorld.init P start) ops w) (now : ℤ)
      (hfull : cfg.MAX_EVENTS_TOTAL <
        ((w.store.cleanupExpiredEvents now).cleanupStaleDelivered cfg now).events.size) :
      Evicting cfg ((w.store.cleanupExpiredEvents now).cleanupStaleDelivered cfg now)

theorem Evicting.storeInv (h : Evicting cfg s) : StoreInv s := by
  cases h with
  | creating hrun _ => exact (worldInv_run hrun).store
  | cleaning hrun now _ =>
    exact ((worldInv_run hrun).store.cleanupExpiredEvents now).cleanupStaleDelivered cfg now

theorem Evicting.full (h : Evicting cfg s) : cfg.MAX_EVENTS_TOTAL ≤ s.events.size := by
  cases h with
  | creating _ hfull => exact hfull
  | cleaning _ _ hfull => exact hfull.le

/-- Both parts of the eviction order are there, unless nothing goes or nothing stays. -/
theorem exists_victim (hlt : cfg.MAX_EVENTS_TOTAL < s.events.size) : ∃ r, r ∈ victims cfg s := by
  refine List.exists_mem_of_length_pos ?_
  rw [victims, List.length_take, length_evictionOrder]
  omega

theorem exists_survivor (hfull : cfg.MAX_EVENTS_TOTAL ≤ s.events.size)
    (hmax : 0 < cfg.MAX_EVENTS_TOTAL) : ∃ r, r ∈ survivors cfg s := by
  refine List.exists_mem_of_length_pos ?_
  rw [survivors, List.length_drop, length_evictionOrder]
  omega

/-- What holds of `forceCleanup` whatever the weights are. -/
theorem forgotten_forceCleanup (hs : StoreInv s) {e : String}
    (hgone : (s.forceCleanup cfg).events.get? e = none) :
    e ∉ (s.forceCleanup cfg).events.keys ∧ ∀ u, ¬ inIndex (s.forceCleanup cfg).userEvents u e := by
  refine ⟨(OMap.not_mem_keys _ _).2 hgone, fun u hu => ?_⟩
  obtain ⟨r, -, hr, -⟩ := (hs.forceCleanup cfg).recipient u e hu
  rw [hgone] at hr
  cases hr

/-- If the least important go, whatever goes weighs as much as whatever stays: the code takes the
    greatest weights first. -/
theorem EvictsLeast.priority_eq (hs : StoreInv s) (hfull : cfg.MAX_EVENTS_TOTAL ≤ s.events.size)
    (h : EvictsLeast cfg s (s.forceCleanup cfg)) {r r' : EventRecord P} (hr : r ∈ victims cfg s)
    (hr' : r' ∈ survivors cfg s) : priority r = priority r' := by
  have hget := (mem_evictionOrder hs).1 (List.mem_of_mem_take hr)
  have hget' := (mem_evictionOrder hs).1 (List.mem_of_mem_drop hr')
  have hgone := (forceCleanup_eq_none hs hfull hget).2 hr
  have hkept := (forceCleanup_get? hs hfull).2 ⟨hget', hr'⟩
  have hle := h.least _ r _ r' hget hgone hkept
  have hbefore := evictBefore_of_mem hr hr'
  unfold evictBefore at hbefore
  omega

/-- If both parts are there and weigh the same, all records do. -/
theorem priority_eq_of_parts (hfull : cfg.MAX_EVENTS_TOTAL ≤ s.events.size)
    (hsize : s.events.size ≠ cfg.MAX_EVENTS_TOTAL) (hmax : cfg.MAX_EVENTS_TOTAL ≠ 0)
    (hsame : ∀ r ∈ victims cfg s, ∀ r' ∈ survivors cfg s, priority r = priority r') :
    ∀ r ∈ s.events.values, ∀ r' ∈ s.events.values, priority r = priority r' := by
  obtain ⟨v, hv⟩ : ∃ r, r ∈ victims cfg s := exists_victim (by omega)
  obtain ⟨k, hk⟩ := exists_survivor (s := s) hfull (Nat.pos_of_ne_zero hmax)
  have hall : ∀ r ∈ s.events.values, priority r = priority v := by
    intro r hr
    have hmem : r ∈ s.evictionOrder := (List.mem_insertionSort _).2 hr
    rw [← List.take_append_drop (s.events.size - cfg.MAX_EVENTS_TOTAL) s.evictionOrder,
      List.mem_append] at hmem
    rcases hmem with hvictim | hsurvivor
    · rw [hsame r hvictim k hk, hsame v hv k hk]
    · exact (hsame v hv r hsurvivor).symm
  intro r hr r' hr'
  rw [hall r hr, hall r' hr']

/-- An order in which the parts weigh the same is as good as the promised one. -/
theorem evictsLeast_of_priority_eq (hs : StoreInv s)
    (hfull : cfg.MAX_EVENTS_TOTAL ≤ s.events.size)
    (hsame : ∀ r ∈ victims cfg s, ∀ r' ∈ survivors cfg s, priority r = priority r') :
    EvictsLeast cfg s (s.forceCleanup cfg) := by
  have hparts : ∀ {e r e' r'}, s.events.get? e = some r →
      (s.forceCleanup cfg).events.get? e = none →
      (s.forceCleanup cfg).events.get? e' = some r' →
      evictBefore r r' ∧ priority r = priority r' := by
    intro e r e' r' hr hgone hkept
    have hvictim := (forceCleanup_eq_none hs hfull hr).1 hgone
    have hsurvivor := ((forceCleanup_get? hs hfull).1 hkept).2
    exact ⟨evictBefore_of_mem hvictim hsurvivor, hsame r hvictim r' hsurvivor⟩
  constructor
  · intro e r e' r' hr hgone hkept
    exact (hparts hr hgone hkept).2.le
  · intro e r e' r' hr hgone hkept hpriority
    have hbefore := (hparts hr hgone hkept).1
    unfold evictBefore at hbefore
    omega
  · rw [size_forceCleanup hs hfull]
    omega
  · exact fun e r _ hgone => forgotten_forceCleanup hs hgone

theorem evictsLeast_iff_of_full (hs : StoreInv s)
    (hfull : cfg.MAX_EVENTS_TOTAL ≤ s.events.size) :
    EvictsLeast cfg s (s.forceCleanup cfg) ↔
      s.events.size = cfg.MAX_EVENTS_TOTAL ∨ cfg.MAX_EVENTS_TOTAL = 0 ∨
        ∀ r ∈ s.events.values, ∀ r' ∈ s.events.values, priority r = priority r' := by
  constructor
  · intro hleast
    by_contra hchoice
    simp only [not_or] at hchoice
    obtain ⟨hsize, hmax, hweights⟩ := hchoice
    exact hweights (priority_eq_of_parts hfull hsize hmax fun r hr r' hr' =>
      hleast.priority_eq hs hfull hr hr')
  · intro hchoice
    refine evictsLeast_of_priority_eq hs hfull fun r hr r' hr' => ?_
    rcases hchoice with hsize | hmax | hweights
    · rw [victims, hsize, Nat.sub_self, List.take_zero] at hr
      cases hr
    · rw [survivors, hmax, Nat.sub_zero, ← length_evictionOrder, List.drop_length] at hr'
      cases hr'
    · have hvalues : ∀ {r : EventRecord P}, r ∈ s.evictionOrder → r ∈ s.events.values :=
        (List.mem_insertionSort _).1
      exact hweights r (hvalues (List.mem_of_mem_take hr)) r'
        (hvalues (List.mem_of_mem_drop hr'))

/-- **Forced cleanup evicts the least important events** only when it has no choice: nothing is
    above the limit, nothing may stay, or all events have the same total status weight.  It takes
    the events of the greatest weight. -/
theorem evictsLeast_iff (h : Evicting cfg s) :
    EvictsLeast cfg s (s.forceCleanup cfg) ↔
      s.events.size = cfg.MAX_EVENTS_TOTAL ∨ cfg.MAX_EVENTS_TOTAL = 0 ∨
        ∀ r ∈ s.events.values, ∀ r' ∈ s.events.values, priority r = priority r' :=
  evictsLeast_iff_of_full h.storeInv h.full

/-! ## Runs -/

/-- Three events for one user, in a store that may hold two. -/
def threeEvents : List (ℤ × StoreOp JsObj) :=
  [(10, .create "a" [1] "sync-alarm" [] .qos2 {}), (11, .create "b" [1] "sync-alarm" [] .qos2 {}),
    (12, .create "c" [1] "sync-alarm" [] .qos2 {})]

theorem size_le_of_hasRoom_twoEvents :
    ∃ w, exec (guarded (storeStep { MAX_EVENTS_TOTAL := 2 }) (HasRoom { MAX_EVENTS_TOTAL := 2 }))
        (StoreWorld.init JsObj 0) (threeEvents.take 2) = some w ∧ w.store.events.size ≤ 2 := by
  have hexec : (exec (guarded (storeStep { MAX_EVENTS_TOTAL := 2 })
      (HasRoom { MAX_EVENTS_TOTAL := 2 })) (StoreWorld.init JsObj 0)
        (threeEvents.take 2)).isSome = true := by decide
  obtain ⟨w, hw⟩ := Option.isSome_iff_exists.1 hexec
  have hrun := run_of_exec_guarded hw
  exact ⟨w, hw, size_le_of_hasRoom hrun (.last (hrun.mono fun _ _ _ => trivial))⟩

/-- The third event is one too many. -/
theorem threeEvents_overflow :
    ¬ ∀ (cfg : StoreConfig) (t : ℤ) (ops : List (ℤ × StoreOp JsObj)) (w : StoreWorld JsObj),
      0 < cfg.MAX_EVENTS_TOTAL → Run (storeStep cfg) anyStep (StoreWorld.init JsObj t) ops w →
        w.store.events.size ≤ cfg.MAX_EVENTS_TOTAL := by
  intro h
  have hexec : (exec (storeStep { MAX_EVENTS_TOTAL := 2 }) (StoreWorld.init JsObj 0)
      threeEvents).map (fun w => w.store.events.size) = some 3 := by decide
  obtain ⟨w, hw, hsize⟩ := Option.map_eq_some_iff.1 hexec
  have hclaim := h { MAX_EVENTS_TOTAL := 2 } 0 threeEvents w (by decide) (run_of_exec hw)
  rw [hsize] at hclaim
  exact absurd hclaim (by decide)

/-- Two events in a store that may hold one. -/
theorem evictsLeast_iff_twoStored :
    ∃ w, exec (storeStep { MAX_EVENTS_TOTAL := 1 }) (StoreWorld.init JsObj 0)
        (threeEvents.take 2) = some w ∧ w.store.events.size = 2 ∧
      EvictsLeast { MAX_EVENTS_TOTAL := 1 } w.store
        (w.store.forceCleanup { MAX_EVENTS_TOTAL := 1 }) := by
  have hexec : (exec (storeStep { MAX_EVENTS_TOTAL := 1 }) (StoreWorld.init JsObj 0)
      (threeEvents.take 2)).map (fun w => (w.store.events.size,
        w.store.events.values.map priority)) = some (2, [2, 2]) := by decide
  obtain ⟨w, hw, hread⟩ := Option.map_eq_some_iff.1 hexec
  obtain ⟨hsize, hweights⟩ := Prod.mk.inj hread
  have hsame : ∀ r ∈ w.store.events.values, priority r = 2 := by
    intro r hr
    have hmem := List.mem_map_of_mem (f := priority) hr
    rw [hweights] at hmem
    simpa using hmem
  refine ⟨w, hw, hsize, (evictsLeast_iff (.creating (run_of_exec hw) ?_)).2 ?_⟩
  · rw [hsize]
    decide
  · exact Or.inr (Or.inr fun r hr r' hr' => (hsame r hr).trans (hsame r' hr').symm)

/-- The second event has been delivered, and so weighs more than the first. -/
def secondDelivered : List (ℤ × StoreOp JsObj) :=
  threeEvents.take 2 ++ [(12, .markDelivered 1 "b")]

/-- The delivered event goes, the one of lower priority stays. -/
theorem secondDelivered_evicted :
    ¬ ∀ (cfg : StoreConfig) (s : EventStore JsObj), Evicting cfg s →
      EvictsLeast cfg s (s.forceCleanup cfg) := by
  intro h
  have hexec : (exec (storeStep { MAX_EVENTS_TOTAL := 1 }) (StoreWorld.init JsObj 0)
      secondDelivered).map (fun w => (w.store.events.size,
        w.store.events.values.map priority)) = some (2, [2, 3]) := by decide
  obtain ⟨w, hw, hread⟩ := Option.map_eq_some_iff.1 hexec
  obtain ⟨hsize, hweights⟩ := Prod.mk.inj hread
  have hevicting : Evicting { MAX_EVENTS_TOTAL := 1 } w.store :=
    .creating (run_of_exec hw) (by rw [hsize]; decide)
  rcases (evictsLeast_iff_of_full hevicting.storeInv hevicting.full).1
      (h _ _ hevicting) with hfull | hzero | hsame
  · rw [hsize] at hfull
    cases hfull
  · cases hzero
  · have hmem : ∀ n ∈ [2, 3], ∃ r ∈ w.store.events.values, priority r = n := by
      intro n hn
      rw [← hweights] at hn
      exact List.mem_map.1 hn
    obtain ⟨a, ha, hwa⟩ := hmem 2 (by decide)
    obtain ⟨b, hb, hwb⟩ := hmem 3 (by decide)
    have heq := hsame a ha b hb
    rw [hwa, hwb] at heq
    cases heq

end EventStore

end GatewayRealtime
