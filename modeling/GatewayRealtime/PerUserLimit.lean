/-
  What the limit of a user takes away.

  * `excess`: how many of the oldest pending events `enforcePerUserLimit` takes.
  * `getPending_enforcePerUserLimit`: what is pending afterwards.
  * `mem_limitDrops_inserted`: which recipients the limits of a creation part from which events,
    by the numbers of events in the state before it and by their age.
  * `Reached`: the states in which a process enforces a limit: between two operations, or in the
    course of a `create`.
  * `newest_iff`: what is left are the newest events that the user may have, except when the index
    set is over the limit, fewer events than the limit are pending, and more than half of it:
    then the end of the slice is negative, and counts from the end of the list.
-/
import GatewayRealtime.Outcome

namespace GatewayRealtime

/-- The last `n` elements of a list. -/
def newest {α : Type} (n : ℕ) (l : List α) : List α := l.drop (l.length - n)

/-- How many elements a slice takes that is to leave `max` of them. -/
theorem sliceTo_excess {α : Type} (l : List α) (max : ℕ) :
    sliceTo l (l.length - max) =
      l.take (if max ≤ l.length then l.length - max else 2 * l.length - max) := by
  unfold sliceTo
  split_ifs <;> congr 1 <;> omega

theorem drop_eq_drop_iff {α : Type} {l : List α} {m n : ℕ} (hm : m ≤ l.length)
    (hn : n ≤ l.length) : l.drop m = l.drop n ↔ m = n := by
  constructor
  · intro h
    have hlength := congrArg List.length h
    rw [List.length_drop, List.length_drop] at hlength
    omega
  · rintro rfl
    rfl

namespace EventStore

variable {P : Type} {s : EventStore P} {cfg : StoreConfig} {now : ℤ}

/-- How many pending events the limit takes from a user. -/
def excess (cfg : StoreConfig) (now : ℤ) (s : EventStore P) (userId : ℕ) : ℕ :=
  if (s.indexed userId).length ≤ cfg.MAX_EVENTS_PER_USER then 0
  else if cfg.MAX_EVENTS_PER_USER ≤ (s.getPending userId now).length then
    (s.getPending userId now).length - cfg.MAX_EVENTS_PER_USER
  else 2 * (s.getPending userId now).length - cfg.MAX_EVENTS_PER_USER

/-- The limit takes the oldest pending events. -/
theorem limitDrop_eq (cfg : StoreConfig) (now : ℤ) (s : EventStore P) (u : ℕ) :
    limitDrop cfg now s u =
      ((s.getPending u now).take (excess cfg now s u)).map EventRecord.eventId := by
  unfold limitDrop excess
  dsimp only
  rw [← getPending]
  split_ifs with hle hmax
  · rw [List.take_zero, List.map_nil]
  · rw [sliceTo_excess, if_pos hmax]
  · rw [sliceTo_excess, if_neg hmax]

/-! ## What is pending after drops -/

theorem indexed_dropForUser (s : EventStore P) (u : ℕ) (e : String) :
    (s.dropForUser u e).indexed u = (s.indexed u).filter (· ≠ e) := by
  unfold indexed
  rw [dropForUser_userEvents, OMap.get?_modify, if_pos rfl]
  cases s.userEvents.get? u <;> rfl

theorem indexed_foldl_dropForUser (u : ℕ) : ∀ (ids : List String) (s : EventStore P),
    (ids.foldl (dropForUser u) s).indexed u = (s.indexed u).filter (· ∉ ids)
  | [], s => by simp
  | e :: ids, s => by
    rw [List.foldl_cons, indexed_foldl_dropForUser u ids, indexed_dropForUser, List.filter_filter]
    refine List.filter_congr fun id _ => ?_
    by_cases hid : id = e <;> simp [hid]

/-- The records of the ids that are left. -/
theorem filterMap_filter_keyed {g g' : String → Option (EventRecord P)} {ids : List String}
    (hkeyed : ∀ id r, g id = some r → r.eventId = id) (hsame : ∀ id, id ∉ ids → g' id = g id) :
    ∀ l : List String, (l.filter (· ∉ ids)).filterMap g' =
      (l.filterMap g).filter (·.eventId ∉ ids)
  | [] => rfl
  | id :: l => by
    have ih := filterMap_filter_keyed hkeyed hsame l
    by_cases hid : id ∈ ids
    · rw [List.filter_cons_of_neg (by simpa using hid), ih]
      cases hr : g id with
      | none => rw [List.filterMap_cons_none hr]
      | some r =>
        rw [List.filterMap_cons_some hr, List.filter_cons_of_neg]
        simpa [hkeyed id r hr] using hid
    · rw [List.filter_cons_of_pos (by simpa using hid)]
      cases hr : g id with
      | none =>
        rw [List.filterMap_cons_none hr, List.filterMap_cons_none ((hsame id hid).trans hr), ih]
      | some r =>
        rw [List.filterMap_cons_some hr, List.filterMap_cons_some ((hsame id hid).trans hr), ih,
          List.filter_cons_of_pos]
        simpa [hkeyed id r hr] using hid

instance : Std.Total (EventRecord.before (P := P)) := ⟨fun a b => le_total a.createdAt b.createdAt⟩

instance : IsTrans (EventRecord P) EventRecord.before :=
  ⟨fun _ _ _ hab hbc => Int.le_trans hab hbc⟩

/-- What is pending for a user after events were dropped for it. -/
theorem getPending_foldl_dropForUser (hs : StoreInv s) (u : ℕ) (ids : List String) (now : ℤ) :
    (ids.foldl (dropForUser u) s).getPending u now =
      (s.getPending u now).filter (·.eventId ∉ ids) := by
  unfold getPending pendingRecords
  rw [indexed_foldl_dropForUser, filterMap_filter_keyed hs.keyed
    fun id hid => foldl_dropForUser_other hid, ← insertionSort_filter, List.filter_filter,
    List.filter_filter]
  congr 1
  exact List.filter_congr fun r _ => Bool.and_comm _ _

/-- Two pending events have different ids. -/
theorem nodup_getPending (hs : StoreInv s) (u : ℕ) (now : ℤ) :
    ((s.getPending u now).map EventRecord.eventId).Nodup := by
  have hids : ((s.indexed u).filterMap s.events.get?).map EventRecord.eventId =
      (s.indexed u).filter fun id => (s.events.get? id).isSome := by
    induction s.indexed u with
    | nil => rfl
    | cons id l ih =>
      cases hr : s.events.get? id with
      | none => rw [List.filterMap_cons_none hr, List.filter_cons_of_neg (by simp [hr]), ih]
      | some r =>
        rw [List.filterMap_cons_some hr, List.filter_cons_of_pos (by simp [hr]), List.map_cons, ih,
          hs.keyed id r hr]
  have hperm := ((s.pendingRecords u now).perm_insertionSort EventRecord.before).map
    EventRecord.eventId
  refine hperm.nodup_iff.2 ?_
  have hsub : ((s.pendingRecords u now).map EventRecord.eventId).Sublist
      (((s.indexed u).filterMap s.events.get?).map EventRecord.eventId) :=
    List.filter_sublist.map _
  refine hsub.nodup ?_
  rw [hids]
  exact (nodup_indexed s u).filter _

/-- **What the limit leaves.**  The oldest pending events of the user go. -/
theorem getPending_enforcePerUserLimit (hs : StoreInv s) (cfg : StoreConfig) (u : ℕ) :
    (s.enforcePerUserLimit cfg now u).getPending u now =
      (s.getPending u now).drop (excess cfg now s u) := by
  rw [enforcePerUserLimit_eq, getPending_foldl_dropForUser hs, limitDrop_eq]
  exact filter_notMem_take EventRecord.eventId _ (nodup_getPending hs u now)

theorem length_getPending_le (s : EventStore P) (u : ℕ) (now : ℤ) :
    (s.getPending u now).length ≤ (s.indexed u).length := by
  rw [getPending, List.length_insertionSort]
  exact length_pendingRecords_le s u now

theorem excess_le (cfg : StoreConfig) (now : ℤ) (s : EventStore P) (u : ℕ) :
    excess cfg now s u ≤ (s.getPending u now).length := by
  unfold excess
  split_ifs <;> omega

/-- The limit leaves the newest events that the user may have, if the end of its slice is not
    negative, or so negative that nothing is left of the slice. -/
theorem newest_iff_of_storeInv (hs : StoreInv s) (cfg : StoreConfig) (now : ℤ) (u : ℕ) :
    (s.enforcePerUserLimit cfg now u).getPending u now =
        newest (min cfg.MAX_EVENTS_PER_USER (s.getPending u now).length) (s.getPending u now) ↔
      (s.indexed u).length ≤ cfg.MAX_EVENTS_PER_USER ∨
        cfg.MAX_EVENTS_PER_USER ≤ (s.getPending u now).length ∨
        2 * (s.getPending u now).length ≤ cfg.MAX_EVENTS_PER_USER := by
  have hle := length_getPending_le s u now
  rw [getPending_enforcePerUserLimit hs, newest,
    drop_eq_drop_iff (excess_le cfg now s u) (Nat.sub_le _ _)]
  unfold excess
  split_ifs <;> omega

/-! ## The limits of several users -/

/-- What a user is still a recipient of stays when an event is dropped for another user. -/
theorem get?_dropForUser_of_recipient {u v : ℕ} (huv : u ≠ v) {e id : String} {r : EventRecord P}
    (hr : s.events.get? id = some r) (hu : u ∈ r.userStatus.keys) :
    (s.dropForUser v e).events.get? id = some (if id = e then r.dropUser v else r) := by
  by_cases hid : id = e
  · subst hid
    have hsize : (r.dropUser v).userStatus.size ≠ 0 := by
      have hkept : u ∈ (r.dropUser v).userStatus.keys := by
        rw [OMap.mem_keys] at hu ⊢
        rwa [EventRecord.dropUser_userStatus, OMap.get?_delete, if_neg huv]
      rw [OMap.size_eq_keys]
      exact (List.length_pos_of_mem hkept).ne'
    have hmid : (EventStore.updateEvent { s with userEvents := s.userEvents.modify v (·.remove id) }
        id (·.dropUser v)).events.get? id = some (r.dropUser v) := by
      rw [updateEvent_events, if_pos rfl, hr, Option.map_some]
    unfold dropForUser
    dsimp only
    rw [hmid, if_pos rfl]
    dsimp only
    rw [if_neg hsize, hmid]
  · rw [if_neg hid, ← hr]
    have hother : id ∉ [e] := by simpa using hid
    exact foldl_dropForUser_other hother

theorem indexed_dropForUser_of_ne {u v : ℕ} (huv : u ≠ v) (s : EventStore P) (e : String) :
    (s.dropForUser v e).indexed u = s.indexed u := by
  rw [indexed, dropForUser_userEvents, OMap.get?_modify, if_neg huv, indexed]

/-- An event that is dropped for one user is pending for the others as before. -/
theorem getPending_dropForUser_of_ne (hs : StoreInv s) {u v : ℕ} (huv : u ≠ v) (e : String)
    (now : ℤ) : ((s.dropForUser v e).getPending u now).map EventRecord.eventId =
      (s.getPending u now).map EventRecord.eventId := by
  let f : EventRecord P → EventRecord P := fun r => if r.eventId = e then r.dropUser v else r
  have hrecords : (s.dropForUser v e).pendingRecords u now = (s.pendingRecords u now).map f := by
    have hget : ∀ id ∈ s.indexed u,
        (s.dropForUser v e).events.get? id = (s.events.get? id).map f := by
      intro id hid
      obtain ⟨r, st, hr, hst⟩ := hs.recipient u id ((mem_indexed s u id).1 hid)
      rw [get?_dropForUser_of_recipient huv hr ((OMap.mem_keys _ _).2 ⟨st, hst⟩), hr,
        Option.map_some, ← hs.keyed id r hr]
    have hpending : ∀ r, (f r).isPending u now = r.isPending u now := by
      intro r
      simp only [f]
      split_ifs
      · simp only [EventRecord.isPending, EventRecord.getUserStatus,
          EventRecord.dropUser_userStatus, OMap.get?_delete, if_neg huv]
        rfl
      · rfl
    unfold pendingRecords
    rw [indexed_dropForUser_of_ne huv, List.filterMap_congr hget, ← List.map_filterMap,
      List.filter_map]
    congr 1
    exact List.filter_congr fun r _ => hpending r
  have hcreated : ∀ r, (f r).createdAt = r.createdAt := by
    intro r
    simp only [f]
    split_ifs <;> rfl
  have hid : ∀ r, (f r).eventId = r.eventId := by
    intro r
    simp only [f]
    split_ifs <;> rfl
  rw [getPending, hrecords, ← List.map_insertionSort (r := EventRecord.before)
    (s := EventRecord.before) f _ fun a _ b _ => by
      rw [EventRecord.before, EventRecord.before, hcreated, hcreated], List.map_map, getPending]
  exact List.map_congr_left fun r _ => hid r

/-- What the limit takes depends on how many events are indexed, and on which are pending. -/
theorem limitDrop_congr {s' : EventStore P} {u : ℕ} (hindexed : s'.indexed u = s.indexed u)
    (hpending : (s'.getPending u now).map EventRecord.eventId =
      (s.getPending u now).map EventRecord.eventId) :
    limitDrop cfg now s' u = limitDrop cfg now s u := by
  have hlength := congrArg List.length hpending
  rw [List.length_map, List.length_map] at hlength
  rw [limitDrop_eq, limitDrop_eq, List.map_take, List.map_take, hpending, excess, excess, hindexed,
    hlength]

/-- The limit of one user takes from the others nothing, and changes nothing of what theirs take. -/
theorem limitDrop_enforcePerUserLimit (hs : StoreInv s) {u v : ℕ} (huv : u ≠ v) :
    limitDrop cfg now (s.enforcePerUserLimit cfg now v) u = limitDrop cfg now s u := by
  have hfold : ∀ (ids : List String) {s : EventStore P}, StoreInv s →
      (ids.foldl (dropForUser v) s).indexed u = s.indexed u ∧
        ((ids.foldl (dropForUser v) s).getPending u now).map EventRecord.eventId =
          (s.getPending u now).map EventRecord.eventId := by
    intro ids
    induction ids with
    | nil => exact fun _ => ⟨rfl, rfl⟩
    | cons id ids ih =>
      intro s hs
      obtain ⟨hindexed, hpending⟩ := ih (hs.dropForUser v id)
      exact ⟨hindexed.trans (indexed_dropForUser_of_ne huv s id),
        hpending.trans (getPending_dropForUser_of_ne hs huv id now)⟩
  rw [enforcePerUserLimit_eq]
  obtain ⟨hindexed, hpending⟩ := hfold (limitDrop cfg now s v) hs
  exact limitDrop_congr hindexed hpending

/-- **What the limits part**, if no user is a target twice: for each target, what its own limit
    takes. -/
theorem mem_limitDrops {u : ℕ} {e : String} : ∀ {vs : List ℕ} {s : EventStore P}, StoreInv s →
    vs.Nodup → ((u, e) ∈ limitDrops cfg now vs s ↔ u ∈ vs ∧ e ∈ limitDrop cfg now s u)
  | [], _, _, _ => by simp [limitDrops]
  | v :: vs, s, hs, hvs => by
    obtain ⟨hv, hvs⟩ := List.nodup_cons.1 hvs
    rw [limitDrops, List.mem_append, mem_limitDrops (hs.enforcePerUserLimit cfg now v) hvs,
      List.mem_cons]
    by_cases huv : u = v
    · subst huv
      simp [hv]
    · simp [huv, Ne.symm huv, limitDrop_enforcePerUserLimit hs huv]

/-! ## Every state in which a limit is enforced -/

/-- The states of a process that enforces a limit when the clock reads `now`: after a run of the
    store, or in the course of a `create` after it, when the new event is inserted and the limits
    of some of its targets are enforced. -/
inductive Reached (cfg : StoreConfig) (now : ℤ) : EventStore P → Prop
  | between {start : ℤ} {ops : List (ℤ × StoreOp P)} {w : StoreWorld P}
      (hrun : Run (storeStep cfg) anyStep (StoreWorld.init P start) ops w) : Reached cfg now w.store
  | creating {start : ℤ} {ops : List (ℤ × StoreOp P)} {w : StoreWorld P}
      (hrun : Run (storeStep cfg) anyStep (StoreWorld.init P start) ops w) {e : String}
      (hnew : e ∉ w.issued) (targetIds : List ℕ) (eventName : String) (payload : P) (qos : QoS)
      (options : CreateOptions) {done : List ℕ} (hdone : done <+: targetIds) :
      Reached cfg now (done.foldl (enforcePerUserLimit cfg now)
        (inserted cfg e targetIds eventName payload qos options now w.store))

theorem storeInv_inserted (hs : StoreInv s) {e : String} (hnew : s.events.get? e = none)
    (targetIds : List ℕ) (eventName : String) (payload : P) (qos : QoS)
    (options : CreateOptions) :
    StoreInv (inserted cfg e targetIds eventName payload qos options now s) :=
  (hs.makeRoom cfg).insertEvent targetIds _ now (makeRoom_events_none cfg hnew)

theorem Reached.storeInv (h : Reached cfg now s) : StoreInv s := by
  cases h with
  | between hrun => exact (worldInv_run hrun).store
  | creating hrun hnew targetIds eventName payload qos options hdone =>
    have hw := worldInv_run hrun
    exact StoreInv.foldl_enforcePerUserLimit cfg now _
      (storeInv_inserted hw.store (hw.fresh hnew) targetIds eventName payload qos options)

/-! ## The limits of a creation -/

/-- An id that is in an index set is not added again. -/
theorem elems_foldl_addToIndex_of_inIndex {e : String} {u : ℕ} : ∀ (vs : List ℕ)
    {index : OMap ℕ (OSet String)}, inIndex index u e →
    (((vs.foldl (addToIndex e) index).get? u).map OSet.elems).getD [] =
      ((index.get? u).map OSet.elems).getD []
  | [], _, _ => rfl
  | v :: vs, index, h => by
    rw [List.foldl_cons,
      elems_foldl_addToIndex_of_inIndex vs ((inIndex_addToIndex ..).2 (Or.inl h)), addToIndex,
      OMap.get?_set]
    split_ifs with huv
    · subst huv
      obtain ⟨set, hset, hmem⟩ := h
      have helems : e ∈ set.elems := hmem
      simp [hset, OSet.add, helems]
    · rfl

/-- An id that is new to the index set of a target is added at its end. -/
theorem elems_foldl_addToIndex {e : String} {u : ℕ} : ∀ {vs : List ℕ}
    {index : OMap ℕ (OSet String)}, u ∈ vs → ¬ inIndex index u e →
    (((vs.foldl (addToIndex e) index).get? u).map OSet.elems).getD [] =
      ((index.get? u).map OSet.elems).getD [] ++ [e]
  | v :: vs, index, hu, h => by
    rw [List.foldl_cons]
    by_cases huv : u = v
    · subst huv
      rw [elems_foldl_addToIndex_of_inIndex vs ((inIndex_addToIndex ..).2 (Or.inr ⟨rfl, rfl⟩)),
        addToIndex, OMap.get?_set, if_pos rfl]
      cases hset : index.get? u with
      | none => rfl
      | some set =>
        have helems : e ∉ set.elems := fun hmem => h ⟨set, hset, hmem⟩
        simp [OSet.add, helems]
    · have hnew : ¬ inIndex (addToIndex e index v) u e := by simpa [huv] using h
      rw [elems_foldl_addToIndex ((List.mem_cons.1 hu).resolve_left huv) hnew, addToIndex,
        OMap.get?_set, if_neg huv]

section
variable {record : EventRecord P} {targetIds : List ℕ} {u : ℕ}

theorem indexed_insertEvent (hs : StoreInv s) (hnew : s.events.get? record.eventId = none)
    (hu : u ∈ targetIds) :
    (s.insertEvent targetIds record now).indexed u = s.indexed u ++ [record.eventId] := by
  refine elems_foldl_addToIndex hu fun hin => ?_
  obtain ⟨r, -, hr, -⟩ := hs.recipient u _ hin
  rw [hnew] at hr
  cases hr

/-- A new event comes last of those that are pending for its targets. -/
theorem getPending_insertEvent (hs : StoreInv s) (hnew : s.events.get? record.eventId = none)
    (hcreated : ∀ id r, s.events.get? id = some r → r.createdAt ≤ record.createdAt)
    (hexp : record.isExpired now = false) (hu : u ∈ targetIds) :
    (s.insertEvent targetIds record now).getPending u now =
      s.getPending u now ++ [targetIds.foldl (addTarget now) record] := by
  have hheader := foldl_addTarget_header now targetIds record
  have hpending : (targetIds.foldl (addTarget now) record).isPending u now = true := by
    have hexp' : (targetIds.foldl (addTarget now) record).isExpired now = false := by
      rw [← EventRecord.header_isExpired, hheader, EventRecord.header_isExpired, hexp]
    simp [EventRecord.isPending, EventRecord.getUserStatus, foldl_addTarget_status, hu, hexp']
  have hget : ∀ id ∈ s.indexed u,
      (s.insertEvent targetIds record now).events.get? id = s.events.get? id := by
    intro id hid
    obtain ⟨r, -, hr, -⟩ := hs.recipient u id ((mem_indexed s u id).1 hid)
    have hne : id ≠ record.eventId := by
      rintro rfl
      rw [hnew] at hr
      cases hr
    simp [insertEvent, hne]
  have hrecords : (s.insertEvent targetIds record now).pendingRecords u now =
      s.pendingRecords u now ++ [targetIds.foldl (addTarget now) record] := by
    unfold pendingRecords
    rw [indexed_insertEvent hs hnew hu, List.filterMap_append, List.filter_append,
      List.filterMap_congr hget]
    congr 1
    simp [insertEvent, hpending]
  rw [getPending, hrecords]
  refine insertionSort_concat fun a ha => ?_
  obtain ⟨id, -, ha⟩ := List.mem_filterMap.1 (List.mem_filter.1 ha).1
  exact (hcreated id a ha).trans_eq (createdAt_of_header hheader).symm

end

/-- How many pending events the limit takes from a user, by the number of its events in the index
    and of those that are pending. -/
def surplus (max indexed pending : ℕ) : ℕ :=
  if indexed ≤ max then 0 else if max ≤ pending then pending - max else 2 * pending - max

theorem excess_eq (cfg : StoreConfig) (now : ℤ) (s : EventStore P) (u : ℕ) :
    excess cfg now s u =
      surplus cfg.MAX_EVENTS_PER_USER (s.indexed u).length (s.getPending u now).length := rfl

/-- **What the limits of a creation part**, read off the state before it.  With the new event, a
    target has one event more in the index and one more that is pending, the youngest; if these
    are too many, it loses the oldest ones. -/
theorem mem_limitDrops_inserted (hs : StoreInv s) {e : String} (hnew : s.events.get? e = none)
    (hcreated : ∀ id r, s.events.get? id = some r → r.createdAt ≤ now) {targetIds : List ℕ}
    (hnodup : targetIds.Nodup) (eventName : String) (payload : P) (qos : QoS)
    {options : CreateOptions}
    (hexp : (newRecord e eventName payload qos options now).isExpired now = false) {u : ℕ}
    {id : String} :
    (u, id) ∈ limitDrops cfg now targetIds
        (inserted cfg e targetIds eventName payload qos options now s) ↔
      u ∈ targetIds ∧ id ∈ (((s.makeRoom cfg).getPending u now).map EventRecord.eventId ++ [e]).take
        (surplus cfg.MAX_EVENTS_PER_USER (((s.makeRoom cfg).indexed u).length + 1)
          (((s.makeRoom cfg).getPending u now).length + 1)) := by
  have hroom := noGrow_makeRoom cfg s
  have hfresh := makeRoom_events_none cfg hnew
  rw [mem_limitDrops (storeInv_inserted hs hnew targetIds eventName payload qos options) hnodup]
  refine and_congr_right fun hu => ?_
  have hcreated' : ∀ id r, (s.makeRoom cfg).events.get? id = some r → r.createdAt ≤ now := by
    intro id r hr
    obtain ⟨r₀, hr₀, hheader⟩ := hroom.events id r hr
    exact (createdAt_of_header hheader).le.trans (hcreated id r₀ hr₀)
  let record := newRecord e eventName payload qos options now
  have hpending : ((s.makeRoom cfg).insertEvent targetIds record now).getPending u now =
      (s.makeRoom cfg).getPending u now ++ [targetIds.foldl (addTarget now) record] :=
    getPending_insertEvent (hs.makeRoom cfg) hfresh hcreated' hexp hu
  have hindexed : ((s.makeRoom cfg).insertEvent targetIds record now).indexed u =
      (s.makeRoom cfg).indexed u ++ [e] := indexed_insertEvent (hs.makeRoom cfg) hfresh hu
  rw [limitDrop_eq, excess_eq, inserted, hpending, hindexed, List.map_take, List.map_append,
    List.map_singleton, foldl_addTarget_eventId, List.length_append, List.length_append]
  rfl

/-- **The limit of a user takes the excess alone**, exactly when the index set of the user is
    within the limit, or the pending events reach the limit, or they are at most half of it. -/
theorem newest_iff (h : Reached cfg now s) (u : ℕ) :
    (s.enforcePerUserLimit cfg now u).getPending u now =
        newest (min cfg.MAX_EVENTS_PER_USER (s.getPending u now).length) (s.getPending u now) ↔
      (s.indexed u).length ≤ cfg.MAX_EVENTS_PER_USER ∨
        cfg.MAX_EVENTS_PER_USER ≤ (s.getPending u now).length ∨
        2 * (s.getPending u now).length ≤ cfg.MAX_EVENTS_PER_USER :=
  newest_iff_of_storeInv h.storeInv cfg now u

/-- A user with one pending event and two that it has applied, but another recipient has not. -/
def appliedAndPending : List (ℤ × StoreOp JsObj) :=
  [(10, .create "a" [1, 2] "sync-alarm" [] .qos2 {}),
    (11, .create "b" [1, 2] "sync-alarm" [] .qos2 {}),
    (12, .markApplied 1 "a"), (13, .markApplied 1 "b"),
    (14, .create "c" [1] "sync-alarm" [] .qos2 {})]

/-- With room for two events, the fourth event is over the limit and the pending ones are not. -/
theorem newest_iff_appliedAndPending :
    ∃ w, exec (storeStep { MAX_EVENTS_PER_USER := 2 }) (StoreWorld.init JsObj 0)
        appliedAndPending = some w ∧
      let s := inserted { MAX_EVENTS_PER_USER := 2 } "d" [1] "sync-alarm" [] .qos2 {} 15 w.store
      (s.indexed 1).length = 4 ∧ (s.getPending 1 15).length = 2 ∧
        (s.enforcePerUserLimit { MAX_EVENTS_PER_USER := 2 } 15 1).getPending 1 15 =
          newest (min 2 (s.getPending 1 15).length) (s.getPending 1 15) := by
  have hexec : (exec (storeStep { MAX_EVENTS_PER_USER := 2 }) (StoreWorld.init JsObj 0)
      appliedAndPending).map (fun w =>
        let s := inserted { MAX_EVENTS_PER_USER := 2 } "d" [1] "sync-alarm" [] .qos2 {} 15 w.store
        (w.issued, (s.indexed 1).length, (s.getPending 1 15).length)) =
          some (["c", "b", "a"], 4, 2) := by decide
  obtain ⟨w, hw, hread⟩ := Option.map_eq_some_iff.1 hexec
  obtain ⟨hissued, hread⟩ := Prod.mk.inj hread
  obtain ⟨hindexed, hpending⟩ := Prod.mk.inj hread
  have hnew : "d" ∉ w.issued := by rw [hissued]; decide
  refine ⟨w, hw, hindexed, hpending, ?_⟩
  refine (newest_iff (.creating (run_of_exec hw) hnew [1] "sync-alarm" [] .qos2 {}
    List.nil_prefix) 1).2 (Or.inr (Or.inl ?_))
  exact hpending.ge

/-- With room for three, two pending events are within the limit, and the older one goes. -/
theorem withinLimit_dropped :
    ¬ ∀ (cfg : StoreConfig) (now : ℤ) (s : EventStore JsObj) (u : ℕ),
      0 < cfg.MAX_EVENTS_PER_USER → Reached cfg now s →
        (s.enforcePerUserLimit cfg now u).getPending u now =
          newest (min cfg.MAX_EVENTS_PER_USER (s.getPending u now).length)
            (s.getPending u now) := by
  intro h
  have hexec : (exec (storeStep { MAX_EVENTS_PER_USER := 3 }) (StoreWorld.init JsObj 0)
      appliedAndPending).map (fun w =>
        let s := inserted { MAX_EVENTS_PER_USER := 3 } "d" [1] "sync-alarm" [] .qos2 {} 15 w.store
        (w.issued, (s.getPending 1 15).length,
          ((s.enforcePerUserLimit { MAX_EVENTS_PER_USER := 3 } 15 1).getPending 1 15).length)) =
          some (["c", "b", "a"], 2, 1) := by decide
  obtain ⟨w, hw, hread⟩ := Option.map_eq_some_iff.1 hexec
  obtain ⟨hissued, hread⟩ := Prod.mk.inj hread
  obtain ⟨hbefore, hafter⟩ := Prod.mk.inj hread
  have hnew : "d" ∉ w.issued := by rw [hissued]; decide
  have hclaim := congrArg List.length (h { MAX_EVENTS_PER_USER := 3 } 15 _ 1 (by decide)
    (.creating (run_of_exec hw) hnew [1] "sync-alarm" [] .qos2 {} List.nil_prefix))
  rw [List.foldl_nil, hafter, newest, List.length_drop, hbefore] at hclaim
  cases hclaim

end EventStore

end GatewayRealtime
