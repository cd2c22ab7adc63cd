/-
  The event store without its index (`services/event-store.service.ts`).

  The store keeps, beside its records, a set of ids for each user, and it sorts whatever it reads.
  Here is what it is for: a list of events, oldest first, each with the users that it is for.

  * `Journal`: such a list, with what was emitted about the events that are gone.
  * `Journal.apply`: the operations of the store on it, `Journal.mine`, `Journal.pending` and
    `Journal.toRetry` its reads.
  * `Refines`: a store and a journal with the same events, for the same users.
  * `Refines.apply`: an operation keeps the two in step.
  * `store_refines_journal`: after every run, the store reads like the journal of its operations.
-/
import GatewayRealtime.Outcome
import GatewayRealtime.Lib.Multimap

namespace GatewayRealtime

open EventStore

/-! ## Journals -/

/-- An event, and the users that it is for: its targets, but for those that it was dropped for. -/
structure Entry (P : Type) where
  record : EventRecord P
  recipients : List ℕ

/-- The event is no longer for a user. -/
def Entry.drop {P : Type} (userId : ℕ) (x : Entry P) : Entry P where
  record := x.record.dropUser userId
  recipients := x.recipients.filter (· ≠ userId)

/-- The events that are stored, oldest first, and what was emitted as `event.expired`. -/
structure Journal (P : Type) where
  entries : List (Entry P) := []
  emitted : List EventExpired := []

namespace Journal

variable {P : Type} (j : Journal P)

/-- The records, oldest first. -/
def records : List (EventRecord P) := j.entries.map Entry.record

/-- The event with an id. -/
def get? (eventId : String) : Option (EventRecord P) :=
  (j.entries.find? (·.record.eventId = eventId)).map Entry.record

/-- The events for a user, oldest first. -/
def mine (userId : ℕ) : List (EventRecord P) :=
  (j.entries.filter (userId ∈ ·.recipients)).map Entry.record

/-- The events of a user that are neither applied by it nor expired. -/
def pending (userId : ℕ) (now : ℤ) : List (EventRecord P) :=
  (j.mine userId).filter (·.isPending userId now)

/-- The events of a user that are due to be sent again. -/
def toRetry (cfg : StoreConfig) (userId : ℕ) (now : ℤ) (jitter : String → ℚ) :
    List (EventRecord P) :=
  ((j.mine userId).filter fun event =>
    !event.isExpired now && event.shouldRetry userId now cfg.MAX_ATTEMPT_PER_EVENT
      cfg.DELIVERED_TIMEOUT cfg.BASE_BACKOFF_EVENT (jitter event.eventId)).insertionSort
        (retryBefore userId)

/-- Some events go, for one reason. -/
def remove (gone : List (EventRecord P)) (reason : RemoveReason) : Journal P where
  entries := j.entries.filter (·.record.eventId ∉ gone.map EventRecord.eventId)
  emitted := j.emitted ++ gone.flatMap (expiredNotice · reason)

/-- One entry is changed where it stands. -/
def change (eventId : String) (f : Entry P → Entry P) : Journal P :=
  { j with entries := j.entries.map fun x => if x.record.eventId = eventId then f x else x }

/-- The record of one event is rewritten. -/
def rewrite (eventId : String) (f : EventRecord P → EventRecord P) : Journal P :=
  j.change eventId fun x => { x with record := f x.record }

/-- One event is dropped for one user, and goes when it has no user left. -/
def drop (userId : ℕ) (j : Journal P) (eventId : String) : Journal P :=
  let j := j.change eventId (·.drop userId)
  j.remove ((j.get? eventId).toList.filter (·.userStatus.size = 0)) .force

/-- The limit of one user. -/
def limit (cfg : StoreConfig) (now : ℤ) (j : Journal P) (userId : ℕ) : Journal P :=
  if (j.mine userId).length ≤ cfg.MAX_EVENTS_PER_USER then j
  else
    let pending := j.pending userId now
    ((sliceTo pending (pending.length - cfg.MAX_EVENTS_PER_USER)).map EventRecord.eventId).foldl
      (drop userId) j

/-- The least important events beyond the limit of the store go. -/
def evict (cfg : StoreConfig) : Journal P :=
  j.remove (sliceTo (j.records.insertionSort evictBefore)
    (j.records.length - cfg.MAX_EVENTS_TOTAL)) .force

/-- A new event comes last. -/
def add (targetIds : List ℕ) (record : EventRecord P) (now : ℤ) : Journal P :=
  { j with entries := j.entries ++ [⟨targetIds.foldl (addTarget now) record, targetIds⟩] }

/-- A user has applied an event, which goes when all have. -/
def applied (userId : ℕ) (eventId : String) : Journal P :=
  let j := j.rewrite eventId (·.setUserStatus userId .APPLIED)
  j.remove ((j.get? eventId).toList.filter (·.isAllApplied)) .applied

/-- The operations of the store. -/
def apply (cfg : StoreConfig) (now : ℤ) (j : Journal P) : StoreOp P → Journal P
  | .create eventId targetIds eventName payload qos options =>
    let j := if cfg.MAX_EVENTS_TOTAL ≤ j.entries.length then j.evict cfg else j
    let j := j.add targetIds (newRecord eventId eventName payload qos options now) now
    targetIds.foldl (limit cfg now) j
  | .markDelivered userId eventId =>
    j.rewrite eventId fun r =>
      if r.getUserStatus userId = .APPLIED then r
      else (r.setUserStatus userId .DELIVERED).incrementDeliveryAttempt userId now
  | .markFailed userId eventId error =>
    j.rewrite eventId fun r =>
      if r.getUserStatus userId = .FAILED then r
      else ((r.setUserStatus userId .FAILED).incrementDeliveryAttempt userId now).addDeliveryError
        userId error
  | .markApplied userId eventId => j.applied userId eventId
  | .expiryTimer eventId => j.remove ((j.get? eventId).toList.filter (·.isExpired now)) .expired
  | .cleanup =>
    let j := j.remove (j.records.filter (·.isExpired now)) .expired
    let j := { j with
      entries := j.entries.map fun x => { x with record := failStale cfg now x.record } }
    if cfg.MAX_EVENTS_TOTAL < j.entries.length then j.evict cfg else j

@[simp] theorem remove_nil (reason : RemoveReason) : j.remove [] reason = j := by
  simp [remove]

theorem remove_cons (r : EventRecord P) (gone : List (EventRecord P)) (reason : RemoveReason) :
    j.remove (r :: gone) reason = (j.remove [r] reason).remove gone reason := by
  simp only [remove, List.filter_filter, List.flatMap_cons, List.flatMap_nil, List.append_nil,
    List.append_assoc, mk.injEq, and_true]
  refine List.filter_congr fun x _ => ?_
  simp only [List.map_cons, List.map_nil, List.mem_cons, List.not_mem_nil, or_false, not_or]
  rw [Bool.and_comm, Bool.decide_and]

theorem records_remove (gone : List (EventRecord P)) (reason : RemoveReason) :
    (j.remove gone reason).records =
      j.records.filter (·.eventId ∉ gone.map EventRecord.eventId) := by
  rw [records, remove, records, List.filter_map]
  rfl

theorem mine_remove (gone : List (EventRecord P)) (reason : RemoveReason) (u : ℕ) :
    (j.remove gone reason).mine u =
      (j.mine u).filter (·.eventId ∉ gone.map EventRecord.eventId) := by
  rw [mine, remove, mine, List.filter_map, List.filter_filter, List.filter_filter]
  refine congrArg _ (List.filter_congr fun x _ => ?_)
  exact Bool.and_comm ..

theorem mem_mine {u : ℕ} {r : EventRecord P} :
    r ∈ j.mine u ↔ ∃ x ∈ j.entries, u ∈ x.recipients ∧ x.record = r := by
  simp [mine, and_assoc]

theorem mem_records {r : EventRecord P} : r ∈ j.records ↔ ∃ x ∈ j.entries, x.record = r := by
  simp [records]

theorem mine_subset (u : ℕ) : j.mine u ⊆ j.records :=
  List.map_subset _ (List.filter_subset_self _)

end Journal

/-! ## A store and a journal -/

section
variable {P : Type} {s : EventStore P} {j : Journal P}

/-- The store has the events of the journal, in order, and its index says whom they are for. -/
structure Refines (s : EventStore P) (j : Journal P) : Prop where
  entries : s.events.entries = j.entries.map fun x => (x.record.eventId, x.record)
  indexed : ∀ u, s.indexed u = (j.mine u).map EventRecord.eventId
  known : ∀ x ∈ j.entries, ∀ u ∈ x.recipients, u ∈ x.record.userStatus.keys
  emitted : s.emitted = j.emitted
  sorted : j.records.Pairwise EventRecord.before

theorem Refines.get? (h : Refines s j) (e : String) : s.events.get? e = j.get? e := by
  rw [OMap.get?, h.entries, OMap.find_map]
  rfl

theorem Refines.values (h : Refines s j) : s.events.values = j.records := by
  rw [OMap.values, h.entries, List.map_map]
  rfl

theorem Refines.size (h : Refines s j) : s.events.size = j.entries.length := by
  rw [OMap.size, h.entries, List.length_map]

theorem Refines.nodup (h : Refines s j) : (j.records.map EventRecord.eventId).Nodup := by
  have hnodup := s.events.nodup
  rw [h.entries, List.map_map] at hnodup
  rw [Journal.records, List.map_map]
  exact hnodup

theorem Refines.get?_eq_some_iff (h : Refines s j) {e : String} {r : EventRecord P} :
    s.events.get? e = some r ↔ r ∈ j.records ∧ r.eventId = e := by
  rw [← OMap.mem_entries, h.entries, List.mem_map, Journal.mem_records]
  simp only [Prod.mk.injEq]
  constructor
  · rintro ⟨x, hx, rfl, rfl⟩
    exact ⟨⟨x, hx, rfl⟩, rfl⟩
  · rintro ⟨⟨x, hx, rfl⟩, rfl⟩
    exact ⟨x, hx, rfl, rfl⟩

/-- The records of the ids in an index set. -/
theorem Refines.filterMap_indexed (h : Refines s j) (u : ℕ) :
    (s.indexed u).filterMap s.events.get? = j.mine u := by
  rw [h.indexed, List.filterMap_map]
  have hsome : ∀ r ∈ j.mine u, (s.events.get? ∘ EventRecord.eventId) r = some r := fun r hr =>
    h.get?_eq_some_iff.2 ⟨j.mine_subset u hr, rfl⟩
  rw [List.filterMap_congr hsome, List.filterMap_some]

theorem Refines.mem_indexed (h : Refines s j) {u : ℕ} {e : String} {r : EventRecord P}
    (hr : s.events.get? e = some r) (hu : e ∈ s.indexed u) : u ∈ r.userStatus.keys := by
  rw [h.indexed, List.mem_map] at hu
  obtain ⟨r', hr', rfl⟩ := hu
  obtain rfl := Option.some.inj ((h.get?_eq_some_iff.2 ⟨j.mine_subset u hr', rfl⟩).symm.trans hr)
  obtain ⟨x, hx, hu, rfl⟩ := j.mem_mine.1 hr'
  exact h.known x hx u hu

/-- The counters and the timers are not part of it. -/
theorem Refines.congr {s' : EventStore P} (h : Refines s j) (he : s'.events = s.events)
    (hu : s'.userEvents = s.userEvents) (hm : s'.emitted = s.emitted) : Refines s' j where
  entries := he ▸ h.entries
  indexed u := (congrArg (OMap.members · u) hu).trans (h.indexed u)
  known := h.known
  emitted := hm ▸ h.emitted
  sorted := h.sorted

/-! ## Removals -/

theorem members_unindex (e : String) (index : OMap ℕ (OSet String)) (v u : ℕ) :
    (unindex e index v).members u =
      if u = v then (index.members u).filter (· ≠ e) else index.members u := by
  unfold unindex
  split
  · rename_i hnone
    split_ifs with huv
    · subst huv
      simp [OMap.members, hnone]
    · rfl
  · rename_i set hset
    have hmembers : index.members v = set.elems := by simp [OMap.members, hset]
    split_ifs with hempty huv
    · subst huv
      rw [OMap.members_delete, if_pos rfl, hmembers]
      exact (List.length_eq_zero_iff.1 hempty).symm
    · rw [OMap.members_delete, if_neg huv]
    · rename_i huv
      subst huv
      rw [OMap.members_set, if_pos rfl, hmembers]
      rfl
    · rename_i huv
      rw [OMap.members_set, if_neg huv]

theorem members_foldl_unindex (e : String) (u : ℕ) : ∀ (vs : List ℕ)
    (index : OMap ℕ (OSet String)), (vs.foldl (unindex e) index).members u =
      if u ∈ vs then (index.members u).filter (· ≠ e) else index.members u
  | [], _ => rfl
  | v :: vs, index => by
    rw [List.foldl_cons, members_foldl_unindex e u vs, members_unindex]
    by_cases huv : u = v <;> by_cases hu : u ∈ vs <;> simp [huv, hu, List.filter_filter]

/-- One event goes. -/
theorem Refines.removeEvent (h : Refines s j) {e : String} {r : EventRecord P}
    (hr : s.events.get? e = some r) (reason : RemoveReason) :
    Refines (s.removeEvent e reason) (j.remove [r] reason) := by
  obtain ⟨-, rfl⟩ := h.get?_eq_some_iff.1 hr
  have heq : s.removeEvent r.eventId reason =
      { s with
        timers := s.timers.delete r.eventId
        emitted := s.emitted ++ expiredNotice r reason
        userEvents := r.userStatus.keys.foldl (unindex r.eventId) s.userEvents
        events := s.events.delete r.eventId } := by
    simp only [EventStore.removeEvent, hr]
  rw [heq]
  refine ⟨?_, fun u => ?_, fun x hx => h.known x (List.mem_of_mem_filter hx), ?_, ?_⟩
  · simp only [OMap.delete, h.entries, List.filter_map, Journal.remove]
    refine congrArg _ (List.filter_congr fun x _ => ?_)
    simp
  · have hmembers : EventStore.indexed
        { s with
          timers := s.timers.delete r.eventId
          emitted := s.emitted ++ expiredNotice r reason
          userEvents := r.userStatus.keys.foldl (unindex r.eventId) s.userEvents
          events := s.events.delete r.eventId } u = (s.indexed u).filter (· ≠ r.eventId) := by
      refine (members_foldl_unindex r.eventId u _ _).trans ?_
      split_ifs with hu
      · rfl
      · refine (List.filter_eq_self.2 fun id hid => ?_).symm
        simp only [decide_eq_true_eq]
        rintro rfl
        exact hu (h.mem_indexed hr hid)
    rw [hmembers, h.indexed, Journal.mine_remove, List.filter_map]
    refine congrArg _ (List.filter_congr fun x _ => ?_)
    simp
  · simp [Journal.remove, h.emitted]
  · rw [Journal.records_remove]
    exact h.sorted.filter _

/-- Several events go, one after the other. -/
theorem Refines.foldl_removeEvent (reason : RemoveReason) : ∀ (gone : List (EventRecord P))
    {s : EventStore P} {j : Journal P}, Refines s j → gone ⊆ j.records →
    (gone.map EventRecord.eventId).Nodup →
    Refines ((gone.map EventRecord.eventId).foldl (fun s id => s.removeEvent id reason) s)
      (j.remove gone reason)
  | [], _, _, h, _, _ => by rwa [Journal.remove_nil]
  | r :: gone, s, j, h, hsub, hnodup => by
    rw [List.map_cons, List.nodup_cons] at hnodup
    rw [List.cons_subset] at hsub
    rw [Journal.remove_cons, List.map_cons, List.foldl_cons]
    refine Refines.foldl_removeEvent reason gone
      (h.removeEvent (h.get?_eq_some_iff.2 ⟨hsub.1, rfl⟩) reason) (fun r' hr' => ?_) hnodup.2
    rw [Journal.records_remove]
    refine List.mem_filter.2 ⟨hsub.2 hr', ?_⟩
    simp only [List.map_cons, List.map_nil, List.mem_singleton, decide_eq_true_eq]
    exact fun heq => hnodup.1 (heq ▸ List.mem_map_of_mem hr')

/-- An event goes if it is there and meets a condition. -/
theorem Refines.removeIf (h : Refines s j) {s' : EventStore P} {e : String}
    {c : EventRecord P → Bool} {reason : RemoveReason} (hnone : s.events.get? e = none → s' = s)
    (hsome : ∀ r, s.events.get? e = some r → s' = if c r then s.removeEvent e reason else s) :
    Refines s' (j.remove ((j.get? e).toList.filter c) reason) := by
  rw [← h.get? e]
  cases hr : s.events.get? e with
  | none =>
    rw [hnone hr]
    simpa using h
  | some r =>
    rw [hsome r hr]
    cases hc : c r with
    | false => simpa [hc] using h
    | true => simpa [hc] using h.removeEvent hr reason

/-! ## Changes -/

theorem Journal.records_change {e : String} {f : EventRecord P → EventRecord P}
    {g : Entry P → Entry P} (hg : ∀ x, (g x).record = f x.record) :
    (j.change e g).records = j.records.map fun r => if r.eventId = e then f r else r := by
  rw [Journal.records, Journal.change, Journal.records, List.map_map, List.map_map]
  refine List.map_congr_left fun x _ => ?_
  simp only [Function.comp_apply]
  split_ifs
  · exact hg x
  · rfl

/-- One record is written anew, and the index follows the entry. -/
theorem Refines.change (h : Refines s j) {e : String} {f : EventRecord P → EventRecord P}
    {g : Entry P → Entry P} {index : OMap ℕ (OSet String)}
    (hg : ∀ x, (g x).record = f x.record) (hid : ∀ r, (f r).eventId = r.eventId)
    (hcreated : ∀ r, (f r).createdAt = r.createdAt)
    (hindex : ∀ u, index.members u = ((j.change e g).mine u).map EventRecord.eventId)
    (hknown : ∀ x ∈ j.entries, ∀ u ∈ (g x).recipients, u ∈ (g x).record.userStatus.keys) :
    Refines (EventStore.updateEvent { s with userEvents := index } e f) (j.change e g) where
  entries := by
    rw [EventStore.updateEvent, OMap.entries_modify, h.entries, Journal.change, List.map_map,
      List.map_map]
    refine List.map_congr_left fun x _ => ?_
    simp only [Function.comp_apply]
    split_ifs
    · rw [hg, hid]
    · rfl
  indexed := hindex
  known x hx := by
    obtain ⟨y, hy, rfl⟩ := List.mem_map.1 hx
    split_ifs
    · exact hknown y hy
    · exact h.known y hy
  emitted := h.emitted
  sorted := by
    rw [Journal.records_change hg, List.pairwise_map]
    refine h.sorted.imp fun hab => ?_
    unfold EventRecord.before at *
    split_ifs <;> simpa only [hcreated] using hab

/-- A change of entries that are for the same users. -/
theorem Journal.mine_rewrite (e : String) (f : EventRecord P → EventRecord P) (u : ℕ) :
    (j.rewrite e f).mine u = (j.mine u).map fun r => if r.eventId = e then f r else r := by
  unfold Journal.rewrite Journal.change Journal.mine
  induction j.entries with
  | nil => rfl
  | cons x l ih =>
    by_cases hx : x.record.eventId = e <;> by_cases hu : u ∈ x.recipients <;>
      simpa [hx, hu] using ih

theorem Refines.rewrite (h : Refines s j) (e : String) {f : EventRecord P → EventRecord P}
    (hid : ∀ r, (f r).eventId = r.eventId) (hcreated : ∀ r, (f r).createdAt = r.createdAt)
    (hknown : ∀ r u, u ∈ r.userStatus.keys → u ∈ (f r).userStatus.keys) :
    Refines (s.updateEvent e f) (j.rewrite e f) := by
  refine h.change (fun _ => rfl) hid hcreated (fun u => ?_)
    fun x hx u hu => hknown _ u (h.known x hx u hu)
  refine (h.indexed u).trans ?_
  rw [show j.change e (fun x => { x with record := f x.record }) = j.rewrite e f from rfl,
    Journal.mine_rewrite, List.map_map]
  refine List.map_congr_left fun r _ => ?_
  simp only [Function.comp_apply]
  split_ifs
  · exact (hid r).symm
  · rfl

theorem Journal.mine_change_drop (e : String) (v u : ℕ) :
    ((j.change e (·.drop v)).mine u).map EventRecord.eventId =
      if u = v then ((j.mine u).map EventRecord.eventId).filter (· ≠ e)
      else (j.mine u).map EventRecord.eventId := by
  unfold Journal.change Journal.mine Entry.drop
  induction j.entries with
  | nil => simp
  | cons x l ih =>
    by_cases hx : x.record.eventId = e <;> by_cases hu : u ∈ x.recipients <;>
      by_cases huv : u = v <;> simp_all [EventRecord.dropUser]

theorem Refines.drop (h : Refines s j) (v : ℕ) (e : String) :
    Refines (s.dropForUser v e) (j.drop v e) := by
  have hchange : Refines (EventStore.updateEvent
      { s with userEvents := s.userEvents.modify v (·.remove e) } e (·.dropUser v))
      (j.change e (·.drop v)) := by
    refine h.change (fun _ => rfl) (fun _ => rfl) (fun _ => rfl) (fun u => ?_) fun x hx u hu => ?_
    · rw [OMap.members_modify_remove, Journal.mine_change_drop, ← h.indexed]
      rfl
    · obtain ⟨hmem, hne⟩ := List.mem_filter.1 hu
      obtain ⟨st, hst⟩ := (OMap.mem_keys _ _).1 (h.known x hx u hmem)
      have huv : u ≠ v := by simpa using hne
      exact (OMap.mem_keys _ _).2 ⟨st, by simp [Entry.drop, huv, hst]⟩
  refine hchange.removeIf (fun hnone => ?_) fun r hr => ?_
  · simp only [EventStore.dropForUser, hnone]
  · simp only [EventStore.dropForUser, hr, decide_eq_true_eq]

theorem Refines.foldl_drop (v : ℕ) : ∀ (ids : List String) {s : EventStore P} {j : Journal P},
    Refines s j → Refines (ids.foldl (EventStore.dropForUser v) s) (ids.foldl (Journal.drop v) j)
  | [], _, _, h => h
  | e :: ids, _, _, h => Refines.foldl_drop v ids (h.drop v e)

/-! ## Limits -/

theorem Refines.pendingRecords (h : Refines s j) (u : ℕ) (now : ℤ) :
    s.pendingRecords u now = j.pending u now := by
  rw [EventStore.pendingRecords, h.filterMap_indexed, Journal.pending]

/-- What is pending for a user is in order. -/
theorem Refines.sorted_pending (h : Refines s j) (u : ℕ) (now : ℤ) :
    (j.pending u now).Pairwise EventRecord.before := by
  have hsub : (j.mine u).Sublist j.records := List.filter_sublist.map Entry.record
  exact (h.sorted.sublist hsub).filter _

theorem Refines.getPending (h : Refines s j) (u : ℕ) (now : ℤ) :
    s.getPending u now = j.pending u now := by
  rw [EventStore.getPending, h.pendingRecords]
  exact (h.sorted_pending u now).insertionSort_eq

theorem Refines.limit (h : Refines s j) (cfg : StoreConfig) (now : ℤ) (u : ℕ) :
    Refines (s.enforcePerUserLimit cfg now u) (j.limit cfg now u) := by
  have hlength : (s.indexed u).length = (j.mine u).length := by rw [h.indexed, List.length_map]
  have hsorted : (s.pendingRecords u now).insertionSort EventRecord.before = j.pending u now :=
    h.getPending u now
  unfold EventStore.enforcePerUserLimit Journal.limit
  rw [hlength, hsorted]
  split_ifs
  · exact h
  · exact h.foldl_drop u _

theorem Refines.foldl_limit (cfg : StoreConfig) (now : ℤ) : ∀ (us : List ℕ) {s : EventStore P}
    {j : Journal P}, Refines s j →
    Refines (us.foldl (EventStore.enforcePerUserLimit cfg now) s)
      (us.foldl (Journal.limit cfg now) j)
  | [], _, _, h => h
  | u :: us, _, _, h => Refines.foldl_limit cfg now us (h.limit cfg now u)

theorem sliceTo_sublist {α : Type} (l : List α) (stop : ℤ) : (sliceTo l stop).Sublist l := by
  unfold sliceTo
  split_ifs <;> exact List.take_sublist _ l

theorem Refines.evict (h : Refines s j) (cfg : StoreConfig) :
    Refines (s.forceCleanup cfg) (j.evict cfg) := by
  have hperm := List.perm_insertionSort evictBefore j.records
  unfold EventStore.forceCleanup Journal.evict
  dsimp only
  rw [h.values, List.length_insertionSort]
  have hsub := sliceTo_sublist (j.records.insertionSort evictBefore)
    (j.records.length - cfg.MAX_EVENTS_TOTAL)
  refine h.foldl_removeEvent .force _ (fun r hr => hperm.mem_iff.1 (hsub.subset hr)) ?_
  exact ((hperm.map _).nodup_iff.2 h.nodup).sublist (hsub.map _)

/-! ## Operations -/

theorem members_addToIndex (e : String) (index : OMap ℕ (OSet String)) (v u : ℕ) :
    (addToIndex e index v).members u =
      if u = v ∧ e ∉ index.members u then index.members u ++ [e] else index.members u := by
  rw [addToIndex, OMap.members_set]
  by_cases huv : u = v
  · subst huv
    have helems : ((index.get? u).getD .empty).elems = index.members u := by
      unfold OMap.members
      cases index.get? u <;> rfl
    simp only [if_true, OSet.add, helems, true_and, ite_not]
  · simp [huv]

theorem members_foldl_addToIndex (e : String) (u : ℕ) : ∀ (vs : List ℕ)
    (index : OMap ℕ (OSet String)), (vs.foldl (addToIndex e) index).members u =
      if u ∈ vs ∧ e ∉ index.members u then index.members u ++ [e] else index.members u
  | [], _ => by simp
  | v :: vs, index => by
    rw [List.foldl_cons, members_foldl_addToIndex e u vs, members_addToIndex]
    by_cases huv : u = v <;> by_cases hu : u ∈ vs <;> by_cases he : e ∈ index.members u <;>
      simp [huv, hu, he] <;> simp_all

theorem Journal.mine_add (targetIds : List ℕ) (record : EventRecord P) (now : ℤ) (u : ℕ) :
    (j.add targetIds record now).mine u =
      if u ∈ targetIds then j.mine u ++ [targetIds.foldl (addTarget now) record]
      else j.mine u := by
  rw [Journal.mine, Journal.add, List.filter_append, List.map_append]
  by_cases hu : u ∈ targetIds <;> simp [hu, Journal.mine]

/-- A new event comes last. -/
theorem Refines.insertEvent (h : Refines s j) (targetIds : List ℕ) {record : EventRecord P}
    {now : ℤ} (hnew : s.events.get? record.eventId = none)
    (hlast : ∀ r ∈ j.records, r.createdAt ≤ record.createdAt) :
    Refines (s.insertEvent targetIds record now) (j.add targetIds record now) where
  entries := by
    have hid : (targetIds.foldl (addTarget now) record).eventId = record.eventId :=
      foldl_addTarget_eventId ..
    simp only [EventStore.insertEvent, Journal.add]
    rw [OMap.entries_set hnew, h.entries, List.map_append, List.map_singleton, hid]
  indexed u := by
    have hnot : record.eventId ∉ s.userEvents.members u := fun hmem => by
      have hmem : record.eventId ∈ s.indexed u := hmem
      rw [h.indexed] at hmem
      obtain ⟨r, hr, hid⟩ := List.mem_map.1 hmem
      rw [h.get?_eq_some_iff.2 ⟨j.mine_subset u hr, hid⟩] at hnew
      cases hnew
    refine (members_foldl_addToIndex record.eventId u targetIds _).trans ?_
    have hmembers : s.userEvents.members u = (j.mine u).map EventRecord.eventId := h.indexed u
    rw [if_congr (and_iff_left hnot) rfl rfl, Journal.mine_add, hmembers]
    split_ifs
    · rw [List.map_append, List.map_singleton, foldl_addTarget_eventId]
    · rfl
  known x hx := by
    rcases List.mem_append.1 hx with hx | hx
    · exact h.known x hx
    · obtain rfl := List.mem_singleton.1 hx
      intro u hu
      exact (OMap.mem_keys _ _).2 ⟨.STORED, by rw [foldl_addTarget_status, if_pos hu]⟩
  emitted := h.emitted
  sorted := by
    have hcreated := createdAt_of_header (foldl_addTarget_header now targetIds record)
    rw [Journal.records, Journal.add, List.map_append, List.map_singleton, List.pairwise_append]
    refine ⟨h.sorted, List.pairwise_singleton .., fun r hr r' hr' => ?_⟩
    obtain rfl := List.mem_singleton.1 hr'
    exact (hlast r hr).trans hcreated.ge

theorem Refines.create (h : Refines s j) (cfg : StoreConfig) {e : String}
    (hnew : s.events.get? e = none) {now : ℤ} (hpast : ∀ r ∈ j.records, r.createdAt ≤ now)
    (targetIds : List ℕ) (eventName : String) (payload : P) (qos : QoS) (options : CreateOptions) :
    Refines (s.create cfg e targetIds eventName payload qos options now)
      (j.apply cfg now (.create e targetIds eventName payload qos options)) := by
  obtain ⟨j', hj', hroom, hsub⟩ : ∃ j',
      (if cfg.MAX_EVENTS_TOTAL ≤ j.entries.length then j.evict cfg else j) = j' ∧
        Refines (s.makeRoom cfg) j' ∧ j'.records ⊆ j.records := by
    refine ⟨_, rfl, ?_⟩
    unfold EventStore.makeRoom
    rw [h.size]
    split_ifs
    · refine ⟨h.evict cfg, ?_⟩
      rw [Journal.evict, Journal.records_remove]
      exact List.filter_subset_self _
    · exact ⟨h, List.Subset.refl _⟩
  have hcore : Refines (createCore cfg e targetIds eventName payload qos options now s)
      (j.apply cfg now (.create e targetIds eventName payload qos options)) := by
    rw [Journal.apply, hj']
    refine Refines.foldl_limit cfg now targetIds (hroom.insertEvent targetIds ?_ ?_)
    · exact makeRoom_events_none cfg hnew
    · exact fun r hr => hpast r (hsub hr)
  exact hcore.congr (create_events ..) (create_userEvents ..) (create_emitted ..)

theorem Journal.rewrite_congr {e : String} {f g : EventRecord P → EventRecord P}
    (heq : ∀ r ∈ j.records, r.eventId = e → f r = g r) : j.rewrite e f = j.rewrite e g := by
  unfold Journal.rewrite Journal.change
  refine congrArg (Journal.mk · _) (List.map_congr_left fun x hx => ?_)
  split_ifs with hid
  · exact congrArg (Entry.mk · x.recipients) (heq x.record (j.mem_records.2 ⟨x, hx, rfl⟩) hid)
  · rfl

theorem Journal.rewrite_eq_self {e : String} {f : EventRecord P → EventRecord P}
    (heq : ∀ r ∈ j.records, r.eventId = e → f r = r) : j.rewrite e f = j := by
  rw [Journal.rewrite_congr (g := id) heq]
  have hsame : ∀ x ∈ j.entries, (if x.record.eventId = e then
      (⟨id x.record, x.recipients⟩ : Entry P) else x) = id x := fun x _ => ite_self _
  exact congrArg (Journal.mk · j.emitted) ((List.map_congr_left hsame).trans (List.map_id _))

/-- Writing the status of a user takes nobody else out of a record. -/
theorem mem_keys_setStatus {r r' : EventRecord P} {v : ℕ} {status : TypeEventStatus}
    (hset : r'.userStatus = r.userStatus.set v status) {u : ℕ} (hu : u ∈ r.userStatus.keys) :
    u ∈ r'.userStatus.keys := by
  rw [hset, OMap.keys_set]
  split_ifs
  · exact hu
  · exact List.mem_append_left _ hu

/-- A mark that leaves a record alone in one case. -/
theorem Refines.mark (h : Refines s j) {s' : EventStore P} {u : ℕ} {e : String}
    {status kept : TypeEventStatus} (f : EventRecord P → EventRecord P)
    (hnone : s.events.get? e = none → s' = s)
    (hkept : ∀ r, s.events.get? e = some r → r.getUserStatus u = kept → s' = s)
    (hset : ∀ r, s.events.get? e = some r → r.getUserStatus u ≠ kept → ∃ stats,
      s' = { s.updateEvent e f with stats := stats })
    (hid : ∀ r, (f r).eventId = r.eventId) (hcreated : ∀ r, (f r).createdAt = r.createdAt)
    (hstatus : ∀ r, (f r).userStatus = r.userStatus.set u status) :
    Refines s' (j.rewrite e fun r => if r.getUserStatus u = kept then r else f r) := by
  cases hr : s.events.get? e with
  | none =>
    rw [hnone hr, Journal.rewrite_eq_self fun r hmem he => ?_]
    · exact h
    · rw [h.get?_eq_some_iff.2 ⟨hmem, he⟩] at hr
      cases hr
  | some r =>
    have hunique : ∀ r' ∈ j.records, r'.eventId = e → r' = r := fun r' hmem he =>
      Option.some.inj ((h.get?_eq_some_iff.2 ⟨hmem, he⟩).symm.trans hr)
    by_cases hk : r.getUserStatus u = kept
    · rw [hkept r hr hk, Journal.rewrite_eq_self fun r' hmem he => ?_]
      · exact h
      · rw [hunique r' hmem he, if_pos hk]
    · obtain ⟨stats, rfl⟩ := hset r hr hk
      rw [Journal.rewrite_congr (g := f) fun r' hmem he => ?_]
      · have hrewrite := h.rewrite e hid hcreated fun r _ => mem_keys_setStatus (hstatus r)
        exact hrewrite.congr rfl rfl rfl
      · rw [hunique r' hmem he, if_neg hk]

theorem Refines.markDelivered (h : Refines s j) (cfg : StoreConfig) (u : ℕ) (e : String)
    (now : ℤ) : Refines (s.markDelivered u e now) (j.apply cfg now (.markDelivered u e)) := by
  refine h.mark (fun r => (r.setUserStatus u .DELIVERED).incrementDeliveryAttempt u now)
    (fun hnone => ?_) (fun r hr hk => ?_) (fun r hr hk => ?_) (fun _ => rfl) (fun _ => rfl)
    fun _ => rfl
  · simp only [EventStore.markDelivered, hnone]
  · simp only [EventStore.markDelivered, hr, if_pos hk]
  · refine ⟨{ s.stats with totalEventsDelivered := s.stats.totalEventsDelivered + 1 }, ?_⟩
    simp only [EventStore.markDelivered, hr, if_neg hk]

theorem Refines.markApplied (h : Refines s j) (u : ℕ) (e : String) :
    Refines (s.markApplied u e) (j.applied u e) := by
  have hset : Refines (s.updateEvent e (·.setUserStatus u .APPLIED))
      (j.rewrite e (·.setUserStatus u .APPLIED)) :=
    h.rewrite e (fun _ => rfl) (fun _ => rfl) fun _ _ => mem_keys_setStatus rfl
  cases hr : s.events.get? e with
  | none =>
    have hsame : j.rewrite e (·.setUserStatus u .APPLIED) = j :=
      Journal.rewrite_eq_self fun r hmem he => by
        rw [h.get?_eq_some_iff.2 ⟨hmem, he⟩] at hr
        cases hr
    have hnone : j.get? e = none := (h.get? e).symm.trans hr
    simp only [EventStore.markApplied, hr, Journal.applied, hsame, hnone]
    simpa using h
  | some r =>
    have hmark : s.markApplied u e =
        if (r.setUserStatus u .APPLIED).isAllApplied then
          EventStore.removeEvent { s.updateEvent e (·.setUserStatus u .APPLIED) with
            stats := { s.stats with totalEventsApplied := s.stats.totalEventsApplied + 1 } } e
              .applied
        else { s.updateEvent e (·.setUserStatus u .APPLIED) with
          stats := { s.stats with totalEventsApplied := s.stats.totalEventsApplied + 1 } } := by
      simp only [EventStore.markApplied, hr]
    have hstats : Refines { s.updateEvent e (·.setUserStatus u .APPLIED) with
        stats := { s.stats with totalEventsApplied := s.stats.totalEventsApplied + 1 } }
        (j.rewrite e (·.setUserStatus u .APPLIED)) := hset.congr rfl rfl rfl
    have hrecord : (s.updateEvent e (·.setUserStatus u .APPLIED)).events.get? e =
        some (r.setUserStatus u .APPLIED) := by
      rw [updateEvent_events, if_pos rfl, hr]
      rfl
    refine hstats.removeIf (fun hnone => ?_) fun r' hr' => ?_
    · cases hrecord.symm.trans hnone
    · obtain rfl := Option.some.inj (hrecord.symm.trans hr')
      exact hmark

theorem Refines.expiryTimer (h : Refines s j) (e : String) (now : ℤ) :
    Refines (s.expiryTimer e now)
      (j.remove ((j.get? e).toList.filter (·.isExpired now)) .expired) := by
  have hclear : Refines { s with timers := s.timers.delete e } j := h.congr rfl rfl rfl
  refine hclear.removeIf (fun hnone => ?_) fun r hr => ?_
  · have hnone : s.events.get? e = none := hnone
    simp only [EventStore.expiryTimer, hnone]
  · have hr : s.events.get? e = some r := hr
    simp only [EventStore.expiryTimer, hr]

/-- All records are written anew. -/
theorem Refines.mapVal (h : Refines s j) {f : EventRecord P → EventRecord P}
    (hid : ∀ r, (f r).eventId = r.eventId) (hcreated : ∀ r, (f r).createdAt = r.createdAt)
    (hkeys : ∀ r u, u ∈ r.userStatus.keys → u ∈ (f r).userStatus.keys) :
    Refines { s with events := s.events.mapVal fun _ r => f r }
      { j with entries := j.entries.map fun x => { x with record := f x.record } } where
  entries := by
    simp only [OMap.mapVal, h.entries, List.map_map]
    exact List.map_congr_left fun x _ => by simp [hid]
  indexed u := by
    refine (h.indexed u).trans ?_
    simp only [Journal.mine, List.filter_map, List.map_map]
    exact List.map_congr_left fun x _ => (hid x.record).symm
  known x hx u hu := by
    obtain ⟨y, hy, rfl⟩ := List.mem_map.1 hx
    exact hkeys _ u (h.known y hy u hu)
  emitted := h.emitted
  sorted := by
    rw [Journal.records, List.map_map]
    refine List.pairwise_map.2 ((List.pairwise_map.1 h.sorted).imp fun hab => ?_)
    unfold EventRecord.before at *
    simpa only [Function.comp_apply, hcreated] using hab

theorem Refines.cleanup (h : Refines s j) (cfg : StoreConfig) (now : ℤ) :
    Refines (s.cleanup cfg now) (j.apply cfg now .cleanup) := by
  have hids : s.expiredIds now =
      (j.records.filter (·.isExpired now)).map EventRecord.eventId := by
    rw [EventStore.expiredIds, h.entries, Journal.records, List.filter_map, List.map_map,
      List.filter_map, List.map_map]
    rfl
  have hexpired : Refines (s.cleanupExpiredEvents now)
      (j.remove (j.records.filter (·.isExpired now)) .expired) := by
    have hfold := h.foldl_removeEvent .expired (j.records.filter (·.isExpired now))
      (List.filter_subset_self _) (h.nodup.sublist (List.filter_sublist.map _))
    rw [← hids] at hfold
    exact hfold.congr rfl rfl rfl
  have hstale := hexpired.mapVal (f := failStale cfg now) (fun _ => rfl) (fun _ => rfl)
    fun r u hu => by
      obtain ⟨st, hst⟩ := (OMap.mem_keys _ _).1 hu
      exact (OMap.mem_keys _ _).2 ⟨_, by rw [failStale_status, hst]; rfl⟩
  have hcleaned : Refines ((s.cleanupExpiredEvents now).cleanupStaleDelivered cfg now)
      { j.remove (j.records.filter (·.isExpired now)) .expired with
        entries := (j.remove (j.records.filter (·.isExpired now)) .expired).entries.map fun x =>
          { x with record := failStale cfg now x.record } } := hstale.congr rfl rfl rfl
  have hlimits : Refines
      (((s.cleanupExpiredEvents now).cleanupStaleDelivered cfg now).enforceMemoryLimits cfg)
      (j.apply cfg now .cleanup) := by
    unfold EventStore.enforceMemoryLimits Journal.apply
    rw [hcleaned.size]
    dsimp only
    split_ifs
    · exact hcleaned.evict cfg
    · exact hcleaned
  exact hlimits.congr rfl rfl rfl

/-- **An operation keeps the two in step.** -/
theorem Refines.apply (h : Refines s j) (cfg : StoreConfig) {now : ℤ} (op : StoreOp P)
    (hnew : ∀ e ∈ op.issues, s.events.get? e = none) (hpast : ∀ r ∈ j.records, r.createdAt ≤ now) :
    Refines (op.apply cfg now s) (j.apply cfg now op) := by
  cases op with
  | create e targetIds eventName payload qos options =>
    exact h.create cfg (hnew e (List.mem_singleton_self e)) hpast targetIds eventName payload qos
      options
  | markDelivered u e => exact h.markDelivered cfg u e now
  | markFailed u e error =>
    refine h.mark (fun r => ((r.setUserStatus u .FAILED).incrementDeliveryAttempt u
        now).addDeliveryError u error)
      (fun hnone => ?_) (fun r hr hk => ?_) (fun r hr hk => ?_) (fun _ => rfl) (fun _ => rfl)
      fun _ => rfl
    · simp only [StoreOp.apply, EventStore.markFailed, hnone]
    · simp only [StoreOp.apply, EventStore.markFailed, hr, if_pos hk]
    · refine ⟨{ s.stats with totalEventsFailed := s.stats.totalEventsFailed + 1 }, ?_⟩
      simp only [StoreOp.apply, EventStore.markFailed, hr, if_neg hk]
  | markApplied u e => exact h.markApplied u e
  | expiryTimer e => exact h.expiryTimer e now
  | cleanup => exact h.cleanup cfg now

end

/-! ## Runs -/

section
variable {P : Type}

/-- The journal of some operations. -/
def journal (cfg : StoreConfig) (ops : List (ℤ × StoreOp P)) : Journal P :=
  ops.foldl (fun j op => j.apply cfg op.1 op.2) {}

variable {cfg : StoreConfig} {ops : List (ℤ × StoreOp P)} {w : StoreWorld P} {t₀ : ℤ}

theorem refines_run (hrun : Run (storeStep cfg) anyStep (StoreWorld.init P t₀) ops w) :
    WorldInv w ∧ Refines w.store (journal cfg ops) := by
  induction hrun with
  | nil =>
    refine ⟨.init t₀, rfl, fun u => ?_, List.forall_mem_nil _, rfl, List.Pairwise.nil⟩
    rfl
  | @snoc ops w op w' _ _ hst ih =>
    obtain ⟨hw, h⟩ := ih
    have hstep := hst
    obtain ⟨⟨hclock, hen⟩, rfl⟩ := by simpa [storeStep] using hst
    refine ⟨hw.step hstep, ?_⟩
    rw [journal, List.foldl_append]
    refine h.apply cfg op.2 (fun e he => ?_) fun r hr => ?_
    · exact hw.fresh (StoreOp.fresh_of_enabled hen e he)
    · exact (hw.created _ r (h.get?_eq_some_iff.2 ⟨hr, rfl⟩)).trans hclock

/-- **The index and the sorting do not show.**  After every run of the store, whatever is read of it
    is what a plain list of the events says that was taken through the same operations: the events
    of a user are those that were created for it and not dropped for it; what is sent when it
    connects are the pending ones, in the order in which they were created; what is sent again are
    those of them that are due; and the store holds, and has emitted, what the list does. -/
theorem store_refines_journal
    (hrun : Run (storeStep cfg) anyStep (StoreWorld.init P t₀) ops w) :
    (∀ e, w.store.getEvent e = (journal cfg ops).get? e) ∧
      (∀ u now, w.store.getPending u now = (journal cfg ops).pending u now) ∧
      (∀ u now jitter, w.store.getPendingWithRetry cfg u now jitter =
        (journal cfg ops).toRetry cfg u now jitter) ∧
      (∀ u, (journal cfg ops).mine u ≠ [] → u ∈ w.store.getAllUserIds) ∧
      w.store.events.values = (journal cfg ops).records ∧
      w.store.emitted = (journal cfg ops).emitted := by
  obtain ⟨-, h⟩ := refines_run hrun
  refine ⟨h.get?, h.getPending, fun u now jitter => ?_, fun u hu => ?_, h.values, h.emitted⟩
  · rw [EventStore.getPendingWithRetry, h.filterMap_indexed, Journal.toRetry]
  · by_contra hnot
    have hnone : w.store.indexed u = [] := by
      rw [EventStore.indexed, (OMap.not_mem_keys _ _).1 hnot]
      rfl
    rw [h.indexed, List.map_eq_nil_iff] at hnone
    exact hu hnone

end

/-- Three events, of which the first is dropped for one of its targets by the limit, the second is
    applied by a user that it is not for, and the third is sent. -/
def threeEvents : List (ℤ × StoreOp JsObj) :=
  [(10, .create "a" [1, 2] "sync-alarm" [] .qos2 { ttl := some 90, senderId := some 9 }),
    (10, .create "b" [2] "sync-alarm" [] .qos2 {}), (12, .markApplied 3 "b"),
    (15, .create "c" [2, 1] "bell-ring" [] .qos1 {}), (16, .markDelivered 1 "c"), (20, .cleanup)]

theorem store_refines_journal_threeEvents : ∃ w,
    Run (storeStep { MAX_EVENTS_PER_USER := 2 }) anyStep (StoreWorld.init JsObj 0) threeEvents w ∧
      (w.store.getPending 2 30).map EventRecord.eventId = ["b", "c"] ∧
      (∀ e, w.store.getEvent e = (journal { MAX_EVENTS_PER_USER := 2 } threeEvents).get? e) ∧
      (∀ u now, w.store.getPending u now =
        (journal { MAX_EVENTS_PER_USER := 2 } threeEvents).pending u now) ∧
      (∀ u now jitter, w.store.getPendingWithRetry { MAX_EVENTS_PER_USER := 2 } u now jitter =
        (journal { MAX_EVENTS_PER_USER := 2 } threeEvents).toRetry { MAX_EVENTS_PER_USER := 2 } u
          now jitter) ∧
      (∀ u, (journal { MAX_EVENTS_PER_USER := 2 } threeEvents).mine u ≠ [] →
        u ∈ w.store.getAllUserIds) ∧
      w.store.events.values = (journal { MAX_EVENTS_PER_USER := 2 } threeEvents).records ∧
      w.store.emitted = (journal { MAX_EVENTS_PER_USER := 2 } threeEvents).emitted := by
  have hruns : ((exec (storeStep { MAX_EVENTS_PER_USER := 2 }) (StoreWorld.init JsObj 0)
      threeEvents).any fun w => decide ((w.store.getPending 2 30).map EventRecord.eventId =
        ["b", "c"])) = true := by decide +kernel
  simp only [Option.any_eq_true, decide_eq_true_eq] at hruns
  obtain ⟨w, hw, hpending⟩ := hruns
  exact ⟨w, run_of_exec hw, hpending, store_refines_journal (run_of_exec hw)⟩

end GatewayRealtime
