/-
  What the sender of an event hears about its end.

  * `told`: how often `event.expired` was emitted for an event.
  * `Accounts`: every step but an acknowledgement either leaves an event in the store or tells
    its sender, once.
  * `limitDrops`: which recipients a creation drops from which events, by the limit per user.
    That limit tells nobody, unless it takes the last recipient.
  * `sender_told`: in a run in which the limit takes all the recipients of an event or none, the
    sender of an event hears of its end exactly once, unless all targets have applied it.
-/
import GatewayRealtime.Index
import GatewayRealtime.RecordStep

namespace GatewayRealtime

namespace EventStore

variable {P : Type}

/-- The sender wants to know, and there is one. -/
def tellsSender (r : EventRecord P) : Bool := r.notifySender && r.senderId.any (· ≠ 0)

/-- How often `event.expired` was emitted for an event. -/
def told (s : EventStore P) (e : String) : ℕ := s.emitted.countP fun x => x.eventId = e

/-- An event that is stored has its end ahead. -/
def outcomes (s : EventStore P) (e : String) : ℕ := s.told e + if s.events.has e then 1 else 0

/-- Records are stored under their ids. -/
def Keyed (s : EventStore P) : Prop := ∀ id r, s.events.get? id = some r → r.eventId = id

/-- If the event is stored, its sender is told of its end. -/
def Tells (e : String) (s : EventStore P) : Prop :=
  ∀ r, s.events.get? e = some r → tellsSender r = true

/-! ## Steps that tell the sender when an event goes -/

/-- Nothing is added, and the event is in the store or told about as before. -/
structure Accounts (e : String) (s s' : EventStore P) : Prop where
  noGrow : NoGrow s s'
  outcomes : Keyed s → Tells e s → s'.outcomes e = s.outcomes e

section
variable {e : String} {s s' : EventStore P}

theorem outcomes_of_none (h : s.events.get? e = none) : s.outcomes e = s.told e := by
  simp [EventStore.outcomes, OMap.has, h]

theorem outcomes_of_some {r : EventRecord P} (h : s.events.get? e = some r) :
    s.outcomes e = s.told e + 1 := by
  simp [EventStore.outcomes, OMap.has, h]

/-- Only the record of the event and the emissions about it matter. -/
theorem outcomes_congr (he : s'.events.get? e = s.events.get? e) (hm : s'.told e = s.told e) :
    s'.outcomes e = s.outcomes e := by
  have hhas : s'.events.has e = s.events.has e := by rw [OMap.has, OMap.has, he]
  rw [EventStore.outcomes, EventStore.outcomes, hhas, hm]

theorem told_congr (hm : s'.emitted = s.emitted) : s'.told e = s.told e := by
  rw [told, told, hm]

theorem eventId_of_header {r r' : EventRecord P} (h : r'.header = r.header) :
    r'.eventId = r.eventId := by
  have := congrArg EventRecord.eventId h
  exact this

theorem tellsSender_of_header {r r' : EventRecord P} (h : r'.header = r.header) :
    tellsSender r' = tellsSender r := by
  have := congrArg (fun r => r.notifySender && r.senderId.any (· ≠ 0)) h
  exact this

theorem NoGrow.keyed (h : NoGrow s s') (hs : Keyed s) : Keyed s' := by
  intro id r' hr'
  obtain ⟨r, hr, hh⟩ := h.events id r' hr'
  rw [eventId_of_header hh]
  exact hs id r hr

theorem NoGrow.tells (h : NoGrow s s') (hs : Tells e s) : Tells e s' := by
  intro r' hr'
  obtain ⟨r, hr, hh⟩ := h.events e r' hr'
  rw [tellsSender_of_header hh]
  exact hs r hr

theorem Accounts.refl (e : String) (s : EventStore P) : Accounts e s s :=
  ⟨.refl s, fun _ _ => rfl⟩

theorem Accounts.trans {s'' : EventStore P} (h : Accounts e s s') (h' : Accounts e s' s'') :
    Accounts e s s'' where
  noGrow := h.noGrow.trans h'.noGrow
  outcomes hk ht :=
    (h'.outcomes (h.noGrow.keyed hk) (h.noGrow.tells ht)).trans (h.outcomes hk ht)

/-- Only the two maps and the emissions matter. -/
theorem Accounts.congr {s'' : EventStore P} (h : Accounts e s s') (he : s''.events = s'.events)
    (hu : s''.userEvents = s'.userEvents) (hm : s''.emitted = s'.emitted) : Accounts e s s'' where
  noGrow := h.noGrow.congr he hu
  outcomes hk ht := by
    rw [← h.outcomes hk ht]
    exact outcomes_congr (by rw [he]) (told_congr hm)

theorem accounts_foldl {α : Type} {f : EventStore P → α → EventStore P}
    (hf : ∀ s a, Accounts e s (f s a)) : ∀ (l : List α) (s : EventStore P),
    Accounts e s (l.foldl f s)
  | [], s => .refl e s
  | a :: l, s => (hf s a).trans (accounts_foldl hf l (f s a))

/-- The emissions of a removal. -/
theorem told_expiredNotice (r : EventRecord P) (reason : RemoveReason) :
    (expiredNotice r reason).countP (fun x => x.eventId = e) =
      if reason ≠ .applied ∧ tellsSender r = true ∧ r.eventId = e then 1 else 0 := by
  unfold expiredNotice tellsSender
  cases r.senderId with
  | none => simp
  | some senderId =>
    by_cases h : reason ≠ .applied ∧ r.notifySender = true ∧ senderId ≠ 0
    · by_cases he : r.eventId = e <;> simp [h, he]
    · have h' : ¬ (reason ≠ .applied ∧ (r.notifySender && (some senderId).any (· ≠ 0)) = true ∧
          r.eventId = e) := by
        simp only [Option.any_some, Bool.and_eq_true, decide_eq_true_eq]
        exact fun hc => h ⟨hc.1, hc.2.1.1, hc.2.1.2⟩
      dsimp only
      rw [if_neg h, if_neg h']
      rfl

theorem told_removeEvent (e' : String) (reason : RemoveReason) :
    (s.removeEvent e' reason).told e = s.told e +
      ((s.events.get? e').map fun r =>
        if reason ≠ .applied ∧ tellsSender r = true ∧ r.eventId = e then 1 else 0).getD 0 := by
  unfold EventStore.removeEvent
  cases s.events.get? e' with
  | none => simp
  | some r => simp [told, List.countP_append, told_expiredNotice]

theorem told_removeEvent_applied (e' : String) : (s.removeEvent e' .applied).told e = s.told e := by
  rw [told_removeEvent]
  cases s.events.get? e' <;> simp

/-- A removal tells the sender, unless it is that of an event that all recipients applied. -/
theorem accounts_removeEvent (s : EventStore P) (e' : String) {reason : RemoveReason}
    (hreason : reason ≠ .applied) : Accounts e s (s.removeEvent e' reason) where
  noGrow := noGrow_removeEvent s e' reason
  outcomes hk ht := by
    have hhas : (s.removeEvent e' reason).events.has e =
        if e = e' then false else s.events.has e := by
      rw [OMap.has, OMap.has, removeEvent_events]
      split_ifs <;> rfl
    rw [EventStore.outcomes, told_removeEvent, hhas]
    by_cases he : e = e'
    · subst he
      cases hr : s.events.get? e with
      | none => simp [outcomes_of_none hr]
      | some r => simp [outcomes_of_some hr, hreason, ht r hr, hk e r hr]
    · cases hr : s.events.get? e' with
      | none => simp [EventStore.outcomes, he]
      | some r =>
        have hne : r.eventId ≠ e := fun h => he (h.symm.trans (hk e' r hr))
        simp [EventStore.outcomes, he, hne]

theorem accounts_updateEvent (s : EventStore P) (e' : String)
    {f : EventRecord P → EventRecord P} (hf : ∀ r, (f r).header = r.header) :
    Accounts e s (s.updateEvent e' f) where
  noGrow := noGrow_updateEvent s e' hf
  outcomes _ _ := by
    have hhas : (s.updateEvent e' f).events.has e = s.events.has e := by
      rw [OMap.has, OMap.has, updateEvent_events]
      split_ifs with he
      · rw [he, Option.isSome_map]
      · rfl
    rw [EventStore.outcomes, EventStore.outcomes, hhas]
    rfl

theorem accounts_dropForUser (v : ℕ) (s : EventStore P) (e' : String) :
    Accounts e s (s.dropForUser v e') := by
  have hindex : Accounts e s { s with userEvents := s.userEvents.modify v (·.remove e') } :=
    ⟨⟨fun _ r h => ⟨r, h, rfl⟩, fun u id h => ((inIndex_modify_remove ..).1 h).1⟩, fun _ _ => rfl⟩
  have hmid := hindex.trans (accounts_updateEvent _ e' (f := (·.dropUser v)) fun _ => rfl)
  unfold dropForUser
  dsimp only
  split
  · split_ifs
    · exact hmid.trans (accounts_removeEvent _ e' (by decide))
    · exact hmid
  · exact hmid

theorem accounts_enforcePerUserLimit (cfg : StoreConfig) (now : ℤ) (s : EventStore P) (v : ℕ) :
    Accounts e s (s.enforcePerUserLimit cfg now v) := by
  unfold enforcePerUserLimit
  split_ifs
  · exact .refl e s
  · exact accounts_foldl (accounts_dropForUser v) _ s

theorem accounts_forceCleanup (cfg : StoreConfig) (s : EventStore P) :
    Accounts e s (s.forceCleanup cfg) :=
  accounts_foldl (fun s e' => accounts_removeEvent s e' (by decide)) _ s

theorem accounts_makeRoom (cfg : StoreConfig) (s : EventStore P) :
    Accounts e s (s.makeRoom cfg) := by
  unfold makeRoom
  split_ifs
  · exact accounts_forceCleanup cfg s
  · exact .refl e s

theorem accounts_cleanup (cfg : StoreConfig) (now : ℤ) (s : EventStore P) :
    Accounts e s (s.cleanup cfg now) := by
  have h₁ : Accounts e s (s.cleanupExpiredEvents now) :=
    (accounts_foldl (fun s e' => accounts_removeEvent s e' (by decide)) (s.expiredIds now) s).congr
      rfl rfl rfl
  have h₂ : ∀ s : EventStore P, Accounts e s (s.cleanupStaleDelivered cfg now) := fun s => by
    refine ⟨⟨fun id r' h => ?_, fun _ _ h => h⟩, fun _ _ => ?_⟩
    · simp only [cleanupStaleDelivered, OMap.get?_mapVal] at h
      obtain ⟨r, hr, rfl⟩ := Option.map_eq_some_iff.1 h
      exact ⟨r, hr, rfl⟩
    · have hhas : (s.cleanupStaleDelivered cfg now).events.has e = s.events.has e := by
        simp [OMap.has, cleanupStaleDelivered]
      rw [EventStore.outcomes, EventStore.outcomes, hhas]
      rfl
  have h₃ : ∀ s : EventStore P, Accounts e s (s.enforceMemoryLimits cfg) := fun s => by
    unfold enforceMemoryLimits
    split_ifs
    · exact accounts_forceCleanup cfg s
    · exact .refl e s
  exact ((h₁.trans (h₂ _)).trans (h₃ _)).congr rfl rfl rfl

theorem create_emitted (cfg : StoreConfig) (e : String) (targetIds : List ℕ) (eventName : String)
    (payload : P) (qos : QoS) (options : CreateOptions) (now : ℤ) :
    (s.create cfg e targetIds eventName payload qos options now).emitted =
      (createCore cfg e targetIds eventName payload qos options now s).emitted := by
  have hstart : ∀ s : EventStore P, (s.startTimer e options.ttl now).emitted = s.emitted := by
    intro s
    unfold startTimer
    split
    · split_ifs <;> rfl
    · rfl
  exact hstart _

/-- An event that is put in tells its sender, if it is one that does. -/
theorem tells_insertEvent (targetIds : List ℕ) {e' eventName : String} {payload : P} {qos : QoS}
    {options : CreateOptions} {now : ℤ} (ht : Tells e s)
    (ht' : e = e' → tellsSender (newRecord e' eventName payload qos options now) = true) :
    Tells e (s.insertEvent targetIds (newRecord e' eventName payload qos options now) now) := by
  intro r hr
  simp only [insertEvent, OMap.get?_set] at hr
  split_ifs at hr with he
  · cases hr
    rw [tellsSender_of_header (foldl_addTarget_header now targetIds _)]
    exact ht' he
  · exact ht r hr

/-- A new event gives its sender an end to hear of, and takes none from another sender. -/
theorem outcomes_create (hs : StoreInv s) (cfg : StoreConfig) {e' : String}
    (hnew : s.events.get? e' = none) (targetIds : List ℕ) (eventName : String) (payload : P)
    (qos : QoS) (options : CreateOptions) (now : ℤ) (ht : Tells e s)
    (ht' : e = e' → tellsSender (newRecord e' eventName payload qos options now) = true) :
    (s.create cfg e' targetIds eventName payload qos options now).outcomes e =
      s.outcomes e + if e = e' then 1 else 0 := by
  have hroom := accounts_makeRoom (e := e) cfg s
  have hnone := makeRoom_events_none cfg hnew
  have hinserted : ((s.makeRoom cfg).insertEvent targetIds
      (newRecord e' eventName payload qos options now) now).outcomes e =
        (s.makeRoom cfg).outcomes e + if e = e' then 1 else 0 := by
    by_cases he : e = e'
    · subst he
      rw [outcomes_of_none hnone, if_pos rfl]
      refine outcomes_of_some (r := targetIds.foldl (addTarget now)
        (newRecord e eventName payload qos options now)) ?_
      simp [insertEvent, newRecord]
    · rw [if_neg he, Nat.add_zero]
      exact outcomes_congr (by simp [insertEvent, newRecord, he]) (told_congr rfl)
  have htells : Tells e ((s.makeRoom cfg).insertEvent targetIds
      (newRecord e' eventName payload qos options now) now) :=
    tells_insertEvent targetIds (hroom.noGrow.tells ht) ht'
  have hkeyed := ((hs.makeRoom cfg).insertEvent targetIds
    (newRecord e' eventName payload qos options now) now hnone).keyed
  rw [outcomes_congr (by rw [create_events]) (told_congr (create_emitted ..)), createCore,
    (accounts_foldl (accounts_enforcePerUserLimit cfg now) targetIds _).outcomes hkeyed htells,
    hinserted, hroom.outcomes hs.keyed ht]

/-- **What an operation does to the end of an event**: nothing, except that the last
    acknowledgement removes it without a word. -/
theorem apply_outcomes (hs : StoreInv s) (cfg : StoreConfig) (now : ℤ) {op : StoreOp P}
    (hop : e ∉ op.issues) (hnew : ∀ e' ∈ op.issues, s.events.get? e' = none) (ht : Tells e s) :
    (op.apply cfg now s).outcomes e = s.outcomes e ∨
      ∃ v r, op = .markApplied v e ∧ s.events.get? e = some r ∧
        (r.setUserStatus v .APPLIED).isAllApplied = true ∧
        (op.apply cfg now s).events.get? e = none ∧ (op.apply cfg now s).told e = s.told e := by
  cases op with
  | create e' targetIds eventName payload qos options =>
    have hne : e ≠ e' := by simpa [StoreOp.issues] using hop
    left
    rw [StoreOp.apply, outcomes_create hs cfg (hnew e' (List.mem_singleton_self e')) targetIds
      eventName payload qos options now ht fun he => absurd he hne, if_neg hne, Nat.add_zero]
  | markDelivered v e' =>
    left
    simp only [StoreOp.apply, markDelivered]
    split
    · rfl
    · split_ifs
      · rfl
      · exact ((accounts_updateEvent s e' (f := fun r =>
          (r.setUserStatus v .DELIVERED).incrementDeliveryAttempt v now) fun _ => rfl).congr rfl rfl
            rfl).outcomes hs.keyed ht
  | markFailed v e' error =>
    left
    simp only [StoreOp.apply, markFailed]
    split
    · rfl
    · split_ifs
      · rfl
      · exact ((accounts_updateEvent s e' (f := fun r =>
          ((r.setUserStatus v .FAILED).incrementDeliveryAttempt v now).addDeliveryError v error)
            fun _ => rfl).congr rfl rfl rfl).outcomes hs.keyed ht
  | markApplied v e' =>
    have hset : Accounts e s { s.updateEvent e' (·.setUserStatus v .APPLIED) with
        stats := { s.stats with totalEventsApplied := s.stats.totalEventsApplied + 1 } } :=
      (accounts_updateEvent s e' (f := (·.setUserStatus v .APPLIED)) fun _ => rfl).congr rfl rfl rfl
    simp only [StoreOp.apply, markApplied]
    split
    · exact Or.inl rfl
    · rename_i event hevent
      split_ifs with hall
      · by_cases he : e = e'
        · subst he
          exact Or.inr ⟨v, event, rfl, hevent, hall, by simp [removeEvent_events],
            told_removeEvent_applied e⟩
        · left
          rw [← hset.outcomes hs.keyed ht]
          exact outcomes_congr (by rw [removeEvent_events, if_neg he]) (told_removeEvent_applied e')
      · exact Or.inl (hset.outcomes hs.keyed ht)
  | expiryTimer e' =>
    left
    have htimer : Accounts e s { s with timers := s.timers.delete e' } :=
      (Accounts.refl e s).congr rfl rfl rfl
    simp only [StoreOp.apply, expiryTimer]
    split
    · split_ifs
      · exact (htimer.trans (accounts_removeEvent _ e' (by decide))).outcomes hs.keyed ht
      · exact htimer.outcomes hs.keyed ht
    · exact htimer.outcomes hs.keyed ht
  | cleanup => exact Or.inl ((accounts_cleanup cfg now s).outcomes hs.keyed ht)

/-! ## The limit per user -/

/-- The events that the limit of a user takes from it. -/
def limitDrop (cfg : StoreConfig) (now : ℤ) (s : EventStore P) (v : ℕ) : List String :=
  if (s.indexed v).length ≤ cfg.MAX_EVENTS_PER_USER then []
  else
    let userEvents := (s.pendingRecords v now).insertionSort EventRecord.before
    (sliceTo userEvents (userEvents.length - cfg.MAX_EVENTS_PER_USER)).map EventRecord.eventId

/-- The recipients and events that the limits of some users part, one user after the other. -/
def limitDrops (cfg : StoreConfig) (now : ℤ) : List ℕ → EventStore P → List (ℕ × String)
  | [], _ => []
  | v :: vs, s => (limitDrop cfg now s v).map (fun id => (v, id)) ++
      limitDrops cfg now vs (s.enforcePerUserLimit cfg now v)

theorem enforcePerUserLimit_eq (cfg : StoreConfig) (now : ℤ) (s : EventStore P) (v : ℕ) :
    s.enforcePerUserLimit cfg now v = (limitDrop cfg now s v).foldl (dropForUser v) s := by
  unfold enforcePerUserLimit limitDrop
  split_ifs <;> rfl

theorem recipient_foldl_dropForUser (v u : ℕ) (id : String) : ∀ (ids : List String)
    (s : EventStore P), Recipient (ids.foldl (dropForUser v) s) u id ↔
      Recipient s u id ∧ ¬ (u = v ∧ id ∈ ids)
  | [], _ => by simp
  | e :: ids, s => by
    rw [List.foldl_cons, recipient_foldl_dropForUser v u id ids, recipient_dropForUser,
      List.mem_cons]
    tauto

theorem recipient_limitDrops (cfg : StoreConfig) (now : ℤ) (u : ℕ) (id : String) :
    ∀ (vs : List ℕ) (s : EventStore P),
    Recipient (vs.foldl (enforcePerUserLimit cfg now) s) u id ↔
      Recipient s u id ∧ (u, id) ∉ limitDrops cfg now vs s
  | [], _ => by simp [limitDrops]
  | v :: vs, s => by
    rw [List.foldl_cons, recipient_limitDrops cfg now u id vs, enforcePerUserLimit_eq,
      recipient_foldl_dropForUser, limitDrops, ← enforcePerUserLimit_eq]
    simp only [List.mem_append, List.mem_map, Prod.mk.injEq]
    constructor
    · rintro ⟨⟨hrec, hdrop⟩, hrest⟩
      refine ⟨hrec, ?_⟩
      rintro (⟨_, hid, rfl, rfl⟩ | h)
      · exact hdrop ⟨rfl, hid⟩
      · exact hrest h
    · rintro ⟨hrec, hno⟩
      exact ⟨⟨hrec, fun ⟨hu, hid⟩ => hno (Or.inl ⟨id, hid, hu.symm, rfl⟩)⟩,
        fun h => hno (Or.inr h)⟩

/-- The record of an event goes with its last recipient. -/
theorem exists_recipient_dropForUser (v : ℕ) (e' : String) (h : ∃ u, Recipient s u e)
    {r : EventRecord P} (hr : (s.dropForUser v e').events.get? e = some r) :
    ∃ u, Recipient (s.dropForUser v e') u e := by
  by_cases he : e = e'
  · subst he
    suffices hkeys : r.userStatus.size ≠ 0 by
      rw [OMap.size_eq_keys] at hkeys
      obtain ⟨u, hu⟩ := List.exists_mem_of_length_pos (Nat.pos_of_ne_zero hkeys)
      exact ⟨u, (recipient_iff_of_get? hr u).2 hu⟩
    unfold dropForUser at hr
    dsimp only at hr
    split at hr
    · rename_i event hevent
      split_ifs at hr with hsize
      · simp [removeEvent_events] at hr
      · obtain rfl : event = r := Option.some.inj (hevent.symm.trans hr)
        exact hsize
    · rename_i hnone
      rw [hnone] at hr
      cases hr
  · obtain ⟨u, hu⟩ := h
    exact ⟨u, (recipient_dropForUser v e' u e).2 ⟨hu, fun h => he h.2⟩⟩

theorem exists_recipient_foldl {α : Type} {f : EventStore P → α → EventStore P}
    (hgrow : ∀ s a, NoGrow s (f s a))
    (hf : ∀ s a r, (∃ u, Recipient s u e) → (f s a).events.get? e = some r →
      ∃ u, Recipient (f s a) u e) : ∀ (l : List α) {s : EventStore P} {r : EventRecord P},
    (∃ u, Recipient s u e) → (l.foldl f s).events.get? e = some r →
      ∃ u, Recipient (l.foldl f s) u e
  | [], _, _, h, _ => h
  | a :: l, s, _, h, hr => by
    obtain ⟨r₁, hr₁, -⟩ := (noGrow_foldl hgrow l (f s a)).events e _ hr
    exact exists_recipient_foldl hgrow hf l (hf s a r₁ h hr₁) hr

theorem exists_recipient_limit (cfg : StoreConfig) (now : ℤ) (vs : List ℕ)
    (h : ∃ u, Recipient s u e) {r : EventRecord P}
    (hr : (vs.foldl (enforcePerUserLimit cfg now) s).events.get? e = some r) :
    ∃ u, Recipient (vs.foldl (enforcePerUserLimit cfg now) s) u e := by
  refine exists_recipient_foldl (noGrow_enforcePerUserLimit cfg now) ?_ vs h hr
  intro s v r h hr
  rw [enforcePerUserLimit_eq] at hr ⊢
  exact exists_recipient_foldl (noGrow_dropForUser v)
    (fun _ e' _ h hr => exists_recipient_dropForUser v e' h hr) _ h hr

/-- The limits take all the recipients of an event whose sender wants to know, or none. -/
def LimitSpares (cfg : StoreConfig) (now : ℤ) (vs : List ℕ) (s : EventStore P) : Prop :=
  ∀ x ∈ s.events.entries, tellsSender x.2 = true →
    (∀ d ∈ limitDrops cfg now vs s, d.2 ≠ x.1) ∨
      ∀ u ∈ x.2.userStatus.keys, (u, x.1) ∈ limitDrops cfg now vs s

/-- An event that survives such limits keeps its recipients. -/
theorem LimitSpares.keeps {cfg : StoreConfig} {now : ℤ} {vs : List ℕ}
    (h : LimitSpares cfg now vs s) (ht : Tells e s) {u : ℕ} (hu : Recipient s u e)
    {r' : EventRecord P}
    (hr' : (vs.foldl (enforcePerUserLimit cfg now) s).events.get? e = some r') :
    Recipient (vs.foldl (enforcePerUserLimit cfg now) s) u e := by
  obtain ⟨r, st, hr, hst⟩ := hu
  have hentry := h (e, r) ((s.events.mem_entries e r).2 hr) (ht r hr)
  rcases hentry with hnone | hall
  · exact (recipient_limitDrops ..).2 ⟨⟨r, st, hr, hst⟩, fun hd => hnone _ hd rfl⟩
  · -- nobody is left, so the record is gone
    obtain ⟨v, hv⟩ := exists_recipient_limit cfg now vs ⟨u, r, st, hr, hst⟩ hr'
    rw [recipient_limitDrops] at hv
    exact absurd (hall v ((recipient_iff_of_get? hr v).1 hv.1)) hv.2

/-- The store with a new event, before the limits. -/
def inserted (cfg : StoreConfig) (e : String) (targetIds : List ℕ) (eventName : String)
    (payload : P) (qos : QoS) (options : CreateOptions) (now : ℤ) (s : EventStore P) :
    EventStore P :=
  (s.makeRoom cfg).insertEvent targetIds (newRecord e eventName payload qos options now) now

/-- The limit per user, which tells nobody, parts no event from some of its recipients only. -/
def LimitTells (cfg : StoreConfig) (w : StoreWorld P) (op : ℤ × StoreOp P) : Prop :=
  match op.2 with
  | .create e targetIds eventName payload qos options =>
    LimitSpares cfg op.1 targetIds
      (inserted cfg e targetIds eventName payload qos options op.1 w.store)
  | _ => True

/-! ## Recipients -/

theorem inserted_tells (cfg : StoreConfig) {e' : String} (targetIds : List ℕ) {eventName : String}
    {payload : P} {qos : QoS} {options : CreateOptions} {now : ℤ} (ht : Tells e s)
    (ht' : e = e' → tellsSender (newRecord e' eventName payload qos options now) = true) :
    Tells e (inserted cfg e' targetIds eventName payload qos options now s) :=
  tells_insertEvent targetIds ((noGrow_makeRoom cfg s).tells ht) ht'

/-- Making room leaves the events alone that stay. -/
theorem makeRoom_get? {cfg : StoreConfig} {r : EventRecord P}
    (h : (s.makeRoom cfg).events.get? e = some r) :
    (s.makeRoom cfg).events.get? e = s.events.get? e := by
  unfold EventStore.makeRoom at h ⊢
  split_ifs at h ⊢
  · rw [forceCleanup, foldl_removeEvent_events] at h ⊢
    split_ifs at h ⊢
    rfl
  · rfl

/-- Recipients of an event that is still there after another one was created. -/
theorem recipient_inserted {cfg : StoreConfig} {e' : String} (hne : e ≠ e') {targetIds : List ℕ}
    {eventName : String} {payload : P} {qos : QoS} {options : CreateOptions} {now : ℤ}
    {r : EventRecord P}
    (hr : (inserted cfg e' targetIds eventName payload qos options now s).events.get? e = some r)
    (u : ℕ) : Recipient (inserted cfg e' targetIds eventName payload qos options now s) u e ↔
      Recipient s u e := by
  have hget : (inserted cfg e' targetIds eventName payload qos options now s).events.get? e =
      (s.makeRoom cfg).events.get? e := by
    simp [inserted, insertEvent, newRecord, hne]
  rw [hget] at hr
  rw [Recipient, hget, makeRoom_get? hr]
  rfl

theorem createCore_eq (cfg : StoreConfig) (e : String) (targetIds : List ℕ) (eventName : String)
    (payload : P) (qos : QoS) (options : CreateOptions) (now : ℤ) (s : EventStore P) :
    createCore cfg e targetIds eventName payload qos options now s =
      targetIds.foldl (enforcePerUserLimit cfg now)
        (inserted cfg e targetIds eventName payload qos options now s) := rfl

theorem recipient_congr {s' : EventStore P} (he : s'.events = s.events) (u : ℕ) :
    Recipient s' u e ↔ Recipient s u e := by rw [Recipient, he]; rfl

/-- A creation whose limit tells keeps the recipients of the events that it keeps. -/
theorem recipient_create {cfg : StoreConfig} {e' : String} {targetIds : List ℕ}
    {eventName : String} {payload : P} {qos : QoS} {options : CreateOptions} {now : ℤ} {u : ℕ}
    (hspares : LimitSpares cfg now targetIds
      (inserted cfg e' targetIds eventName payload qos options now s))
    (ht : Tells e (inserted cfg e' targetIds eventName payload qos options now s))
    (hu : Recipient (inserted cfg e' targetIds eventName payload qos options now s) u e)
    {r' : EventRecord P}
    (hr' : (s.create cfg e' targetIds eventName payload qos options now).events.get? e = some r') :
    Recipient (s.create cfg e' targetIds eventName payload qos options now) u e := by
  rw [create_events] at hr'
  exact (recipient_congr (create_events ..) u).2 (hspares.keeps ht hu hr')

/-- Marks and timers take no recipient from an event that they leave in the store. -/
theorem recipient_apply (cfg : StoreConfig) (now : ℤ) {op : StoreOp P} (hop : op.issues = [])
    {u : ℕ} (hu : Recipient s u e) {r' : EventRecord P}
    (hr' : (op.apply cfg now s).events.get? e = some r') :
    Recipient (op.apply cfg now s) u e := by
  obtain ⟨r, hr, -, hstep⟩ := apply_recipientStep cfg now s (by simp [hop]) hr'
  obtain ⟨r₀, st, hr₀, hst⟩ := hu
  obtain rfl : r₀ = r := Option.some.inj (hr₀.symm.trans hr)
  obtain ⟨st', hst'⟩ := (hstep u).status_some hop ⟨st, hst⟩
  exact ⟨r', st', hr', hst'⟩

/-- An operation whose limits tell keeps the recipients of the other events that it leaves in the
    store. -/
theorem recipient_of_limitTells {cfg : StoreConfig} {w : StoreWorld P} {now : ℤ} {op : StoreOp P}
    (hop : e ∉ op.issues) (ht : Tells e w.store) (hlimit : LimitTells cfg w (now, op)) {u : ℕ}
    (hu : Recipient w.store u e) {r' : EventRecord P}
    (hr' : (op.apply cfg now w.store).events.get? e = some r') :
    Recipient (op.apply cfg now w.store) u e := by
  by_cases hissues : op.issues = []
  · exact recipient_apply cfg now hissues hu hr'
  · cases op with
    | create e' targetIds eventName payload qos options =>
      have hne : e ≠ e' := by simpa [StoreOp.issues] using hop
      have hins : Tells e (inserted cfg e' targetIds eventName payload qos options now w.store) :=
        inserted_tells cfg targetIds ht fun he => absurd he hne
      have hr'' := hr'
      rw [StoreOp.apply, create_events, createCore_eq] at hr''
      obtain ⟨r₁, hr₁, -⟩ := (noGrow_foldl (noGrow_enforcePerUserLimit cfg now) targetIds
        _).events e r' hr''
      exact recipient_create hlimit hins ((recipient_inserted hne hr₁ u).2 hu) hr'
    | _ => exact absurd rfl hissues

/-! ## One step -/

/-- What is known about an event that was created for `targetIds` and whose sender wants to
    know, when `acked` are the users that have acknowledged it. -/
structure Outcome (e : String) (targetIds : List ℕ) (acked : ℕ → Prop) (s : EventStore P) :
    Prop where
  tells : Tells e s
  stored : ∀ r, s.events.get? e = some r → s.told e = 0 ∧ ∀ u ∈ targetIds, Recipient s u e
  gone : s.events.get? e = none → s.told e = 1 ∨ s.told e = 0 ∧ ∀ u ∈ targetIds, acked u
  applied : ∀ r u, s.events.get? e = some r → r.userStatus.get? u = some .APPLIED → acked u

theorem Outcome.told_le {targetIds : List ℕ} {acked : ℕ → Prop} (h : Outcome e targetIds acked s) :
    s.told e ≤ 1 := by
  cases hr : s.events.get? e with
  | some r => exact (h.stored r hr).1.le.trans (Nat.zero_le 1)
  | none =>
    rcases h.gone hr with h | ⟨h, -⟩
    · exact h.le
    · exact h.le.trans (Nat.zero_le 1)

/-- If the acknowledgement of a user completes the event, all other targets have acknowledged
    it. -/
theorem Outcome.acked_of_isAllApplied {targetIds : List ℕ} {acked : ℕ → Prop}
    (h : Outcome e targetIds acked s) {r : EventRecord P} (hr : s.events.get? e = some r) {v : ℕ}
    (hall : (r.setUserStatus v .APPLIED).isAllApplied = true) {u : ℕ} (hu : u ∈ targetIds)
    (huv : u ≠ v) : acked u := by
  obtain ⟨r₁, st, hr₁, hst⟩ := (h.stored r hr).2 u hu
  obtain rfl : r₁ = r := Option.some.inj (hr₁.symm.trans hr)
  have happlied : st = .APPLIED :=
    (EventRecord.isAllApplied_iff _).1 hall u st (by simpa [huv] using hst)
  exact h.applied r₁ u hr (happlied ▸ hst)

theorem outcome_create {cfg : StoreConfig} (hs : StoreInv s) {targetIds : List ℕ}
    {eventName : String} {payload : P} {qos : QoS} {options : CreateOptions} {now : ℤ}
    (hnew : s.events.get? e = none) (htold : s.told e = 0)
    (htells : tellsSender (newRecord e eventName payload qos options now) = true)
    (hspares : LimitSpares cfg now targetIds
      (inserted cfg e targetIds eventName payload qos options now s)) :
    Outcome e targetIds (fun _ => False)
      (s.create cfg e targetIds eventName payload qos options now) := by
  have ht : Tells e s := fun r hr => by simp [hnew] at hr
  have hins := inserted_tells cfg targetIds ht fun _ => htells
  have houtcomes := outcomes_create hs cfg hnew targetIds eventName payload qos options now ht
    fun _ => htells
  rw [outcomes_of_none hnew, htold, if_pos rfl] at houtcomes
  have hgrow := create_growsBy cfg s e targetIds eventName payload qos options now
  constructor
  · intro r hr
    rcases hgrow.events e r hr with ⟨r₀, hr₀, -⟩ | ⟨-, hh⟩
    · simp [hnew] at hr₀
    · rw [tellsSender_of_header hh]
      exact htells
  · intro r hr
    refine ⟨by rw [outcomes_of_some hr] at houtcomes; omega, fun u hu => ?_⟩
    refine recipient_create hspares hins ?_ hr
    exact (recipient_insertEvent rfl (makeRoom_events_none cfg hnew) targetIds now u e).2
      (Or.inr ⟨hu, rfl⟩)
  · intro hnone
    rw [outcomes_of_none hnone] at houtcomes
    exact Or.inl houtcomes
  · intro r u hr hst
    rw [create_events] at hr
    obtain ⟨r₀, hr₀, -, hkept⟩ := kept_foldl (e := e) (kept_enforcePerUserLimit cfg now) targetIds _
      r hr
    have hstored : r₀.userStatus.get? u ≠ some .APPLIED := by
      simp only [insertEvent, OMap.get?_set, newRecord, if_true] at hr₀
      cases hr₀
      rw [foldl_addTarget_status]
      split_ifs <;> simp
    have hstate : (r.recipientState u).status = some .APPLIED := hst
    rcases hkept u with h | h <;> rw [h] at hstate
    · exact hstored hstate
    · cases hstate

/-- **One operation** ends an event in front of its sender, or by the acknowledgements of all
    its targets. -/
theorem Outcome.step {cfg : StoreConfig} {w w' : StoreWorld P} {op : ℤ × StoreOp P}
    {targetIds : List ℕ} {acked : ℕ → Prop} (hw : WorldInv w) (hissued : e ∈ w.issued)
    (h : Outcome e targetIds acked w.store) (hlimit : LimitTells cfg w op)
    (hst : storeStep cfg w op = some w') :
    Outcome e targetIds (fun u => acked u ∨ op.2 = .markApplied u e) w'.store := by
  obtain ⟨⟨-, hen⟩, rfl⟩ := by simpa [storeStep] using hst
  obtain ⟨now, op⟩ := op
  have hnew : ∀ e' ∈ op.issues, e' ∉ w.issued := StoreOp.fresh_of_enabled hen
  have hop : e ∉ op.issues := fun he => hnew e he hissued
  have hback : ∀ r', (op.apply cfg now w.store).events.get? e = some r' → ∃ r,
      w.store.events.get? e = some r ∧ r'.header = r.header ∧
        ∀ u, RecipientStep cfg now u e op (r.recipientState u) (r'.recipientState u) :=
    fun r' hr' => apply_recipientStep cfg now w.store hop hr'
  have hend := apply_outcomes hw.store cfg now hop (fun e' he' => hw.fresh (hnew e' he')) h.tells
  have hacked : ∀ {r}, w.store.events.get? e = some r → w.store.outcomes e = 1 := fun {r} hr => by
    rw [outcomes_of_some hr, (h.stored r hr).1]
  constructor
  · intro r' hr'
    obtain ⟨r, hr, hh, -⟩ := hback r' hr'
    rw [tellsSender_of_header hh]
    exact h.tells r hr
  · intro r' hr'
    obtain ⟨r, hr, -⟩ := hback r' hr'
    constructor
    · rcases hend with hsame | ⟨_, _, _, _, _, hnone, _⟩
      · rw [outcomes_of_some hr', hacked hr] at hsame
        omega
      · rw [hnone] at hr'
        cases hr'
    · exact fun u hu => recipient_of_limitTells hop h.tells hlimit ((h.stored r hr).2 u hu) hr'
  · intro hnone
    cases hr : w.store.events.get? e with
    | some r =>
      rcases hend with hsame | ⟨v, r₀, rfl, hr₀, hall, -, htold⟩
      · rw [outcomes_of_none hnone, hacked hr] at hsame
        exact Or.inl hsame
      · refine Or.inr ⟨htold.trans (h.stored r hr).1, fun u hu => ?_⟩
        obtain rfl : r₀ = r := Option.some.inj (hr₀.symm.trans hr)
        by_cases huv : u = v
        · exact Or.inr (by rw [huv])
        · exact Or.inl (h.acked_of_isAllApplied hr hall hu huv)
    | none =>
      rcases hend with hsame | ⟨_, r₀, _, hr₀, -⟩
      · rw [outcomes_of_none hnone, outcomes_of_none hr] at hsame
        rw [hsame]
        exact (h.gone hr).imp_right fun hg => ⟨hg.1, fun u hu => Or.inl (hg.2 u hu)⟩
      · rw [hr] at hr₀
        cases hr₀
  · intro r' u hr' hst
    obtain ⟨r, hr, -, hstep⟩ := hback r' hr'
    rcases (hstep u).applied_cases hst with hold | hack
    · exact Or.inl (h.applied r u hr hold)
    · exact Or.inr hack

end

/-! ## Every run -/

section
variable {cfg : StoreConfig} {w w' : StoreWorld P} {e : String} {targetIds : List ℕ}

/-- No sender was told about an event that was not created. -/
def ToldIssued (w : StoreWorld P) : Prop := ∀ e, e ∉ w.issued → w.store.told e = 0

/-- An operation on an event that is not stored, and not created by it, changes nothing. -/
theorem gone_step {op : ℤ × StoreOp P} (hw : WorldInv w) (hnone : w.store.events.get? e = none)
    (hop : e ∉ op.2.issues) (hst : storeStep cfg w op = some w') :
    w'.store.events.get? e = none ∧ w'.store.told e = w.store.told e := by
  obtain ⟨⟨-, hen⟩, rfl⟩ := by simpa [storeStep] using hst
  obtain ⟨now, op⟩ := op
  have hnew : ∀ e' ∈ op.issues, w.store.events.get? e' = none :=
    fun e' he' => hw.fresh (StoreOp.fresh_of_enabled hen e' he')
  have hnone' : (op.apply cfg now w.store).events.get? e = none := by
    cases hr' : (op.apply cfg now w.store).events.get? e with
    | none => rfl
    | some r' =>
      obtain ⟨r, hr, -⟩ := apply_recipientStep cfg now w.store hop hr'
      simp [hnone] at hr
  refine ⟨hnone', ?_⟩
  have htells : Tells e w.store := fun r hr => by simp [hnone] at hr
  rcases apply_outcomes hw.store cfg now hop hnew htells with hsame | ⟨_, _, _, hr, _⟩
  · rwa [outcomes_of_none hnone', outcomes_of_none hnone] at hsame
  · simp [hnone] at hr

theorem ToldIssued.step {op : ℤ × StoreOp P} (hw : WorldInv w) (h : ToldIssued w)
    (hst : storeStep cfg w op = some w') : ToldIssued w' := by
  have hissued : w'.issued = op.2.issues ++ w.issued := by
    obtain ⟨-, rfl⟩ := by simpa [storeStep] using hst
    rfl
  intro e he
  rw [hissued, List.mem_append, not_or] at he
  rw [(gone_step hw (hw.fresh he.2) he.1 hst).2]
  exact h e he.2

theorem toldIssued_run {ok : StoreWorld P → ℤ × StoreOp P → Prop} {t : ℤ}
    {ops : List (ℤ × StoreOp P)} (hrun : Run (storeStep cfg) ok (StoreWorld.init P t) ops w) :
    WorldInv w ∧ ToldIssued w :=
  hrun.inv (I := fun w => WorldInv w ∧ ToldIssued w) ⟨.init t, fun _ _ => rfl⟩
    fun _ _ _ h _ hst => ⟨h.1.step hst, h.2.step h.1 hst⟩

theorem Outcome.mono {s : EventStore P} {acked acked' : ℕ → Prop}
    (h : Outcome e targetIds acked s) (hle : ∀ u, acked u → acked' u) :
    Outcome e targetIds acked' s where
  tells := h.tells
  stored := h.stored
  gone hnone := (h.gone hnone).imp_right fun hg => ⟨hg.1, fun u hu => hle u (hg.2 u hu)⟩
  applied r u hr hst := hle u (h.applied r u hr hst)

/-- What a run preserves, once the event is created. -/
theorem outcome_run {w₀ : StoreWorld P} {ops : List (ℤ × StoreOp P)}
    (hrun : Run (storeStep cfg) (LimitTells cfg) w₀ ops w) (hw : WorldInv w₀)
    (hissued : e ∈ w₀.issued) (h : Outcome e targetIds (fun _ => False) w₀.store) :
    (WorldInv w ∧ e ∈ w.issued) ∧
      Outcome e targetIds (fun u => ∃ t, (t, .markApplied u e) ∈ ops) w.store := by
  induction hrun with
  | nil => exact ⟨⟨hw, hissued⟩, h.mono fun _ => False.elim⟩
  | @snoc ops w₁ op w₂ _ hlimit hst ih =>
    obtain ⟨⟨hw₁, hissued₁⟩, h₁⟩ := ih
    have hissued₂ : e ∈ w₂.issued := by
      obtain ⟨-, rfl⟩ := by simpa [storeStep] using hst
      exact List.mem_append_right _ hissued₁
    refine ⟨⟨hw₁.step hst, hissued₂⟩, (h₁.step hw₁ hissued₁ hlimit hst).mono fun u hu => ?_⟩
    rcases hu with ⟨t, ht⟩ | hack
    · exact ⟨t, List.mem_append_left _ ht⟩
    · exact ⟨op.1, List.mem_append_right _ (by rw [← hack]; exact List.mem_singleton_self op)⟩

/-- An id that was issued is not issued again, and stays issued. -/
theorem issued_step {op : ℤ × StoreOp P} (hissued : e ∈ w.issued)
    (hst : storeStep cfg w op = some w') : e ∉ op.2.issues ∧ e ∈ w'.issued := by
  obtain ⟨⟨-, hen⟩, rfl⟩ := by simpa [storeStep] using hst
  exact ⟨fun he => StoreOp.fresh_of_enabled hen e he hissued, List.mem_append_right _ hissued⟩

/-- Once the event is gone, it stays gone, and its sender hears nothing more. -/
theorem gone_run {ok : StoreWorld P → ℤ × StoreOp P → Prop} {w₀ : StoreWorld P}
    {ops : List (ℤ × StoreOp P)} (hrun : Run (storeStep cfg) ok w₀ ops w) (hw : WorldInv w₀)
    (hissued : e ∈ w₀.issued) (hnone : w₀.store.events.get? e = none) :
    w.store.events.get? e = none ∧ w.store.told e = w₀.store.told e := by
  have hinv := hrun.inv (I := fun w => (WorldInv w ∧ e ∈ w.issued) ∧
    w.store.events.get? e = none ∧ w.store.told e = w₀.store.told e)
    ⟨⟨hw, hissued⟩, hnone, rfl⟩ ?_
  · exact hinv.2
  · rintro w₁ op w₂ ⟨⟨hw₁, hissued₁⟩, hnone₁, htold₁⟩ - hst
    obtain ⟨hop, hissued₂⟩ := issued_step hissued₁ hst
    obtain ⟨hnone₂, htold₂⟩ := gone_step hw₁ hnone₁ hop hst
    exact ⟨⟨hw₁.step hst, hissued₂⟩, hnone₂, htold₂.trans htold₁⟩

/-- **The sender learns the outcome exactly once**, in every run in which the limit per user
    takes all the recipients of an event or none.  While the event is stored, none of its targets
    has been dropped and nothing was said; when it is gone, either `event.expired` was emitted
    once, or every target has applied it and it never is. -/
theorem sender_told {t₀ now : ℤ} {pre mid late : List (ℤ × StoreOp P)} {w₁ : StoreWorld P}
    {eventName : String} {payload : P} {qos : QoS} {options : CreateOptions} {sender : ℕ}
    (hmid : Run (storeStep cfg) (LimitTells cfg) (StoreWorld.init P t₀)
      (pre ++ (now, .create e targetIds eventName payload qos options) :: mid) w₁)
    (hlate : Run (storeStep cfg) (LimitTells cfg) w₁ late w)
    (hnotify : options.notifySender = some true) (hsender : options.senderId = some sender)
    (h0 : sender ≠ 0) :
    w.store.told e ≤ 1 ∧
    (∀ r, w₁.store.events.get? e = some r →
      w₁.store.told e = 0 ∧ ∀ u ∈ targetIds, Recipient w₁.store u e) ∧
    (w₁.store.events.get? e = none → w.store.told e = 1 ∨
      w.store.told e = 0 ∧ ∀ u ∈ targetIds, ∃ t, (t, .markApplied u e) ∈ mid) := by
  obtain ⟨w₂, w₃, hpre, hlimit, hst, hmid⟩ := hmid.cut
  obtain ⟨hw₂, htold₂⟩ := toldIssued_run hpre
  have hw₃ := hw₂.step hst
  obtain ⟨⟨-, hen⟩, rfl⟩ := by simpa [storeStep] using hst
  have hnew : e ∉ w₂.issued := by simpa [StoreOp.enabled] using hen
  have htells : tellsSender (newRecord e eventName payload qos options now) = true := by
    simp [tellsSender, newRecord, hnotify, hsender, h0]
  have hcreated := outcome_create hw₂.store (hw₂.fresh hnew) (htold₂ e hnew) htells hlimit
  have hissued₃ : e ∈ (StoreOp.create e targetIds eventName payload qos options).issues ++
      w₂.issued := List.mem_append_left _ (List.mem_singleton_self e)
  obtain ⟨⟨hw₁, hissued₁⟩, hend⟩ := outcome_run hmid hw₃ hissued₃ hcreated
  refine ⟨(outcome_run (hmid.append hlate) hw₃ hissued₃ hcreated).2.told_le, hend.stored,
    fun hnone => ?_⟩
  rw [(gone_run hlate hw₁ hissued₁ hnone).2]
  exact hend.gone hnone

end

instance (cfg : StoreConfig) (now : ℤ) (vs : List ℕ) (s : EventStore P) :
    Decidable (LimitSpares cfg now vs s) :=
  inferInstanceAs (Decidable (∀ x ∈ s.events.entries, tellsSender x.2 = true →
    (∀ d ∈ limitDrops cfg now vs s, d.2 ≠ x.1) ∨
      ∀ u ∈ x.2.userStatus.keys, (u, x.1) ∈ limitDrops cfg now vs s))

instance (cfg : StoreConfig) (w : StoreWorld P) (op : ℤ × StoreOp P) :
    Decidable (LimitTells cfg w op) :=
  match op with
  | (now, .create e targetIds eventName payload qos options) =>
    inferInstanceAs (Decidable (LimitSpares cfg now targetIds
      (inserted cfg e targetIds eventName payload qos options now w.store)))
  | (_, .markDelivered ..) => isTrue trivial
  | (_, .markFailed ..) => isTrue trivial
  | (_, .markApplied ..) => isTrue trivial
  | (_, .expiryTimer ..) => isTrue trivial
  | (_, .cleanup) => isTrue trivial

/-- Two users acknowledge an event, one after the other. -/
def ackedByBoth : List (ℤ × StoreOp JsObj) :=
  [(10, .create "e" [1, 2] "sync-alarm" [] .qos2 { senderId := some 9, notifySender := some true }),
    (11, .markApplied 1 "e"), (12, .markApplied 2 "e")]

theorem sender_told_ackedByBoth :
    ∃ w, exec (guarded (storeStep {}) (LimitTells {})) (StoreWorld.init JsObj 0) ackedByBoth =
        some w ∧ w.store.told "e" ≤ 1 ∧
      (∀ r, w.store.events.get? "e" = some r → w.store.told "e" = 0 ∧
        ∀ u ∈ [1, 2], Recipient w.store u "e") ∧
      (w.store.events.get? "e" = none → w.store.told "e" = 1 ∨
        w.store.told "e" = 0 ∧ ∀ u ∈ [1, 2], ∃ t, (t, .markApplied u "e") ∈ ackedByBoth.tail) := by
  have hexec : (exec (guarded (storeStep {}) (LimitTells {})) (StoreWorld.init JsObj 0)
      ackedByBoth).isSome = true := by decide
  obtain ⟨w, hw⟩ := Option.isSome_iff_exists.1 hexec
  have hrun : Run (storeStep {}) (LimitTells {}) (StoreWorld.init JsObj 0) ([] ++ ackedByBoth) w :=
    run_of_exec_guarded hw
  exact ⟨w, hw, sender_told hrun .nil rfl rfl (by decide)⟩

/-- With room for one event per user, a second event for user 1 takes the first one from it;
    user 2 acknowledges the first. -/
def droppedSilently : List (ℤ × StoreOp JsObj) :=
  [(10, .create "e" [1, 2] "sync-alarm" [] .qos2 { senderId := some 9, notifySender := some true }),
    (11, .create "f" [1] "sync-alarm" [] .qos2 {}), (12, .markApplied 2 "e")]

/-- The first event is gone, user 1 has not applied it, and its sender was told nothing. -/
theorem droppedSilently_untold :
    ¬ ∀ (cfg : StoreConfig) (t₀ now : ℤ) (pre mid : List (ℤ × StoreOp JsObj))
      (w : StoreWorld JsObj) (e : String) (targetIds : List ℕ) (eventName : String)
      (payload : JsObj) (qos : QoS) (options : CreateOptions) (sender : ℕ),
      Run (storeStep cfg) anyStep (StoreWorld.init JsObj t₀)
        (pre ++ (now, .create e targetIds eventName payload qos options) :: mid) w →
      options.notifySender = some true → options.senderId = some sender → sender ≠ 0 →
      w.store.events.get? e = none → w.store.told e = 1 ∨
        w.store.told e = 0 ∧ ∀ u ∈ targetIds, ∃ t, (t, .markApplied u e) ∈ mid := by
  intro h
  have hexec : (exec (storeStep { MAX_EVENTS_PER_USER := 1 }) (StoreWorld.init JsObj 0)
      droppedSilently).map (fun w => (w.store.events.has "e", w.store.told "e")) =
        some (false, 0) := by decide
  obtain ⟨w, hw, hread⟩ := Option.map_eq_some_iff.1 hexec
  obtain ⟨hgone, htold⟩ := Prod.mk.inj hread
  have hnone : w.store.events.get? "e" = none := by simpa [OMap.has] using hgone
  have hrun : Run (storeStep { MAX_EVENTS_PER_USER := 1 }) anyStep (StoreWorld.init JsObj 0)
      ([] ++ droppedSilently) w := run_of_exec hw
  rcases h _ _ _ _ _ _ _ _ _ _ _ _ _ hrun rfl rfl (by decide) hnone with hone | ⟨-, hacked⟩
  · omega
  · obtain ⟨t, ht⟩ := hacked 1 (by decide)
    simp at ht

end EventStore

end GatewayRealtime
