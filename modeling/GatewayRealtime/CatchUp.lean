/-
  What a connection is sent of the store (`lifesycles/base.lifesycle.ts`).

  * `Journal.ids`, `ids_run`: the events are stored in the order in which their ids were generated.
  * `Refines.markAllSent`: an event of quality 1 that is sent is no longer pending, one of quality 2
    still is.
  * `Gateway.deliveries`: the frames of stored events, on which sockets.
  * `catches_up`: whoever connects is sent all that is pending for it, in order, each event once.
-/
import GatewayRealtime.Finality
import GatewayRealtime.Journal
import GatewayRealtime.Retry

namespace GatewayRealtime

open EventStore

/-! ## The order of the events -/

/-- The ids of the events, oldest first. -/
def Journal.ids {P : Type} (j : Journal P) : List String := j.records.map EventRecord.eventId

/-- The ids of the events that are pending for a user, oldest first. -/
def Journal.pendingIds {P : Type} (j : Journal P) (u : ℕ) (now : ℤ) : List String :=
  (j.pending u now).map EventRecord.eventId

namespace Journal

variable {P : Type} {j : Journal P}

theorem ids_remove (gone : List (EventRecord P)) (reason : RemoveReason) :
    (j.remove gone reason).ids.Sublist j.ids := by
  rw [ids, records_remove]
  exact List.filter_sublist.map _

theorem ids_change {e : String} (f : EventRecord P → EventRecord P) {g : Entry P → Entry P}
    (hg : ∀ x, (g x).record = f x.record) (hid : ∀ r, (f r).eventId = r.eventId) :
    (j.change e g).ids.Sublist j.ids := by
  have hsame : (j.change e g).ids = j.ids := by
    rw [ids, records_change hg, List.map_map]
    refine List.map_congr_left fun r _ => ?_
    simp only [Function.comp_apply]
    split_ifs
    · exact hid r
    · rfl
  rw [hsame]

theorem ids_rewrite (e : String) (f : EventRecord P → EventRecord P)
    (hid : ∀ r, (f r).eventId = r.eventId) : (j.rewrite e f).ids.Sublist j.ids :=
  ids_change f (fun _ => rfl) hid

theorem ids_drop (u : ℕ) (e : String) : (j.drop u e).ids.Sublist j.ids := by
  have hdrop : (j.change e (·.drop u)).ids.Sublist j.ids :=
    ids_change (·.dropUser u) (fun _ => rfl) fun _ => rfl
  exact (ids_remove _ _).trans hdrop

theorem ids_foldl {α : Type} {f : Journal P → α → Journal P}
    (hf : ∀ j a, (f j a).ids.Sublist j.ids) : ∀ (l : List α) (j : Journal P),
    (l.foldl f j).ids.Sublist j.ids
  | [], _ => .refl _
  | a :: l, j => (ids_foldl hf l (f j a)).trans (hf j a)

theorem ids_limit (cfg : StoreConfig) (now : ℤ) (j : Journal P) (u : ℕ) :
    (j.limit cfg now u).ids.Sublist j.ids := by
  unfold limit
  split_ifs
  · exact .refl _
  · exact ids_foldl (fun j e => ids_drop u e) _ j

theorem ids_add (targetIds : List ℕ) (record : EventRecord P) (now : ℤ) :
    (j.add targetIds record now).ids = j.ids ++ [record.eventId] := by
  rw [ids, records, add, List.map_append, List.map_append, List.map_singleton, List.map_singleton,
    foldl_addTarget_eventId]
  rfl

/-- An operation keeps the order, and puts what is new last. -/
theorem ids_apply (cfg : StoreConfig) (now : ℤ) (op : StoreOp P) :
    (j.apply cfg now op).ids.Sublist (j.ids ++ op.issues) := by
  have hquiet : ∀ {j' : Journal P}, j'.ids.Sublist j.ids → j'.ids.Sublist (j.ids ++ []) :=
    fun h => (List.append_nil j.ids).symm ▸ h
  cases op with
  | create e targetIds eventName payload qos options =>
    refine (ids_foldl (ids_limit cfg now) targetIds _).trans ?_
    rw [ids_add]
    refine List.Sublist.append ?_ (.refl _)
    split_ifs
    · exact ids_remove _ _
    · exact .refl _
  | markDelivered u e =>
    refine hquiet (ids_rewrite _ _ fun r => ?_)
    split_ifs <;> rfl
  | markFailed u e error =>
    refine hquiet (ids_rewrite _ _ fun r => ?_)
    split_ifs <;> rfl
  | markApplied u e =>
    exact hquiet ((ids_remove _ _).trans (ids_rewrite _ _ fun _ => rfl))
  | expiryTimer e => exact hquiet (ids_remove _ _)
  | cleanup =>
    have hstale : ∀ j : Journal P, Journal.ids { j with
        entries := j.entries.map fun x => { x with record := failStale cfg now x.record } }
          |>.Sublist j.ids := fun j => by
      simp only [ids, records, List.map_map]
      exact .refl _
    refine hquiet ?_
    unfold apply
    dsimp only
    split_ifs
    · exact (ids_remove _ _).trans ((hstale _).trans (ids_remove _ _))
    · exact (hstale _).trans (ids_remove _ _)

end Journal

section
variable {P : Type} {cfg : StoreConfig} {ops : List (ℤ × StoreOp P)} {w : StoreWorld P} {t₀ : ℤ}

/-- The events are stored in the order in which their ids were issued. -/
theorem ids_run (hrun : Run (storeStep cfg) anyStep (StoreWorld.init P t₀) ops w) :
    (journal cfg ops).ids.Sublist w.issued.reverse := by
  induction hrun with
  | nil => exact List.nil_sublist _
  | @snoc ops w op w' _ _ hst ih =>
    obtain ⟨-, rfl⟩ := by simpa [storeStep] using hst
    rw [journal, List.foldl_append]
    refine (Journal.ids_apply cfg op.1 op.2).trans ?_
    rw [List.reverse_append]
    refine List.Sublist.append ih ?_
    cases op.2 <;> exact .refl _

end

/-! ## What is pending after a delivery -/

section
variable {P : Type} {s : EventStore P} {j : Journal P} {u : ℕ} {now : ℤ}

theorem Journal.pendingIds_remove (gone : List (EventRecord P)) (reason : RemoveReason) :
    (j.remove gone reason).pendingIds u now =
      (j.pendingIds u now).filter (· ∉ gone.map EventRecord.eventId) := by
  rw [pendingIds, pending, mine_remove, List.filter_filter, pendingIds, pending, List.filter_map,
    List.filter_filter]
  exact congrArg _ (List.filter_congr fun x _ => Bool.and_comm ..)

/-- Writing a record takes its event out of what is pending, or leaves it there. -/
theorem Journal.pendingIds_rewrite (e : String) (f : EventRecord P → EventRecord P) (keeps : Bool)
    (hid : ∀ r, (f r).eventId = r.eventId)
    (hpending : ∀ r, (f r).isPending u now = (keeps && r.isPending u now)) :
    (j.rewrite e f).pendingIds u now =
      (j.pendingIds u now).filter fun id => keeps || decide (id ≠ e) := by
  rw [pendingIds, pending, mine_rewrite, pendingIds, pending]
  induction j.mine u with
  | nil => rfl
  | cons r l ih =>
    have hkept : (if r.eventId = e then f r else r).eventId = r.eventId := by
      split_ifs
      · exact hid r
      · rfl
    by_cases he : r.eventId = e <;> cases hp : r.isPending u now <;> cases keeps <;>
      simp_all

theorem Journal.eventId_of_get? {e : String} {r : EventRecord P} (h : j.get? e = some r) :
    r.eventId = e := by
  obtain ⟨x, hx, rfl⟩ := Option.map_eq_some_iff.1 h
  simpa using List.find?_some hx

/-- An event that is applied is no longer pending. -/
theorem Journal.pendingIds_applied (e : String) :
    (j.applied u e).pendingIds u now = (j.pendingIds u now).filter (· ≠ e) := by
  have happlied : ∀ r : EventRecord P,
      (r.setUserStatus u .APPLIED).isPending u now = (false && r.isPending u now) :=
    fun r => by simp [EventRecord.isPending, EventRecord.getUserStatus]
  rw [applied, pendingIds_remove,
    pendingIds_rewrite e (·.setUserStatus u .APPLIED) false (fun _ => rfl) happlied,
    List.filter_filter]
  refine List.filter_congr fun id _ => ?_
  by_cases hid : id = e
  · simp [hid]
  · have hnot : id ∉ ((((j.rewrite e (·.setUserStatus u .APPLIED)).get? e).toList.filter
        (·.isAllApplied)).map EventRecord.eventId) := by
      intro hmem
      obtain ⟨r, hr, rfl⟩ := List.mem_map.1 hmem
      exact hid (eventId_of_get? (Option.mem_toList.1 (List.mem_filter.1 hr).1))
    simp [hid, hnot]

/-- An event that has been sent is pending still. -/
theorem Journal.pendingIds_delivered (cfg : StoreConfig) (e : String) :
    (j.apply cfg now (.markDelivered u e)).pendingIds u now = j.pendingIds u now := by
  refine (pendingIds_rewrite e _ true (fun r => ?_) fun r => ?_).trans (List.filter_true _)
  · split_ifs <;> rfl
  · split_ifs with happlied
    · rfl
    · have hset : ((r.setUserStatus u .DELIVERED).incrementDeliveryAttempt u now).getUserStatus u =
          .DELIVERED := by
        simp [EventRecord.getUserStatus, EventRecord.incrementDeliveryAttempt]
      rw [Bool.true_and, EventRecord.isPending, EventRecord.isPending, hset]
      simp only [happlied, ne_eq, not_false_eq_true, reduceCtorEq, decide_true, Bool.true_and]
      rfl

/-- Sending an event ends it, for the user, if it has quality 1. -/
theorem Refines.markSent (h : Refines s j) (r : EventRecord P) :
    ∃ j', Refines (s.markSent u r now) j' ∧ j'.pendingIds u now =
      (j.pendingIds u now).filter fun id => decide (r.qos ≠ .qos1) || decide (id ≠ r.eventId) := by
  unfold EventStore.markSent
  split
  · rename_i hqos
    refine ⟨_, h.markApplied u r.eventId, ?_⟩
    simp [Journal.pendingIds_applied, hqos]
  · rename_i hqos
    refine ⟨_, h.markDelivered {} u r.eventId now, ?_⟩
    simp [Journal.pendingIds_delivered, hqos]
  · rename_i hqos
    exact ⟨j, h, by simp [hqos]⟩

/-- Elements with distinct keys, without those that meet a condition. -/
theorem filter_notMem_map {α β : Type} [DecidableEq β] {key : α → β} {c : α → Bool} {l : List α}
    (hnodup : (l.map key).Nodup) : (l.map key).filter (· ∉ (l.filter c).map key) =
      (l.filter fun a => !c a).map key := by
  rw [List.filter_map]
  refine congrArg _ (List.filter_congr fun a ha => ?_)
  have hiff : key a ∈ (l.filter c).map key ↔ c a = true := by
    constructor
    · intro hmem
      obtain ⟨b, hb, heq⟩ := List.mem_map.1 hmem
      obtain ⟨hb, hc⟩ := List.mem_filter.1 hb
      exact List.inj_on_of_nodup_map hnodup hb ha heq ▸ hc
    · exact fun hc => List.mem_map_of_mem (List.mem_filter.2 ⟨ha, hc⟩)
  simp only [Function.comp_apply, hiff, Bool.decide_eq_true, decide_not]

/-- What is sent is pending still unless it has quality 1. -/
theorem Refines.markAllSent (u : ℕ) (now : ℤ) : ∀ (sent : List (EventRecord P))
    {s : EventStore P} {j : Journal P}, Refines s j → ∃ j', Refines (s.markAllSent u now sent) j' ∧
      j'.pendingIds u now = (j.pendingIds u now).filter
        (· ∉ (sent.filter (·.qos = .qos1)).map EventRecord.eventId)
  | [], s, j, h => ⟨j, h, by simp⟩
  | r :: sent, s, j, h => by
    obtain ⟨j₁, h₁, hids₁⟩ := h.markSent r
    obtain ⟨j₂, h₂, hids₂⟩ := Refines.markAllSent u now sent h₁
    refine ⟨j₂, h₂, ?_⟩
    rw [hids₂, hids₁, List.filter_filter]
    refine List.filter_congr fun id _ => ?_
    by_cases hqos : r.qos = .qos1 <;> by_cases hid : id = r.eventId <;> simp [hqos, hid]

end

/-! ## The frames of stored events -/

/-- The frame of a stored event in an effect: the socket, the event and the frame. -/
def Effect.delivery : Effect → Option (ClientRef × String × Frame)
  | .send c _ frame (.stored eventId) => some (c, eventId, frame)
  | _ => none

/-- The frames of stored events, oldest first. -/
def Gateway.deliveries (g : Gateway) : List (ClientRef × String × Frame) :=
  g.trace.filterMap Effect.delivery

section
variable {cfg : GatewayConfig} {g : Gateway} {k : Connections} {c : ClientRef} {r : SessionRef}
  {u : ℕ} {a : Authenticated}

theorem deliveries_log (g : Gateway) (effects : List Effect) :
    (g.log effects).deliveries = g.deliveries ++ effects.filterMap Effect.delivery :=
  List.filterMap_append ..

/-- Effects that deliver nothing. -/
theorem deliveries_log_of_none {effects : List Effect} (h : ∀ e ∈ effects, e.delivery = none) :
    (g.log effects).deliveries = g.deliveries := by
  rw [deliveries_log, List.filterMap_eq_nil_iff.2 h, List.append_nil]

theorem delivery_of_notice {e : Effect} (h : e.IsNotice) : e.delivery = none := by
  cases e with
  | send c r frame origin =>
    cases origin with
    | notice => rfl
    | _ => cases h
  | _ => cases h

@[simp] theorem deliveries_setStore (g : Gateway) (s : EventStore JsObj) :
    (g.setStore s).deliveries = g.deliveries := by
  obtain ⟨notices, heq, hnotices⟩ := setStore_eq g s
  rw [heq, deliveries_log_of_none fun e he => delivery_of_notice (hnotices e he)]
  rfl

@[simp] theorem deliveries_presence (g : Gateway) (r : SessionRef) (event : String)
    (withDeviceId : Bool) : (g.presence r event withDeviceId).deliveries = g.deliveries := by
  have hnone : ∀ e ∈ g.conn.presence r event withDeviceId, e.delivery = none := by
    intro e he
    unfold Connections.presence at he
    split at he
    · cases he
    · obtain ⟨b, -, he⟩ := List.mem_flatMap.1 he
      obtain ⟨c, -, -, rfl⟩ := mem_send_iff.1 he
      rfl
  unfold Gateway.presence
  split
  · split_ifs
    · exact deliveries_log_of_none hnone
    · rfl
  · rfl

@[simp] theorem deliveries_ready (g : Gateway) (c : ClientRef) :
    (g.ready c).deliveries = g.deliveries := by
  unfold Gateway.ready
  dsimp only
  split_ifs
  · exact deliveries_log_of_none (by simp [Effect.delivery])
  · rfl

@[simp] theorem store_ready (g : Gateway) (c : ClientRef) : (g.ready c).store = g.store := by
  unfold Gateway.ready
  dsimp only
  split_ifs <;> rfl

/-- The frames of some records on an open socket. -/
theorem deliveries_send (hsocket : k.socket r = some c) (hopen : k.isOpen c = true) :
    ∀ records : List (EventRecord JsObj), (records.flatMap fun record =>
        k.send r (.json (pendingMessage record)) (.stored record.eventId)).filterMap
      Effect.delivery = records.map fun record =>
        (c, record.eventId, Frame.json (pendingMessage record))
  | [] => rfl
  | record :: records => by
    rw [List.flatMap_cons, List.filterMap_append, deliveries_send hsocket hopen records]
    simp [Connections.send, hsocket, hopen, Effect.delivery]

/-- On an open socket all records are sent and marked. -/
theorem deliverLoop_eq (u : ℕ) (now : ℤ) : ∀ (i : ℕ) (records : List (EventRecord JsObj))
    (s : EventStore JsObj), deliverLoop u now (fun _ => true) i records s =
      (records, s.markAllSent u now records)
  | _, [], _ => rfl
  | i, record :: rest, s => by
    simp only [deliverLoop, if_true, deliverLoop_eq u now (i + 1) rest]
    rfl

theorem deliverPending_eq (hid : g.conn.sessionId r = some u) (hsocket : g.conn.socket r = some c)
    (hopen : g.conn.isOpen c = true) :
    (g.deliverPending r).store = g.store.markAllSent u g.clock (g.store.getPending u g.clock) ∧
      (g.deliverPending r).deliveries =
        g.deliveries ++ (g.store.getPending u g.clock).map fun record =>
          (c, record.eventId, .json (pendingMessage record)) := by
  have hactive : g.conn.isActive r = true := g.conn.isActive_iff.2 ⟨c, hsocket, hopen⟩
  unfold Gateway.deliverPending
  rw [hid]
  simp only [hactive, deliverPendingEvents, deliverLoop_eq]
  refine ⟨rfl, ?_⟩
  rw [deliveries_setStore, deliveries_log, deliveries_send hsocket hopen]

theorem isOpen_ready (g : Gateway) (c c' : ClientRef) :
    (g.ready c).conn.isOpen c' = g.conn.isOpen c' := by
  have hconn : (g.ready c).conn = g.conn.updateClient c fun client =>
      { client with listening := true } := by
    unfold Gateway.ready
    dsimp only
    split_ifs <;> rfl
  rw [hconn, Connections.isOpen, Connections.clients_updateClient, Connections.isOpen]
  cases g.conn.clients[c']? with
  | none => rfl
  | some client =>
    dsimp only [Option.map_some]
    split_ifs <;> rfl

/-- A session comes online on an open socket, and is sent what is pending for it. -/
theorem onConnect_eq {s : WsSession} (hs : g.conn.heap[r]? = some s)
    (hl : s.type.hasLifecycle = true) (hsocket : s.socket = some c)
    (hopen : g.conn.isOpen c = true) :
    (g.onConnect r).1.store = g.store.markAllSent s.sessionId g.clock
        (g.store.getPending s.sessionId g.clock) ∧
      (g.onConnect r).1.deliveries =
        g.deliveries ++ (g.store.getPending s.sessionId g.clock).map fun record =>
          (c, record.eventId, .json (pendingMessage record)) := by
  have hself : (g.conn.updateSession r fun s => { s with state := .ONLINE }).heap[r]? =
      some { s with state := .ONLINE } := by
    simp [Connections.heap_updateSession, hs]
  obtain ⟨hstore, hdeliveries⟩ := deliverPending_eq (r := r) (c := c) (u := s.sessionId)
    (g := { g with conn := g.conn.updateSession r fun s => { s with state := .ONLINE } })
    (by simp [Connections.sessionId, hself]) (by simp [Connections.socket, hself, hsocket]) hopen
  unfold Gateway.onConnect
  rw [hs]
  dsimp only
  rw [if_pos hl]
  simpa using ⟨hstore, hdeliveries⟩

/-- A connection enters, and is sent what is pending for it. -/
theorem connected_eq (hk : g.conn.Inv) (hopen : (g.connected c a).1.conn.isOpen c = true) :
    (g.connected c a).1.store = g.store.markAllSent a.id_enduser g.clock
        (g.store.getPending a.id_enduser g.clock) ∧
      (g.connected c a).1.deliveries =
        g.deliveries ++ (g.store.getPending a.id_enduser g.clock).map fun record =>
          (c, record.eventId, .json (pendingMessage record)) := by
  obtain ⟨s, hs, hsocket, -, hid, hissued⟩ :=
    (establishSession_entered hk a c).heap_self hk
  have hl := TypeEnduser.hasLifecycle_of_issues hissued
  have hconn := onConnect_conn (g := { g with
    conn := (g.conn.establishSession a.id_enduser a.auth a.type a.product c).1 }) hs hl
  have hsame : (g.connected c a).1.conn.isOpen c =
      (g.conn.establishSession a.id_enduser a.auth a.type a.product c).1.isOpen c := by
    unfold Gateway.connected
    dsimp only
    split_ifs
    · rw [hconn]
      rfl
    · rw [isOpen_ready, hconn]
      rfl
  obtain ⟨hstore, hdeliveries⟩ := onConnect_eq (g := { g with
    conn := (g.conn.establishSession a.id_enduser a.auth a.type a.product c).1 }) hs hl hsocket
      (hsame ▸ hopen)
  rw [hid] at hstore hdeliveries
  unfold Gateway.connected
  dsimp only
  split_ifs
  · exact ⟨hstore, hdeliveries⟩
  · simpa using ⟨hstore, hdeliveries⟩

end

/-! ## Runs -/

section
variable {cfg : GatewayConfig} {t₀ : ℤ} {acts : List (Act GatewayEvent GatewayAnswer)}
  {p p' : Pool Gateway Task} {i : ℕ} {c : ClientRef} {a : Authenticated}

/-- **Whoever connects catches up.**  In every run, when a connection has been authenticated and its
    socket is still open, it is sent in this step every event that is pending for its user, and
    no other stored event: each once, in the order in which the events were created, which is that
    of their ids.  After the step the events of quality 1 among them are done for the user, and the
    others are pending, in the same order. -/
theorem catches_up (hrun : Run (gatewayProgram cfg).step anyStep (Gateway.start t₀) acts p)
    (ht : p.threads[i]? = some (.authenticate c))
    (hst : (gatewayProgram cfg).step p (.resume i (.authenticated (.ok a))) = some p')
    (hopen : p'.shared.conn.isOpen c = true) :
    p'.shared.deliveries = p.shared.deliveries ++
        (p.shared.store.getPending a.id_enduser p.shared.clock).map (fun record =>
          (c, record.eventId, .json (pendingMessage record))) ∧
      ((p.shared.store.getPending a.id_enduser p.shared.clock).map EventRecord.eventId).Sublist
        ((List.range p.shared.generated).map cfg.randomUUID) ∧
      (p'.shared.store.getPending a.id_enduser p.shared.clock).map EventRecord.eventId =
        ((p.shared.store.getPending a.id_enduser p.shared.clock).filter
          (·.qos ≠ .qos1)).map EventRecord.eventId := by
  have hp := consistent_run hrun
  have hshared : p'.shared = (p.shared.connected c a).1 := by
    obtain ⟨e, s, new, hact, -⟩ | ⟨i', answer, t, g', t', new, hact, ht', hr, rfl⟩ :=
      Program.step_cases hst
    · cases hact
    · cases hact
      obtain rfl := Option.some.inj (ht.symm.trans ht')
      exact (congrArg Prod.fst (Option.some.inj hr)).symm
  rw [hshared] at hopen ⊢
  obtain ⟨hstore, hdeliveries⟩ := connected_eq hp.1.conn hopen
  obtain ⟨ops, clock, -, hstoreRun⟩ := hp.1.storeRun
  obtain ⟨-, hrefines⟩ := refines_run hstoreRun
  have hids := ids_run hstoreRun
  have hpending := hrefines.getPending a.id_enduser p.shared.clock
  have hsub : ((p.shared.store.getPending a.id_enduser p.shared.clock).map
      EventRecord.eventId).Sublist (journal cfg.store ops).ids := by
    rw [hpending]
    exact (List.filter_sublist.trans (List.filter_sublist.map Entry.record)).map _
  refine ⟨hdeliveries, ?_, ?_⟩
  · refine hsub.trans (hids.trans ?_)
    simp only [Gateway.issued, List.reverse_reverse]
    exact .refl _
  · obtain ⟨j', hrefines', hids'⟩ := Refines.markAllSent a.id_enduser p.shared.clock
      (p.shared.store.getPending a.id_enduser p.shared.clock) hrefines
    rw [hstore, hrefines'.getPending, ← Journal.pendingIds, hids', Journal.pendingIds, ← hpending]
    refine (filter_notMem_map (hrefines.nodup.sublist hsub)).trans ?_
    exact congrArg _ (List.filter_congr fun r _ => (decide_not ..).symm)

end

/-- The device of two uploads is connecting again. -/
def returning : List (Act GatewayEvent GatewayAnswer) :=
  twoUploads ++ [.event (.close 0), .event .connect, .resume 6 (.rateLimit (.ok ()))]

/-- It is let in. -/
def returned : List (Act GatewayEvent GatewayAnswer) :=
  returning ++ [.resume 6 (.authenticated (.ok reader))]

theorem catches_up_returning :
    ((reach returning).shared.store.getPending 7 (reach returning).shared.clock).map
        EventRecord.eventId = ["", "e"] ∧
      (reach returned).shared.deliveries = (reach returning).shared.deliveries ++
        ((reach returning).shared.store.getPending 7 (reach returning).shared.clock).map
          (fun record => (2, record.eventId, .json (pendingMessage record))) ∧
      (((reach returning).shared.store.getPending 7 (reach returning).shared.clock).map
        EventRecord.eventId).Sublist ((List.range (reach returning).shared.generated).map
          GatewayConfig.defaults.randomUUID) ∧
      ((reach returned).shared.store.getPending 7 (reach returning).shared.clock).map
        EventRecord.eventId =
          (((reach returning).shared.store.getPending 7 (reach returning).shared.clock).filter
            (·.qos ≠ .qos1)).map EventRecord.eventId := by
  have hst : (gatewayProgram .defaults).step (reach returning)
      (.resume 6 (.authenticated (.ok reader))) = some (reach returned) := step_reach rfl
  exact ⟨by decide +kernel, catches_up (run_reach rfl) rfl hst rfl⟩

end GatewayRealtime
