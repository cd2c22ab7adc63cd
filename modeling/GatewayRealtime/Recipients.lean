/-
  Who receives the frames of an event.

  * `Gateway.grants`: the events that were stored, each with the grant of its dispatch.
  * `Effect.Permitted`: a frame of a dispatch, or of an event that one has stored, goes to a
    session that the grant accepts.
  * `Gateway.Filtered`: the invariant: so it is for all frames sent, and the events that are
    stored for a user are ones that its session may receive.
  * `Respects`: the filter holds of the targets too, and of a session that is established late.
  * `only_permitted_recipients`: then every frame ever sent goes to a permitted recipient.
-/
import GatewayRealtime.Partition

namespace GatewayRealtime

/-- An event that is stored, and the grant of its dispatch. -/
def Effect.granted : Effect → Option (String × Option Grant)
  | .store eventId _ _ grant => some (eventId, grant)
  | _ => none

/-- The events stored so far, with their grants. -/
def Gateway.grants (g : Gateway) : List (String × Option Grant) :=
  g.trace.filterMap Effect.granted

/-- A frame of a dispatch goes to a session that its grant accepts, and so does a frame of a
    stored event. -/
def Effect.Permitted (g : Gateway) : Effect → Prop
  | .send _ r _ (.dispatch _ grant) => g.conn.Accepted grant [r]
  | .send _ r _ (.stored eventId) =>
    ∀ grant, (eventId, grant) ∈ g.grants → g.conn.Accepted grant [r]
  | _ => True

/-- No frame was ever sent to anyone else. -/
def Gateway.OnlyPermitted (g : Gateway) : Prop := ∀ e ∈ g.trace, e.Permitted g

/-- Those of the users who have a session are accepted by the grant. -/
def Connections.Admits (k : Connections) (ids : List ℕ) (grant : Option Grant) : Prop :=
  ∀ id ∈ ids, ∀ r ∈ k.find id, k.Accepted grant [r]

/-- The dispatch that a computation has to finish. -/
def Task.dispatching : Task → Option Qossing
  | .targets q => some q
  | _ => none

/-- The targets of a query that have a session pass the filter of the receivers, and a session
    that is established for a user with stored events passes the filters of these. -/
def Respects (p : Pool Gateway Task) : Act GatewayEvent GatewayAnswer → Prop
  | .resume i (.targets (.ok ids)) =>
    ∀ q ∈ (p.threads[i]?).bind Task.dispatching, p.shared.conn.Admits ids q.grant
  | .resume _ (.authenticated (.ok a)) => p.shared.conn.find a.id_enduser = none →
      ∀ e ∈ p.shared.grants, e.1 ∈ p.shared.store.indexed a.id_enduser →
        e.2.all (·.accepts a.auth) = true
  | _ => True

/-- The id of the stored event that an effect is about. -/
def Effect.eventId : Effect → Option String
  | .send _ _ _ (.stored eventId) => some eventId
  | .store eventId _ _ _ => some eventId
  | _ => none

/-- All frames so far were permitted, and whatever is stored for a user with a session may be
    sent to it.  The ids of stored events have been issued, so that no event is granted twice. -/
structure Gateway.Filtered (cfg : GatewayConfig) (g : Gateway) : Prop where
  sent : g.OnlyPermitted
  indexed : ∀ u eventId grant r, EventStore.inIndex g.store.userEvents u eventId →
    (eventId, grant) ∈ g.grants → g.conn.find u = some r → g.conn.Accepted grant [r]
  issued : ∀ e ∈ g.trace, ∀ eventId, e.eventId = some eventId → eventId ∈ g.issued cfg
  stored : ∀ u eventId, EventStore.inIndex g.store.userEvents u eventId → eventId ∈ g.issued cfg

section
variable {cfg : GatewayConfig} {ok : Promise} {g g' : Gateway} {k k' : Connections} {t₀ : ℤ}

/-- Events are created for users whom the grant lets through. -/
def Promise.admitting : Promise :=
  ⟨fun k targetIds _ _ grant => k.Admits targetIds grant, fun _ _ _ => True⟩

/-! ## Grants -/

theorem mem_grants {eventId : String} {grant : Option Grant} :
    (eventId, grant) ∈ g.grants ↔
      ∃ targets sender, Effect.store eventId targets sender grant ∈ g.trace := by
  constructor
  · intro h
    obtain ⟨e, he, hgranted⟩ := List.mem_filterMap.1 h
    cases e with
    | store eventId' targets sender grant' =>
      cases hgranted
      exact ⟨targets, sender, he⟩
    | _ => cases hgranted
  · rintro ⟨targets, sender, h⟩
    exact List.mem_filterMap.2 ⟨_, h, rfl⟩

/-- Events are stored by `createEvent` alone. -/
theorem grants_log {effects : List Effect} (hdue : ∀ e ∈ effects, e.Due ok g) :
    (g.log effects).grants = g.grants := by
  have hnone : effects.filterMap Effect.granted = [] := by
    refine List.filterMap_eq_nil_iff.2 fun e he => ?_
    cases e with
    | store => exact (hdue _ he).elim
    | _ => rfl
  unfold Gateway.grants Gateway.log
  rw [List.filterMap_append, hnone, List.append_nil]

/-! ## Elementary changes -/

/-- Sessions keep their principals, so a frame that was permitted still is, unless its event is
    granted anew. -/
theorem Effect.Permitted.mono {e : Effect} (h : e.Permitted g) (hext : g.conn.Extends g'.conn)
    (hgrants : ∀ eventId grant, e.eventId = some eventId → (eventId, grant) ∈ g'.grants →
      (eventId, grant) ∈ g.grants) : e.Permitted g' := by
  unfold Effect.Permitted at h ⊢
  split
  · exact hext.accepted h
  · exact fun grant hgrant => hext.accepted (h grant (hgrants _ grant rfl hgrant))
  · trivial

/-- An effect that the state accounts for is permitted. -/
theorem Gateway.Filtered.permitted (hg : g.Filtered cfg) {e : Effect} (he : e.Due ok g) :
    e.Permitted g := by
  unfold Effect.Permitted
  split
  · exact he.accepted
  · obtain ⟨u, hfind, hawaits⟩ := he
    exact fun grant hgrant => hg.indexed u _ grant _ hawaits.indexed hgrant hfind
  · trivial

theorem Gateway.Filtered.log (hg : g.Filtered cfg) {effects : List Effect}
    (hdue : ∀ e ∈ effects, e.Due ok g) : (g.log effects).Filtered cfg where
  sent e he := by
    have hpermitted : e.Permitted g := (List.mem_append.1 he).elim (hg.sent e)
      fun he => hg.permitted (hdue e he)
    refine hpermitted.mono (Connections.Kept.refl _).shrinks.sessions fun _ _ _ h => ?_
    rwa [grants_log hdue] at h
  indexed u eventId grant r hidx hgrant hfind := by
    rw [grants_log hdue] at hgrant
    exact hg.indexed u eventId grant r hidx hgrant hfind
  issued e he eventId hid := by
    rcases List.mem_append.1 he with he | he
    · exact hg.issued e he eventId hid
    · -- a new frame of a stored event: the event is indexed for its recipient
      have hdue := hdue e he
      unfold Effect.eventId at hid
      split at hid
      · cases hid
        obtain ⟨u, -, hawaits⟩ := hdue
        exact hg.stored u eventId hawaits.indexed
      · exact hdue.elim
      · cases hid
  stored := hg.stored

theorem Gateway.Filtered.notices (hg : g.Filtered cfg) {notices : List Effect}
    (hnotices : ∀ e ∈ notices, e.IsNotice) : (g.log notices).Filtered cfg :=
  have hdue : ∀ e ∈ notices, e.Due .any g := fun e he => (hnotices e he).due
  hg.log hdue

theorem Gateway.Filtered.turn (hg : g.Filtered cfg) (hk : g.conn.Shrinks k) :
    Gateway.Filtered cfg { g with conn := k } where
  sent e he := (hg.sent e he).mono hk.sessions fun _ _ _ h => h
  indexed u eventId grant r hidx hgrant hfind :=
    hk.sessions.accepted (hg.indexed u eventId grant r hidx hgrant (hk.find u r hfind))
  issued := hg.issued
  stored := hg.stored

/-- The notices about expired events follow the operation. -/
theorem Gateway.Filtered.setStore (hg : g.Filtered cfg) {s : EventStore JsObj}
    (hs : EventStore.NoGrow g.store s) : (g.setStore s).Filtered cfg := by
  have hstore : Gateway.Filtered cfg { g with store := s } :=
    { sent := fun e he => (hg.sent e he).mono (Connections.Kept.refl _).shrinks.sessions
        fun _ _ _ h => h
      indexed := fun u eventId grant r hidx =>
        hg.indexed u eventId grant r (hs.index u eventId hidx)
      issued := hg.issued
      stored := fun u eventId hidx => hg.stored u eventId (hs.index u eventId hidx) }
  obtain ⟨notices, heq, hnotices⟩ := setStore_eq g s
  rw [heq]
  exact hstore.notices hnotices

/-- The id of a new event is new, so its grant is the only one. -/
theorem Gateway.Filtered.grants_withEvent (hg : g.Filtered cfg) {s : EventStore JsObj}
    {targetIds : List ℕ} {sender : SessionRef} {grant grant' : Option Grant} {eventId : String}
    (h : (eventId, grant') ∈ (g.withEvent cfg s targetIds sender grant).grants) :
    eventId ∈ g.issued cfg ∧ (eventId, grant') ∈ g.grants ∨
      eventId = cfg.randomUUID g.generated ∧ grant' = grant := by
  obtain ⟨targets, sender', hmem⟩ := mem_grants.1 h
  rcases List.mem_append.1 hmem with hmem | hmem
  · exact Or.inl ⟨hg.issued _ hmem _ rfl, mem_grants.2 ⟨targets, sender', hmem⟩⟩
  · cases List.mem_singleton.1 hmem
    exact Or.inr ⟨rfl, rfl⟩

/-- A new event is stored for users who may receive it. -/
theorem Gateway.Filtered.withEvent (hg : g.Filtered cfg) {s : EventStore JsObj}
    {targetIds : List ℕ} (sender : SessionRef) {grant : Option Grant}
    (hs : ∀ u eventId, EventStore.inIndex s.userEvents u eventId →
      EventStore.inIndex g.store.userEvents u eventId ∨
        eventId = cfg.randomUUID g.generated ∧ u ∈ targetIds)
    (hadmits : g.conn.Admits targetIds grant) :
    (g.withEvent cfg s targetIds sender grant).Filtered cfg := by
  have hnew := Gateway.randomUUID_not_mem_issued cfg g
  constructor
  · intro e he
    rcases List.mem_append.1 he with he | he
    · refine (hg.sent e he).mono (Connections.Kept.refl _).shrinks.sessions
        fun eventId grant' hid h => ?_
      rcases hg.grants_withEvent h with ⟨-, h⟩ | ⟨rfl, -⟩
      · exact h
      · exact absurd (hg.issued e he _ hid) hnew
    · cases List.mem_singleton.1 he
      trivial
  · intro u eventId grant' r hidx hgrant hfind
    rcases hg.grants_withEvent hgrant with ⟨hissued, hold⟩ | ⟨rfl, rfl⟩
    · rcases hs u eventId hidx with hidx | ⟨rfl, -⟩
      · exact hg.indexed u eventId grant' r hidx hold hfind
      · exact absurd hissued hnew
    · rcases hs u _ hidx with hidx | ⟨-, hu⟩
      · exact absurd (hg.stored u _ hidx) hnew
      · exact hadmits u hu r hfind
  · intro e he eventId hid
    rw [issued_withEvent cfg g]
    rcases List.mem_append.1 he with he | he
    · exact List.mem_cons_of_mem _ (hg.issued e he eventId hid)
    · cases List.mem_singleton.1 he
      cases hid
      exact List.mem_cons_self
  · intro u eventId hidx
    rw [issued_withEvent cfg g]
    rcases hs u eventId hidx with hidx | ⟨rfl, -⟩
    · exact List.mem_cons_of_mem _ (hg.stored u eventId hidx)
    · exact List.mem_cons_self

theorem Gateway.Filtered.createEvent (hg : g.Filtered cfg) {targetIds : List ℕ}
    (eventName : String) (payload : JsObj) (qos : QoS) (options : CreateOptions)
    (sender : SessionRef) {grant : Option Grant} (hadmits : g.conn.Admits targetIds grant) :
    (g.createEvent cfg targetIds eventName payload qos options sender grant).Filtered cfg := by
  have hgrows := EventStore.create_growsBy cfg.store g.store (cfg.randomUUID g.generated)
    targetIds eventName payload qos options g.clock
  obtain ⟨notices, heq, hnotices⟩ := createEvent_eq cfg g targetIds eventName payload qos options
    sender grant
  rw [heq]
  exact (hg.withEvent sender hgrows.index hadmits).notices hnotices

/-- Every change keeps the filter, if new events are created for users whom it lets through. -/
theorem Gateway.Filtered.change (hg : g.Filtered cfg) (h : Change cfg .admitting g g') :
    g'.Filtered cfg :=
  h.inv hg (fun _ _ hg he => hg.log he) (fun _ _ hg hs => hg.setStore hs.noGrow)
    (fun _ _ eventName payload qos options sender _ hg hok =>
      hg.createEvent eventName payload qos options sender hok)
    (fun _ _ hg hk => hg.turn hk)
    (fun _ _ _ _ hg => ⟨hg.sent, hg.indexed, hg.issued, hg.stored⟩)
    fun _ _ hg _ => ⟨hg.sent, hg.indexed, hg.issued, hg.stored⟩

/-! ## Steps -/

/-- Without a grant, everyone is admitted. -/
theorem admits_none (k : Connections) (ids : List ℕ) : k.Admits ids none :=
  fun _ _ _ _ => k.accepted_none _

/-- Who enters may receive what is stored for its user: a session that was there keeps its
    principal, and a new one passes the filters. -/
theorem Gateway.Filtered.entered (hg : g.Filtered cfg) {a : Authenticated} {client : ClientRef}
    {r : SessionRef} (h : g.conn.Entered k a client r)
    (haccepts : g.conn.find a.id_enduser = none → ∀ e ∈ g.grants,
      e.1 ∈ g.store.indexed a.id_enduser → e.2.all (·.accepts a.auth) = true) :
    Gateway.Filtered cfg { g with conn := k } where
  sent e he := (hg.sent e he).mono h.extends fun _ _ _ h => h
  indexed u eventId grant r' hidx hgrant hfind := by
    rw [h.find] at hfind
    split_ifs at hfind with hu
    · cases hfind
      subst hu
      rcases h.heap with ⟨hnone, rfl, hheap⟩ | ⟨hsome, -⟩
      · have hall := haccepts hnone _ hgrant ((EventStore.mem_indexed _ _ _).2 hidx)
        rintro G rfl r' hr'
        rw [List.mem_singleton] at hr'
        rw [hr', Connections.principal, hheap, List.getElem?_concat_length]
        exact hall
      · exact h.extends.accepted (hg.indexed _ eventId grant r hidx hgrant hsome)
    · exact h.extends.accepted (hg.indexed u eventId grant r' hidx hgrant hfind)
  issued := hg.issued
  stored := hg.stored

/-- A receiver that is active is the session that is registered for its user. -/
theorem Connections.OnlineAs.find (hk : k.Inv) {u : ℕ} {r : SessionRef} (h : k.OnlineAs u r) :
    k.find u = some r := by
  obtain ⟨hactive, hid⟩ := h
  obtain ⟨c, hc, -⟩ := (Connections.isActive_iff _).1 hactive
  obtain ⟨s, hs, rfl⟩ := Option.map_eq_some_iff.1 hid
  have hsocket : s.socket = some c := by simpa [Connections.socket, hs] using hc
  exact hk.live r s hs ((hk.standing r s hs).state_ne (by simp [hsocket])).2.2

/-- The receivers that are online were filtered. -/
theorem admits_onlineIds (hk : k.Inv) {q : Qossing} (h : k.Accepted q.grant q.receivers) :
    k.Admits (Gateway.onlineIds k q) q.grant := by
  intro u hu r hr
  obtain ⟨r', hr', honline⟩ := mem_onlineIds.1 hu
  obtain rfl : r' = r := Option.some.inj ((honline.find hk).symm.trans hr)
  exact h.mono (by simpa using hr')

/-- A step keeps the filter, if its answer respects it. -/
theorem Gateway.Filtered.step {p p' : Pool Gateway Task} {act : Act GatewayEvent GatewayAnswer}
    (hp : Consistent cfg t₀ p) (hg : p.shared.Filtered cfg) (hok : Respects p act)
    (hst : (gatewayProgram cfg).step p act = some p') : p'.shared.Filtered cfg := by
  obtain ⟨event, r, payload, rfl, hack, heq⟩ | ⟨-, hchange | ⟨i, k₁, a, c, r, rfl, hentered, -,
      hchange⟩⟩ := hp.step_promise .admitting hst (fun _ _ _ _ _ _ _ _ _ _ => trivial)
    fun i q ids hact ht hq => by
      subst hact
      have honline := admits_onlineIds hp.1.conn hq.routed.accepted
      have hoffline : p.shared.conn.Admits (Gateway.offlineIds p.shared.conn q ids) q.grant :=
        fun u hu => hok q (by simp [ht, Task.dispatching]) u (List.mem_filter.1 hu).1
      refine ⟨fun _ => hoffline, fun _ u hu => ?_⟩
      rcases List.mem_append.1 hu with hu | hu
      · exact honline u hu
      · exact hoffline u hu
  · have hh : Handling cfg .admitting p.shared (p.shared.acknowledge cfg r payload) :=
      acknowledge_handling (fun k _ => admits_none k _) (fun _ _ _ _ => trivial) payload
    rw [heq]
    exact hg.change hh.change
  · exact hg.change hchange
  · exact (hg.entered hentered hok).change hchange

theorem filtered_start (cfg : GatewayConfig) (t₀ : ℤ) :
    (Gateway.start t₀).shared.Filtered cfg where
  sent := List.forall_mem_nil _
  indexed _ _ _ _ _ hgrant := by cases hgrant
  issued := List.forall_mem_nil _
  stored u eventId hidx := by
    obtain ⟨set, hset, -⟩ := hidx
    cases hset

/-- **Only permitted recipients.**  In every run in which the targets with a session pass the
    filter when they are known, and a new session those of the events that wait for it, each
    frame of a dispatch and each frame of a stored event goes to a session that the grant of the
    event accepts: directly, on a later connect and on a retry. -/
theorem only_permitted_recipients {acts : List (Act GatewayEvent GatewayAnswer)}
    {p : Pool Gateway Task}
    (h : Run (gatewayProgram cfg).step Respects (Gateway.start t₀) acts p) :
    p.shared.OnlyPermitted := by
  have hinv : Consistent cfg t₀ p ∧ p.shared.Filtered cfg :=
    h.inv (I := fun p => Consistent cfg t₀ p ∧ p.shared.Filtered cfg)
      ⟨consistent_start cfg t₀, filtered_start cfg t₀⟩
      fun _ _ _ hp hok hst => ⟨hp.1.step hst, hp.2.step hp.1 hok hst⟩
  exact hinv.2.sent

end

/-! ## Scans that a third browser misses -/

instance (k : Connections) (grant : Option Grant) (receivers : List SessionRef) :
    Decidable (k.Accepted grant receivers) :=
  match grant with
  | none => isTrue (k.accepted_none receivers)
  | some G => decidable_of_iff (∀ r ∈ receivers, (k.principal r).any G.accepts = true)
      ⟨fun h _ hG => Option.some.inj hG ▸ h, fun h => h G rfl⟩

instance (k : Connections) (ids : List ℕ) (grant : Option Grant) :
    Decidable (k.Admits ids grant) :=
  inferInstanceAs (Decidable (∀ id ∈ ids, ∀ r ∈ k.find id, k.Accepted grant [r]))

instance (p : Pool Gateway Task) (act : Act GatewayEvent GatewayAnswer) :
    Decidable (Respects p act) :=
  match act with
  | .event _ => isTrue trivial
  | .resume i (.targets (.ok ids)) => inferInstanceAs (Decidable
      (∀ q ∈ (p.threads[i]?).bind Task.dispatching, p.shared.conn.Admits ids q.grant))
  | .resume _ (.authenticated (.ok a)) => inferInstanceAs (Decidable
      (p.shared.conn.find a.id_enduser = none → ∀ e ∈ p.shared.grants,
        e.1 ∈ p.shared.store.indexed a.id_enduser → e.2.all (·.accepts a.auth) = true))
  | .resume _ (.rateLimit _) => isTrue trivial
  | .resume _ (.authenticated (.error _)) => isTrue trivial
  | .resume _ (.devices _) => isTrue trivial
  | .resume _ (.api _) => isTrue trivial
  | .resume _ (.events _) => isTrue trivial
  | .resume _ (.targets (.error _)) => isTrue trivial

/-- A third browser, which may receive the scan, connects after it. -/
def scanAndJoin : List (Act GatewayEvent GatewayAnswer) :=
  scan (watcher 11 [10]) (watcher 12 [10]) ++ [.resume 4 (.targets (.ok [11, 12, 13]))] ++
    enters 5 (watcher 13 [10])

theorem only_permitted_recipients_scanAndJoin :
    ∃ p, exec (guarded (gatewayProgram .defaults).step Respects) (Gateway.start 0) scanAndJoin =
        some p ∧ p.shared.OnlyPermitted := by
  obtain ⟨p, hp⟩ : ∃ p, exec (guarded (gatewayProgram .defaults).step Respects)
      (Gateway.start 0) scanAndJoin = some p := ⟨_, rfl⟩
  have hrun : Run (gatewayProgram .defaults).step Respects (Gateway.start 0) scanAndJoin p :=
    run_of_exec_guarded hp
  exact ⟨p, hp, only_permitted_recipients hrun⟩

/-- The second browser may receive no event, and is connected all the time. -/
def scanAndRetry : List (Act GatewayEvent GatewayAnswer) :=
  scan (watcher 11 [10]) (watcher 12 []) ++
    [.resume 4 (.targets (.ok [11, 12])), .event (.retry fun _ _ => 0)]

/-- The scan is stored for it as if it were offline, and the retry sends it there. -/
theorem scanAndRetry_leaks : ∃ p,
    Run (gatewayProgram .defaults).step anyStep (Gateway.start 0) scanAndRetry p ∧
      ¬ p.shared.OnlyPermitted := by
  refine ⟨reach scanAndRetry, run_of_exec rfl, fun hall => ?_⟩
  have hgrant : (tally 0, some ⟨.browser, [⟨10, "login", 3⟩]⟩) ∈
      (reach scanAndRetry).shared.grants := by decide
  obtain ⟨frame, hsent⟩ : ∃ frame, Effect.send 2 2 frame (.stored (tally 0)) ∈
      (reach scanAndRetry).shared.trace := ⟨_, List.mem_of_getElem? (i := 6) rfl⟩
  have haccepted : (reach scanAndRetry).shared.conn.Accepted
      (some ⟨.browser, [⟨10, "login", 3⟩]⟩) [2] := hall _ hsent _ hgrant
  exact absurd haccepted (by decide)

end GatewayRealtime
