/-
  What the handling of a message can do to the gateway.

  * `Connections.Kept`: the sockets may start to close, and nothing else changes.
  * `Connections.Routed`: receivers of the tenant of the sender that its grant accepts.
  * `Promise`: what is known of the events that a handler creates and of the notices it sends.
  * `Handling`: the closure of the elementary changes: effects that are due, operations of the
    store, new events, loaded caches, and sockets that start to close.
  * `Handled`: a stretch is such a handling, and the computations that it leaves are those of a
    message, with receivers to whom it is routed.
  * `Gateway.acking`: the acknowledgement that an event carries; `acknowledge_handling`.
  * `onMessage_cases`, `onBinary_handled`, `afterApi_handled`, `afterEvents_handled`,
    `afterBinaryEvents_handled`, `finishQossing_handling`: every other stretch of a message is a
    handling that promises nothing.

  Every invariant of the gateway is then an invariant of the elementary changes.
-/
import GatewayRealtime.RecordStep
import GatewayRealtime.Tenants

namespace GatewayRealtime

/-! ## Elementary changes -/

/-- What a socket is bound to, and whether its close has been delivered. -/
def WsClient.binding (c : WsClient) : Option SessionRef × Bool :=
  (c.session, c.readyState = .CLOSED)

/-- Sessions, registry and timers are the same, and so are the bindings of the sockets. -/
structure Connections.Kept (k k' : Connections) : Prop where
  heap : k'.heap = k.heap
  registry : k'.registry = k.registry
  timers : k'.timers = k.timers
  nextTimer : k'.nextTimer = k.nextTimer
  bindings : k'.clients.map WsClient.binding = k.clients.map WsClient.binding

/-- Everyone in the list is accepted by the grant, if there is one. -/
def Connections.Accepted (k : Connections) (grant : Option Grant) (receivers : List SessionRef) :
    Prop :=
  ∀ G, grant = some G → ∀ r ∈ receivers, (k.principal r).any G.accepts = true

/-- The receivers are of the tenant of the sender, and accepted by the grant. -/
structure Connections.Routed (k : Connections) (sender : SessionRef) (grant : Option Grant)
    (receivers : List SessionRef) : Prop where
  exists_sender : ∃ s : WsSession, k.heap[sender]? = some s
  accepted : k.Accepted grant receivers
  tenant : ∀ r ∈ receivers, k.SameTenant sender r

/-- `event` of a frame. -/
def Frame.event : Frame → Option JsVal
  | .json fields => OMap.find "event" fields
  | .binary _ => none

/-- What is known of the events that a handler creates (their targets, names, senders and
    grants) and of the notices that it sends, those about expired events apart. -/
structure Promise where
  create : Connections → List ℕ → String → SessionRef → Option Grant → Prop
  notice : Connections → SessionRef → Frame → Prop

/-- Nothing is known of them. -/
def Promise.any : Promise := ⟨fun _ _ _ _ _ => True, fun _ _ _ => True⟩

/-- The state accounts for an effect: a frame of a dispatch goes to a session that it is routed
    to, a stored event to the session of a user who awaits it, and the presence of a device to
    its tenant.  The entries about stored events are made by `createEvent` alone. -/
def Effect.Due (ok : Promise) (g : Gateway) : Effect → Prop
  | .send _ r _ (.dispatch sender grant) => g.conn.Routed sender grant [r]
  | .send _ r _ (.stored eventId) => ∃ u, g.conn.find u = some r ∧ g.store.Awaits u eventId g.clock
  | .send _ r _ (.presence device) => g.conn.SameTenant device r
  | .send _ r frame .notice =>
    frame.event = some (.str "event_expired") ∨ ok.notice g.conn r frame
  | .store .. => False
  | _ => True

/-- The changes that a handler makes without a turn in a connection. -/
inductive Handling (cfg : GatewayConfig) (ok : Promise) (g : Gateway) : Gateway → Prop
  | refl : Handling cfg ok g g
  | log {g' effects} : Handling cfg ok g g' → (∀ e ∈ effects, e.Due ok g') →
      Handling cfg ok g (g'.log effects)
  | store {g' s} : Handling cfg ok g g' → EventStore.Operated cfg.store g'.clock g'.store s →
      Handling cfg ok g (g'.setStore s)
  | create {g' targetIds eventName payload qos options sender grant} : Handling cfg ok g g' →
      ok.create g'.conn targetIds eventName sender grant →
      Handling cfg ok g (g'.createEvent cfg targetIds eventName payload qos options sender grant)
  | sockets {g' k} : Handling cfg ok g g' → g'.conn.Kept k → Handling cfg ok g { g' with conn := k }
  | load {g' label events lastUpdate} : Handling cfg ok g g' →
      Handling cfg ok g (g'.loadEvents label events lastUpdate)

/-- The socket of a computation of `handleConnection` that has not established a session. -/
def Task.waiting : Task → Option ClientRef
  | .rateLimit client => some client
  | .authenticate client => some client
  | _ => none

/-- The socket of a computation of `handleConnection`. -/
def Task.connection : Task → Option ClientRef
  | .snapshot client _ => some client
  | t => t.waiting

/-- The handler of a message is one of the list, but not that of the acknowledgements. -/
structure Message.Ordinary (m : Message) : Prop where
  listed : m.handler ∈ WS_EVENT_JSON_CLASSES
  silent : m.handler.sideEffectEvent ≠ .acknowledge

/-- A call of `qossing` of a handler of the list, to receivers that it is routed to. -/
structure Qossing.Sound (k : Connections) (q : Qossing) : Prop where
  listed : q.handler ∈ WS_EVENT_JSON_CLASSES
  routed : k.Routed q.sender q.grant q.receivers

/-- What a suspended computation can rely on. -/
def Task.Sound (k : Connections) : Task → Prop
  | .api m _ => m.Ordinary
  | .events m .. => m.Ordinary
  | .targets q => q.Sound k
  | _ => True

/-- A computation that is not one of `handleConnection`. -/
def Task.OfMessage (k : Connections) (t : Task) : Prop := t.connection = none ∧ t.Sound k

/-- A stretch of a message. -/
structure Handled (cfg : GatewayConfig) (ok : Promise) (g : Gateway) (s : Stretch) : Prop where
  run : Handling cfg ok g s.1
  task : s.2.1.OfMessage g.conn
  tasks : ∀ t ∈ s.2.2, t.OfMessage g.conn

section
variable {cfg : GatewayConfig} {ok : Promise} {g g' : Gateway} {k k' k'' : Connections}
  {m : Message} {s : Stretch} {sender : SessionRef} {grant : Option Grant}
  {receivers : List SessionRef}

theorem Connections.Kept.refl (k : Connections) : k.Kept k := ⟨rfl, rfl, rfl, rfl, rfl⟩

theorem Connections.Kept.symm (h : k.Kept k') : k'.Kept k :=
  ⟨h.heap.symm, h.registry.symm, h.timers.symm, h.nextTimer.symm, h.bindings.symm⟩

theorem Connections.Kept.trans (h : k.Kept k') (h' : k'.Kept k'') : k.Kept k'' :=
  ⟨h'.heap.trans h.heap, h'.registry.trans h.registry, h'.timers.trans h.timers,
    h'.nextTimer.trans h.nextTimer, h'.bindings.trans h.bindings⟩

theorem map_modify_eq {α β : Type} {b : α → β} {f : α → α} {l : List α} {i : ℕ}
    (hf : ∀ a, l[i]? = some a → b (f a) = b a) : (l.modify i f).map b = l.map b := by
  refine List.ext_getElem? fun j => ?_
  rw [List.getElem?_map, List.getElem?_modify, List.getElem?_map]
  cases hj : l[j]? with
  | none => rfl
  | some a =>
    by_cases h : i = j
    · subst h
      simp [hf a hj]
    · simp [h]

/-- Assignments to a socket that leave its binding alone. -/
theorem Connections.Kept.updateClient {c : ClientRef} {f : WsClient → WsClient}
    (hf : ∀ client, k.clients[c]? = some client → (f client).binding = client.binding) :
    k.Kept (k.updateClient c f) :=
  ⟨rfl, rfl, rfl, rfl, map_modify_eq hf⟩

theorem Connections.Kept.closeSocket (k : Connections) (c : ClientRef) : k.Kept (k.closeSocket c) :=
  .updateClient fun client _ => by
    by_cases h : client.readyState = .OPEN
    · simp [WsClient.binding, h]
    · simp [WsClient.binding, h]

theorem Connections.Kept.principal (h : k.Kept k') (r : SessionRef) :
    k'.principal r = k.principal r := by rw [Connections.principal, h.heap]; rfl

theorem Connections.Kept.accepted (h : k.Kept k') (grant : Option Grant) (rs : List SessionRef) :
    k'.Accepted grant rs ↔ k.Accepted grant rs := by
  simp only [Connections.Accepted, h.principal]

theorem Connections.Kept.find (h : k.Kept k') (id : ℕ) : k'.find id = k.find id := by
  rw [Connections.find, h.registry]; rfl

theorem Connections.Kept.routed (h : k.Kept k') (hr : k.Routed sender grant receivers) :
    k'.Routed sender grant receivers where
  exists_sender := by
    rw [h.heap]
    exact hr.exists_sender
  accepted := (h.accepted _ _).2 hr.accepted
  tenant r hmem := by
    rw [Connections.SameTenant, h.heap]
    exact hr.tenant r hmem

theorem Connections.Indexed.kept (h : k.Indexed) (hk : k.Kept k') : k'.Indexed :=
  h.of_eq hk.heap hk.registry

/-- A computation of a message waits for no session. -/
theorem Task.OfMessage.waiting {t : Task} (ht : t.OfMessage k) : t.waiting = none := by
  cases t with
  | snapshot c r => rfl
  | _ => exact ht.1

theorem Task.OfMessage.kept {t : Task} (ht : t.OfMessage k) (h : k.Kept k') :
    t.OfMessage k' := by
  cases t with
  | targets q => exact ⟨rfl, ht.2.listed, h.routed ht.2.routed⟩
  | _ => exact ht

/-- The handling of a message keeps the connections, up to sockets that start to close. -/
theorem Handling.kept (h : Handling cfg ok g g') : g.conn.Kept g'.conn := by
  induction h with
  | refl => exact .refl _
  | log _ _ ih => exact ih
  | store _ _ ih => exact ih
  | create _ _ ih => exact ih
  | sockets _ hk ih => exact ih.trans hk
  | load _ ih => exact ih

theorem Handling.trans {g'' : Gateway} (h : Handling cfg ok g g') (h' : Handling cfg ok g' g'') :
    Handling cfg ok g g'' := by
  induction h' with
  | refl => exact h
  | log _ he ih => exact ih.log he
  | store _ hs ih => exact ih.store hs
  | create _ hok ih => exact ih.create hok
  | sockets _ hk ih => exact ih.sockets hk
  | load _ ih => exact ih.load

/-- A stretch may begin with a handling. -/
theorem Handled.after (h : Handling cfg ok g g') (hs : Handled cfg ok g' s) :
    Handled cfg ok g s where
  run := h.trans hs.run
  task := hs.task.kept h.kept.symm
  tasks t ht := (hs.tasks t ht).kept h.kept.symm

/-! ## Frames -/

theorem Connections.accepted_none (k : Connections) (receivers : List SessionRef) :
    k.Accepted none receivers := nofun

theorem Connections.Accepted.mono {grant : Option Grant} {receivers receivers' : List SessionRef}
    (h : k.Accepted grant receivers) (hsub : receivers' ⊆ receivers) :
    k.Accepted grant receivers' := fun G hG r hr => h G hG r (hsub hr)

/-- The receivers that pass the filter are accepted. -/
theorem filterReceivers_accepted (k : Connections) (grant : Grant) (receivers : List SessionRef) :
    k.Accepted (some grant) (k.filterReceivers grant receivers) := by
  rintro G ⟨⟩ r hr
  exact (List.mem_filter.1 hr).2

theorem mem_send_iff {r : SessionRef} {frame : Frame} {origin : Origin} {e : Effect} :
    e ∈ k.send r frame origin ↔
      ∃ c, k.socket r = some c ∧ k.isOpen c = true ∧ e = .send c r frame origin := by
  unfold Connections.send
  split
  · rename_i c hc
    split_ifs with ho
    · simp [hc, ho]
    · simp [hc, ho]
  · rename_i hc
    simp [hc]

theorem Connections.Routed.mono {receivers' : List SessionRef}
    (h : k.Routed sender grant receivers) (hsub : receivers' ⊆ receivers) :
    k.Routed sender grant receivers' :=
  ⟨h.exists_sender, h.accepted.mono hsub, fun r hr => h.tenant r (hsub hr)⟩

theorem send_due (g : Gateway) (r : SessionRef) (frame : Frame) (origin : Origin)
    (h : ∀ c, (Effect.send c r frame origin).Due ok g) :
    ∀ e ∈ g.conn.send r frame origin, e.Due ok g := by
  intro e he
  obtain ⟨c, -, -, rfl⟩ := mem_send_iff.1 he
  exact h c

theorem sendAll_due {frame : Frame} :
    ∀ {receivers : List SessionRef}, g.conn.Routed sender grant receivers →
      ∀ e ∈ (g.conn.sendAll frame (.dispatch sender grant) receivers).1, e.Due ok g
  | [], _, e, he => by cases he
  | r :: rest, h, e, he => by
    unfold Connections.sendAll at he
    split at he
    · cases he
    · rcases List.mem_append.1 he with he | he
      · have hr : g.conn.Routed sender grant [r] := h.mono (by simp)
        exact send_due g r frame (.dispatch sender grant) (fun _ => hr) e he
      · exact sendAll_due (h.mono (List.subset_cons_self r rest)) e he

theorem Handling.sendAll (h : Handling cfg ok g g') (frame : Frame)
    (hrouted : g'.conn.Routed sender grant receivers) :
    Handling cfg ok g (g'.log (g'.conn.sendAll frame (.dispatch sender grant) receivers).1) :=
  h.log (sendAll_due hrouted)

/-! ## Notices -/

/-- A notice to a session about an event of its own that has expired. -/
def Effect.IsNotice : Effect → Prop
  | .send _ _ frame .notice => frame.event = some (.str "event_expired")
  | _ => False

theorem Effect.IsNotice.due {e : Effect} (h : e.IsNotice) : e.Due ok g := by
  cases e with
  | send _ _ _ origin =>
    cases origin with
    | notice => exact Or.inl h
    | _ => cases h
  | _ => cases h

theorem handleEventExpired_notice (payload : EventExpired) :
    ∀ e ∈ k.handleEventExpired payload, e.IsNotice := by
  intro e he
  unfold Connections.handleEventExpired at he
  split_ifs at he
  · cases he
  · split at he
    · cases he
    · obtain ⟨c, -, -, rfl⟩ := mem_send_iff.1 he
      rfl

theorem log_nil (g : Gateway) : g.log [] = g := by simp [Gateway.log]

theorem setStore_self (g : Gateway) : g.setStore g.store = g := by simp [Gateway.setStore]

/-- An operation of the store is followed by notices about the events that expired. -/
theorem setStore_eq (g : Gateway) (s : EventStore JsObj) : ∃ notices,
    g.setStore s = ({ g with store := s } : Gateway).log notices ∧
      ∀ e ∈ notices, e.IsNotice := by
  refine ⟨_, rfl, fun e he => ?_⟩
  obtain ⟨payload, -, he⟩ := List.mem_flatMap.1 he
  exact handleEventExpired_notice payload e he

/-- The gateway with a new event, before the notices about those that had to go. -/
def Gateway.withEvent (g : Gateway) (cfg : GatewayConfig) (s : EventStore JsObj)
    (targetIds : List ℕ) (sender : SessionRef) (grant : Option Grant) : Gateway :=
  { g with
    store := s
    trace := g.trace ++ [.store (cfg.randomUUID g.generated) targetIds sender grant]
    generated := g.generated + 1 }

theorem createEvent_eq (cfg : GatewayConfig) (g : Gateway) (targetIds : List ℕ)
    (eventName : String) (payload : JsObj) (qos : QoS) (options : CreateOptions)
    (sender : SessionRef) (grant : Option Grant) : ∃ notices,
    g.createEvent cfg targetIds eventName payload qos options sender grant =
      (g.withEvent cfg (g.store.create cfg.store (cfg.randomUUID g.generated) targetIds eventName
        payload qos options g.clock) targetIds sender grant).log notices ∧
      ∀ e ∈ notices, e.IsNotice := by
  refine ⟨_, rfl, fun e he => ?_⟩
  obtain ⟨expired, -, he⟩ := List.mem_flatMap.1 he
  exact handleEventExpired_notice expired e he

/-- Creating an event logs it, and notices. -/
theorem createEvent_logged (cfg : GatewayConfig) (g : Gateway) (targetIds : List ℕ)
    (eventName : String) (payload : JsObj) (qos : QoS) (options : CreateOptions)
    (sender : SessionRef) (grant : Option Grant) : ∃ notices,
    (g.createEvent cfg targetIds eventName payload qos options sender grant).trace =
      g.trace ++ .store (cfg.randomUUID g.generated) targetIds sender grant :: notices ∧
      ∀ e ∈ notices, e.IsNotice := by
  obtain ⟨notices, heq, hnotices⟩ := createEvent_eq cfg g targetIds eventName payload qos options
    sender grant
  refine ⟨notices, ?_, hnotices⟩
  rw [heq]
  simp [Gateway.log, Gateway.withEvent]

/-! ## The stretches of a message -/

theorem handleError_handling (g : Gateway) (c : ClientRef) (f : Failure) :
    Handling cfg ok g (g.handleError c f) := by
  unfold Gateway.handleError
  split_ifs
  · refine Handling.refl.log fun e he => ?_
    rw [List.mem_singleton] at he
    exact he ▸ trivial
  · exact .refl

theorem failMessage_handling (g : Gateway) (c : ClientRef) (f : Failure) :
    Handling cfg ok g (g.failMessage c f) := by
  unfold Gateway.failMessage
  dsimp only
  split_ifs
  · exact (handleError_handling g c f).sockets (.closeSocket _ c)
  · exact handleError_handling g c f

theorem failConnection_handling (g : Gateway) (c : ClientRef) (f : Failure) :
    Handling cfg ok g (g.failConnection c f) :=
  (handleError_handling g c f).sockets (.closeSocket _ c)

theorem finish_handled {c : ClientRef} {tasks : List Task}
    (htasks : ∀ t ∈ tasks, t.OfMessage g.conn) (result : Except Failure Unit) :
    Handled cfg ok g (g.finish c tasks result) := by
  cases result with
  | ok => exact ⟨.refl, ⟨rfl, trivial⟩, htasks⟩
  | error f => exact ⟨failMessage_handling g c f, ⟨rfl, trivial⟩, htasks⟩

/-- A failure before anything has been started. -/
theorem finish_handled_nil (c : ClientRef) (result : Except Failure Unit) :
    Handled cfg ok g (g.finish c [] result) := finish_handled (List.forall_mem_nil _) result

theorem startQossing_handled {q : Qossing} (hq : q.Sound g.conn) (type : TypeEnduser) :
    Handling cfg ok g (g.startQossing q type).1 ∧
      ∀ t ∈ [(g.startQossing q type).2], t.OfMessage g.conn := by
  simp only [List.forall_mem_singleton]
  unfold Gateway.startQossing
  split
  · exact ⟨Handling.refl.sendAll _ hq.routed, rfl, trivial⟩
  all_goals
    split
    · exact ⟨.refl, rfl, hq⟩
    · exact ⟨.refl, rfl, hq⟩
    · exact ⟨.refl, rfl, trivial⟩

/-- Once an acknowledgement is recorded, the sender of the event is told, at once or by a new
    event. -/
theorem acknowledge_after {session : WsSession} {r : SessionRef}
    (hs : g.conn.heap[r]? = some session)
    (hcreate : ∀ k target, ok.create k [target] "event:delivered" r none)
    (hnotice : ∀ k r frame, frame.event = some (.str "event:delivered") → ok.notice k r frame)
    (payload : Option JsVal) :
    Handling cfg ok (g.setStore (g.store.markApplied session.sessionId
      (payloadText payload "eventId"))) (g.acknowledge cfg r payload) := by
  unfold Gateway.acknowledge
  rw [hs]
  dsimp only
  split
  · exact .refl
  · split
    · exact .refl
    · split_ifs
      · split
        · exact Handling.refl.log (send_due _ _ _ .notice fun _ => Or.inr (hnotice _ _ _ rfl))
        · exact Handling.refl.create (hcreate _ _)
      · exact .refl

theorem acknowledge_handling {r : SessionRef}
    (hcreate : ∀ k target, ok.create k [target] "event:delivered" r none)
    (hnotice : ∀ k r frame, frame.event = some (.str "event:delivered") → ok.notice k r frame)
    (payload : Option JsVal) : Handling cfg ok g (g.acknowledge cfg r payload) := by
  cases hs : g.conn.heap[r]? with
  | none =>
    unfold Gateway.acknowledge
    rw [hs]
    exact .refl
  | some session =>
    have hmark : Handling cfg ok g (g.setStore
        (g.store.markApplied session.sessionId (payloadText payload "eventId"))) :=
      Handling.refl.store (EventStore.operated_markApplied _ _)
    exact hmark.trans (acknowledge_after hs hcreate hnotice payload)

theorem sideEffect_handled (hidx : g.conn.Indexed) (hm : m.Ordinary) (modified : JsObj)
    (label : String) :
    Handling cfg ok g (g.sideEffect cfg m modified label).1 ∧
      ∀ t ∈ (g.sideEffect cfg m modified label).2, t.OfMessage g.conn := by
  unfold Gateway.sideEffect
  split
  · exact ⟨.refl, List.forall_mem_nil _⟩
  · -- the sender itself is told, if it has a socket
    refine ⟨Handling.refl.log fun e he => ?_, List.forall_mem_nil _⟩
    obtain ⟨c, hc, -, rfl⟩ := mem_send_iff.1 he
    obtain ⟨session, hsession, -⟩ := Option.bind_eq_some_iff.1 hc
    refine ⟨⟨session, hsession⟩, g.conn.accepted_none _, fun r hr => ?_⟩
    rw [List.mem_singleton.1 hr]
    exact .refl hsession
  · split
    · exact ⟨.refl, List.forall_mem_nil _⟩
    · rename_i principal hprincipal
      obtain ⟨session, hsession, rfl⟩ := Option.map_eq_some_iff.1 hprincipal
      refine startQossing_handled ⟨hm.listed, ⟨session, hsession⟩, g.conn.accepted_none _,
        fun r hr => ?_⟩ .browser
      exact ((mem_getBrowsersByTenant hidx).1 hr).1.sameTenant hsession
  · rename_i hack
    exact absurd hack hm.silent

theorem dispatch_handled (hm : m.Ordinary) (modified : JsObj)
    (hrouted : g.conn.Routed m.session grant receivers) :
    Handling cfg ok g (g.dispatch m modified grant receivers).1 ∧
      ∀ t ∈ (g.dispatch m modified grant receivers).2.2, t.OfMessage g.conn := by
  unfold Gateway.dispatch
  split
  · exact ⟨Handling.refl.sendAll _ hrouted, List.forall_mem_nil _⟩
  · exact ⟨Handling.refl.sendAll _ hrouted, List.forall_mem_nil _⟩
  · exact startQossing_handled ⟨hm.listed, hrouted⟩ m.handler.receiverType

theorem afterReceivers_handled (hidx : g.conn.Indexed) (hm : m.Ordinary) (modified : JsObj)
    (hrouted : g.conn.Routed m.session grant receivers) :
    Handled cfg ok g (g.afterReceivers cfg m modified grant receivers) := by
  obtain ⟨hrun, htasks⟩ : Handling cfg ok g (g.dispatch m modified grant receivers).1 ∧ _ :=
    dispatch_handled hm modified hrouted
  have htasks' : ∀ t ∈ (g.dispatch m modified grant receivers).2.2,
      t.OfMessage (g.dispatch m modified grant receivers).1.conn :=
    fun t ht => (htasks t ht).kept hrun.kept
  unfold Gateway.afterReceivers
  dsimp only
  split
  · exact (finish_handled htasks' _).after hrun
  · obtain ⟨hside, hnew⟩ : Handling cfg ok (g.dispatch m modified grant receivers).1
        ((g.dispatch m modified grant receivers).1.sideEffect cfg m modified
          (m.handler.getEventMessage m.payload)).1 ∧ _ :=
      sideEffect_handled (hidx.kept hrun.kept) hm modified (m.handler.getEventMessage m.payload)
    refine ((finish_handled (fun t ht => ?_) (.ok ())).after hside).after hrun
    rcases List.mem_append.1 ht with ht | ht
    · exact (htasks' t ht).kept hside.kept
    · exact (hnew t ht).kept hside.kept

/-- The sessions of a type that pass the filter of a grant. -/
theorem filterReceivers_routed {session : WsSession} (hidx : g.conn.Indexed)
    (hs : g.conn.heap[sender]? = some session) (grant : Grant) (type : TypeEnduser) :
    g.conn.Routed sender (some grant) (g.conn.filterReceivers grant
      (g.conn.getActiveScoketsByType sender session.principal type)) :=
  ⟨⟨session, hs⟩, filterReceivers_accepted _ _ _, fun _ hr =>
    sameTenant_of_byType hidx hs (List.mem_of_mem_filter hr)⟩

theorem afterEvents_handled (hidx : g.conn.Indexed) (hm : m.Ordinary) (modified : JsObj)
    (events : List Events) : Handled cfg ok g (g.afterEvents cfg m modified events) := by
  unfold Gateway.afterEvents
  split
  · exact finish_handled_nil _ _
  · rename_i session hs
    dsimp only
    split
    · exact finish_handled_nil _ _
    · exact finish_handled_nil _ _
    · exact afterReceivers_handled hidx hm modified (filterReceivers_routed hidx hs _ _)

/-- Only the acknowledgements are for nobody. -/
theorem acknowledge_of_empty : ∀ h ∈ WS_EVENT_JSON_CLASSES,
    h.getReceivers = .empty → h.sideEffectEvent = .acknowledge := by
  decide

theorem Message.Ordinary.getReceivers_ne (hm : m.Ordinary) : m.handler.getReceivers ≠ .empty :=
  fun h => hm.silent (acknowledge_of_empty m.handler hm.listed h)

theorem getReceivers_handled (hidx : g.conn.Indexed) (hm : m.Ordinary) (modified : JsObj) :
    Handled cfg ok g (g.getReceivers cfg m modified) := by
  unfold Gateway.getReceivers
  split
  · split
    · exact afterEvents_handled hidx hm modified _
    · exact ⟨.refl, ⟨rfl, hm⟩, List.forall_mem_nil _⟩
  · split
    · exact finish_handled_nil _ _
    · rename_i principal hprincipal
      obtain ⟨session, hs, rfl⟩ := Option.map_eq_some_iff.1 hprincipal
      exact afterReceivers_handled hidx hm modified ⟨⟨session, hs⟩, g.conn.accepted_none _,
        fun _ hr => sameTenant_of_byType hidx hs hr⟩
  · rename_i hempty
    exact absurd hempty hm.getReceivers_ne

theorem afterApi_handled (hidx : g.conn.Indexed) (hm : m.Ordinary)
    (notification : Option String) (answer : ApiAnswer) :
    Handled cfg ok g (g.afterApi cfg m notification answer) := by
  unfold Gateway.afterApi
  split
  · exact finish_handled_nil _ _
  · dsimp only
    refine (getReceivers_handled (g := g.log _) hidx hm _).after (Handling.refl.log fun e he => ?_)
    split at he
    · rw [List.mem_singleton] at he
      exact he ▸ trivial
    · cases he

theorem executeBase_handled (hidx : g.conn.Indexed) (hm : m.Ordinary) (principal : EndUser) :
    Handled cfg ok g (g.executeBase cfg m principal) := by
  unfold Gateway.executeBase
  split
  · exact finish_handled_nil _ _
  · split_ifs
    · split
      · exact getReceivers_handled hidx hm _
      · exact finish_handled_nil _ _
      · refine ⟨Handling.refl.log fun e he => ?_, ⟨rfl, hm⟩, List.forall_mem_nil _⟩
        rw [List.mem_singleton] at he
        exact he ▸ trivial
    · exact finish_handled_nil _ _

/-! ## Acknowledgements -/

/-- The payload of a message that is a valid acknowledgement. -/
def ackPayload (parsed : Option JsVal) : Option (Option JsVal) :=
  match parsed with
  | none => none
  | some v =>
    if v.strField "event" = some EventAcknowledgmentEvent.labelEvent then
      match EventAcknowledgmentEvent.validateStructurePayload (v.field "data") with
      | .ok () => some (v.field "data")
      | .error _ => none
    else none

/-- The acknowledgement that an event carries: the session that sends it, and its payload. -/
def Gateway.acking (g : Gateway) : GatewayEvent → Option (SessionRef × Option JsVal)
  | .message client parsed =>
    match ackPayload parsed, g.conn.clients[client]? with
    | some payload, some c =>
      if c.listening = true ∧ c.readyState ≠ .CLOSED then
        (c.session.filter fun r => g.conn.socket r = some client).map fun r => (r, payload)
      else none
    | _, _ => none
  | _ => none

/-- One handler of the list handles the acknowledgements. -/
theorem acknowledge_unique {h : WsEventJSON} (hh : h ∈ WS_EVENT_JSON_CLASSES)
    (hack : h.sideEffectEvent = .acknowledge) : h = EventAcknowledgmentEvent := by
  simp only [WS_EVENT_JSON_CLASSES, List.mem_cons, List.not_mem_nil, or_false] at hh
  rcases hh with rfl | rfl | rfl | rfl | rfl | rfl | rfl | rfl | rfl | rfl | rfl | rfl
  all_goals first | rfl | cases hack

theorem acknowledge_of_label : ∀ h ∈ WS_EVENT_JSON_CLASSES,
    h.labelEvent = EventAcknowledgmentEvent.labelEvent → h.sideEffectEvent = .acknowledge := by
  decide

/-- The handler of the acknowledgements reaches its side effect in one stretch. -/
theorem executeBase_acknowledge (g : Gateway) (c : ClientRef) (r : SessionRef)
    {payload : Option JsVal} (principal : EndUser)
    (hvalid : EventAcknowledgmentEvent.validateStructurePayload payload = .ok ()) :
    g.executeBase cfg ⟨c, r, EventAcknowledgmentEvent, payload⟩ principal =
      (g.acknowledge cfg r payload, .done (.ok ()), []) := by
  have hlog : g.log [] = g := by simp [Gateway.log]
  unfold Gateway.executeBase
  rw [hvalid]
  show ((g.log []).acknowledge cfg r payload, Task.done (.ok ()), []) = _
  rw [hlog]

/-- A message is an acknowledgement, or a handling without a promise. -/
theorem onMessage_cases (hidx : g.conn.Indexed) (c : ClientRef) (r : SessionRef)
    (session : WsSession) (parsed : Option JsVal) :
    (∃ payload, ackPayload parsed = some payload ∧ g.onMessage cfg c r session parsed =
      (g.acknowledge cfg r payload, .done (.ok ()), [])) ∨
    ackPayload parsed = none ∧ Handled cfg ok g (g.onMessage cfg c r session parsed) := by
  unfold Gateway.onMessage
  split
  · exact Or.inr ⟨rfl, finish_handled_nil _ _⟩
  · exact Or.inr ⟨rfl, finish_handled_nil _ _⟩
  · rename_i v _
    split
    · rename_i hevent
      exact Or.inr ⟨by simp [ackPayload, hevent], finish_handled_nil _ _⟩
    · rename_i event hevent
      split
      · rename_i hfind
        have hne : event ≠ EventAcknowledgmentEvent.labelEvent := by
          rintro rfl
          cases hfind
        exact Or.inr ⟨by simp [ackPayload, hevent, hne], finish_handled_nil _ _⟩
      · rename_i handler hfind
        have hmem := List.mem_of_find?_eq_some hfind
        have hlabel : handler.labelEvent = event := by simpa using List.find?_some hfind
        by_cases hack : handler.sideEffectEvent = .acknowledge
        · obtain rfl := acknowledge_unique hmem hack
          subst hlabel
          cases hvalid : EventAcknowledgmentEvent.validateStructurePayload (v.field "data") with
          | ok =>
            refine Or.inl ⟨v.field "data", by simp [ackPayload, hevent, hvalid], ?_⟩
            exact executeBase_acknowledge g c r session.principal hvalid
          | error f =>
            refine Or.inr ⟨by simp [ackPayload, hevent, hvalid], ?_⟩
            show Handled cfg ok g (g.executeBase cfg _ session.principal)
            unfold Gateway.executeBase
            rw [hvalid]
            exact finish_handled_nil _ _
        · have hne : event ≠ EventAcknowledgmentEvent.labelEvent := by
            rw [← hlabel]
            exact fun h => hack (acknowledge_of_label handler hmem h)
          refine Or.inr ⟨by simp [ackPayload, hevent, hne], ?_⟩
          unfold Gateway.execute
          split
          · exact finish_handled_nil _ _
          · exact executeBase_handled hidx ⟨hmem, hack⟩ _

theorem afterBinaryEvents_handled (hidx : g.conn.Indexed) (m : BinaryMessage)
    (events : List Events) : Handled cfg ok g (g.afterBinaryEvents m events) := by
  unfold Gateway.afterBinaryEvents
  split
  · exact finish_handled_nil _ _
  · rename_i session hs
    dsimp only
    split
    · exact finish_handled_nil _ _
    · exact finish_handled_nil _ _
    · split
      · exact finish_handled_nil _ _
      · exact (finish_handled_nil _ _).after
          (Handling.refl.sendAll _ (filterReceivers_routed hidx hs _ _))

theorem onBinary_handled (hidx : g.conn.Indexed) (c : ClientRef) (r : SessionRef)
    (session : WsSession) (payload : List UInt8) :
    Handled cfg ok g (g.onBinary cfg c r session payload) := by
  unfold Gateway.onBinary
  dsimp only
  split
  · exact finish_handled_nil _ _
  · split
    · exact finish_handled_nil _ _
    · unfold Gateway.executeBinary
      split
      · exact finish_handled_nil _ _
      · split_ifs
        · exact finish_handled_nil _ _
        · split
          · exact afterBinaryEvents_handled hidx _ _
          · exact ⟨.refl, ⟨rfl, trivial⟩, List.forall_mem_nil _⟩

/-- What `qossing` does after its query: its own event, if it stores one, is created for targets
    of which the promise holds. -/
theorem finishQossing_handling {q : Qossing} {ids : List ℕ}
    (hrouted : g.conn.Routed q.sender q.grant q.receivers)
    (hok₁ : q.handler.qos = .qos1 → ok.create g.conn (Gateway.offlineIds g.conn q ids)
      q.handler.labelEventToReceiver q.sender q.grant)
    (hok₂ : q.handler.qos = .qos2 →
      ok.create g.conn (Gateway.onlineIds g.conn q ++ Gateway.offlineIds g.conn q ids)
        q.handler.labelEventToReceiver q.sender q.grant) :
    Handling cfg ok g (g.finishQossing cfg q ids).1 := by
  unfold Gateway.finishQossing
  dsimp only
  split
  · exact .refl
  · rename_i hqos
    have hsent : Handling cfg ok g (g.log (g.conn.sendAll
        (.json (eventMessage q.handler.labelEventToReceiver q.payload))
        (.dispatch q.sender q.grant) q.receivers).1) :=
      Handling.refl.sendAll _ hrouted
    split
    · exact hsent
    · split_ifs
      · exact hsent
      · exact hsent.create (hok₁ hqos)
  · rename_i hqos
    split_ifs
    · exact .refl
    · have hcreated : Handling cfg ok g (g.createEvent cfg
          (Gateway.onlineIds g.conn q ++ Gateway.offlineIds g.conn q ids)
          q.handler.labelEventToReceiver q.payload .qos2
          { senderId := g.conn.sessionId q.sender, notifySender := some q.handler.notifySender,
            ttl := some q.handler.ttl, senderEventName := some q.handler.labelEvent }
          q.sender q.grant) := Handling.refl.create (hok₂ hqos)
      have hsent := hcreated.sendAll (.json (eventMessageMeta q.handler.labelEventToReceiver
        q.payload (cfg.randomUUID g.generated))) hrouted
      split
      · exact hsent
      · exact hsent.store (EventStore.operated_foldl
          (fun _ uid => EventStore.operated_markDelivered uid _) _ _)

end

end GatewayRealtime
