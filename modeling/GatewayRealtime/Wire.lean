/-
  What a stretch of the gateway says, and under which grants.

  * `Connections.bound`: the session that a socket is bound to.
  * `Terms`: what is known of the grants, and of the events that are asked for, queried and loaded.
  * `Task.queried`: the query of the events of a label that a computation waits for.
  * `Effect.OnSocket`, `Effect.Granted`: a frame of a session goes to the socket that the session
    has; and what is done under a grant is done under one that meets the terms.
  * `Gateway.Speaks`: the sessions keep their identities, none of them gets a socket, no socket is
    bound anew, and so is everything that is said.
  * `Stretch.Speaks`: such a stretch, whose computations meet the terms too; each stretch of a
    message is one.
  * `onEvent_speaks`, `onAnswer_speaks`: and so is every other one, but for a new socket and the
    entry of a connection (`connected_speaks`).
-/
import GatewayRealtime.GatewayInv

namespace GatewayRealtime

/-- The session that a socket is bound to, if there is the socket. -/
def Connections.bound (k : Connections) (c : ClientRef) : Option (Option SessionRef) :=
  (k.clients[c]?).map (·.session)

/-- A frame of a session goes to the socket that the session has. -/
def Effect.OnSocket (k : Connections) : Effect → Prop
  | .send c r _ _ => k.socket r = some c
  | _ => True

/-- The grant under which an effect happens, and the session of the sender that has it. -/
def Effect.grant : Effect → Option (SessionRef × Grant)
  | .send _ _ _ (.dispatch sender grant) => grant.map fun G => (sender, G)
  | .store _ _ sender grant => grant.map fun G => (sender, G)
  | _ => none

/-- What is known of the events that are asked for, by the handler of a label for its receivers; of
    the grants of senders; of the events that are loaded for a label, by a query that was begun at
    some time; and of the times at which queries are begun. -/
structure Terms where
  asks : String → String → EventHelper → Prop
  grant : SessionRef → Grant → Prop
  loaded : String → List Events → ℤ → Prop
  begun : ℤ → Prop

/-- Nothing is known of them. -/
def Terms.any : Terms :=
  ⟨fun _ _ _ => True, fun _ _ => True, fun _ _ _ => True, fun _ => True⟩

/-- A grant that is made of these events of a label meets the terms. -/
def Terms.Makes (T : Terms) (k : Connections) (label : String) (events : List Events) : Prop :=
  ∀ (sender : SessionRef) (session : WsSession) event receiver allowed,
    T.asks label event receiver → k.heap[sender]? = some session →
      (getHelper session.type).filterEvents session.principal event events = .ok allowed →
        allowed ≠ [] → T.grant sender ⟨receiver, allowed⟩

/-- What a message asks for. -/
def Message.Asks (m : Message) (T : Terms) : Prop :=
  T.asks m.handler.labelEvent (m.handler.getEventMessage m.payload)
    (getHelper m.handler.receiverType)

def BinaryMessage.Asks (m : BinaryMessage) (T : Terms) : Prop :=
  T.asks m.handler.labelEvent m.handler.labelEvent (getHelper m.handler.receiverType)

/-- What the handlers ask for meets the terms, every grant that is made of cached events does, and
    every query that is begun. -/
structure Terms.Meets (T : Terms) (cfg : GatewayConfig) (g : Gateway) : Prop where
  json : ∀ m : Message, m.handler ∈ WS_EVENT_JSON_CLASSES → m.Asks T
  binner : ∀ m : BinaryMessage, m.handler ∈ WS_EVENT_BINNER_CLASSES → m.Asks T
  cached : ∀ label events, g.cachedEvents cfg label = some events → T.Makes g.conn label events
  begun : T.begun g.clock

def Effect.Granted (T : Terms) (e : Effect) : Prop := ∀ x ∈ e.grant, T.grant x.1 x.2

/-- A computation that meets the terms with what it asks for and with its grant. -/
def Task.Asks (T : Terms) : Task → Prop
  | .api m _ => m.Asks T
  | .events m _ _ => m.Asks T
  | .targets q => ∀ G ∈ q.grant, T.grant q.sender G
  | .binaryEvents m _ => m.Asks T
  | _ => True

/-- The label of the events that a computation has queried, and when the query was begun. -/
def Task.queried : Task → Option (String × ℤ)
  | .events m _ lastUpdate => some (m.handler.labelEvent, lastUpdate)
  | .binaryEvents m lastUpdate => some (m.handler.labelEvent, lastUpdate)
  | _ => none

/-- A computation that meets the terms, with its query too. -/
structure Task.Meets (T : Terms) (t : Task) : Prop where
  asks : t.Asks T
  begun : ∀ label lastUpdate, t.queried = some (label, lastUpdate) → T.begun lastUpdate

/-- Sessions and sockets are not joined, frames go to the sockets of their sessions, and grants and
    loaded events meet the terms. -/
structure Gateway.Speaks (T : Terms) (g g' : Gateway) : Prop where
  identity : ∀ r : SessionRef, (g'.conn.heap[r]?).map WsSession.identity =
    (g.conn.heap[r]?).map WsSession.identity
  socket : ∀ r c, g'.conn.socket r = some c → g.conn.socket r = some c
  bound : ∀ c, g'.conn.bound c = g.conn.bound c
  caches : ∀ label x, g'.caches.get? label = some x →
    g.caches.get? label = some x ∨ T.loaded label x.1 x.2
  sent : ∃ effects, g'.trace = g.trace ++ effects ∧
    ∀ e ∈ effects, e.OnSocket g.conn ∧ e.Granted T

/-- A stretch of this kind, whose computations meet the terms too. -/
structure Stretch.Speaks (T : Terms) (s : Stretch) (g : Gateway) : Prop where
  gateway : g.Speaks T s.1
  task : s.2.1.Meets T
  tasks : ∀ t ∈ s.2.2, t.Meets T

section
variable {T : Terms} {cfg : GatewayConfig} {g g' g'' : Gateway} {k : Connections}
  {r : SessionRef} {m : Message} {s : Stretch}

theorem Terms.any_makes {label : String} {events : List Events} :
    Terms.any.Makes k label events := fun _ _ _ _ _ _ _ _ _ => trivial

theorem Terms.any_meets : Terms.any.Meets cfg g :=
  ⟨fun _ _ => trivial, fun _ _ => trivial, fun _ _ _ => any_makes, trivial⟩

theorem Task.any_asks (t : Task) : t.Asks .any := by
  cases t with
  | targets q => exact fun _ _ => trivial
  | _ => trivial

/-- A computation without a query. -/
theorem Task.Meets.of_none {t : Task} (h : t.Asks T) (hnone : t.queried = none) : t.Meets T :=
  ⟨h, fun _ _ hq => by rw [hnone] at hq; cases hq⟩

theorem Task.done_meets (result : Except Failure Unit) : (Task.done result).Meets T :=
  .of_none trivial rfl

/-! ## Elementary changes -/

theorem Gateway.Speaks.refl (g : Gateway) : g.Speaks T g :=
  ⟨fun _ => rfl, fun _ _ h => h, fun _ => rfl, fun _ _ h => Or.inl h, [], by simp,
    List.forall_mem_nil _⟩

theorem Effect.OnSocket.mono {e : Effect} (h : e.OnSocket k)
    (hsocket : ∀ r c, k.socket r = some c → g.conn.socket r = some c) : e.OnSocket g.conn := by
  cases e with
  | send c r frame origin => exact hsocket r c h
  | _ => trivial

theorem Gateway.Speaks.trans (h : g.Speaks T g') (h' : g'.Speaks T g'') : g.Speaks T g'' := by
  obtain ⟨effects, htrace, hsaid⟩ := h.sent
  obtain ⟨effects', htrace', hsaid'⟩ := h'.sent
  refine ⟨fun r => (h'.identity r).trans (h.identity r),
    fun r c hr => h.socket r c (h'.socket r c hr), fun c => (h'.bound c).trans (h.bound c),
    fun label x hx => (h'.caches label x hx).elim (h.caches label x) Or.inr,
    effects ++ effects', by rw [htrace', htrace, List.append_assoc],
    List.forall_mem_append.2 ⟨hsaid, fun e he => ⟨(hsaid' e he).1.mono h.socket,
      (hsaid' e he).2⟩⟩⟩

theorem speaks_log (g : Gateway) {effects : List Effect}
    (h : ∀ e ∈ effects, e.OnSocket g.conn ∧ e.Granted T) : g.Speaks T (g.log effects) :=
  ⟨fun _ => rfl, fun _ _ h => h, fun _ => rfl, fun _ _ h => Or.inl h, effects, rfl, h⟩

/-- What is neither a frame of a session nor done under a grant. -/
theorem speaks_log_single (g : Gateway) {e : Effect} (hon : e.OnSocket g.conn)
    (hgrant : e.grant = none) : g.Speaks T (g.log [e]) :=
  speaks_log g (List.forall_mem_singleton.2 ⟨hon, fun x hx => by rw [hgrant] at hx; cases hx⟩)

/-- A change of the sessions or the sockets. -/
theorem speaks_turn (hid : ∀ r : SessionRef, (k.heap[r]?).map WsSession.identity =
      (g.conn.heap[r]?).map WsSession.identity)
    (hsocket : ∀ r c, k.socket r = some c → g.conn.socket r = some c)
    (hbound : ∀ c, k.bound c = g.conn.bound c) : g.Speaks T { g with conn := k } :=
  ⟨hid, hsocket, hbound, fun _ _ h => Or.inl h, [], by simp, List.forall_mem_nil _⟩

theorem Connections.bound_eq (k : Connections) (c : ClientRef) :
    k.bound c = ((k.clients.map WsClient.binding)[c]?).map (·.1) := by
  rw [Connections.bound, List.getElem?_map]
  cases k.clients[c]? <;> rfl

theorem speaks_of_eq (hheap : k.heap = g.conn.heap)
    (hbindings : k.clients.map WsClient.binding = g.conn.clients.map WsClient.binding) :
    g.Speaks T { g with conn := k } :=
  speaks_turn (fun r => by rw [hheap]) (fun r c h => by rwa [Connections.socket, hheap] at h)
    fun c => by rw [Connections.bound_eq, Connections.bound_eq, hbindings]

theorem Connections.Kept.speaks (h : g.conn.Kept k) : g.Speaks T { g with conn := k } :=
  speaks_of_eq h.heap h.bindings

/-- A session is changed, but gets no socket. -/
theorem speaks_updateSession (g : Gateway) (r : SessionRef) (f : WsSession → WsSession)
    (hid : ∀ s, (f s).identity = s.identity)
    (hsocket : ∀ s c, (f s).socket = some c → s.socket = some c) :
    g.Speaks T { g with conn := g.conn.updateSession r f } := by
  refine speaks_turn (fun r' => ?_) (fun r' c h => ?_) fun _ => rfl
  · rw [Connections.heap_updateSession, Option.map_map]
    refine congrFun (congrArg Option.map (funext fun s => ?_)) _
    by_cases hr : r' = r
    · simp [hr, hid]
    · simp [hr]
  · rw [Connections.socket, Connections.heap_updateSession] at h
    obtain ⟨s', hs', hc⟩ := Option.bind_eq_some_iff.1 h
    obtain ⟨s, hs, rfl⟩ := Option.map_eq_some_iff.1 hs'
    refine Option.bind_eq_some_iff.2 ⟨s, hs, ?_⟩
    split_ifs at hc
    · exact hsocket s c hc
    · exact hc

/-- The events of a label are loaded. -/
theorem loadEvents_speaks (g : Gateway) {label : String} {events : List Events} {lastUpdate : ℤ}
    (h : T.loaded label events lastUpdate) :
    g.Speaks T (g.loadEvents label events lastUpdate) := by
  refine ⟨fun _ => rfl, fun _ _ h => h, fun _ => rfl, fun label' x hx => ?_, [],
    (List.append_nil _).symm, List.forall_mem_nil _⟩
  rw [Gateway.loadEvents, OMap.get?_set] at hx
  split_ifs at hx with hlabel
  · cases hx
    exact Or.inr (hlabel ▸ h)
  · exact Or.inl hx

/-! ## Frames -/

/-- A frame that is not of a dispatch under a grant. -/
theorem send_said {frame : Frame} {origin : Origin}
    (horigin : ∀ sender G, origin ≠ .dispatch sender (some G)) :
    ∀ e ∈ k.send r frame origin, e.OnSocket k ∧ e.Granted T := by
  intro e he
  obtain ⟨c, hc, -, rfl⟩ := mem_send_iff.1 he
  refine ⟨hc, fun x hx => ?_⟩
  cases origin with
  | dispatch sender grant =>
    obtain ⟨G, hG, -⟩ := Option.mem_map.1 hx
    cases hG
    exact (horigin sender G rfl).elim
  | _ => cases hx

theorem sendAll_said {frame : Frame} {sender : SessionRef} {grant : Option Grant}
    {receivers : List SessionRef} (hgrant : ∀ G ∈ grant, T.grant sender G) :
    ∀ e ∈ (k.sendAll frame (.dispatch sender grant) receivers).1,
      e.OnSocket k ∧ e.Granted T := by
  induction receivers with
  | nil => exact List.forall_mem_nil _
  | cons r rest ih =>
    unfold Connections.sendAll
    split
    · exact List.forall_mem_nil _
    · refine List.forall_mem_append.2 ⟨fun e he => ?_, ih⟩
      obtain ⟨c, hc, -, rfl⟩ := mem_send_iff.1 he
      refine ⟨hc, fun x hx => ?_⟩
      obtain ⟨G, hG, rfl⟩ := Option.mem_map.1 hx
      exact hgrant G hG

theorem handleEventExpired_said (payload : EventExpired) :
    ∀ e ∈ k.handleEventExpired payload, e.OnSocket k ∧ e.Granted T := by
  unfold Connections.handleEventExpired
  split_ifs
  · exact List.forall_mem_nil _
  · split
    · exact List.forall_mem_nil _
    · exact send_said nofun

theorem speaks_setStore (g : Gateway) (store : EventStore JsObj) :
    g.Speaks T (g.setStore store) := by
  refine ⟨fun _ => rfl, fun _ _ h => h, fun _ => rfl, fun _ _ h => Or.inl h, _, rfl,
    fun e he => ?_⟩
  obtain ⟨payload, -, he⟩ := List.mem_flatMap.1 he
  exact handleEventExpired_said payload e he

/-- Nothing is asked of a dispatch without a grant. -/
theorem ungranted {sender : SessionRef} : ∀ G ∈ (none : Option Grant), T.grant sender G := by
  rintro G ⟨⟩

theorem speaks_createEvent (g : Gateway) (targetIds : List ℕ) (eventName : String)
    (payload : JsObj) (qos : QoS) (options : CreateOptions) {sender : SessionRef}
    {grant : Option Grant} (hgrant : ∀ G ∈ grant, T.grant sender G) :
    g.Speaks T (g.createEvent cfg targetIds eventName payload qos options sender grant) := by
  have hstored : g.Speaks T
      (g.log [.store (cfg.randomUUID g.generated) targetIds sender grant]) :=
    speaks_log g (List.forall_mem_singleton.2 ⟨trivial, fun x hx => by
      obtain ⟨G, hG, rfl⟩ := Option.mem_map.1 hx
      exact hgrant G hG⟩)
  obtain ⟨hid, hsocket, hbound, hcaches, hsent⟩ := hstored.trans (speaks_setStore _ _)
  exact ⟨hid, hsocket, hbound, hcaches, hsent⟩

/-! ## Failures -/

theorem speaks_handleError (g : Gateway) (c : ClientRef) (f : Failure) :
    g.Speaks T (g.handleError c f) := by
  unfold Gateway.handleError
  split_ifs
  · exact speaks_log_single g trivial rfl
  · exact .refl g

theorem failConnection_speaks (g : Gateway) (c : ClientRef) (f : Failure) :
    Stretch.Speaks T (g.failConnection c f, .done (.error f), []) g :=
  ⟨(speaks_handleError g c f).trans (Connections.Kept.closeSocket _ c).speaks,
    Task.done_meets _, List.forall_mem_nil _⟩

theorem speaks_failMessage (g : Gateway) (c : ClientRef) (f : Failure) :
    g.Speaks T (g.failMessage c f) := by
  unfold Gateway.failMessage
  dsimp only
  split_ifs
  · exact (speaks_handleError g c f).trans (Connections.Kept.closeSocket _ c).speaks
  · exact speaks_handleError g c f

theorem finish_speaks (g : Gateway) (c : ClientRef) {tasks : List Task}
    (htasks : ∀ t ∈ tasks, t.Meets T) (result : Except Failure Unit) :
    (g.finish c tasks result).Speaks T g := by
  cases result with
  | ok => exact ⟨.refl g, Task.done_meets _, htasks⟩
  | error f => exact ⟨speaks_failMessage g c f, Task.done_meets _, htasks⟩

/-- A failure before anything has been started. -/
theorem finish_speaks_nil (g : Gateway) (c : ClientRef) (result : Except Failure Unit) :
    (g.finish c [] result).Speaks T g := finish_speaks g c (List.forall_mem_nil _) result

/-- A stretch may begin with what speaks. -/
theorem Stretch.Speaks.after (h : s.Speaks T g') (hg : g.Speaks T g') : s.Speaks T g :=
  ⟨hg.trans h.gateway, h.task, h.tasks⟩

/-! ## Messages -/

theorem startQossing_speaks (g : Gateway) {q : Qossing} (hq : ∀ G ∈ q.grant, T.grant q.sender G)
    (type : TypeEnduser) :
    g.Speaks T (g.startQossing q type).1 ∧ (g.startQossing q type).2.Meets T := by
  unfold Gateway.startQossing
  split
  · exact ⟨speaks_log g (sendAll_said hq), Task.done_meets _⟩
  all_goals
    split
    · exact ⟨.refl g, .of_none hq rfl⟩
    · exact ⟨.refl g, .of_none hq rfl⟩
    · exact ⟨.refl g, Task.done_meets _⟩

theorem finishQossing_speaks (g : Gateway) {q : Qossing} (hq : ∀ G ∈ q.grant, T.grant q.sender G)
    (ids : List ℕ) : g.Speaks T (g.finishQossing cfg q ids).1 := by
  unfold Gateway.finishQossing
  dsimp only
  split
  · exact .refl g
  · split
    · exact speaks_log g (sendAll_said hq)
    · split_ifs
      · exact speaks_log g (sendAll_said hq)
      · exact (speaks_log g (sendAll_said hq)).trans (speaks_createEvent _ _ _ _ _ _ hq)
  · split_ifs
    · exact .refl g
    · have hsent : ∀ {g' : Gateway} {frame : Frame}, g.Speaks T g' → g.Speaks T
          (g'.log (g'.conn.sendAll frame (.dispatch q.sender q.grant) q.receivers).1) :=
        fun h => h.trans (speaks_log _ (sendAll_said hq))
      split
      · exact hsent (speaks_createEvent _ _ _ _ _ _ hq)
      · exact (hsent (speaks_createEvent _ _ _ _ _ _ hq)).trans (speaks_setStore _ _)

theorem acknowledge_speaks (g : Gateway) (r : SessionRef) (payload : Option JsVal) :
    g.Speaks T (g.acknowledge cfg r payload) := by
  unfold Gateway.acknowledge
  split
  · exact .refl g
  · dsimp only
    split
    · exact speaks_setStore _ _
    · split
      · exact speaks_setStore _ _
      · split_ifs
        · split
          · exact (speaks_setStore _ _).trans (speaks_log _ (send_said nofun))
          · exact (speaks_setStore _ _).trans (speaks_createEvent _ _ _ _ _ _ ungranted)
        · exact speaks_setStore _ _

variable (cfg) in
theorem sideEffect_speaks (g : Gateway) (m : Message) (modified : JsObj) (label : String) :
    g.Speaks T (g.sideEffect cfg m modified label).1 ∧
      ∀ t ∈ (g.sideEffect cfg m modified label).2, t.Meets T := by
  unfold Gateway.sideEffect
  split
  · exact ⟨.refl g, List.forall_mem_nil _⟩
  · exact ⟨speaks_log g (send_said nofun), List.forall_mem_nil _⟩
  · split
    · exact ⟨.refl g, List.forall_mem_nil _⟩
    · exact ⟨(startQossing_speaks g ungranted .browser).1,
        List.forall_mem_singleton.2 (startQossing_speaks g ungranted .browser).2⟩
  · exact ⟨acknowledge_speaks g m.session m.payload, List.forall_mem_nil _⟩

theorem dispatch_speaks (g : Gateway) {m : Message} (modified : JsObj) {grant : Option Grant}
    (hgrant : ∀ G ∈ grant, T.grant m.session G) (receivers : List SessionRef) :
    g.Speaks T (g.dispatch m modified grant receivers).1 ∧
      ∀ t ∈ (g.dispatch m modified grant receivers).2.2, t.Meets T := by
  unfold Gateway.dispatch
  split
  · exact ⟨speaks_log g (sendAll_said hgrant), List.forall_mem_nil _⟩
  · exact ⟨speaks_log g (sendAll_said hgrant), List.forall_mem_nil _⟩
  · have hstart := startQossing_speaks g
      (q := ⟨m.handler, m.session, receivers, modified, grant⟩) hgrant m.handler.receiverType
    exact ⟨hstart.1, List.forall_mem_singleton.2 hstart.2⟩

theorem afterReceivers_speaks (g : Gateway) {m : Message} (modified : JsObj)
    {grant : Option Grant} (hgrant : ∀ G ∈ grant, T.grant m.session G)
    (receivers : List SessionRef) :
    (g.afterReceivers cfg m modified grant receivers).Speaks T g := by
  obtain ⟨hdispatch, htasks⟩ := dispatch_speaks g modified hgrant receivers
  unfold Gateway.afterReceivers
  dsimp only
  split
  · exact (finish_speaks _ _ htasks _).after hdispatch
  · obtain ⟨hside, hnew⟩ := sideEffect_speaks (T := T) cfg
      (g.dispatch m modified grant receivers).1 m modified (m.handler.getEventMessage m.payload)
    exact (finish_speaks _ _ (List.forall_mem_append.2 ⟨htasks, hnew⟩) _).after
      (hdispatch.trans hside)

theorem afterEvents_speaks (g : Gateway) {m : Message} (hm : m.Asks T) (modified : JsObj)
    {events : List Events} (hT : T.Makes g.conn m.handler.labelEvent events) :
    (g.afterEvents cfg m modified events).Speaks T g := by
  unfold Gateway.afterEvents
  split
  · exact finish_speaks_nil g _ _
  · rename_i session hsession
    dsimp only
    split
    · exact finish_speaks_nil g _ _
    · exact finish_speaks_nil g _ _
    · rename_i allowed hne hallowed
      refine afterReceivers_speaks g modified (fun G hG => ?_) _
      cases hG
      exact hT _ session _ _ allowed hm hsession hallowed hne

theorem getReceivers_speaks (hT : T.Meets cfg g) (hm : m.Asks T) (modified : JsObj) :
    (g.getReceivers cfg m modified).Speaks T g := by
  unfold Gateway.getReceivers
  split
  · split
    · rename_i events hcached
      exact afterEvents_speaks g hm modified (hT.cached _ events hcached)
    · refine ⟨.refl g, ⟨hm, fun label lastUpdate hq => ?_⟩, List.forall_mem_nil _⟩
      cases hq
      exact hT.begun
  · split
    · exact finish_speaks_nil g _ _
    · exact afterReceivers_speaks g modified ungranted _
  · exact afterReceivers_speaks g modified ungranted _

theorem afterApi_speaks (hT : T.Meets cfg g) (hm : m.Asks T) (notification : Option String)
    (answer : ApiAnswer) : (g.afterApi cfg m notification answer).Speaks T g := by
  have hlogged : ∀ effects, T.Meets cfg (g.log effects) := fun effects =>
    ⟨hT.json, hT.binner, hT.cached, hT.begun⟩
  unfold Gateway.afterApi
  split
  · exact finish_speaks_nil g _ _
  · dsimp only
    split
    · exact (getReceivers_speaks (hlogged _) hm _).after (speaks_log_single g trivial rfl)
    · exact (getReceivers_speaks (hlogged _) hm _).after
        (speaks_log g (List.forall_mem_nil _))

theorem onMessage_speaks (hT : T.Meets cfg g) (c : ClientRef) (r : SessionRef)
    (session : WsSession) (parsed : Option JsVal) :
    (g.onMessage cfg c r session parsed).Speaks T g := by
  unfold Gateway.onMessage
  split
  · exact finish_speaks_nil g _ _
  · exact finish_speaks_nil g _ _
  · split
    · exact finish_speaks_nil g _ _
    · split
      · exact finish_speaks_nil g _ _
      · rename_i handler hfind
        have hm := fun payload =>
          hT.json ⟨c, r, handler, payload⟩ (List.mem_of_find?_eq_some hfind)
        unfold Gateway.execute
        split
        · exact finish_speaks_nil g _ _
        · unfold Gateway.executeBase
          split
          · exact finish_speaks_nil g _ _
          · split_ifs
            · split
              · exact getReceivers_speaks hT (hm _) _
              · exact finish_speaks_nil g _ _
              · exact ⟨speaks_log_single g trivial rfl, .of_none (hm _) rfl,
                  List.forall_mem_nil _⟩
            · exact finish_speaks_nil g _ _

theorem afterBinaryEvents_speaks (g : Gateway) {m : BinaryMessage} (hm : m.Asks T)
    {events : List Events} (hT : T.Makes g.conn m.handler.labelEvent events) :
    (g.afterBinaryEvents m events).Speaks T g := by
  unfold Gateway.afterBinaryEvents
  split
  · exact finish_speaks_nil g _ _
  · rename_i session hsession
    dsimp only
    split
    · exact finish_speaks_nil g _ _
    · exact finish_speaks_nil g _ _
    · rename_i allowed hne hallowed
      split
      · exact finish_speaks_nil g _ _
      · refine (finish_speaks_nil _ _ _).after (speaks_log g (sendAll_said fun G hG => ?_))
        cases hG
        exact hT _ session _ _ allowed hm hsession hallowed hne

theorem onBinary_speaks (hT : T.Meets cfg g) (c : ClientRef) (r : SessionRef)
    (session : WsSession) (payload : List UInt8) :
    (g.onBinary cfg c r session payload).Speaks T g := by
  unfold Gateway.onBinary
  dsimp only
  split
  · exact finish_speaks_nil g _ _
  · split
    · exact finish_speaks_nil g _ _
    · rename_i handler hfind
      have hm := hT.binner ⟨c, r, handler, payload⟩ (List.mem_of_find?_eq_some hfind)
      unfold Gateway.executeBinary
      split
      · exact finish_speaks_nil g _ _
      · split_ifs
        · exact finish_speaks_nil g _ _
        · split
          · rename_i events hcached
            exact afterBinaryEvents_speaks g hm (hT.cached _ events hcached)
          · refine ⟨.refl g, ⟨hm, fun label lastUpdate hq => ?_⟩, List.forall_mem_nil _⟩
            cases hq
            exact hT.begun

/-! ## Connections and timers -/

theorem presence_speaks (g : Gateway) (r : SessionRef) (event : String) (withDeviceId : Bool) :
    g.Speaks T (g.presence r event withDeviceId) := by
  unfold Gateway.presence
  split
  · split_ifs
    · refine speaks_log g fun e he => ?_
      unfold Connections.presence at he
      split at he
      · cases he
      · obtain ⟨b, -, he⟩ := List.mem_flatMap.1 he
        exact send_said (by nofun) e he
    · exact .refl g
  · exact .refl g

theorem deliverPending_speaks (g : Gateway) (r : SessionRef) :
    g.Speaks T (g.deliverPending r) := by
  unfold Gateway.deliverPending
  split
  · exact .refl g
  · refine (speaks_log g fun e he => ?_).trans (speaks_setStore _ _)
    obtain ⟨record, -, he⟩ := List.mem_flatMap.1 he
    exact send_said (by nofun) e he

theorem onConnect_speaks (g : Gateway) (r : SessionRef) : g.Speaks T (g.onConnect r).1 := by
  unfold Gateway.onConnect
  split
  · exact .refl g
  · split_ifs
    · have honline : g.Speaks T { g with
          conn := g.conn.updateSession r fun s => { s with state := .ONLINE } } :=
        speaks_updateSession g r _ (fun _ => rfl) fun _ _ h => h
      exact (honline.trans (deliverPending_speaks _ r)).trans (presence_speaks ..)
    · exact .refl g

theorem ready_speaks (g : Gateway) (c : ClientRef) : g.Speaks T (g.ready c) := by
  have hlisten : g.Speaks T { g with
      conn := g.conn.updateClient c fun client => { client with listening := true } } :=
    Connections.Kept.speaks (.updateClient fun _ _ => rfl)
  unfold Gateway.ready
  dsimp only
  split_ifs
  · exact hlisten.trans (speaks_log_single _ trivial rfl)
  · exact hlisten

theorem snapshot_said {devices : Except Failure (List Connections.DeviceInfo)} :
    ∀ e ∈ k.snapshot r devices, e.OnSocket k ∧ e.Granted T := by
  unfold Connections.snapshot
  split
  · exact List.forall_mem_nil _
  · exact send_said nofun

/-- The entry of a connection, once its session is established. -/
theorem connected_speaks (g : Gateway) (c : ClientRef) (a : Authenticated) :
    (g.connected c a).Speaks T { g with
      conn := (g.conn.establishSession a.id_enduser a.auth a.type a.product c).1 } := by
  unfold Gateway.connected
  dsimp only
  split_ifs
  · exact ⟨onConnect_speaks _ _, .of_none trivial rfl, List.forall_mem_nil _⟩
  · exact ⟨(onConnect_speaks _ _).trans (ready_speaks _ c), Task.done_meets _,
      List.forall_mem_nil _⟩

theorem onDisconnect_speaks (g : Gateway) (r : SessionRef) (session : WsSession) :
    g.Speaks T (g.onDisconnect cfg r session) := by
  unfold Gateway.onDisconnect
  split_ifs
  · exact .refl g
  · have hunregistered : g.Speaks T { g with conn := g.conn.unregister session.sessionId } :=
      speaks_of_eq (Connections.unregister_heap _ _) (by rw [Connections.unregister_clients])
    exact hunregistered.trans (presence_speaks ..)
  · have hsuspended : g.Speaks T { g with
        conn := g.conn.updateSession r fun s => { s with state := .SUSPEND, socket := none } } :=
      speaks_updateSession g r _ (fun _ => rfl) nofun
    have hcleared := hsuspended.trans (speaks_of_eq
      (Connections.clearTimeout_heap _ session.suspendTimer)
      (by rw [Connections.clearTimeout_clients]))
    have hsuspend : g.Speaks T (g.onSuspend r session) := hcleared.trans (presence_speaks ..)
    have hset := hsuspend.trans (speaks_updateSession (g.onSuspend r session) r
      (fun s => { s with suspendTimer := some (g.onSuspend r session).conn.nextTimer })
      (fun _ => rfl) fun _ _ h => h)
    exact hset.trans (speaks_of_eq rfl rfl)

theorem handleDisconnect_speaks (g : Gateway) (c : ClientRef) :
    g.Speaks T (g.handleDisconnect cfg c) := by
  unfold Gateway.handleDisconnect
  split
  · exact .refl g
  · split
    · exact .refl g
    · split_ifs
      · exact onDisconnect_speaks ..
      · exact .refl g

theorem close_speaks (g : Gateway) (c : ClientRef) (client : WsClient) :
    g.Speaks T (g.close cfg c client) := by
  have hclosed : g.Speaks T { g with
      conn := g.conn.updateClient c fun client => { client with readyState := .CLOSED } } :=
    speaks_turn (fun _ => rfl) (fun _ _ h => h) fun c' => by
      rw [Connections.bound, Connections.clients_updateClient, Connections.bound]
      cases g.conn.clients[c']? with
      | none => rfl
      | some client' => by_cases h : c' = c <;> simp [h]
  unfold Gateway.close
  dsimp only
  split_ifs
  · exact (hclosed.trans (handleDisconnect_speaks _ c)).trans (handleDisconnect_speaks _ c)
  · exact hclosed.trans (handleDisconnect_speaks _ c)

theorem suspendTimer_speaks (g : Gateway) (timer : SuspendTimer) :
    g.Speaks T (g.suspendTimer timer) := by
  unfold Gateway.suspendTimer
  split
  · exact .refl g
  · rename_i session _
    split_ifs
    · have hoffline : g.Speaks T { g with
          conn := g.conn.updateSession timer.session fun s => { s with state := .OFFLINE } } :=
        speaks_updateSession g timer.session _ (fun _ => rfl) fun _ _ h => h
      have hdropped := hoffline.trans (speaks_of_eq
        (Connections.unregister_heap _ session.sessionId)
        (by rw [Connections.unregister_clients]))
      exact hdropped.trans (presence_speaks ..)
    · exact .refl g

theorem heartbeat_speaks (g : Gateway) : g.Speaks T (g.heartbeat cfg) := by
  refine List.foldlRecOn (motive := fun g' : Gateway => g.Speaks T g') _ _ (.refl g)
    fun g' hg c _ => hg.trans ?_
  unfold Gateway.beatSocket
  split
  · exact .refl g'
  · rename_i client hclient
    split_ifs with hopen
    · have hbeat : g'.Speaks T { g' with conn := g'.conn.updateClient c fun _ =>
          (Gateway.beat cfg.WS_MAX_MISSED_PONGS client).1 } :=
        Connections.Kept.speaks (.updateClient fun client' h => by
          rw [hclient] at h
          cases h
          exact beat_binding _ hopen)
      dsimp only
      split_ifs
      · exact hbeat.trans (speaks_log_single _ trivial rfl)
      · exact hbeat
    · exact .refl g'

theorem retry_said {now : ℤ} {jitter : ℕ → String → ℚ} {store : EventStore JsObj} :
    ∀ e ∈ (k.retryPendingEvents cfg.store now jitter store).1, e.OnSocket k ∧ e.Granted T := by
  refine List.foldlRecOn (motive := fun acc : List Effect × EventStore JsObj =>
    ∀ e ∈ acc.1, e.OnSocket k ∧ e.Granted T) _ _ (List.forall_mem_nil _) fun acc hacc userId _ => ?_
  unfold Connections.retryUser
  split
  · exact hacc
  · split_ifs
    · refine List.forall_mem_append.2 ⟨hacc, fun e he => ?_⟩
      obtain ⟨record, -, he⟩ := List.mem_flatMap.1 he
      exact send_said (by nofun) e he
    · exact hacc

theorem retry_speaks (g : Gateway) (jitter : ℕ → String → ℚ) :
    g.Speaks T (g.retry cfg jitter) := (speaks_log g retry_said).trans (speaks_setStore _ _)

/-! ## Steps -/

/-- Every event but a new socket. -/
theorem onEvent_speaks {e : GatewayEvent} {new : List Task} (hT : T.Meets cfg g)
    (h : g.onEvent cfg e = some (g', new)) (he : e ≠ .connect) :
    g.Speaks T g' ∧ ∀ t ∈ new, t.Meets T := by
  have hstretch : ∀ {s : Stretch}, s.Speaks T g → s.1 = g' → s.2.1 :: s.2.2 = new →
      g.Speaks T g' ∧ ∀ t ∈ new, t.Meets T := by
    rintro s hs rfl rfl
    exact ⟨hs.gateway, List.forall_mem_cons.2 ⟨hs.task, hs.tasks⟩⟩
  cases e with
  | connect => exact (he rfl).elim
  | tick now =>
    simp only [Gateway.onEvent] at h
    split_ifs at h
    cases h
    exact ⟨⟨fun _ => rfl, fun _ _ h => h, fun _ => rfl, fun _ _ h => Or.inl h, [], by simp,
      List.forall_mem_nil _⟩, List.forall_mem_nil _⟩
  | message c parsed =>
    obtain ⟨-, -, -, -, ⟨rfl, rfl, -⟩ | ⟨r, session, -, -, -, hg', hnew⟩⟩ := receive_cases h
    · exact ⟨.refl _, List.forall_mem_nil _⟩
    · exact hstretch (onMessage_speaks hT c r session parsed) hg'.symm hnew.symm
  | binary c payload =>
    obtain ⟨-, -, -, -, ⟨rfl, rfl, -⟩ | ⟨r, session, -, -, -, hg', hnew⟩⟩ := receive_cases h
    · exact ⟨.refl _, List.forall_mem_nil _⟩
    · exact hstretch (onBinary_speaks hT c r session payload) hg'.symm hnew.symm
  | pong c =>
    simp only [Gateway.onEvent] at h
    split at h
    · cases h
    · split_ifs at h
      cases h
      exact ⟨Connections.Kept.speaks (.updateClient fun _ _ => rfl), List.forall_mem_nil _⟩
  | closing c =>
    simp only [Gateway.onEvent] at h
    split_ifs at h
    cases h
    exact ⟨(Connections.Kept.closeSocket _ c).speaks, List.forall_mem_nil _⟩
  | close c =>
    simp only [Gateway.onEvent] at h
    split at h
    · cases h
    · split_ifs at h
      cases h
      exact ⟨close_speaks .., List.forall_mem_nil _⟩
  | suspendTimer i =>
    simp only [Gateway.onEvent] at h
    split at h
    · cases h
    · split_ifs at h
      cases h
      have hdeleted : g.Speaks T { g with
          conn := { g.conn with timers := g.conn.timers.delete i } } := speaks_of_eq rfl rfl
      exact ⟨hdeleted.trans (suspendTimer_speaks ..), List.forall_mem_nil _⟩
  | expiryTimer eventId =>
    simp only [Gateway.onEvent] at h
    split at h
    · cases h
    · split_ifs at h
      cases h
      exact ⟨speaks_setStore .., List.forall_mem_nil _⟩
  | cleanup =>
    cases h
    exact ⟨speaks_setStore .., List.forall_mem_nil _⟩
  | heartbeat =>
    cases h
    exact ⟨heartbeat_speaks g, List.forall_mem_nil _⟩
  | retry jitter =>
    cases h
    exact ⟨retry_speaks g jitter, List.forall_mem_nil _⟩

/-- Every answer but an authentication that succeeds, if the computation asks for what meets the
    terms, the events that are answered meet them, and so do the grants that are made of these. -/
theorem onAnswer_speaks {t t' : Task} {a : GatewayAnswer} {new : List Task} (hT : T.Meets cfg g)
    (ht : t.Asks T)
    (hloaded : ∀ label lastUpdate events, t.queried = some (label, lastUpdate) →
      a = .events (.ok events) → T.loaded label events lastUpdate ∧ T.Makes g.conn label events)
    (h : g.onAnswer cfg t a = some (g', t', new)) :
    Stretch.Speaks T (g', t', new) g ∨ ∃ c auth, t = .authenticate c ∧
      a = .authenticated (.ok auth) ∧ g.connected c auth = (g', t', new) := by
  have hspeaks : ∀ {s : Stretch}, s.Speaks T g → some s = some (g', t', new) →
      Stretch.Speaks T (g', t', new) g := by
    intro s hs h
    cases h
    exact hs
  unfold Gateway.onAnswer at h
  split at h
  · cases h
    exact Or.inl ⟨Connections.Kept.speaks (.updateClient fun _ _ => rfl), .of_none trivial rfl,
      List.forall_mem_nil _⟩
  · exact Or.inl (hspeaks (failConnection_speaks ..) h)
  · exact Or.inr ⟨_, _, rfl, rfl, Option.some.inj h⟩
  · exact Or.inl (hspeaks (failConnection_speaks ..) h)
  · cases h
    exact Or.inl ⟨(speaks_log g snapshot_said).trans (ready_speaks ..), Task.done_meets _,
      List.forall_mem_nil _⟩
  · exact Or.inl (hspeaks (afterApi_speaks hT ht ..) h)
  · obtain ⟨hload, hmakes⟩ := hloaded _ _ _ rfl rfl
    exact Or.inl (hspeaks ((afterEvents_speaks (g.loadEvents _ _ _) ht _ hmakes).after
      (loadEvents_speaks g hload)) h)
  · exact Or.inl (hspeaks (finish_speaks_nil ..) h)
  · rename_i q ids
    cases h
    exact Or.inl ⟨finishQossing_speaks g ht ids, Task.done_meets _, List.forall_mem_nil _⟩
  · cases h
    exact Or.inl ⟨.refl g, Task.done_meets _, List.forall_mem_nil _⟩
  · obtain ⟨hload, hmakes⟩ := hloaded _ _ _ rfl rfl
    exact Or.inl (hspeaks ((afterBinaryEvents_speaks (g.loadEvents _ _ _) ht hmakes).after
      (loadEvents_speaks g hload)) h)
  · exact Or.inl (hspeaks (finish_speaks_nil ..) h)
  · cases h

end

end GatewayRealtime
