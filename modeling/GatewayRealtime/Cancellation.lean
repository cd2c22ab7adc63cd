/-
  The cancellation of a reservation (`events/json/absensi/cancel-reservasi.event.ts`).

  * `Connections.Shows`: the connected browsers of a tenant that show a product.
  * `Cancellation`: the handling of the message from the answer of the service on, with the
    stretch that finds the receivers and the one that answers the query of `qossing`.
  * `Cancellation.Announced`, `Silent`: what the browsers are to be told.
  * `cancellation_iff`: when they are told so.
-/
import GatewayRealtime.DispatchFailure

namespace GatewayRealtime

/-- The session is that of a connected browser of the tenant, in a role for the product. -/
structure Connections.Shows (k : Connections) (tenantId : String) (product : Option String)
    (b : SessionRef) : Prop where
  member : k.Member TypeEnduser.isBrowser tenantId b
  active : k.isActive b = true
  role : (k.principal b).map (fun p => p.asBrowser.map (·.role_product)) = some product

/-- The session that is sent a frame. -/
def Effect.receiver? : Effect → Option SessionRef
  | .send _ r _ _ => some r
  | _ => none

/-- The handling of a cancellation once the service has answered: the message of the device, the
    answer, and the events of the product, known in the state `g`; and the ids of the browsers,
    known in the state `g'`. -/
structure Cancellation where
  g : Gateway
  m : Message
  modified : JsObj
  events : List Events
  g' : Gateway
  ids : List ℕ

namespace Cancellation

variable (cfg : GatewayConfig) (c : Cancellation)

/-- The stretch that finds the receivers, tells the device and starts `qossing`. -/
def first : Stretch := c.g.afterEvents cfg c.m c.modified c.events

/-- The gateway once the query that this stretch has started is answered. -/
def last : Gateway :=
  (c.first cfg).2.2.foldl (fun g t => match t with
    | .targets q => (g.finishQossing cfg q c.ids).1
    | _ => g) c.g'

/-- The call of `qossing` for the browsers. -/
def broadcast : Qossing := ⟨c.m.handler, c.m.session, [], c.modified, none⟩

/-- `isSuccess` of the answer. -/
def isSuccess (b : Bool) : Prop := OMap.find "isSuccess" c.modified = some (.bool b)

/-- Between `g` and `g'`, the session was sent a frame of the dispatch. -/
def SentTo (g g' : Gateway) (b : SessionRef) : Prop :=
  ∃ client frame grant, Effect.send client b frame (.dispatch c.m.session grant) ∈
    g'.trace.drop g.trace.length

/-- All browsers of the tenant that show the product, and stay connected, are sent the answer, and
    for everyone else it is stored. -/
structure Announced (tenantId : String) : Prop where
  sent : ∀ b, c.g.conn.Shows tenantId c.m.handler.productName b → c.g'.conn.isActive b = true →
    c.SentTo c.g' (c.last cfg) b
  stored : ∀ u ∈ c.ids, (¬ ∃ b, c.g.conn.Shows tenantId c.m.handler.productName b ∧
    c.g'.conn.OnlineAs u b) → c.g'.StoredFor cfg (c.last cfg) c.broadcast u

/-- No browser is sent the answer, and it is stored for nobody. -/
structure Silent : Prop where
  sent : ∀ (b : SessionRef) (s : WsSession), c.g.conn.heap[b]? = some s →
    s.type.isBrowser = true → ¬ c.SentTo c.g (c.first cfg).1 b ∧ ¬ c.SentTo c.g' (c.last cfg) b
  store : (c.first cfg).1.store = c.g.store
  stored : ∀ u, ¬ c.g'.StoredFor cfg (c.last cfg) c.broadcast u

/-- **Cancelled reservations reach the browsers, failed ones do not.** -/
structure Told (tenantId : String) : Prop where
  success : c.isSuccess true → c.Announced cfg tenantId
  failure : c.isSuccess false → c.Silent cfg

/-- There is somebody to store the answer for, the session of the device has a socket still when
    it is told, and users may have events. -/
def Stores : Prop :=
  c.ids ≠ [] ∧ c.g.conn.socket c.m.session ≠ none ∧ 0 < cfg.store.MAX_EVENTS_PER_USER

end Cancellation

section
variable {cfg : GatewayConfig} {t₀ : ℤ} {g g' : Gateway} {c : Cancellation} {m : Message}
  {modified : JsObj} {session : WsSession} {q : Qossing} {u : ℕ}

theorem Cancellation.SentTo.receiver {b : SessionRef} (h : c.SentTo g g' b) :
    b ∈ (g'.trace.drop g.trace.length).filterMap Effect.receiver? := by
  obtain ⟨client, frame, grant, he⟩ := h
  exact List.mem_filterMap.2 ⟨_, he, rfl⟩

/-! ## The first stretch -/

/-- The filter of the broadcast asks for the role of the sender, which a device has not. -/
theorem sideEffect_cancel (cfg : GatewayConfig) (modified : JsObj)
    (hside : m.handler.sideEffectEvent = .cancel) (hqos : m.handler.qos = .qos2)
    (hproduct : m.handler.productName ≠ none) (hs : g.conn.heap[m.session]? = some session)
    (hdevice : session.principal.asBrowser = none) (label : String) :
    g.sideEffect cfg m modified label =
      (g, [.targets ⟨m.handler, m.session, [], modified, none⟩]) := by
  have hprincipal : g.conn.principal m.session = some session.principal := by
    simp [Connections.principal, hs]
  have hnobody : g.conn.getBrowsersByTenant session.principal.clientId (fun b =>
      g.conn.isActive b && decide (session.principal.asBrowser.map (·.role_product) =
        m.handler.productName)) = [] := by
    unfold Connections.getBrowsersByTenant
    refine List.filter_eq_nil_iff.2 fun b _ => ?_
    simp [hdevice, hproduct.symm]
  simp only [Gateway.sideEffect, hside, hprincipal, hnobody, Gateway.startQossing, hqos]

/-- An error of a message is answered to its socket; nobody else hears of it, and nothing is
    stored. -/
theorem failMessage_reply (g : Gateway) (client : ClientRef) (f : Failure) :
    (g.failMessage client f).store = g.store ∧ ∃ rest, (g.failMessage client f).trace =
      g.trace ++ rest ∧ ∀ e ∈ rest, ∃ frame, e = .reply client frame := by
  have hreply : (g.handleError client f).store = g.store ∧ ∃ rest,
      (g.handleError client f).trace = g.trace ++ rest ∧
        ∀ e ∈ rest, ∃ frame, e = .reply client frame := by
    unfold Gateway.handleError
    split_ifs
    · exact ⟨rfl, _, rfl, by simp⟩
    · exact ⟨rfl, [], by simp, by simp⟩
  unfold Gateway.failMessage
  dsimp only
  split_ifs
  · exact hreply
  · exact hreply

/-- What the first stretch of a cancellation starts: the query for the browsers, if the device
    could be told. -/
theorem afterReceivers_cancel (cfg : GatewayConfig) (modified : JsObj)
    (hh : m.handler = CancelReservasiEvent) (hs : g.conn.heap[m.session]? = some session)
    (hdevice : session.principal.asBrowser = none) (grant : Option Grant) :
    (g.afterReceivers cfg m modified grant [m.session]).2.2 =
        (if g.conn.socket m.session = none then []
          else [.targets ⟨m.handler, m.session, [], modified, none⟩]) ∧
      (g.afterReceivers cfg m modified grant [m.session]).1.store = g.store ∧
      ∃ rest, (g.afterReceivers cfg m modified grant [m.session]).1.trace = g.trace ++ rest ∧
        ∀ r ∈ rest.filterMap Effect.receiver?, r = m.session := by
  have htype : m.handler.receiverType = .self := by rw [hh]; rfl
  have hside := fun (g : Gateway) (hs : g.conn.heap[m.session]? = some session) =>
    sideEffect_cancel cfg modified (by rw [hh]; rfl) (by rw [hh]; rfl)
      (by rw [hh]; simp [CancelReservasiEvent]) hs hdevice (m.handler.getEventMessage m.payload)
  cases hsocket : g.conn.socket m.session with
  | none =>
    have hdispatch : g.dispatch m modified grant [m.session] =
        (g.log [], .error (typeError "send"), []) := by
      simp [Gateway.dispatch, htype, Connections.sendAll, hsocket]
    simp only [Gateway.afterReceivers, hdispatch, Gateway.finish, if_true]
    rw [log_nil]
    obtain ⟨hstore, rest, htrace, hrest⟩ := failMessage_reply g m.client (typeError "send")
    refine ⟨trivial, hstore, rest, htrace, fun r hr => ?_⟩
    obtain ⟨e, he, hr⟩ := List.mem_filterMap.1 hr
    obtain ⟨_, rfl⟩ := hrest e he
    cases hr
  | some client =>
    have hdispatch : g.dispatch m modified grant [m.session] =
        (g.log (g.conn.send m.session (.json (eventMessage m.handler.labelEventToReceiver modified))
          (.dispatch m.session grant)), .ok (), []) := by
      simp [Gateway.dispatch, htype, Connections.sendAll, hsocket]
    simp only [Gateway.afterReceivers, hdispatch, hside (g.log _) hs, Gateway.finish]
    refine ⟨by simp, rfl, _, rfl, fun r hr => ?_⟩
    obtain ⟨e, he, hr⟩ := List.mem_filterMap.1 hr
    obtain ⟨_, -, -, rfl⟩ := mem_send_iff.1 he
    exact (Option.some.inj hr).symm

/-- A permitted device is the one receiver of its answer. -/
theorem afterEvents_cancel (cfg : GatewayConfig) (modified : JsObj) {events : List Events}
    (hh : m.handler = CancelReservasiEvent) (hs : g.conn.heap[m.session]? = some session)
    (htype : session.type = .device)
    (hpermitted : DeviceHelper.filterEvents session.principal CancelReservasiEvent.labelEvent
      events ≠ []) : ∃ grant,
    g.afterEvents cfg m modified events = g.afterReceivers cfg m modified grant [m.session] := by
  have hprincipal : g.conn.principal m.session = some session.principal := by
    simp [Connections.principal, hs]
  have hlabel : m.handler.getEventMessage m.payload = CancelReservasiEvent.labelEvent := by
    rw [hh]; rfl
  have hself : m.handler.receiverType = .self := by rw [hh]; rfl
  obtain ⟨e, allowed, hallowed⟩ := List.exists_cons_of_ne_nil hpermitted
  refine ⟨some ⟨.default, e :: allowed⟩, ?_⟩
  have hfilter : g.conn.filterReceivers ⟨.default, e :: allowed⟩ [m.session] = [m.session] := by
    simp [Connections.filterReceivers, hprincipal, Grant.accepts, EventHelper.accepts]
  simp only [Gateway.afterEvents, hs, htype, getHelper, EventHelper.filterEvents, hlabel, hallowed,
    hself, Connections.getActiveScoketsByType, hfilter]

/-! ## The second stretch -/

/-- What `qossing` does with an event of quality 2 that goes to no session: it is stored for all
    targets. -/
theorem finishQossing_nobody (hworld : EventStore.WorldInv ⟨g.store, g.clock, g.issued cfg⟩)
    (hh : q.handler ∈ WS_EVENT_JSON_CLASSES) (hqos : q.handler.qos = .qos2)
    (hnobody : q.receivers = []) (ids : List ℕ) :
    (∀ e ∈ (g.finishQossing cfg q ids).1.trace.drop g.trace.length, ¬ e.IsDispatch) ∧
      ∀ u, g.StoredFor cfg (g.finishQossing cfg q ids).1 q u ↔
        u ∈ ids ∧ 0 < cfg.store.MAX_EVENTS_PER_USER := by
  have honline : Gateway.onlineIds g.conn q = [] := by simp [Gateway.onlineIds, hnobody]
  have hoffline : Gateway.offlineIds g.conn q ids = ids := by
    simp [Gateway.offlineIds, honline]
  simp only [Gateway.finishQossing, hqos, hnobody, honline, hoffline, List.nil_append]
  split_ifs with hids
  · subst hids
    refine ⟨by simp, fun u => iff_of_false (not_storedFor_of_store_eq hworld rfl) ?_⟩
    simp
  · obtain ⟨options, hoptions⟩ : ∃ options : CreateOptions, options =
        { senderId := g.conn.sessionId q.sender, notifySender := some q.handler.notifySender,
          ttl := some q.handler.ttl, senderEventName := some q.handler.labelEvent } := ⟨_, rfl⟩
    rw [← hoptions]
    obtain ⟨rest, htrace, hrest⟩ := createEvent_trace cfg g ids q.handler.labelEventToReceiver
      q.payload .qos2 options q.sender q.grant
    have httl : ∀ t, options.ttl = some t → 0 ≤ t := by
      intro t ht
      rw [hoptions] at ht
      cases ht
      exact ttl_nonneg hh
    have hstored : ∀ u, g.StoredFor cfg ((g.log []).createEvent cfg ids
        q.handler.labelEventToReceiver q.payload .qos2 options q.sender q.grant) q u ↔
          u ∈ ids ∧ 0 < cfg.store.MAX_EVENTS_PER_USER :=
      fun u => storedFor_createEvent_iff hworld httl
    simp only [Connections.sendAll, List.foldl_nil, log_nil, setStore_self] at hstored ⊢
    refine ⟨fun e he => hrest e ?_, hstored⟩
    rwa [htrace, List.drop_left] at he

/-! ## What the browsers are told -/

/-- What becomes of a cancellation: nobody but the device is sent anything, and the answer is
    stored for the browsers iff it can be. -/
structure Cancellation.Outcome (cfg : GatewayConfig) (c : Cancellation) : Prop where
  store : (c.first cfg).1.store = c.g.store
  first : ∀ b, c.SentTo c.g (c.first cfg).1 b → b = c.m.session
  last : ∀ b, ¬ c.SentTo c.g' (c.last cfg) b
  stored : ∀ u, c.g'.StoredFor cfg (c.last cfg) c.broadcast u ↔
    u ∈ c.ids ∧ c.g.conn.socket c.m.session ≠ none ∧ 0 < cfg.store.MAX_EVENTS_PER_USER

/-- A cancellation by a permitted device. -/
theorem cancellation_outcome
    (hworld : EventStore.WorldInv ⟨c.g'.store, c.g'.clock, c.g'.issued cfg⟩)
    (hh : c.m.handler = CancelReservasiEvent) (hs : c.g.conn.heap[c.m.session]? = some session)
    (htype : session.type = .device) (hdevice : session.principal.asBrowser = none)
    (hpermitted : DeviceHelper.filterEvents session.principal CancelReservasiEvent.labelEvent
      c.events ≠ []) : c.Outcome cfg := by
  obtain ⟨grant, hfirst⟩ := afterEvents_cancel cfg c.modified hh hs htype hpermitted
  obtain ⟨htasks, hstore, rest, htrace, hrest⟩ :=
    afterReceivers_cancel cfg c.modified hh hs hdevice grant
  rw [← hfirst] at htasks hstore htrace
  have hsent : ∀ b, c.SentTo c.g (c.first cfg).1 b → b = c.m.session := by
    intro b hb
    have hreceiver := hb.receiver
    rw [Cancellation.first, htrace, List.drop_left] at hreceiver
    exact hrest b hreceiver
  cases hsocket : c.g.conn.socket c.m.session with
  | none =>
    -- the device could not be told, and nothing was started
    have hlast : c.last cfg = c.g' := by
      rw [Cancellation.last, Cancellation.first, htasks, if_pos hsocket]
      rfl
    refine ⟨hstore, hsent, ?_, fun u => ?_⟩
    · rintro b ⟨client, frame, grant', he⟩
      simp [hlast] at he
    · refine iff_of_false (not_storedFor_of_store_eq hworld (by rw [hlast])) fun h => ?_
      exact h.2.1 hsocket
  | some client =>
    have hlast : c.last cfg = (c.g'.finishQossing cfg c.broadcast c.ids).1 := by
      rw [Cancellation.last, Cancellation.first, htasks, if_neg (by simp [hsocket])]
      rfl
    have hlisted : CancelReservasiEvent ∈ WS_EVENT_JSON_CLASSES := by
      simp [WS_EVENT_JSON_CLASSES]
    obtain ⟨hsilent, hstored⟩ := finishQossing_nobody (q := c.broadcast) hworld
      (by rw [Cancellation.broadcast, hh]; exact hlisted)
      (by rw [Cancellation.broadcast, hh]; rfl) rfl c.ids
    refine ⟨hstore, hsent, ?_, fun u => ?_⟩
    · rintro b ⟨client, frame, grant', he⟩
      rw [hlast] at he
      exact hsilent _ he trivial
    · rw [hlast, hstored, hsocket]
      simp

theorem Cancellation.Outcome.announced_iff (ho : c.Outcome cfg) (tenantId : String) :
    c.Announced cfg tenantId ↔
      (∀ b, c.g.conn.Shows tenantId c.m.handler.productName b → c.g'.conn.isActive b = false) ∧
        (c.ids = [] ∨ c.Stores cfg) := by
  constructor
  · intro h
    have hnobody : ∀ b, c.g.conn.Shows tenantId c.m.handler.productName b →
        c.g'.conn.isActive b = false := by
      intro b hb
      by_contra hactive
      exact ho.last b (h.sent b hb (by simpa using hactive))
    refine ⟨hnobody, or_iff_not_imp_left.2 fun hids => ?_⟩
    obtain ⟨u, hu⟩ := List.exists_mem_of_ne_nil _ hids
    have hstored := h.stored u hu fun ⟨b, hb, honline⟩ => by
      have hactive := honline.1
      rw [hnobody b hb] at hactive
      cases hactive
    exact ⟨hids, ((ho.stored u).1 hstored).2⟩
  · rintro ⟨hnobody, hids⟩
    refine ⟨fun b hb hactive => ?_, fun u hu _ => ?_⟩
    · rw [hnobody b hb] at hactive
      cases hactive
    · rcases hids with hids | hstores
      · rw [hids] at hu
        cases hu
      · exact (ho.stored u).2 ⟨hu, hstores.2⟩

theorem Cancellation.Outcome.silent_iff (ho : c.Outcome cfg)
    (hs : c.g.conn.heap[c.m.session]? = some session) (htype : session.type = .device) :
    c.Silent cfg ↔ ¬ c.Stores cfg := by
  constructor
  · rintro h ⟨hids, hstores⟩
    obtain ⟨u, hu⟩ := List.exists_mem_of_ne_nil _ hids
    exact h.stored u ((ho.stored u).2 ⟨hu, hstores⟩)
  · intro hnot
    refine ⟨fun b s hb hbrowser => ⟨fun hsent => ?_, ho.last b⟩, ho.store, fun u hu => ?_⟩
    · -- the device is no browser
      rw [ho.first b hsent, hs] at hb
      cases hb
      rw [htype] at hbrowser
      cases hbrowser
    · obtain ⟨hu, hstores⟩ := (ho.stored u).1 hu
      exact hnot ⟨List.ne_nil_of_mem hu, hstores⟩

/-- **When the browsers are told of cancellations.**  Of a success, iff nobody is there to be told
    at once, and the answer can be stored for those who are not; nothing of a failure, iff the
    answer cannot be stored. -/
theorem cancellation_iff {acts acts' : List (Act GatewayEvent GatewayAnswer)}
    {p p' : Pool Gateway Task}
    (h : Run (gatewayProgram cfg).step anyStep (Gateway.start t₀) acts p)
    (hg : c.g.conn = p.shared.conn)
    (h' : Run (gatewayProgram cfg).step anyStep (Gateway.start t₀) acts' p')
    (hg' : c.g' = p'.shared) (hh : c.m.handler = CancelReservasiEvent)
    (hs : c.g.conn.heap[c.m.session]? = some session) (htype : session.type = .device)
    (hpermitted : DeviceHelper.filterEvents session.principal CancelReservasiEvent.labelEvent
      c.events ≠ []) :
    c.Told cfg session.principal.clientId ↔
      (c.isSuccess true →
        (∀ b, c.g.conn.Shows session.principal.clientId c.m.handler.productName b →
          c.g'.conn.isActive b = false) ∧ (c.ids = [] ∨ c.Stores cfg)) ∧
      (c.isSuccess false → ¬ c.Stores cfg) := by
  have hworld : EventStore.WorldInv ⟨c.g'.store, c.g'.clock, c.g'.issued cfg⟩ := by
    rw [hg']
    exact (consistent_run h').1.storeRun.worldInv
  have hdevice : session.principal.asBrowser = none := by
    have hprincipal := (hg ▸ (consistent_run h).1.conn).issued _ _ hs
    rw [htype] at hprincipal
    cases hp : session.principal with
    | browser user => rw [hp] at hprincipal; cases hprincipal
    | device user => rfl
  have ho := cancellation_outcome hworld hh hs htype hdevice hpermitted
  rw [← ho.announced_iff, ← ho.silent_iff hs htype]
  exact ⟨fun h => ⟨h.success, h.failure⟩, fun h => ⟨h.1, h.2⟩⟩

end

/-! ## The cancellation at a device -/

/-- The device and a browser connect, the device cancels a reservation, and the service answers. -/
def cancels (isSuccess : Bool) : List (Act GatewayEvent GatewayAnswer) :=
  enters 0 reader ++ enters 1 (watcher 11 [10]) ++
    [.event (.message 0 (some (.obj [text "event" "cancel-reservasi",
        ("data", .obj [text "id" "5", text "uid" "04A1"])]))),
      .resume 2 (.api (.response (.obj [("isSuccess", .bool isSuccess)]) []))]

/-- The events of the product are known, and the device is told. -/
def cancelled (isSuccess : Bool) : List (Act GatewayEvent GatewayAnswer) :=
  cancels isSuccess ++ [.resume 2 (.events (.ok [⟨10, "cancel-reservasi", 3⟩]))]

/-- The cancellation of these runs. -/
def cancelsAt (isSuccess : Bool) : Cancellation where
  g := (reach (cancels isSuccess)).shared.loadEvents "cancel-reservasi"
    [⟨10, "cancel-reservasi", 3⟩] 0
  m :=
    { client := 0
      session := 0
      handler := CancelReservasiEvent
      payload := some (.obj [text "id" "5", text "uid" "04A1"]) }
  modified := [("isSuccess", .bool isSuccess)]
  events := [⟨10, "cancel-reservasi", 3⟩]
  g' := (reach (cancelled isSuccess)).shared
  ids := [11]

theorem cancellation_iff_cancels :
    (cancelsAt true).Told .defaults "shop" ↔
      ((cancelsAt true).isSuccess true →
        (∀ b, (cancelsAt true).g.conn.Shows "shop" (some "absensi") b →
          (cancelsAt true).g'.conn.isActive b = false) ∧
        ((cancelsAt true).ids = [] ∨ (cancelsAt true).Stores .defaults)) ∧
      ((cancelsAt true).isSuccess false → ¬ (cancelsAt true).Stores .defaults) := by
  have hrun : Run (gatewayProgram .defaults).step anyStep (Gateway.start 0) (cancels true)
      (reach (cancels true)) := run_reach rfl
  have hrun' : Run (gatewayProgram .defaults).step anyStep (Gateway.start 0) (cancelled true)
      (reach (cancelled true)) := run_reach rfl
  exact cancellation_iff (c := cancelsAt true) hrun rfl hrun' rfl rfl
    (show _ = some ⟨7, reader.auth, .device, none, .ONLINE, some 0, none⟩ from rfl) rfl (by decide)

/-- The reservation has been cancelled, and a browser of the tenant, in a role for the product, is
    connected all the time; it is not sent the answer. -/
theorem cancels_unseen : ∃ p p' p'',
    Run (gatewayProgram .defaults).step anyStep (Gateway.start 0) (cancels true) p ∧
      (gatewayProgram .defaults).step p
        (.resume 2 (.events (.ok (cancelsAt true).events))) = some p' ∧
      (gatewayProgram .defaults).step p' (.resume 3 (.targets (.ok [11]))) = some p'' ∧
      (cancelsAt true).isSuccess true ∧
      p.shared.conn.Shows "shop" (some "absensi") 1 ∧ p'.shared.conn.isActive 1 = true ∧
      ¬ (cancelsAt true).SentTo p.shared p''.shared 1 ∧
      ¬ (cancelsAt true).Told .defaults "shop" := by
  have hshows : (reach (cancels true)).shared.conn.Shows "shop" (some "absensi") 1 :=
    ⟨⟨_, rfl, rfl, rfl, rfl⟩, rfl, rfl⟩
  have hreceivers : ((reach (cancelled true ++
      [.resume 3 (.targets (.ok [11]))])).shared.trace.drop
        (reach (cancels true)).shared.trace.length).filterMap Effect.receiver? = [0] := by
    decide +kernel
  have hlast : (((cancelsAt true).last .defaults).trace.drop
      (cancelsAt true).g'.trace.length).filterMap Effect.receiver? = [] := by
    decide +kernel
  have hfirst : (gatewayProgram .defaults).step (reach (cancels true))
      (.resume 2 (.events (.ok (cancelsAt true).events))) = some (reach (cancelled true)) :=
    step_reach rfl
  have hsecond : (gatewayProgram .defaults).step (reach (cancelled true))
      (.resume 3 (.targets (.ok [11]))) =
        some (reach (cancelled true ++ [.resume 3 (.targets (.ok [11]))])) :=
    step_reach rfl
  refine ⟨_, _, _, run_reach rfl, hfirst, hsecond, rfl, hshows, rfl, fun hsent => ?_, fun h => ?_⟩
  · have hmem := hsent.receiver
    rw [hreceivers] at hmem
    cases List.mem_singleton.1 hmem
  · have hmem := ((h.success rfl).sent 1 hshows rfl).receiver
    rw [hlast] at hmem
    cases hmem

end GatewayRealtime
