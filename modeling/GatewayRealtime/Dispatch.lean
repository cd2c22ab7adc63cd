/-
  Messages (`services/websocket-message.service.ts`, `events/base-ws.event.ts`,
  `events/json/base-ws-json.event.ts`, `events/binner/base-ws-binnery.event.ts`).

  The code of a message runs in stretches, from one database query or service call to the next.

  * `Task`: a computation where it is suspended.
  * `Stretch`: what a stretch leaves: the gateway, where the computation stands, and the
    computations that it starts.
  * `onMessage`, `execute`, `executeBase`, `afterApi`, `getReceivers`, `afterEvents`,
    `afterReceivers`: a JSON message, stretch by stretch.
  * `startQossing`, `finishQossing`: `qossing`, whose promise `dispatch` does not await.
  * `onBinary`, `afterBinaryEvents`: a binary message.
-/
import GatewayRealtime.Gateway

namespace GatewayRealtime

/-! ## Computations -/

/-- A JSON message: its socket, the session of that socket, its handler and its payload. -/
structure Message where
  client : ClientRef
  session : SessionRef
  handler : WsEventJSON
  payload : Option JsVal

/-- A binary message. -/
structure BinaryMessage where
  client : ClientRef
  session : SessionRef
  handler : WsEventBinner
  payload : List UInt8

/-- A call of `qossing`, with the grant under which its receivers were filtered. -/
structure Qossing where
  handler : WsEventJSON
  sender : SessionRef
  receivers : List SessionRef
  payload : JsObj
  grant : Option Grant

/-- A computation and what it waits for. -/
inductive Task
  /-- `handleConnection`, for the rate limit -/
  | rateLimit (client : ClientRef)
  /-- `handleConnection`, for the authentication -/
  | authenticate (client : ClientRef)
  /-- `afterConnect` of a browser, for the devices of the tenant -/
  | snapshot (client : ClientRef) (session : SessionRef)
  /-- `modifiedPayload`, for the answer of the service -/
  | api (m : Message) (notification : Option String)
  /-- `getEventsProduct`, since `lastUpdate` -/
  | events (m : Message) (modified : JsObj) (lastUpdate : ℤ)
  /-- `qossing`, for the ids of the targets -/
  | targets (q : Qossing)
  /-- `getEventsProduct` of a binary message -/
  | binaryEvents (m : BinaryMessage) (lastUpdate : ℤ)
  | done (result : Except Failure Unit)

/-- The outcome of a stretch: the gateway, the computation, and the computations it started. -/
abbrev Stretch := Gateway × Task × List Task

def TypeEnduser.name : TypeEnduser → String
  | .browser => "browser"
  | .device => "device"
  | .self => "self"
  | .desktop => "desktop"
  | .server => "server"

/-- `session.principal`. -/
def Connections.principal (k : Connections) (r : SessionRef) : Option EndUser :=
  k.heap[r]?.map (·.principal)

/-- `filterReceivers` of the helper of a grant. -/
def Connections.filterReceivers (k : Connections) (grant : Grant) (receivers : List SessionRef) :
    List SessionRef :=
  receivers.filter fun r => (k.principal r).any grant.accepts

namespace Gateway

variable (cfg : GatewayConfig) (g : Gateway)

/-- The end of the handling of a message. -/
def finish (client : ClientRef) (tasks : List Task) : Except Failure Unit → Stretch
  | .ok () => (g, .done (.ok ()), tasks)
  | .error f => (g.failMessage client f, .done (.error f), tasks)

/-! ## Quality of service -/

/-- `qossing` up to its query. -/
def startQossing (q : Qossing) (receiverType : TypeEnduser) : Gateway × Task :=
  match q.handler.qos with
  | .qos0 =>
    let s := g.conn.sendAll (.json (eventMessage q.handler.labelEventToReceiver q.payload))
      (.dispatch q.sender q.grant) q.receivers
    (g.log s.1, .done s.2)
  | .qos1 | .qos2 =>
    match receiverType with
    | .browser | .device => (g, .targets q)
    | type =>
      (g, .done (.error (.ws "UNSUPPORTED_AUTH_TYPE"
        ("Auth type " ++ type.name ++ " is not supported"))))

/-- `onlineIds` of `getAllReceiversIds`. -/
def onlineIds (k : Connections) (q : Qossing) : List ℕ :=
  (q.receivers.filter k.isActive).filterMap k.sessionId

/-- `offlineIds` of `getAllReceiversIds`. -/
def offlineIds (k : Connections) (q : Qossing) (allTargetIds : List ℕ) : List ℕ :=
  allTargetIds.filter fun id => id ∉ onlineIds k q

/-- `qossing` after its query. -/
def finishQossing (q : Qossing) (allTargetIds : List ℕ) : Gateway × Except Failure Unit :=
  let h := q.handler
  let online := onlineIds g.conn q
  let offline := offlineIds g.conn q allTargetIds
  let origin := Origin.dispatch q.sender q.grant
  match h.qos with
  | .qos0 => (g, .ok ())
  | .qos1 =>
    let s := g.conn.sendAll (.json (eventMessage h.labelEventToReceiver q.payload)) origin
      q.receivers
    let g := g.log s.1
    match s.2 with
    | .error f => (g, .error f)
    | .ok () =>
      if offline = [] then (g, .ok ())
      else
        (g.createEvent cfg offline h.labelEventToReceiver q.payload .qos1
          { ttl := some h.ttl, senderEventName := some h.labelEvent } q.sender q.grant, .ok ())
  | .qos2 =>
    let allTargets := online ++ offline
    if allTargets = [] then (g, .ok ())
    else
      let eventId := cfg.randomUUID g.generated
      let g := g.createEvent cfg allTargets h.labelEventToReceiver q.payload .qos2
        { senderId := g.conn.sessionId q.sender, notifySender := some h.notifySender,
          ttl := some h.ttl, senderEventName := some h.labelEvent } q.sender q.grant
      let s := g.conn.sendAll (.json (eventMessageMeta h.labelEventToReceiver q.payload eventId))
        origin q.receivers
      let g := g.log s.1
      match s.2 with
      | .error f => (g, .error f)
      | .ok () =>
        (g.setStore (online.foldl (fun store uid => store.markDelivered uid eventId g.clock)
          g.store), .ok ())

/-! ## Side effects -/

/-- `EventAcknowledgmentEvent.sideEffectEvent`: the sender of the event is told.  `deliveredTo`
    is always read as a role, since the test of the type is always true. -/
def acknowledge (r : SessionRef) (payload : Option JsVal) : Gateway :=
  match g.conn.heap[r]? with
  | none => g
  | some session =>
    let eventId := payloadText payload "eventId"
    let record := g.store.getEvent eventId
    let g := g.setStore (g.store.markApplied session.sessionId eventId)
    match record with
    | none => g
    | some record =>
      match record.senderId with
      | none => g
      | some senderId =>
        if record.notifySender = true ∧ senderId ≠ 0 ∧ senderId ≠ session.sessionId then
          let notification : JsObj :=
            [text "originalEventId" record.eventId, text "originalEventName" record.eventName] ++
              optionalField "deliveredTo"
                (session.principal.asBrowser.map fun user => .str user.role) ++
              [("deliveredAt", .num g.clock)] ++
              optionalField "message" (payload.bind (·.field "message"))
          let senderSession := (g.conn.find senderId).filter g.conn.isActive
          match senderSession with
          | some s =>
            g.log (g.conn.send s (.json [text "event" "event:delivered",
              ("data", .obj notification)]) .notice)
          | none =>
            g.createEvent cfg [senderId] "event:delivered" notification .qos1
              { ttl := some 3600000 } r none
        else g

/-- `sideEffectEvent`. -/
def sideEffect (m : Message) (modified : JsObj) (label : String) : Gateway × List Task :=
  match m.handler.sideEffectEvent with
  | .base => (g, [])
  | .apply =>
    (g.log (g.conn.send m.session (.json (eventMessage (label ++ ":apply") modified))
      (.dispatch m.session none)), [])
  | .cancel =>
    match g.conn.principal m.session with
    | none => (g, [])
    | some principal =>
      let browserSessions := g.conn.getBrowsersByTenant principal.clientId fun b =>
        g.conn.isActive b &&
          decide (principal.asBrowser.map (·.role_product) = m.handler.productName)
      let s := g.startQossing ⟨m.handler, m.session, browserSessions, modified, none⟩ .browser
      (s.1, [s.2])
  | .acknowledge => (g.acknowledge cfg m.session m.payload, [])

/-! ## JSON messages -/

/-- `dispatch`: nobody awaits `qossing`, so its rejection is not seen here.  What the runtime
    makes of an unhandled rejection is left out. -/
def dispatch (m : Message) (modified : JsObj) (grant : Option Grant)
    (receivers : List SessionRef) : Gateway × Except Failure Unit × List Task :=
  match m.handler.receiverType with
  | .server | .self =>
    let s := g.conn.sendAll (.json (eventMessage m.handler.labelEventToReceiver modified))
      (.dispatch m.session grant) receivers
    (g.log s.1, s.2, [])
  | type =>
    let s := g.startQossing ⟨m.handler, m.session, receivers, modified, grant⟩ type
    (s.1, .ok (), [s.2])

/-- `executeBase` once the receivers are known. -/
def afterReceivers (m : Message) (modified : JsObj) (grant : Option Grant)
    (receivers : List SessionRef) : Stretch :=
  let d := g.dispatch m modified grant receivers
  match d.2.1 with
  | .error f => d.1.finish m.client d.2.2 (.error f)
  | .ok () =>
    let s := d.1.sideEffect cfg m modified (m.handler.getEventMessage m.payload)
    s.1.finish m.client (d.2.2 ++ s.2) (.ok ())

/-- The inherited `getReceivers` once the events of the product are known. -/
def afterEvents (m : Message) (modified : JsObj) (events : List Events) : Stretch :=
  match g.conn.heap[m.session]? with
  | none => g.finish m.client [] (.ok ())
  | some session =>
    let h := m.handler
    let receivers := g.conn.getActiveScoketsByType m.session session.principal h.receiverType
    match (getHelper session.type).filterEvents session.principal (h.getEventMessage m.payload)
        events with
    | .error f => g.finish m.client [] (.error f)
    | .ok [] => g.finish m.client [] (.error (.ws "FORBIDDEN_EVENT" "Akses event ditolak"))
    | .ok allowed =>
      let grant : Grant := ⟨getHelper h.receiverType, allowed⟩
      g.afterReceivers cfg m modified (some grant) (g.conn.filterReceivers grant receivers)

/-- `this.events`, if `getEventsProduct` does not query them again. -/
def cachedEvents (label : String) : Option (List Events) :=
  match g.caches.get? label with
  | some (events, lastUpdate) =>
    if cfg.EVENT_CACHE_TTL < g.clock - lastUpdate then none else some events
  | none => none

/-- `getReceivers` up to the query of the events. -/
def getReceivers (m : Message) (modified : JsObj) : Stretch :=
  match m.handler.getReceivers with
  | .base =>
    match g.cachedEvents cfg m.handler.labelEvent with
    | some events => g.afterEvents cfg m modified events
    | none => (g, .events m modified g.clock, [])
  | .byType =>
    match g.conn.principal m.session with
    | none => g.finish m.client [] (.ok ())
    | some principal =>
      g.afterReceivers cfg m modified none
        (g.conn.getActiveScoketsByType m.session principal m.handler.receiverType)
  | .empty => g.afterReceivers cfg m modified none []

/-- The events of a product have been queried. -/
def loadEvents (label : String) (events : List Events) (lastUpdate : ℤ) : Gateway :=
  { g with caches := g.caches.set label (events, lastUpdate) }

/-- `modifiedPayload` once the service has answered. -/
def afterApi (m : Message) (notification : Option String) (answer : ApiAnswer) : Stretch :=
  match WHResPipe answer with
  | .error f => g.finish m.client [] (.error f)
  | .ok result =>
    let emitted := match notification, g.conn.principal m.session, OMap.find "isSuccess" result with
      | some event, some principal, some (.bool true) =>
        [Effect.emit event principal.clientId (OMap.find "data" result)]
      | _, _, _ => []
    (g.log emitted).getReceivers cfg m result

/-- `executeBase` up to its first suspension. -/
def executeBase (m : Message) (principal : EndUser) : Stretch :=
  match m.handler.validateStructurePayload m.payload with
  | .error f => g.finish m.client [] (.error f)
  | .ok () =>
    if m.handler.validatePayload m.payload then
      match m.handler.plan principal m.payload with
      | .value modified => g.getReceivers cfg m modified
      | .throws f => g.finish m.client [] (.error f)
      | .call call notification => (g.log [.api call], .api m notification, [])
    else g.finish m.client [] (.error (.ws "EVENT_ERROR" "Payload Tidak tepat"))

/-- `validateAccess`, for a handler that may accept one type of sender only. -/
def validateAccess (type : Option TypeEnduser) (session : WsSession) : Except Failure Unit :=
  match type with
  | none => .ok ()
  | some t => if session.type = t then .ok ()
    else .error (.ws "UNAUTHENTICATED" "Akses event ditolak")

/-- `execute` up to its first suspension. -/
def execute (m : Message) (session : WsSession) : Stretch :=
  match validateAccess m.handler.type session with
  | .error f => g.finish m.client [] (.error f)
  | .ok () => g.executeBase cfg m session.principal

/-- `onMessage`.  `parsed` is what `JSON.parse` makes of the text, if it is JSON. -/
def onMessage (client : ClientRef) (r : SessionRef) (session : WsSession)
    (parsed : Option JsVal) : Stretch :=
  match parsed with
  | none => g.finish client [] (.error (.ws "INVALID_JSON" "Payload must be JSON"))
  | some .null =>
    g.finish client [] (.error (.internal
      "Cannot destructure property 'event' of 'parsed' as it is null."))
  | some v =>
    match v.strField "event" with
    | none => g.finish client [] (.error (.ws "INVALID_EVENT" "Event is required"))
    | some event =>
      match WS_EVENT_JSON_CLASSES.find? fun h => h.labelEvent = event with
      | none => g.finish client [] (.error (.ws "INVALID_EVENT" ("Unknown event " ++ event)))
      | some handler => g.execute cfg ⟨client, r, handler, v.field "data"⟩ session

/-! ## Binary messages -/

/-- `executeBase` of a binary message once the events of the product are known. -/
def afterBinaryEvents (m : BinaryMessage) (events : List Events) : Stretch :=
  match g.conn.heap[m.session]? with
  | none => g.finish m.client [] (.ok ())
  | some session =>
    let h := m.handler
    let receivers := g.conn.getActiveScoketsByType m.session session.principal h.receiverType
    match (getHelper session.type).filterEvents session.principal h.labelEvent events with
    | .error f => g.finish m.client [] (.error f)
    | .ok [] => g.finish m.client [] (.error (.ws "FORBIDDEN_EVENT" "Akses event ditolak"))
    | .ok allowed =>
      let grant : Grant := ⟨getHelper h.receiverType, allowed⟩
      match h.modifiedPayload session.principal m.payload with
      | .error f => g.finish m.client [] (.error f)
      | .ok bytes =>
        let s := g.conn.sendAll (.binary bytes) (.dispatch m.session (some grant))
          (g.conn.filterReceivers grant receivers)
        (g.log s.1).finish m.client [] s.2

/-- `execute` of a binary message up to the query of the events. -/
def executeBinary (m : BinaryMessage) (session : WsSession) : Stretch :=
  match validateAccess (some m.handler.type) session with
  | .error f => g.finish m.client [] (.error f)
  | .ok () =>
    if m.payload = [] then g.finish m.client [] (.error (.ws "INVALID_BINARY" "Empty buffer"))
    else
      match g.cachedEvents cfg m.handler.labelEvent with
      | some events => g.afterBinaryEvents m events
      | none => (g, .binaryEvents m g.clock, [])

/-- `onBinary`. -/
def onBinary (client : ClientRef) (r : SessionRef) (session : WsSession)
    (payload : List UInt8) : Stretch :=
  let product : Option (Option String) := match session.type with
    | .browser => some (session.principal.asBrowser.map (·.role_product))
    | .device => some (session.principal.asDevice.map (·.device_product))
    | _ => none
  match product with
  | none =>
    g.finish client [] (.error (.ws "INVALID_TYPE" "Cannot determine product for binary event"))
  | some product =>
    match WS_EVENT_BINNER_CLASSES.find? fun h => some h.productName = product with
    | none => g.finish client [] (.error (.ws "INVALID_PRODUCT" "Binary not supported"))
    | some handler => g.executeBinary cfg ⟨client, r, handler, payload⟩ session

end Gateway

end GatewayRealtime
