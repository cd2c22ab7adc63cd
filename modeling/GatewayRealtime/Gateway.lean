/-
  The gateway and the lifecycle of its connections (`websocket.gateway.ts`, `lifesycles/`).

  * `Effect`: what the outside sees of the gateway, with the reason of every frame.
  * `Gateway`: the connections, the event store, the clock, the event caches and the trace.
  * `Connections.send`, `sendAll`, `presence`: the frames of a stretch of code, computed from
    the connections alone.
  * `deliverPending`, `onConnect`, `onDisconnect`, `suspendTimer`: the lifecycle of a session.
  * `handleEventExpired`, `retryPendingEvents`, `heartbeat`: the timers that send.

  `send` on a socket that is not open does nothing.  `lastSeen` and `createdAt` of a session are
  left out, since nothing reads them.
-/
import GatewayRealtime.Delivery
import GatewayRealtime.Handlers
import GatewayRealtime.Session

namespace GatewayRealtime

/-! ## Effects -/

/-- What a sender was granted: the events that its helper let through, and the helper that
    filters the receivers. -/
structure Grant where
  receiver : EventHelper
  allowed : List Events
deriving DecidableEq

/-- Whether a user with this principal may receive what was granted. -/
def Grant.accepts (grant : Grant) (principal : EndUser) : Bool :=
  grant.receiver.accepts grant.allowed principal

/-- Why a frame is sent to a session: a dispatch of the sender's message, a stored event, the
    presence of a device, or a notice to the session itself. -/
inductive Origin
  | dispatch (sender : SessionRef) (grant : Option Grant)
  | stored (eventId : String)
  | presence (device : SessionRef)
  | notice
deriving DecidableEq

/-- A message on a socket. -/
inductive Frame
  | json (fields : JsObj)
  | binary (bytes : List UInt8)

/-- What happens outside of the gateway, and the events that a dispatch stores. -/
inductive Effect
  | api (call : ApiCall)
  | emit (event : String) (clientId : String) (data : Option JsVal)
  | send (client : ClientRef) (session : SessionRef) (frame : Frame) (origin : Origin)
  | reply (client : ClientRef) (frame : JsObj)
  | ping (client : ClientRef)
  | store (eventId : String) (targets : List ℕ) (sender : SessionRef) (grant : Option Grant)

/-! ## State -/

/-- The configuration, with the defaults of the code, and the source of event ids. -/
structure GatewayConfig where
  store : StoreConfig := {}
  WS_SESSION_SUSPEND_TIMEOUT : ℤ := 60000
  EVENT_CACHE_TTL : ℤ := 60000
  WS_MAX_MISSED_PONGS : ℕ := 2
  randomUUID : ℕ → String
  randomUUID_injective : Function.Injective randomUUID

/-- Event ids that are tallies. -/
def tally (n : ℕ) : String := String.ofList (List.replicate n 'e')

theorem tally_injective : Function.Injective tally := fun a b h => by
  simpa using congrArg List.length (String.ofList_injective h)

/-- The defaults of the code, with tallies as event ids. -/
def GatewayConfig.defaults : GatewayConfig :=
  { randomUUID := tally, randomUUID_injective := tally_injective }

/-- The gateway. -/
structure Gateway where
  conn : Connections := {}
  store : EventStore JsObj := {}
  clock : ℤ := 0
  /-- how many event ids have been generated -/
  generated : ℕ := 0
  /-- `events` and `lastUpdate` of the handlers, by their label -/
  caches : OMap String (List Events × ℤ) := .empty
  /-- everything that happened, oldest first -/
  trace : List Effect := []

/-- The effects of a stretch of code. -/
def Gateway.log (g : Gateway) (effects : List Effect) : Gateway :=
  { g with trace := g.trace ++ effects }

/-! ## Frames -/

def text (k v : String) : String × JsVal := (k, .str v)

/-- The value of a property that may be `undefined`, which `JSON.stringify` leaves out. -/
def optionalField (k : String) (v : Option JsVal) : JsObj := (v.map fun v => (k, v)).toList

/-- `message` of a failure. -/
def Failure.message : Failure → JsVal
  | .ws _ message => .str message
  | .invalid _ errors =>
    .arr (errors.map fun e => .obj [text "property" e.1, text "constraint" e.2])
  | .http message => .str message
  | .internal message => .str message

def TypeConnectionState.name : TypeConnectionState → String
  | .CONNECTING => "CONNECTING"
  | .ONLINE => "ONLINE"
  | .SUSPEND => "SUSPEND"
  | .REPLACE => "REPLACE"
  | .OFFLINE => "OFFLINE"

def RemoveReason.name : RemoveReason → String
  | .applied => "applied"
  | .expired => "expired"
  | .force => "force"

namespace Connections

variable (k : Connections)

/-- `session.socket?.send(frame)`. -/
def send (r : SessionRef) (frame : Frame) (origin : Origin) : List Effect :=
  match k.socket r with
  | some c => if k.isOpen c then [.send c r frame origin] else []
  | none => []

/-- `for (const r of receivers) r.socket!.send(frame)`. -/
def sendAll (frame : Frame) (origin : Origin) : List SessionRef → List Effect × Except Failure Unit
  | [] => ([], .ok ())
  | r :: rest =>
    match k.socket r with
    | none => ([], .error (typeError "send"))
    | some _ =>
      let t := sendAll frame origin rest
      (k.send r frame origin ++ t.1, t.2)

/-- `sessionId` of a session. -/
def sessionId (r : SessionRef) : Option ℕ := k.heap[r]?.map (·.sessionId)

/-! ## Presence of devices -/

/-- The frames about a device to the browsers of its tenant whose filter it passes. -/
def presence (r : SessionRef) (event : String) (withDeviceId : Bool) : List Effect :=
  match k.heap[r]? with
  | none => []
  | some session =>
    let device := session.principal.asDevice
    let data : JsObj :=
      optionalField "id" (device.map fun d => .num d.id_device) ++
        optionalField "deviceId"
          (if withDeviceId then device.map fun d => .str d.deviceId else none) ++
        [text "state" session.state.name]
    let browserSessions := k.getBrowsersByTenant session.principal.clientId fun b =>
      k.isActive b && match k.heap[b]? with
        | some browser =>
          decide (browser.product = none ∨ device.map (·.device_product) = browser.product)
        | none => false
    browserSessions.flatMap fun b =>
      k.send b (.json [text "event" event, ("data", .obj data)]) (.presence r)

/-- A device of the tenant's list, `DeviceInfo`. -/
structure DeviceInfo where
  id : ℕ
  deviceId : String
  product : String

/-- `deviceStates`: the states of the device sessions of a tenant that pass the filter. -/
def deviceStates (tenantId : String) (productFilter : Option String) :
    OMap ℕ TypeConnectionState :=
  let sessions := k.getDevicesByTenant tenantId fun r => match k.heap[r]? with
    | some s => decide (productFilter = none ∨
        s.principal.asDevice.map (·.device_product) = productFilter)
    | none => false
  sessions.foldl (fun states r => match k.heap[r]? with
    | some s => match s.principal.asDevice with
      | some device => states.set device.id_device s.state
      | none => states
    | none => states) .empty

/-- The frame `device-snapshot`. -/
def snapshot (r : SessionRef) (devices : Except Failure (List DeviceInfo)) : List Effect :=
  match k.heap[r]? with
  | none => []
  | some session =>
    let states := k.deviceStates session.principal.clientId session.product
    let deviceList : List JsVal := match devices with
      | .ok rows => rows.map fun device => .obj [("id", .num device.id),
          text "deviceId" device.deviceId, text "product" device.product,
          text "state" ((states.get? device.id).getD .OFFLINE).name]
      | .error _ => []
    k.send r (.json [text "event" "device-snapshot", ("data", .arr deviceList)]) .notice

/-! ## Feedback about expired events -/

/-- `handleEventExpired`. -/
def handleEventExpired (payload : EventExpired) : List Effect :=
  if payload.senderId = 0 then []
  else
    match k.find payload.senderId with
    | none => []
    | some r =>
      let eventName := match payload.senderEventName with
        | some name => if name = "" then payload.eventName else name
        | none => payload.eventName
      k.send r (.json [text "event" "event_expired", text "eventId" payload.eventId,
        text "eventName" eventName, text "reason" payload.reason.name]) .notice

/-! ## Retries -/

/-- The frame in which `EventRetryService` sends a record. -/
def retryMessage (record : EventRecord JsObj) : JsObj :=
  eventMessageMeta record.eventName record.payload record.eventId

/-- The records of one user in `retryPendingEvents`. -/
def retryUser (cfg : StoreConfig) (now : ℤ) (jitter : ℕ → String → ℚ)
    (acc : List Effect × EventStore JsObj) (userId : ℕ) : List Effect × EventStore JsObj :=
  match k.find userId with
  | none => acc
  | some r =>
    if k.isActive r then
      let toRetry := acc.2.getPendingWithRetry cfg userId now (jitter userId)
      (acc.1 ++ toRetry.flatMap (fun record =>
          k.send r (.json (retryMessage record)) (.stored record.eventId)),
        toRetry.foldl (fun s record => s.markSent userId record now) acc.2)
    else acc

/-- `retryPendingEvents`. -/
def retryPendingEvents (cfg : StoreConfig) (now : ℤ) (jitter : ℕ → String → ℚ)
    (s : EventStore JsObj) : List Effect × EventStore JsObj :=
  s.getAllUserIds.foldl (k.retryUser cfg now jitter) ([], s)

end Connections

/-- The types for which `resolve` gives a device or a browser lifecycle; the others have the
    default one, which does nothing. -/
def TypeEnduser.hasLifecycle : TypeEnduser → Bool
  | .device | .browser | .desktop => true
  | .self | .server => false

namespace Gateway

variable (cfg : GatewayConfig) (g : Gateway)

/-- The store after an operation, whose `event.expired` emissions are handled at once. -/
def setStore (store : EventStore JsObj) : Gateway :=
  { g with
    store := store
    trace := g.trace ++
      (store.emitted.drop g.store.emitted.length).flatMap g.conn.handleEventExpired }

/-- `eventStore.create`, for an event of the session `sender`, with a new id. -/
def createEvent (targetIds : List ℕ) (eventName : String) (payload : JsObj) (qos : QoS)
    (options : CreateOptions) (sender : SessionRef) (grant : Option Grant) : Gateway :=
  let eventId := cfg.randomUUID g.generated
  let g := g.log [.store eventId targetIds sender grant]
  let g := g.setStore
    (g.store.create cfg.store eventId targetIds eventName payload qos options g.clock)
  { g with generated := g.generated + 1 }

/-! ## Lifecycle -/

/-- `deliverPendingEvents`. -/
def deliverPending (r : SessionRef) : Gateway :=
  match g.conn.sessionId r with
  | none => g
  | some userId =>
    let d := deliverPendingEvents g.store userId g.clock fun _ => g.conn.isActive r
    let g' := g.log (d.1.flatMap fun record =>
      g.conn.send r (.json (pendingMessage record)) (.stored record.eventId))
    g'.setStore d.2

/-- The hooks of `DeviceLifecycle`; those of `BrowserLifecycle` are empty, `afterConnect` apart. -/
def presence (r : SessionRef) (event : String) (withDeviceId : Bool) : Gateway :=
  match g.conn.heap[r]? with
  | some session =>
    if session.type = .device then g.log (g.conn.presence r event withDeviceId) else g
  | none => g

/-- `_isResume` of the socket of a session. -/
def isResume (r : SessionRef) : Bool :=
  ((g.conn.socket r).bind fun c => g.conn.clients[c]?).any (·.isResume)

/-- `onConnect` up to its first suspension.  The second component says whether `afterConnect`
    goes on to query the devices of the tenant. -/
def onConnect (r : SessionRef) : Gateway × Bool :=
  match g.conn.heap[r]? with
  | none => (g, false)
  | some session =>
    if session.type.hasLifecycle then
      let g := { g with conn := g.conn.updateSession r fun s => { s with state := .ONLINE } }
      let g := g.deliverPending r
      let resumed := g.isResume r
      let filterPasses := session.product = none ∨ session.product = some "" ∨
        session.product = session.principal.asBrowser.map (·.role_product)
      (g.presence r (if resumed then "device-reconnect" else "device-connected") true,
        session.type ≠ .device && !resumed && decide filterPasses)
    else (g, false)

/-- The end of `handleConnection`: the listeners are attached and the client is told. -/
def ready (client : ClientRef) : Gateway :=
  let g := { g with conn := g.conn.updateClient client fun c => { c with listening := true } }
  if g.conn.isOpen client then g.log [.reply client [text "event" "ready"]] else g

/-- `onSuspend`. -/
def onSuspend (r : SessionRef) (session : WsSession) : Gateway :=
  let conn := g.conn.updateSession r fun s => { s with state := .SUSPEND, socket := none }
  let g := { g with conn := conn.clearTimeout session.suspendTimer }
  g.presence r "device-suspend" false

/-- The suspend timer of a session. -/
def startSuspendTimer (r : SessionRef) : Gateway :=
  let t := g.conn.nextTimer
  let conn := g.conn.updateSession r fun s => { s with suspendTimer := some t }
  { g with conn := { conn with
      nextTimer := t + 1
      timers := conn.timers.set t ⟨r, g.clock + cfg.WS_SESSION_SUSPEND_TIMEOUT⟩ } }

/-- `onDisconnect`. -/
def onDisconnect (r : SessionRef) (session : WsSession) : Gateway :=
  if !session.type.hasLifecycle || session.state = .REPLACE then g
  else if session.state = .OFFLINE then
    ({ g with conn := g.conn.unregister session.sessionId }).presence r "device-disconnected" false
  else (g.onSuspend r session).startSuspendTimer cfg r

/-- `handleDisconnect`. -/
def handleDisconnect (client : ClientRef) : Gateway :=
  match (g.conn.clients[client]?).bind (·.session) with
  | none => g
  | some r =>
    match g.conn.heap[r]? with
    | none => g
    | some session => if session.socket = some client then g.onDisconnect cfg r session else g

/-- The callback of a suspend timer, for a session that is still suspended. -/
def suspendTimer (timer : SuspendTimer) : Gateway :=
  match g.conn.heap[timer.session]? with
  | none => g
  | some session =>
    if session.state = .SUSPEND then
      let conn := g.conn.updateSession timer.session fun s => { s with state := .OFFLINE }
      ({ g with conn := conn.unregister session.sessionId }).presence timer.session
        "device-disconnected" false
    else g

/-! ## Heartbeat -/

/-- One socket in the heartbeat: `none` if it has missed too many pongs. -/
def beat (max : ℕ) (client : WsClient) : WsClient × Bool :=
  if client.isAlive then ({ client with isAlive := false }, true)
  else if max ≤ client.missedPongs + 1 then
    ({ client with missedPongs := client.missedPongs + 1, readyState := .CLOSING }, false)
  else ({ client with missedPongs := client.missedPongs + 1, isAlive := false }, true)

/-- The heartbeat of one socket of `getActiveSockets`. -/
def beatSocket (max : ℕ) (g : Gateway) (c : ClientRef) : Gateway :=
  match g.conn.clients[c]? with
  | none => g
  | some client =>
    if client.readyState = .OPEN then
      let b := beat max client
      let g := { g with conn := g.conn.updateClient c fun _ => b.1 }
      if b.2 then g.log [.ping c] else g
    else g

/-- The callback of the heartbeat interval. -/
def heartbeat : Gateway :=
  g.conn.getActiveSockets.foldl (beatSocket cfg.WS_MAX_MISSED_PONGS) g

/-- The callback of the retry interval. -/
def retry (jitter : ℕ → String → ℚ) : Gateway :=
  let r := g.conn.retryPendingEvents cfg.store g.clock jitter g.store
  (g.log r.1).setStore r.2

/-! ## Errors -/

/-- `handleError`: the error frame, if the socket is open. -/
def handleError (client : ClientRef) (f : Failure) : Gateway :=
  if g.conn.isOpen client then
    g.log [.reply client [text "event" "error", text "code" f.code, ("message", f.message)]]
  else g

/-- `isFatalError`. -/
def isFatalError (code : String) : Bool := code = "UNAUTHENTICATED" || code = "FORBIDDEN"

/-- A failed message: an error frame, and the end of the connection if it is fatal. -/
def failMessage (client : ClientRef) (f : Failure) : Gateway :=
  let g := g.handleError client f
  if isFatalError f.code then { g with conn := g.conn.closeSocket client } else g

/-- A failed connection. -/
def failConnection (client : ClientRef) (f : Failure) : Gateway :=
  let g := g.handleError client f
  { g with conn := g.conn.closeSocket client }

end Gateway

end GatewayRealtime
