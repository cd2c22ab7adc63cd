/-
  The gateway as a program of the event loop.

  * `GatewayEvent`: what reaches the gateway from outside: sockets, messages, timers, the clock.
  * `GatewayAnswer`: the answer of a query, of a service or of the authentication.
  * `gatewayProgram`: the stretch of code that each of them runs.  A stretch ends where the code
    waits for something outside; a promise that is settled already does not end it.

  The steps of `gatewayProgram` are all interleavings of the handlers.
-/
import GatewayRealtime.Dispatch
import GatewayRealtime.Lib.EventLoop

namespace GatewayRealtime

/-- What `validateConnection` returns: the principal is of the class of the type
    (`validateToken_issues`). -/
structure Authenticated where
  id_enduser : ℕ
  auth : EndUser
  product : Option String
  type : TypeEnduser
  issued : type.issues auth = true
deriving DecidableEq

/-- What reaches the gateway. -/
inductive GatewayEvent
  | tick (now : ℤ)
  | connect
  | message (client : ClientRef) (parsed : Option JsVal)
  | binary (client : ClientRef) (payload : List UInt8)
  | pong (client : ClientRef)
  | closing (client : ClientRef)
  | close (client : ClientRef)
  | suspendTimer (timer : ℕ)
  | expiryTimer (eventId : String)
  | cleanup
  | heartbeat
  | retry (jitter : ℕ → String → ℚ)

/-- What a computation waits for. -/
inductive GatewayAnswer
  | rateLimit (r : Except Failure Unit)
  | authenticated (r : Except Failure Authenticated)
  | devices (r : Except Failure (List Connections.DeviceInfo))
  | api (r : ApiAnswer)
  | events (r : Except Failure (List Events))
  | targets (r : Except Failure (List ℕ))

namespace Gateway

variable (cfg : GatewayConfig) (g : Gateway)

/-- A message on a socket: the listener ignores it unless the socket is its session's. -/
def receive (client : ClientRef)
    (handle : SessionRef → WsSession → Stretch) : Option (Gateway × List Task) :=
  match g.conn.clients[client]? with
  | none => none
  | some c =>
    if c.listening = true ∧ c.readyState ≠ .CLOSED then
      match c.session with
      | none => some (g, [])
      | some r =>
        match g.conn.heap[r]? with
        | none => some (g, [])
        | some session =>
          if session.socket = some client then
            let s := handle r session
            some (s.1, s.2.1 :: s.2.2)
          else some (g, [])
    else none

/-- `close` of a socket: the hook of the adapter, and the listener if it is attached. -/
def close (client : ClientRef) (c : WsClient) : Gateway :=
  let g := { g with conn := g.conn.updateClient client fun c => { c with readyState := .CLOSED } }
  let g := g.handleDisconnect cfg client
  if c.listening then g.handleDisconnect cfg client else g

/-- The stretch that an event runs at once. -/
def onEvent : GatewayEvent → Option (Gateway × List Task)
  | .tick now => if g.clock ≤ now then some ({ g with clock := now }, []) else none
  | .connect =>
    some ({ g with conn := { g.conn with clients := g.conn.clients ++ [{}] } },
      [.rateLimit g.conn.clients.length])
  | .message client parsed =>
    g.receive client fun r session => g.onMessage cfg client r session parsed
  | .binary client payload =>
    g.receive client fun r session => g.onBinary cfg client r session payload
  | .pong client =>
    match g.conn.clients[client]? with
    | none => none
    | some c =>
      if c.listening = true ∧ c.readyState ≠ .CLOSED then
        some ({ g with conn := g.conn.updateClient client fun c =>
          { c with isAlive := true, missedPongs := 0 } }, [])
      else none
  | .closing client =>
    if g.conn.isOpen client then some ({ g with conn := g.conn.closeSocket client }, []) else none
  | .close client =>
    match g.conn.clients[client]? with
    | none => none
    | some c => if c.readyState ≠ .CLOSED then some (g.close cfg client c, []) else none
  | .suspendTimer timer =>
    match g.conn.timers.get? timer with
    | none => none
    | some t =>
      if t.due ≤ g.clock then
        some (({ g with conn := { g.conn with
          timers := g.conn.timers.delete timer } }).suspendTimer t, [])
      else none
  | .expiryTimer eventId =>
    match g.store.timers.get? eventId with
    | none => none
    | some due =>
      if due ≤ g.clock then some (g.setStore (g.store.expiryTimer eventId g.clock), []) else none
  | .cleanup => some (g.setStore (g.store.cleanup cfg.store g.clock), [])
  | .heartbeat => some (g.heartbeat cfg, [])
  | .retry jitter => some (g.retry cfg jitter, [])

/-- `handleConnection` once the connection is authenticated. -/
def connected (client : ClientRef) (a : Authenticated) : Stretch :=
  let e := g.conn.establishSession a.id_enduser a.auth a.type a.product client
  let o := ({ g with conn := e.1 }).onConnect e.2
  if o.2 then (o.1, .snapshot client e.2, []) else (o.1.ready client, .done (.ok ()), [])

/-- The stretch after a suspension. -/
def onAnswer : Task → GatewayAnswer → Option Stretch
  | .rateLimit client, .rateLimit (.ok ()) =>
    some ({ g with conn := g.conn.updateClient client fun c =>
      { c with isAlive := false, missedPongs := 0, isResume := false } }, .authenticate client, [])
  | .rateLimit client, .rateLimit (.error f) =>
    some (g.failConnection client f, .done (.error f), [])
  | .authenticate client, .authenticated (.ok a) => some (g.connected client a)
  | .authenticate client, .authenticated (.error f) =>
    some (g.failConnection client f, .done (.error f), [])
  | .snapshot client r, .devices devices =>
    some ((g.log (g.conn.snapshot r devices)).ready client, .done (.ok ()), [])
  | .api m notification, .api answer => some (g.afterApi cfg m notification answer)
  | .events m modified lastUpdate, .events (.ok events) =>
    some ((g.loadEvents m.handler.labelEvent events lastUpdate).afterEvents cfg m modified events)
  | .events m _ _, .events (.error f) => some (g.finish m.client [] (.error f))
  | .targets q, .targets (.ok ids) =>
    let s := g.finishQossing cfg q ids
    some (s.1, .done s.2, [])
  | .targets _, .targets (.error f) => some (g, .done (.error f), [])
  | .binaryEvents m lastUpdate, .events (.ok events) =>
    some ((g.loadEvents m.handler.labelEvent events lastUpdate).afterBinaryEvents m events)
  | .binaryEvents m _, .events (.error f) => some (g.finish m.client [] (.error f))
  | _, _ => none

end Gateway

/-- The gateway on the event loop. -/
def gatewayProgram (cfg : GatewayConfig) : Program Gateway Task GatewayEvent GatewayAnswer where
  event g e := g.onEvent cfg e
  resume g t a := g.onAnswer cfg t a

/-- A gateway that has just started. -/
def Gateway.start (now : ℤ) : Pool Gateway Task :=
  ⟨{ clock := now, store := { stats := { lastCleanup := now } } }, []⟩

end GatewayRealtime
