/-
  Sessions (`schema/websocket.session.ts`, `types/ws-client.type.ts`, the registry and the
  session manager).

  Sockets and sessions are objects that refer to each other, so both live in a heap and are
  reached by reference.

  * `WsClient`, `WsSession`, `SessionRegistry`, and `Connections`, the heap with the registry
    and the suspend timers that are set.
  * `register`, `unregister`, `find`, `getDevicesByTenant`, `getBrowsersByTenant`.
  * `establishSession` with its branches `createSession`, `resumeSession`, `replaceSession`.
  * `establishSession_identity_iff`: when the session of a new connection carries the identity
    that the connection authenticated as.
-/
import GatewayRealtime.Permission

namespace GatewayRealtime

/-! ## Objects -/

/-- A reference to a `WsClient`. -/
abbrev ClientRef := ℕ

/-- A reference to a `WsSession`. -/
abbrev SessionRef := ℕ

/-- `readyState` of a socket that a server has accepted. -/
inductive ReadyState
  | OPEN | CLOSING | CLOSED
deriving DecidableEq, Repr

/-- `WsClient`. -/
structure WsClient where
  readyState : ReadyState := .OPEN
  session : Option SessionRef := none
  isAlive : Bool := false
  missedPongs : ℕ := 0
  isResume : Bool := false
  /-- the listeners that `handleConnection` attaches last are attached -/
  listening : Bool := false
deriving DecidableEq, Repr

/-- `WsSession`.  `suspendTimer` is the handle of a timer, which may have fired. -/
structure WsSession where
  sessionId : ℕ
  principal : EndUser
  type : TypeEnduser
  product : Option String
  state : TypeConnectionState := .CONNECTING
  socket : Option ClientRef := none
  suspendTimer : Option ℕ := none
deriving DecidableEq, Repr

/-- `WebSocketSessionRegistry`. -/
structure SessionRegistry where
  sessions : OMap ℕ SessionRef := .empty
  tenantDevices : OMap String (OSet SessionRef) := .empty
  tenantBrowsers : OMap String (OSet SessionRef) := .empty
deriving DecidableEq

/-- A suspend timer that is set: the session that its callback is about, and when it is due. -/
structure SuspendTimer where
  session : SessionRef
  due : ℤ
deriving DecidableEq, Repr

/-- The sockets, the sessions, the registry and the suspend timers. -/
structure Connections where
  clients : List WsClient := []
  heap : List WsSession := []
  registry : SessionRegistry := {}
  timers : OMap ℕ SuspendTimer := .empty
  /-- handles from here on have not been given out -/
  nextTimer : ℕ := 0
deriving DecidableEq

namespace Connections

variable (k : Connections)

/-- Assignments to the properties of a socket. -/
def updateClient (c : ClientRef) (f : WsClient → WsClient) : Connections :=
  { k with clients := k.clients.modify c f }

/-- Assignments to the properties of a session. -/
def updateSession (r : SessionRef) (f : WsSession → WsSession) : Connections :=
  { k with heap := k.heap.modify r f }

/-- `socket.readyState === 1`. -/
def isOpen (c : ClientRef) : Bool :=
  match k.clients[c]? with
  | some client => client.readyState = .OPEN
  | none => false

/-- `session.socket`. -/
def socket (r : SessionRef) : Option ClientRef := k.heap[r]?.bind (·.socket)

/-- `session.isActive()`. -/
def isActive (r : SessionRef) : Bool :=
  match k.socket r with
  | some c => k.isOpen c
  | none => false

/-- `close` and `terminate` of a socket: an open one starts to close. -/
def closeSocket (c : ClientRef) : Connections :=
  k.updateClient c fun client =>
    { client with readyState := if client.readyState = .OPEN then .CLOSING else client.readyState }

/-- `clearTimeout`. -/
def clearTimeout (handle : Option ℕ) : Connections :=
  match handle with
  | some t => { k with timers := k.timers.delete t }
  | none => k

/-! ## Registry -/

/-- `set.add` on the set of a tenant, which is made if there is none. -/
def addToTenant (index : OMap String (OSet SessionRef)) (tenantId : String) (r : SessionRef) :
    OMap String (OSet SessionRef) :=
  index.set tenantId (((index.get? tenantId).getD .empty).add r)

/-- `set.delete` on the set of a tenant; an emptied set goes. -/
def removeFromTenant (index : OMap String (OSet SessionRef)) (tenantId : String)
    (r : SessionRef) : OMap String (OSet SessionRef) :=
  match index.get? tenantId with
  | none => index
  | some set =>
    if (set.remove r).size = 0 then index.delete tenantId else index.set tenantId (set.remove r)

/-- `register`. -/
def register (r : SessionRef) : Connections :=
  match k.heap[r]? with
  | none => k
  | some session =>
    let registry := { k.registry with sessions := k.registry.sessions.set session.sessionId r }
    let tenantId := session.principal.clientId
    match session.type with
    | .device =>
      { k with registry := { registry with
          tenantDevices := addToTenant registry.tenantDevices tenantId r } }
    | .browser | .desktop =>
      { k with registry := { registry with
          tenantBrowsers := addToTenant registry.tenantBrowsers tenantId r } }
    | .self | .server => { k with registry := registry }

/-- `find`. -/
def find (sessionId : ℕ) : Option SessionRef := k.registry.sessions.get? sessionId

/-- `unregister`. -/
def unregister (sessionId : ℕ) : Connections :=
  match k.find sessionId with
  | none => k
  | some r =>
    match k.heap[r]? with
    | none => k
    | some session =>
      let registry := { k.registry with sessions := k.registry.sessions.delete sessionId }
      let tenantId := session.principal.clientId
      match session.type with
      | .device =>
        { k with registry := { registry with
            tenantDevices := removeFromTenant registry.tenantDevices tenantId r } }
      | .browser | .desktop =>
        { k with registry := { registry with
            tenantBrowsers := removeFromTenant registry.tenantBrowsers tenantId r } }
      | .self | .server => { k with registry := registry }

/-- `getAllSessions`. -/
def getAllSessions : List SessionRef := k.registry.sessions.values

/-- `getDevicesByTenant`. -/
def getDevicesByTenant (tenantId : String) (filter : SessionRef → Bool) : List SessionRef :=
  (((k.registry.tenantDevices.get? tenantId).map OSet.elems).getD []).filter filter

/-- `getBrowsersByTenant`. -/
def getBrowsersByTenant (tenantId : String) (filter : SessionRef → Bool) : List SessionRef :=
  (((k.registry.tenantBrowsers.get? tenantId).map OSet.elems).getD []).filter filter

/-! ## Session manager -/

/-- `resumeSession`. -/
def resumeSession (r : SessionRef) (session : WsSession) (client : ClientRef) : Connections :=
  let k := match session.socket with
    | some old => k.closeSocket old
    | none => k
  let k := k.clearTimeout session.suspendTimer
  let k := k.updateSession r fun s =>
    { s with suspendTimer := none, socket := some client, state := .CONNECTING }
  k.updateClient client fun c => { c with isResume := true, session := some r }

/-- `replaceSession`: the timer of a session whose socket is not open stays. -/
def replaceSession (r : SessionRef) (session : WsSession) (client : ClientRef) : Connections :=
  let k := match session.socket with
    | some old =>
      if k.isOpen old then
        ((k.clearTimeout session.suspendTimer).updateSession r fun s =>
          { s with state := .REPLACE, suspendTimer := none }).closeSocket old
      else k
    | none => k
  let k := k.updateSession r fun s => { s with socket := some client, state := .CONNECTING }
  k.updateClient client fun c =>
    { c with
      session := some r
      isResume := !(session.type = .browser || session.type = .desktop) }

/-- `createSession`. -/
def createSession (id_enduser : ℕ) (auth : EndUser) (type : TypeEnduser)
    (product : Option String) (client : ClientRef) : Connections × SessionRef :=
  let r := k.heap.length
  let session : WsSession :=
    { sessionId := id_enduser, principal := auth, type := type, product := product,
      socket := some client }
  let k := { k with heap := k.heap ++ [session] }
  let k := k.updateClient client fun c => { c with session := some r }
  (k.register r, r)

/-- `establishSession`. -/
def establishSession (id_enduser : ℕ) (auth : EndUser) (type : TypeEnduser)
    (product : Option String) (client : ClientRef) : Connections × SessionRef :=
  match k.find id_enduser with
  | none => k.createSession id_enduser auth type product client
  | some r =>
    match k.heap[r]? with
    | none => k.createSession id_enduser auth type product client
    | some session =>
      if session.state = .SUSPEND then (k.resumeSession r session client, r)
      else (k.replaceSession r session client, r)

/-- `getActiveSockets`. -/
def getActiveSockets : List ClientRef :=
  (k.getAllSessions.filter k.isActive).filterMap k.socket

/-- `getActiveScoketsByType`, for the session `r` with the principal `principal`. -/
def getActiveScoketsByType (r : SessionRef) (principal : EndUser) :
    TypeEnduser → List SessionRef
  | .browser | .desktop => k.getBrowsersByTenant principal.clientId k.isActive
  | .device => k.getDevicesByTenant principal.clientId k.isActive
  | .self => [r]
  | .server => []

/-! ## Basic facts -/

@[simp] theorem updateClient_heap (c : ClientRef) (f : WsClient → WsClient) :
    (k.updateClient c f).heap = k.heap := rfl

@[simp] theorem updateClient_registry (c : ClientRef) (f : WsClient → WsClient) :
    (k.updateClient c f).registry = k.registry := rfl

@[simp] theorem updateSession_clients (r : SessionRef) (f : WsSession → WsSession) :
    (k.updateSession r f).clients = k.clients := rfl

@[simp] theorem updateSession_registry (r : SessionRef) (f : WsSession → WsSession) :
    (k.updateSession r f).registry = k.registry := rfl

@[simp] theorem closeSocket_heap (c : ClientRef) : (k.closeSocket c).heap = k.heap := rfl

@[simp] theorem closeSocket_registry (c : ClientRef) :
    (k.closeSocket c).registry = k.registry := rfl

@[simp] theorem clearTimeout_heap (handle : Option ℕ) :
    (k.clearTimeout handle).heap = k.heap := by cases handle <;> rfl

@[simp] theorem clearTimeout_clients (handle : Option ℕ) :
    (k.clearTimeout handle).clients = k.clients := by cases handle <;> rfl

@[simp] theorem clearTimeout_registry (handle : Option ℕ) :
    (k.clearTimeout handle).registry = k.registry := by cases handle <;> rfl

@[simp] theorem updateClient_timers (c : ClientRef) (f : WsClient → WsClient) :
    (k.updateClient c f).timers = k.timers := rfl

@[simp] theorem updateSession_timers (r : SessionRef) (f : WsSession → WsSession) :
    (k.updateSession r f).timers = k.timers := rfl

@[simp] theorem closeSocket_timers (c : ClientRef) : (k.closeSocket c).timers = k.timers := rfl

@[simp] theorem get?_clearTimeout (handle : Option ℕ) (i : ℕ) :
    (k.clearTimeout handle).timers.get? i = if handle = some i then none else k.timers.get? i := by
  cases handle with
  | none => rfl
  | some t => simp [clearTimeout, OMap.get?_delete, eq_comm]

@[simp] theorem updateClient_nextTimer (c : ClientRef) (f : WsClient → WsClient) :
    (k.updateClient c f).nextTimer = k.nextTimer := rfl

@[simp] theorem updateSession_nextTimer (r : SessionRef) (f : WsSession → WsSession) :
    (k.updateSession r f).nextTimer = k.nextTimer := rfl

@[simp] theorem closeSocket_nextTimer (c : ClientRef) :
    (k.closeSocket c).nextTimer = k.nextTimer := rfl

@[simp] theorem clearTimeout_nextTimer (handle : Option ℕ) :
    (k.clearTimeout handle).nextTimer = k.nextTimer := by cases handle <;> rfl

theorem isActive_iff {r : SessionRef} :
    k.isActive r = true ↔ ∃ c, k.socket r = some c ∧ k.isOpen c = true := by
  unfold Connections.isActive
  cases k.socket r <;> simp

theorem clients_updateClient (c : ClientRef) (f : WsClient → WsClient) (c' : ClientRef) :
    (k.updateClient c f).clients[c']? =
      (k.clients[c']?).map fun client => if c' = c then f client else client := by
  simp only [updateClient, List.getElem?_modify, eq_comm (a := c)]
  rfl

theorem heap_updateSession (r : SessionRef) (f : WsSession → WsSession) (r' : SessionRef) :
    (k.updateSession r f).heap[r']? =
      (k.heap[r']?).map fun session => if r' = r then f session else session := by
  simp only [updateSession, List.getElem?_modify, eq_comm (a := r)]
  rfl

@[simp] theorem register_heap (r : SessionRef) : (k.register r).heap = k.heap := by
  unfold register
  split
  · rfl
  · split <;> rfl

@[simp] theorem register_clients (r : SessionRef) : (k.register r).clients = k.clients := by
  unfold register
  split
  · rfl
  · split <;> rfl

@[simp] theorem register_timers (r : SessionRef) : (k.register r).timers = k.timers := by
  unfold register
  split
  · rfl
  · split <;> rfl

@[simp] theorem register_nextTimer (r : SessionRef) :
    (k.register r).nextTimer = k.nextTimer := by
  unfold register
  split
  · rfl
  · split <;> rfl

/-- The registry maps ids to sessions of the heap. -/
def Valid : Prop := ∀ id r, k.find id = some r → r < k.heap.length

/-! ## The identity of a connection -/

/-- The session `r` runs on the socket `client` with the given identity, and is bound to it. -/
structure RunsAs (r : SessionRef) (auth : EndUser) (type : TypeEnduser) (product : Option String)
    (client : ClientRef) : Prop where
  session : ∃ s, k.heap[r]? = some s ∧ s.socket = some client ∧ s.principal = auth ∧
    s.type = type ∧ s.product = product
  bound : ∃ c, k.clients[client]? = some c ∧ c.session = some r

variable {k} {id_enduser : ℕ} {auth : EndUser} {type : TypeEnduser} {product : Option String}
  {client : ClientRef} {r : SessionRef} {session : WsSession}

theorem createSession_runsAs (hc : client < k.clients.length) :
    (k.createSession id_enduser auth type product client).1.RunsAs
      (k.createSession id_enduser auth type product client).2 auth type product client where
  session := by simp [createSession]
  bound := by
    refine ⟨{ k.clients[client] with session := some k.heap.length }, ?_, rfl⟩
    simp [createSession, clients_updateClient, hc]

/-- A resumed session keeps its identity. -/
theorem resumeSession_heap (hr : k.heap[r]? = some session) :
    (k.resumeSession r session client).heap[r]? =
      some { session with suspendTimer := none, socket := some client, state := .CONNECTING } := by
  unfold resumeSession
  cases session.socket <;> simp [heap_updateSession, hr]

/-- A replaced session keeps its identity. -/
theorem replaceSession_heap (hr : k.heap[r]? = some session) :
    ∃ timer, (k.replaceSession r session client).heap[r]? =
      some { session with suspendTimer := timer, socket := some client, state := .CONNECTING } := by
  unfold replaceSession
  cases session.socket with
  | none => exact ⟨session.suspendTimer, by simp [heap_updateSession, hr]⟩
  | some old =>
    by_cases ho : k.isOpen old = true
    · exact ⟨none, by simp [heap_updateSession, hr, ho]⟩
    · exact ⟨session.suspendTimer, by simp [heap_updateSession, hr, ho]⟩

theorem resumeSession_bound (hc : client < k.clients.length) :
    ∃ c, (k.resumeSession r session client).clients[client]? = some c ∧ c.session = some r := by
  unfold resumeSession
  cases session.socket <;>
    simp [clients_updateClient, closeSocket, hc]

theorem replaceSession_bound (hc : client < k.clients.length) :
    ∃ c, (k.replaceSession r session client).clients[client]? = some c ∧ c.session = some r := by
  unfold replaceSession
  cases session.socket with
  | none => simp [clients_updateClient, hc]
  | some old =>
    by_cases ho : k.isOpen old = true <;> simp [clients_updateClient, closeSocket, ho, hc]

/-- What a connection that finds a session takes over from it. -/
theorem establishSession_found (hr : k.find id_enduser = some r) (hs : k.heap[r]? = some session)
    (hc : client < k.clients.length) :
    (k.establishSession id_enduser auth type product client).2 = r ∧
    (∃ timer, (k.establishSession id_enduser auth type product client).1.heap[r]? =
      some { session with
        suspendTimer := timer, socket := some client, state := .CONNECTING }) ∧
    ∃ c, (k.establishSession id_enduser auth type product client).1.clients[client]? = some c ∧
      c.session = some r := by
  simp only [establishSession, hr, hs]
  split_ifs
  · exact ⟨rfl, ⟨none, resumeSession_heap hs⟩, resumeSession_bound hc⟩
  · exact ⟨rfl, replaceSession_heap hs, replaceSession_bound hc⟩

/-- The session that `establishSession` finds already has the identity. -/
def HasIdentity (k : Connections) (id_enduser : ℕ) (auth : EndUser) (type : TypeEnduser)
    (product : Option String) : Prop :=
  ∃ r session, k.find id_enduser = some r ∧ k.heap[r]? = some session ∧
    session.principal = auth ∧ session.type = type ∧ session.product = product

/-- **The identity of a connection.**  The session that `establishSession` returns and binds to
    the socket carries the identity that the connection authenticated as iff there was no
    session under the end user's id, or the one that there was had this identity already. -/
theorem establishSession_identity_iff (hk : k.Valid) (hc : client < k.clients.length) :
    (k.establishSession id_enduser auth type product client).1.RunsAs
        (k.establishSession id_enduser auth type product client).2 auth type product client ↔
      k.find id_enduser = none ∨ k.HasIdentity id_enduser auth type product := by
  cases hr : k.find id_enduser with
  | none =>
    have hcreate : k.establishSession id_enduser auth type product client =
        k.createSession id_enduser auth type product client := by simp [establishSession, hr]
    simpa [hcreate] using createSession_runsAs hc
  | some r =>
    obtain ⟨s₀, hs⟩ : ∃ s, k.heap[r]? = some s := ⟨_, List.getElem?_eq_getElem (hk _ _ hr)⟩
    obtain ⟨hret, ⟨timer, hheap⟩, hbound⟩ :
        (k.establishSession id_enduser auth type product client).2 = r ∧ _ ∧ _ :=
      establishSession_found hr hs hc
    constructor
    · rintro ⟨⟨s, hs', -, hauth, htype, hproduct⟩, -⟩
      rw [hret, hheap] at hs'
      cases hs'
      exact Or.inr ⟨r, _, hr, hs, hauth, htype, hproduct⟩
    · rintro (h | ⟨r', session, hr', hsession, hauth, htype, hproduct⟩)
      · cases h
      · rw [hr] at hr'
        cases hr'
        rw [hs] at hsession
        cases hsession
        rw [hret]
        exact ⟨⟨_, hheap, rfl, hauth, htype, hproduct⟩, hbound⟩

end Connections

/-- Two roles of one end user: the second may send nothing. -/
def adminUser : BrowserUser where
  clientId := "shop"
  products := []
  role := "admin"
  whiteListSend := [10]
  whiteListGet := [10]
  role_product := "absensi"

def viewerUser : BrowserUser :=
  { adminUser with role := "viewer", whiteListSend := [], whiteListGet := [] }

/-- Two sockets, of which the first has connected as the admin role of end user 11. -/
def adminConnected : Connections :=
  let k : Connections := { clients := [{}, {}] }
  (k.establishSession 11 (.browser adminUser) .browser none 0).1

namespace Connections

theorem adminConnected_valid : adminConnected.Valid := by
  intro id r h
  have hmem : (id, r) ∈ adminConnected.registry.sessions.entries := (OMap.mem_entries _ _ _).2 h
  have hentries : adminConnected.registry.sessions.entries = [(11, 0)] := by decide
  rw [hentries, List.mem_singleton] at hmem
  cases hmem
  decide

theorem establishSession_identity_iff_viewer :
    (adminConnected.establishSession 12 (.browser viewerUser) .browser none 1).1.RunsAs 1
        (.browser viewerUser) .browser none 1 ↔
      adminConnected.find 12 = none ∨
        adminConnected.HasIdentity 12 (.browser viewerUser) .browser none :=
  establishSession_identity_iff adminConnected_valid (by decide)

/-- The second socket connects as the viewer role of the same end user.  It is bound to the
    session of the admin, whose event it may send. -/
theorem viewer_runs_as_admin :
    let e := adminConnected.establishSession 11 (.browser viewerUser) .browser none 1
    ¬ e.1.RunsAs e.2 (.browser viewerUser) .browser none 1 ∧
    e.1.socket e.2 = some 1 ∧
    e.1.heap[e.2]?.map (fun s => BrowserHelper.filterEvents s.principal "login"
      [⟨10, "login", 1⟩]) = some (.ok [⟨10, "login", 1⟩]) ∧
    BrowserHelper.filterEvents (.browser viewerUser) "login" [⟨10, "login", 1⟩] = .ok [] := by
  refine ⟨?_, by decide, by decide, by decide⟩
  rintro ⟨⟨s, hs, -, hauth, -⟩, -⟩
  have hprincipal : (adminConnected.establishSession 11 (.browser viewerUser) .browser none
      1).1.heap[0]?.map (·.principal) = some (.browser adminUser) := by decide
  rw [show s.principal = EndUser.browser adminUser by
    have := hs ▸ hprincipal; simpa using this] at hauth
  exact absurd hauth (by decide)

end Connections

end GatewayRealtime
