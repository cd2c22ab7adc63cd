/-
  Browsers and devices that come and go, each handler run to its end.

  * `Visit`, `visit`: the handlers of the gateway with nothing in between, over a database that
    does not change; `visit_run`: a visit is a run of the gateway.
  * `visit_connect`, `onConnect_online`: what a connection does; `Arrived`: what it leaves behind.
  * `StaysInStep`: no browser is resumed, and no browser filters by the empty text, where it
    would miss something; `Watched.arrived`, `Arrived.not_shows`: what follows if it does or not.
  * `devices_shown_iff`: the browsers hold the true states all along iff all visits are so.
-/
import GatewayRealtime.Watched

namespace GatewayRealtime

/-! ## Visits -/

/-- What reaches the gateway, when each handler runs to its end: the clock, a connection with the
    outcome of its authentication, the close of a socket, a suspend timer. -/
inductive Visit
  | tick (now : ℤ)
  | connect (outcome : Except Failure Authenticated)
  | close (client : ClientRef)
  | suspendTimer (timer : ℕ)

/-- `handleConnection` up to the query of the devices. -/
def handshake (thread : ℕ) (outcome : Except Failure Authenticated) :
    List (Act GatewayEvent GatewayAnswer) :=
  [.event .connect, .resume thread (.rateLimit (.ok ())),
    .resume thread (.authenticated outcome)]

section
variable (cfg : GatewayConfig) (db : Database) (ord : RowOrder)

/-- The rest of `handleConnection`: the query of the devices is answered from the database. -/
def answerDevices (thread : ℕ) (p : Pool Gateway Task) : Option (Pool Gateway Task) :=
  match p.threads[thread]? with
  | some (.snapshot _ r) =>
    (p.shared.conn.heap[r]?).bind fun s =>
      (gatewayProgram cfg).step p (.resume thread (.devices (.ok (s.listed db ord))))
  | _ => some p

/-- A handler that runs to its end. -/
def visit (p : Pool Gateway Task) : Visit → Option (Pool Gateway Task)
  | .tick now => (gatewayProgram cfg).step p (.event (.tick now))
  | .connect outcome =>
    if outcome.toOption.all (db.admits ord) then
      (exec (gatewayProgram cfg).step p (handshake p.threads.length outcome)).bind
        (answerDevices cfg db ord p.threads.length)
    else none
  | .close client => (gatewayProgram cfg).step p (.event (.close client))
  | .suspendTimer timer => (gatewayProgram cfg).step p (.event (.suspendTimer timer))

end

/-- A browser that comes in misses nothing: it is not resumed, and the devices that it lists but
    does not track are offline. -/
def Connections.CatchesUp (k : Connections) (db : Database) (ord : RowOrder) (s : WsSession) :
    Prop :=
  s.watches = true → ∀ row ∈ s.listed db ord, s.state ≠ .SUSPEND ∧
    (s.tracks row.product = true ∨ k.deviceState row.id = .OFFLINE)

/-- A device that comes in is missed by nobody: whoever lists it tracks it. -/
def Connections.IsSeen (k : Connections) (db : Database) (ord : RowOrder) (s : WsSession) :
    Prop :=
  ∀ user ∈ s.principal.asDevice, ∀ b ∈ k.heap, b.watches = true → b.state = .ONLINE →
    ∀ row ∈ b.listed db ord, row.id = user.id_device → b.tracks row.product = true

/-- A connection that keeps the views in step. -/
def StaysInStep (db : Database) (ord : RowOrder) (p : Pool Gateway Task) : Visit → Prop
  | .connect (.ok a) => p.shared.conn.CatchesUp db ord (p.shared.conn.enters a) ∧
    p.shared.conn.IsSeen db ord (p.shared.conn.enters a)
  | _ => True

/-- The session `r` of the socket `c` is online, and has not told anybody yet. -/
structure CameOnline (g g' : Gateway) (db : Database) (a : Authenticated) (c : ClientRef)
    (r : SessionRef) (s : WsSession) : Prop where
  conn : g'.conn.Inv
  indexed : g'.conn.Indexed
  attached : g'.conn.Attached
  tabled : g'.conn.Tabled db
  turns : g.conn.Turns g'.conn r s
  identity : s.identity = (g.conn.enters a).identity
  found : ∀ s₀, g.conn.heap[r]? = some s₀ → s₀ = g.conn.enters a
  state : s.state = .ONLINE
  socket : s.socket = some c
  trace : g'.trace = g.trace
  store : g'.store = g.store
  resumed : s.type.isBrowser = true →
    g'.isResume r = decide ((g.conn.enters a).state = .SUSPEND)

/-- The connection of the socket `c` has come online as the session `r`. -/
structure Arrived (g g' : Gateway) (db : Database) (ord : RowOrder) (a : Authenticated)
    (c : ClientRef) (r : SessionRef) (s : WsSession) : Prop where
  turns : g.conn.Turns g'.conn r s
  identity : s.identity = (g.conn.enters a).identity
  found : ∀ s₀, g.conn.heap[r]? = some s₀ → s₀ = g.conn.enters a
  state : s.state = .ONLINE
  socket : s.socket = some c
  attached : g'.conn.Attached
  tabled : g'.conn.Tabled db
  idle : g'.store = g.store
  unsaid : ∀ c, g'.conn.clients.length ≤ c → ∀ e ∈ g'.trace, e.updateOn c = none
  told : ∀ (b : SessionRef) (sb : WsSession) c, b ≠ r → g'.conn.heap[b]? = some sb →
    sb.watches = true → sb.socket = some c → g'.view c = s.told sb (g.view c)
  shown : s.watches = true → ∀ row ∈ s.listed db ord, g'.view c row.id =
    if (g.conn.enters a).state = .SUSPEND then none
    else some (if s.tracks row.product then g'.conn.deviceState row.id else .OFFLINE).name

section
variable {cfg : GatewayConfig} {db : Database} {ord : RowOrder} {k k' : Connections}
  {g g' : Gateway} {p p' : Pool Gateway Task} {v : Visit} {r b : SessionRef} {s s' sb : WsSession}
  {a : Authenticated} {c : ClientRef} {id : ℕ} {t₀ : ℤ}

/-! ## A visit is a run -/

theorem visit_run (h : visit cfg db ord p v = some p') :
    ∃ acts, Run (gatewayProgram cfg).step anyStep p acts p' := by
  have hsingle : ∀ act, (gatewayProgram cfg).step p act = some p' →
      ∃ acts, Run (gatewayProgram cfg).step anyStep p acts p' :=
    fun act hst => ⟨[act], .single trivial hst⟩
  cases v with
  | tick now => exact hsingle (.event (.tick now)) h
  | close client => exact hsingle (.event (.close client)) h
  | suspendTimer timer => exact hsingle (.event (.suspendTimer timer)) h
  | connect outcome =>
    simp only [visit] at h
    split_ifs at h
    obtain ⟨q, hq, h⟩ := Option.bind_eq_some_iff.1 h
    unfold answerDevices at h
    split at h
    · obtain ⟨s, -, hst⟩ := Option.bind_eq_some_iff.1 h
      exact ⟨_, (run_of_exec hq).snoc trivial hst⟩
    · cases h
      exact ⟨_, run_of_exec hq⟩

theorem Consistent.visit (hp : Consistent cfg t₀ p) (h : visit cfg db ord p v = some p') :
    Consistent cfg t₀ p' := by
  obtain ⟨acts, hrun⟩ := visit_run h
  exact hrun.inv hp fun _ _ _ hp _ hst => hp.step hst

/-! ## Connections -/

/-- The rate limit leaves a new socket as it is. -/
theorem joined_reset (g : Gateway) : { g.joined with
    conn := g.joined.conn.updateClient g.conn.clients.length fun c =>
      { c with isAlive := false, missedPongs := 0, isResume := false } } = g.joined := by
  have hclients : (g.conn.clients ++ [({} : WsClient)]).modify g.conn.clients.length
      (fun c => { c with isAlive := false, missedPongs := 0, isResume := false }) =
        g.conn.clients ++ [({} : WsClient)] := by
    refine List.ext_getElem? fun i => ?_
    rw [List.getElem?_modify]
    split_ifs with hi
    · subst hi
      simp
    · simp
  simp [Gateway.joined, Connections.updateClient, hclients]

/-- `handleConnection` up to the query of the devices, in one step. -/
theorem handshake_exec (p : Pool Gateway Task) (outcome : Except Failure Authenticated) :
    exec (gatewayProgram cfg).step p (handshake p.threads.length outcome) =
      (p.shared.joined.onAnswer cfg (.authenticate p.shared.conn.clients.length)
        (.authenticated outcome)).map fun s => ⟨s.1, p.threads ++ s.2.1 :: s.2.2⟩ := by
  have hconnect : (gatewayProgram cfg).step p (.event .connect) =
      some ⟨p.shared.joined, p.threads ++ [.rateLimit p.shared.conn.clients.length]⟩ := rfl
  have hlimit : (gatewayProgram cfg).step
      ⟨p.shared.joined, p.threads ++ [.rateLimit p.shared.conn.clients.length]⟩
      (.resume p.threads.length (.rateLimit (.ok ()))) =
        some ⟨p.shared.joined, p.threads ++ [.authenticate p.shared.conn.clients.length]⟩ := by
    simp only [Program.step, List.getElem?_concat_length, Option.bind_some, gatewayProgram,
      Gateway.onAnswer, Option.map_some, joined_reset]
    simp
  rw [handshake, exec, hconnect, Option.bind_some, exec, hlimit, Option.bind_some, exec]
  simp only [Program.step, List.getElem?_concat_length, Option.bind_some, gatewayProgram, exec]
  cases p.shared.joined.onAnswer cfg (.authenticate p.shared.conn.clients.length)
    (.authenticated outcome) with
  | none => rfl
  | some s => simp

/-- What `handleConnection` does once the connection is authenticated: its session comes online,
    and the devices are queried and sent if `afterConnect` asks for them. -/
theorem visit_connect {outcome : Except Failure Authenticated}
    (h : visit cfg db ord p (.connect outcome) = some p') :
    (∃ f, outcome = .error f ∧
      p'.shared = p.shared.joined.failConnection p.shared.conn.clients.length f) ∨
    ∃ a, outcome = .ok a ∧ db.admits ord a = true ∧
      let c := p.shared.conn.clients.length
      let e := p.shared.joined.conn.establishSession a.id_enduser a.auth a.type a.product c
      let o := ({ p.shared.joined with conn := e.1 } : Gateway).onConnect e.2
      o.2 = false ∧ p'.shared = o.1.ready c ∨
        o.2 = true ∧ ∃ s, o.1.conn.heap[e.2]? = some s ∧
          p'.shared = (o.1.log (o.1.conn.snapshot e.2 (.ok (s.listed db ord)))).ready c := by
  simp only [visit] at h
  split_ifs at h with hadmits
  rw [handshake_exec] at h
  cases outcome with
  | error f =>
    have h' : answerDevices cfg db ord p.threads.length ⟨p.shared.joined.failConnection
        p.shared.conn.clients.length f, p.threads ++ [.done (.error f)]⟩ = some p' := h
    rw [answerDevices, List.getElem?_concat_length] at h'
    cases h'
    exact Or.inl ⟨f, rfl, rfl⟩
  | ok a =>
    refine Or.inr ⟨a, rfl, hadmits, ?_⟩
    intro c e o
    have h' : answerDevices cfg db ord p.threads.length
        ⟨(p.shared.joined.connected c a).1, p.threads ++ (p.shared.joined.connected c a).2.1 ::
          (p.shared.joined.connected c a).2.2⟩ = some p' := h
    by_cases ho : o.2 = true
    · have hconnected : p.shared.joined.connected c a = (o.1, .snapshot c e.2, []) := if_pos ho
      rw [hconnected, answerDevices, List.getElem?_concat_length] at h'
      obtain ⟨s, hs, hst⟩ := Option.bind_eq_some_iff.1 h'
      rw [Program.step] at hst
      dsimp only at hst
      rw [List.getElem?_concat_length] at hst
      cases hst
      exact Or.inr ⟨ho, s, hs, rfl⟩
    · have hconnected : p.shared.joined.connected c a =
          (o.1.ready c, .done (.ok ()), []) := if_neg ho
      rw [hconnected, answerDevices, List.getElem?_concat_length] at h'
      cases h'
      exact Or.inl ⟨by simpa using ho, rfl⟩

/-! ## Coming online -/

/-- Nothing is pending. -/
theorem deliverPending_idle (h : g.store.userEvents = .empty) (r : SessionRef) :
    g.deliverPending r = g := by
  have hpending : ∀ u, g.store.getPending u g.clock = [] := fun u => by
    simp [EventStore.getPending, EventStore.pendingRecords, EventStore.indexed, h]
  unfold Gateway.deliverPending
  split
  · rfl
  · simp [deliverPendingEvents, hpending, deliverLoop, Gateway.log, Gateway.setStore]

/-- The end of `handleConnection` says nothing about devices. -/
theorem ready_trace (g : Gateway) (c : ClientRef) : ∃ effects,
    (g.ready c).trace = g.trace ++ effects ∧ ∀ e ∈ effects, ∀ c', e.updateOn c' = none := by
  unfold Gateway.ready
  dsimp only
  split_ifs
  · refine ⟨_, rfl, fun e he c' => ?_⟩
    rw [List.mem_singleton.1 he, Effect.updateOn]
    simp [Frame.update, Frame.event, Frame.data, OMap.find, text]
  · exact ⟨[], (List.append_nil _).symm, List.forall_mem_nil _⟩

theorem ready_view (g : Gateway) (c c' : ClientRef) : (g.ready c).view c' = g.view c' := by
  obtain ⟨effects, htrace, hquiet⟩ := ready_trace g c
  exact view_of_quiet htrace fun e he => hquiet e he c'

/-- What a socket is told when a connection is ready, after some effects. -/
theorem ready_log_view (g : Gateway) (effects : List Effect) (c c' : ClientRef) :
    ((g.log effects).ready c).view c' =
      replay (g.view c') (effects.filterMap (Effect.updateOn c')) := by
  have hlog : (g.log effects).trace = g.trace ++ effects := rfl
  rw [ready_view, view_of_trace hlog]

/-- A socket that has been told nothing is told nothing. -/
theorem ready_log_unsaid {g : Gateway} {effects : List Effect} {c' : ClientRef} (c : ClientRef)
    (hg : ∀ e ∈ g.trace, e.updateOn c' = none) (heffects : ∀ e ∈ effects, e.updateOn c' = none) :
    ∀ e ∈ ((g.log effects).ready c).trace, e.updateOn c' = none := by
  intro e he
  obtain ⟨replies, htrace, hreplies⟩ := ready_trace (g.log effects) c
  rw [htrace] at he
  rcases List.mem_append.1 he with he | he
  · rcases List.mem_append.1 he with he | he
    · exact hg e he
    · exact heffects e he
  · exact hreplies e he c'

theorem ready_conn (g : Gateway) (c : ClientRef) : (g.ready c).conn =
    g.conn.updateClient c fun client => { client with listening := true } := by
  unfold Gateway.ready
  dsimp only
  split_ifs <;> rfl

theorem ready_store (g : Gateway) (c : ClientRef) : (g.ready c).store = g.store := by
  unfold Gateway.ready
  dsimp only
  split_ifs <;> rfl

/-- The hooks of a session that comes online while nothing is pending. -/
theorem onConnect_idle (hs : g.conn.heap[r]? = some s) (hl : s.type.hasLifecycle = true)
    (hidle : g.store.userEvents = .empty) : ∃ event ∈ deviceEvents,
    let g₂ := { g with conn := g.conn.updateSession r fun s => { s with state := .ONLINE } }
    g.onConnect r = (g₂.presence r event true, s.type ≠ .device && !g₂.isResume r &&
      decide (s.product = none ∨ s.product = some "" ∨
        s.product = s.principal.asBrowser.map (·.role_product))) := by
  refine ⟨if ({ g with conn := g.conn.updateSession r fun s => { s with state := .ONLINE } } :
    Gateway).isResume r then "device-reconnect" else "device-connected", ?_, ?_⟩
  · split_ifs <;> decide
  · unfold Gateway.onConnect
    rw [hs]
    dsimp only
    rw [if_pos hl, deliverPending_idle]
    exact hidle

/-- A connection that was admitted comes online. -/
theorem cameOnline (hk : g.conn.Inv) (hidx : g.conn.Indexed) (ha : g.conn.Attached)
    (ht : g.conn.Tabled db) (hadmits : db.admits ord a = true) :
    let e := g.joined.conn.establishSession a.id_enduser a.auth a.type a.product
      g.conn.clients.length
    ∃ s₁ : WsSession, e.1.heap[e.2]? = some s₁ ∧ s₁.type.hasLifecycle = true ∧
      CameOnline g { g.joined with
        conn := e.1.updateSession e.2 fun s => { s with state := .ONLINE } } db a
        g.conn.clients.length e.2 { s₁ with state := .ONLINE } := by
  have hk₀ : g.joined.conn.Inv := hk.of_eq rfl rfl
  have hc₀ : g.joined.conn.clients[g.conn.clients.length]? = some {} := by simp [Gateway.joined]
  have he := establishSession_entered hk₀ a g.conn.clients.length
  obtain ⟨hbinds, client, hclient, hresume⟩ := establishSession_binds hk₀ ha.joined a hc₀
  intro e
  obtain ⟨s₁, hs₁, hsocket, hstate, hid, hissued⟩ := he.heap_self hk₀
  obtain ⟨hidentity, hfound⟩ := he.enters hk₀ hs₁
  have hself : (e.1.updateSession e.2 fun s => { s with state := .ONLINE }).heap[e.2]? =
      some { s₁ with state := .ONLINE } := by
    rw [Connections.heap_updateSession, hs₁]
    simp
  have hturns : g.conn.Turns (e.1.updateSession e.2 fun s => { s with state := .ONLINE }) e.2
      { s₁ with state := .ONLINE } := by
    refine ⟨hself, fun r' hr => ?_, fun s₀ hs₀ => ?_, by simp⟩
    · rw [Connections.heap_updateSession, he.heap_ne hr]
      simp [hr, Gateway.joined]
    · rw [hfound s₀ hs₀]
      exact hidentity
  have hsocket₂ : (e.1.updateSession e.2 fun s => { s with state := .ONLINE }).socket e.2 =
      some g.conn.clients.length := by
    rw [Connections.socket, hself]
    exact hsocket
  refine ⟨s₁, hs₁, TypeEnduser.hasLifecycle_of_issues hissued, ⟨?_, ?_, ?_, ?_, hturns, hidentity,
    hfound, rfl, hsocket, rfl, rfl, fun hbrowser => ?_⟩⟩
  · refine (hk₀.entered he).updateSession _ (fun _ => rfl) fun s hs => ?_
    rw [hs₁] at hs
    cases hs
    exact ⟨by simp [hstate], by simp, Or.inl ⟨by simp [hsocket], Or.inr rfl⟩⟩
  · have hidx₀ : g.joined.conn.Indexed := hidx.of_eq rfl rfl
    have hidx₁ : e.1.Indexed := establishSession_indexed hidx₀ a _
    exact hidx₁.updateSession e.2 (fun s => { s with state := .ONLINE }) fun _ => rfl
  · exact (ha.joined.entered hk₀ he hbinds hc₀).updateSession _ fun _ => Or.inr rfl
  · refine ht.turns hturns fun hnone user hu => ?_
    -- a session that is new has the identity that was authenticated
    have henters : (g.joined.conn.enters a).principal = a.auth := by
      rcases he.heap with ⟨hfind, -⟩ | ⟨hfind, -⟩
      · simp [Connections.enters, hfind]
      · obtain ⟨s₀, hs₀, -⟩ := hk₀.registered _ _ hfind
        have hs₀' : g.conn.heap[e.2]? = some s₀ := hs₀
        rw [hnone] at hs₀'
        cases hs₀'
    have hauth : a.auth = .device user := by
      rw [← henters, ← (WsSession.identity_eq hidentity).2.1]
      exact hu
    show db.IsDevice _ _ _ s₁.sessionId
    rw [hid]
    exact Database.isDevice_of_admits hadmits hauth
  · have henters : (g.joined.conn.enters a).type = s₁.type :=
      (WsSession.identity_eq hidentity).2.2.symm
    rw [Gateway.isResume, hsocket₂, Option.bind_some]
    show (e.1.clients[g.conn.clients.length]?).any _ = _
    rw [hclient, Option.any_some, hresume (by rw [henters]; exact hbrowser)]
    rfl

/-- `onConnect` of a connection that was admitted: it comes online, tells the browsers, and asks
    for the devices if it is a browser with an allowed filter that is not resumed. -/
theorem onConnect_online (hk : g.conn.Inv) (hidx : g.conn.Indexed) (hw : g.Watched db ord)
    (hadmits : db.admits ord a = true) :
    let e := g.joined.conn.establishSession a.id_enduser a.auth a.type a.product
      g.conn.clients.length
    ∃ g₂ s event asks, CameOnline g g₂ db a g.conn.clients.length e.2 s ∧
      event ∈ deviceEvents ∧ (s.watches = true → asks = !g₂.isResume e.2) ∧
      ({ g.joined with conn := e.1 } : Gateway).onConnect e.2 =
        (g₂.presence e.2 event true, asks) := by
  intro e
  obtain ⟨s₁, hs₁, hl, honline⟩ := cameOnline hk hidx hw.attached hw.tabled hadmits
  obtain ⟨event, hevent, hconnect⟩ :=
    onConnect_idle (g := { g.joined with conn := e.1 }) hs₁ hl hw.idle
  refine ⟨_, _, event, _, honline, hevent, fun hwatches => ?_, hconnect⟩
  simp only [WsSession.watches, Bool.and_eq_true, decide_eq_true_eq] at hwatches
  have htype : s₁.type ≠ .device := by
    intro htype
    rw [htype] at hwatches
    cases hwatches.1
  rw [decide_eq_true htype, decide_eq_true hwatches.2, Bool.true_and, Bool.and_true]

/-- What the browsers are told of a session that has come online. -/
theorem CameOnline.told {g₂ : Gateway} {event : String} (h : CameOnline g g₂ db a c r s)
    (hevent : event ∈ deviceEvents) {c' : ClientRef} (hsb : g₂.conn.heap[b]? = some sb)
    (hbrowser : sb.type.isBrowser = true) (hc' : sb.socket = some c') :
    (g₂.presence r event true).view c' = s.told sb (g.view c') := by
  rw [view_presence h.conn h.indexed h.attached h.turns.self hevent hsb hbrowser hc', Gateway.view,
    h.trace]
  rfl

/-- A browser that has come online has been told nothing on its new socket. -/
theorem CameOnline.blank {g₂ : Gateway} {event : String} (h : CameOnline g g₂ db a c r s)
    (hevent : event ∈ deviceEvents) (hunsaid : ∀ e ∈ g.trace, e.updateOn c = none)
    (hbrowser : s.type.isBrowser = true) :
    (g₂.presence r event true).view c = fun _ => none := by
  rw [h.told hevent h.turns.self hbrowser h.socket,
    told_of_browser (h.conn.issued r s h.turns.self) hbrowser, Gateway.view,
    List.filterMap_eq_nil_iff.2 hunsaid]
  rfl

/-- A session that has come online, and what it and the browsers are told. -/
theorem CameOnline.arrived {g₂ : Gateway} {event : String} (h : CameOnline g g₂ db a c r s)
    (hdb : db.Keyed) (hevent : event ∈ deviceEvents)
    (hunsaid : ∀ c', c ≤ c' → ∀ e ∈ g.trace, e.updateOn c' = none)
    (asks : Bool) (hasks : s.watches = true → asks = !g₂.isResume r)
    (hg' : asks = false ∧ g' = (g₂.presence r event true).ready c ∨
      asks = true ∧ g' = ((g₂.presence r event true).log
        (g₂.conn.snapshot r (.ok (s.listed db ord)))).ready c) :
    Arrived g g' db ord a c r s := by
  obtain ⟨shot, hg', hshot⟩ : ∃ shot, g' = ((g₂.presence r event true).log shot).ready c ∧
      (asks = false ∧ shot = [] ∨
        asks = true ∧ shot = g₂.conn.snapshot r (.ok (s.listed db ord))) := by
    rcases hg' with ⟨hasked, rfl⟩ | ⟨hasked, rfl⟩
    · exact ⟨[], by rw [log_nil], Or.inl ⟨hasked, rfl⟩⟩
    · exact ⟨_, rfl, Or.inr ⟨hasked, rfl⟩⟩
  have hsocket : g₂.conn.socket r = some c := by
    rw [Connections.socket, h.turns.self]
    exact h.socket
  have hc := h.attached.lt hsocket
  have hconn : g'.conn =
      g₂.conn.updateClient c fun client => { client with listening := true } := by
    rw [hg', ready_conn]
    show ((g₂.presence r event true).conn.updateClient c _) = _
    rw [presence_conn]
  have hview : ∀ c', g'.view c' = replay ((g₂.presence r event true).view c')
      (shot.filterMap (Effect.updateOn c')) := fun c' => by
    rw [hg', ready_log_view]
  -- the snapshot is for the new socket alone
  have hother : ∀ c', c' ≠ c → ∀ e ∈ shot, e.updateOn c' = none := by
    intro c' hne
    rcases hshot with ⟨-, rfl⟩ | ⟨-, rfl⟩
    · exact List.forall_mem_nil _
    · exact snapshot_quiet fun hsame => hne (Option.some.inj (hsame.symm.trans hsocket))
  constructor
  · rw [hconn]
    exact ⟨h.turns.self, h.turns.others, h.turns.identity, h.turns.leaves⟩
  · exact h.identity
  · exact h.found
  · exact h.state
  · exact h.socket
  · rw [hconn]
    exact h.attached.updateClient _ fun _ => ⟨rfl, rfl⟩
  · rw [hconn]
    exact h.tabled
  · rw [hg', ready_store]
    exact (presence_store ..).trans h.store
  · intro c' hc'
    have hlength : g₂.conn.clients.length ≤ c' := by
      rw [hconn] at hc'
      simpa [Connections.updateClient] using hc'
    rw [hg']
    refine ready_log_unsaid c (presence_unsaid (fun c'' hc'' e he => ?_) c' hlength)
      (hother c' (Nat.ne_of_gt (hc.trans_le hlength)))
    rw [h.trace] at he
    exact hunsaid c'' (hc.le.trans hc'') e he
  · intro b sb c' hb hsb hwatches hc'
    have hsb' : g₂.conn.heap[b]? = some sb := by
      rw [hconn] at hsb
      exact hsb
    have hne : c' ≠ c := by
      rintro rfl
      have hsocket' : g₂.conn.socket b = some c' := by
        rw [Connections.socket, hsb']
        exact hc'
      exact hb (h.attached.unique hsocket' hsocket)
    rw [hview, List.filterMap_eq_nil_iff.2 (hother c' hne), replay_nil]
    exact h.told hevent hsb' (WsSession.isBrowser_of_watches hwatches) hc'
  · intro hwatches row hrow
    have hbrowser := WsSession.isBrowser_of_watches hwatches
    have hstate : g'.conn.deviceState row.id = g₂.conn.deviceState row.id := by
      rw [hconn]
      exact deviceState_congr rfl rfl _
    rw [hasks hwatches, h.resumed hbrowser] at hshot
    rw [hview, h.blank hevent (hunsaid c le_rfl) hbrowser, hstate]
    by_cases hsuspend : (g.conn.enters a).state = .SUSPEND
    · rw [if_pos hsuspend]
      rcases hshot with ⟨-, rfl⟩ | ⟨hasked, -⟩
      · rfl
      · simp [hsuspend] at hasked
    · rw [if_neg hsuspend]
      rcases hshot with ⟨hasked, -⟩ | ⟨-, rfl⟩
      · simp [hsuspend] at hasked
      · exact snapshot_view h.conn h.indexed hdb h.tabled h.attached h.turns.self h.socket hrow _

/-! ## The condition -/

/-- What the database and the frames go by is fixed with the identity of a session. -/
theorem WsSession.fixed (db : Database) (ord : RowOrder) (h : s.identity = s'.identity) :
    s.watches = s'.watches ∧ s.listed db ord = s'.listed db ord ∧
      (∀ product, s.tracks product = s'.tracks product) ∧ s.device = s'.device := by
  obtain ⟨-, hprincipal, htype⟩ := WsSession.identity_eq h
  have hproduct : s.product = s'.product := congrArg (·.2.2.2) h
  simp only [WsSession.watches, WsSession.listed, WsSession.tracks, WsSession.device, hprincipal,
    htype, hproduct, implies_true, and_self]

/-- A browser is no device. -/
theorem device_of_watches (hissued : s.type.issues s.principal = true)
    (hwatches : s.watches = true) (id : ℕ) : s.device ≠ some id := by
  intro hid
  obtain ⟨user, hu, -⟩ := WsSession.device_eq_some.1 hid
  rw [hu] at hissued
  simp only [WsSession.watches, Bool.and_eq_true,
    TypeEnduser.eq_device_of_issues hissued] at hwatches
  cases hwatches.1

/-- The states of the devices are not those of a browser that comes in. -/
theorem Arrived.deviceState (h : Arrived g g' db ord a c r s) (hw : g.Watched db ord)
    (hdb : db.Keyed) (hk : g.conn.Inv) (hk' : g'.conn.Inv) (hwatches : s.watches = true)
    (id : ℕ) :
    g'.conn.deviceState id = g.conn.deviceState id :=
  h.turns.deviceState_ne hk hk' hdb hw.tabled h.tabled
    (device_of_watches (hk'.issued r s h.turns.self) hwatches id)

/-- A connection that keeps the views in step. -/
theorem Gateway.Watched.arrived (hw : g.Watched db ord) (hdb : db.Keyed) (hk : g.conn.Inv)
    (hk' : g'.conn.Inv) (h : Arrived g g' db ord a c r s)
    (hbrowser : g.conn.CatchesUp db ord (g.conn.enters a))
    (hdevice : g.conn.IsSeen db ord (g.conn.enters a)) : g'.Watched db ord := by
  obtain ⟨hwatches', hlisted', htracks', -⟩ := WsSession.fixed db ord h.identity
  refine hw.turned hdb hk hk' h.turns h.tabled h.attached h.idle h.unsaid h.told
    (fun user hu b sb hb hwatches hstate row hrow hid => ?_)
    fun hwatches _ c' hc' row hrow => ?_
  · refine hdevice user ?_ sb (List.mem_of_getElem? hb) hwatches hstate row hrow hid
    rw [← (WsSession.identity_eq h.identity).2.1, hu]
    rfl
  · obtain rfl : c = c' := Option.some.inj (h.socket.symm.trans hc')
    obtain ⟨hnot, htracked⟩ := hbrowser (hwatches' ▸ hwatches) row (hlisted' ▸ hrow)
    have hstate := h.deviceState hw hdb hk hk' hwatches row.id
    rw [h.shown hwatches row hrow, if_neg hnot]
    rw [← htracks' row.product, ← hstate] at htracked
    split_ifs with htracks
    · exact ⟨rfl, fun hnot => absurd htracks (by simp [hnot])⟩
    · have hoffline := htracked.resolve_left htracks
      rw [hoffline]
      exact ⟨rfl, fun _ => rfl⟩

/-- A connection that does not. -/
theorem Arrived.not_shows (h : Arrived g g' db ord a c r s) (hw : g.Watched db ord)
    (hdb : db.Keyed) (hk : g.conn.Inv) (hk' : g'.conn.Inv)
    (hbad : ¬ (g.conn.CatchesUp db ord (g.conn.enters a) ∧
      g.conn.IsSeen db ord (g.conn.enters a))) : ¬ g'.ShowsDevices db ord := by
  obtain ⟨hwatches', hlisted', htracks', -⟩ := WsSession.fixed db ord h.identity
  intro hshows
  refine hbad ⟨fun hwatches row hrow => ?_, fun user hu sb hmem hwatches hstate row hrow hid => ?_⟩
  · rw [← hwatches'] at hwatches
    rw [← hlisted'] at hrow
    have hview := hshows r s c h.turns.self hwatches h.state h.socket row hrow
    have hstate := h.deviceState hw hdb hk hk' hwatches row.id
    rw [h.shown hwatches row hrow] at hview
    by_cases hsuspend : (g.conn.enters a).state = .SUSPEND
    · rw [if_pos hsuspend] at hview
      cases hview
    · rw [if_neg hsuspend] at hview
      refine ⟨hsuspend, ?_⟩
      rw [← htracks' row.product]
      by_cases htracks : s.tracks row.product = true
      · exact Or.inl htracks
      · rw [if_neg htracks] at hview
        rw [← hstate]
        exact Or.inr (TypeConnectionState.name_injective (Option.some.inj hview)).symm
  · by_contra htracks
    obtain ⟨b, hb⟩ := List.mem_iff_getElem?.1 hmem
    obtain ⟨hidentity, hprincipal, -⟩ := WsSession.identity_eq h.identity
    have hsu : s.principal = .device user := by
      rw [hprincipal]
      cases hp : (g.conn.enters a).principal with
      | browser _ => rw [hp] at hu; cases hu
      | device user' => rw [hp] at hu; cases hu; rfl
    have hdev : s.device = some row.id := WsSession.device_eq_some.2 ⟨user, hsu, hid.symm⟩
    have hne : b ≠ r := by
      rintro rfl
      refine device_of_watches (hk.issued b sb hb) hwatches row.id ?_
      rw [h.found sb hb, ← (WsSession.fixed db ord h.identity).2.2.2]
      exact hdev
    have hb' : g'.conn.heap[b]? = some sb := by rw [h.turns.others b hne, hb]
    obtain ⟨c', hc'⟩ := (hk.standing b sb hb).exists_socket hstate
    -- the browser goes on holding that the device is offline
    have hview := hshows b sb c' hb' hwatches hstate hc' row hrow
    have hfollows : ¬ sb.follows user = true := by
      have hproduct := (h.tabled.listed hdb hrow h.turns.self hsu hid.symm).2
      simp [WsSession.follows, hproduct, htracks]
    have hoffline := hw.untracked b sb hb hwatches hstate row hrow (by simpa using htracks)
    rw [h.told b sb c' hne hb' hwatches hc', WsSession.told, hsu] at hview
    dsimp only at hview
    rw [if_neg hfollows, hw.shows b sb c' hb hwatches hstate hc' row hrow, hoffline,
      h.turns.deviceState_self hk hk' hdb hw.tabled h.tabled hdev, h.state] at hview
    cases TypeConnectionState.name_injective (Option.some.inj hview)

/-! ## Whole runs -/

/-- A connection that is refused says nothing about devices. -/
theorem Gateway.Watched.refused (hw : g.Watched db ord) (f : Failure) :
    (g.joined.failConnection g.conn.clients.length f).Watched db ord := by
  have hfree : ∀ r, g.conn.socket r ≠ some g.conn.clients.length := fun r hr =>
    absurd (hw.attached.lt hr) (lt_irrefl _)
  have hreply : ∃ effects, (g.joined.handleError g.conn.clients.length f).trace =
      g.trace ++ effects ∧ ∀ e ∈ effects, ∀ c, e.updateOn c = none := by
    unfold Gateway.handleError
    split_ifs
    · refine ⟨_, rfl, fun e he c => ?_⟩
      rw [List.mem_singleton.1 he, Effect.updateOn]
      simp [Frame.update, Frame.event, Frame.data, OMap.find, text]
    · exact ⟨[], (List.append_nil _).symm, List.forall_mem_nil _⟩
  have hconn : (g.joined.handleError g.conn.clients.length f).conn = g.joined.conn := by
    unfold Gateway.handleError
    split_ifs <;> rfl
  have hstore : (g.joined.handleError g.conn.clients.length f).store = g.store := by
    unfold Gateway.handleError
    split_ifs <;> rfl
  obtain ⟨effects, htrace, hquiet⟩ := hreply
  refine hw.of_eq ?_ ?_ ?_ ?_ hstore htrace hquiet
  all_goals
    unfold Gateway.failConnection
    dsimp only
    rw [hconn]
  · rfl
  · rfl
  · refine hw.attached.joined.of_socket (fun _ _ hr => hr) fun r c client hr hclient =>
      ⟨client, ?_, rfl, rfl⟩
    have hne : c ≠ g.conn.clients.length := by
      rintro rfl
      exact hfree r hr
    rw [Connections.closeSocket, Connections.clients_updateClient, hclient]
    simp [hne]
  · simp [Gateway.joined, Connections.closeSocket, Connections.updateClient]

/-- What a visit does: a connection comes online, or the views keep in step. -/
theorem Gateway.Watched.visit (hdb : db.Keyed) (hp : Consistent cfg t₀ p)
    (hw : p.shared.Watched db ord) (h : visit cfg db ord p v = some p') :
    (∃ a r s, v = .connect (.ok a) ∧
      Arrived p.shared p'.shared db ord a p.shared.conn.clients.length r s) ∨
    StaysInStep db ord p v ∧ p'.shared.Watched db ord := by
  have hk := hp.1.conn
  have hidx := hp.1.indexed
  cases v with
  | tick now =>
    obtain ⟨⟨g', new⟩, he, rfl⟩ := Option.map_eq_some_iff.1 h
    simp only [gatewayProgram, Gateway.onEvent] at he
    split_ifs at he
    cases he
    exact Or.inr ⟨trivial, hw.of_eq rfl rfl hw.attached le_rfl rfl (List.append_nil _).symm
        (List.forall_mem_nil _)⟩
  | close c =>
    obtain ⟨⟨g', new⟩, he, rfl⟩ := Option.map_eq_some_iff.1 h
    simp only [gatewayProgram, Gateway.onEvent] at he
    split at he
    · cases he
    · rename_i client hclient
      split_ifs at he
      cases he
      exact Or.inr ⟨trivial, hw.close hdb hk hidx c client⟩
  | suspendTimer i =>
    obtain ⟨⟨g', new⟩, he, rfl⟩ := Option.map_eq_some_iff.1 h
    simp only [gatewayProgram, Gateway.onEvent] at he
    split at he
    · cases he
    · rename_i t ht
      split_ifs at he
      cases he
      have hw₁ : ({ p.shared with conn := { p.shared.conn with
          timers := p.shared.conn.timers.delete i } } : Gateway).Watched db ord :=
        hw.of_eq rfl rfl hw.attached le_rfl rfl (List.append_nil _).symm (List.forall_mem_nil _)
      exact Or.inr ⟨trivial, hw₁.suspendTimer hdb (hk.of_eq rfl rfl) (hidx.of_eq rfl rfl) t⟩
  | connect outcome =>
    rcases visit_connect h with ⟨f, rfl, heq⟩ | ⟨a, rfl, hadmits, hcases⟩
    · refine Or.inr ⟨trivial, ?_⟩
      rw [heq]
      exact hw.refused f
    · obtain ⟨g₂, s, event, asks, honline, hevent, hasks, hconnect⟩ :=
        onConnect_online hk hidx hw hadmits
      refine Or.inl ⟨a, _, s, rfl, honline.arrived hdb hevent hw.unsaid asks hasks ?_⟩
      dsimp only at hcases
      rw [hconnect] at hcases
      rcases hcases with hquiet | ⟨hasked, s', hs', heq⟩
      · exact Or.inl hquiet
      · dsimp only at hs' heq
        rw [presence_conn] at hs' heq
        rw [honline.turns.self] at hs'
        cases hs'
        exact Or.inr ⟨hasked, heq⟩

/-- **Browsers hold the true states of the devices.**  In every state of a run, whoever is online
    with an allowed filter holds the states of the registry, iff all connections of the run keep
    the views in step. -/
theorem devices_shown_iff {visits : List Visit} (hdb : db.Keyed)
    (h : Run (visit cfg db ord) anyStep (Gateway.start t₀) visits p) :
    (∀ q, Visited (visit cfg db ord) (Gateway.start t₀) visits q →
      q.shared.ShowsDevices db ord) ↔
    Run (visit cfg db ord) (StaysInStep db ord) (Gateway.start t₀) visits p := by
  refine Run.safe_iff (I := fun p => Consistent cfg t₀ p ∧ p.shared.Watched db ord)
    ⟨consistent_start cfg t₀, watched_start db ord t₀⟩ (fun p hp => hp.2.shows)
    (fun p v p' hp hok hst => ?_) (fun p v p' hp hbad hst => ?_) h
  · have hp' := hp.1.visit hst
    refine ⟨hp', ?_⟩
    rcases hp.2.visit hdb hp.1 hst with ⟨a, r, s, rfl, harrived⟩ | ⟨-, hw⟩
    · exact hp.2.arrived hdb hp.1.1.conn hp'.1.conn harrived hok.1 hok.2
    · exact hw
  · rcases hp.2.visit hdb hp.1 hst with ⟨a, r, s, rfl, harrived⟩ | ⟨hok, -⟩
    · exact harrived.not_shows hp.2 hdb hp.1.1.conn (hp.1.visit hst).1.conn hbad
    · exact absurd hok hbad

end

/-! ## A reader and a screen -/

instance (k : Connections) (db : Database) (ord : RowOrder) (s : WsSession) :
    Decidable (k.CatchesUp db ord s) :=
  inferInstanceAs (Decidable (s.watches = true → ∀ row ∈ s.listed db ord, s.state ≠ .SUSPEND ∧
    (s.tracks row.product = true ∨ k.deviceState row.id = .OFFLINE)))

instance (k : Connections) (db : Database) (ord : RowOrder) (s : WsSession) :
    Decidable (k.IsSeen db ord s) :=
  inferInstanceAs (Decidable (∀ user ∈ s.principal.asDevice, ∀ b ∈ k.heap, b.watches = true →
    b.state = .ONLINE → ∀ row ∈ b.listed db ord, row.id = user.id_device →
      b.tracks row.product = true))

instance (db : Database) (ord : RowOrder) : DecidableRel (StaysInStep db ord) := fun p v =>
  match v with
  | .connect (.ok a) => inferInstanceAs (Decidable (
      p.shared.conn.CatchesUp db ord (p.shared.conn.enters a) ∧
        p.shared.conn.IsSeen db ord (p.shared.conn.enters a)))
  | .connect (.error _) => isTrue trivial
  | .tick _ => isTrue trivial
  | .close _ => isTrue trivial
  | .suspendTimer _ => isTrue trivial

theorem readerTables_keyed : readerTables.Keyed := ⟨by decide, by decide, by decide, by decide⟩

/-- A browser of the tenant of the readers. -/
def screen : Authenticated where
  id_enduser := 12
  auth := .browser adminUser
  product := none
  type := .browser
  issued := rfl

/-- A reader of `readerTables`. -/
def readerA : Authenticated where
  id_enduser := 11
  auth := .device (readerAuth 1 11 "reader-a").user
  product := none
  type := .device
  issued := rfl

/-- The reader comes, goes and comes again while the screen is there, and stays away at last. -/
def readerMoves : List Visit :=
  [.connect (.ok screen), .connect (.ok readerA), .close 1, .connect (.ok readerA), .close 2,
    .tick 60000, .suspendTimer 1]

theorem devices_shown_iff_readerMoves : ∃ p,
    Run (visit .defaults readerTables .natural) anyStep (Gateway.start 0) readerMoves p ∧
    ∀ q, Visited (visit .defaults readerTables .natural) (Gateway.start 0) readerMoves q →
      q.shared.ShowsDevices readerTables .natural := by
  obtain ⟨p, hp⟩ : ∃ p, exec (guarded (visit .defaults readerTables .natural)
      (StaysInStep readerTables .natural)) (Gateway.start 0) readerMoves = some p := ⟨_, rfl⟩
  have hrun := run_of_exec_guarded hp
  have hany := hrun.mono fun _ _ _ => trivial
  exact ⟨p, hany, (devices_shown_iff readerTables_keyed hany).2 hrun⟩

/-- The socket of the screen is lost, and the screen is back before its timeout. -/
def screenResumes : List Visit :=
  [.connect (.ok screen), .connect (.ok readerA), .close 0, .connect (.ok screen)]

/-- Where that leads. -/
def screenBack : Pool Gateway Task :=
  (exec (visit .defaults readerTables .natural) (Gateway.start 0) screenResumes).getD
    (Gateway.start 0)

/-- The screen that has resumed holds nothing about the readers. -/
theorem screenResumes_blank :
    Run (visit .defaults readerTables .natural) anyStep (Gateway.start 0) screenResumes screenBack ∧
    ¬ screenBack.shared.ShowsDevices readerTables .natural := by
  refine ⟨run_of_exec rfl, fun hshows => ?_⟩
  obtain ⟨s, hs, hwatches, hstate, hsocket, hlisted⟩ : ∃ s : WsSession,
      screenBack.shared.conn.heap[0]? = some s ∧ s.watches = true ∧ s.state = .ONLINE ∧
        s.socket = some 2 ∧ ⟨1, "reader-a", "absensi"⟩ ∈ s.listed readerTables .natural :=
    ⟨_, rfl, rfl, rfl, rfl, List.mem_of_getElem? (i := 0) rfl⟩
  have hview := hshows 0 s 2 hs hwatches hstate hsocket _ hlisted
  have hblank : screenBack.shared.view 2 = fun _ => none := rfl
  rw [hblank] at hview
  cases hview

end GatewayRealtime
