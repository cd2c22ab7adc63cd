/-
  The sockets of sessions, when each handler runs to its end.

  * `Connections.Attached`: the socket of a session is open and bound to it; what the handlers do
    to sessions and sockets keeps it so.
  * `Connections.enters`: the session that a connection takes over, or else creates.
  * `establishSession_binds`: what `establishSession` does to the sockets, and which of them
    counts as resumed.
-/
import GatewayRealtime.Zombie

namespace GatewayRealtime

/-- The socket of a session is open and bound to it. -/
def Connections.Attached (k : Connections) : Prop :=
  ∀ r c, k.socket r = some c → ∃ client, k.clients[c]? = some client ∧ client.session = some r ∧
    client.readyState = .OPEN

/-- The session that a connection takes over, or else the one that it creates. -/
def Connections.enters (k : Connections) (a : Authenticated) : WsSession :=
  ((k.find a.id_enduser).bind fun r => k.heap[r]?).getD
    { sessionId := a.id_enduser, principal := a.auth, type := a.type, product := a.product }

/-- The gateway with a new socket. -/
def Gateway.joined (g : Gateway) : Gateway :=
  { g with conn := { g.conn with clients := g.conn.clients ++ [{}] } }

/-- The socket of a session has closed, and the session is suspended, without a timer yet. -/
def Connections.suspendedFrom (k : Connections) (c : ClientRef) (r : SessionRef) (s : WsSession) :
    Connections :=
  ((k.closed c).updateSession r fun s => { s with state := .SUSPEND, socket := none }).clearTimeout
    s.suspendTimer

/-- What a connection does to the sockets: its own one is bound to the session `r`, and only the
    one that the session had before is closed. -/
structure Connections.Binds (k k' : Connections) (c : ClientRef) (r : SessionRef) : Prop where
  own : ∃ client, k'.clients[c]? = some client ∧ client.session = some r ∧
    client.readyState = .OPEN
  others : ∀ c' client, k.clients[c']? = some client → c' ≠ c → k.socket r ≠ some c' →
    k'.clients[c']? = some client

section
variable {k k' : Connections} {g : Gateway} {a : Authenticated} {r r' : SessionRef}
  {s : WsSession} {c : ClientRef}

/-! ## Attached sockets -/

theorem Connections.Attached.isOpen (h : k.Attached) (hr : k.socket r = some c) :
    k.isOpen c = true := by
  obtain ⟨client, hclient, -, hopen⟩ := h r c hr
  simp [Connections.isOpen, hclient, hopen]

theorem isActive_of_socket (hr : k.socket r = some c) (hopen : k.isOpen c = true) :
    k.isActive r = true := k.isActive_iff.2 ⟨c, hr, hopen⟩

theorem Connections.Attached.unique (h : k.Attached) (hr : k.socket r = some c)
    (hr' : k.socket r' = some c) : r = r' := by
  obtain ⟨client, hclient, hsession, -⟩ := h r c hr
  obtain ⟨client', hclient', hsession', -⟩ := h r' c hr'
  rw [hclient] at hclient'
  cases hclient'
  exact Option.some.inj (hsession.symm.trans hsession')

theorem Connections.Attached.lt (h : k.Attached) (hr : k.socket r = some c) :
    c < k.clients.length := by
  obtain ⟨client, hclient, -⟩ := h r c hr
  exact (List.getElem?_eq_some_iff.1 hclient).1

theorem Connections.Attached.linked (h : k.Attached) : k.Linked := by
  intro r c hr
  obtain ⟨client, hclient, hsession, hopen⟩ := h r c hr
  exact Connections.binding_eq_some.2 ⟨client, hclient, by simp [WsClient.binding, hsession, hopen]⟩

/-- Sessions keep their sockets or lose them, and what is said of these sockets stays. -/
theorem Connections.Attached.of_socket (h : k.Attached)
    (hsocket : ∀ r c, k'.socket r = some c → k.socket r = some c)
    (hclients : ∀ r c client, k'.socket r = some c → k.clients[c]? = some client →
      ∃ client', k'.clients[c]? = some client' ∧ client'.session = client.session ∧
        client'.readyState = client.readyState) : k'.Attached := by
  intro r c hr
  obtain ⟨client, hclient, hsession, hopen⟩ := h r c (hsocket r c hr)
  obtain ⟨client', hclient', hsession', hopen'⟩ := hclients r c client hr hclient
  exact ⟨client', hclient', hsession'.trans hsession, hopen'.trans hopen⟩

theorem Connections.Attached.joined (h : g.conn.Attached) : g.joined.conn.Attached :=
  h.of_socket (fun _ _ hr => hr) fun r c client hr hclient =>
    ⟨client, by rw [Gateway.joined, List.getElem?_append_left (h.lt hr), hclient], rfl, rfl⟩

theorem Connections.Attached.updateSession (h : k.Attached) (f : WsSession → WsSession)
    (hf : ∀ s, (f s).socket = none ∨ (f s).socket = s.socket) :
    (k.updateSession r f).Attached := by
  refine h.of_socket (fun r' c hr' => ?_) fun r' c client _ hclient => ⟨client, hclient, rfl, rfl⟩
  rw [Connections.socket_updateSession] at hr'
  obtain ⟨s, hs, hsocket⟩ := Option.bind_eq_some_iff.1 hr'
  have hold : s.socket = some c := by
    split_ifs at hsocket
    · rcases hf s with hnone | hsame
      · rw [hnone] at hsocket
        cases hsocket
      · rw [← hsame, hsocket]
    · exact hsocket
  rw [Connections.socket, hs]
  exact hold

theorem Connections.Attached.updateClient (h : k.Attached) (f : WsClient → WsClient)
    (hf : ∀ client, (f client).session = client.session ∧
      (f client).readyState = client.readyState) : (k.updateClient c f).Attached := by
  refine h.of_socket (fun _ _ hr => hr) fun r c' client _ hclient => ?_
  refine ⟨if c' = c then f client else client, ?_, ?_⟩
  · rw [Connections.clients_updateClient, hclient]
    rfl
  · split_ifs
    · exact hf client
    · exact ⟨rfl, rfl⟩

/-- A socket that is no session's is closed. -/
theorem Connections.Attached.closed (h : k.Attached) (hfree : ∀ r, k.socket r ≠ some c) :
    (k.closed c).Attached := by
  refine h.of_socket (fun _ _ hr => hr) fun r c' client hr hclient => ⟨client, ?_, rfl, rfl⟩
  have hne : c' ≠ c := by
    rintro rfl
    exact hfree r hr
  rw [Connections.closed, Connections.clients_updateClient, hclient]
  simp [hne]

/-- The socket of a session is closed, and the session leaves it. -/
theorem Connections.Attached.suspendedFrom (h : k.Attached) (hs : k.heap[r]? = some s)
    (hc : s.socket = some c) : (k.suspendedFrom c r s).Attached := by
  have hr : k.socket r = some c := by
    rw [Connections.socket, hs]
    exact hc
  have hsocket : ∀ b c', (k.suspendedFrom c r s).socket b = some c' →
      k.socket b = some c' ∧ c' ≠ c := by
    intro b c' hb
    rw [Connections.socket, Connections.suspendedFrom, Connections.clearTimeout_heap] at hb
    have hb' : ((k.closed c).updateSession r fun s =>
        { s with state := .SUSPEND, socket := none }).socket b = some c' := hb
    rw [Connections.socket_updateSession] at hb'
    obtain ⟨sb, hsb, hsocket⟩ := Option.bind_eq_some_iff.1 hb'
    have hsb' : k.heap[b]? = some sb := hsb
    split_ifs at hsocket with hbr
    have hkb : k.socket b = some c' := by
      rw [Connections.socket, hsb']
      exact hsocket
    refine ⟨hkb, ?_⟩
    rintro rfl
    exact hbr (h.unique hkb hr)
  refine h.of_socket (fun b c' hb => (hsocket b c' hb).1) fun b c' client hb hclient =>
    ⟨client, ?_, rfl, rfl⟩
  rw [Connections.suspendedFrom, Connections.clearTimeout_clients,
    Connections.updateSession_clients, Connections.closed, Connections.clients_updateClient,
    hclient]
  simp [(hsocket b c' hb).2]

/-! ## The sockets of a connection -/

/-- The session that enters is the one that is taken over, or the new one. -/
theorem Connections.Entered.enters (hk : k.Inv) (h : k.Entered k' a c r)
    (hs : k'.heap[r]? = some s) : s.identity = (k.enters a).identity ∧
      ∀ s₀, k.heap[r]? = some s₀ → s₀ = k.enters a := by
  rcases h.heap with ⟨hfind, rfl, hheap⟩ | ⟨hfind, f, hf, hheap⟩
  · rw [hheap, List.getElem?_concat_length] at hs
    cases hs
    refine ⟨by simp [Connections.enters, hfind, WsSession.identity], fun s₀ hs₀ => ?_⟩
    simp at hs₀
  · obtain ⟨s₀, hs₀, -⟩ := hk.registered _ r hfind
    have henters : k.enters a = s₀ := by simp [Connections.enters, hfind, hs₀]
    rw [hheap] at hs
    simp only [List.getElem?_modify, hs₀, if_true] at hs
    cases hs
    refine ⟨by rw [henters]; exact (hf s₀).1, fun s₁ hs₁ => ?_⟩
    rw [hs₀] at hs₁
    cases hs₁
    exact henters.symm

/-- The assignments to the new socket, over connections in which at most the old socket of the
    session has been closed. -/
theorem binds_updateClient (k₁ : Connections) (f : WsClient → WsClient)
    (hclients : k₁.clients = k.clients ∨
      ∃ old, k.socket r = some old ∧ k₁.clients = (k.closeSocket old).clients)
    (hc : k.clients[c]? = some {}) (hfree : k.socket r ≠ some c)
    (hf : (f {}).session = some r ∧ (f {}).readyState = .OPEN) :
    k.Binds (k₁.updateClient c f) c r ∧ (k₁.updateClient c f).clients[c]? = some (f {}) := by
  have hold : ∀ c' client, k.clients[c']? = some client → k.socket r ≠ some c' →
      k₁.clients[c']? = some client := by
    intro c' client hclient hne
    rcases hclients with heq | ⟨old, hsocket, heq⟩
    · rw [heq, hclient]
    · have hother : c' ≠ old := by
        rintro rfl
        exact hne hsocket
      rw [heq, Connections.closeSocket, Connections.clients_updateClient, hclient]
      simp [hother]
  have hown : (k₁.updateClient c f).clients[c]? = some (f {}) := by
    rw [Connections.clients_updateClient, hold c {} hc hfree]
    simp
  refine ⟨⟨⟨f {}, hown, hf⟩, fun c' client hclient hne hsocket => ?_⟩, hown⟩
  rw [Connections.clients_updateClient, hold c' client hclient hsocket]
  simp [hne]

theorem resumeSession_binds (hs : k.heap[r]? = some s) (hc : k.clients[c]? = some {})
    (hfree : k.socket r ≠ some c) : k.Binds (k.resumeSession r s c) c r ∧
      (k.resumeSession r s c).clients[c]? = some { isResume := true, session := some r } := by
  have hsocket : k.socket r = s.socket := by rw [Connections.socket, hs]; rfl
  unfold Connections.resumeSession
  refine binds_updateClient _ (fun client => { client with isResume := true, session := some r })
    ?_ hc hfree ⟨rfl, rfl⟩
  cases hold : s.socket with
  | none => exact Or.inl (by simp)
  | some old => exact Or.inr ⟨old, by rw [hsocket, hold], by simp⟩

theorem replaceSession_binds (ha : k.Attached) (hs : k.heap[r]? = some s)
    (hc : k.clients[c]? = some {}) (hfree : k.socket r ≠ some c) :
    k.Binds (k.replaceSession r s c) c r ∧ (k.replaceSession r s c).clients[c]? = some
      { session := some r, isResume := !(s.type = .browser || s.type = .desktop) } := by
  have hsocket : k.socket r = s.socket := by rw [Connections.socket, hs]; rfl
  unfold Connections.replaceSession
  refine binds_updateClient _ (fun client => { client with
    session := some r, isResume := !(s.type = .browser || s.type = .desktop) }) ?_ hc hfree
      ⟨rfl, rfl⟩
  cases hold : s.socket with
  | none => exact Or.inl rfl
  | some old =>
    refine Or.inr ⟨old, by rw [hsocket, hold], ?_⟩
    have hopen := ha.isOpen (hsocket.trans hold)
    simp [hopen, Connections.closeSocket, Connections.updateClient]

theorem createSession_binds (hc : k.clients[c]? = some {})
    (hfree : k.socket k.heap.length ≠ some c) (a : Authenticated) :
    let e := k.createSession a.id_enduser a.auth a.type a.product c
    k.Binds e.1 c e.2 ∧ e.1.clients[c]? = some { session := some e.2 } := by
  obtain ⟨hbinds, hown⟩ := binds_updateClient (k := k) { k with heap := k.heap ++ [{
      sessionId := a.id_enduser, principal := a.auth, type := a.type, product := a.product,
      socket := some c }] } (fun client => { client with session := some k.heap.length })
    (Or.inl rfl) hc hfree ⟨rfl, rfl⟩
  refine ⟨⟨?_, ?_⟩, ?_⟩
  · simp only [Connections.createSession, Connections.register_clients]
    exact hbinds.own
  · simp only [Connections.createSession, Connections.register_clients]
    exact hbinds.others
  · simp only [Connections.createSession, Connections.register_clients]
    exact hown

/-- The socket of a connection that enters: whether it counts as resumed, for a browser. -/
theorem establishSession_binds (hk : k.Inv) (ha : k.Attached) (a : Authenticated)
    (hc : k.clients[c]? = some {}) :
    let e := k.establishSession a.id_enduser a.auth a.type a.product c
    k.Binds e.1 c e.2 ∧ ∃ client, e.1.clients[c]? = some client ∧
      ((k.enters a).type.isBrowser = true →
        client.isResume = decide ((k.enters a).state = .SUSPEND)) := by
  -- nobody is on the new socket yet
  have hfree : ∀ r, k.socket r ≠ some c := by
    intro r hr
    obtain ⟨client, hclient, hsession, -⟩ := ha r c hr
    rw [hc] at hclient
    cases hclient
    cases hsession
  intro e
  cases hfind : k.find a.id_enduser with
  | none =>
    have hcreate : e = k.createSession a.id_enduser a.auth a.type a.product c := by
      simp [e, Connections.establishSession, hfind]
    have henters : (k.enters a).state = .CONNECTING := by simp [Connections.enters, hfind]
    obtain ⟨hbinds, hown⟩ := createSession_binds hc (hfree _) a
    rw [hcreate]
    exact ⟨hbinds, _, hown, fun _ => by simp [henters]⟩
  | some r =>
    obtain ⟨s, hs, -⟩ := hk.registered _ r hfind
    have henters : k.enters a = s := by simp [Connections.enters, hfind, hs]
    by_cases hsuspend : s.state = .SUSPEND
    · have hresume : e = (k.resumeSession r s c, r) := by
        simp [e, Connections.establishSession, hfind, hs, hsuspend]
      obtain ⟨hbinds, hown⟩ := resumeSession_binds hs hc (hfree r)
      rw [hresume]
      exact ⟨hbinds, _, hown, fun _ => by simp [henters, hsuspend]⟩
    · have hreplace : e = (k.replaceSession r s c, r) := by
        simp [e, Connections.establishSession, hfind, hs, hsuspend]
      obtain ⟨hbinds, hown⟩ := replaceSession_binds ha hs hc (hfree r)
      rw [hreplace]
      refine ⟨hbinds, _, hown, fun hbrowser => ?_⟩
      rw [henters] at hbrowser
      rcases TypeEnduser.isBrowser_iff.1 hbrowser with htype | htype <;>
        simp [henters, hsuspend, htype]

theorem Connections.Attached.entered (h : k.Attached) (hk : k.Inv) (he : k.Entered k' a c r)
    (hb : k.Binds k' c r) (hc : k.clients[c]? = some {}) : k'.Attached := by
  obtain ⟨s, hs, hsocket, -⟩ := he.heap_self hk
  intro r' c' hr'
  by_cases hr : r' = r
  · subst hr
    rw [Connections.socket, hs] at hr'
    obtain rfl : c = c' := Option.some.inj (hsocket.symm.trans hr')
    exact hb.own
  · rw [Connections.socket, he.heap_ne hr] at hr'
    obtain ⟨client, hclient, hsession, hopen⟩ := h r' c' hr'
    refine ⟨client, hb.others c' client hclient ?_ fun hown => hr (h.unique hr' hown), hsession,
      hopen⟩
    rintro rfl
    rw [hc] at hclient
    cases hclient
    cases hsession

end

end GatewayRealtime
