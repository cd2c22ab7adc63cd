/-
  Sessions on sockets that are closed.

  * `Connections.ZombieFree`: no registered session is connecting or online on a socket whose
    close has been delivered.
  * `Connections.Linked`: the socket of a session is bound to it and not closed.
  * `Tracked`: that, in a pool in which no two connections wait on one socket.
  * `zombieFree_iff`: a run is free of zombies exactly when no authentication succeeds for a
    socket that is closed by then.
-/
import GatewayRealtime.GatewayInv

namespace GatewayRealtime

/-- No registered session is connecting or online on a socket whose close was delivered. -/
def Connections.ZombieFree (k : Connections) : Prop :=
  ∀ (id : ℕ) (r : SessionRef) (s : WsSession) (c : ClientRef) (client : WsClient),
    k.find id = some r → k.heap[r]? = some s → s.state = .CONNECTING ∨ s.state = .ONLINE →
      s.socket = some c → k.clients[c]? = some client → client.readyState ≠ .CLOSED

/-- An authentication that succeeds finds the socket of its connection not closed. -/
def AuthenticatesLive (p : Pool Gateway Task) : Act GatewayEvent GatewayAnswer → Prop
  | .resume i (.authenticated (.ok _)) => ∀ (c : ClientRef) (client : WsClient),
    p.threads[i]? = some (.authenticate c) → p.shared.conn.clients[c]? = some client →
      client.readyState ≠ .CLOSED
  | _ => True

/-! ## Sockets and sessions -/

/-- What the socket `c` is bound to, and whether its close has been delivered. -/
def Connections.binding (k : Connections) (c : ClientRef) : Option (Option SessionRef × Bool) :=
  (k.clients.map WsClient.binding)[c]?

/-- The socket of a session is bound to it, and its close has not been delivered. -/
def Connections.Linked (k : Connections) : Prop :=
  ∀ r c, k.socket r = some c → k.binding c = some (some r, false)

section
variable {k k' : Connections} {a : Authenticated} {c : ClientRef} {r : SessionRef}

theorem Connections.binding_eq_some {b : Option SessionRef × Bool} :
    k.binding c = some b ↔ ∃ client, k.clients[c]? = some client ∧ client.binding = b := by
  rw [Connections.binding, List.getElem?_map, Option.map_eq_some_iff]

theorem Connections.Linked.zombieFree (h : k.Linked) : k.ZombieFree := by
  intro id r s c client _ hs _ hsocket hclient
  have hr : k.socket r = some c := by rw [Connections.socket, hs]; exact hsocket
  obtain ⟨client', hclient', hb⟩ := Connections.binding_eq_some.1 (h r c hr)
  rw [hclient] at hclient'
  cases hclient'
  have hclosed := congrArg Prod.snd hb
  simpa [WsClient.binding] using hclosed

/-- Sessions keep their sockets or lose them, and the bindings stay. -/
theorem Connections.Linked.of_socket (h : k.Linked)
    (hsocket : ∀ r c, k'.socket r = some c → k.socket r = some c)
    (hbinding : ∀ c, k'.binding c = k.binding c) : k'.Linked := fun r c hr => by
  rw [hbinding]
  exact h r c (hsocket r c hr)

theorem Connections.Kept.binding (h : k.Kept k') (c : ClientRef) : k'.binding c = k.binding c := by
  rw [Connections.binding, h.bindings]
  rfl

theorem Connections.Linked.kept (h : k.Linked) (hk : k.Kept k') : k'.Linked :=
  h.of_socket (fun r c hr => by rwa [Connections.socket, hk.heap] at hr) hk.binding

theorem Connections.socket_updateSession (k : Connections) (r : SessionRef)
    (f : WsSession → WsSession) (r' : SessionRef) :
    (k.updateSession r f).socket r' =
      (k.heap[r']?).bind fun s => if r' = r then (f s).socket else s.socket := by
  rw [Connections.socket, Connections.heap_updateSession]
  cases k.heap[r']? with
  | none => rfl
  | some s => by_cases h : r' = r <;> simp [h]

theorem Connections.socket_suspends (h : k.Suspends k' r) (r' : SessionRef) :
    k'.socket r' = if r' = r then none else k.socket r' := by
  obtain ⟨t, hheap⟩ := h.heap
  have hsocket := k.socket_updateSession r (fun s =>
    { s with state := .SUSPEND, socket := none, suspendTimer := some t }) r'
  rw [Connections.socket, hheap]
  refine hsocket.trans ?_
  split_ifs with heq
  · cases k.heap[r']? <;> rfl
  · rfl

theorem Connections.Suspends.binding (h : k.Suspends k' r) (c : ClientRef) :
    k'.binding c = k.binding c := by rw [Connections.binding, h.clients]; rfl

theorem Connections.Linked.suspends (h : k.Linked) (hs : k.Suspends k' r) : k'.Linked :=
  h.of_socket (fun r' c hr => by
    rw [Connections.socket_suspends hs] at hr
    split_ifs at hr
    exact hr) hs.binding

/-- A session that enters on a socket that is open and bound to none is linked to it. -/
theorem Connections.Linked.entered (h : k.Linked) (hk : k.Inv) (he : k.Entered k' a c r)
    (hc : k.binding c = some (none, false)) : k'.Linked := by
  have hbinding : ∀ c', k'.binding c' =
      (k.binding c').map fun b => if c = c' then (some r, b.2) else b := fun c' => by
    rw [Connections.binding, he.bindings, List.getElem?_modify]
    rfl
  obtain ⟨s, hs, hsocket, -⟩ := he.heap_self hk
  intro r' c' hr'
  rw [hbinding]
  by_cases hr : r' = r
  · subst hr
    have hc' : c = c' := by
      rw [Connections.socket, hs] at hr'
      exact Option.some.inj (hsocket.symm.trans hr')
    rw [← hc', hc]
    simp
  · rw [Connections.socket, he.heap_ne hr] at hr'
    have hlink := h r' c' hr'
    have hne : c ≠ c' := by
      rintro rfl
      rw [hc] at hlink
      cases hlink
    rw [hlink]
    simp [hne]

/-! ## Closing a socket -/

variable {cfg : GatewayConfig} {t₀ : ℤ} {g g' : Gateway}

theorem handleDisconnect_linked (h : g.conn.Linked) (hk : g.conn.Inv) (c : ClientRef) :
    (g.handleDisconnect cfg c).conn.Linked := by
  rcases handleDisconnect_cases cfg hk c with ⟨heq, -⟩ | ⟨r, -, -, hsuspends⟩
  · rw [heq]
    exact h
  · exact h.suspends hsuspends

/-- `readyState` of a socket becomes `CLOSED`. -/
def Connections.closed (k : Connections) (c : ClientRef) : Connections :=
  k.updateClient c fun client => { client with readyState := .CLOSED }

theorem Connections.binding_closed (k : Connections) (c c' : ClientRef) :
    (k.closed c).binding c' = (k.binding c').map fun b => if c' = c then (b.1, true) else b := by
  rw [Connections.binding, List.getElem?_map, Connections.closed, Connections.clients_updateClient,
    Connections.binding, List.getElem?_map]
  cases k.clients[c']? with
  | none => rfl
  | some client => by_cases h : c' = c <;> simp [h, WsClient.binding]

/-- A session on the closed socket is the one that the hook of the adapter finds. -/
theorem Connections.Linked.closed_session (h : k.Linked) (hr : k.socket r = some c) :
    ((k.closed c).clients[c]?).bind (·.session) = some r := by
  obtain ⟨client, hclient, hb⟩ := Connections.binding_eq_some.1 (h r c hr)
  rw [Connections.closed, Connections.clients_updateClient, hclient]
  have hsession : client.session = some r := congrArg Prod.fst hb
  simpa using hsession

/-- **What a close keeps.**  The socket closes, and one or two hooks run on it: whatever holds
    after the first one, and is kept by another, holds after the close. -/
theorem close_rule {I : Gateway → Prop} (hk : g.conn.Inv) (c : ClientRef) (client : WsClient)
    (hfirst : I (({ g with conn := g.conn.closed c } : Gateway).handleDisconnect cfg c))
    (hkeep : ∀ g', g'.conn.Inv → I g' → I (g'.handleDisconnect cfg c)) :
    I (g.close cfg c client) := by
  have hk₁ : (g.conn.closed c).Inv := hk.of_eq rfl rfl
  have hk₂ : (({ g with conn := g.conn.closed c } : Gateway).handleDisconnect cfg c).conn.Inv :=
    handleDisconnect_inv hk₁ c
  unfold Gateway.close
  dsimp only
  split_ifs
  · exact hkeep _ hk₂ hfirst
  · exact hfirst

/-- What holds once the socket has closed, and is kept by the hooks. -/
theorem close_keeps {I : Gateway → Prop} (hk : g.conn.Inv) (c : ClientRef) (client : WsClient)
    (hclosed : I { g with conn := g.conn.closed c })
    (hkeep : ∀ g', g'.conn.Inv → I g' → I (g'.handleDisconnect cfg c)) :
    I (g.close cfg c client) := by
  have hk₁ : (g.conn.closed c).Inv := hk.of_eq rfl rfl
  exact close_rule hk c client (hkeep _ hk₁ hclosed) hkeep

/-- The hook of the adapter takes the closed socket from its session. -/
theorem closed_linked (h : g.conn.Linked) (hk : g.conn.Inv) (c : ClientRef) :
    (({ g with conn := g.conn.closed c } : Gateway).handleDisconnect cfg c).conn.Linked := by
  have hk₁ : (g.conn.closed c).Inv := hk.of_eq rfl rfl
  -- a session on another socket is linked as before
  have hother : ∀ r c', g.conn.socket r = some c' → c' ≠ c →
      (g.conn.closed c).binding c' = some (some r, false) := fun r c' hr hne => by
    rw [Connections.binding_closed, h r c' hr]
    simp [hne]
  rcases handleDisconnect_cases cfg (g := { g with conn := g.conn.closed c }) hk₁ c with
    ⟨heq, hnot⟩ | ⟨r, hsession, -, hsuspends⟩
  · rw [heq]
    intro r c' hr
    refine hother r c' hr ?_
    rintro rfl
    exact hnot r (h.closed_session hr) hr
  · intro r' c' hr'
    rw [Connections.socket_suspends hsuspends] at hr'
    split_ifs at hr' with hne
    rw [hsuspends.binding]
    refine hother r' c' hr' ?_
    rintro rfl
    have hr := (h.closed_session hr').symm.trans hsession
    exact hne (Option.some.inj hr)

theorem close_linked (h : g.conn.Linked) (hk : g.conn.Inv) (c : ClientRef) (client : WsClient) :
    (g.close cfg c client).conn.Linked :=
  close_rule (I := fun g => g.conn.Linked) hk c client (closed_linked h hk c) fun _ hk' h' =>
    handleDisconnect_linked h' hk' c

/-- The session of a timer that fires has no socket. -/
theorem suspendTimer_linked (h : g.conn.Linked) (timer : SuspendTimer) :
    (g.suspendTimer timer).conn.Linked := by
  unfold Gateway.suspendTimer
  split
  · exact h
  · split_ifs
    · rw [presence_conn]
      refine h.of_socket (fun r c hr => ?_) fun c => ?_
      · rw [Connections.socket, Connections.unregister_heap] at hr
        have hsocket := g.conn.socket_updateSession timer.session
          (fun s => { s with state := .OFFLINE }) r
        rw [Connections.socket] at hsocket
        rw [hsocket] at hr
        simpa [Connections.socket] using hr
      · rw [Connections.binding, Connections.unregister_clients]
        rfl
    · exact h

theorem connected_linked (h : g.conn.Linked) (hk : g.conn.Inv)
    (hc : g.conn.binding c = some (none, false)) : (g.connected c a).1.conn.Linked := by
  obtain ⟨k₁, r, hentered, hkept⟩ := connected_conn hk c a
  have honline : (k₁.updateSession r fun s => { s with state := .ONLINE }).Linked :=
    (h.entered hk hentered hc).of_socket (fun r' c' hr' => by
      rw [Connections.socket_updateSession] at hr'
      simpa [Connections.socket] using hr') fun _ => rfl
  exact honline.kept hkept

/-- A connection that enters on a closed socket is a zombie. -/
theorem connected_zombie (hk : g.conn.Inv)
    (hc : ∃ session, g.conn.binding c = some (session, true)) :
    ¬ (g.connected c a).1.conn.ZombieFree := by
  obtain ⟨k₁, r, hentered, hkept⟩ := connected_conn hk c a
  obtain ⟨session, hc⟩ := hc
  obtain ⟨s, hs, hsocket, -⟩ := hentered.heap_self hk
  have hbinding : (g.connected c a).1.conn.binding c = some (some r, true) := by
    have hb : k₁.binding c = some (some r, true) := by
      rw [Connections.binding, hentered.bindings, List.getElem?_modify]
      rw [Connections.binding] at hc
      rw [hc]
      simp
    rw [hkept.binding]
    exact hb
  obtain ⟨client, hclient, hb⟩ := Connections.binding_eq_some.1 hbinding
  have hfind : (g.connected c a).1.conn.find a.id_enduser = some r := by
    rw [hkept.find]
    exact (hentered.find _).trans (if_pos rfl)
  have hheap : (g.connected c a).1.conn.heap[r]? = some { s with state := .ONLINE } := by
    rw [hkept.heap, Connections.heap_updateSession, hs]
    simp
  intro hfree
  have hclosed := congrArg Prod.snd hb
  exact hfree _ r _ c client hfind hheap (Or.inr rfl) hsocket hclient
    (by simpa [WsClient.binding] using hclosed)

/-! ## Bindings of the sockets that wait -/

theorem handleDisconnect_binding (hk : g.conn.Inv) (c c' : ClientRef) :
    (g.handleDisconnect cfg c).conn.binding c' = g.conn.binding c' := by
  rcases handleDisconnect_cases cfg hk c with ⟨heq, -⟩ | ⟨r, -, -, hsuspends⟩
  · rw [heq]
  · exact hsuspends.binding c'

theorem close_binding (hk : g.conn.Inv) (c : ClientRef) (client : WsClient) (c' : ClientRef) :
    (g.close cfg c client).conn.binding c' = (g.conn.closed c).binding c' :=
  close_keeps (I := fun g' => g'.conn.binding c' = (g.conn.closed c).binding c') hk c client rfl
    fun _ hk' h' => (handleDisconnect_binding hk' c c').trans h'

theorem suspendTimer_binding (g : Gateway) (timer : SuspendTimer) (c : ClientRef) :
    (g.suspendTimer timer).conn.binding c = g.conn.binding c := by
  unfold Gateway.suspendTimer
  split
  · rfl
  · split_ifs
    · rw [presence_conn, Connections.binding, Connections.unregister_clients]
      rfl
    · rfl

theorem connected_binding (hk : g.conn.Inv) {c' : ClientRef} (hne : c' ≠ c) :
    (g.connected c a).1.conn.binding c' = g.conn.binding c' := by
  obtain ⟨k₁, r, hentered, hkept⟩ := connected_conn hk c a
  rw [hkept.binding]
  have hb : k₁.binding c' = g.conn.binding c' := by
    rw [Connections.binding, hentered.bindings, List.getElem?_modify_ne _ _ hne.symm]
    rfl
  exact hb

/-- The sockets of connections that have not entered. -/
def waitingClients (p : Pool Gateway Task) : List ClientRef := p.threads.filterMap Task.waiting

/-- Sessions are linked to their sockets, and each connection that has not entered has a socket
    of its own, bound to no session. -/
structure Tracked (cfg : GatewayConfig) (t₀ : ℤ) (p : Pool Gateway Task) : Prop where
  consistent : Consistent cfg t₀ p
  linked : p.shared.conn.Linked
  unbound : ∀ c ∈ waitingClients p, ∃ closed, p.shared.conn.binding c = some (none, closed)
  nodup : (waitingClients p).Nodup

variable {p p' : Pool Gateway Task}

theorem tracked_start (cfg : GatewayConfig) (t₀ : ℤ) : Tracked cfg t₀ (Gateway.start t₀) where
  consistent := consistent_start cfg t₀
  linked := nofun
  unbound := List.forall_mem_nil _
  nodup := List.nodup_nil

/-- A socket that is bound to no session stays so. -/
def Connections.KeepsUnbound (k k' : Connections) : Prop :=
  ∀ c closed, k.binding c = some (none, closed) → ∃ closed', k'.binding c = some (none, closed')

theorem Connections.keepsUnbound_of_eq (h : ∀ c, k'.binding c = k.binding c) : k.KeepsUnbound k' :=
  fun c closed hc => ⟨closed, by rw [h, hc]⟩

theorem waitingClients_append {new : List Task} (g : Gateway) (hnew : ∀ t ∈ new, t.waiting = none) :
    waitingClients ⟨g, p.threads ++ new⟩ = waitingClients p := by
  have hnone : new.filterMap Task.waiting = [] := List.filterMap_eq_nil_iff.2 hnew
  simp [waitingClients, hnone]

/-- After a stretch that leaves no connection waiting, its own socket is not waited on. -/
theorem waitingClients_resume {i : ℕ} {t t' : Task} {new : List Task} (g : Gateway)
    (ht : p.threads[i]? = some t) (ht' : t'.waiting = none) (hnew : ∀ t ∈ new, t.waiting = none) :
    (t.waiting.toList ++ waitingClients ⟨g, p.threads.set i t' ++ new⟩).Perm
      (waitingClients p) := by
  have hnone : new.filterMap Task.waiting = [] := List.filterMap_eq_nil_iff.2 hnew
  have hperm := filterMap_set_perm Task.waiting t' ht
  rw [ht'] at hperm
  simpa [waitingClients, hnone] using hperm

/-- A connection waits for its authentication when the limiter has let it pass. -/
theorem waitingClients_authenticate {i : ℕ} {c : ClientRef} (g : Gateway)
    (ht : p.threads[i]? = some (.rateLimit c)) :
    (waitingClients ⟨g, p.threads.set i (.authenticate c) ++ []⟩).Perm (waitingClients p) := by
  have hperm := filterMap_set_perm Task.waiting (.authenticate c) ht
  rw [waitingClients, List.append_nil]
  exact (List.perm_append_left_iff [c]).1 hperm

/-- No connection starts to wait, and none enters. -/
theorem Tracked.append {new : List Task} (hp : Tracked cfg t₀ p)
    (hconsistent : Consistent cfg t₀ ⟨g', p.threads ++ new⟩) (hlinked : g'.conn.Linked)
    (hkeeps : p.shared.conn.KeepsUnbound g'.conn) (hnew : ∀ t ∈ new, t.waiting = none) :
    Tracked cfg t₀ ⟨g', p.threads ++ new⟩ where
  consistent := hconsistent
  linked := hlinked
  unbound c hc := by
    rw [waitingClients_append g' hnew] at hc
    obtain ⟨closed, hb⟩ := hp.unbound c hc
    exact hkeeps c closed hb
  nodup := by
    rw [waitingClients_append g' hnew]
    exact hp.nodup

/-- A new socket. -/
theorem Tracked.connect (hp : Tracked cfg t₀ p)
    (hg' : g'.conn = { p.shared.conn with clients := p.shared.conn.clients ++ [{}] })
    (hconsistent : Consistent cfg t₀
      ⟨g', p.threads ++ [.rateLimit p.shared.conn.clients.length]⟩) :
    Tracked cfg t₀ ⟨g', p.threads ++ [.rateLimit p.shared.conn.clients.length]⟩ := by
  have hmap : g'.conn.clients.map WsClient.binding =
      p.shared.conn.clients.map WsClient.binding ++ [(none, false)] := by
    rw [hg', List.map_append]
    rfl
  have hold : ∀ c b, p.shared.conn.binding c = some b → g'.conn.binding c = some b := by
    intro c b hb
    rw [Connections.binding, hmap,
      List.getElem?_append_left (List.getElem?_eq_some_iff.1 hb).1]
    exact hb
  have hfresh : g'.conn.binding p.shared.conn.clients.length = some (none, false) := by
    rw [Connections.binding, hmap, ← List.length_map WsClient.binding,
      List.getElem?_concat_length]
  have hwaiting : waitingClients ⟨g', p.threads ++ [.rateLimit p.shared.conn.clients.length]⟩ =
      waitingClients p ++ [p.shared.conn.clients.length] := by
    simp [waitingClients, Task.waiting]
  refine ⟨hconsistent, fun r c hr => ?_, fun c hc => ?_, ?_⟩
  · rw [hg'] at hr
    exact hold c _ (hp.linked r c hr)
  · rw [hwaiting, List.mem_append, List.mem_singleton] at hc
    rcases hc with hc | rfl
    · obtain ⟨closed, hb⟩ := hp.unbound c hc
      exact ⟨closed, hold c _ hb⟩
    · exact ⟨false, hfresh⟩
  · rw [hwaiting]
    refine hp.nodup.append (List.nodup_singleton _) (List.disjoint_singleton.2 fun hmem => ?_)
    obtain ⟨closed, hb⟩ := hp.unbound _ hmem
    have hlt := (List.getElem?_eq_some_iff.1 hb).1
    rw [List.length_map] at hlt
    exact lt_irrefl _ hlt

/-- An event keeps sessions linked. -/
theorem Tracked.event {e : GatewayEvent} {new : List Task} (hp : Tracked cfg t₀ p)
    (hconsistent : Consistent cfg t₀ ⟨g', p.threads ++ new⟩)
    (h : p.shared.onEvent cfg e = some (g', new)) : Tracked cfg t₀ ⟨g', p.threads ++ new⟩ := by
  have hinv := hp.consistent.1
  obtain ⟨now, rfl, hle, rfl, rfl⟩ | ⟨rfl, rfl, rfl⟩ | ⟨c, client, rfl, -, -, rfl, rfl⟩ |
    ⟨i, t, rfl, -, -, rfl, rfl⟩ | ⟨r, payload, -, rfl, rfl⟩ | ⟨-, hh, hnew⟩ :=
      onEvent_cases .any hinv.indexed hinv.storeInv h
  · exact hp.append hconsistent hp.linked (Connections.keepsUnbound_of_eq fun _ => rfl)
      (List.forall_mem_nil _)
  · exact hp.connect rfl hconsistent
  · refine hp.append hconsistent (close_linked hp.linked hinv.conn c client)
      (fun c' closed hb => ?_) (List.forall_mem_nil _)
    rw [close_binding hinv.conn, Connections.binding_closed, hb]
    by_cases heq : c' = c
    · exact ⟨true, by simp [heq]⟩
    · exact ⟨closed, by simp [heq]⟩
  · refine hp.append hconsistent (suspendTimer_linked (g := { p.shared with
      conn := { p.shared.conn with timers := p.shared.conn.timers.delete i } }) hp.linked t)
      (Connections.keepsUnbound_of_eq fun c => ?_) (List.forall_mem_nil _)
    rw [suspendTimer_binding]
    rfl
  · have hh : Handling cfg .any p.shared (p.shared.acknowledge cfg r payload) :=
      acknowledge_handling (fun _ _ => trivial) (fun _ _ _ _ => trivial) payload
    exact hp.append hconsistent (hp.linked.kept hh.kept)
      (Connections.keepsUnbound_of_eq hh.kept.binding) (by simp [Task.waiting])
  · exact hp.append hconsistent (hp.linked.kept hh.kept)
      (Connections.keepsUnbound_of_eq hh.kept.binding) fun t ht => (hnew t ht).waiting

/-- A stretch after which the computation does not wait for a session. -/
theorem Tracked.resume {i : ℕ} {t t' : Task} {new : List Task} (hp : Tracked cfg t₀ p)
    (hconsistent : Consistent cfg t₀ ⟨g', p.threads.set i t' ++ new⟩) (hlinked : g'.conn.Linked)
    (ht : p.threads[i]? = some t) (ht' : t'.waiting = none) (hnew : ∀ t ∈ new, t.waiting = none)
    (hkeeps : ∀ c, t.waiting ≠ some c → g'.conn.binding c = p.shared.conn.binding c) :
    Tracked cfg t₀ ⟨g', p.threads.set i t' ++ new⟩ := by
  have hperm := waitingClients_resume g' ht ht' hnew
  have hnodup := hperm.nodup_iff.2 hp.nodup
  refine ⟨hconsistent, hlinked, fun c hc => ?_, hnodup.of_append_right⟩
  have hne : t.waiting ≠ some c := fun hwait =>
    List.disjoint_of_nodup_append hnodup (by simp [hwait]) hc
  rw [hkeeps c hne]
  exact hp.unbound c (hperm.subset (List.mem_append_right _ hc))

/-- A step keeps sessions linked, unless it lets a closed socket in. -/
theorem Tracked.step {act : Act GatewayEvent GatewayAnswer} (hp : Tracked cfg t₀ p)
    (hok : AuthenticatesLive p act) (hst : (gatewayProgram cfg).step p act = some p') :
    Tracked cfg t₀ p' := by
  have hconsistent := hp.consistent.step hst
  obtain ⟨e, g', new, rfl, he, rfl⟩ | ⟨i, answer, t, g', t', new, rfl, ht, hr, rfl⟩ :=
    Program.step_cases hst
  · exact hp.event hconsistent he
  · have hsound := hp.consistent.2 t (List.mem_of_getElem? ht)
    obtain ⟨c, rfl, rfl, hh, rfl⟩ | ⟨c, auth, rfl, rfl, hconnected⟩ |
      ⟨c, r, devices, rfl, rfl, rfl, rfl, rfl⟩ | ⟨q, ids, rfl, rfl, rfl, rfl, rfl⟩ |
      ⟨hh, htask, hnew⟩ := onAnswer_cases .any hp.consistent.1.indexed hsound hr
    · have hwaiting := waitingClients_authenticate g' ht
      refine ⟨hconsistent, hp.linked.kept hh.kept, fun c' hc' => ?_, hwaiting.nodup_iff.2 hp.nodup⟩
      rw [hh.kept.binding]
      exact hp.unbound c' (hwaiting.subset hc')
    · obtain ⟨-, htask, hnew⟩ := connected_sound (g := p.shared) c auth g'.conn
      have hwaiting : c ∈ waitingClients p :=
        List.mem_filterMap.2 ⟨_, List.mem_of_getElem? ht, rfl⟩
      obtain ⟨closed, hb⟩ := hp.unbound c hwaiting
      obtain ⟨client, hclient, hbinding⟩ := Connections.binding_eq_some.1 hb
      have hlive := hok c client ht hclient
      have hclosed : decide (client.readyState = .CLOSED) = closed := congrArg Prod.snd hbinding
      have hopen : closed = false := hclosed.symm.trans (decide_eq_false hlive)
      have hlinked := connected_linked (a := auth) hp.linked hp.consistent.1.conn (hopen ▸ hb)
      have hothers : ∀ c', c' ≠ c → (p.shared.connected c auth).1.conn.binding c' =
          p.shared.conn.binding c' := fun c' hne => connected_binding hp.consistent.1.conn hne
      rw [hconnected] at htask hnew hlinked hothers
      refine hp.resume hconsistent hlinked ht htask (fun t ht => ?_) fun c' hne => hothers c' ?_
      · rw [show new = [] from hnew] at ht
        cases ht
      · rintro rfl
        exact hne rfl
    · have hh : Handling cfg .any p.shared
          ((p.shared.log (p.shared.conn.snapshot r devices)).ready c) :=
        snapshot_handling (fun _ _ _ _ => trivial) c
      exact hp.resume hconsistent (hp.linked.kept hh.kept) ht rfl (List.forall_mem_nil _)
        fun c _ => hh.kept.binding c
    · have hh : Handling cfg .any p.shared (p.shared.finishQossing cfg q ids).1 :=
        finishQossing_handling hsound.routed (fun _ => trivial) fun _ => trivial
      exact hp.resume hconsistent (hp.linked.kept hh.kept) ht rfl (List.forall_mem_nil _)
        fun c _ => hh.kept.binding c
    · have hkept : p.shared.conn.Kept g'.conn := hh.kept
      exact hp.resume hconsistent (hp.linked.kept hkept) ht htask.waiting
        (fun t ht => (hnew t ht).waiting) fun c _ => hkept.binding c

/-- A step that lets a closed socket in makes a zombie. -/
theorem Tracked.breaks {act : Act GatewayEvent GatewayAnswer} (hp : Tracked cfg t₀ p)
    (hok : ¬ AuthenticatesLive p act) (hst : (gatewayProgram cfg).step p act = some p') :
    ¬ p'.shared.conn.ZombieFree := by
  cases act with
  | event e => exact absurd trivial hok
  | resume i answer =>
    cases answer with
    | authenticated result =>
      cases result with
      | error f => exact absurd trivial hok
      | ok auth =>
        simp only [AuthenticatesLive, not_forall, not_not] at hok
        obtain ⟨c, client, ht, hclient, hclosed⟩ := hok
        obtain ⟨t, ht', hst⟩ := Option.bind_eq_some_iff.1 hst
        rw [ht] at ht'
        cases ht'
        have hp' : p' = ⟨(p.shared.connected c auth).1,
            p.threads.set i (p.shared.connected c auth).2.1 ++ (p.shared.connected c auth).2.2⟩ :=
          (Option.some.inj hst).symm
        rw [hp']
        refine connected_zombie hp.consistent.1.conn ⟨client.session, ?_⟩
        rw [Connections.binding_eq_some]
        exact ⟨client, hclient, by simp [WsClient.binding, hclosed]⟩
    | _ => exact absurd trivial hok

/-- **Zombies.**  No state of a run has a registered session that is connecting or online on a
    socket whose close was delivered, iff no authentication of the run succeeds for a socket
    that is closed by then: the hook of the adapter finds no session when the close comes
    first, and nothing looks at the socket again. -/
theorem zombieFree_iff {acts : List (Act GatewayEvent GatewayAnswer)}
    (h : Run (gatewayProgram cfg).step anyStep (Gateway.start t₀) acts p) :
    (∀ q, Visited (gatewayProgram cfg).step (Gateway.start t₀) acts q →
        q.shared.conn.ZombieFree) ↔
      Run (gatewayProgram cfg).step AuthenticatesLive (Gateway.start t₀) acts p :=
  Run.safe_iff (I := Tracked cfg t₀) (tracked_start cfg t₀) (fun _ hp => hp.linked.zombieFree)
    (fun _ _ _ hp hok hst => hp.step hok hst) (fun _ _ _ hp hok hst => hp.breaks hok hst) h

end

/-- A device that connects. -/
def scanner : Authenticated where
  id_enduser := 7
  auth := .device
    { clientId := "shop", products := [], deviceId := "scanner-1", blacklistSend := [],
      blacklistGet := [], id_device := 3, device_product := "absensi" }
  product := none
  type := .device
  issued := rfl

/-- The device connects, and its socket closes after that. -/
def scannerVisit : List (Act GatewayEvent GatewayAnswer) :=
  [.event .connect, .resume 0 (.rateLimit (.ok ())), .resume 0 (.authenticated (.ok scanner)),
    .event (.close 0)]

/-- Where the visit of the device leads. -/
def afterVisit : Pool Gateway Task :=
  (exec (gatewayProgram .defaults).step (Gateway.start 0) scannerVisit).getD (Gateway.start 0)

theorem zombieFree_iff_scanner :
    (∀ q, Visited (gatewayProgram .defaults).step (Gateway.start 0) scannerVisit q →
        q.shared.conn.ZombieFree) ↔
      Run (gatewayProgram .defaults).step AuthenticatesLive (Gateway.start 0) scannerVisit
        afterVisit :=
  zombieFree_iff (run_of_exec rfl)

/-- The socket of the device closes while its token is checked. -/
def closedTooSoon : List (Act GatewayEvent GatewayAnswer) :=
  [.event .connect, .resume 0 (.rateLimit (.ok ())), .event (.close 0),
    .resume 0 (.authenticated (.ok scanner))]

/-- The device is online on a closed socket. -/
theorem closedTooSoon_zombie : ∃ p,
    Run (gatewayProgram .defaults).step anyStep (Gateway.start 0) closedTooSoon p ∧
      ¬ p.shared.conn.ZombieFree := by
  obtain ⟨p, hp⟩ : ∃ p, exec (gatewayProgram .defaults).step (Gateway.start 0) closedTooSoon =
      some p := ⟨_, rfl⟩
  have hvalues : (exec (gatewayProgram .defaults).step (Gateway.start 0) closedTooSoon).map
      (fun p => (p.shared.conn.find 7,
        p.shared.conn.heap[0]?.map fun s => (s.state, s.socket), p.shared.conn.clients[0]?)) =
      some (some 0, some (.ONLINE, some 0),
        some { readyState := .CLOSED, session := some 0, listening := true }) := by decide
  rw [hp, Option.map_some, Option.some.injEq, Prod.mk.injEq, Prod.mk.injEq] at hvalues
  obtain ⟨hfind, hheap, hclient⟩ := hvalues
  obtain ⟨s, hs, hstate⟩ := Option.map_eq_some_iff.1 hheap
  obtain ⟨hstate, hsocket⟩ := Prod.mk.inj hstate
  exact ⟨p, run_of_exec hp, fun hfree =>
    hfree 7 0 s 0 _ hfind hs (Or.inr hstate) hsocket hclient rfl⟩

end GatewayRealtime
