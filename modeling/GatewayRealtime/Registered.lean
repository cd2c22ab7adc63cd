/-
  The sessions and the registry, turn by turn.

  * `WsSession.Standing`: a session with a socket is connecting or online, one without is
    suspended or gone.
  * `Connections.Inv`: every session that is not gone is registered under its id, and nothing
    else is.
  * `Connections.Entered`: what `establishSession` does, whichever branch it takes.
  * `Inv.entered`, `Inv.online`, `Inv.suspended`, `Inv.dropped`: every turn keeps the invariant.
-/
import GatewayRealtime.Steps

namespace GatewayRealtime

/-- A session with a socket is connecting or online; one without is suspended or gone. -/
def WsSession.Standing (s : WsSession) : Prop :=
  s.socket ≠ none ∧ (s.state = .CONNECTING ∨ s.state = .ONLINE) ∨
    s.socket = none ∧ (s.state = .SUSPEND ∨ s.state = .OFFLINE)

theorem WsSession.Standing.online {s : WsSession} (h : s.Standing) (hs : s.socket ≠ none) :
    s.state = .CONNECTING ∨ s.state = .ONLINE := by
  rcases h with ⟨-, hstate⟩ | ⟨hnone, -⟩
  · exact hstate
  · exact absurd hnone hs

/-- A session that has a socket is neither replaced nor gone. -/
theorem WsSession.Standing.state_ne {s : WsSession} (h : s.Standing) (hs : s.socket ≠ none) :
    s.state ≠ .REPLACE ∧ s.state ≠ .SUSPEND ∧ s.state ≠ .OFFLINE := by
  rcases h.online hs with hstate | hstate <;> simp [hstate]

/-- A session that is online has a socket. -/
theorem WsSession.Standing.exists_socket {s : WsSession} (h : s.Standing)
    (hs : s.state = .ONLINE) : ∃ c, s.socket = some c := by
  rcases h with ⟨hsocket, -⟩ | ⟨-, hstate⟩
  · exact Option.ne_none_iff_exists'.1 hsocket
  · simp [hs] at hstate

/-- The registry lists the sessions that are not gone, each under its id. -/
structure Connections.Inv (k : Connections) : Prop where
  registered : ∀ id r, k.find id = some r →
    ∃ s, k.heap[r]? = some s ∧ s.sessionId = id ∧ s.state ≠ .OFFLINE
  live : ∀ (r : SessionRef) (s : WsSession), k.heap[r]? = some s → s.state ≠ .OFFLINE →
    k.find s.sessionId = some r
  standing : ∀ (r : SessionRef) (s : WsSession), k.heap[r]? = some s → s.Standing
  issued : ∀ (r : SessionRef) (s : WsSession), k.heap[r]? = some s →
    s.type.issues s.principal = true

/-- A session that enters: a new one, or the one that is registered, on a new socket. -/
def WsSession.EntersOn (client : ClientRef) (f : WsSession → WsSession) : Prop :=
  ∀ s, (f s).identity = s.identity ∧ (f s).socket = some client ∧ (f s).state = .CONNECTING

/-- The connection of `client` has entered as the session `r`. -/
structure Connections.Entered (k k' : Connections) (a : Authenticated) (client : ClientRef)
    (r : SessionRef) : Prop where
  heap : (k.find a.id_enduser = none ∧ r = k.heap.length ∧
      k'.heap = k.heap ++ [{ sessionId := a.id_enduser, principal := a.auth, type := a.type,
                             product := a.product, socket := some client }]) ∨
    (k.find a.id_enduser = some r ∧ ∃ f, WsSession.EntersOn client f ∧
      k'.heap = k.heap.modify r f)
  find : ∀ id, k'.find id = if id = a.id_enduser then some r else k.find id
  bindings : k'.clients.map WsClient.binding =
    (k.clients.map WsClient.binding).modify client fun b => (some r, b.2)

section
variable {k k' : Connections} {a : Authenticated} {client : ClientRef} {r : SessionRef}
  {s session : WsSession}

theorem TypeEnduser.hasLifecycle_of_issues {type : TypeEnduser} {p : EndUser}
    (h : type.issues p = true) : type.hasLifecycle = true := by
  cases type with
  | self => cases h
  | server => cases h
  | _ => rfl

theorem Connections.Inv.lt (hk : k.Inv) {id : ℕ} (h : k.find id = some r) : r < k.heap.length := by
  obtain ⟨s, hs, -⟩ := hk.registered id r h
  exact (List.getElem?_eq_some_iff.1 hs).1

/-! ## Entering -/

/-- The binding of a socket to a session, over sockets that keep their bindings. -/
theorem bindings_updateClient {k₁ : Connections} (f : WsClient → WsClient)
    (h : k₁.clients.map WsClient.binding = k.clients.map WsClient.binding)
    (hf : ∀ c, (f c).binding = (some r, c.binding.2)) :
    (k₁.updateClient client f).clients.map WsClient.binding =
      (k.clients.map WsClient.binding).modify client fun b => (some r, b.2) := by
  rw [← h]
  refine List.ext_getElem? fun i => ?_
  simp only [Connections.updateClient, List.getElem?_map, List.getElem?_modify]
  cases k₁.clients[i]? with
  | none => rfl
  | some c => by_cases hi : client = i <;> simp [hi, hf]

theorem createSession_entered (hfind : k.find a.id_enduser = none) :
    k.Entered (k.createSession a.id_enduser a.auth a.type a.product client).1 a client
      (k.createSession a.id_enduser a.auth a.type a.product client).2 where
  heap := Or.inl ⟨hfind, rfl, by simp [Connections.createSession]⟩
  find id := by
    simp only [Connections.createSession, Connections.register, Connections.updateClient_heap,
      List.getElem?_concat_length]
    split <;> exact OMap.get?_set ..
  bindings := by
    rw [Connections.createSession]
    dsimp only
    rw [Connections.register_clients]
    exact bindings_updateClient _ rfl fun _ => rfl

/-- The session that was found enters on the new socket. -/
theorem entered_of_found {k₁ : Connections} (f : WsSession → WsSession) (f' : WsClient → WsClient)
    (hfind : k.find a.id_enduser = some r)
    (hbindings : k₁.clients.map WsClient.binding = k.clients.map WsClient.binding)
    (hregistry : k₁.registry = k.registry) (hheap : k₁.heap = k.heap.modify r f)
    (hf : WsSession.EntersOn client f) (hf' : ∀ c, (f' c).binding = (some r, c.binding.2)) :
    k.Entered (k₁.updateClient client f') a client r where
  heap := Or.inr ⟨hfind, f, hf, hheap⟩
  find id := by
    rw [Connections.find, Connections.updateClient_registry, hregistry]
    split_ifs with h
    · rw [h]
      exact hfind
    · rfl
  bindings := bindings_updateClient f' hbindings hf'

/-- The assignments that both branches make, with the timer cleared. -/
theorem entersOn_cleared (client : ClientRef) : WsSession.EntersOn client fun s =>
    { s with suspendTimer := none, socket := some client, state := .CONNECTING } :=
  fun _ => ⟨rfl, rfl, rfl⟩

theorem entersOn_kept (client : ClientRef) : WsSession.EntersOn client fun s =>
    { s with socket := some client, state := .CONNECTING } := fun _ => ⟨rfl, rfl, rfl⟩

theorem resumeSession_entered (hfind : k.find a.id_enduser = some r) :
    k.Entered (k.resumeSession r session client) a client r := by
  unfold Connections.resumeSession
  refine entered_of_found _ _ hfind ?_ ?_ ?_ (entersOn_cleared client) fun _ => rfl
  · cases session.socket with
    | none => simp
    | some old => simpa using (Connections.Kept.closeSocket k old).bindings
  · cases session.socket <;> simp
  · cases session.socket <;> simp [Connections.updateSession]

theorem replaceSession_entered (hfind : k.find a.id_enduser = some r) :
    k.Entered (k.replaceSession r session client) a client r := by
  unfold Connections.replaceSession
  cases session.socket with
  | none => exact entered_of_found _ _ hfind rfl rfl rfl (entersOn_kept client) fun _ => rfl
  | some old =>
    dsimp only
    split_ifs
    · -- the old socket is told to close, and the timer of the session is cleared
      refine entered_of_found _ _ hfind ?_ (by simp) ?_ (entersOn_cleared client) fun _ => rfl
      · rw [Connections.updateSession_clients, (Connections.Kept.closeSocket _ old).bindings]
        simp
      · simp [Connections.updateSession, List.modify_modify_eq, Function.comp_def]
    · exact entered_of_found _ _ hfind rfl rfl rfl (entersOn_kept client) fun _ => rfl

/-- `establishSession`, whichever branch it takes. -/
theorem establishSession_entered (hk : k.Inv) (a : Authenticated) (client : ClientRef) :
    k.Entered (k.establishSession a.id_enduser a.auth a.type a.product client).1 a client
      (k.establishSession a.id_enduser a.auth a.type a.product client).2 := by
  unfold Connections.establishSession
  split
  · rename_i hfind
    exact createSession_entered hfind
  · rename_i r hfind
    split
    · rename_i hs
      obtain ⟨s, hs', -⟩ := hk.registered _ _ hfind
      rw [hs'] at hs
      cases hs
    · split_ifs
      · exact resumeSession_entered hfind
      · exact replaceSession_entered hfind

/-- The assignments to the session that was found leave the indexes alone. -/
theorem resumeSession_indexed (h : k.Indexed) : (k.resumeSession r session client).Indexed := by
  have hclosed : ∀ old, (k.closeSocket old).Indexed := fun _ => h.of_eq rfl rfl
  have hcleared : ∀ {k : Connections}, k.Indexed → (k.clearTimeout session.suspendTimer).Indexed :=
    fun h => h.of_eq (Connections.clearTimeout_heap _ _) (Connections.clearTimeout_registry _ _)
  have henter : ∀ {k : Connections}, k.Indexed → (k.updateSession r fun s =>
      { s with suspendTimer := none, socket := some client, state := .CONNECTING }).Indexed :=
    fun h => h.updateSession r _ fun _ => rfl
  unfold Connections.resumeSession
  cases session.socket with
  | none => exact (henter (hcleared h)).of_eq rfl rfl
  | some old => exact (henter (hcleared (hclosed old))).of_eq rfl rfl

theorem replaceSession_indexed (h : k.Indexed) : (k.replaceSession r session client).Indexed := by
  have hcleared : (k.clearTimeout session.suspendTimer).Indexed :=
    h.of_eq (Connections.clearTimeout_heap _ _) (Connections.clearTimeout_registry _ _)
  have hreplaced : ((k.clearTimeout session.suspendTimer).updateSession r fun s =>
      { s with state := .REPLACE, suspendTimer := none }).Indexed :=
    hcleared.updateSession r _ fun _ => rfl
  have henter : ∀ {k : Connections}, k.Indexed → (k.updateSession r fun s =>
      { s with socket := some client, state := .CONNECTING }).Indexed :=
    fun h => h.updateSession r _ fun _ => rfl
  unfold Connections.replaceSession
  cases session.socket with
  | none => exact (henter h).of_eq rfl rfl
  | some old =>
    dsimp only
    split_ifs
    · exact (henter (hreplaced.of_eq rfl rfl)).of_eq rfl rfl
    · exact (henter h).of_eq rfl rfl

theorem establishSession_indexed (h : k.Indexed) (a : Authenticated) (client : ClientRef) :
    (k.establishSession a.id_enduser a.auth a.type a.product client).1.Indexed := by
  unfold Connections.establishSession
  split
  · rename_i hfind
    exact h.createSession a.auth a.type a.product client hfind
  · rename_i r hfind
    split
    · rename_i hs
      obtain ⟨s, hs', -⟩ := h.session _ _ hfind
      rw [hs'] at hs
      cases hs
    · split_ifs
      · exact resumeSession_indexed h
      · exact replaceSession_indexed h

/-! ## The session that entered -/

/-- The session that entered is connecting on the new socket, under the id that was
    authenticated. -/
theorem Connections.Entered.heap_self (hk : k.Inv) (h : k.Entered k' a client r) :
    ∃ s, k'.heap[r]? = some s ∧ s.socket = some client ∧ s.state = .CONNECTING ∧
      s.sessionId = a.id_enduser ∧ s.type.issues s.principal = true := by
  rcases h.heap with ⟨-, rfl, hheap⟩ | ⟨hfind, f, hf, hheap⟩
  · exact ⟨_, by rw [hheap, List.getElem?_concat_length], rfl, rfl, rfl, a.issued⟩
  · obtain ⟨s, hs, hid, -⟩ := hk.registered _ _ hfind
    obtain ⟨hsession, hprincipal, htype⟩ := WsSession.identity_eq (hf s).1
    refine ⟨f s, by simp [hheap, hs], (hf s).2.1, (hf s).2.2, hsession.trans hid, ?_⟩
    rw [htype, hprincipal]
    exact hk.issued r s hs

/-- The other sessions are as they were. -/
theorem Connections.Entered.heap_ne (h : k.Entered k' a client r) {r' : SessionRef}
    (hne : r' ≠ r) : k'.heap[r']? = k.heap[r']? := by
  rcases h.heap with ⟨-, rfl, hheap⟩ | ⟨-, f, -, hheap⟩
  · rw [hheap]
    rcases lt_or_ge r' k.heap.length with hlt | hge
    · exact List.getElem?_append_left hlt
    · rw [List.getElem?_eq_none hge, List.getElem?_eq_none]
      rw [List.length_append, List.length_singleton]
      exact Nat.lt_of_le_of_ne hge hne.symm
  · rw [hheap, List.getElem?_modify_ne _ _ hne.symm]

theorem Connections.Entered.extends (h : k.Entered k' a client r) : k.Extends k' := by
  intro r' s hs
  rcases h.heap with ⟨-, rfl, hheap⟩ | ⟨-, f, hf, hheap⟩
  · exact ⟨s, by rw [hheap, List.getElem?_append_left (List.getElem?_eq_some_iff.1 hs).1, hs], rfl⟩
  · by_cases hr : r = r'
    · subst hr
      exact ⟨f s, by simp [hheap, hs], (hf s).1⟩
    · exact ⟨s, by rw [hheap, List.getElem?_modify_ne _ _ hr, hs], rfl⟩

/-! ## The invariant, turn by turn -/

theorem Connections.Inv.of_eq (hk : k.Inv) (hheap : k'.heap = k.heap)
    (hregistry : k'.registry = k.registry) : k'.Inv := by
  have hfind : ∀ id, k'.find id = k.find id := fun id => by
    rw [Connections.find, hregistry]
    rfl
  constructor
  · intro id r h
    rw [hheap]
    exact hk.registered id r (hfind id ▸ h)
  · intro r s hs hstate
    rw [hfind]
    exact hk.live r s (hheap ▸ hs) hstate
  · intro r s hs
    exact hk.standing r s (hheap ▸ hs)
  · intro r s hs
    exact hk.issued r s (hheap ▸ hs)

theorem Connections.Inv.kept (hk : k.Inv) (h : k.Kept k') : k'.Inv := hk.of_eq h.heap h.registry

theorem Connections.Inv.entered (hk : k.Inv) (h : k.Entered k' a client r) : k'.Inv := by
  obtain ⟨s, hs, hsocket, hstate, hid, hissued⟩ := h.heap_self hk
  constructor
  · intro id r' hr'
    rw [h.find] at hr'
    split_ifs at hr' with heq
    · cases hr'
      exact ⟨s, hs, hid.trans heq.symm, by rw [hstate]; nofun⟩
    · obtain ⟨s', hs', hid', hstate'⟩ := hk.registered id r' hr'
      by_cases hr : r' = r
      · subst hr
        -- `r` is registered under the authenticated id alone
        rcases h.heap with ⟨-, rfl, -⟩ | ⟨hfind, -⟩
        · exact absurd (hk.lt hr') (lt_irrefl _)
        · obtain ⟨s₀, hs₀, hid₀, -⟩ := hk.registered _ _ hfind
          rw [hs₀] at hs'
          cases hs'
          exact absurd (hid'.symm.trans hid₀) heq
      · exact ⟨s', by rw [h.heap_ne hr, hs'], hid', hstate'⟩
  · intro r' s' hs' hstate'
    rw [h.find]
    by_cases hr : r' = r
    · subst hr
      rw [hs] at hs'
      cases hs'
      rw [if_pos hid]
    · rw [h.heap_ne hr] at hs'
      have hlive := hk.live r' s' hs' hstate'
      split_ifs with heq
      · -- an id that is registered leads to the session that is found
        rcases h.heap with ⟨hnone, -⟩ | ⟨hfind, -⟩
        · rw [← heq, hlive] at hnone
          cases hnone
        · rw [heq, hfind] at hlive
          exact hlive
      · exact hlive
  · intro r' s' hs'
    by_cases hr : r' = r
    · subst hr
      rw [hs] at hs'
      cases hs'
      exact Or.inl ⟨by rw [hsocket]; nofun, Or.inl hstate⟩
    · exact hk.standing r' s' (h.heap_ne hr ▸ hs')
  · intro r' s' hs'
    by_cases hr : r' = r
    · subst hr
      rw [hs] at hs'
      cases hs'
      exact hissued
    · exact hk.issued r' s' (h.heap_ne hr ▸ hs')

/-- A session that is not gone may change its standing. -/
theorem Connections.Inv.updateSession (hk : k.Inv) (f : WsSession → WsSession)
    (hf : ∀ s, (f s).identity = s.identity)
    (hr : ∀ s, k.heap[r]? = some s → s.state ≠ .OFFLINE ∧ (f s).state ≠ .OFFLINE ∧ (f s).Standing) :
    (k.updateSession r f).Inv := by
  have hcases : ∀ (r' : SessionRef) (s' : WsSession), (k.updateSession r f).heap[r']? = some s' →
      ∃ s : WsSession, k.heap[r']? = some s ∧ s'.identity = s.identity ∧ s'.Standing ∧
        (s'.state ≠ .OFFLINE → s.state ≠ .OFFLINE) := by
    intro r' s' hs'
    rw [Connections.heap_updateSession] at hs'
    obtain ⟨s, hs, rfl⟩ := Option.map_eq_some_iff.1 hs'
    split_ifs with heq
    · subst heq
      exact ⟨s, hs, hf s, (hr s hs).2.2, fun _ => (hr s hs).1⟩
    · exact ⟨s, hs, rfl, hk.standing r' s hs, id⟩
  constructor
  · intro id r' hr'
    obtain ⟨s, hs, hid, hstate⟩ := hk.registered id r' hr'
    refine ⟨if r' = r then f s else s, by rw [Connections.heap_updateSession, hs]; rfl, ?_⟩
    split_ifs with heq
    · subst heq
      exact ⟨(WsSession.identity_eq (hf s)).1.trans hid, (hr s hs).2.1⟩
    · exact ⟨hid, hstate⟩
  · intro r' s' hs' hstate'
    obtain ⟨s, hs, hid, -, hstate⟩ := hcases r' s' hs'
    rw [(WsSession.identity_eq hid).1]
    exact hk.live r' s hs (hstate hstate')
  · intro r' s' hs'
    obtain ⟨s, hs, hid, hstanding, -⟩ := hcases r' s' hs'
    exact hstanding
  · intro r' s' hs'
    obtain ⟨s, hs, hid, -⟩ := hcases r' s' hs'
    obtain ⟨-, hprincipal, htype⟩ := WsSession.identity_eq hid
    rw [htype, hprincipal]
    exact hk.issued r' s hs

/-- A suspended session is gone for good. -/
theorem Connections.Inv.dropped (hk : k.Inv) (hs : k.heap[r]? = some s)
    (hstate : s.state = .SUSPEND) :
    ((k.updateSession r fun s => { s with state := .OFFLINE }).unregister s.sessionId).Inv := by
  have hlive : k.find s.sessionId = some r := hk.live r s hs (by rw [hstate]; nofun)
  have hsocket : s.socket = none := by
    by_contra hsome
    exact ((hk.standing r s hs).state_ne hsome).2.1 hstate
  have hfind : ∀ id, ((k.updateSession r fun s => { s with state := .OFFLINE }).unregister
      s.sessionId).find id = if id = s.sessionId then none else k.find id :=
    Connections.find_unregister (s := { s with state := .OFFLINE }) hlive
      (by rw [Connections.heap_updateSession, hs]; simp)
  have hheap : ∀ r', ((k.updateSession r fun s => { s with state := .OFFLINE }).unregister
      s.sessionId).heap[r']? = if r' = r then some { s with state := .OFFLINE }
        else k.heap[r']? := by
    intro r'
    rw [Connections.unregister_heap, Connections.heap_updateSession]
    split_ifs with h
    · rw [h, hs]
      rfl
    · simp
  constructor
  · intro id r' hr'
    rw [hfind] at hr'
    split_ifs at hr' with heq
    obtain ⟨s', hs', hid', hstate'⟩ := hk.registered id r' hr'
    refine ⟨s', ?_, hid', hstate'⟩
    rw [hheap, if_neg, hs']
    rintro rfl
    rw [hs] at hs'
    cases hs'
    exact heq hid'.symm
  · intro r' s' hs' hstate'
    rw [hheap] at hs'
    split_ifs at hs' with heq
    · cases hs'
      exact absurd rfl hstate'
    · have hlive' := hk.live r' s' hs' hstate'
      rw [hfind, if_neg, hlive']
      intro hid
      rw [hid, hlive] at hlive'
      cases hlive'
      exact heq rfl
  · intro r' s' hs'
    rw [hheap] at hs'
    split_ifs at hs'
    · cases hs'
      exact Or.inr ⟨hsocket, Or.inr rfl⟩
    · exact hk.standing r' s' hs'
  · intro r' s' hs'
    rw [hheap] at hs'
    split_ifs at hs'
    · cases hs'
      exact hk.issued r s hs
    · exact hk.issued r' s' hs'

/-! ## The turns of the gateway -/

/-- The session `r` is suspended. -/
structure Connections.Suspends (k k' : Connections) (r : SessionRef) : Prop where
  heap : ∃ t, k'.heap = k.heap.modify r fun s =>
    { s with state := .SUSPEND, socket := none, suspendTimer := some t }
  registry : k'.registry = k.registry
  clients : k'.clients = k.clients

theorem Connections.Inv.suspends (hk : k.Inv) (h : k.Suspends k' r) (hr : k.socket r ≠ none) :
    k'.Inv := by
  obtain ⟨t, hheap⟩ := h.heap
  refine (hk.updateSession (r := r) (fun s => { s with
    state := .SUSPEND, socket := none, suspendTimer := some t }) (fun _ => rfl) fun s hs =>
      ⟨?_, nofun, Or.inr ⟨rfl, Or.inl rfl⟩⟩).of_eq hheap h.registry
  have hsocket : s.socket ≠ none := by simpa [Connections.socket, hs] using hr
  exact ((hk.standing r s hs).state_ne hsocket).2.2

variable {cfg : GatewayConfig} {g : Gateway}

theorem startSuspendTimer_suspends (cfg : GatewayConfig) (g : Gateway) (r : SessionRef)
    (session : WsSession) :
    g.conn.Suspends ((g.onSuspend r session).startSuspendTimer cfg r).conn r where
  heap := ⟨(g.onSuspend r session).conn.nextTimer, by
    simp only [Gateway.startSuspendTimer, Gateway.onSuspend, presence_conn,
      Connections.updateSession, Connections.clearTimeout_heap, List.modify_modify_eq,
      Function.comp_def]⟩
  registry := by simp [Gateway.startSuspendTimer, Gateway.onSuspend]
  clients := by simp [Gateway.startSuspendTimer, Gateway.onSuspend]

/-- A close that is delivered to a session suspends it, if the socket is the session's. -/
theorem handleDisconnect_eq (cfg : GatewayConfig) (hk : g.conn.Inv) (c : ClientRef) :
    (g.handleDisconnect cfg c = g ∧ ∀ r,
      (g.conn.clients[c]?).bind (·.session) = some r → g.conn.socket r ≠ some c) ∨
    ∃ r session, (g.conn.clients[c]?).bind (·.session) = some r ∧
      g.conn.heap[r]? = some session ∧ session.socket = some c ∧
      g.handleDisconnect cfg c = (g.onSuspend r session).startSuspendTimer cfg r := by
  unfold Gateway.handleDisconnect
  split
  · rename_i hnone
    exact Or.inl ⟨rfl, fun r hr => by rw [hnone] at hr; cases hr⟩
  · rename_i r hr
    split
    · rename_i hs
      refine Or.inl ⟨rfl, fun r' hr' => ?_⟩
      rw [hr] at hr'
      cases hr'
      simp [Connections.socket, hs]
    · rename_i session hs
      have hsocket : g.conn.socket r = session.socket := by rw [Connections.socket, hs]; rfl
      split_ifs with hsame
      · refine Or.inr ⟨r, session, hr, hs, hsame, ?_⟩
        have hlifecycle := TypeEnduser.hasLifecycle_of_issues (hk.issued r session hs)
        obtain ⟨hreplace, -, hoffline⟩ :=
          (hk.standing r session hs).state_ne (by simp [hsame])
        unfold Gateway.onDisconnect
        rw [if_neg (by simp [hlifecycle, hreplace]), if_neg hoffline]
      · refine Or.inl ⟨rfl, fun r' hr' => ?_⟩
        rw [hr] at hr'
        cases hr'
        rw [hsocket]
        exact hsame

theorem handleDisconnect_cases (cfg : GatewayConfig) (hk : g.conn.Inv) (c : ClientRef) :
    ((g.handleDisconnect cfg c).conn = g.conn ∧ ∀ r,
      (g.conn.clients[c]?).bind (·.session) = some r → g.conn.socket r ≠ some c) ∨
    ∃ r, (g.conn.clients[c]?).bind (·.session) = some r ∧ g.conn.socket r = some c ∧
      g.conn.Suspends (g.handleDisconnect cfg c).conn r := by
  rcases handleDisconnect_eq cfg hk c with ⟨heq, hnot⟩ | ⟨r, session, hr, hs, hsocket, heq⟩
  · exact Or.inl ⟨by rw [heq], hnot⟩
  · refine Or.inr ⟨r, hr, by rw [Connections.socket, hs]; exact hsocket, ?_⟩
    rw [heq]
    exact startSuspendTimer_suspends cfg g r session

/-- The session of a connection comes online. -/
theorem onConnect_conn (hs : g.conn.heap[r]? = some s) (hl : s.type.hasLifecycle = true) :
    (g.onConnect r).1.conn = g.conn.updateSession r fun s => { s with state := .ONLINE } := by
  unfold Gateway.onConnect
  rw [hs]
  simp [hl]

/-- The session that is established comes online. -/
theorem connected_kept (hk : g.conn.Inv) (client : ClientRef) (a : Authenticated) :
    let e := g.conn.establishSession a.id_enduser a.auth a.type a.product client
    (e.1.updateSession e.2 fun s => { s with state := .ONLINE }).Kept
      (g.connected client a).1.conn := by
  have hentered := establishSession_entered hk a client
  obtain ⟨s, hs, -, -, -, hissued⟩ := hentered.heap_self hk
  have hconn := onConnect_conn (g := { g with conn := (g.conn.establishSession a.id_enduser a.auth
    a.type a.product client).1 }) hs (TypeEnduser.hasLifecycle_of_issues hissued)
  unfold Gateway.connected
  dsimp only
  rw [← hconn]
  split_ifs
  · exact .refl _
  · exact ready_kept _ client

/-- The connection enters, and its session comes online. -/
theorem connected_conn (hk : g.conn.Inv) (client : ClientRef) (a : Authenticated) :
    ∃ k₁ r, g.conn.Entered k₁ a client r ∧
    (k₁.updateSession r fun s => { s with state := .ONLINE }).Kept
      (g.connected client a).1.conn :=
  ⟨_, _, establishSession_entered hk a client, connected_kept hk client a⟩

theorem connected_inv (hk : g.conn.Inv) : (g.connected client a).1.conn.Inv := by
  obtain ⟨k₁, r, hentered, hkept⟩ := connected_conn hk client a
  obtain ⟨s, hs, hsocket, hstate, -⟩ := hentered.heap_self hk
  refine ((hk.entered hentered).updateSession (fun s => { s with state := .ONLINE }) (fun _ => rfl)
    fun s' hs' => ?_).kept hkept
  rw [hs] at hs'
  cases hs'
  exact ⟨by rw [hstate]; nofun, nofun, Or.inl ⟨by rw [hsocket]; nofun, Or.inr rfl⟩⟩

theorem handleDisconnect_inv (hk : g.conn.Inv) (c : ClientRef) :
    (g.handleDisconnect cfg c).conn.Inv := by
  rcases handleDisconnect_cases cfg hk c with ⟨heq, -⟩ | ⟨r, -, hsocket, hsuspends⟩
  · rw [heq]
    exact hk
  · exact hk.suspends hsuspends (by rw [hsocket]; nofun)

theorem close_inv (cfg : GatewayConfig) (hk : g.conn.Inv) (c : ClientRef) (client : WsClient) :
    (g.close cfg c client).conn.Inv := by
  have hclosed : (g.conn.updateClient c fun client => { client with readyState := .CLOSED }).Inv :=
    hk.of_eq rfl rfl
  unfold Gateway.close
  dsimp only
  split_ifs
  · exact handleDisconnect_inv (handleDisconnect_inv hclosed c) c
  · exact handleDisconnect_inv hclosed c

theorem suspendTimer_inv (hk : g.conn.Inv) (timer : SuspendTimer) :
    (g.suspendTimer timer).conn.Inv := by
  unfold Gateway.suspendTimer
  split
  · exact hk
  · rename_i session hs
    split_ifs with hstate
    · rw [presence_conn]
      exact hk.dropped hs hstate
    · exact hk

end

end GatewayRealtime
