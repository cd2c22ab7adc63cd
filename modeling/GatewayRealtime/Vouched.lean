/-
  Whom the sockets are bound for (`websocket.gateway.ts`, `websocket-sesi-manager.service.ts`).

  * `Gateway.Vouched`: the socket of a session is bound to it, and so is every socket that a frame
    of it was sent on; and whatever is bound to a session has authenticated as its end user.
  * `Vouching`: that, in a pool in which the connections that have not entered have sockets of
    their own; `vouching_step` keeps it.
-/
import GatewayRealtime.Wire
import GatewayRealtime.Zombie

namespace GatewayRealtime

/-- What a connection has authenticated as. -/
def Authenticated.identity (a : Authenticated) : ℕ × EndUser × TypeEnduser × Option String :=
  (a.id_enduser, a.auth, a.type, a.product)

/-- Sockets, sessions and the frames that were sent, where `V` says what a socket has authenticated
    as. -/
structure Gateway.Vouched (V : ClientRef → Authenticated → Prop) (g : Gateway) : Prop where
  socket : ∀ r c, g.conn.socket r = some c → g.conn.bound c = some (some r)
  sent : ∀ c r frame origin, .send c r frame origin ∈ g.trace → g.conn.bound c = some (some r)
  bound : ∀ c r, g.conn.bound c = some (some r) →
    ∃ (s : WsSession) (a : Authenticated), g.conn.heap[r]? = some s ∧ V c a ∧
      a.id_enduser = s.sessionId
  identity : ∀ (r : SessionRef) (s : WsSession), g.conn.heap[r]? = some s →
    ∃ c a, V c a ∧ s.identity = a.identity

section
variable {V V' : ClientRef → Authenticated → Prop} {cfg : GatewayConfig} {t₀ : ℤ}
  {g g' : Gateway} {k : Connections} {a : Authenticated} {c : ClientRef} {r : SessionRef}

theorem Gateway.Vouched.mono (h : g.Vouched V) (hV : ∀ c a, V c a → V' c a) : g.Vouched V' where
  socket := h.socket
  sent := h.sent
  bound c r hc := by
    obtain ⟨s, a, hs, ha, hid⟩ := h.bound c r hc
    exact ⟨s, a, hs, hV c a ha, hid⟩
  identity r s hs := by
    obtain ⟨c, a, ha, hid⟩ := h.identity r s hs
    exact ⟨c, a, hV c a ha, hid⟩

/-! ## One stretch -/

theorem Gateway.Vouched.speaks {T : Terms} (h : g.Vouched V) (hs : g.Speaks T g') :
    g'.Vouched V where
  socket r c hr := (hs.bound c).trans (h.socket r c (hs.socket r c hr))
  sent c r frame origin hmem := by
    obtain ⟨effects, htrace, hsaid⟩ := hs.sent
    rw [hs.bound]
    rw [htrace] at hmem
    rcases List.mem_append.1 hmem with hmem | hmem
    · exact h.sent c r frame origin hmem
    · exact h.socket r c (hsaid _ hmem).1
  bound c r hc := by
    obtain ⟨s, a, hr, ha, hid⟩ := h.bound c r (by rwa [hs.bound] at hc)
    have hsame := hs.identity r
    rw [hr] at hsame
    obtain ⟨s', hr', hidentity⟩ := Option.map_eq_some_iff.1 hsame
    exact ⟨s', a, hr', ha, hid.trans (WsSession.identity_eq hidentity).1.symm⟩
  identity r s hr := by
    have hsame := hs.identity r
    rw [hr] at hsame
    obtain ⟨s', hr', hidentity⟩ := Option.map_eq_some_iff.1 hsame.symm
    obtain ⟨c, a, ha, hid⟩ := h.identity r s' hr'
    exact ⟨c, a, ha, hidentity.symm.trans hid⟩

theorem Connections.Entered.bound {k' : Connections} (h : k.Entered k' a c r) (c' : ClientRef) :
    k'.bound c' = if c' = c then (k.bound c').map fun _ => some r else k.bound c' := by
  rw [Connections.bound_eq, Connections.bound_eq, h.bindings, List.getElem?_modify]
  by_cases hc : c' = c
  · subst hc
    simp [Option.map_map, Function.comp_def]
  · simp [hc, Ne.symm hc]

/-- A connection enters on a socket that is bound to no session. -/
theorem Gateway.Vouched.entered (h : g.Vouched V) (hk : g.conn.Inv)
    (he : g.conn.Entered k a c r) (hc : g.conn.bound c = some none) (ha : V c a) :
    ({ g with conn := k } : Gateway).Vouched V := by
  obtain ⟨s, hs, hsocket, -, hid, -⟩ := he.heap_self hk
  have hself : k.bound c = some (some r) := by rw [he.bound, if_pos rfl, hc]; rfl
  -- what was bound before is not the socket of the connection
  have hother : ∀ {c' r'}, g.conn.bound c' = some (some r') → k.bound c' = some (some r') := by
    intro c' r' hc'
    have hne : c' ≠ c := by
      rintro rfl
      rw [hc] at hc'
      cases hc'
    rw [he.bound, if_neg hne, hc']
  refine ⟨fun r' c' hr' => ?_, fun c' r' frame origin hmem => hother (h.sent c' r' frame origin
    hmem), fun c' r' hc' => ?_, fun r' s' hr' => ?_⟩
  · by_cases hr : r' = r
    · subst hr
      have hc' : c = c' := by
        rw [Connections.socket, hs] at hr'
        exact Option.some.inj (hsocket.symm.trans hr')
      rw [← hc']
      exact hself
    · rw [Connections.socket, he.heap_ne hr] at hr'
      exact hother (h.socket r' c' hr')
  · dsimp only at hc' ⊢
    by_cases hne : c' = c
    · subst hne
      rw [hself] at hc'
      cases hc'
      exact ⟨s, a, hs, ha, hid.symm⟩
    · rw [he.bound, if_neg hne] at hc'
      obtain ⟨s', a', hs', ha', hid'⟩ := h.bound c' r' hc'
      obtain ⟨s'', hs'', hidentity⟩ := he.extends r' s' hs'
      exact ⟨s'', a', hs'', ha', hid'.trans (WsSession.identity_eq hidentity).1.symm⟩
  · dsimp only at hr'
    rcases he.heap with ⟨-, rfl, hheap⟩ | ⟨-, f, hf, hheap⟩
    · rw [hheap] at hr'
      rcases List.mem_append.1 (List.mem_of_getElem? hr') with hold | hnew
      · obtain ⟨r₀, hr₀⟩ := List.mem_iff_getElem?.1 hold
        exact h.identity r₀ s' hr₀
      · obtain rfl := List.mem_singleton.1 hnew
        exact ⟨c, a, ha, rfl⟩
    · rw [hheap, List.getElem?_modify] at hr'
      obtain ⟨s₀, hs₀, heq⟩ := Option.map_eq_some_iff.1 hr'
      obtain ⟨c₀, a₀, ha₀, hid₀⟩ := h.identity r' s₀ hs₀
      refine ⟨c₀, a₀, ha₀, ?_⟩
      rw [← heq, ← hid₀]
      split_ifs
      · exact (hf s₀).1
      · rfl

theorem Gateway.Vouched.connected (h : g.Vouched V) (hk : g.conn.Inv)
    (hc : g.conn.bound c = some none) (ha : V c a) : (g.connected c a).1.Vouched V :=
  (h.entered hk (establishSession_entered hk a c) hc ha).speaks
    (connected_speaks g c a : Stretch.Speaks Terms.any _ _).gateway

/-! ## One step of the gateway -/

/-- Sockets and sessions are vouched for, and each connection that has not entered has a socket of
    its own, bound to no session. -/
structure Vouching (V : ClientRef → Authenticated → Prop) (p : Pool Gateway Task) : Prop where
  vouched : p.shared.Vouched V
  unbound : ∀ c ∈ waitingClients p, p.shared.conn.bound c = some none
  nodup : (waitingClients p).Nodup

variable {p p' : Pool Gateway Task} {act : Act GatewayEvent GatewayAnswer}

theorem vouching_start (V : ClientRef → Authenticated → Prop) (t₀ : ℤ) :
    Vouching V (Gateway.start t₀) where
  vouched := ⟨nofun, nofun, nofun, nofun⟩
  unbound := List.forall_mem_nil _
  nodup := List.nodup_nil

theorem Vouching.mono (h : Vouching V p) (hV : ∀ c a, V c a → V' c a) : Vouching V' p :=
  ⟨h.vouched.mono hV, h.unbound, h.nodup⟩

/-- A stretch in which no connection begins. -/
theorem Vouching.append {T : Terms} {new : List Task} (h : Vouching V p)
    (hs : p.shared.Speaks T g') (hnew : ∀ t ∈ new, t.waiting = none) :
    Vouching V ⟨g', p.threads ++ new⟩ where
  vouched := h.vouched.speaks hs
  unbound c hc := by
    rw [waitingClients_append g' hnew] at hc
    exact (hs.bound c).trans (h.unbound c hc)
  nodup := by
    rw [waitingClients_append g' hnew]
    exact h.nodup

/-- A new socket, bound to no session. -/
theorem Vouching.connect (h : Vouching V p) :
    Vouching V ⟨{ p.shared with
      conn := { p.shared.conn with clients := p.shared.conn.clients ++ [{}] } },
      p.threads ++ [.rateLimit p.shared.conn.clients.length]⟩ := by
  have hbound : ∀ c, Connections.bound { p.shared.conn with
      clients := p.shared.conn.clients ++ [{}] } c =
        if c = p.shared.conn.clients.length then some none else p.shared.conn.bound c := by
    intro c
    rw [Connections.bound, List.getElem?_append, Connections.bound]
    rcases lt_trichotomy c p.shared.conn.clients.length with hlt | rfl | hgt
    · rw [if_pos hlt, if_neg hlt.ne]
    · simp
    · have hnone : ([{}] : List WsClient)[c - p.shared.conn.clients.length]? = none :=
        List.getElem?_eq_none (Nat.le_sub_of_add_le (by
          rw [List.length_singleton, add_comm]
          exact hgt))
      rw [if_neg hgt.le.not_gt, if_neg hgt.ne', List.getElem?_eq_none hgt.le, hnone]
  have hold : ∀ {c b}, p.shared.conn.bound c = some b → c ≠ p.shared.conn.clients.length := by
    rintro c b hc rfl
    simp [Connections.bound] at hc
  have hkeep : ∀ {c b}, p.shared.conn.bound c = some b → Connections.bound { p.shared.conn with
      clients := p.shared.conn.clients ++ [{}] } c = some b := fun {c b} hc => by
    rw [hbound, if_neg (hold hc), hc]
  have hwaiting : ∀ g' : Gateway,
      waitingClients ⟨g', p.threads ++ [.rateLimit p.shared.conn.clients.length]⟩ =
        waitingClients p ++ [p.shared.conn.clients.length] := fun g' => by
    simp [waitingClients, Task.waiting]
  refine ⟨⟨fun r c hr => hkeep (h.vouched.socket r c hr),
    fun c r frame origin hmem => hkeep (h.vouched.sent c r frame origin hmem),
    fun c r hc => ?_, h.vouched.identity⟩, fun c hc => ?_, ?_⟩
  · dsimp only at hc
    rw [hbound] at hc
    split_ifs at hc
    · cases hc
    · exact h.vouched.bound c r hc
  · rw [hwaiting] at hc
    rcases List.mem_append.1 hc with hc | hc
    · exact hkeep (h.unbound c hc)
    · rw [List.mem_singleton.1 hc]
      exact (hbound _).trans (if_pos rfl)
  · rw [hwaiting]
    refine h.nodup.append (List.nodup_singleton _) (List.disjoint_singleton.2 fun hmem => ?_)
    exact hold (h.unbound _ hmem) rfl

/-- A stretch after which the computation does not wait for a session. -/
theorem Vouching.resume {i : ℕ} {t t' : Task} {new : List Task} (h : Vouching V p)
    (hvouched : g'.Vouched V) (ht : p.threads[i]? = some t) (ht' : t'.waiting = none)
    (hnew : ∀ t ∈ new, t.waiting = none)
    (hkeeps : ∀ c, t.waiting ≠ some c → g'.conn.bound c = p.shared.conn.bound c) :
    Vouching V ⟨g', p.threads.set i t' ++ new⟩ := by
  have hperm := waitingClients_resume g' ht ht' hnew
  have hnodup := hperm.nodup_iff.2 h.nodup
  refine ⟨hvouched, fun c hc => ?_, hnodup.of_append_right⟩
  have hne : t.waiting ≠ some c := fun hwait =>
    List.disjoint_of_nodup_append hnodup (by simp [hwait]) hc
  rw [hkeeps c hne]
  exact h.unbound c (hperm.subset (List.mem_append_right _ hc))

/-- **A step keeps what is vouched for**, if whatever it authenticates is. -/
theorem vouching_step (hp : Consistent cfg t₀ p) (h : Vouching V p)
    (hV : ∀ i c a, act = .resume i (.authenticated (.ok a)) →
      p.threads[i]? = some (.authenticate c) → V c a)
    (hst : (gatewayProgram cfg).step p act = some p') : Vouching V p' := by
  obtain ⟨e, g', new, rfl, he, rfl⟩ | ⟨i, answer, t, g', t', new, rfl, ht, hr, rfl⟩ :=
    Program.step_cases hst
  · have hspeaks : e ≠ .connect → p.shared.Speaks .any g' := fun hne =>
      (onEvent_speaks Terms.any_meets he hne).1
    obtain ⟨now, rfl, -, rfl, rfl⟩ | ⟨rfl, rfl, rfl⟩ | ⟨c, client, rfl, -, -, rfl, rfl⟩ |
      ⟨i, t, rfl, -, -, rfl, rfl⟩ | ⟨r, payload, hack, rfl, rfl⟩ | ⟨hack, -, hnew⟩ :=
        onEvent_cases .any hp.1.indexed hp.1.storeInv he
    · exact h.append (hspeaks nofun) (List.forall_mem_nil _)
    · exact h.connect
    · exact h.append (hspeaks nofun) (List.forall_mem_nil _)
    · exact h.append (hspeaks nofun) (List.forall_mem_nil _)
    · exact h.append (acknowledge_speaks _ r payload : Gateway.Speaks .any _ _)
        (List.forall_mem_singleton.2 rfl)
    · by_cases hconnect : e = .connect
      · subst hconnect
        cases he
        exact h.connect
      · exact h.append (hspeaks hconnect) fun t ht => (hnew t ht).waiting
  · have hsound := hp.2 t (List.mem_of_getElem? ht)
    have hresume : p.shared.Speaks .any g' → t'.waiting = none → (∀ t ∈ new, t.waiting = none) →
        Vouching V ⟨g', p.threads.set i t' ++ new⟩ := fun hs ht' hnew =>
      h.resume (h.vouched.speaks hs) ht ht' hnew fun c _ => hs.bound c
    rcases onAnswer_speaks Terms.any_meets (Task.any_asks t)
      (fun _ _ _ _ _ => ⟨trivial, Terms.any_makes⟩) hr with hstretch |
        ⟨c, auth, rfl, rfl, hconnected⟩
    · have hs : p.shared.Speaks .any g' := hstretch.gateway
      obtain ⟨c, rfl, rfl, -, rfl⟩ | ⟨c, auth, rfl, rfl, hconnected⟩ |
        ⟨c, r, devices, -, -, -, rfl, rfl⟩ | ⟨q, ids, -, -, -, rfl, rfl⟩ | hh :=
          onAnswer_cases .any hp.1.indexed hsound hr
      · have hwaiting := waitingClients_authenticate g' ht
        exact ⟨h.vouched.speaks hs, fun c' hc' => (hs.bound c').trans
          (h.unbound c' (hwaiting.subset hc')), hwaiting.nodup_iff.2 h.nodup⟩
      · obtain ⟨-, htask, hnew⟩ := connected_sound (g := p.shared) c auth g'.conn
        rw [hconnected] at htask hnew
        exact hresume hs htask fun t ht => by rw [show new = [] from hnew] at ht; cases ht
      · exact hresume hs rfl (List.forall_mem_nil _)
      · exact hresume hs rfl (List.forall_mem_nil _)
      · exact hresume hs hh.task.waiting fun t ht => (hh.tasks t ht).waiting
    · have hwaiting : c ∈ waitingClients p :=
        List.mem_filterMap.2 ⟨_, List.mem_of_getElem? ht, rfl⟩
      have hunbound := h.unbound c hwaiting
      obtain ⟨-, htask, hnew⟩ := connected_sound (g := p.shared) c auth g'.conn
      have hvouched := h.vouched.connected hp.1.conn hunbound (hV i c auth rfl ht)
      have hentered := establishSession_entered hp.1.conn auth c
      have hspeaks := (connected_speaks p.shared c auth : Stretch.Speaks Terms.any _ _).gateway
      rw [hconnected] at htask hnew hvouched hspeaks
      refine h.resume hvouched ht htask (fun t ht => ?_) fun c' hne => ?_
      · rw [show new = [] from hnew] at ht
        cases ht
      · rw [hspeaks.bound]
        dsimp only
        rw [hentered.bound, if_neg]
        rintro rfl
        exact hne rfl

end

end GatewayRealtime
