/-
  The life of a session.

  * `Connections.Timed`: a suspend timer that is set belongs to a suspended session, and every
    suspended session has one.
  * `Timed.entered`, `Timed.suspended`, `Timed.added`: the turns of a session keep it so.
  * `Lived`: the invariant of the gateway with that of its timers; `timer_cases`, `leaves_cases`:
    how a timer comes to be set, and how a session leaves the registry.
  * `suspended_since`: as long as a timer is set, its session has been suspended.
  * `session_lifecycle`: the registry, the timers, superseded sockets, and how sessions leave.
-/
import GatewayRealtime.Zombie

namespace GatewayRealtime

/-- The timers that are set are those of the suspended sessions, one each. -/
structure Connections.Timed (k : Connections) : Prop where
  live : ∀ i t, k.timers.get? i = some t → ∃ s : WsSession, k.heap[t.session]? = some s ∧
    s.state = .SUSPEND ∧ s.suspendTimer = some i
  armed : ∀ (r : SessionRef) (s : WsSession), k.heap[r]? = some s → s.state = .SUSPEND →
    ∃ i due, s.suspendTimer = some i ∧ k.timers.get? i = some ⟨r, due⟩
  own : ∀ (r : SessionRef) (s : WsSession) i t, k.heap[r]? = some s → s.suspendTimer = some i →
    k.timers.get? i = some t → t.session = r
  handles : ∀ (r : SessionRef) (s : WsSession) i, k.heap[r]? = some s →
    s.suspendTimer = some i → i < k.nextTimer

section
variable {k k' : Connections} {r : SessionRef} {s session : WsSession} {i : ℕ}

theorem Connections.Timed.of_eq (h : k.Timed) (hheap : k'.heap = k.heap)
    (htimers : k'.timers = k.timers) (hnext : k'.nextTimer = k.nextTimer) : k'.Timed := by
  constructor
  · rw [hheap, htimers]
    exact h.live
  · rw [hheap, htimers]
    exact h.armed
  · rw [hheap, htimers]
    exact h.own
  · rw [hheap, hnext]
    exact h.handles

theorem Connections.Timed.kept (h : k.Timed) (hk : k.Kept k') : k'.Timed :=
  h.of_eq hk.heap hk.timers hk.nextTimer

/-- The handle of a session that is not suspended is that of no timer. -/
theorem Connections.Timed.not_live (h : k.Timed) (hs : k.heap[r]? = some s)
    (hstate : s.state ≠ .SUSPEND) (hi : s.suspendTimer = some i) : k.timers.get? i = none := by
  cases ht : k.timers.get? i with
  | none => rfl
  | some t =>
    obtain ⟨s', hs', hsuspend, -⟩ := h.live i t ht
    rw [h.own r s i t hs hi ht, hs] at hs'
    cases hs'
    exact absurd hsuspend hstate

/-- One session after an assignment to it. -/
theorem heap_modified {f : WsSession → WsSession} (hs : k.heap[r]? = some s)
    (hheap : k'.heap = k.heap.modify r f) (r' : SessionRef) :
    k'.heap[r']? = if r' = r then some (f s) else k.heap[r']? := by
  rw [hheap, List.getElem?_modify]
  split_ifs with h₁ h₂ h₂
  · rw [← h₁, hs]
    rfl
  · exact absurd h₁.symm h₂
  · exact absurd h₂.symm h₁
  · cases k.heap[r']? <;> rfl

/-- A session that is not suspended afterwards, and whose timer is cleared. -/
theorem Connections.Timed.entered (h : k.Timed) {f : WsSession → WsSession}
    (hs : k.heap[r]? = some s) (hheap : k'.heap = k.heap.modify r f)
    (hstate : (f s).state ≠ .SUSPEND)
    (hhandle : (f s).suspendTimer = none ∨ (f s).suspendTimer = s.suspendTimer)
    (htimers : ∀ i, k'.timers.get? i = if s.suspendTimer = some i then none else k.timers.get? i)
    (hnext : k'.nextTimer = k.nextTimer) : k'.Timed := by
  have hheap' := heap_modified hs hheap
  have hhandle' : ∀ i, (f s).suspendTimer = some i → s.suspendTimer = some i := by
    intro i hi
    rcases hhandle with hnone | hsame
    · rw [hnone] at hi
      cases hi
    · rw [← hsame, hi]
  constructor
  · intro i t ht
    rw [htimers] at ht
    split_ifs at ht with hi
    obtain ⟨s', hs', hsuspend, hi'⟩ := h.live i t ht
    refine ⟨s', ?_, hsuspend, hi'⟩
    rw [hheap', if_neg, hs']
    intro hr
    rw [hr, hs] at hs'
    cases hs'
    exact hi hi'
  · intro r' s' hs' hsuspend
    rw [hheap'] at hs'
    split_ifs at hs' with hr
    · cases hs'
      exact absurd hsuspend hstate
    · obtain ⟨i, due, hi, ht⟩ := h.armed r' s' hs' hsuspend
      refine ⟨i, due, hi, ?_⟩
      rw [htimers, if_neg, ht]
      intro hi'
      exact hr (h.own r s i _ hs hi' ht)
  · intro r' s' i t hs' hi ht
    rw [htimers] at ht
    split_ifs at ht with hne
    rw [hheap'] at hs'
    split_ifs at hs' with hr
    · cases hs'
      exact absurd (hhandle' i hi) hne
    · exact h.own r' s' i t hs' hi ht
  · intro r' s' i hs' hi
    rw [hnext]
    rw [hheap'] at hs'
    split_ifs at hs' with hr
    · cases hs'
      exact h.handles r s i hs (hhandle' i hi)
    · exact h.handles r' s' i hs' hi

/-- A session that comes online, or is replaced, with its timer left as it is. -/
theorem Connections.Timed.updated (h : k.Timed) {f : WsSession → WsSession}
    (hs : k.heap[r]? = some s) (hheap : k'.heap = k.heap.modify r f)
    (hbefore : s.state ≠ .SUSPEND) (hstate : (f s).state ≠ .SUSPEND)
    (hhandle : (f s).suspendTimer = s.suspendTimer) (htimers : k'.timers = k.timers)
    (hnext : k'.nextTimer = k.nextTimer) : k'.Timed := by
  refine h.entered hs hheap hstate (Or.inr hhandle) (fun i => ?_) hnext
  rw [htimers]
  split_ifs with hi
  · exact h.not_live hs hbefore hi
  · rfl

/-- A session that is suspended, with a new timer in place of its old one. -/
theorem Connections.Timed.suspended (h : k.Timed) {f : WsSession → WsSession} {due : ℤ}
    (hs : k.heap[r]? = some s) (hheap : k'.heap = k.heap.modify r f)
    (hstate : (f s).state = .SUSPEND) (hhandle : (f s).suspendTimer = some k.nextTimer)
    (htimers : ∀ i, k'.timers.get? i = if i = k.nextTimer then some ⟨r, due⟩
      else if s.suspendTimer = some i then none else k.timers.get? i)
    (hnext : k'.nextTimer = k.nextTimer + 1) : k'.Timed := by
  have hheap' := heap_modified hs hheap
  -- no session holds the new handle yet
  have hfresh : ∀ (r' : SessionRef) (s' : WsSession) i, k.heap[r']? = some s' →
      s'.suspendTimer = some i → i ≠ k.nextTimer :=
    fun r' s' i hs' hi => (h.handles r' s' i hs' hi).ne
  constructor
  · intro i t ht
    rw [htimers] at ht
    split_ifs at ht with hi hi'
    · cases ht
      exact ⟨f s, by rw [hheap', if_pos rfl], hstate, hi ▸ hhandle⟩
    · obtain ⟨s', hs', hsuspend, hi''⟩ := h.live i t ht
      refine ⟨s', ?_, hsuspend, hi''⟩
      rw [hheap', if_neg, hs']
      intro hr
      rw [hr, hs] at hs'
      cases hs'
      exact hi' hi''
  · intro r' s' hs' hsuspend
    rw [hheap'] at hs'
    split_ifs at hs' with hr
    · cases hs'
      refine ⟨k.nextTimer, due, hhandle, ?_⟩
      rw [htimers, if_pos rfl, hr]
    · obtain ⟨i, due', hi, ht⟩ := h.armed r' s' hs' hsuspend
      refine ⟨i, due', hi, ?_⟩
      rw [htimers, if_neg (hfresh r' s' i hs' hi), if_neg, ht]
      intro hi'
      exact hr (h.own r s i _ hs hi' ht)
  · intro r' s' i t hs' hi ht
    rw [htimers] at ht
    rw [hheap'] at hs'
    split_ifs at hs' with hr
    · cases hs'
      rw [hhandle] at hi
      cases hi
      rw [if_pos rfl] at ht
      cases ht
      exact hr.symm
    · rw [if_neg (hfresh r' s' i hs' hi)] at ht
      split_ifs at ht
      exact h.own r' s' i t hs' hi ht
  · intro r' s' i hs' hi
    rw [hnext]
    rw [hheap'] at hs'
    split_ifs at hs' with hr
    · cases hs'
      rw [hhandle] at hi
      cases hi
      exact Nat.lt_succ_self _
    · exact (h.handles r' s' i hs' hi).trans (Nat.lt_succ_self _)

/-- A new session, without a timer. -/
theorem Connections.Timed.added (h : k.Timed) (hheap : k'.heap = k.heap ++ [session])
    (hstate : session.state ≠ .SUSPEND) (hhandle : session.suspendTimer = none)
    (htimers : k'.timers = k.timers) (hnext : k'.nextTimer = k.nextTimer) : k'.Timed := by
  have hcases : ∀ (r : SessionRef) (s : WsSession), k'.heap[r]? = some s →
      k.heap[r]? = some s ∨ s = session := by
    intro r s hs
    rw [hheap, List.getElem?_append] at hs
    split_ifs at hs
    · exact Or.inl hs
    · exact Or.inr (List.mem_singleton.1 (List.mem_of_getElem? hs))
  constructor
  · intro i t ht
    rw [htimers] at ht
    obtain ⟨s, hs, hsuspend, hi⟩ := h.live i t ht
    have hlt : t.session < k.heap.length := (List.getElem?_eq_some_iff.1 hs).1
    exact ⟨s, by rw [hheap, List.getElem?_append_left hlt, hs], hsuspend, hi⟩
  · intro r s hs hsuspend
    rw [htimers]
    rcases hcases r s hs with hs | rfl
    · exact h.armed r s hs hsuspend
    · exact absurd hsuspend hstate
  · intro r s i t hs hi ht
    rw [htimers] at ht
    rcases hcases r s hs with hs | rfl
    · exact h.own r s i t hs hi ht
    · rw [hhandle] at hi
      cases hi
  · intro r s i hs hi
    rw [hnext]
    rcases hcases r s hs with hs | rfl
    · exact h.handles r s i hs hi
    · rw [hhandle] at hi
      cases hi

/-! ## The turns -/

variable {a : Authenticated} {client : ClientRef}

theorem resumeSession_timed (h : k.Timed) (hs : k.heap[r]? = some session) :
    (k.resumeSession r session client).Timed := by
  refine h.entered (f := fun s =>
    { s with suspendTimer := none, socket := some client, state := .CONNECTING }) hs ?_ nofun
    (Or.inl rfl) (fun i => ?_) ?_ <;> unfold Connections.resumeSession
  · cases session.socket <;> simp [Connections.updateSession]
  · cases session.socket <;> simp
  · cases session.socket <;> simp

theorem replaceSession_timed (h : k.Timed) (hs : k.heap[r]? = some session)
    (hstate : session.state ≠ .SUSPEND) : (k.replaceSession r session client).Timed := by
  have hkept : ((k.updateSession r fun s =>
      { s with socket := some client, state := .CONNECTING }).updateClient client fun c =>
        { c with
          session := some r
          isResume := !(session.type = .browser || session.type = .desktop) }).Timed :=
    h.updated hs rfl hstate nofun rfl rfl rfl
  unfold Connections.replaceSession
  cases session.socket with
  | none => exact hkept
  | some old =>
    dsimp only
    split_ifs
    · refine h.entered (f := fun s =>
        { s with suspendTimer := none, socket := some client, state := .CONNECTING }) hs ?_ nofun
        (Or.inl rfl) (fun i => ?_) ?_
      · simp [Connections.updateSession, List.modify_modify_eq, Function.comp_def]
      · simp
      · simp
    · exact hkept

theorem createSession_timed (h : k.Timed) :
    (k.createSession a.id_enduser a.auth a.type a.product client).1.Timed := by
  have hheap : (k.createSession a.id_enduser a.auth a.type a.product client).1.heap =
      k.heap ++ [{ sessionId := a.id_enduser, principal := a.auth, type := a.type,
                   product := a.product, socket := some client }] := by
    simp [Connections.createSession]
  exact h.added hheap (by simp) rfl (by simp [Connections.createSession])
    (by simp [Connections.createSession])

theorem establishSession_timed (h : k.Timed) (a : Authenticated) (client : ClientRef) :
    (k.establishSession a.id_enduser a.auth a.type a.product client).1.Timed := by
  unfold Connections.establishSession
  split
  · exact createSession_timed h
  · split
    · exact createSession_timed h
    · rename_i session hs
      split_ifs with hstate
      · exact resumeSession_timed h hs
      · exact replaceSession_timed h hs hstate

variable {cfg : GatewayConfig} {g g' : Gateway} {t₀ : ℤ}

theorem connected_timed (hk : g.conn.Inv) (h : g.conn.Timed) (client : ClientRef)
    (a : Authenticated) : (g.connected client a).1.conn.Timed := by
  have htimed := establishSession_timed h a client
  obtain ⟨s, hs, -, hstate, -⟩ := (establishSession_entered hk a client).heap_self hk
  have honline : ((g.conn.establishSession a.id_enduser a.auth a.type a.product
      client).1.updateSession
        (g.conn.establishSession a.id_enduser a.auth a.type a.product client).2
          fun s => { s with state := .ONLINE }).Timed :=
    htimed.updated hs rfl (by simp [hstate]) nofun rfl rfl rfl
  exact honline.kept (connected_kept hk client a)

/-- A session that is suspended gets a timer that is due after the timeout. -/
theorem get?_startSuspendTimer (g : Gateway) (r : SessionRef) (session : WsSession) (i : ℕ) :
    ((g.onSuspend r session).startSuspendTimer cfg r).conn.timers.get? i =
      if i = g.conn.nextTimer then some ⟨r, g.clock + cfg.WS_SESSION_SUSPEND_TIMEOUT⟩
      else if session.suspendTimer = some i then none else g.conn.timers.get? i := by
  simp [Gateway.startSuspendTimer, Gateway.onSuspend, OMap.get?_set]

theorem startSuspendTimer_timed (h : g.conn.Timed) (hs : g.conn.heap[r]? = some session) :
    ((g.onSuspend r session).startSuspendTimer cfg r).conn.Timed := by
  refine h.suspended (f := fun s =>
    { s with state := .SUSPEND, socket := none, suspendTimer := some g.conn.nextTimer }) hs ?_ rfl
    rfl (fun i => get?_startSuspendTimer g r session i) ?_
  · simp only [Gateway.startSuspendTimer, Gateway.onSuspend, presence_conn,
      Connections.updateSession, Connections.clearTimeout_heap, Connections.clearTimeout_nextTimer,
      List.modify_modify_eq, Function.comp_def]
  · simp [Gateway.startSuspendTimer, Gateway.onSuspend]

theorem handleDisconnect_timed (hk : g.conn.Inv) (h : g.conn.Timed) (c : ClientRef) :
    (g.handleDisconnect cfg c).conn.Timed := by
  rcases handleDisconnect_eq cfg hk c with ⟨heq, -⟩ | ⟨r, session, -, hs, -, heq⟩
  · rw [heq]
    exact h
  · rw [heq]
    exact startSuspendTimer_timed h hs

theorem close_timed (hk : g.conn.Inv) (h : g.conn.Timed) (c : ClientRef) (client : WsClient) :
    (g.close cfg c client).conn.Timed := by
  have h₁ : (g.conn.closed c).Timed := h.of_eq rfl rfl rfl
  exact close_keeps (I := fun g => g.conn.Timed) hk c client h₁ fun _ hk' h' =>
    handleDisconnect_timed hk' h' c

/-- The gateway once a suspend timer has fired: the session is gone. -/
theorem suspendTimer_conn {t : SuspendTimer} (hs : g.conn.heap[t.session]? = some session)
    (hstate : session.state = .SUSPEND) :
    (g.suspendTimer t).conn = (g.conn.updateSession t.session fun s =>
      { s with state := .OFFLINE }).unregister session.sessionId := by
  unfold Gateway.suspendTimer
  rw [hs]
  dsimp only
  rw [if_pos hstate, presence_conn]

@[simp] theorem unregister_timers (k : Connections) (id : ℕ) :
    (k.unregister id).timers = k.timers := by
  unfold Connections.unregister
  split
  · rfl
  · split
    · rfl
    · split <;> rfl

@[simp] theorem unregister_nextTimer (k : Connections) (id : ℕ) :
    (k.unregister id).nextTimer = k.nextTimer := by
  unfold Connections.unregister
  split
  · rfl
  · split
    · rfl
    · split <;> rfl

/-- A timer that fires takes its session with it. -/
theorem suspendTimer_timed (h : g.conn.Timed) {t : SuspendTimer}
    (ht : g.conn.timers.get? i = some t) :
    (({ g with conn := { g.conn with
      timers := g.conn.timers.delete i } } : Gateway).suspendTimer t).conn.Timed := by
  obtain ⟨s, hs, hstate, hi⟩ := h.live i t ht
  rw [suspendTimer_conn (g := { g with conn := { g.conn with
    timers := g.conn.timers.delete i } }) hs hstate]
  refine h.entered (f := fun s => { s with state := .OFFLINE }) hs ?_ nofun (Or.inr rfl)
    (fun i' => ?_) ?_
  · rw [Connections.unregister_heap]
    rfl
  · simp [hi, OMap.get?_delete, eq_comm]
  · simp

/-! ## How a timer comes to be set, and how a session leaves -/

/-- Establishing a session sets no timer. -/
theorem establishSession_timers {a : Authenticated} {t : SuspendTimer}
    (h : (k.establishSession a.id_enduser a.auth a.type a.product client).1.timers.get? i =
      some t) : k.timers.get? i = some t := by
  have hcreate : (k.createSession a.id_enduser a.auth a.type a.product client).1.timers =
      k.timers := by
    simp [Connections.createSession]
  unfold Connections.establishSession at h
  split at h
  · rwa [hcreate] at h
  · split at h
    · rwa [hcreate] at h
    · rename_i session _
      split_ifs at h
      · unfold Connections.resumeSession at h
        cases hsocket : session.socket <;> rw [hsocket] at h <;>
          simp only [Connections.updateClient_timers, Connections.updateSession_timers,
            Connections.get?_clearTimeout, Connections.closeSocket_timers] at h <;>
          split_ifs at h <;> exact h
      · unfold Connections.replaceSession at h
        cases hsocket : session.socket with
        | none =>
          rw [hsocket] at h
          exact h
        | some old =>
          rw [hsocket] at h
          dsimp only at h
          split_ifs at h
          · simp only [Connections.updateClient_timers, Connections.updateSession_timers,
              Connections.closeSocket_timers, Connections.get?_clearTimeout] at h
            split_ifs at h
            exact h
          · exact h

theorem handleDisconnect_clock (cfg : GatewayConfig) (hk : g.conn.Inv) (c : ClientRef) :
    (g.handleDisconnect cfg c).clock = g.clock := by
  rcases handleDisconnect_eq cfg hk c with ⟨heq, -⟩ | ⟨r, session, -, -, -, heq⟩
  · rw [heq]
  · rw [heq]
    simp [Gateway.startSuspendTimer, Gateway.onSuspend]

/-- A timer that a close sets is due after the timeout. -/
theorem handleDisconnect_timers (hk : g.conn.Inv) {c : ClientRef} {t : SuspendTimer}
    (h : (g.handleDisconnect cfg c).conn.timers.get? i = some t) :
    g.conn.timers.get? i = some t ∨ t.due = g.clock + cfg.WS_SESSION_SUSPEND_TIMEOUT := by
  rcases handleDisconnect_eq cfg hk c with ⟨heq, -⟩ | ⟨r, session, -, -, -, heq⟩
  · rw [heq] at h
    exact Or.inl h
  · rw [heq, get?_startSuspendTimer] at h
    split_ifs at h
    · cases h
      exact Or.inr rfl
    · exact Or.inl h

theorem handleDisconnect_registry (cfg : GatewayConfig) (hk : g.conn.Inv) (c : ClientRef) :
    (g.handleDisconnect cfg c).conn.registry = g.conn.registry := by
  rcases handleDisconnect_cases cfg hk c with ⟨heq, -⟩ | ⟨r, -, -, hsuspends⟩
  · rw [heq]
  · exact hsuspends.registry

/-- The close of a socket: sessions stay registered, and the timers that are set are due after
    the timeout. -/
theorem close_spec (cfg : GatewayConfig) (hk : g.conn.Inv) (c : ClientRef) (client : WsClient) :
    (g.close cfg c client).conn.registry = g.conn.registry ∧
      (g.close cfg c client).clock = g.clock ∧
      ∀ i t, (g.close cfg c client).conn.timers.get? i = some t →
        g.conn.timers.get? i = some t ∨ t.due = g.clock + cfg.WS_SESSION_SUSPEND_TIMEOUT := by
  refine close_keeps (I := fun g' => g'.conn.registry = g.conn.registry ∧ g'.clock = g.clock ∧
    ∀ i t, g'.conn.timers.get? i = some t →
      g.conn.timers.get? i = some t ∨ t.due = g.clock + cfg.WS_SESSION_SUSPEND_TIMEOUT)
    hk c client ⟨rfl, rfl, fun _ _ h => Or.inl h⟩ fun g' hk' hg' => ?_
  obtain ⟨hregistry, hclock, htimers⟩ := hg'
  refine ⟨(handleDisconnect_registry cfg hk' c).trans hregistry,
    (handleDisconnect_clock cfg hk' c).trans hclock, fun i t h => ?_⟩
  rcases handleDisconnect_timers hk' h with h | h
  · exact htimers i t h
  · exact Or.inr (h.trans (by rw [hclock]))

theorem suspendTimer_timers (g : Gateway) (t : SuspendTimer) :
    (g.suspendTimer t).conn.timers = g.conn.timers := by
  unfold Gateway.suspendTimer
  split
  · rfl
  · split_ifs
    · rw [presence_conn, unregister_timers]
      rfl
    · rfl

/-- A session of the registry. -/
def Connections.Registered (k : Connections) (r : SessionRef) : Prop := ∃ id, k.find id = some r

/-- The timer of a session that is gone was the last thing about it. -/
theorem suspendTimer_registered (hk : g.conn.Inv) {t : SuspendTimer}
    (hr : g.conn.Registered r) (hleft : ¬ (g.suspendTimer t).conn.Registered r) :
    t.session = r := by
  by_contra hne
  refine hleft ?_
  obtain ⟨id, hid⟩ := hr
  refine ⟨id, ?_⟩
  cases hs : g.conn.heap[t.session]? with
  | none => simpa [Gateway.suspendTimer, hs] using hid
  | some session =>
    by_cases hstate : session.state = .SUSPEND
    · rw [suspendTimer_conn hs hstate]
      have hlive : g.conn.find session.sessionId = some t.session :=
        hk.live _ _ hs (by rw [hstate]; nofun)
      have hfind := Connections.find_unregister (k := g.conn.updateSession t.session fun s =>
        { s with state := .OFFLINE }) (s := { session with state := .OFFLINE }) hlive
        (by simp [Connections.heap_updateSession, hs]) id
      rw [hfind, if_neg]
      · exact hid
      · intro heq
        rw [heq, hlive] at hid
        exact hne (Option.some.inj hid)
    · simpa [Gateway.suspendTimer, hs, hstate] using hid

/-! ## Whole runs -/

/-- A consistent gateway whose suspend timers are those of its suspended sessions. -/
structure Lived (cfg : GatewayConfig) (t₀ : ℤ) (p : Pool Gateway Task) : Prop where
  consistent : Consistent cfg t₀ p
  timed : p.shared.conn.Timed

theorem lived_start (cfg : GatewayConfig) (t₀ : ℤ) : Lived cfg t₀ (Gateway.start t₀) where
  consistent := consistent_start cfg t₀
  timed := by
    constructor
    · intro i t h
      cases h
    all_goals
      intro r s
    · intro h
      cases h
    · intro i t h
      cases h
    · intro i h
      cases h

variable {p p' : Pool Gateway Task} {act : Act GatewayEvent GatewayAnswer}

/-- What a step does to the connections: nothing but to the sockets; the close of a socket; a
    suspend timer; or the entry of a connection. -/
theorem step_conn_cases (hp : Consistent cfg t₀ p)
    (hst : (gatewayProgram cfg).step p act = some p') :
    (p'.shared.conn.heap = p.shared.conn.heap ∧
      p'.shared.conn.registry = p.shared.conn.registry ∧
      p'.shared.conn.timers = p.shared.conn.timers ∧
      p'.shared.conn.nextTimer = p.shared.conn.nextTimer) ∨
    (∃ c client, act = .event (.close c) ∧ p'.shared = p.shared.close cfg c client) ∨
    (∃ i t, act = .event (.suspendTimer i) ∧ p.shared.conn.timers.get? i = some t ∧
      t.due ≤ p.shared.clock ∧ p'.shared = ({ p.shared with conn := { p.shared.conn with
        timers := p.shared.conn.timers.delete i } } : Gateway).suspendTimer t) ∨
    ∃ i c a, act = .resume i (.authenticated (.ok a)) ∧
      p'.shared = (p.shared.connected c a).1 := by
  have hkept : ∀ {g g' : Gateway}, g.conn.Kept g'.conn → g'.conn.heap = g.conn.heap ∧
      g'.conn.registry = g.conn.registry ∧ g'.conn.timers = g.conn.timers ∧
      g'.conn.nextTimer = g.conn.nextTimer :=
    fun h => ⟨h.heap, h.registry, h.timers, h.nextTimer⟩
  obtain ⟨e, g', new, rfl, he, rfl⟩ | ⟨j, answer, t, g', t', new, rfl, ht, hr, rfl⟩ :=
    Program.step_cases hst
  · obtain ⟨now, rfl, hle, rfl, rfl⟩ | ⟨rfl, rfl, rfl⟩ | ⟨c, client, rfl, -, -, rfl, rfl⟩ |
      ⟨i, t, rfl, ht, hdue, rfl, rfl⟩ | ⟨r, payload, -, rfl, rfl⟩ | ⟨-, hh, -⟩ :=
        onEvent_cases .any hp.1.indexed hp.1.storeInv he
    · exact Or.inl ⟨rfl, rfl, rfl, rfl⟩
    · exact Or.inl ⟨rfl, rfl, rfl, rfl⟩
    · exact Or.inr (Or.inl ⟨c, client, rfl, rfl⟩)
    · exact Or.inr (Or.inr (Or.inl ⟨i, t, rfl, ht, hdue, rfl⟩))
    · have hh : Handling cfg .any p.shared (p.shared.acknowledge cfg r payload) :=
        acknowledge_handling (fun _ _ => trivial) (fun _ _ _ _ => trivial) payload
      exact Or.inl (hkept hh.kept)
    · exact Or.inl (hkept hh.kept)
  · have hsound := hp.2 t (List.mem_of_getElem? ht)
    obtain ⟨c, rfl, rfl, hh, rfl⟩ | ⟨c, auth, rfl, rfl, hconnected⟩ |
      ⟨c, r, devices, rfl, rfl, rfl, rfl, rfl⟩ | ⟨q, ids, rfl, rfl, rfl, rfl, rfl⟩ |
      ⟨hh, -, -⟩ := onAnswer_cases .any hp.1.indexed hsound hr
    · exact Or.inl (hkept hh.kept)
    · exact Or.inr (Or.inr (Or.inr ⟨j, c, auth, rfl, by rw [hconnected]⟩))
    · have hh : Handling cfg .any p.shared
          ((p.shared.log (p.shared.conn.snapshot r devices)).ready c) :=
        snapshot_handling (fun _ _ _ _ => trivial) c
      exact Or.inl (hkept hh.kept)
    · have hh : Handling cfg .any p.shared (p.shared.finishQossing cfg q ids).1 :=
        finishQossing_handling hsound.routed (fun _ => trivial) fun _ => trivial
      exact Or.inl (hkept hh.kept)
    · have hkept' : p.shared.conn.Kept g'.conn := hh.kept
      exact Or.inl (hkept hkept')

theorem Lived.step (hp : Lived cfg t₀ p) (hst : (gatewayProgram cfg).step p act = some p') :
    Lived cfg t₀ p' := by
  refine ⟨hp.consistent.step hst, ?_⟩
  have hk := hp.consistent.1.conn
  rcases step_conn_cases hp.consistent hst with ⟨hheap, -, htimers, hnext⟩ |
    ⟨c, client, -, heq⟩ | ⟨i, t, -, ht, -, heq⟩ | ⟨i, c, a, -, heq⟩
  · exact hp.timed.of_eq hheap htimers hnext
  · rw [heq]
    exact close_timed hk hp.timed c client
  · rw [heq]
    exact suspendTimer_timed hp.timed ht
  · rw [heq]
    exact connected_timed hk hp.timed c a

theorem lived_run {acts : List (Act GatewayEvent GatewayAnswer)}
    (h : Run (gatewayProgram cfg).step anyStep (Gateway.start t₀) acts p) : Lived cfg t₀ p :=
  h.inv (lived_start cfg t₀) fun _ _ _ hp _ hst => hp.step hst

/-- A timer that is set after a step was set before, or was set by the step. -/
theorem timer_cases (hp : Consistent cfg t₀ p) (hst : (gatewayProgram cfg).step p act = some p')
    {t : SuspendTimer} (ht : p'.shared.conn.timers.get? i = some t) :
    p.shared.conn.timers.get? i = some t ∨
      p'.shared.clock + cfg.WS_SESSION_SUSPEND_TIMEOUT = t.due := by
  rcases step_conn_cases hp hst with ⟨-, -, htimers, -⟩ | ⟨c, client, -, heq⟩ |
    ⟨j, t', -, -, -, heq⟩ | ⟨j, c, a, -, heq⟩
  · rw [htimers] at ht
    exact Or.inl ht
  · obtain ⟨-, hclock, htimers⟩ := close_spec cfg hp.1.conn c client
    rw [heq] at ht ⊢
    rw [hclock]
    exact (htimers i t ht).imp_right Eq.symm
  · rw [heq, suspendTimer_timers] at ht
    simp only [OMap.get?_delete] at ht
    split_ifs at ht
    exact Or.inl ht
  · rw [heq, (connected_kept hp.1.conn c a).timers] at ht
    exact Or.inl (establishSession_timers ht)

/-- A session that leaves the registry does so because its timer fires. -/
theorem leaves_cases (hp : Consistent cfg t₀ p) (hst : (gatewayProgram cfg).step p act = some p')
    (hr : p.shared.conn.Registered r) (hleft : ¬ p'.shared.conn.Registered r) :
    ∃ i due, act = .event (.suspendTimer i) ∧ p.shared.conn.timers.get? i = some ⟨r, due⟩ ∧
      due ≤ p.shared.clock := by
  have hsame : p'.shared.conn.registry ≠ p.shared.conn.registry := by
    intro heq
    obtain ⟨id, hid⟩ := hr
    exact hleft ⟨id, by rw [Connections.find, heq]; exact hid⟩
  rcases step_conn_cases hp hst with ⟨-, hregistry, -⟩ | ⟨c, client, -, heq⟩ |
    ⟨i, t, rfl, ht, hdue, heq⟩ | ⟨j, c, a, -, heq⟩
  · exact absurd hregistry hsame
  · rw [heq] at hsame
    exact absurd (close_spec cfg hp.1.conn c client).1 hsame
  · have hk : ({ p.shared.conn with
        timers := p.shared.conn.timers.delete i } : Connections).Inv := hp.1.conn.of_eq rfl rfl
    rw [heq] at hleft
    have hsession := suspendTimer_registered (g := { p.shared with conn := { p.shared.conn with
      timers := p.shared.conn.timers.delete i } }) hk hr hleft
    exact ⟨i, t.due, rfl, by rw [ht, ← hsession], hdue⟩
  · -- a connection that enters takes nobody's place
    obtain ⟨k₁, r', hentered, hkept⟩ := connected_conn hp.1.conn c a
    obtain ⟨id, hid⟩ := hr
    have hfind : p'.shared.conn.find id = if id = a.id_enduser then some r' else
        p.shared.conn.find id := by
      rw [heq, hkept.find]
      exact hentered.find id
    refine absurd ⟨id, ?_⟩ hleft
    rw [hfind]
    split_ifs with hown
    · rcases hentered.heap with ⟨hnone, -⟩ | ⟨hsome, -⟩
      · rw [← hown, hid] at hnone
        cases hnone
      · rw [← hsome, ← hown, hid]
    · exact hid

/-- **As long as a timer is set.**  It was set when its session was suspended, and has been set
    ever since. -/
theorem set_since {acts : List (Act GatewayEvent GatewayAnswer)}
    (h : Run (gatewayProgram cfg).step anyStep (Gateway.start t₀) acts p) {t : SuspendTimer}
    (ht : p.shared.conn.timers.get? i = some t) :
    ∃ pre mid q, acts = pre ++ mid ∧
      Run (gatewayProgram cfg).step anyStep (Gateway.start t₀) pre q ∧
      Run (gatewayProgram cfg).step anyStep q mid p ∧
      q.shared.clock + cfg.WS_SESSION_SUSPEND_TIMEOUT = t.due ∧
      ∀ q', Visited (gatewayProgram cfg).step q mid q' →
        q'.shared.conn.timers.get? i = some t := by
  induction h with
  | nil => cases ht
  | @snoc acts p act p' hrun _ hst ih =>
    rcases timer_cases (lived_run hrun).consistent hst ht with hold | hnew
    · obtain ⟨pre, mid, q, rfl, hpre, hmid, hdue, hset⟩ := ih hold
      refine ⟨pre, mid ++ [act], q, List.append_assoc .., hpre, hmid.snoc trivial hst, hdue, ?_⟩
      intro q' hq'
      rcases hq'.concat hmid hst with hq' | rfl
      · exact hset q' hq'
      · exact ht
    · refine ⟨acts ++ [act], [], p', (List.append_nil _).symm, hrun.snoc trivial hst, .nil, hnew,
        ?_⟩
      intro q' hq'
      rw [hq'.nil]
      exact ht

/-! ## The life of a session -/

/-- The id map and the tenant index hold the same sessions: each under its own id, tenant and
    kind, one for an id, and none that is gone. -/
structure Connections.Agrees (k : Connections) : Prop where
  named : ∀ id r, k.find id = some r →
    ∃ s : WsSession, k.heap[r]? = some s ∧ s.sessionId = id ∧ s.state ≠ .OFFLINE
  unique : ∀ (r r' : SessionRef) (s s' : WsSession), k.Registered r → k.Registered r' →
    k.heap[r]? = some s → k.heap[r']? = some s' → s.sessionId = s'.sessionId → r = r'
  devices : ∀ tenantId r, (r ∈ k.getDevicesByTenant tenantId fun _ => true) ↔
    ∃ (id : ℕ) (s : WsSession), k.find id = some r ∧ k.heap[r]? = some s ∧
      s.principal.clientId = tenantId ∧ s.type = .device
  browsers : ∀ tenantId r, (r ∈ k.getBrowsersByTenant tenantId fun _ => true) ↔
    ∃ (id : ℕ) (s : WsSession), k.find id = some r ∧ k.heap[r]? = some s ∧
      s.principal.clientId = tenantId ∧ (s.type = .browser ∨ s.type = .desktop)
  covered : ∀ r, k.Registered r ↔ ∃ tenantId, (r ∈ k.getDevicesByTenant tenantId fun _ => true) ∨
    r ∈ k.getBrowsersByTenant tenantId fun _ => true

/-- A registered session is suspended iff it has no socket, iff exactly one timer is set for it;
    and timers are set for such sessions alone. -/
structure Connections.Suspended (k : Connections) : Prop where
  registered : ∀ (id : ℕ) (r : SessionRef) (s : WsSession), k.find id = some r →
    k.heap[r]? = some s → (s.state = .SUSPEND ↔ s.socket = none) ∧
      (s.socket = none ↔ ∃! i, ∃ due, k.timers.get? i = some ⟨r, due⟩)
  only : ∀ i t, k.timers.get? i = some t → ∃ (id : ℕ) (s : WsSession),
    k.find id = some t.session ∧ k.heap[t.session]? = some s ∧ s.state = .SUSPEND

theorem Connections.member_iff (hk : k.Inv) {kind : TypeEnduser → Bool} {tenantId : String} :
    k.Member kind tenantId r ↔ ∃ (id : ℕ) (s : WsSession), k.find id = some r ∧
      k.heap[r]? = some s ∧ s.principal.clientId = tenantId ∧ kind s.type = true := by
  constructor
  · rintro ⟨s, hs, hfind, htenant, hkind⟩
    exact ⟨s.sessionId, s, hfind, hs, htenant, hkind⟩
  · rintro ⟨id, s, hfind, hs, htenant, hkind⟩
    obtain ⟨s', hs', hid, -⟩ := hk.registered id r hfind
    rw [hs] at hs'
    cases hs'
    exact ⟨s, hs, hid ▸ hfind, htenant, hkind⟩

theorem agrees (hk : k.Inv) (hidx : k.Indexed) : k.Agrees := by
  have hdevices : ∀ tenantId r, (r ∈ k.getDevicesByTenant tenantId fun _ => true) ↔
      k.Member TypeEnduser.isDevice tenantId r := fun _ _ => by
    simp [mem_getDevicesByTenant hidx]
  have hbrowsers : ∀ tenantId r, (r ∈ k.getBrowsersByTenant tenantId fun _ => true) ↔
      k.Member TypeEnduser.isBrowser tenantId r := fun _ _ => by
    simp [mem_getBrowsersByTenant hidx]
  have hfind : ∀ (r : SessionRef) (s : WsSession), k.Registered r → k.heap[r]? = some s →
      k.find s.sessionId = some r := by
    rintro r s ⟨id, hid⟩ hs
    obtain ⟨s', hs', hsession, -⟩ := hk.registered id r hid
    rw [hs] at hs'
    cases hs'
    rw [hsession]
    exact hid
  constructor
  · exact hk.registered
  · intro r r' s s' hr hr' hs hs' hsame
    have hid := hfind r s hr hs
    rw [hsame, hfind r' s' hr' hs'] at hid
    exact (Option.some.inj hid).symm
  · intro tenantId r
    rw [hdevices, Connections.member_iff hk]
    simp [TypeEnduser.isDevice_iff]
  · intro tenantId r
    rw [hbrowsers, Connections.member_iff hk]
    simp [TypeEnduser.isBrowser_iff]
  · intro r
    simp only [hdevices, hbrowsers]
    constructor
    · rintro ⟨id, hid⟩
      obtain ⟨s, hs, rfl, -⟩ := hk.registered id r hid
      refine ⟨s.principal.clientId, ?_⟩
      rcases TypeEnduser.kind_of_issues (hk.issued r s hs) with hkind | hkind
      · exact Or.inl ⟨s, hs, hid, rfl, hkind⟩
      · exact Or.inr ⟨s, hs, hid, rfl, hkind⟩
    · rintro ⟨tenantId, ⟨s, -, hfind, -⟩ | ⟨s, -, hfind, -⟩⟩
      · exact ⟨_, hfind⟩
      · exact ⟨_, hfind⟩

theorem suspended (hk : k.Inv) (h : k.Timed) : k.Suspended := by
  have honly : ∀ i t, k.timers.get? i = some t → ∃ (id : ℕ) (s : WsSession),
      k.find id = some t.session ∧ k.heap[t.session]? = some s ∧ s.state = .SUSPEND := by
    intro i t ht
    obtain ⟨s, hs, hstate, -⟩ := h.live i t ht
    exact ⟨s.sessionId, s, hk.live _ s hs (by rw [hstate]; nofun), hs, hstate⟩
  refine ⟨fun id r s hfind hs => ?_, honly⟩
  have hstanding := hk.standing r s hs
  obtain ⟨s', hs', -, halive⟩ := hk.registered id r hfind
  rw [hs] at hs'
  cases hs'
  have hsocket : s.state = .SUSPEND ↔ s.socket = none := by
    constructor
    · intro hstate
      by_contra hsome
      exact (hstanding.state_ne hsome).2.1 hstate
    · intro hnone
      rcases hstanding with ⟨hsome, -⟩ | ⟨-, hstate | hstate⟩
      · exact absurd hnone hsome
      · exact hstate
      · exact absurd hstate halive
  refine ⟨hsocket, ?_⟩
  rw [← hsocket]
  constructor
  · intro hstate
    obtain ⟨i, due, hi, ht⟩ := h.armed r s hs hstate
    refine ⟨i, ⟨due, ht⟩, ?_⟩
    rintro j ⟨due', hj⟩
    obtain ⟨s', hs', -, hj'⟩ := h.live j _ hj
    rw [hs] at hs'
    cases hs'
    exact Option.some.inj (hj'.symm.trans hi)
  · rintro ⟨i, ⟨due, ht⟩, -⟩
    obtain ⟨s', hs', hstate, -⟩ := h.live i _ ht
    rw [hs] at hs'
    cases hs'
    exact hstate

/-- The close of a socket that is not its session's. -/
theorem close_superseded (hk : g.conn.Inv) {c : ClientRef} (client : WsClient)
    (hnot : ∀ r, (g.conn.clients[c]?).bind (·.session) = some r → g.conn.socket r ≠ some c) :
    g.close cfg c client = { g with conn := g.conn.closed c } := by
  obtain ⟨g₁, hg₁⟩ : ∃ g₁ : Gateway, g₁ = { g with conn := g.conn.closed c } := ⟨_, rfl⟩
  have hk₁ : g₁.conn.Inv := by
    rw [hg₁]
    exact hk.of_eq rfl rfl
  have hsame : g₁.handleDisconnect cfg c = g₁ := by
    rcases handleDisconnect_eq cfg hk₁ c with ⟨heq, -⟩ | ⟨r, session, hr, hs, hsocket, -⟩
    · exact heq
    · rw [hg₁] at hr hs
      have hsession : (g.conn.clients[c]?).bind (·.session) = some r := by
        rw [← hr, Connections.closed, Connections.clients_updateClient]
        cases g.conn.clients[c]? with
        | none => rfl
        | some client => simp
      have hr' : g.conn.socket r = some c := by
        have hs' : g.conn.heap[r]? = some session := hs
        rw [Connections.socket, hs']
        exact hsocket
      exact absurd hr' (hnot r hsession)
  rw [← hg₁]
  refine close_keeps (I := fun g' => g' = g₁) hk c client hg₁.symm fun g' _ heq => ?_
  rw [heq]
  exact hsame

/-- **The life of a session.**  In every state of a run, the id map and the tenant index hold
    the same sessions; the suspended ones are those without a socket, with one timer each; the
    close of a socket that is not its session's changes nothing else; and a session leaves the
    registry only when its timer fires, after it was suspended for the whole timeout. -/
theorem session_lifecycle {acts : List (Act GatewayEvent GatewayAnswer)}
    (h : Run (gatewayProgram cfg).step anyStep (Gateway.start t₀) acts p) :
    p.shared.conn.Agrees ∧ p.shared.conn.Suspended ∧
    (∀ c p', (gatewayProgram cfg).step p (.event (.close c)) = some p' →
      (∀ r, (p.shared.conn.clients[c]?).bind (·.session) = some r →
        p.shared.conn.socket r ≠ some c) →
      p' = ⟨{ p.shared with conn := p.shared.conn.closed c }, p.threads⟩) ∧
    ∀ act p' r, (gatewayProgram cfg).step p act = some p' → p.shared.conn.Registered r →
      ¬ p'.shared.conn.Registered r →
      ∃ i due pre mid q, act = .event (.suspendTimer i) ∧
        p.shared.conn.timers.get? i = some ⟨r, due⟩ ∧ acts = pre ++ mid ∧
        Run (gatewayProgram cfg).step anyStep (Gateway.start t₀) pre q ∧
        Run (gatewayProgram cfg).step anyStep q mid p ∧
        q.shared.clock + cfg.WS_SESSION_SUSPEND_TIMEOUT ≤ p.shared.clock ∧
        ∀ q', Visited (gatewayProgram cfg).step q mid q' →
          q'.shared.conn.heap[r]?.map (·.state) = some .SUSPEND := by
  have hp := lived_run h
  have hk := hp.consistent.1.conn
  refine ⟨agrees hk hp.consistent.1.indexed, suspended hk hp.timed, fun c p' hst hnot => ?_,
    fun act p' r hst hr hleft => ?_⟩
  · obtain ⟨⟨g', new⟩, he, rfl⟩ := Option.map_eq_some_iff.1 hst
    simp only [gatewayProgram, Gateway.onEvent] at he
    split at he
    · cases he
    · split_ifs at he
      cases he
      rw [close_superseded hk _ hnot, List.append_nil]
  · obtain ⟨i, due, hact, ht, hdue⟩ := leaves_cases hp.consistent hst hr hleft
    obtain ⟨pre, mid, q, hacts, hpre, hmid, hclock, hset⟩ := set_since h ht
    refine ⟨i, due, pre, mid, q, hact, ht, hacts, hpre, hmid, hclock.trans_le hdue, ?_⟩
    intro q' hq'
    have htimed : q'.shared.conn.Timed := by
      obtain ⟨mid', -, hrun⟩ := id hq'
      exact (lived_run (hpre.append hrun)).timed
    obtain ⟨s, hs, hstate, -⟩ := htimed.live i _ (hset q' hq')
    rw [hs, Option.map_some, hstate]

end

/-- The device stays away for the whole timeout. -/
def scannerAway : List (Act GatewayEvent GatewayAnswer) :=
  scannerVisit ++ [.event (.tick 60000)]

/-- Where that leads. -/
def afterAway : Pool Gateway Task :=
  (exec (gatewayProgram .defaults).step (Gateway.start 0) scannerAway).getD (Gateway.start 0)

/-- Then its timer fires. -/
def timerFires : Act GatewayEvent GatewayAnswer := .event (.suspendTimer 0)

theorem session_lifecycle_scannerAway :
    afterAway.shared.conn.Agrees ∧ afterAway.shared.conn.Suspended ∧
    ∃ p', (gatewayProgram .defaults).step afterAway timerFires = some p' ∧
      ¬ p'.shared.conn.Registered 0 ∧
      ∃ i due pre mid q, timerFires = .event (.suspendTimer i) ∧
        afterAway.shared.conn.timers.get? i = some ⟨0, due⟩ ∧ scannerAway = pre ++ mid ∧
        Run (gatewayProgram .defaults).step anyStep (Gateway.start 0) pre q ∧
        Run (gatewayProgram .defaults).step anyStep q mid afterAway ∧
        q.shared.clock + 60000 ≤ afterAway.shared.clock ∧
        ∀ q', Visited (gatewayProgram .defaults).step q mid q' →
          q'.shared.conn.heap[0]?.map (·.state) = some .SUSPEND := by
  have hrun : Run (gatewayProgram .defaults).step anyStep (Gateway.start 0) scannerAway afterAway :=
    run_of_exec rfl
  obtain ⟨hagrees, hsuspended, -, hleaves⟩ := session_lifecycle hrun
  obtain ⟨p', hp'⟩ : ∃ p', (gatewayProgram .defaults).step afterAway timerFires = some p' :=
    ⟨_, rfl⟩
  have hgone : ¬ p'.shared.conn.Registered 0 := by
    have hread : ((gatewayProgram .defaults).step afterAway timerFires).map
        (fun p => p.shared.conn.registry.sessions.entries) = some [] := by decide
    rw [hp'] at hread
    have hempty : p'.shared.conn.registry.sessions.entries = [] := Option.some.inj hread
    rintro ⟨id, hid⟩
    have hmem := (OMap.mem_entries _ _ _).2 hid
    rw [hempty] at hmem
    cases hmem
  exact ⟨hagrees, hsuspended, p', hp', hgone, hleaves _ p' 0 hp' ⟨7, rfl⟩ hgone⟩

end GatewayRealtime
