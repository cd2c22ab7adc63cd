/-
  The invariants of the gateway over whole runs.

  * `Gateway.storeRun`: what the gateway does to its event store is a run of the store, so every
    theorem about runs of the store holds of the gateway.
  * `Gateway.Inv`: that, and the invariants of the sessions and of the tenant index.
  * `consistent_run`: both hold in every state that the gateway reaches, and every computation
    is sound there.
-/
import GatewayRealtime.Registered

namespace GatewayRealtime

/-- The event ids generated so far, newest first. -/
def Gateway.issued (cfg : GatewayConfig) (g : Gateway) : List String :=
  ((List.range g.generated).map cfg.randomUUID).reverse

/-- The store is in the state to which a run of the store leads, from when the gateway was
    started at `t₀`. -/
def Gateway.StoreRun (cfg : GatewayConfig) (t₀ : ℤ) (g : Gateway) : Prop :=
  ∃ ops clock, clock ≤ g.clock ∧
    Run (storeStep cfg.store) anyStep (StoreWorld.init JsObj t₀) ops
      ⟨g.store, clock, g.issued cfg⟩

/-- The invariant of a gateway that was started at `t₀`. -/
structure Gateway.Inv (cfg : GatewayConfig) (t₀ : ℤ) (g : Gateway) : Prop where
  conn : g.conn.Inv
  indexed : g.conn.Indexed
  storeRun : g.StoreRun cfg t₀

section
variable {cfg : GatewayConfig} {ok : Promise} {t₀ : ℤ} {g g' : Gateway}

/-- The ids that were issued are those that were generated. -/
theorem mem_issued {n : ℕ} : cfg.randomUUID n ∈ g.issued cfg ↔ n < g.generated := by
  unfold Gateway.issued
  rw [List.mem_reverse, List.mem_map]
  constructor
  · rintro ⟨m, hm, heq⟩
    rw [cfg.randomUUID_injective heq] at hm
    exact List.mem_range.1 hm
  · intro hn
    exact ⟨n, List.mem_range.2 hn, rfl⟩

/-- An id that is generated has not been issued. -/
theorem Gateway.randomUUID_not_mem_issued (cfg : GatewayConfig) (g : Gateway) :
    cfg.randomUUID g.generated ∉ g.issued cfg := fun h =>
  lt_irrefl _ (mem_issued.1 h)

theorem issued_log (cfg : GatewayConfig) (g : Gateway) (effects : List Effect) :
    (g.log effects).issued cfg = g.issued cfg := rfl

theorem issued_withEvent (cfg : GatewayConfig) (g : Gateway) (s : EventStore JsObj)
    (targetIds : List ℕ) (sender : SessionRef) (grant : Option Grant) :
    (g.withEvent cfg s targetIds sender grant).issued cfg =
      cfg.randomUUID g.generated :: g.issued cfg := by
  simp [Gateway.issued, Gateway.withEvent, List.range_succ]

theorem issued_createEvent (cfg : GatewayConfig) (g : Gateway) (targetIds : List ℕ)
    (eventName : String) (payload : JsObj) (qos : QoS) (options : CreateOptions)
    (sender : SessionRef) (grant : Option Grant) :
    (g.createEvent cfg targetIds eventName payload qos options sender grant).issued cfg =
      cfg.randomUUID g.generated :: g.issued cfg := by
  obtain ⟨notices, heq, -⟩ := createEvent_eq cfg g targetIds eventName payload qos options
    sender grant
  rw [heq, issued_log, issued_withEvent]

/-- Operations of the store prolong its run. -/
theorem Gateway.StoreRun.setStore (hg : g.StoreRun cfg t₀) {s : EventStore JsObj}
    (hs : EventStore.Operated cfg.store g.clock g.store s) : (g.setStore s).StoreRun cfg t₀ := by
  obtain ⟨ops, clock, hle, hrun⟩ := hg
  obtain ⟨ops', clock', hle', hrun'⟩ := hs.run hle (g.issued cfg)
  exact ⟨ops ++ ops', clock', hle', hrun.append hrun'⟩

/-- So does a new event. -/
theorem Gateway.StoreRun.createEvent (hg : g.StoreRun cfg t₀) (targetIds : List ℕ)
    (eventName : String) (payload : JsObj) (qos : QoS) (options : CreateOptions)
    (sender : SessionRef) (grant : Option Grant) :
    (g.createEvent cfg targetIds eventName payload qos options sender grant).StoreRun cfg t₀ := by
  obtain ⟨ops, clock, hle, hrun⟩ := hg
  refine ⟨ops ++ [(g.clock, .create (cfg.randomUUID g.generated) targetIds eventName payload qos
    options)], g.clock, le_rfl, hrun.snoc trivial ?_⟩
  rw [issued_createEvent]
  exact if_pos ⟨hle, decide_eq_true (Gateway.randomUUID_not_mem_issued cfg g)⟩

theorem Gateway.StoreRun.tick (hg : g.StoreRun cfg t₀) {now : ℤ} (hle : g.clock ≤ now) :
    Gateway.StoreRun cfg t₀ { g with clock := now } := by
  obtain ⟨ops, clock, hle', hrun⟩ := hg
  exact ⟨ops, clock, hle'.trans hle, hrun⟩

/-- Every change acts on the store as a run of the store. -/
theorem Gateway.StoreRun.change (hg : g.StoreRun cfg t₀) (h : Change cfg ok g g') :
    g'.StoreRun cfg t₀ :=
  h.inv hg (fun _ _ hg _ => hg) (fun _ _ hg hs => hg.setStore hs)
    (fun _ targetIds eventName payload qos options sender grant hg _ =>
      hg.createEvent targetIds eventName payload qos options sender grant)
    (fun _ _ hg _ => hg) (fun _ _ _ _ hg => hg) fun _ _ hg hle => hg.tick hle

/-- What every run of the store keeps, in the store of the gateway. -/
theorem Gateway.StoreRun.worldInv (hg : g.StoreRun cfg t₀) :
    EventStore.WorldInv ⟨g.store, g.clock, g.issued cfg⟩ := by
  obtain ⟨ops, clock, hle, hrun⟩ := hg
  obtain ⟨hstore, hissued, hcreated⟩ := EventStore.worldInv_run hrun
  exact ⟨hstore, hissued, fun id r hr => (hcreated id r hr).trans hle⟩

theorem Gateway.Inv.storeInv (hg : g.Inv cfg t₀) : EventStore.StoreInv g.store :=
  hg.storeRun.worldInv.store

theorem gatewayInv_start (cfg : GatewayConfig) (t₀ : ℤ) : (Gateway.start t₀).shared.Inv cfg t₀ where
  conn := by
    constructor
    · intro id r h
      cases h
    all_goals
      intro r s h
      cases h
  indexed := by
    refine ⟨nofun, fun tenantId r => ⟨nofun, ?_⟩, fun tenantId r => ⟨nofun, ?_⟩⟩
    all_goals
      rintro ⟨s, hs, -⟩
      cases hs
  storeRun := ⟨[], t₀, le_rfl, .nil⟩

theorem Gateway.Inv.handling (hg : g.Inv cfg t₀) (h : Handling cfg ok g g') : g'.Inv cfg t₀ :=
  ⟨hg.conn.kept h.kept, hg.indexed.kept h.kept, hg.storeRun.change h.change⟩

/-- The session that entered comes online. -/
theorem onConnect_change_of_entered (hg : g.Inv cfg t₀) {k₁ : Connections} (hidx : k₁.Indexed)
    {a : Authenticated} {client : ClientRef} {r : SessionRef} (h : g.conn.Entered k₁ a client r) :
    Change cfg ok { g with conn := k₁ } (({ g with conn := k₁ } : Gateway).onConnect r).1 := by
  refine onConnect_change (g := { g with conn := k₁ }) hidx hg.storeInv fun id hid => ?_
  obtain ⟨s, hs, -, -, hsession, -⟩ := h.heap_self hg.conn
  obtain rfl : s.sessionId = id := by simpa [Connections.sessionId, hs] using hid
  exact (h.find _).trans (if_pos hsession)

/-- The entry of a connection, the new session apart, is a change. -/
theorem connected_change (cfg : GatewayConfig) (ok : Promise) (hg : g.Inv cfg t₀)
    (client : ClientRef) (a : Authenticated) :
    ∃ k₁ r, g.conn.Entered k₁ a client r ∧ k₁.Indexed ∧
      Change cfg ok { g with conn := k₁ } (g.connected client a).1 := by
  have hentered := establishSession_entered hg.conn a client
  have hidx := establishSession_indexed hg.indexed a client
  refine ⟨_, _, hentered, hidx, ?_⟩
  unfold Gateway.connected
  dsimp only
  split_ifs
  · exact onConnect_change_of_entered hg hidx hentered
  · exact (onConnect_change_of_entered hg hidx hentered).handling (ready_handling _ client)

theorem Gateway.Inv.connected (hg : g.Inv cfg t₀) (client : ClientRef) (a : Authenticated) :
    (g.connected client a).1.Inv cfg t₀ := by
  obtain ⟨k₁, r, -, hidx, hchange⟩ := connected_change cfg .any hg client a
  exact ⟨connected_inv hg.conn, hchange.shrinks.indexed hidx,
    Gateway.StoreRun.change (g := { g with conn := k₁ }) hg.storeRun hchange⟩

/-- What a computation of `handleConnection` goes on to. -/
theorem connected_sound (client : ClientRef) (a : Authenticated) (k : Connections) :
    (g.connected client a).2.1.Sound k ∧ (g.connected client a).2.1.waiting = none ∧
      (g.connected client a).2.2 = [] := by
  unfold Gateway.connected
  dsimp only
  split_ifs <;> exact ⟨trivial, rfl, rfl⟩

/-- An event keeps the invariant, and the computations it starts are sound. -/
theorem Gateway.Inv.onEvent {e : GatewayEvent} {new : List Task} (hg : g.Inv cfg t₀)
    (h : g.onEvent cfg e = some (g', new)) :
    g'.Inv cfg t₀ ∧ g.conn.Extends g'.conn ∧ ∀ t ∈ new, t.Sound g'.conn := by
  have hchange : ∀ {g g' : Gateway}, Change cfg .any g g' → g.conn.Indexed →
      g.StoreRun cfg t₀ → g'.conn.Inv → g'.Inv cfg t₀ ∧ g.conn.Extends g'.conn ∧
        ∀ t ∈ ([] : List Task), t.Sound g'.conn :=
    fun hc hidx hstore hconn => ⟨⟨hconn, hc.shrinks.indexed hidx, hstore.change hc⟩,
      hc.shrinks.sessions, List.forall_mem_nil _⟩
  obtain ⟨now, rfl, hle, rfl, rfl⟩ | ⟨rfl, rfl, rfl⟩ | ⟨c, client, rfl, -, -, rfl, rfl⟩ |
    ⟨i, t, rfl, -, -, rfl, rfl⟩ | ⟨r, payload, -, rfl, rfl⟩ | ⟨-, hh, hnew⟩ :=
      onEvent_cases .any hg.indexed hg.storeInv h
  · exact hchange (Change.refl.tick hle) hg.indexed hg.storeRun hg.conn
  · refine ⟨⟨hg.conn.of_eq rfl rfl, hg.indexed.of_eq rfl rfl, hg.storeRun⟩,
      fun r s hs => ⟨s, hs, rfl⟩, fun t ht => ?_⟩
    rw [List.mem_singleton] at ht
    exact ht ▸ trivial
  · exact hchange (close_change hg.indexed c client) hg.indexed hg.storeRun
      (close_inv cfg hg.conn c client)
  · have hconn : ({ g.conn with timers := g.conn.timers.delete i } : Connections).Inv :=
      hg.conn.of_eq rfl rfl
    have hidx : ({ g.conn with timers := g.conn.timers.delete i } : Connections).Indexed :=
      hg.indexed.of_eq rfl rfl
    exact hchange (g := { g with conn := { g.conn with timers := g.conn.timers.delete i } })
      (suspendTimer_change hidx t) hidx hg.storeRun (suspendTimer_inv hconn t)
  · have hh : Handling cfg .any g (g.acknowledge cfg r payload) :=
      acknowledge_handling (fun _ _ => trivial) (fun _ _ _ _ => trivial) payload
    refine ⟨hg.handling hh, hh.kept.shrinks.sessions, fun t ht => ?_⟩
    rw [List.mem_singleton] at ht
    exact ht ▸ trivial
  · exact ⟨hg.handling hh, hh.kept.shrinks.sessions,
      fun t ht => (hnew t ht).2.extends hh.kept.shrinks.sessions⟩

/-- So does the answer to a sound computation. -/
theorem Gateway.Inv.onAnswer {t t' : Task} {a : GatewayAnswer} {new : List Task}
    (hg : g.Inv cfg t₀) (ht : t.Sound g.conn) (h : g.onAnswer cfg t a = some (g', t', new)) :
    g'.Inv cfg t₀ ∧ g.conn.Extends g'.conn ∧ t'.Sound g'.conn ∧ ∀ t ∈ new, t.Sound g'.conn := by
  obtain ⟨c, rfl, rfl, hh, rfl⟩ | ⟨c, auth, rfl, rfl, hconnected⟩ |
    ⟨c, r, devices, rfl, rfl, rfl, rfl, rfl⟩ | ⟨q, ids, rfl, rfl, rfl, rfl, rfl⟩ |
    ⟨hh, htask, hnew⟩ := onAnswer_cases .any hg.indexed ht h
  · exact ⟨hg.handling hh, hh.kept.shrinks.sessions, trivial, List.forall_mem_nil _⟩
  · obtain ⟨hsound, -, hnew⟩ := connected_sound (g := g) c auth g'.conn
    obtain ⟨k₁, r, hentered, -, hchange⟩ := connected_change cfg .any hg c auth
    have hinv := hg.connected c auth
    rw [hconnected] at hsound hnew hchange hinv
    exact ⟨hinv, hentered.extends.trans hchange.shrinks.sessions, hsound,
      fun t ht => absurd ht (by simp [show new = [] from hnew])⟩
  · have hh : Handling cfg .any g ((g.log (g.conn.snapshot r devices)).ready c) :=
      snapshot_handling (fun _ _ _ _ => trivial) c
    exact ⟨hg.handling hh, hh.kept.shrinks.sessions, trivial, List.forall_mem_nil _⟩
  · have hh : Handling cfg .any g (g.finishQossing cfg q ids).1 :=
      finishQossing_handling ht.routed (fun _ => trivial) fun _ => trivial
    exact ⟨hg.handling hh, hh.kept.shrinks.sessions, trivial, List.forall_mem_nil _⟩
  · exact ⟨hg.handling hh, hh.kept.shrinks.sessions, htask.2.extends hh.kept.shrinks.sessions,
      fun t ht => (hnew t ht).2.extends hh.kept.shrinks.sessions⟩

/-- A gateway that meets the invariant, with sound computations. -/
def Consistent (cfg : GatewayConfig) (t₀ : ℤ) (p : Pool Gateway Task) : Prop :=
  p.shared.Inv cfg t₀ ∧ ∀ t ∈ p.threads, t.Sound p.shared.conn

theorem Consistent.step {p p' : Pool Gateway Task} {act : Act GatewayEvent GatewayAnswer}
    (hp : Consistent cfg t₀ p) (hst : (gatewayProgram cfg).step p act = some p') :
    Consistent cfg t₀ p' := by
  refine Program.step_inv (G := Gateway.Inv cfg t₀) (L := fun g t => t.Sound g.conn)
    (fun g e g' new hg he => ?_) (fun g t c g' t' new hg ht hr => ?_) ⟨hp.1, hp.2⟩ hst
  · obtain ⟨hg', hext, hnew⟩ := hg.onEvent he
    exact ⟨hg', fun t ht => ht.extends hext, hnew⟩
  · obtain ⟨hg', hext, hself, hnew⟩ := hg.onAnswer ht hr
    exact ⟨hg', fun t ht => ht.extends hext, hself, hnew⟩

theorem consistent_start (cfg : GatewayConfig) (t₀ : ℤ) : Consistent cfg t₀ (Gateway.start t₀) :=
  ⟨gatewayInv_start cfg t₀, List.forall_mem_nil _⟩

/-- **The gateway stays consistent.**  After every run the registry lists the sessions that are
    not gone, the store is in a state of a run of the store, and the computations are sound. -/
theorem consistent_run {acts : List (Act GatewayEvent GatewayAnswer)} {p : Pool Gateway Task}
    {ok : Pool Gateway Task → Act GatewayEvent GatewayAnswer → Prop}
    (h : Run (gatewayProgram cfg).step ok (Gateway.start t₀) acts p) : Consistent cfg t₀ p :=
  h.inv (consistent_start cfg t₀) fun _ _ _ hp _ hst => hp.step hst

/-! ## What a step can be -/

variable {p p' : Pool Gateway Task} {act : Act GatewayEvent GatewayAnswer}

/-- **What a step of a consistent gateway does**: an acknowledgement; the entry of a connection;
    the list of devices for a browser; the end of a call of `qossing`; or a change in which no
    event is created and no notice is sent without the promise. -/
theorem Consistent.step_cases (ok : Promise) (hp : Consistent cfg t₀ p)
    (hst : (gatewayProgram cfg).step p act = some p') :
    (∃ e r payload, act = .event e ∧ p.shared.acking e = some (r, payload) ∧
      p'.shared = p.shared.acknowledge cfg r payload) ∨
    (∃ i c a, act = .resume i (.authenticated (.ok a)) ∧
      p.threads[i]? = some (.authenticate c) ∧ p'.shared = (p.shared.connected c a).1) ∨
    (∃ i c r devices, act = .resume i (.devices devices) ∧ p.threads[i]? = some (.snapshot c r) ∧
      p'.shared = (p.shared.log (p.shared.conn.snapshot r devices)).ready c) ∨
    (∃ i q ids, act = .resume i (.targets (.ok ids)) ∧ p.threads[i]? = some (.targets q) ∧
      q.Sound p.shared.conn ∧ p'.shared = (p.shared.finishQossing cfg q ids).1) ∨
    (∀ e, act = .event e → p.shared.acking e = none) ∧ Change cfg ok p.shared p'.shared := by
  obtain ⟨e, g', new, rfl, he, rfl⟩ | ⟨i, answer, t, g', t', new, rfl, ht, hr, rfl⟩ :=
    Program.step_cases hst
  · have hchange : p.shared.acking e = none → Change cfg ok p.shared g' →
        (∀ e', (Act.event e : Act GatewayEvent GatewayAnswer) = .event e' →
          p.shared.acking e' = none) ∧ Change cfg ok p.shared g' := by
      intro hack hchange
      refine ⟨?_, hchange⟩
      rintro e' ⟨⟩
      exact hack
    obtain ⟨now, rfl, hle, rfl, rfl⟩ | ⟨rfl, rfl, rfl⟩ | ⟨c, client, rfl, -, -, rfl, rfl⟩ |
      ⟨i, t, rfl, -, -, rfl, rfl⟩ | ⟨r, payload, hack, rfl, rfl⟩ | ⟨hack, hh, -⟩ :=
        onEvent_cases ok hp.1.indexed hp.1.storeInv he
    · exact Or.inr (Or.inr (Or.inr (Or.inr (hchange rfl (Change.refl.tick hle)))))
    · exact Or.inr (Or.inr (Or.inr (Or.inr (hchange rfl (Change.refl.turn (.of_eq rfl rfl))))))
    · exact Or.inr (Or.inr (Or.inr (Or.inr (hchange rfl (close_change hp.1.indexed c client)))))
    · have hdeleted : p.shared.conn.Shrinks { p.shared.conn with
          timers := p.shared.conn.timers.delete i } := .of_eq rfl rfl
      refine Or.inr (Or.inr (Or.inr (Or.inr (hchange rfl ?_))))
      exact (Change.refl.turn hdeleted).trans
        (suspendTimer_change (hdeleted.indexed hp.1.indexed) t)
    · exact Or.inl ⟨e, r, payload, rfl, hack, rfl⟩
    · exact Or.inr (Or.inr (Or.inr (Or.inr (hchange hack hh.change))))
  · have hsound := hp.2 t (List.mem_of_getElem? ht)
    obtain ⟨c, rfl, rfl, hh, rfl⟩ | ⟨c, auth, rfl, rfl, hconnected⟩ |
      ⟨c, r, devices, rfl, rfl, rfl, rfl, rfl⟩ | ⟨q, ids, rfl, rfl, rfl, rfl, rfl⟩ |
      ⟨hh, -, -⟩ := onAnswer_cases ok hp.1.indexed hsound hr
    · exact Or.inr (Or.inr (Or.inr (Or.inr ⟨nofun, hh.change⟩)))
    · exact Or.inr (Or.inl ⟨i, c, auth, rfl, ht, by rw [hconnected]⟩)
    · exact Or.inr (Or.inr (Or.inl ⟨i, c, r, devices, rfl, ht, rfl⟩))
    · exact Or.inr (Or.inr (Or.inr (Or.inl ⟨i, q, ids, rfl, ht, hsound, rfl⟩)))
    · exact Or.inr (Or.inr (Or.inr (Or.inr ⟨nofun, hh.change⟩)))

/-- **Steps under a promise.**  If the promise holds of the notice with the list of devices and of
    the events that a call of `qossing` creates, then a step that is not an acknowledgement is a
    change under the promise, or the entry of a connection followed by one. -/
theorem Consistent.step_promise (ok : Promise) (hp : Consistent cfg t₀ p)
    (hst : (gatewayProgram cfg).step p act = some p')
    (hsnapshot : ∀ i c r devices, act = .resume i (.devices devices) →
      p.threads[i]? = some (.snapshot c r) → ∀ c' frame,
        .send c' r frame .notice ∈ p.shared.conn.snapshot r devices →
        frame.event = some (.str "device-snapshot") → ok.notice p.shared.conn r frame)
    (htargets : ∀ i q ids, act = .resume i (.targets (.ok ids)) →
      p.threads[i]? = some (.targets q) → q.Sound p.shared.conn →
        (q.handler.qos = .qos1 → ok.create p.shared.conn (Gateway.offlineIds p.shared.conn q ids)
          q.handler.labelEventToReceiver q.sender q.grant) ∧
        (q.handler.qos = .qos2 → ok.create p.shared.conn
          (Gateway.onlineIds p.shared.conn q ++ Gateway.offlineIds p.shared.conn q ids)
          q.handler.labelEventToReceiver q.sender q.grant)) :
    (∃ e r payload, act = .event e ∧ p.shared.acking e = some (r, payload) ∧
      p'.shared = p.shared.acknowledge cfg r payload) ∨
    (∀ e, act = .event e → p.shared.acking e = none) ∧
      (Change cfg ok p.shared p'.shared ∨
        ∃ i k₁ a c r, act = .resume i (.authenticated (.ok a)) ∧
          p.shared.conn.Entered k₁ a c r ∧ k₁.Indexed ∧
          Change cfg ok { p.shared with conn := k₁ } p'.shared) := by
  obtain hack | ⟨i, c, a, rfl, -, heq⟩ | ⟨i, c, r, devices, rfl, ht, heq⟩ |
    ⟨i, q, ids, rfl, ht, hq, heq⟩ | ⟨hnot, hchange⟩ := hp.step_cases ok hst
  · exact Or.inl hack
  · obtain ⟨k₁, r, hentered, hidx, hchange⟩ := connected_change cfg ok hp.1 c a
    exact Or.inr ⟨nofun, Or.inr ⟨i, k₁, a, c, r, rfl, hentered, hidx, heq ▸ hchange⟩⟩
  · have hh : Handling cfg ok p.shared
        ((p.shared.log (p.shared.conn.snapshot r devices)).ready c) :=
      snapshot_handling (hsnapshot i c r devices rfl ht) c
    exact Or.inr ⟨nofun, Or.inl (heq ▸ hh.change)⟩
  · obtain ⟨hok₁, hok₂⟩ := htargets i q ids rfl ht hq
    have hh : Handling cfg ok p.shared (p.shared.finishQossing cfg q ids).1 :=
      finishQossing_handling hq.routed hok₁ hok₂
    exact Or.inr ⟨nofun, Or.inl (heq ▸ hh.change)⟩
  · exact Or.inr ⟨hnot, Or.inl hchange⟩

/-- A step is a change, or the entry of a connection followed by one. -/
theorem Consistent.step_change (hp : Consistent cfg t₀ p)
    (hst : (gatewayProgram cfg).step p act = some p') :
    Change cfg .any p.shared p'.shared ∨
    ∃ k₁ a c r, p.shared.conn.Entered k₁ a c r ∧ k₁.Indexed ∧
      Change cfg .any { p.shared with conn := k₁ } p'.shared := by
  obtain ⟨e, r, payload, -, -, heq⟩ | ⟨-, hchange | ⟨i, k₁, a, c, r, -, hentered⟩⟩ :=
    hp.step_promise .any hst (fun _ _ _ _ _ _ _ _ _ _ => trivial)
      fun _ _ _ _ _ _ => ⟨fun _ => trivial, fun _ => trivial⟩
  · have hh : Handling cfg .any p.shared (p.shared.acknowledge cfg r payload) :=
      acknowledge_handling (fun _ _ => trivial) (fun _ _ _ _ => trivial) payload
    exact Or.inl (heq ▸ hh.change)
  · exact Or.inl hchange
  · exact Or.inr ⟨k₁, a, c, r, hentered⟩

theorem Consistent.step_trace (hp : Consistent cfg t₀ p)
    (hst : (gatewayProgram cfg).step p act = some p') :
    p.shared.trace <+: p'.shared.trace := by
  rcases hp.step_change hst with hchange | ⟨k₁, a, c, r, -, -, hchange⟩
  · exact hchange.trace_prefix
  · exact hchange.trace_prefix

end

end GatewayRealtime
