/-
  What each step of the gateway can do.

  * `Connections.Shrinks`: sessions keep their identities, and the registry loses entries at
    most, in step with the tenant index.
  * `Change`: handlings, such turns of the connections, and the clock.
  * `Change.inv`: an invariant of the elementary changes holds after every change.
  * `onEvent_cases`, `onAnswer_cases`: the inversion of the two kinds of steps.
-/
import GatewayRealtime.Handling

namespace GatewayRealtime

/-! ## Changes -/

/-- No session changes its identity. -/
def Connections.Extends (k k' : Connections) : Prop :=
  ∀ (r : SessionRef) (s : WsSession), k.heap[r]? = some s →
    ∃ s' : WsSession, k'.heap[r]? = some s' ∧ s'.identity = s.identity

/-- No session changes its identity, and none is registered anew. -/
structure Connections.Shrinks (k k' : Connections) : Prop where
  sessions : k.Extends k'
  find : ∀ id r, k'.find id = some r → k.find id = some r
  indexed : k.Indexed → k'.Indexed

/-- What every step does, the entry of a connection apart. -/
inductive Change (cfg : GatewayConfig) (ok : Promise) (g : Gateway) : Gateway → Prop
  | refl : Change cfg ok g g
  | handling {g' g''} : Change cfg ok g g' → Handling cfg ok g' g'' → Change cfg ok g g''
  | turn {g' k} : Change cfg ok g g' → g'.conn.Shrinks k → Change cfg ok g { g' with conn := k }
  | tick {g' now} : Change cfg ok g g' → g'.clock ≤ now → Change cfg ok g { g' with clock := now }

section
variable {cfg : GatewayConfig} {ok : Promise} {g g' : Gateway} {k k' k'' : Connections}
  {r : SessionRef} {c : ClientRef}

/-- Sessions and registry untouched. -/
theorem Connections.Shrinks.of_eq (hheap : k'.heap = k.heap) (hreg : k'.registry = k.registry) :
    k.Shrinks k' where
  sessions r s h := ⟨s, by rw [hheap, h], rfl⟩
  find id r h := by rwa [Connections.find, hreg] at h
  indexed h := h.of_eq hheap hreg

theorem Connections.Kept.shrinks (h : k.Kept k') : k.Shrinks k' := .of_eq h.heap h.registry

theorem Connections.Extends.trans (h : k.Extends k') (h' : k'.Extends k'') : k.Extends k'' := by
  intro r s hs
  obtain ⟨s', hs', hid⟩ := h r s hs
  obtain ⟨s'', hs'', hid'⟩ := h' r s' hs'
  exact ⟨s'', hs'', hid'.trans hid⟩

theorem Connections.Shrinks.trans (h : k.Shrinks k') (h' : k'.Shrinks k'') : k.Shrinks k'' where
  sessions := h.sessions.trans h'.sessions
  find id r hr := h.find id r (h'.find id r hr)
  indexed hk := h'.indexed (h.indexed hk)

theorem Connections.Extends.principal (h : k.Extends k') {p : EndUser}
    (hp : k.principal r = some p) : k'.principal r = some p := by
  obtain ⟨s, hs, rfl⟩ := Option.map_eq_some_iff.1 hp
  obtain ⟨s', hs', hid⟩ := h r s hs
  have hprincipal : s'.principal = s.principal := congrArg (·.2.1) hid
  exact Option.map_eq_some_iff.2 ⟨s', hs', hprincipal⟩

/-- Whoever was accepted still is. -/
theorem Connections.Extends.accepted (h : k.Extends k') {grant : Option Grant}
    {receivers : List SessionRef} (ha : k.Accepted grant receivers) :
    k'.Accepted grant receivers := by
  intro G hG r hr
  have hp := ha G hG r hr
  cases hk : k.principal r with
  | none => rw [hk] at hp; cases hp
  | some p => rw [h.principal hk]; rwa [hk] at hp

theorem Connections.SameTenant.extends {r' : SessionRef} (hr : k.SameTenant r r')
    (h : k.Extends k') : k'.SameTenant r r' := by
  obtain ⟨s, s', hs, hs', htenant⟩ := hr
  obtain ⟨t, ht, hid⟩ := h r s hs
  obtain ⟨t', ht', hid'⟩ := h r' s' hs'
  refine ⟨t, t', ht, ht', ?_⟩
  rw [(WsSession.identity_eq hid).2.1, (WsSession.identity_eq hid').2.1, htenant]

theorem Task.Sound.extends {t : Task} (ht : t.Sound k) (h : k.Extends k') : t.Sound k' := by
  cases t with
  | targets q =>
    obtain ⟨s, hs⟩ := ht.routed.exists_sender
    obtain ⟨s', hs', -⟩ := h q.sender s hs
    exact ⟨ht.listed, ⟨s', hs'⟩, h.accepted ht.routed.accepted,
      fun r hr => (ht.routed.tenant r hr).extends h⟩
  | _ => exact ht

theorem Connections.Shrinks.updateSession (k : Connections) (r : SessionRef)
    (f : WsSession → WsSession) (hf : ∀ s, (f s).identity = s.identity) :
    k.Shrinks (k.updateSession r f) where
  sessions r' s hs := by
    refine ⟨if r' = r then f s else s, by rw [Connections.heap_updateSession, hs]; rfl, ?_⟩
    split_ifs
    · exact hf s
    · rfl
  find id r' h := h
  indexed h := h.updateSession r f hf

theorem Connections.unregister_clients (k : Connections) (id : ℕ) :
    (k.unregister id).clients = k.clients := by
  unfold Connections.unregister
  split
  · rfl
  · split
    · rfl
    · split <;> rfl

theorem Connections.Shrinks.unregister (k : Connections) (id : ℕ) :
    k.Shrinks (k.unregister id) where
  sessions r s hs := ⟨s, by rw [Connections.unregister_heap, hs], rfl⟩
  find id' r' h := by
    cases hr : k.find id with
    | none => simpa [Connections.unregister, hr] using h
    | some r =>
      cases hs : k.heap[r]? with
      | none => simpa [Connections.unregister, hr, hs] using h
      | some s =>
        rw [Connections.find_unregister hr hs] at h
        split_ifs at h
        exact h
  indexed h := h.unregister id

/-- **Invariants.**  What the elementary changes keep holds after every change. -/
theorem Change.inv {I : Gateway → Prop} (h : Change cfg ok g g') (h0 : I g)
    (log : ∀ g effects, I g → (∀ e ∈ effects, e.Due ok g) → I (g.log effects))
    (store : ∀ g s, I g → EventStore.Operated cfg.store g.clock g.store s → I (g.setStore s))
    (create : ∀ g targetIds eventName payload qos options sender grant, I g →
      ok.create g.conn targetIds eventName sender grant →
        I (g.createEvent cfg targetIds eventName payload qos options sender grant))
    (turn : ∀ g k, I g → g.conn.Shrinks k → I { g with conn := k })
    (load : ∀ g label events lastUpdate, I g → I (g.loadEvents label events lastUpdate))
    (tick : ∀ g now, I g → g.clock ≤ now → I { g with clock := now }) : I g' := by
  induction h with
  | refl => exact h0
  | handling _ hh ih =>
    induction hh with
    | refl => exact ih
    | log _ he ih => exact log _ _ ih he
    | store _ hs ih => exact store _ _ ih hs
    | create _ hok ih => exact create _ _ _ _ _ _ _ _ ih hok
    | sockets _ hk ih => exact turn _ _ ih hk.shrinks
    | load _ ih => exact load _ _ _ _ ih
  | turn _ hk ih => exact turn _ _ ih hk
  | tick _ hle ih => exact tick _ _ ih hle

theorem Change.trans {g'' : Gateway} (h : Change cfg ok g g') (h' : Change cfg ok g' g'') :
    Change cfg ok g g'' := by
  induction h' with
  | refl => exact h
  | handling _ hh ih => exact ih.handling hh
  | turn _ hk ih => exact ih.turn hk
  | tick _ hle ih => exact ih.tick hle

theorem Handling.change (h : Handling cfg ok g g') : Change cfg ok g g' := Change.refl.handling h

theorem Change.shrinks (h : Change cfg ok g g') : g.conn.Shrinks g'.conn := by
  induction h with
  | refl => exact .of_eq rfl rfl
  | handling _ hh ih => exact ih.trans hh.kept.shrinks
  | turn _ hk ih => exact ih.trans hk
  | tick _ _ ih => exact ih

/-- Nothing is taken back of what happened. -/
theorem Change.trace_prefix (h : Change cfg ok g g') : g.trace <+: g'.trace := by
  refine h.inv (I := fun g' => g.trace <+: g'.trace) (List.prefix_refl _)
    (fun _ _ ih _ => ih.trans (List.prefix_append _ _))
    (fun _ _ ih _ => ih.trans (List.prefix_append _ _))
    (fun g' targetIds eventName payload qos options sender grant ih _ => ?_) (fun _ _ ih _ => ih)
    (fun _ _ _ _ ih => ih) fun _ _ ih _ => ih
  obtain ⟨notices, heq, -⟩ := createEvent_eq cfg g' targetIds eventName payload qos options sender
    grant
  rw [heq]
  exact (ih.trans (List.prefix_append _ _)).trans (List.prefix_append _ _)

/-! ## Frames without a message -/

/-- The presence of a device is sent to browsers of its tenant. -/
theorem presence_handling (hidx : g.conn.Indexed) (r : SessionRef) (event : String)
    (withDeviceId : Bool) : Handling cfg ok g (g.presence r event withDeviceId) := by
  unfold Gateway.presence
  split
  · split_ifs
    · refine Handling.refl.log fun e he => ?_
      unfold Connections.presence at he
      split at he
      · cases he
      · rename_i session hs
        obtain ⟨b, hb, he⟩ := List.mem_flatMap.1 he
        have htenant := ((mem_getBrowsersByTenant hidx).1 hb).1.sameTenant hs
        exact send_due g _ _ (.presence r) (fun _ => htenant) e he
    · exact .refl
  · exact .refl

@[simp] theorem presence_conn (g : Gateway) (r : SessionRef) (event : String)
    (withDeviceId : Bool) : (g.presence r event withDeviceId).conn = g.conn := by
  unfold Gateway.presence
  split
  · split_ifs <;> rfl
  · rfl

@[simp] theorem presence_clock (g : Gateway) (r : SessionRef) (event : String)
    (withDeviceId : Bool) : (g.presence r event withDeviceId).clock = g.clock := by
  unfold Gateway.presence
  split
  · split_ifs <;> rfl
  · rfl

@[simp] theorem presence_store (g : Gateway) (r : SessionRef) (event : String)
    (withDeviceId : Bool) : (g.presence r event withDeviceId).store = g.store := by
  unfold Gateway.presence
  split
  · split_ifs <;> rfl
  · rfl

/-- The list of devices is sent to the session, if to anybody. -/
theorem snapshot_notice {devices : Except Failure (List Connections.DeviceInfo)} {e : Effect}
    (he : e ∈ k.snapshot r devices) : ∃ c frame, e = .send c r frame .notice ∧
      frame.event = some (.str "device-snapshot") := by
  unfold Connections.snapshot at he
  split at he
  · cases he
  · obtain ⟨c, -, -, rfl⟩ := mem_send_iff.1 he
    exact ⟨c, _, rfl, rfl⟩

theorem ready_handling (g : Gateway) (c : ClientRef) : Handling cfg ok g (g.ready c) := by
  have hlisten : Handling cfg ok g { g with
      conn := g.conn.updateClient c fun client => { client with listening := true } } :=
    Handling.refl.sockets (.updateClient fun _ _ => rfl)
  unfold Gateway.ready
  dsimp only
  split_ifs
  · refine hlisten.log fun e he => ?_
    rw [List.mem_singleton] at he
    exact he ▸ trivial
  · exact hlisten

theorem snapshot_handling {devices : Except Failure (List Connections.DeviceInfo)}
    (hnotice : ∀ c frame, .send c r frame .notice ∈ g.conn.snapshot r devices →
      frame.event = some (.str "device-snapshot") → ok.notice g.conn r frame)
    (c : ClientRef) : Handling cfg ok g ((g.log (g.conn.snapshot r devices)).ready c) := by
  refine (Handling.refl.log fun e he => ?_).trans (ready_handling _ c)
  obtain ⟨c', frame, rfl, hevent⟩ := snapshot_notice he
  exact Or.inr (hnotice c' frame he hevent)

theorem ready_kept (g : Gateway) (c : ClientRef) : g.conn.Kept (g.ready c).conn :=
  (ready_handling g c : Handling .defaults Promise.any g (g.ready c)).kept

/-- What is pending for a registered session is sent to it. -/
theorem deliverPending_handling (hs : EventStore.StoreInv g.store)
    (hr : ∀ id, g.conn.sessionId r = some id → g.conn.find id = some r) :
    Handling cfg ok g (g.deliverPending r) := by
  unfold Gateway.deliverPending
  split
  · exact .refl
  · rename_i userId hid
    refine (Handling.refl.log fun e he => ?_).store (deliverLoop_operated _ _ _)
    obtain ⟨record, hrecord, he⟩ := List.mem_flatMap.1 he
    have hawaits := EventStore.awaits_of_mem_getPending hs (deliverLoop_subset _ _ _ hrecord)
    exact send_due g _ _ (.stored record.eventId) (fun _ => ⟨userId, hr userId hid, hawaits⟩) e he

@[simp] theorem deliverPending_conn (g : Gateway) (r : SessionRef) :
    (g.deliverPending r).conn = g.conn := by
  unfold Gateway.deliverPending
  split <;> rfl

/-! ## Timers -/

theorem EventStore.StoreInv.operated {now : ℤ} {s s' : EventStore JsObj}
    (hs : EventStore.StoreInv s) (h : EventStore.Operated cfg.store now s s') :
    EventStore.StoreInv s' := by
  induction h with
  | refl => exact hs
  | tail _ hop ih =>
    obtain ⟨op, hop, -, rfl⟩ := hop
    exact ih.apply cfg.store now (by simp [StoreOp.issues_of_quiet hop])

/-- The effects and the store of the retries of some users. -/
def Retried (cfg : GatewayConfig) (ok : Promise) (g : Gateway)
    (acc : List Effect × EventStore JsObj) : Prop :=
  (∀ e ∈ acc.1, e.Due ok g) ∧ EventStore.Operated cfg.store g.clock g.store acc.2

theorem retryUser_retried (hs : EventStore.StoreInv g.store) (jitter : ℕ → String → ℚ)
    {acc : List Effect × EventStore JsObj} (hacc : Retried cfg ok g acc) (userId : ℕ) :
    Retried cfg ok g (g.conn.retryUser cfg.store g.clock jitter acc userId) := by
  obtain ⟨hdue, hop⟩ := hacc
  unfold Connections.retryUser
  split
  · exact ⟨hdue, hop⟩
  · rename_i r hr
    split_ifs
    · refine ⟨fun e he => ?_, hop.trans (EventStore.operated_foldl
        (fun _ record => EventStore.operated_markSent userId record) _ _)⟩
      rcases List.mem_append.1 he with he | he
      · exact hdue e he
      · obtain ⟨record, hrecord, he⟩ := List.mem_flatMap.1 he
        have hawaits := EventStore.Awaits.of_operated hop
          (EventStore.awaits_of_mem_getPendingWithRetry (hs.operated hop) hrecord)
        exact send_due g _ _ (.stored record.eventId) (fun _ => ⟨userId, hr, hawaits⟩) e he
    · exact ⟨hdue, hop⟩

theorem retry_handling (hs : EventStore.StoreInv g.store) (jitter : ℕ → String → ℚ) :
    Handling cfg ok g (g.retry cfg jitter) := by
  have hretried : Retried cfg ok g
      (g.conn.retryPendingEvents cfg.store g.clock jitter g.store) :=
    List.foldlRecOn (motive := Retried cfg ok g) _ _ ⟨List.forall_mem_nil _, .refl⟩
      fun _ hacc userId _ => retryUser_retried hs jitter hacc userId
  exact (Handling.refl.log hretried.1).store hretried.2

theorem beat_binding (max : ℕ) {client : WsClient} (hopen : client.readyState = .OPEN) :
    (Gateway.beat max client).1.binding = client.binding := by
  unfold Gateway.beat
  split_ifs <;> simp [WsClient.binding, hopen]

theorem heartbeat_handling (g : Gateway) : Handling cfg ok g (g.heartbeat cfg) := by
  refine List.foldlRecOn (motive := Handling cfg ok g) _ _ .refl fun g' hg c _ => ?_
  refine hg.trans ?_
  unfold Gateway.beatSocket
  split
  · exact .refl
  · rename_i client hclient
    split_ifs with hopen
    · have hbeat : Handling cfg ok g' { g' with conn := g'.conn.updateClient c fun _ =>
          (Gateway.beat cfg.WS_MAX_MISSED_PONGS client).1 } :=
        Handling.refl.sockets (.updateClient fun client' h => by
          rw [hclient] at h
          cases h
          exact beat_binding _ hopen)
      dsimp only
      split_ifs
      · refine hbeat.log fun e he => ?_
        rw [List.mem_singleton] at he
        exact he ▸ trivial
      · exact hbeat
    · exact .refl

/-! ## Turns of a connection -/

theorem onSuspend_change (hidx : g.conn.Indexed) (r : SessionRef) (session : WsSession) :
    Change cfg ok g (g.onSuspend r session) := by
  have hsuspend := Connections.Shrinks.updateSession g.conn r
    (fun s => { s with state := .SUSPEND, socket := none }) fun _ => rfl
  have hturn := hsuspend.trans (.of_eq (Connections.clearTimeout_heap _ session.suspendTimer)
    (Connections.clearTimeout_registry _ _))
  exact (Change.refl.turn hturn).handling (presence_handling (hturn.indexed hidx) r _ _)

theorem startSuspendTimer_change (g : Gateway) (r : SessionRef) :
    Change cfg ok g (g.startSuspendTimer cfg r) :=
  have hset := Connections.Shrinks.updateSession g.conn r
    (fun s => { s with suspendTimer := some g.conn.nextTimer }) fun _ => rfl
  Change.refl.turn (hset.trans (.of_eq rfl rfl))

theorem handleDisconnect_change (hidx : g.conn.Indexed) (c : ClientRef) :
    Change cfg ok g (g.handleDisconnect cfg c) := by
  unfold Gateway.handleDisconnect
  split
  · exact .refl
  · rename_i r _
    split
    · exact .refl
    · rename_i session _
      split_ifs
      · unfold Gateway.onDisconnect
        split_ifs
        · exact .refl
        · exact (Change.refl.turn (.unregister _ _)).handling
            (presence_handling (hidx.unregister _) r _ _)
        · exact (onSuspend_change hidx r session).trans (startSuspendTimer_change _ r)
      · exact .refl

theorem close_change (hidx : g.conn.Indexed) (c : ClientRef) (client : WsClient) :
    Change cfg ok g (g.close cfg c client) := by
  have hclosed : Change cfg ok g { g with
      conn := g.conn.updateClient c fun client => { client with readyState := .CLOSED } } :=
    Change.refl.turn (.of_eq rfl rfl)
  have hidx₁ := hclosed.shrinks.indexed hidx
  have hhook := hclosed.trans (handleDisconnect_change hidx₁ c)
  unfold Gateway.close
  dsimp only
  split_ifs
  · exact hhook.trans (handleDisconnect_change (hhook.shrinks.indexed hidx) c)
  · exact hhook

theorem suspendTimer_change (hidx : g.conn.Indexed) (timer : SuspendTimer) :
    Change cfg ok g (g.suspendTimer timer) := by
  unfold Gateway.suspendTimer
  split
  · exact .refl
  · rename_i session _
    split_ifs
    · have hoffline := Connections.Shrinks.updateSession g.conn timer.session
        (fun s => { s with state := .OFFLINE }) fun _ => rfl
      have hturn := hoffline.trans (.unregister _ session.sessionId)
      exact (Change.refl.turn hturn).handling (presence_handling (hturn.indexed hidx) _ _ _)
    · exact .refl

/-- A registered session comes online. -/
theorem onConnect_change (hidx : g.conn.Indexed) (hs : EventStore.StoreInv g.store)
    (hr : ∀ id, g.conn.sessionId r = some id → g.conn.find id = some r) :
    Change cfg ok g (g.onConnect r).1 := by
  unfold Gateway.onConnect
  split
  · exact .refl
  · rename_i session hsession
    split_ifs
    · have honline := Connections.Shrinks.updateSession g.conn r
        (fun s => { s with state := .ONLINE }) fun _ => rfl
      have hturned : Change cfg ok g { g with
          conn := g.conn.updateSession r fun s => { s with state := .ONLINE } } :=
        Change.refl.turn honline
      have hpending := hturned.handling (deliverPending_handling hs fun id hid => hr id ?_)
      · exact hpending.handling (presence_handling (hpending.shrinks.indexed hidx) r _ _)
      simpa [Connections.sessionId, Connections.heap_updateSession, hsession] using hid
    · exact .refl

/-! ## Inversion -/

/-- A message reaches its handler if the socket is that of its session. -/
theorem receive_cases {c : ClientRef} {handle : SessionRef → WsSession → Stretch}
    {new : List Task} (h : g.receive c handle = some (g', new)) :
    ∃ client, g.conn.clients[c]? = some client ∧ client.listening = true ∧
      client.readyState ≠ .CLOSED ∧
      ((g' = g ∧ new = [] ∧ client.session.filter (fun r => g.conn.socket r = some c) = none) ∨
        ∃ r session, client.session = some r ∧ g.conn.heap[r]? = some session ∧
          session.socket = some c ∧ g' = (handle r session).1 ∧
          new = (handle r session).2.1 :: (handle r session).2.2) := by
  unfold Gateway.receive at h
  split at h
  · cases h
  · rename_i client hclient
    split_ifs at h with hlive
    refine ⟨client, hclient, hlive.1, hlive.2, ?_⟩
    split at h
    · rename_i hnone
      cases h
      exact Or.inl ⟨rfl, rfl, by rw [hnone]; rfl⟩
    · rename_i r hr
      split at h
      · rename_i hs
        cases h
        exact Or.inl ⟨rfl, rfl, by simp [hr, Connections.socket, hs]⟩
      · rename_i session hs
        split_ifs at h with hsocket
        · cases h
          exact Or.inr ⟨r, session, hr, hs, hsocket, rfl, rfl⟩
        · cases h
          exact Or.inl ⟨rfl, rfl, by simp [hr, Connections.socket, hs, hsocket]⟩

/-- The events that acknowledge nothing, and that move neither the clock nor a session. -/
def GatewayEvent.Quiet : GatewayEvent → Prop
  | .tick _ | .connect | .close _ | .suspendTimer _ | .message .. => False
  | _ => True

/-- A quiet event is handled like a stretch of a message. -/
theorem onEvent_quiet {e : GatewayEvent} {new : List Task} (ok : Promise)
    (hidx : g.conn.Indexed) (hs : EventStore.StoreInv g.store)
    (h : g.onEvent cfg e = some (g', new)) (hquiet : e.Quiet) :
    Handling cfg ok g g' ∧ ∀ t ∈ new, t.OfMessage g.conn := by
  cases e with
  | tick _ | connect | close _ | suspendTimer _ | message _ _ => exact hquiet.elim
  | binary c payload =>
    obtain ⟨-, -, -, -, ⟨rfl, rfl, -⟩ | ⟨r, session, -, -, -, rfl, rfl⟩⟩ := receive_cases h
    · exact ⟨.refl, List.forall_mem_nil _⟩
    · have hhandled : Handled cfg ok g (g.onBinary cfg c r session payload) :=
        onBinary_handled hidx c r session payload
      exact ⟨hhandled.run, List.forall_mem_cons.2 ⟨hhandled.task, hhandled.tasks⟩⟩
  | pong c =>
    simp only [Gateway.onEvent] at h
    split at h
    · cases h
    · split_ifs at h
      cases h
      exact ⟨Handling.refl.sockets (.updateClient fun _ _ => rfl), List.forall_mem_nil _⟩
  | closing c =>
    simp only [Gateway.onEvent] at h
    split_ifs at h
    cases h
    exact ⟨Handling.refl.sockets (.closeSocket _ c), List.forall_mem_nil _⟩
  | expiryTimer eventId =>
    simp only [Gateway.onEvent] at h
    split at h
    · cases h
    · rename_i due hset
      split_ifs at h with hdue
      cases h
      refine ⟨Handling.refl.store (.single ⟨.expiryTimer eventId, rfl, ?_, rfl⟩),
        List.forall_mem_nil _⟩
      simpa [StoreOp.enabled, hset] using hdue
  | cleanup =>
    cases h
    exact ⟨Handling.refl.store (.single ⟨.cleanup, rfl, rfl, rfl⟩), List.forall_mem_nil _⟩
  | heartbeat =>
    cases h
    exact ⟨heartbeat_handling g, List.forall_mem_nil _⟩
  | retry jitter =>
    cases h
    exact ⟨retry_handling hs jitter, List.forall_mem_nil _⟩

/-- What an event does. -/
theorem onEvent_cases {e : GatewayEvent} {new : List Task} (ok : Promise)
    (hidx : g.conn.Indexed) (hs : EventStore.StoreInv g.store)
    (h : g.onEvent cfg e = some (g', new)) :
    (∃ now, e = .tick now ∧ g.clock ≤ now ∧ g' = { g with clock := now } ∧ new = []) ∨
    (e = .connect ∧ g' = { g with conn := { g.conn with clients := g.conn.clients ++ [{}] } } ∧
      new = [.rateLimit g.conn.clients.length]) ∨
    (∃ c client, e = .close c ∧ g.conn.clients[c]? = some client ∧ client.readyState ≠ .CLOSED ∧
      g' = g.close cfg c client ∧ new = []) ∨
    (∃ i t, e = .suspendTimer i ∧ g.conn.timers.get? i = some t ∧ t.due ≤ g.clock ∧
      g' = ({ g with conn := { g.conn with timers := g.conn.timers.delete i } }).suspendTimer t ∧
      new = []) ∨
    (∃ r payload, g.acking e = some (r, payload) ∧ g' = g.acknowledge cfg r payload ∧
      new = [.done (.ok ())]) ∨
    g.acking e = none ∧ Handling cfg ok g g' ∧ ∀ t ∈ new, t.OfMessage g.conn := by
  cases e with
  | tick now =>
    simp only [Gateway.onEvent] at h
    split_ifs at h with hle
    cases h
    exact Or.inl ⟨now, rfl, hle, rfl, rfl⟩
  | connect =>
    cases h
    exact Or.inr (Or.inl ⟨rfl, rfl, rfl⟩)
  | close c =>
    simp only [Gateway.onEvent] at h
    split at h
    · cases h
    · rename_i client hclient
      split_ifs at h with hopen
      cases h
      exact Or.inr (Or.inr (Or.inl ⟨c, client, rfl, hclient, hopen, rfl, rfl⟩))
  | suspendTimer i =>
    simp only [Gateway.onEvent] at h
    split at h
    · cases h
    · rename_i t ht
      split_ifs at h with hdue
      cases h
      exact Or.inr (Or.inr (Or.inr (Or.inl ⟨i, t, rfl, ht, hdue, rfl, rfl⟩)))
  | message c parsed =>
    refine Or.inr (Or.inr (Or.inr (Or.inr ?_)))
    obtain ⟨client, hclient, hlisten, hlive, ⟨rfl, rfl, hnot⟩ |
      ⟨r, session, hr, hs, hsocket, hg', hnew⟩⟩ := receive_cases h
    · refine Or.inr ⟨?_, .refl, List.forall_mem_nil _⟩
      cases hack : ackPayload parsed with
      | none => simp [Gateway.acking, hack]
      | some payload => simp only [Gateway.acking, hack, hclient, hnot, Option.map_none, ite_self]
    · have hown : g.conn.socket r = some c := by simp [Connections.socket, hs, hsocket]
      rcases onMessage_cases hidx c r session parsed with ⟨payload, hack, heq⟩ | ⟨hack, hhandled⟩
      · refine Or.inl ⟨r, payload, ?_, by rw [hg', heq], by rw [hnew, heq]⟩
        simp [Gateway.acking, hack, hclient, hlisten, hlive, hr, hown]
      · refine Or.inr ⟨by simp [Gateway.acking, hack], hg' ▸ hhandled.run, ?_⟩
        rw [hnew]
        exact List.forall_mem_cons.2 ⟨hhandled.task, hhandled.tasks⟩
  | binary _ _ | pong _ | closing _ | expiryTimer _ | cleanup | heartbeat | retry _ =>
    exact Or.inr (Or.inr (Or.inr (Or.inr (Or.inr ⟨rfl, onEvent_quiet ok hidx hs h trivial⟩))))

/-- What the answer to a computation does. -/
theorem onAnswer_cases {t t' : Task} {a : GatewayAnswer} {new : List Task} (ok : Promise)
    (hidx : g.conn.Indexed) (ht : t.Sound g.conn) (h : g.onAnswer cfg t a = some (g', t', new)) :
    (∃ c, t = .rateLimit c ∧ t' = .authenticate c ∧ Handling cfg ok g g' ∧ new = []) ∨
    (∃ c auth, t = .authenticate c ∧ a = .authenticated (.ok auth) ∧
      g.connected c auth = (g', t', new)) ∨
    (∃ c r devices, t = .snapshot c r ∧ a = .devices devices ∧
      g' = (g.log (g.conn.snapshot r devices)).ready c ∧ t' = .done (.ok ()) ∧ new = []) ∨
    (∃ q ids, t = .targets q ∧ a = .targets (.ok ids) ∧ g' = (g.finishQossing cfg q ids).1 ∧
      t' = .done (g.finishQossing cfg q ids).2 ∧ new = []) ∨
    Handled cfg ok g (g', t', new) := by
  have hhandled : ∀ {s : Stretch}, Handled cfg ok g s → some s = some (g', t', new) →
      Handled cfg ok g (g', t', new) := by
    intro s hs h
    cases h
    exact hs
  unfold Gateway.onAnswer at h
  split at h
  · rename_i c
    cases h
    exact Or.inl ⟨c, rfl, rfl, Handling.refl.sockets (.updateClient fun _ _ => rfl), rfl⟩
  · refine Or.inr (Or.inr (Or.inr (Or.inr (hhandled ?_ h))))
    exact ⟨failConnection_handling g _ _, ⟨rfl, trivial⟩, List.forall_mem_nil _⟩
  · rename_i c auth
    exact Or.inr (Or.inl ⟨c, auth, rfl, rfl, Option.some.inj h⟩)
  · refine Or.inr (Or.inr (Or.inr (Or.inr (hhandled ?_ h))))
    exact ⟨failConnection_handling g _ _, ⟨rfl, trivial⟩, List.forall_mem_nil _⟩
  · rename_i c r devices
    cases h
    exact Or.inr (Or.inr (Or.inl ⟨c, r, devices, rfl, rfl, rfl, rfl, rfl⟩))
  · exact Or.inr (Or.inr (Or.inr (Or.inr (hhandled (afterApi_handled hidx ht _ _) h))))
  · refine Or.inr (Or.inr (Or.inr (Or.inr (hhandled ?_ h))))
    exact (afterEvents_handled (g := g.loadEvents _ _ _) hidx ht _ _).after Handling.refl.load
  · exact Or.inr (Or.inr (Or.inr (Or.inr (hhandled (finish_handled_nil _ _) h))))
  · rename_i q ids
    cases h
    exact Or.inr (Or.inr (Or.inr (Or.inl ⟨q, ids, rfl, rfl, rfl, rfl, rfl⟩)))
  · refine Or.inr (Or.inr (Or.inr (Or.inr (hhandled ?_ h))))
    exact ⟨.refl, ⟨rfl, trivial⟩, List.forall_mem_nil _⟩
  · refine Or.inr (Or.inr (Or.inr (Or.inr (hhandled ?_ h))))
    exact (afterBinaryEvents_handled (g := g.loadEvents _ _ _) hidx _ _).after Handling.refl.load
  · exact Or.inr (Or.inr (Or.inr (Or.inr (hhandled (finish_handled_nil _ _) h))))
  · cases h

end

end GatewayRealtime
