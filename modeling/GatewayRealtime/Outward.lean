/-
  What leaves the gateway for the tenants' services (`events/json/`, `webhook/services/`).

  * `Gateway.outward`: the requests to the services and the notifications that are emitted.
  * `outward_log` and the lemmas after it: no other stretch of code adds to them.
  * `Stretch.Calm`: a stretch that adds nothing and leaves nobody waiting for a service.
  * `Hears`: the message that the listener of a socket makes of a text.
  * `Requested`: a message that passed the checks of its handler makes a request.
  * `onMessage_calls`, `afterApi_emits`: the two stretches that do add to them.
-/
import GatewayRealtime.Forbidden
import GatewayRealtime.GatewayInv

namespace GatewayRealtime

/-- A request to a service, or a notification. -/
def Effect.isOutward : Effect → Bool
  | .api _ | .emit .. => true
  | _ => false

/-- What has left the gateway for the services, oldest first. -/
def Gateway.outward (g : Gateway) : List Effect := g.trace.filter Effect.isOutward

/-- What a computation waits for, if it waits for a service. -/
def Task.request : Task → Option (Message × Option String)
  | .api m notification => some (m, notification)
  | _ => none

/-- A stretch that adds nothing to what has left, and in which nobody comes to wait for a
    service. -/
structure Stretch.Calm (s : Stretch) (g : Gateway) : Prop where
  outward : s.1.outward = g.outward
  task : s.2.1.request = none
  tasks : ∀ t ∈ s.2.2, t.request = none

section
variable {cfg : GatewayConfig} {g : Gateway} {k : Connections} {m : Message} {s : Stretch}

/-! ## Frames -/

theorem outward_log (g : Gateway) (effects : List Effect) :
    (g.log effects).outward = g.outward ++ effects.filter Effect.isOutward :=
  List.filter_append ..

/-- Effects that stay inside. -/
theorem outward_log_of_inward {effects : List Effect} (h : ∀ e ∈ effects, e.isOutward = false) :
    (g.log effects).outward = g.outward := by
  rw [outward_log, List.filter_eq_nil_iff.2 fun e he => by simp [h e he], List.append_nil]

theorem send_inward {r : SessionRef} {frame : Frame} {origin : Origin} :
    ∀ e ∈ k.send r frame origin, e.isOutward = false := by
  intro e he
  obtain ⟨c, -, -, rfl⟩ := mem_send_iff.1 he
  rfl

theorem sendAll_inward {frame : Frame} {origin : Origin} {receivers : List SessionRef} :
    ∀ e ∈ (k.sendAll frame origin receivers).1, e.isOutward = false := by
  induction receivers with
  | nil => exact List.forall_mem_nil _
  | cons r rest ih =>
    unfold Connections.sendAll
    split
    · exact List.forall_mem_nil _
    · exact List.forall_mem_append.2 ⟨send_inward, ih⟩

theorem Effect.IsNotice.inward {e : Effect} (h : e.IsNotice) : e.isOutward = false := by
  cases e with
  | send => rfl
  | _ => cases h

@[simp] theorem outward_setStore (g : Gateway) (s : EventStore JsObj) :
    (g.setStore s).outward = g.outward := by
  obtain ⟨notices, heq, hnotices⟩ := setStore_eq g s
  rw [heq, outward_log_of_inward fun e he => (hnotices e he).inward]
  rfl

@[simp] theorem outward_createEvent (g : Gateway) (targetIds : List ℕ) (eventName : String)
    (payload : JsObj) (qos : QoS) (options : CreateOptions) (sender : SessionRef)
    (grant : Option Grant) :
    (g.createEvent cfg targetIds eventName payload qos options sender grant).outward =
      g.outward := by
  obtain ⟨notices, htrace, hnotices⟩ := createEvent_logged cfg g targetIds eventName payload qos
    options sender grant
  have hnone : notices.filter Effect.isOutward = [] :=
    List.filter_eq_nil_iff.2 fun e he => by simp [(hnotices e he).inward]
  unfold Gateway.outward
  rw [htrace, List.filter_append, List.filter_cons_of_neg (by simp [Effect.isOutward]), hnone,
    List.append_nil]

/-! ## Failures -/

@[simp] theorem outward_handleError (g : Gateway) (c : ClientRef) (f : Failure) :
    (g.handleError c f).outward = g.outward := by
  unfold Gateway.handleError
  split_ifs
  · exact outward_log_of_inward (by simp [Effect.isOutward])
  · rfl

@[simp] theorem outward_failMessage (g : Gateway) (c : ClientRef) (f : Failure) :
    (g.failMessage c f).outward = g.outward := by
  unfold Gateway.failMessage
  dsimp only
  split_ifs
  · exact outward_handleError g c f
  · exact outward_handleError g c f

theorem failConnection_calm (g : Gateway) (c : ClientRef) (f : Failure) :
    Stretch.Calm (g.failConnection c f, .done (.error f), []) g :=
  ⟨outward_handleError g c f, rfl, List.forall_mem_nil _⟩

theorem finish_calm (g : Gateway) (c : ClientRef) {tasks : List Task}
    (htasks : ∀ t ∈ tasks, t.request = none) (result : Except Failure Unit) :
    (g.finish c tasks result).Calm g := by
  cases result with
  | ok => exact ⟨rfl, rfl, htasks⟩
  | error f => exact ⟨outward_failMessage g c f, rfl, htasks⟩

/-- A failure before anything has been started. -/
theorem finish_calm_nil (g : Gateway) (c : ClientRef) (result : Except Failure Unit) :
    (g.finish c [] result).Calm g := finish_calm g c (List.forall_mem_nil _) result

/-- A stretch may begin with what adds nothing. -/
theorem Stretch.Calm.after {g' : Gateway} (h : s.Calm g') (hsame : g'.outward = g.outward) :
    s.Calm g := ⟨h.outward.trans hsame, h.task, h.tasks⟩

/-! ## Messages -/

theorem startQossing_calm (g : Gateway) (q : Qossing) (type : TypeEnduser) :
    (g.startQossing q type).1.outward = g.outward ∧ (g.startQossing q type).2.request = none := by
  unfold Gateway.startQossing
  split
  · exact ⟨outward_log_of_inward sendAll_inward, rfl⟩
  all_goals
    split
    · exact ⟨rfl, rfl⟩
    · exact ⟨rfl, rfl⟩
    · exact ⟨rfl, rfl⟩

@[simp] theorem outward_finishQossing (g : Gateway) (q : Qossing) (ids : List ℕ) :
    (g.finishQossing cfg q ids).1.outward = g.outward := by
  unfold Gateway.finishQossing
  dsimp only
  split
  · rfl
  · split
    · exact outward_log_of_inward sendAll_inward
    · split_ifs
      · exact outward_log_of_inward sendAll_inward
      · rw [outward_createEvent, outward_log_of_inward sendAll_inward]
  · split_ifs
    · rfl
    · split
      · rw [outward_log_of_inward sendAll_inward, outward_createEvent]
      · rw [outward_setStore, outward_log_of_inward sendAll_inward, outward_createEvent]

@[simp] theorem outward_acknowledge (g : Gateway) (r : SessionRef) (payload : Option JsVal) :
    (g.acknowledge cfg r payload).outward = g.outward := by
  unfold Gateway.acknowledge
  split
  · rfl
  · dsimp only
    split
    · exact outward_setStore _ _
    · split
      · exact outward_setStore _ _
      · split_ifs
        · split
          · rw [outward_log_of_inward send_inward, outward_setStore]
          · rw [outward_createEvent, outward_setStore]
        · exact outward_setStore _ _

variable (cfg) in
theorem sideEffect_calm (g : Gateway) (m : Message) (modified : JsObj) (label : String) :
    (g.sideEffect cfg m modified label).1.outward = g.outward ∧
      ∀ t ∈ (g.sideEffect cfg m modified label).2, t.request = none := by
  unfold Gateway.sideEffect
  split
  · exact ⟨rfl, List.forall_mem_nil _⟩
  · exact ⟨outward_log_of_inward send_inward, List.forall_mem_nil _⟩
  · split
    · exact ⟨rfl, List.forall_mem_nil _⟩
    · exact ⟨(startQossing_calm g _ .browser).1,
        List.forall_mem_singleton.2 (startQossing_calm g _ .browser).2⟩
  · exact ⟨outward_acknowledge g m.session m.payload, List.forall_mem_nil _⟩

theorem dispatch_calm (g : Gateway) (m : Message) (modified : JsObj) (grant : Option Grant)
    (receivers : List SessionRef) :
    (g.dispatch m modified grant receivers).1.outward = g.outward ∧
      ∀ t ∈ (g.dispatch m modified grant receivers).2.2, t.request = none := by
  unfold Gateway.dispatch
  split
  · exact ⟨outward_log_of_inward sendAll_inward, List.forall_mem_nil _⟩
  · exact ⟨outward_log_of_inward sendAll_inward, List.forall_mem_nil _⟩
  · have hcalm := startQossing_calm g ⟨m.handler, m.session, receivers, modified, grant⟩
      m.handler.receiverType
    exact ⟨hcalm.1, List.forall_mem_singleton.2 hcalm.2⟩

theorem afterReceivers_calm (g : Gateway) (m : Message) (modified : JsObj) (grant : Option Grant)
    (receivers : List SessionRef) :
    (g.afterReceivers cfg m modified grant receivers).Calm g := by
  obtain ⟨hdispatch, htasks⟩ := dispatch_calm g m modified grant receivers
  unfold Gateway.afterReceivers
  dsimp only
  split
  · exact (finish_calm _ _ htasks _).after hdispatch
  · obtain ⟨hside, hnew⟩ := sideEffect_calm cfg (g.dispatch m modified grant receivers).1 m
      modified (m.handler.getEventMessage m.payload)
    exact (finish_calm _ _ (List.forall_mem_append.2 ⟨htasks, hnew⟩) _).after
      (hside.trans hdispatch)

theorem afterEvents_calm (g : Gateway) (m : Message) (modified : JsObj) (events : List Events) :
    (g.afterEvents cfg m modified events).Calm g := by
  unfold Gateway.afterEvents
  split
  · exact finish_calm_nil g _ _
  · dsimp only
    split
    · exact finish_calm_nil g _ _
    · exact finish_calm_nil g _ _
    · exact afterReceivers_calm g m modified _ _

variable (cfg) in
theorem getReceivers_calm (g : Gateway) (m : Message) (modified : JsObj) :
    (g.getReceivers cfg m modified).Calm g := by
  unfold Gateway.getReceivers
  split
  · split
    · exact afterEvents_calm g m modified _
    · exact ⟨rfl, rfl, List.forall_mem_nil _⟩
  · split
    · exact finish_calm_nil g _ _
    · exact afterReceivers_calm g m modified _ _
  · exact afterReceivers_calm g m modified _ _

theorem afterBinaryEvents_calm (g : Gateway) (m : BinaryMessage) (events : List Events) :
    (g.afterBinaryEvents m events).Calm g := by
  unfold Gateway.afterBinaryEvents
  split
  · exact finish_calm_nil g _ _
  · dsimp only
    split
    · exact finish_calm_nil g _ _
    · exact finish_calm_nil g _ _
    · split
      · exact finish_calm_nil g _ _
      · exact (finish_calm_nil _ _ _).after (outward_log_of_inward sendAll_inward)

variable (cfg) in
theorem onBinary_calm (g : Gateway) (c : ClientRef) (r : SessionRef) (session : WsSession)
    (payload : List UInt8) : (g.onBinary cfg c r session payload).Calm g := by
  unfold Gateway.onBinary
  dsimp only
  split
  · exact finish_calm_nil g _ _
  · split
    · exact finish_calm_nil g _ _
    · unfold Gateway.executeBinary
      split
      · exact finish_calm_nil g _ _
      · split_ifs
        · exact finish_calm_nil g _ _
        · split
          · exact afterBinaryEvents_calm g _ _
          · exact ⟨rfl, rfl, List.forall_mem_nil _⟩

/-! ## Connections and timers -/

@[simp] theorem outward_presence (g : Gateway) (r : SessionRef) (event : String)
    (withDeviceId : Bool) : (g.presence r event withDeviceId).outward = g.outward := by
  have hinward : ∀ e ∈ g.conn.presence r event withDeviceId, e.isOutward = false := by
    intro e he
    unfold Connections.presence at he
    split at he
    · cases he
    · obtain ⟨b, -, he⟩ := List.mem_flatMap.1 he
      exact send_inward e he
  unfold Gateway.presence
  split
  · split_ifs
    · exact outward_log_of_inward hinward
    · rfl
  · rfl

@[simp] theorem outward_deliverPending (g : Gateway) (r : SessionRef) :
    (g.deliverPending r).outward = g.outward := by
  unfold Gateway.deliverPending
  split
  · rfl
  · dsimp only
    rw [outward_setStore, outward_log_of_inward fun e he => ?_]
    obtain ⟨record, -, he⟩ := List.mem_flatMap.1 he
    exact send_inward e he

@[simp] theorem outward_onConnect (g : Gateway) (r : SessionRef) :
    (g.onConnect r).1.outward = g.outward := by
  unfold Gateway.onConnect
  split
  · rfl
  · split_ifs
    · dsimp only
      rw [outward_presence, outward_deliverPending]
      rfl
    · rfl

@[simp] theorem outward_ready (g : Gateway) (c : ClientRef) :
    (g.ready c).outward = g.outward := by
  unfold Gateway.ready
  dsimp only
  split_ifs
  · exact outward_log_of_inward (by simp [Effect.isOutward])
  · rfl

theorem connected_calm (g : Gateway) (c : ClientRef) (a : Authenticated) :
    (g.connected c a).Calm g := by
  unfold Gateway.connected
  dsimp only
  split_ifs
  · exact ⟨outward_onConnect _ _, rfl, List.forall_mem_nil _⟩
  · exact ⟨(outward_ready _ c).trans (outward_onConnect _ _), rfl, List.forall_mem_nil _⟩

@[simp] theorem outward_handleDisconnect (g : Gateway) (c : ClientRef) :
    (g.handleDisconnect cfg c).outward = g.outward := by
  unfold Gateway.handleDisconnect
  split
  · rfl
  · split
    · rfl
    · split_ifs
      · unfold Gateway.onDisconnect
        split_ifs
        · rfl
        · exact outward_presence _ _ _ _
        · exact outward_presence _ _ _ _
      · rfl

@[simp] theorem outward_close (g : Gateway) (c : ClientRef) (client : WsClient) :
    (g.close cfg c client).outward = g.outward := by
  unfold Gateway.close
  dsimp only
  split_ifs
  · rw [outward_handleDisconnect, outward_handleDisconnect]
    rfl
  · rw [outward_handleDisconnect]
    rfl

@[simp] theorem outward_suspendTimer (g : Gateway) (timer : SuspendTimer) :
    (g.suspendTimer timer).outward = g.outward := by
  unfold Gateway.suspendTimer
  split
  · rfl
  · split_ifs
    · exact outward_presence _ _ _ _
    · rfl

@[simp] theorem outward_heartbeat (g : Gateway) : (g.heartbeat cfg).outward = g.outward := by
  refine List.foldlRecOn (motive := fun g' : Gateway => g'.outward = g.outward) _ _ rfl
    fun g' hg c _ => ?_
  refine Eq.trans ?_ hg
  unfold Gateway.beatSocket
  split
  · rfl
  · split_ifs
    · dsimp only
      split_ifs
      · exact outward_log_of_inward (by simp [Effect.isOutward])
      · rfl
    · rfl

theorem retry_inward {now : ℤ} {jitter : ℕ → String → ℚ} {store : EventStore JsObj} :
    ∀ e ∈ (k.retryPendingEvents cfg.store now jitter store).1, e.isOutward = false := by
  refine List.foldlRecOn (motive := fun acc : List Effect × EventStore JsObj =>
    ∀ e ∈ acc.1, e.isOutward = false) _ _ (List.forall_mem_nil _) fun acc hacc userId _ => ?_
  unfold Connections.retryUser
  split
  · exact hacc
  · split_ifs
    · refine List.forall_mem_append.2 ⟨hacc, fun e he => ?_⟩
      obtain ⟨record, -, he⟩ := List.mem_flatMap.1 he
      exact send_inward e he
    · exact hacc

@[simp] theorem outward_retry (g : Gateway) (jitter : ℕ → String → ℚ) :
    (g.retry cfg jitter).outward = g.outward := by
  unfold Gateway.retry
  rw [outward_setStore, outward_log_of_inward retry_inward]

theorem snapshot_inward {r : SessionRef} {devices : Except Failure (List Connections.DeviceInfo)} :
    ∀ e ∈ k.snapshot r devices, e.isOutward = false := by
  intro e he
  unfold Connections.snapshot at he
  split at he
  · cases he
  · exact send_inward e he

/-! ## Requests -/

/-- The message that the listener of the socket `c` makes of a text, for the session that the socket
    is attached to and that has this socket. -/
structure Connections.Hears (k : Connections) (c : ClientRef) (parsed : Option JsVal)
    (m : Message) : Prop where
  client : m.client = c
  session : (k.clients[c]?).bind (·.session) = some m.session
  socket : k.socket m.session = some c
  event : ∃ v, parsed = some v ∧ v.strField "event" = some m.handler.labelEvent ∧
    v.field "data" = m.payload

/-- A message of a session that its handler accepts, and that makes this request. -/
structure Requested (k : Connections) (m : Message) (call : ApiCall)
    (notification : Option String) : Prop where
  listed : m.handler ∈ WS_EVENT_JSON_CLASSES
  session : ∃ session, k.heap[m.session]? = some session ∧ m.Valid session.type ∧
    m.handler.plan session.principal m.payload = .call call notification

variable (cfg) in
/-- A message is handled without leaving the gateway, or makes a request and waits for it. -/
theorem onMessage_calls {c : ClientRef} {r : SessionRef} {session : WsSession}
    (parsed : Option JsVal) (hr : (g.conn.clients[c]?).bind (·.session) = some r)
    (hs : g.conn.heap[r]? = some session) (hsocket : session.socket = some c) :
    (g.onMessage cfg c r session parsed).Calm g ∨
      ∃ m call notification, g.conn.Hears c parsed m ∧ Requested g.conn m call notification ∧
        g.onMessage cfg c r session parsed = (g.log [.api call], .api m notification, []) := by
  unfold Gateway.onMessage
  split
  · exact Or.inl (finish_calm_nil g _ _)
  · exact Or.inl (finish_calm_nil g _ _)
  · split
    · exact Or.inl (finish_calm_nil g _ _)
    · split
      · exact Or.inl (finish_calm_nil g _ _)
      · rename_i v _ _ event hevent _ handler hfind
        have hlabel : handler.labelEvent = event := by simpa using List.find?_some hfind
        have hhears : g.conn.Hears c (some v) ⟨c, r, handler, v.field "data"⟩ :=
          ⟨rfl, hr, by simp [Connections.socket, hs, hsocket], v, rfl, hlabel.symm ▸ hevent, rfl⟩
        unfold Gateway.execute
        split
        · exact Or.inl (finish_calm_nil g _ _)
        · rename_i haccess
          unfold Gateway.executeBase
          split
          · exact Or.inl (finish_calm_nil g _ _)
          · rename_i hstructure
            split_ifs with hpayload
            · split
              · exact Or.inl (getReceivers_calm cfg g _ _)
              · exact Or.inl (finish_calm_nil g _ _)
              · rename_i call notification hplan
                refine Or.inr ⟨_, call, notification, hhears,
                  ⟨List.mem_of_find?_eq_some hfind, session, hs,
                    ⟨fun t ht => ?_, hstructure, hpayload⟩, hplan⟩, rfl⟩
                unfold Gateway.validateAccess at haccess
                rw [show handler.type = some t from ht] at haccess
                dsimp only at haccess
                split_ifs at haccess with htype
                exact htype
            · exact Or.inl (finish_calm_nil g _ _)

variable (cfg) in
/-- The answer of a service is followed by at most the notification that the message asks for, if
    it is a success. -/
theorem afterApi_emits (g : Gateway) (m : Message) (notification : Option String)
    (answer : ApiAnswer) :
    (g.afterApi cfg m notification answer).2.1.request = none ∧
      (∀ t ∈ (g.afterApi cfg m notification answer).2.2, t.request = none) ∧
      ((g.afterApi cfg m notification answer).1.outward = g.outward ∨
        ∃ event principal result, notification = some event ∧ WHResPipe answer = .ok result ∧
          OMap.find "isSuccess" result = some (.bool true) ∧
          g.conn.principal m.session = some principal ∧
          (g.afterApi cfg m notification answer).1.outward =
            g.outward ++ [.emit event principal.clientId (OMap.find "data" result)]) := by
  unfold Gateway.afterApi
  split
  · rename_i f _
    have hcalm := finish_calm_nil g m.client (.error f)
    exact ⟨hcalm.task, hcalm.tasks, Or.inl hcalm.outward⟩
  · rename_i result hresult
    dsimp only
    split
    · rename_i event principal hprincipal hsuccess
      have hcalm := getReceivers_calm cfg
        (g.log [.emit event principal.clientId (OMap.find "data" result)]) m result
      exact ⟨hcalm.task, hcalm.tasks,
        Or.inr ⟨event, principal, result, rfl, hresult, hsuccess, hprincipal,
          hcalm.outward.trans (outward_log g _)⟩⟩
    · have hcalm := getReceivers_calm cfg (g.log []) m result
      rw [log_nil] at hcalm ⊢
      exact ⟨hcalm.task, hcalm.tasks, Or.inl hcalm.outward⟩

/-! ## Steps -/

theorem onEvent_calls {e : GatewayEvent} {g' : Gateway} {new : List Task}
    (h : g.onEvent cfg e = some (g', new)) :
    (g'.outward = g.outward ∧ ∀ t ∈ new, t.request = none) ∨
      ∃ c parsed m call notification, e = .message c parsed ∧ g.conn.Hears c parsed m ∧
        Requested g.conn m call notification ∧
        g'.outward = g.outward ++ [.api call] ∧ new = [.api m notification] := by
  cases e with
  | tick now =>
    simp only [Gateway.onEvent] at h
    split_ifs at h
    cases h
    exact Or.inl ⟨rfl, List.forall_mem_nil _⟩
  | connect =>
    cases h
    exact Or.inl ⟨rfl, by simp [Task.request]⟩
  | message c parsed =>
    obtain ⟨client, hclient, -, -, ⟨rfl, rfl, -⟩ | ⟨r, session, hr, hs, hsocket, rfl, rfl⟩⟩ :=
      receive_cases h
    · exact Or.inl ⟨rfl, List.forall_mem_nil _⟩
    · rcases onMessage_calls cfg parsed (by rw [hclient, Option.bind_some, hr]) hs hsocket with
        hcalm | ⟨m, call, notification, hhears, hrequested, heq⟩
      · exact Or.inl ⟨hcalm.outward, List.forall_mem_cons.2 ⟨hcalm.task, hcalm.tasks⟩⟩
      · rw [heq]
        exact Or.inr ⟨c, parsed, m, call, notification, rfl, hhears, hrequested, outward_log g _,
          rfl⟩
  | binary c payload =>
    obtain ⟨-, -, -, -, ⟨rfl, rfl, -⟩ | ⟨r, session, -, -, -, rfl, rfl⟩⟩ := receive_cases h
    · exact Or.inl ⟨rfl, List.forall_mem_nil _⟩
    · have hcalm := onBinary_calm cfg g c r session payload
      exact Or.inl ⟨hcalm.outward, List.forall_mem_cons.2 ⟨hcalm.task, hcalm.tasks⟩⟩
  | pong c =>
    simp only [Gateway.onEvent] at h
    split at h
    · cases h
    · split_ifs at h
      cases h
      exact Or.inl ⟨rfl, List.forall_mem_nil _⟩
  | closing c =>
    simp only [Gateway.onEvent] at h
    split_ifs at h
    cases h
    exact Or.inl ⟨rfl, List.forall_mem_nil _⟩
  | close c =>
    simp only [Gateway.onEvent] at h
    split at h
    · cases h
    · split_ifs at h
      cases h
      exact Or.inl ⟨outward_close g c _, List.forall_mem_nil _⟩
  | suspendTimer i =>
    simp only [Gateway.onEvent] at h
    split at h
    · cases h
    · split_ifs at h
      cases h
      exact Or.inl ⟨outward_suspendTimer _ _, List.forall_mem_nil _⟩
  | expiryTimer eventId =>
    simp only [Gateway.onEvent] at h
    split at h
    · cases h
    · split_ifs at h
      cases h
      exact Or.inl ⟨outward_setStore g _, List.forall_mem_nil _⟩
  | cleanup =>
    cases h
    exact Or.inl ⟨outward_setStore g _, List.forall_mem_nil _⟩
  | heartbeat =>
    cases h
    exact Or.inl ⟨outward_heartbeat g, List.forall_mem_nil _⟩
  | retry jitter =>
    cases h
    exact Or.inl ⟨outward_retry g jitter, List.forall_mem_nil _⟩

theorem onAnswer_emits {t t' : Task} {a : GatewayAnswer} {g' : Gateway} {new : List Task}
    (h : g.onAnswer cfg t a = some (g', t', new)) :
    t'.request = none ∧ (∀ t ∈ new, t.request = none) ∧
      (g'.outward = g.outward ∨ ∃ m event answer principal result, t = .api m (some event) ∧
        a = .api answer ∧ WHResPipe answer = .ok result ∧
        OMap.find "isSuccess" result = some (.bool true) ∧
        g.conn.principal m.session = some principal ∧
        g'.outward = g.outward ++ [.emit event principal.clientId (OMap.find "data" result)]) := by
  have hcalm : ∀ {s : Stretch}, s.Calm g → some s = some (g', t', new) →
      t'.request = none ∧ (∀ t ∈ new, t.request = none) ∧ g'.outward = g.outward := by
    intro s hs h
    cases h
    exact ⟨hs.task, hs.tasks, hs.outward⟩
  unfold Gateway.onAnswer at h
  split at h
  · cases h
    exact ⟨rfl, List.forall_mem_nil _, Or.inl rfl⟩
  · obtain ⟨htask, htasks, hsame⟩ := hcalm (failConnection_calm g _ _) h
    exact ⟨htask, htasks, Or.inl hsame⟩
  · obtain ⟨htask, htasks, hsame⟩ := hcalm (connected_calm g _ _) h
    exact ⟨htask, htasks, Or.inl hsame⟩
  · obtain ⟨htask, htasks, hsame⟩ := hcalm (failConnection_calm g _ _) h
    exact ⟨htask, htasks, Or.inl hsame⟩
  · cases h
    exact ⟨rfl, List.forall_mem_nil _,
      Or.inl ((outward_ready _ _).trans (outward_log_of_inward snapshot_inward))⟩
  · rename_i m notification answer
    obtain ⟨htask, htasks, hemits⟩ := afterApi_emits cfg g m notification answer
    rw [Option.some.inj h] at htask htasks hemits
    refine ⟨htask, htasks, ?_⟩
    rcases hemits with hsame | ⟨event, principal, result, rfl, hemitted⟩
    · exact Or.inl hsame
    · exact Or.inr ⟨m, event, answer, principal, result, rfl, rfl, hemitted⟩
  · obtain ⟨htask, htasks, hsame⟩ := hcalm
      ((afterEvents_calm (g.loadEvents _ _ _) _ _ _).after rfl) h
    exact ⟨htask, htasks, Or.inl hsame⟩
  · obtain ⟨htask, htasks, hsame⟩ := hcalm (finish_calm_nil g _ _) h
    exact ⟨htask, htasks, Or.inl hsame⟩
  · cases h
    exact ⟨rfl, List.forall_mem_nil _, Or.inl (outward_finishQossing g _ _)⟩
  · cases h
    exact ⟨rfl, List.forall_mem_nil _, Or.inl rfl⟩
  · obtain ⟨htask, htasks, hsame⟩ := hcalm
      ((afterBinaryEvents_calm (g.loadEvents _ _ _) _ _).after rfl) h
    exact ⟨htask, htasks, Or.inl hsame⟩
  · obtain ⟨htask, htasks, hsame⟩ := hcalm (finish_calm_nil g _ _) h
    exact ⟨htask, htasks, Or.inl hsame⟩
  · cases h

end

end GatewayRealtime
