/-
  What becomes of the pulse of a socket, `isAlive` and `missedPongs`.

  * `WsClient.Steady`: a socket is bound, gets its listeners or closes, and keeps its pulse.
  * `Connections.Steady`: all of them do no more than that.
  * `onMessage_steady` and the lemmas before it: every stretch of a message is of that kind.
  * `onEvent_steady`, `onAnswer_steady`: so is every other one, but for a new socket, a tick of the
    heartbeat, a pong, and the start of a connection.
  * `Greeted`: a socket that has its listeners is bound to a session, and so is one whose browser
    waits for its devices.
-/
import GatewayRealtime.Vouched

namespace GatewayRealtime

/-- The pulse stays; a listener that is attached stays, and is attached to no socket but a bound
    one; no socket is released or opened. -/
structure WsClient.Steady (client client' : WsClient) : Prop where
  isAlive : client'.isAlive = client.isAlive
  missedPongs : client'.missedPongs = client.missedPongs
  listening : client.listening = true → client'.listening = true
  attached : client'.listening = true → client.listening = true ∨ client'.session ≠ none
  session : client'.session = none → client.session = none
  isOpen : client'.readyState = .OPEN → client.readyState = .OPEN

/-- Every socket is steady, and there are no others. -/
structure Connections.Steady (k k' : Connections) : Prop where
  length : k'.clients.length = k.clients.length
  client : ∀ (c : ClientRef) (client' : WsClient), k'.clients[c]? = some client' →
    ∃ client : WsClient, k.clients[c]? = some client ∧ client.Steady client'

section
variable {cfg : GatewayConfig} {g g' : Gateway} {k k' k'' : Connections} {m : Message}
  {c : ClientRef} {r : SessionRef}

/-! ## Elementary changes -/

theorem WsClient.Steady.refl (client : WsClient) : client.Steady client :=
  ⟨rfl, rfl, id, Or.inl, id, id⟩

theorem WsClient.Steady.trans {client client' client'' : WsClient} (h : client.Steady client')
    (h' : client'.Steady client'') : client.Steady client'' where
  isAlive := h'.isAlive.trans h.isAlive
  missedPongs := h'.missedPongs.trans h.missedPongs
  listening := h'.listening ∘ h.listening
  attached hlistening := (h'.attached hlistening).imp_left h.attached |>.elim
    (fun hold => hold.imp_right fun hbound hnone => hbound (h'.session hnone)) Or.inr
  session := h.session ∘ h'.session
  isOpen := h.isOpen ∘ h'.isOpen

theorem Connections.Steady.of_eq (h : k'.clients = k.clients) : k.Steady k' where
  length := by rw [h]
  client c client hclient := ⟨client, h ▸ hclient, .refl client⟩

theorem Connections.Steady.refl (k : Connections) : k.Steady k := .of_eq rfl

theorem Connections.Steady.trans (h : k.Steady k') (h' : k'.Steady k'') : k.Steady k'' where
  length := h'.length.trans h.length
  client c client'' hclient'' := by
    obtain ⟨client', hclient', hlast⟩ := h'.client c client'' hclient''
    obtain ⟨client, hclient, hfirst⟩ := h.client c client' hclient'
    exact ⟨client, hclient, hfirst.trans hlast⟩

theorem Connections.Steady.updateClient (k : Connections) (c : ClientRef)
    {f : WsClient → WsClient} (hf : ∀ client : WsClient, client.Steady (f client)) :
    k.Steady (k.updateClient c f) where
  length := List.length_modify ..
  client c' client' h := by
    rw [Connections.clients_updateClient] at h
    obtain ⟨client, hclient, rfl⟩ := Option.map_eq_some_iff.1 h
    refine ⟨client, hclient, ?_⟩
    split_ifs
    · exact hf client
    · exact .refl client

theorem Connections.Steady.closeSocket (k : Connections) (c : ClientRef) :
    k.Steady (k.closeSocket c) :=
  .updateClient k c fun client => by
    refine ⟨rfl, rfl, id, Or.inl, id, fun h => ?_⟩
    dsimp only at h
    split_ifs at h
    exact h

theorem Connections.Steady.updateSession (h : k.Steady k') (r : SessionRef)
    (f : WsSession → WsSession) : k.Steady (k'.updateSession r f) := h.trans (.of_eq rfl)

/-! ## Messages -/

theorem handleError_conn (g : Gateway) (c : ClientRef) (f : Failure) :
    (g.handleError c f).conn = g.conn := by
  unfold Gateway.handleError
  split_ifs <;> rfl

theorem failConnection_steady (g : Gateway) (c : ClientRef) (f : Failure) :
    g.conn.Steady (g.failConnection c f).conn := by
  show g.conn.Steady ((g.handleError c f).conn.closeSocket c)
  rw [handleError_conn]
  exact .closeSocket g.conn c

theorem finish_steady (g : Gateway) (c : ClientRef) (tasks : List Task)
    (result : Except Failure Unit) : g.conn.Steady (g.finish c tasks result).1.conn := by
  cases result with
  | ok => exact .refl _
  | error f =>
    show g.conn.Steady (g.failMessage c f).conn
    unfold Gateway.failMessage
    dsimp only
    split_ifs
    · exact failConnection_steady g c f
    · rw [handleError_conn]
      exact .refl _

theorem startQossing_conn (g : Gateway) (q : Qossing) (type : TypeEnduser) :
    (g.startQossing q type).1.conn = g.conn := by
  unfold Gateway.startQossing
  split
  · rfl
  all_goals split <;> rfl

theorem finishQossing_conn (cfg : GatewayConfig) (g : Gateway) (q : Qossing) (ids : List ℕ) :
    (g.finishQossing cfg q ids).1.conn = g.conn := by
  unfold Gateway.finishQossing
  dsimp only
  split
  · rfl
  · split
    · rfl
    · split_ifs <;> rfl
  · split_ifs
    · rfl
    · split <;> rfl

theorem acknowledge_conn (cfg : GatewayConfig) (g : Gateway) (r : SessionRef)
    (payload : Option JsVal) : (g.acknowledge cfg r payload).conn = g.conn := by
  unfold Gateway.acknowledge
  split
  · rfl
  · dsimp only
    split
    · rfl
    · split
      · rfl
      · split_ifs
        · split <;> rfl
        · rfl

theorem sideEffect_conn (cfg : GatewayConfig) (g : Gateway) (m : Message) (modified : JsObj)
    (label : String) : (g.sideEffect cfg m modified label).1.conn = g.conn := by
  unfold Gateway.sideEffect
  split
  · rfl
  · rfl
  · split
    · rfl
    · exact startQossing_conn ..
  · exact acknowledge_conn ..

theorem dispatch_conn (g : Gateway) (m : Message) (modified : JsObj) (grant : Option Grant)
    (receivers : List SessionRef) : (g.dispatch m modified grant receivers).1.conn = g.conn := by
  unfold Gateway.dispatch
  split
  · rfl
  · rfl
  · exact startQossing_conn ..

/-- The end of a message, after what leaves the connections alone. -/
theorem finish_steady_of_conn (hconn : g'.conn = g.conn) (tasks : List Task)
    (result : Except Failure Unit) : g.conn.Steady (g'.finish c tasks result).1.conn := by
  rw [← hconn]
  exact finish_steady g' c tasks result

variable (cfg)

theorem afterReceivers_steady (g : Gateway) (m : Message) (modified : JsObj)
    (grant : Option Grant) (receivers : List SessionRef) :
    g.conn.Steady (g.afterReceivers cfg m modified grant receivers).1.conn := by
  have hdispatch := dispatch_conn g m modified grant receivers
  unfold Gateway.afterReceivers
  dsimp only
  split
  · exact finish_steady_of_conn hdispatch _ _
  · exact finish_steady_of_conn ((sideEffect_conn ..).trans hdispatch) _ _

theorem afterEvents_steady (g : Gateway) (m : Message) (modified : JsObj) (events : List Events) :
    g.conn.Steady (g.afterEvents cfg m modified events).1.conn := by
  unfold Gateway.afterEvents
  split
  · exact finish_steady ..
  · dsimp only
    split
    · exact finish_steady ..
    · exact finish_steady ..
    · exact afterReceivers_steady cfg ..

theorem getReceivers_steady (g : Gateway) (m : Message) (modified : JsObj) :
    g.conn.Steady (g.getReceivers cfg m modified).1.conn := by
  unfold Gateway.getReceivers
  split
  · split
    · exact afterEvents_steady cfg ..
    · exact .refl _
  · split
    · exact finish_steady ..
    · exact afterReceivers_steady cfg ..
  · exact afterReceivers_steady cfg ..

theorem afterApi_steady (g : Gateway) (m : Message) (notification : Option String)
    (answer : ApiAnswer) : g.conn.Steady (g.afterApi cfg m notification answer).1.conn := by
  unfold Gateway.afterApi
  split
  · exact finish_steady ..
  · exact getReceivers_steady cfg (g.log _) m _

theorem onMessage_steady (g : Gateway) (c : ClientRef) (r : SessionRef) (session : WsSession)
    (parsed : Option JsVal) : g.conn.Steady (g.onMessage cfg c r session parsed).1.conn := by
  unfold Gateway.onMessage
  split
  · exact finish_steady ..
  · exact finish_steady ..
  · split
    · exact finish_steady ..
    · split
      · exact finish_steady ..
      · unfold Gateway.execute
        split
        · exact finish_steady ..
        · unfold Gateway.executeBase
          split
          · exact finish_steady ..
          · split_ifs
            · split
              · exact getReceivers_steady cfg ..
              · exact finish_steady ..
              · exact .refl _
            · exact finish_steady ..

variable {cfg}

theorem afterBinaryEvents_steady (g : Gateway) (m : BinaryMessage) (events : List Events) :
    g.conn.Steady (g.afterBinaryEvents m events).1.conn := by
  unfold Gateway.afterBinaryEvents
  split
  · exact finish_steady ..
  · dsimp only
    split
    · exact finish_steady ..
    · exact finish_steady ..
    · split
      · exact finish_steady ..
      · exact finish_steady (g.log _) ..

theorem onBinary_steady (cfg : GatewayConfig) (g : Gateway) (c : ClientRef) (r : SessionRef)
    (session : WsSession) (payload : List UInt8) :
    g.conn.Steady (g.onBinary cfg c r session payload).1.conn := by
  unfold Gateway.onBinary
  dsimp only
  split
  · exact finish_steady ..
  · split
    · exact finish_steady ..
    · unfold Gateway.executeBinary
      split
      · exact finish_steady ..
      · split_ifs
        · exact finish_steady ..
        · split
          · exact afterBinaryEvents_steady ..
          · exact .refl _

/-! ## Connections and timers -/

theorem establishSession_steady (k : Connections) (id_enduser : ℕ) (auth : EndUser)
    (type : TypeEnduser) (product : Option String) (c : ClientRef) :
    k.Steady (k.establishSession id_enduser auth type product c).1 := by
  have hcreate : k.Steady (k.createSession id_enduser auth type product c).1 := by
    unfold Connections.createSession
    have hheap : ∀ heap : List WsSession, k.Steady { k with heap := heap } := fun _ => .of_eq rfl
    refine ((hheap _).trans (.updateClient _ c fun client => ?_)).trans
      (.of_eq (Connections.register_clients ..))
    exact ⟨rfl, rfl, id, Or.inl, by rintro ⟨⟩, id⟩
  have hclose : ∀ (k₁ : Connections) old, k₁.clients = k.clients →
      k.Steady (k₁.closeSocket old) := fun k₁ old h =>
    Connections.Steady.trans (.of_eq h) (.closeSocket k₁ old)
  unfold Connections.establishSession
  split
  · exact hcreate
  · split
    · exact hcreate
    · split_ifs
      · unfold Connections.resumeSession
        refine Connections.Steady.trans (.updateSession ?_ _ _) (.updateClient _ c fun client =>
          ⟨rfl, rfl, id, Or.inl, by rintro ⟨⟩, id⟩)
        refine Connections.Steady.trans ?_ (.of_eq (Connections.clearTimeout_clients _ _))
        split
        · exact hclose k _ rfl
        · exact .refl k
      · unfold Connections.replaceSession
        refine Connections.Steady.trans (.updateSession ?_ _ _) (.updateClient _ c fun client =>
          ⟨rfl, rfl, id, Or.inl, by rintro ⟨⟩, id⟩)
        split
        · split_ifs
          · exact hclose _ _ (Connections.clearTimeout_clients _ _)
          · exact .refl k
        · exact .refl k

/-- The socket `c` is bound to a session. -/
def Connections.IsBound (k : Connections) (c : ClientRef) : Prop :=
  ∀ client : WsClient, k.clients[c]? = some client → client.session ≠ none

theorem Connections.Steady.isBound (h : k.Steady k') (hc : k.IsBound c) : k'.IsBound c := by
  intro client' hclient' hnone
  obtain ⟨client, hclient, hsteady⟩ := h.client c client' hclient'
  exact hc client hclient (hsteady.session hnone)

theorem Connections.isBound_updateClient (k : Connections) (c : ClientRef)
    {f : WsClient → WsClient} (hf : ∀ client : WsClient, (f client).session ≠ none) :
    (k.updateClient c f).IsBound c := by
  intro client' hclient'
  rw [Connections.clients_updateClient] at hclient'
  obtain ⟨client, -, rfl⟩ := Option.map_eq_some_iff.1 hclient'
  rw [if_pos rfl]
  exact hf client

theorem establishSession_isBound (k : Connections) (id_enduser : ℕ) (auth : EndUser)
    (type : TypeEnduser) (product : Option String) (c : ClientRef) :
    (k.establishSession id_enduser auth type product c).1.IsBound c := by
  have hcreate : (k.createSession id_enduser auth type product c).1.IsBound c := by
    unfold Connections.createSession
    intro client hclient
    rw [Connections.register_clients] at hclient
    exact Connections.isBound_updateClient _ c (fun client => Option.some_ne_none _) client hclient
  unfold Connections.establishSession
  split
  · exact hcreate
  · split
    · exact hcreate
    · split_ifs
      · exact Connections.isBound_updateClient _ c fun client => Option.some_ne_none _
      · exact Connections.isBound_updateClient _ c fun client => Option.some_ne_none _

/-- The listeners are attached to a socket that is bound. -/
theorem ready_steady (g : Gateway) (hc : g.conn.IsBound c) : g.conn.Steady (g.ready c).conn := by
  have hlisten : g.conn.Steady (g.conn.updateClient c fun client =>
      { client with listening := true }) := by
    refine ⟨List.length_modify .., fun c' client' h => ?_⟩
    rw [Connections.clients_updateClient] at h
    obtain ⟨client, hclient, rfl⟩ := Option.map_eq_some_iff.1 h
    refine ⟨client, hclient, ?_⟩
    split_ifs with heq
    · exact ⟨rfl, rfl, fun _ => rfl, fun _ => Or.inr (hc client (heq ▸ hclient)), id, id⟩
    · exact .refl client
  unfold Gateway.ready
  dsimp only
  split_ifs
  · exact hlisten
  · exact hlisten

theorem onConnect_steady (g : Gateway) (r : SessionRef) :
    g.conn.Steady (g.onConnect r).1.conn := by
  unfold Gateway.onConnect
  split
  · exact .refl _
  · split_ifs
    · dsimp only
      rw [presence_conn, deliverPending_conn]
      exact .of_eq rfl
    · exact .refl _

theorem connected_steady (g : Gateway) (c : ClientRef) (a : Authenticated) :
    g.conn.Steady (g.connected c a).1.conn ∧ (g.connected c a).1.conn.IsBound c := by
  have honline : g.conn.Steady ({ g with conn := (g.conn.establishSession a.id_enduser a.auth
      a.type a.product c).1 } : Gateway).conn := establishSession_steady ..
  have hbound : ({ g with conn := (g.conn.establishSession a.id_enduser a.auth a.type a.product
      c).1 } : Gateway).conn.IsBound c := establishSession_isBound _ _ _ _ _ _
  have hcame := onConnect_steady ({ g with conn := (g.conn.establishSession a.id_enduser a.auth
      a.type a.product c).1 } : Gateway)
    (g.conn.establishSession a.id_enduser a.auth a.type a.product c).2
  unfold Gateway.connected
  dsimp only
  split_ifs
  · exact ⟨honline.trans hcame, hcame.isBound hbound⟩
  · have hready := ready_steady _ (hcame.isBound hbound)
    exact ⟨(honline.trans hcame).trans hready, hready.isBound (hcame.isBound hbound)⟩

theorem handleDisconnect_steady (hk : g.conn.Inv) (c : ClientRef) :
    g.conn.Steady (g.handleDisconnect cfg c).conn := by
  rcases handleDisconnect_cases cfg hk c with ⟨heq, -⟩ | ⟨r, -, -, hsuspends⟩
  · exact .of_eq (by rw [heq])
  · exact .of_eq hsuspends.clients

theorem close_steady (hk : g.conn.Inv) (c : ClientRef) (client : WsClient) :
    g.conn.Steady (g.close cfg c client).conn :=
  close_keeps (I := fun g' => g.conn.Steady g'.conn) hk c client
    (.updateClient _ c fun _ => ⟨rfl, rfl, id, Or.inl, id, by rintro ⟨⟩⟩) fun _ hk' h =>
      h.trans (handleDisconnect_steady hk' c)

theorem suspendTimer_steady (g : Gateway) (timer : SuspendTimer) :
    g.conn.Steady (g.suspendTimer timer).conn := by
  unfold Gateway.suspendTimer
  split
  · exact .refl _
  · split_ifs
    · rw [presence_conn]
      exact .of_eq (Connections.unregister_clients ..)
    · exact .refl _

/-! ## Steps -/

/-- Every event but a new socket, a tick of the heartbeat and a pong. -/
theorem onEvent_steady {e : GatewayEvent} {new : List Task} (hk : g.conn.Inv)
    (h : g.onEvent cfg e = some (g', new)) (hconnect : e ≠ .connect) (hbeat : e ≠ .heartbeat)
    (hpong : ∀ c, e ≠ .pong c) : g.conn.Steady g'.conn := by
  cases e with
  | connect => exact (hconnect rfl).elim
  | heartbeat => exact (hbeat rfl).elim
  | pong c => exact (hpong c rfl).elim
  | tick now =>
    simp only [Gateway.onEvent] at h
    split_ifs at h
    cases h
    exact .refl _
  | message c parsed =>
    obtain ⟨-, -, -, -, ⟨rfl, -, -⟩ | ⟨r, session, -, -, -, rfl, -⟩⟩ := receive_cases h
    · exact .refl _
    · exact onMessage_steady cfg ..
  | binary c payload =>
    obtain ⟨-, -, -, -, ⟨rfl, -, -⟩ | ⟨r, session, -, -, -, rfl, -⟩⟩ := receive_cases h
    · exact .refl _
    · exact onBinary_steady cfg ..
  | closing c =>
    simp only [Gateway.onEvent] at h
    split_ifs at h
    cases h
    exact .closeSocket _ c
  | close c =>
    simp only [Gateway.onEvent] at h
    split at h
    · cases h
    · split_ifs at h
      cases h
      exact close_steady hk c _
  | suspendTimer i =>
    simp only [Gateway.onEvent] at h
    split at h
    · cases h
    · split_ifs at h
      cases h
      have hdeleted : g.conn.Steady { g.conn with timers := g.conn.timers.delete i } := .of_eq rfl
      exact hdeleted.trans (suspendTimer_steady
        { g with conn := { g.conn with timers := g.conn.timers.delete i } } _)
  | expiryTimer eventId =>
    simp only [Gateway.onEvent] at h
    split at h
    · cases h
    · split_ifs at h
      cases h
      exact .refl _
  | cleanup =>
    cases h
    exact .refl _
  | retry jitter =>
    cases h
    exact .refl _

/-- Every answer but that of the limiter which lets a connection pass. -/
theorem onAnswer_steady {t t' : Task} {a : GatewayAnswer} {new : List Task}
    (hbound : ∀ c r, t = .snapshot c r → g.conn.IsBound c)
    (h : g.onAnswer cfg t a = some (g', t', new)) (hlimit : a ≠ .rateLimit (.ok ())) :
    g.conn.Steady g'.conn := by
  have hsteady : ∀ {s : Stretch}, g.conn.Steady s.1.conn → some s = some (g', t', new) →
      g.conn.Steady g'.conn := by
    rintro s hs ⟨⟩
    exact hs
  unfold Gateway.onAnswer at h
  split at h
  · exact (hlimit rfl).elim
  · exact hsteady (failConnection_steady ..) h
  · exact hsteady (connected_steady ..).1 h
  · exact hsteady (failConnection_steady ..) h
  · rename_i c r devices
    have hready : g.conn.Steady ((g.log (g.conn.snapshot r devices)).ready c).conn :=
      ready_steady (g.log (g.conn.snapshot r devices)) (hbound c r rfl)
    exact hsteady hready h
  · exact hsteady (afterApi_steady cfg ..) h
  · exact hsteady (afterEvents_steady cfg (g.loadEvents _ _ _) ..) h
  · exact hsteady (finish_steady ..) h
  · exact hsteady (.of_eq (by rw [finishQossing_conn])) h
  · exact hsteady (.refl _) h
  · exact hsteady (afterBinaryEvents_steady (g.loadEvents _ _ _) ..) h
  · exact hsteady (finish_steady ..) h
  · cases h

/-! ## The listeners -/

/-- A socket that has its listeners is bound to a session, and so is one whose browser waits for
    the devices of its tenant. -/
structure Greeted (p : Pool Gateway Task) : Prop where
  listening : ∀ (c : ClientRef) (client : WsClient), p.shared.conn.clients[c]? = some client →
    client.listening = true → client.session ≠ none
  snapshot : ∀ c r, .snapshot c r ∈ p.threads →
    c < p.shared.conn.clients.length ∧ p.shared.conn.IsBound c

variable {p p' : Pool Gateway Task}

theorem greeted_start (t₀ : ℤ) : Greeted (Gateway.start t₀) := ⟨nofun, nofun⟩

/-- No event starts to wait for the devices of a browser. -/
theorem snapshot_of_event {cfg : GatewayConfig} {t₀ : ℤ} {e : GatewayEvent} {new : List Task}
    (hp : Consistent cfg t₀ p) (h : p.shared.onEvent cfg e = some (g', new)) (c : ClientRef)
    (r : SessionRef) : Task.snapshot c r ∉ new := by
  obtain ⟨-, -, -, -, rfl⟩ | ⟨-, -, rfl⟩ | ⟨-, -, -, -, -, -, rfl⟩ | ⟨-, -, -, -, -, -, rfl⟩ |
    ⟨-, -, -, -, rfl⟩ | ⟨-, -, hnew⟩ := onEvent_cases .any hp.1.indexed hp.1.storeInv h
  all_goals first
    | simp
    | exact fun hmem => Option.some_ne_none c (hnew _ hmem).1

/-- A computation that waits for the devices of a browser has just entered. -/
theorem snapshot_of_answer {cfg : GatewayConfig} {t₀ : ℤ} {i : ℕ} {t t' : Task}
    {a : GatewayAnswer} {new : List Task} (hp : Consistent cfg t₀ p) (ht : p.threads[i]? = some t)
    (h : p.shared.onAnswer cfg t a = some (g', t', new)) {c : ClientRef} {r : SessionRef}
    (hmem : Task.snapshot c r = t' ∨ Task.snapshot c r ∈ new) :
    ∃ auth, t = .authenticate c ∧ p.shared.connected c auth = (g', t', new) := by
  have hof : ∀ {t : Task}, t = .snapshot c r → ¬ t.OfMessage p.shared.conn := by
    rintro t rfl hof
    exact Option.some_ne_none c hof.1
  obtain ⟨c', rfl, rfl, -, rfl⟩ | ⟨c', auth, rfl, rfl, hconnected⟩ |
    ⟨c', r', devices, rfl, rfl, -, rfl, rfl⟩ | ⟨q, ids, rfl, rfl, -, rfl, rfl⟩ | hh :=
      onAnswer_cases .any hp.1.indexed (hp.2 t (List.mem_of_getElem? ht)) h
  · simp at hmem
  · have hentered := hconnected
    unfold Gateway.connected at hconnected
    dsimp only at hconnected
    split_ifs at hconnected
    · cases hconnected
      simp only [Task.snapshot.injEq, List.not_mem_nil, or_false] at hmem
      obtain ⟨rfl, -⟩ := hmem
      exact ⟨auth, rfl, hentered⟩
    · cases hconnected
      simp at hmem
  · simp at hmem
  · simp at hmem
  · rcases hmem with heq | hmem
    · exact absurd hh.task (hof heq.symm)
    · exact absurd (hh.tasks _ hmem) (hof rfl)

/-- A steady stretch, in which no browser starts to wait. -/
theorem Greeted.steady {threads : List Task} (h : Greeted p) (hs : p.shared.conn.Steady g'.conn)
    (hthreads : ∀ c r, Task.snapshot c r ∈ threads → Task.snapshot c r ∈ p.threads ∨
      c < p.shared.conn.clients.length ∧ g'.conn.IsBound c) : Greeted ⟨g', threads⟩ where
  listening c client' hclient' hlistening hnone := by
    obtain ⟨client, hclient, hsteady⟩ := hs.client c client' hclient'
    rcases hsteady.attached hlistening with hold | hbound
    · exact h.listening c client hclient hold (hsteady.session hnone)
    · exact hbound hnone
  snapshot c r hmem := by
    rcases hthreads c r hmem with hold | ⟨hlt, hbound⟩
    · obtain ⟨hlt, hbound⟩ := h.snapshot c r hold
      exact ⟨hs.length.symm ▸ hlt, hs.isBound hbound⟩
    · exact ⟨hs.length.symm ▸ hlt, hbound⟩

end

end GatewayRealtime
