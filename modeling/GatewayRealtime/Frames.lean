/-
  The frames of events (`qossing`, `deliverPendingEvents`, `EventRetryService`,
  `EventAcknowledgmentEvent`).

  * `Path`, `Path.message`: the three ways of an event to a recipient, and the frame on each.
  * `Gateway.Sends`: a frame is sent in a stretch of code; the lemmas `..._message` say which frames
    the three ways send.
  * `notification`, `noticeMessage`, `storedNotice`: `event:delivered`, at once and stored.
  * `OneFrame`: the frame does not depend on the way, and names the event for quality 2 only.
  * `oneFrame_iff`: when it does.
-/
import GatewayRealtime.Partition

namespace GatewayRealtime

/-! ## The ways of an event -/

/-- The frame in which `qossing` sends an event that it has, or would have, stored as `record`. -/
def directMessage (record : EventRecord JsObj) : JsObj :=
  match record.qos with
  | .qos0 | .qos1 => eventMessage record.eventName record.payload
  | .qos2 => eventMessageMeta record.eventName record.payload record.eventId

/-- The ways of an event to a recipient. -/
inductive Path
  | direct | onConnect | retry
deriving DecidableEq

/-- The frame of an event on its way. -/
def Path.message (path : Path) (record : EventRecord JsObj) : JsObj :=
  match path with
  | .direct => directMessage record
  | .onConnect => pendingMessage record
  | .retry => Connections.retryMessage record

/-- `meta.eventId` of a frame. -/
def metaEventId (frame : JsObj) : Option JsVal :=
  (OMap.find "meta" frame).bind (·.field "eventId")

/-- **One event, one frame.**  The frame is the same on every way, and it has a `meta.eventId` if
    the event is of quality 2. -/
structure OneFrame (record : EventRecord JsObj) : Prop where
  same : ∀ p p' : Path, p.message record = p'.message record
  eventId : ∀ p : Path, (metaEventId (p.message record)).isSome ↔ record.qos = .qos2

/-! ## Notices of delivery -/

/-- What `event:delivered` says of an event that a session has acknowledged with `payload`. -/
def notification (record : EventRecord JsObj) (session : WsSession) (payload : Option JsVal)
    (now : ℤ) : JsObj :=
  [text "originalEventId" record.eventId, text "originalEventName" record.eventName] ++
    optionalField "deliveredTo" (session.principal.asBrowser.map fun user => .str user.role) ++
    [("deliveredAt", .num now)] ++ optionalField "message" (payload.bind (·.field "message"))

/-- The notice to a sender who is online. -/
def noticeMessage (notice : JsObj) : JsObj :=
  [text "event" "event:delivered", ("data", .obj notice)]

/-- The notice to a sender who is offline, as it is stored. -/
def storedNotice (eventId : String) (notice : JsObj) (now : ℤ) : EventRecord JsObj :=
  EventStore.newRecord eventId "event:delivered" notice .qos1 { ttl := some 3600000 } now

/-- Two frames have the same fields. -/
def SameFields (a b : JsObj) : Prop := ∀ k, (OMap.find k a).isSome ↔ (OMap.find k b).isSome

/-! ## What is sent -/

/-- Between `g` and `g'`, the frames that are sent for the reason `origin` are as `ok` says. -/
def Gateway.Sends (g g' : Gateway) (origin : Origin) (ok : Frame → Prop) : Prop :=
  ∃ effects, g'.trace = g.trace ++ effects ∧
    ∀ c r frame, Effect.send c r frame origin ∈ effects → ok frame

/-- The record of the event of a call of `qossing`. -/
structure Qossing.Issues (cfg : GatewayConfig) (g : Gateway) (q : Qossing)
    (record : EventRecord JsObj) : Prop where
  eventId : record.eventId = cfg.randomUUID g.generated
  eventName : record.eventName = q.handler.labelEventToReceiver
  payload : record.payload = q.payload
  qos : record.qos = q.handler.qos

section
variable {cfg : GatewayConfig} {g g' g'' : Gateway} {origin : Origin} {ok : Frame → Prop}
  {q : Qossing} {record : EventRecord JsObj}

theorem Gateway.Sends.of_trace_eq (h : g'.trace = g.trace) : g.Sends g' origin ok :=
  ⟨[], by rw [h, List.append_nil], fun _ _ _ hmem => absurd hmem List.not_mem_nil⟩

theorem Gateway.Sends.trans (h : g.Sends g' origin ok) (h' : g'.Sends g'' origin ok) :
    g.Sends g'' origin ok := by
  obtain ⟨effects, htrace, hok⟩ := h
  obtain ⟨effects', htrace', hok'⟩ := h'
  refine ⟨effects ++ effects', by rw [htrace', htrace, List.append_assoc], fun c r frame hmem => ?_⟩
  exact (List.mem_append.1 hmem).elim (hok c r frame) (hok' c r frame)

theorem Gateway.Sends.log (g : Gateway) {effects : List Effect}
    (h : ∀ c r frame, Effect.send c r frame origin ∈ effects → ok frame) :
    g.Sends (g.log effects) origin ok := ⟨effects, rfl, h⟩

/-- The loop of a dispatch sends one frame. -/
theorem Gateway.Sends.sendAll (g : Gateway) {frame : Frame} (receivers : List SessionRef)
    (h : ok frame) : g.Sends (g.log (g.conn.sendAll frame origin receivers).1) origin ok := by
  refine Gateway.Sends.log g fun c r frame' hmem => ?_
  rw [sendAll_effects] at hmem
  obtain ⟨r', -, hmem⟩ := List.mem_flatMap.1 hmem
  obtain ⟨c', -, -, heq⟩ := mem_send_iff.1 hmem
  cases heq
  exact h

/-- An operation of the store sends notices only. -/
theorem Gateway.Sends.setStore (g : Gateway) (s : EventStore JsObj) (h : origin ≠ .notice) :
    g.Sends (g.setStore s) origin ok := by
  obtain ⟨notices, heq, hnotices⟩ := setStore_eq g s
  rw [heq]
  refine ⟨notices, rfl, fun c r frame hmem => absurd (hnotices _ hmem) ?_⟩
  cases origin <;> simp_all [Effect.IsNotice]

/-- Creating an event sends notices only. -/
theorem Gateway.Sends.createEvent (g : Gateway) (targetIds : List ℕ) (eventName : String)
    (payload : JsObj) (qos : QoS) (options : CreateOptions) (sender : SessionRef)
    (grant : Option Grant) (h : origin ≠ .notice) :
    g.Sends (g.createEvent cfg targetIds eventName payload qos options sender grant) origin ok := by
  obtain ⟨notices, htrace, hnotices⟩ := createEvent_logged cfg g targetIds eventName payload qos
    options sender grant
  refine ⟨_, htrace, ?_⟩
  rintro c r frame (_ | ⟨_, hmem⟩)
  refine absurd (hnotices _ hmem) ?_
  cases origin <;> simp_all [Effect.IsNotice]

/-! ### Directly -/

/-- The direct frame of the event of a call, as the code of its quality writes it. -/
theorem Qossing.Issues.message (h : q.Issues cfg g record) :
    Path.direct.message record = match q.handler.qos with
      | .qos0 | .qos1 => eventMessage q.handler.labelEventToReceiver q.payload
      | .qos2 => eventMessageMeta q.handler.labelEventToReceiver q.payload
          (cfg.randomUUID g.generated) := by
  rw [← h.qos, ← h.eventName, ← h.payload, ← h.eventId]
  rfl

/-- `qossing` sends each event in its direct frame: before its query, -/
theorem startQossing_sends (h : q.Issues cfg g record) (receiverType : TypeEnduser) :
    g.Sends (g.startQossing q receiverType).1 (.dispatch q.sender q.grant)
      (· = .json (Path.direct.message record)) := by
  have hmessage := h.message
  unfold Gateway.startQossing
  split
  · rename_i hqos
    rw [hqos] at hmessage
    exact .sendAll g q.receivers (by rw [hmessage])
  all_goals split <;> exact .of_trace_eq rfl

/-- and after it. -/
theorem finishQossing_sends (h : q.Issues cfg g record) (ids : List ℕ) :
    g.Sends (g.finishQossing cfg q ids).1 (.dispatch q.sender q.grant)
      (· = .json (Path.direct.message record)) := by
  have hmessage := h.message
  unfold Gateway.finishQossing
  dsimp only
  split
  · exact .of_trace_eq rfl
  · rename_i hqos
    rw [hqos] at hmessage
    have hsent : g.Sends (g.log (g.conn.sendAll (.json (eventMessage q.handler.labelEventToReceiver
        q.payload)) (.dispatch q.sender q.grant) q.receivers).1) (.dispatch q.sender q.grant)
        (· = .json (Path.direct.message record)) := .sendAll g q.receivers (by rw [hmessage])
    split
    · exact hsent
    · split_ifs
      · exact hsent
      · exact hsent.trans (.createEvent _ _ _ _ _ _ _ _ (by simp))
  · rename_i hqos
    rw [hqos] at hmessage
    split_ifs
    · exact .of_trace_eq rfl
    · have hcreated : g.Sends (g.createEvent cfg
          (Gateway.onlineIds g.conn q ++ Gateway.offlineIds g.conn q ids)
          q.handler.labelEventToReceiver q.payload .qos2
          { senderId := g.conn.sessionId q.sender, notifySender := some q.handler.notifySender,
            ttl := some q.handler.ttl, senderEventName := some q.handler.labelEvent }
          q.sender q.grant) (.dispatch q.sender q.grant)
          (· = .json (Path.direct.message record)) := .createEvent g _ _ _ _ _ _ _ (by simp)
      refine hcreated.trans ?_
      split
      · exact .sendAll _ q.receivers (by rw [hmessage])
      · exact (Gateway.Sends.sendAll _ q.receivers (by rw [hmessage])).trans
          (.setStore _ _ (by simp))

/-! ### From the store -/

/-- A frame of a stored event. -/
def EventStore.FrameOf (s : EventStore JsObj) (path : Path) (eventId : String) (frame : Frame) :
    Prop :=
  ∃ record, s.events.get? eventId = some record ∧ frame = .json (path.message record)

/-- The frame of an event is in what is fixed when it is created. -/
theorem Path.message_header (path : Path) (record : EventRecord JsObj) :
    path.message record.header = path.message record := by
  cases path <;> rfl

theorem EventStore.FrameOf.of_noGrow {s s' : EventStore JsObj} {path : Path} {eventId : String}
    {frame : Frame} (hs : EventStore.NoGrow s s') (h : s'.FrameOf path eventId frame) :
    s.FrameOf path eventId frame := by
  obtain ⟨record', hrecord', rfl⟩ := h
  obtain ⟨record, hrecord, hheader⟩ := hs.events eventId record' hrecord'
  refine ⟨record, hrecord, ?_⟩
  rw [← path.message_header record', hheader, path.message_header]

/-- What a session that connects is sent of the store is in the frame of `deliverPendingEvents`. -/
theorem deliverPending_sends (hs : EventStore.StoreInv g.store) (r : SessionRef)
    (eventId : String) :
    g.Sends (g.deliverPending r) (.stored eventId) (g.store.FrameOf .onConnect eventId) := by
  unfold Gateway.deliverPending
  split
  · exact .of_trace_eq rfl
  · rename_i userId _
    refine (Gateway.Sends.log g fun c r' frame hmem => ?_).trans (.setStore _ _ (by simp))
    obtain ⟨record, hrecord, hmem⟩ := List.mem_flatMap.1 hmem
    obtain ⟨c', -, -, heq⟩ := mem_send_iff.1 hmem
    cases heq
    obtain ⟨⟨id, -, hget⟩, -⟩ := EventStore.mem_getPending.1 (deliverLoop_subset _ _ _ hrecord)
    exact ⟨record, (hs.keyed id record hget).symm ▸ hget, rfl⟩

/-- The retries of one user are in the frame of `EventRetryService`. -/
theorem retryUser_sends (hs : EventStore.StoreInv g.store) (jitter : ℕ → String → ℚ)
    {eventId : String} {acc : List Effect × EventStore JsObj} (hacc : Retried cfg .any g acc)
    (hframes : ∀ c r frame, Effect.send c r frame (.stored eventId) ∈ acc.1 →
      g.store.FrameOf .retry eventId frame) (userId : ℕ) (c : ClientRef) (r : SessionRef)
    (frame : Frame) (hmem : Effect.send c r frame (.stored eventId) ∈
      (g.conn.retryUser cfg.store g.clock jitter acc userId).1) :
    g.store.FrameOf .retry eventId frame := by
  unfold Connections.retryUser at hmem
  split at hmem
  · exact hframes c r frame hmem
  · split_ifs at hmem
    · rcases List.mem_append.1 hmem with hmem | hmem
      · exact hframes c r frame hmem
      · obtain ⟨record, hrecord, hmem⟩ := List.mem_flatMap.1 hmem
        obtain ⟨c', -, -, heq⟩ := mem_send_iff.1 hmem
        cases heq
        obtain ⟨⟨id, -, hget⟩, -⟩ := EventStore.mem_getPendingWithRetry.1 hrecord
        refine EventStore.FrameOf.of_noGrow hacc.2.noGrow ⟨record, ?_, rfl⟩
        exact ((hs.operated hacc.2).keyed id record hget).symm ▸ hget
    · exact hframes c r frame hmem

/-- What is retried is in the frame of `EventRetryService`. -/
theorem retry_sends (hs : EventStore.StoreInv g.store) (jitter : ℕ → String → ℚ)
    (eventId : String) :
    g.Sends (g.retry cfg jitter) (.stored eventId) (g.store.FrameOf .retry eventId) := by
  have hretried : Retried cfg .any g
        (g.conn.retryPendingEvents cfg.store g.clock jitter g.store) ∧
      ∀ c r frame, Effect.send c r frame (.stored eventId) ∈
        (g.conn.retryPendingEvents cfg.store g.clock jitter g.store).1 →
          g.store.FrameOf .retry eventId frame :=
    List.foldlRecOn (motive := fun acc => Retried cfg .any g acc ∧
        ∀ c r frame, Effect.send c r frame (.stored eventId) ∈ acc.1 →
          g.store.FrameOf .retry eventId frame) _ _
      ⟨⟨List.forall_mem_nil _, .refl⟩, fun _ _ _ hmem => absurd hmem List.not_mem_nil⟩
      fun acc hacc userId _ => ⟨retryUser_retried hs jitter hacc.1 userId,
        retryUser_sends hs jitter hacc.1 hacc.2 userId⟩
  exact (Gateway.Sends.log g hretried.2).trans (.setStore _ _ (by simp))

/-! ### Notices -/

/-- An acknowledgement of `record` whose sender is told: somebody else, who asked for it. -/
structure Gateway.Tells (g : Gateway) (r : SessionRef) (payload : Option JsVal)
    (session : WsSession) (record : EventRecord JsObj) (senderId : ℕ) : Prop where
  acking : g.conn.heap[r]? = some session
  acked : g.store.getEvent (payloadText payload "eventId") = some record
  sender : record.senderId = some senderId
  notify : record.notifySender = true ∧ senderId ≠ 0 ∧ senderId ≠ session.sessionId

section
variable {r : SessionRef} {payload : Option JsVal} {session : WsSession} {senderId : ℕ}

/-- The gateway once the acknowledgement is recorded. -/
def Gateway.applied (g : Gateway) (session : WsSession) (payload : Option JsVal) : Gateway :=
  g.setStore (g.store.markApplied session.sessionId (payloadText payload "eventId"))

/-- A sender who is online is sent the notice. -/
theorem acknowledge_of_online (h : g.Tells r payload session record senderId) {s : SessionRef}
    (honline : (g.conn.find senderId).filter g.conn.isActive = some s) :
    g.acknowledge cfg r payload = (g.applied session payload).log (g.conn.send s
      (.json (noticeMessage (notification record session payload g.clock))) .notice) := by
  have honline' : ((g.applied session payload).conn.find senderId).filter
      (g.applied session payload).conn.isActive = some s := honline
  unfold Gateway.applied at honline'
  simp only [Gateway.acknowledge, h.acking, h.acked, h.sender, honline']
  rw [if_pos h.notify]
  rfl

/-- For a sender who is offline, the notice is stored. -/
theorem acknowledge_of_offline (h : g.Tells r payload session record senderId)
    (hoffline : (g.conn.find senderId).filter g.conn.isActive = none) :
    g.acknowledge cfg r payload = (g.applied session payload).createEvent cfg [senderId]
      "event:delivered" (notification record session payload g.clock) .qos1
      { ttl := some 3600000 } r none := by
  have hoffline' : ((g.applied session payload).conn.find senderId).filter
      (g.applied session payload).conn.isActive = none := hoffline
  unfold Gateway.applied at hoffline'
  simp only [Gateway.acknowledge, h.acking, h.acked, h.sender, hoffline']
  rw [if_pos h.notify]
  rfl

end

/-! ## One frame -/

theorem find_spread_of_notMem {k : String} : ∀ (extra base : JsObj), k ∉ extra.map Prod.fst →
    OMap.find k (JsObj.spread base extra) = OMap.find k base
  | [], _, _ => rfl
  | e :: extra, base, h => by
    rw [List.map_cons, List.mem_cons, not_or] at h
    have ih := find_spread_of_notMem extra (OMap.put e.1 e.2 base) h.2
    rw [OMap.find_put, if_neg h.1] at ih
    exact ih

theorem metaEventId_eventMessageMeta (event : String) (payload : JsObj) (eventId : String) :
    metaEventId (eventMessageMeta event payload eventId) = some (.str eventId) := by
  simp [metaEventId, eventMessageMeta, OMap.find_put, JsVal.field, OMap.find]

/-- A retry names the event, whatever its quality. -/
theorem metaEventId_retry (record : EventRecord JsObj) :
    metaEventId (Path.retry.message record) = some (.str record.eventId) :=
  metaEventId_eventMessageMeta ..

/-- Events are sent as they are delivered on connection. -/
theorem directMessage_eq_pendingMessage (record : EventRecord JsObj) :
    directMessage record = pendingMessage record := by
  unfold directMessage pendingMessage
  cases record.qos <;> rfl

/-- A notice has no `data` once it has been stored. -/
theorem find_data_storedNotice (path : Path) (eventId : String) (acked : EventRecord JsObj)
    (session : WsSession) (payload : Option JsVal) (now : ℤ) :
    OMap.find "data" (path.message
      (storedNotice eventId (notification acked session payload now) now)) = none := by
  have hfields : "data" ∉ (notification acked session payload now).map Prod.fst := by
    unfold notification
    cases session.principal.asBrowser <;> cases payload.bind (·.field "message") <;>
      simp [optionalField, text]
  have hmessage : OMap.find "data" (eventMessage "event:delivered"
      (notification acked session payload now)) = none := find_spread_of_notMem _ _ hfields
  cases path with
  | retry =>
    show OMap.find "data" (eventMessageMeta _ _ _) = none
    rw [eventMessageMeta, OMap.find_put, if_neg (by decide)]
    exact hmessage
  | _ => exact hmessage

/-- **One event, one frame.**  An event has one frame on all ways iff its quality is 2, since
    retries name every event; and a notice of delivery, which is sent at once in `data` but stored
    without it, never has. -/
theorem oneFrame_iff (record : EventRecord JsObj) (path : Path) (eventId : String)
    (acked : EventRecord JsObj) (session : WsSession) (payload : Option JsVal) (now : ℤ) :
    (OneFrame record ↔ record.qos = .qos2) ∧
      ¬ SameFields (noticeMessage (notification acked session payload now))
        (path.message (storedNotice eventId (notification acked session payload now) now)) := by
  refine ⟨⟨fun h => ?_, fun hqos => ?_⟩, fun h => ?_⟩
  · exact (h.eventId .retry).1 (by rw [metaEventId_retry]; rfl)
  · have hpending : pendingMessage record =
        eventMessageMeta record.eventName record.payload record.eventId := by
      simp [pendingMessage, hqos]
    have hmessage : ∀ p : Path, p.message record =
        eventMessageMeta record.eventName record.payload record.eventId := by
      intro p
      cases p with
      | direct => exact (directMessage_eq_pendingMessage record).trans hpending
      | onConnect => exact hpending
      | retry => rfl
    refine ⟨fun p p' => (hmessage p).trans (hmessage p').symm, fun p => iff_of_true ?_ hqos⟩
    rw [hmessage, metaEventId_eventMessageMeta]
    rfl
  · have hdata := (h "data").1 rfl
    rw [find_data_storedNotice] at hdata
    cases hdata

end

/-! ## A scan that is retried -/

/-- A browser connects while the targets of a scan are queried, and the event is stored for it. -/
def lateScan : List (Act GatewayEvent GatewayAnswer) :=
  enters 0 reader ++ enters 1 (watcher 11 [10]) ++
    [.event (.message 0 (some (.obj [text "event" "rfid-scan",
        ("data", .obj [text "mode" "login", text "uid" "04A1"])]))),
      .resume 2 (.api (.response (.obj [("isSuccess", .bool true)]) [])),
      .resume 2 (.events (.ok [⟨10, "login", 3⟩])),
      .event .connect, .resume 4 (.rateLimit (.ok ())),
      .resume 4 (.authenticated (.ok (watcher 12 [10]))), .resume 3 (.targets (.ok [11, 12]))]

/-- The frame of the retry names the event, whose quality is 1; the browser that was there had the
    frame without. -/
theorem lateScan_named : ∃ p p' record,
    Run (gatewayProgram .defaults).step anyStep (Gateway.start 0) lateScan p ∧
      Run (gatewayProgram .defaults).step anyStep p [.event (.retry fun _ _ => 1)] p' ∧
      p.shared.store.events.get? (tally 0) = some record ∧ record.qos = .qos1 ∧
      p'.shared.trace.getLast? =
        some (.send 2 2 (.json (Path.retry.message record)) (.stored (tally 0))) ∧
      (metaEventId (Path.direct.message record)).isSome = false ∧
      (metaEventId (Path.retry.message record)).isSome = true ∧ ¬ OneFrame record := by
  have hrun : Run (gatewayProgram .defaults).step anyStep (Gateway.start 0)
      (lateScan ++ [.event (.retry fun _ _ => 1)])
      (reach (lateScan ++ [.event (.retry fun _ _ => 1)])) := run_reach (by decide)
  obtain ⟨p, hp, hretry⟩ := hrun.split
  obtain rfl := hp.det (run_reach (by decide))
  have hstored : ((reach lateScan).shared.store.events.get? (tally 0)).map (·.qos) =
      some .qos1 := by decide
  obtain ⟨record, hrecord, hqos⟩ := Option.map_eq_some_iff.1 hstored
  have htrace : (reach (lateScan ++ [.event (.retry fun _ _ => 1)])).shared.trace.getLast? =
      ((reach lateScan).shared.store.events.get? (tally 0)).map fun record =>
        .send 2 2 (.json (Path.retry.message record)) (.stored (tally 0)) := rfl
  have hdirect : ((reach lateScan).shared.store.events.get? (tally 0)).map (fun record =>
      (metaEventId (Path.direct.message record)).isSome) = some false := by decide
  rw [hrecord] at htrace hdirect
  have hnamed : (metaEventId (Path.retry.message record)).isSome = true := by
    rw [metaEventId_retry]
    rfl
  refine ⟨_, _, record, hp, hretry, hrecord, hqos, htrace, Option.some.inj hdirect, hnamed,
    fun h => ?_⟩
  have hqos2 := (h.eventId .retry).1 hnamed
  rw [hqos] at hqos2
  cases hqos2

end GatewayRealtime
