/-
  The order of the frames of audio uploads (`UploadAudioStartEvent`, `UploadAudioEvent`,
  `UploadAudioEndEvent`).

  * `UploadItem`: the start of an upload, a chunk, or its end.
  * `Pool.uploading`: whose upload a stretch of code belongs to; `uploadsSent`, `uploadsForwarded`:
    what a browser sent in a run, and what a device was sent of it.
  * `UploadsInOrder`: what is forwarded is in the order of the messages.
  * `OutOfTurn`: a stretch forwards an item while an earlier one of the session waits for a query.
  * `Task.Plain`, `Task.UploadOf`: the computations of a run, those of uploads and the others.
  * `uploads_inOrder`: without stretches out of turn, uploads are in order.
-/
import GatewayRealtime.Frames
import GatewayRealtime.Lib.Turns

namespace GatewayRealtime

/-! ## Uploads -/

/-- The start of an upload, a chunk, or the end. -/
inductive UploadItem
  | start (data : Option JsVal)
  | chunk (bytes : List UInt8)
  | finish (data : Option JsVal)

/-- What an event of this label says of an upload. -/
def uploadItem (label : String) (data : Option JsVal) : Option UploadItem :=
  if label = UploadAudioStartEvent.labelEvent then some (.start data)
  else if label = UploadAudioEndEvent.labelEvent then some (.finish data)
  else none

/-- What a JSON message says of an upload. -/
def messageItem (parsed : Option JsVal) : Option UploadItem :=
  (parsed.bind (·.strField "event")).bind fun label =>
    uploadItem label (parsed.bind (·.field "data"))

/-- What a frame to a device says of an upload. -/
def Frame.uploadItem : Frame → Option UploadItem
  | .binary bytes => some (.chunk bytes)
  | .json fields =>
    match (JsVal.obj fields).strField "event" with
    | some event =>
      if event = UploadAudioStartEvent.labelEventToReceiver then
        some (.start (OMap.find "data" fields))
      else if event = UploadAudioEndEvent.labelEventToReceiver then
        some (.finish (OMap.find "data" fields))
      else none
    | none => none

/-- A frame of an upload of the session `s` to the session `d`. -/
def Effect.uploadTo (s d : SessionRef) : Effect → Option UploadItem
  | .send _ r frame (.dispatch sender _) =>
    if sender = s ∧ r = d then frame.uploadItem else none
  | _ => none

/-- The browser session that a message on the socket belongs to. -/
def Gateway.browserOn (g : Gateway) (c : ClientRef) : Option SessionRef :=
  ((g.conn.clients[c]?).bind (·.session)).filter fun r =>
    (g.conn.heap[r]?).any fun session => session.socket = some c ∧ session.type = .browser

/-- The session whose upload a message belongs to, and what the message says. -/
def Gateway.uploading (g : Gateway) : GatewayEvent → Option (SessionRef × UploadItem)
  | .message c parsed => (g.browserOn c).bind fun s => (messageItem parsed).map (s, ·)
  | .binary c bytes => (g.browserOn c).map (·, .chunk bytes)
  | _ => none

/-- The session whose upload waits in a computation, for its targets or for its events. -/
def Task.uploading : Task → Option (SessionRef × UploadItem)
  | .targets q =>
    (uploadItem q.handler.labelEvent (OMap.find "data" q.payload)).map (q.sender, ·)
  | .binaryEvents m _ =>
    if m.handler.labelEvent = UploadAudioEvent.labelEvent then some (m.session, .chunk m.payload)
    else none
  | _ => none

/-- The upload that a stretch of code belongs to. -/
def Pool.uploading (p : Pool Gateway Task) :
    Act GatewayEvent GatewayAnswer → Option (SessionRef × UploadItem)
  | .event e => p.shared.uploading e
  | .resume i _ => (p.threads[i]?).bind Task.uploading

/-- The number of the computation of a stretch that has led to `p'`: it is resumed, or it is the
    last one that the stretch has started. -/
def Pool.number (p' : Pool Gateway Task) : Act GatewayEvent GatewayAnswer → ℕ
  | .event _ => p'.threads.length - 1
  | .resume i _ => i

/-- What the session sends in a step. -/
def uploadSent (s : SessionRef) (p : Pool Gateway Task) :
    Act GatewayEvent GatewayAnswer → Pool Gateway Task → List (ℕ × UploadItem)
  | .event e, p' => ((p.shared.uploading e).filter fun u => u.1 = s).toList.map fun u =>
      (p'.number (.event e), u.2)
  | .resume _ _, _ => []

/-- What the session `d` is sent of the uploads of `s` in a step. -/
def uploadForwarded (s d : SessionRef) (p : Pool Gateway Task)
    (a : Act GatewayEvent GatewayAnswer) (p' : Pool Gateway Task) : List (ℕ × UploadItem) :=
  if (p.uploading a).any fun u => u.1 = s then
    ((p'.shared.trace.drop p.shared.trace.length).filterMap (Effect.uploadTo s d)).map
      (p'.number a, ·)
  else []

/-- **Uploads in order.**  What any session is sent of the uploads of a browser session, in frames
    that are not from the store, is in the order in which the browser has sent it: the starts, the
    chunks and the ends, each with the number of the computation of its message.  A start or an end
    that the store sends, on a retry or on a new connection, is left out, also when it is the first
    frame of it that the session is sent. -/
def UploadsInOrder (cfg : GatewayConfig) (t₀ : ℤ) (acts : List (Act GatewayEvent GatewayAnswer)) :
    Prop :=
  ∀ s d, (observed (gatewayProgram cfg).step (uploadForwarded s d) (Gateway.start t₀) acts).Sublist
    (observed (gatewayProgram cfg).step (uploadSent s) (Gateway.start t₀) acts)

/-! ## Turns -/

/-- The session whose upload a stretch forwards, if to anybody: the answer to a query of its
    handler has come, or the handler of a chunk does not query the events again. -/
def Pool.forwards (cfg : GatewayConfig) (p : Pool Gateway Task) :
    Act GatewayEvent GatewayAnswer → Option SessionRef
  | .resume i (.targets (.ok _)) | .resume i (.events (.ok _)) =>
    ((p.threads[i]?).bind Task.uploading).map Prod.fst
  | .event (.binary c _) =>
    if (p.shared.cachedEvents cfg UploadAudioEvent.labelEvent).isSome then p.shared.browserOn c
    else none
  | _ => none

/-- The computations that were started before that of a stretch. -/
def Pool.earlier (p : Pool Gateway Task) : Act GatewayEvent GatewayAnswer → List Task
  | .event _ => p.threads
  | .resume i _ => p.threads.take i

/-- A stretch forwards nothing of a session while an earlier message of its uploads waits. -/
def UploadsInTurn (cfg : GatewayConfig) (p : Pool Gateway Task)
    (a : Act GatewayEvent GatewayAnswer) : Prop :=
  ∀ s ∈ p.forwards cfg a, ∀ t ∈ p.earlier a, t.uploading.map Prod.fst ≠ some s

/-! ## The computations of a run -/

/-- A handler of other messages than the start and the end of an upload. -/
structure WsEventJSON.Plain (h : WsEventJSON) : Prop where
  ne_start : h.labelEvent ≠ UploadAudioStartEvent.labelEvent
  ne_end : h.labelEvent ≠ UploadAudioEndEvent.labelEvent

/-- A computation of anything else than an upload. -/
def Task.Plain : Task → Prop
  | .api m _ => m.handler.Plain
  | .events m .. => m.handler.Plain
  | .targets q => q.handler.Plain
  | .binaryEvents m _ => m.handler.labelEvent ≠ UploadAudioEvent.labelEvent
  | _ => True

/-- The computation in which an item of an upload of `s` waits. -/
inductive Task.UploadOf (s : SessionRef) : UploadItem → Task → Prop
  | event {h : WsEventJSON} {receivers : List SessionRef} {data : Option JsVal}
      {item : UploadItem} :
    h = UploadAudioStartEvent ∨ h = UploadAudioEndEvent → uploadItem h.labelEvent data = some item →
      receivers.Nodup → UploadOf s item (.targets ⟨h, s, receivers, dataPayload data, none⟩)
  | chunk {c : ClientRef} {bytes : List UInt8} {lastUpdate : ℤ} :
    UploadOf s (.chunk bytes) (.binaryEvents ⟨c, s, UploadAudioEvent, bytes⟩ lastUpdate)

/-- A computation of an upload, or of anything else. -/
def Task.Known (t : Task) : Prop := t.Plain ∨ ∃ s item, t.UploadOf s item

/-- Between `g` and `g'`, the session `d` is sent at most these items of an upload of `s`. -/
def Gateway.Forwards (g g' : Gateway) (s d : SessionRef) (items : List UploadItem) : Prop :=
  ∃ effects, g'.trace = g.trace ++ effects ∧
    (effects.filterMap (Effect.uploadTo s d)).Sublist items

/-- What becomes of an item of an upload of `s` when its message comes in: it is refused, it waits
    in the last computation that is started, or it is a chunk that is forwarded at once. -/
inductive Gateway.Takes (cfg : GatewayConfig) (g g' : Gateway) (s : SessionRef)
    (item : UploadItem) : GatewayEvent → List Task → Prop
  | refused {e : GatewayEvent} {tasks : List Task} : tasks ≠ [] → (∀ t ∈ tasks, t.Plain) →
      (∀ d, g.Forwards g' s d []) → Takes cfg g g' s item e tasks
  | waits {e : GatewayEvent} {tasks : List Task} {t : Task} : (∀ t ∈ tasks, t.Plain) →
      t.UploadOf s item → (∀ d, g.Forwards g' s d []) → Takes cfg g g' s item e (tasks ++ [t])
  | served {c : ClientRef} {bytes : List UInt8} {tasks : List Task} : tasks ≠ [] →
      (∀ t ∈ tasks, t.Plain) → (g.cachedEvents cfg UploadAudioEvent.labelEvent).isSome = true →
      g.browserOn c = some s → (∀ d, g.Forwards g' s d [item]) →
      Takes cfg g g' s item (.binary c bytes) tasks

/-- The items of uploads of `s` that wait, with the numbers of their computations. -/
def waitingUploads (threads : List Task) (s : SessionRef) : Set (ℕ × UploadItem) :=
  {x | ∃ t, threads[x.1]? = some t ∧ t.uploading = some (s, x.2)}

/-- A stretch that starts no computation of an upload. -/
def PlainStretch (s : Stretch) : Prop := ∀ t ∈ s.2.1 :: s.2.2, t.Plain

section
variable {cfg : GatewayConfig} {g g' g'' : Gateway} {s d : SessionRef} {item : UploadItem}
  {m : Message} {q : Qossing}

theorem WsEventJSON.Plain.uploadItem {h : WsEventJSON} (hh : h.Plain) (data : Option JsVal) :
    uploadItem h.labelEvent data = none := by
  unfold GatewayRealtime.uploadItem
  rw [if_neg hh.ne_start, if_neg hh.ne_end]

theorem Task.Plain.uploading {t : Task} (ht : t.Plain) : t.uploading = none := by
  cases t with
  | targets q => simp [Task.uploading, WsEventJSON.Plain.uploadItem ht]
  | binaryEvents m lastUpdate => exact if_neg ht
  | _ => rfl

theorem find_data_dataPayload : ∀ data : Option JsVal, OMap.find "data" (dataPayload data) = data
  | none => rfl
  | some _ => rfl

theorem Task.UploadOf.uploading {t : Task} (ht : t.UploadOf s item) :
    t.uploading = some (s, item) := by
  cases ht with
  | event hh hitem hnodup => simp [Task.uploading, find_data_dataPayload, hitem]
  | chunk => rfl

/-! ### Other messages -/

theorem finish_plain {tasks : List Task} (htasks : ∀ t ∈ tasks, t.Plain) (c : ClientRef)
    (result : Except Failure Unit) : PlainStretch (g.finish c tasks result) := by
  unfold Gateway.finish
  split <;> exact List.forall_mem_cons.2 ⟨trivial, htasks⟩

theorem finish_plain_nil (c : ClientRef) (result : Except Failure Unit) :
    PlainStretch (g.finish c [] result) := finish_plain (List.forall_mem_nil _) c result

theorem startQossing_plain (hq : q.handler.Plain) (receiverType : TypeEnduser) :
    (g.startQossing q receiverType).2.Plain := by
  unfold Gateway.startQossing
  split
  · trivial
  all_goals
    split
    · exact hq
    · exact hq
    · trivial

theorem sideEffect_plain (hm : m.handler.Plain) (modified : JsObj) (label : String) :
    ∀ t ∈ (g.sideEffect cfg m modified label).2, t.Plain := by
  unfold Gateway.sideEffect
  split
  · exact List.forall_mem_nil _
  · exact List.forall_mem_nil _
  · split
    · exact List.forall_mem_nil _
    · exact List.forall_mem_cons.2 ⟨startQossing_plain hm _, List.forall_mem_nil _⟩
  · exact List.forall_mem_nil _

theorem dispatch_plain (hm : m.handler.Plain) (modified : JsObj) (grant : Option Grant)
    (receivers : List SessionRef) :
    ∀ t ∈ (g.dispatch m modified grant receivers).2.2, t.Plain := by
  unfold Gateway.dispatch
  split
  · exact List.forall_mem_nil _
  · exact List.forall_mem_nil _
  · exact List.forall_mem_cons.2 ⟨startQossing_plain hm _, List.forall_mem_nil _⟩

theorem afterReceivers_plain (hm : m.handler.Plain) (modified : JsObj) (grant : Option Grant)
    (receivers : List SessionRef) :
    PlainStretch (g.afterReceivers cfg m modified grant receivers) := by
  have hdispatch := dispatch_plain (g := g) hm modified grant receivers
  unfold Gateway.afterReceivers
  dsimp only
  split
  · exact finish_plain hdispatch _ _
  · exact finish_plain (List.forall_mem_append.2 ⟨hdispatch, sideEffect_plain hm _ _⟩) _ _

theorem afterEvents_plain (hm : m.handler.Plain) (modified : JsObj) (events : List Events) :
    PlainStretch (g.afterEvents cfg m modified events) := by
  unfold Gateway.afterEvents
  split
  · exact finish_plain_nil _ _
  · dsimp only
    split
    · exact finish_plain_nil _ _
    · exact finish_plain_nil _ _
    · exact afterReceivers_plain hm _ _ _

theorem getReceivers_plain (hm : m.handler.Plain) (modified : JsObj) :
    PlainStretch (g.getReceivers cfg m modified) := by
  unfold Gateway.getReceivers
  split
  · split
    · exact afterEvents_plain hm _ _
    · exact List.forall_mem_cons.2 ⟨hm, List.forall_mem_nil _⟩
  · split
    · exact finish_plain_nil _ _
    · exact afterReceivers_plain hm _ _ _
  · exact afterReceivers_plain hm _ _ _

theorem afterApi_plain (hm : m.handler.Plain) (notification : Option String) (answer : ApiAnswer) :
    PlainStretch (g.afterApi cfg m notification answer) := by
  unfold Gateway.afterApi
  split
  · exact finish_plain_nil _ _
  · exact getReceivers_plain hm _

theorem executeBase_plain (hm : m.handler.Plain) (principal : EndUser) :
    PlainStretch (g.executeBase cfg m principal) := by
  unfold Gateway.executeBase
  split
  · exact finish_plain_nil _ _
  · split_ifs
    · split
      · exact getReceivers_plain hm _
      · exact finish_plain_nil _ _
      · exact List.forall_mem_cons.2 ⟨hm, List.forall_mem_nil _⟩
    · exact finish_plain_nil _ _

/-! ### Frames -/

theorem Gateway.Forwards.of_trace_eq (h : g'.trace = g.trace) : g.Forwards g' s d [] :=
  ⟨[], by rw [h, List.append_nil], List.Sublist.refl _⟩

theorem Gateway.Forwards.trans {items items' : List UploadItem} (h : g.Forwards g' s d items)
    (h' : g'.Forwards g'' s d items') : g.Forwards g'' s d (items ++ items') := by
  obtain ⟨effects, htrace, hsub⟩ := h
  obtain ⟨effects', htrace', hsub'⟩ := h'
  refine ⟨effects ++ effects', by rw [htrace', htrace, List.append_assoc], ?_⟩
  rw [List.filterMap_append]
  exact hsub.append hsub'

theorem Gateway.Forwards.mono (h : g.Forwards g' s d []) (items : List UploadItem) :
    g.Forwards g' s d items := by
  obtain ⟨effects, htrace, hsub⟩ := h
  exact ⟨effects, htrace, hsub.trans (List.nil_sublist _)⟩

/-- Only dispatches forward uploads. -/
theorem Gateway.Forwards.of_not_dispatch {effects : List Effect}
    (htrace : g'.trace = g.trace ++ effects) (h : ∀ e ∈ effects, ¬ e.IsDispatch) :
    g.Forwards g' s d [] := by
  refine ⟨effects, htrace, List.sublist_nil.2 (List.filterMap_eq_nil_iff.2 fun e he => ?_)⟩
  cases e with
  | send c r frame origin =>
    cases origin with
    | dispatch => exact absurd trivial (h _ he)
    | _ => rfl
  | _ => rfl

theorem Gateway.Forwards.setStore (g : Gateway) (store : EventStore JsObj) :
    g.Forwards (g.setStore store) s d [] := by
  obtain ⟨notices, heq, hnotices⟩ := setStore_eq g store
  rw [heq]
  exact .of_not_dispatch rfl fun e he => (hnotices e he).not_isDispatch

theorem Gateway.Forwards.createEvent (cfg : GatewayConfig) (g : Gateway) (targetIds : List ℕ)
    (eventName : String) (payload : JsObj) (qos : QoS) (options : CreateOptions)
    (sender : SessionRef) (grant : Option Grant) :
    g.Forwards (g.createEvent cfg targetIds eventName payload qos options sender grant) s d [] := by
  obtain ⟨rest, htrace, hrest⟩ := createEvent_trace cfg g targetIds eventName payload qos options
    sender grant
  exact .of_not_dispatch htrace hrest

/-- The end of a message sends a reply at most. -/
theorem Gateway.Forwards.finish (g : Gateway) (c : ClientRef) (tasks : List Task)
    (result : Except Failure Unit) : g.Forwards (g.finish c tasks result).1 s d [] := by
  unfold Gateway.finish Gateway.failMessage Gateway.handleError
  have hreply : ∀ f : Failure, g.Forwards (g.log
      [.reply c [text "event" "error", text "code" f.code, ("message", f.message)]]) s d [] :=
    fun f => .of_not_dispatch rfl fun e he => by
      rw [List.mem_singleton] at he
      exact he ▸ id
  split
  · exact .of_trace_eq rfl
  · dsimp only
    split_ifs
    · exact hreply _
    · exact .of_trace_eq rfl
    · exact hreply _
    · exact .of_trace_eq rfl

theorem uploadTo_send (k : Connections) {frame : Frame} (grant : Option Grant) (r : SessionRef)
    (hitem : frame.uploadItem = some item) :
    ((k.send r frame (.dispatch s grant)).filterMap (Effect.uploadTo s d)).Sublist
      (if r = d then [item] else []) := by
  unfold Connections.send
  split
  · split_ifs with hopen hr hr
    · simp [Effect.uploadTo, hr, hitem]
    · simp [Effect.uploadTo, hr]
    · exact List.nil_sublist _
    · exact List.nil_sublist _
  · exact List.nil_sublist _

/-- The loop of a dispatch sends an item to nobody twice. -/
theorem uploadTo_flatMap_send (k : Connections) {frame : Frame} (grant : Option Grant)
    (hitem : frame.uploadItem = some item) : ∀ {receivers : List SessionRef}, receivers.Nodup →
    ((receivers.flatMap fun r => k.send r frame (.dispatch s grant)).filterMap
      (Effect.uploadTo s d)).Sublist (if d ∈ receivers then [item] else [])
  | [], _ => List.Sublist.refl _
  | r :: receivers, hnodup => by
    have ih := uploadTo_flatMap_send k grant hitem hnodup.of_cons
    have hsend := uploadTo_send (s := s) (d := d) k grant r hitem
    have hr : r ∉ receivers := (List.nodup_cons.1 hnodup).1
    rw [List.flatMap_cons, List.filterMap_append]
    refine (hsend.append ih).trans ?_
    by_cases hd : r = d
    · subst hd
      simp [hr]
    · have hd' : ¬ d = r := fun h => hd h.symm
      simp [hd, hd', List.mem_cons]

theorem Gateway.Forwards.sendAll (g : Gateway) {frame : Frame} {receivers : List SessionRef}
    (grant : Option Grant) (hnodup : receivers.Nodup) (hitem : frame.uploadItem = some item) :
    g.Forwards (g.log (g.conn.sendAll frame (.dispatch s grant) receivers).1) s d [item] := by
  refine ⟨_, rfl, ?_⟩
  rw [sendAll_effects]
  refine (uploadTo_flatMap_send _ _ hitem (hnodup.sublist (List.takeWhile_sublist _))).trans ?_
  split_ifs
  · exact List.Sublist.refl _
  · exact List.nil_sublist _

/-! ### Messages of uploads -/

/-- The frame of the start or of the end of an upload says what the message says. -/
theorem uploadItem_eventMessageMeta {h : WsEventJSON} {data : Option JsVal}
    (hh : h = UploadAudioStartEvent ∨ h = UploadAudioEndEvent)
    (hitem : uploadItem h.labelEvent data = some item) (eventId : String) :
    (Frame.json (eventMessageMeta h.labelEventToReceiver (dataPayload data) eventId)).uploadItem =
      some item := by
  rcases hh with rfl | rfl
  all_goals
    rw [← hitem]
    cases data <;> rfl

/-- `qossing` forwards the start and the end of an upload once its targets are known. -/
theorem finishQossing_forwards {ids : List ℕ} (ht : (Task.targets q).UploadOf s item) :
    g.Forwards (g.finishQossing cfg q ids).1 s d [item] := by
  cases ht with
  | @event h receivers data _ hh hitem hnodup =>
    have hqos : h.qos = .qos2 := by rcases hh with rfl | rfl <;> rfl
    unfold Gateway.finishQossing
    simp only [hqos]
    split_ifs
    · exact (Gateway.Forwards.of_trace_eq rfl).mono _
    · have hcreated := Gateway.Forwards.createEvent (s := s) (d := d) cfg g
        (Gateway.onlineIds g.conn ⟨h, s, receivers, dataPayload data, none⟩ ++
          Gateway.offlineIds g.conn ⟨h, s, receivers, dataPayload data, none⟩ ids)
        h.labelEventToReceiver (dataPayload data) .qos2
        { senderId := g.conn.sessionId s, notifySender := some h.notifySender, ttl := some h.ttl,
          senderEventName := some h.labelEvent } s none
      show g.Forwards _ s d ([] ++ [item])
      refine hcreated.trans ?_
      have hsent : ∀ g' : Gateway, g'.Forwards (g'.log (g'.conn.sendAll (.json (eventMessageMeta
          h.labelEventToReceiver (dataPayload data) (cfg.randomUUID g.generated)))
          (.dispatch s none) receivers).1) s d [item] := fun g' =>
        .sendAll g' none hnodup (uploadItem_eventMessageMeta hh hitem _)
      split
      · exact hsent _
      · exact (hsent _).trans (.setStore _ _)

theorem nodup_getDevicesByTenant (k : Connections) (tenantId : String)
    (filter : SessionRef → Bool) : (k.getDevicesByTenant tenantId filter).Nodup := by
  unfold Connections.getDevicesByTenant
  refine List.Nodup.filter _ ?_
  cases k.registry.tenantDevices.get? tenantId with
  | none => exact .nil
  | some set => exact set.nodup

/-- The payload of the start or the end of an upload is checked and wrapped, -/
theorem executeBase_upload (cfg : GatewayConfig) (g : Gateway) {h : WsEventJSON}
    (hh : h = UploadAudioStartEvent ∨ h = UploadAudioEndEvent) (c : ClientRef) (r : SessionRef)
    (payload : Option JsVal) (principal : EndUser) :
    (∃ f, g.executeBase cfg ⟨c, r, h, payload⟩ principal = g.finish c [] (.error f)) ∨
      g.executeBase cfg ⟨c, r, h, payload⟩ principal =
        g.getReceivers cfg ⟨c, r, h, payload⟩ (dataPayload payload) := by
  cases hvalid : h.validateStructurePayload payload with
  | error f => exact Or.inl ⟨f, by simp only [Gateway.executeBase, hvalid]⟩
  | ok =>
    refine Or.inr ?_
    simp only [Gateway.executeBase, hvalid]
    rcases hh with rfl | rfl <;> rfl

/-- and `qossing` starts to query its targets. -/
theorem getReceivers_upload (cfg : GatewayConfig) (g : Gateway) {h : WsEventJSON}
    (hh : h = UploadAudioStartEvent ∨ h = UploadAudioEndEvent) (c : ClientRef) (r : SessionRef)
    (payload : Option JsVal) (modified : JsObj) :
    g.getReceivers cfg ⟨c, r, h, payload⟩ modified = g.finish c [] (.ok ()) ∨
      ∃ receivers : List SessionRef, receivers.Nodup ∧
        g.getReceivers cfg ⟨c, r, h, payload⟩ modified =
          (g, .done (.ok ()), [.targets ⟨h, r, receivers, modified, none⟩]) := by
  cases hprincipal : g.conn.principal r with
  | none =>
    refine Or.inl ?_
    rcases hh with rfl | rfl <;>
      simp only [Gateway.getReceivers, UploadAudioStartEvent, UploadAudioEndEvent, hprincipal]
  | some principal =>
    refine Or.inr ⟨_, nodup_getDevicesByTenant g.conn principal.clientId g.conn.isActive, ?_⟩
    rcases hh with rfl | rfl <;>
      simp only [Gateway.getReceivers, UploadAudioStartEvent, UploadAudioEndEvent, hprincipal] <;>
      rfl

/-- The start or the end of an upload is refused, or it waits for its targets. -/
theorem execute_upload (cfg : GatewayConfig) (g : Gateway) {h : WsEventJSON}
    (hh : h = UploadAudioStartEvent ∨ h = UploadAudioEndEvent) (c : ClientRef) (r : SessionRef)
    (payload : Option JsVal) (session : WsSession) :
    (∃ result, g.execute cfg ⟨c, r, h, payload⟩ session = g.finish c [] result) ∨
      session.type = .browser ∧ ∃ receivers : List SessionRef, receivers.Nodup ∧
        g.execute cfg ⟨c, r, h, payload⟩ session =
          (g, .done (.ok ()), [.targets ⟨h, r, receivers, dataPayload payload, none⟩]) := by
  have htype : h.type = some .browser := by rcases hh with rfl | rfl <;> rfl
  unfold Gateway.execute
  split
  · exact Or.inl ⟨_, rfl⟩
  · rename_i hvalid
    have hbrowser : session.type = .browser := by
      by_contra hne
      simp [Gateway.validateAccess, htype, hne] at hvalid
    rcases executeBase_upload cfg g hh c r payload session.principal with
      ⟨f, heq⟩ | heq
    · exact Or.inl ⟨_, heq⟩
    rcases getReceivers_upload cfg g hh c r payload (dataPayload payload) with
      heq' | ⟨receivers, hnodup, heq'⟩
    · exact Or.inl ⟨_, heq.trans heq'⟩
    · exact Or.inr ⟨hbrowser, receivers, hnodup, heq.trans heq'⟩

theorem upload_or_plain {h : WsEventJSON} (hh : h ∈ WS_EVENT_JSON_CLASSES) :
    (h = UploadAudioStartEvent ∨ h = UploadAudioEndEvent) ∨ h.Plain := by
  simp only [WS_EVENT_JSON_CLASSES, List.mem_cons, List.not_mem_nil, or_false] at hh
  rcases hh with rfl | rfl | rfl | rfl | rfl | rfl | rfl | rfl | rfl | rfl | rfl | rfl
  all_goals first
    | exact Or.inl (Or.inl rfl)
    | exact Or.inl (Or.inr rfl)
    | exact Or.inr ⟨by decide, by decide⟩

theorem messageItem_some (v : JsVal) {label : String} (hlabel : v.strField "event" = some label) :
    messageItem (some v) = uploadItem label (v.field "data") := by
  simp [messageItem, hlabel]

/-- A JSON message that says nothing of an upload starts no computation of one; and one that does
    is refused, or waits for its targets. -/
theorem onMessage_uploads (cfg : GatewayConfig) (g : Gateway) (c : ClientRef) (r : SessionRef)
    (session : WsSession) (parsed : Option JsVal) :
    PlainStretch (g.onMessage cfg c r session parsed) ∧
        (∀ d, messageItem parsed ≠ none →
          g.Forwards (g.onMessage cfg c r session parsed).1 r d []) ∨
      session.type = .browser ∧ ∃ t item, messageItem parsed = some item ∧ t.UploadOf r item ∧
        g.onMessage cfg c r session parsed = (g, .done (.ok ()), [t]) := by
  have hfinish : ∀ result, PlainStretch (g.finish c [] result) ∧ (∀ d, messageItem parsed ≠ none →
      g.Forwards (g.finish c [] result).1 r d []) := fun result =>
    ⟨finish_plain_nil _ _, fun d _ => .finish g c [] result⟩
  unfold Gateway.onMessage
  split
  · exact Or.inl (hfinish _)
  · exact Or.inl (hfinish _)
  · rename_i v _
    split
    · exact Or.inl (hfinish _)
    · rename_i label hlabel
      split
      · exact Or.inl (hfinish _)
      · rename_i handler hfind
        have hmem := List.mem_of_find?_eq_some hfind
        have heq : handler.labelEvent = label := by simpa using List.find?_some hfind
        rcases upload_or_plain hmem with hh | hplain
        · rcases execute_upload cfg g hh c r (v.field "data") session with
            ⟨result, hexecute⟩ | ⟨hbrowser, receivers, hnodup, hexecute⟩
          · rw [hexecute]
            exact Or.inl (hfinish result)
          · obtain ⟨item, hitem⟩ : ∃ item, uploadItem handler.labelEvent (v.field "data") =
                some item := by
              rcases hh with rfl | rfl <;> exact ⟨_, rfl⟩
            refine Or.inr ⟨hbrowser, _, item, ?_, .event hh hitem hnodup, hexecute⟩
            rw [messageItem_some v hlabel, ← heq, hitem]
        · refine Or.inl ⟨?_, fun d hne => absurd ?_ hne⟩
          · unfold Gateway.execute
            split
            · exact finish_plain_nil _ _
            · exact executeBase_plain hplain _
          · rw [messageItem_some v hlabel, ← heq, hplain.uploadItem]

/-! ### Chunks -/

theorem afterBinaryEvents_plain (m : BinaryMessage) (events : List Events) :
    PlainStretch (g.afterBinaryEvents m events) := by
  unfold Gateway.afterBinaryEvents
  split
  · exact finish_plain_nil _ _
  · dsimp only
    split
    · exact finish_plain_nil _ _
    · exact finish_plain_nil _ _
    · split <;> exact finish_plain_nil _ _

/-- A chunk is forwarded once its events are known. -/
theorem afterBinaryEvents_forwards (c : ClientRef) (bytes : List UInt8) (events : List Events) :
    g.Forwards (g.afterBinaryEvents ⟨c, s, UploadAudioEvent, bytes⟩ events).1 s d
      [.chunk bytes] := by
  have hfinish : ∀ result, g.Forwards (g.finish c [] result).1 s d [.chunk bytes] :=
    fun result => (Gateway.Forwards.finish g c [] result).mono _
  unfold Gateway.afterBinaryEvents
  split
  · exact hfinish _
  · rename_i session _
    dsimp only
    split
    · exact hfinish _
    · exact hfinish _
    · rename_i allowed _ _
      have hnodup : (g.conn.filterReceivers ⟨getHelper UploadAudioEvent.receiverType, allowed⟩
          (g.conn.getActiveScoketsByType s session.principal
            UploadAudioEvent.receiverType)).Nodup :=
        (nodup_getDevicesByTenant g.conn session.principal.clientId g.conn.isActive).filter _
      show g.Forwards ((g.log _).finish c [] _).1 s d ([.chunk bytes] ++ [])
      exact (Gateway.Forwards.sendAll g _ hnodup rfl).trans (.finish _ c [] _)

/-- A binary message starts no computation of an upload, unless it is a chunk that waits for its
    events.  What it forwards at once of a browser, it forwards with events from the cache. -/
theorem onBinary_uploads (cfg : GatewayConfig) (g : Gateway) (c : ClientRef) (r : SessionRef)
    (session : WsSession) (bytes : List UInt8) :
    PlainStretch (g.onBinary cfg c r session bytes) ∧ (session.type = .browser →
        (∀ d, g.Forwards (g.onBinary cfg c r session bytes).1 r d []) ∨
          (g.cachedEvents cfg UploadAudioEvent.labelEvent).isSome = true ∧
            ∀ d, g.Forwards (g.onBinary cfg c r session bytes).1 r d [.chunk bytes]) ∨
      session.type = .browser ∧ ∃ t, t.UploadOf r (.chunk bytes) ∧
        g.onBinary cfg c r session bytes = (g, t, []) := by
  have hfinish : ∀ result, PlainStretch (g.finish c [] result) ∧ (session.type = .browser →
      (∀ d, g.Forwards (g.finish c [] result).1 r d []) ∨
        (g.cachedEvents cfg UploadAudioEvent.labelEvent).isSome = true ∧
          ∀ d, g.Forwards (g.finish c [] result).1 r d [.chunk bytes]) := fun result =>
    ⟨finish_plain_nil _ _, fun _ => Or.inl fun d => .finish g c [] result⟩
  unfold Gateway.onBinary
  dsimp only
  split
  · exact Or.inl (hfinish _)
  · split
    · exact Or.inl (hfinish _)
    · rename_i handler hfind
      have hmem := List.mem_of_find?_eq_some hfind
      simp only [WS_EVENT_BINNER_CLASSES, List.mem_cons, List.not_mem_nil, or_false] at hmem
      unfold Gateway.executeBinary
      split
      · exact Or.inl (hfinish _)
      · rename_i hvalid
        have htype : session.type = handler.type := by
          by_contra hne
          simp [Gateway.validateAccess, hne] at hvalid
        split_ifs
        · exact Or.inl (hfinish _)
        · rcases hmem with rfl | rfl
          · have hdevice : session.type ≠ .browser := by rw [htype]; decide
            split
            · exact Or.inl ⟨afterBinaryEvents_plain _ _, fun h => absurd h hdevice⟩
            · have hplain : StreamImageEvent.labelEvent ≠ UploadAudioEvent.labelEvent := by decide
              exact Or.inl ⟨List.forall_mem_cons.2 ⟨hplain, List.forall_mem_nil _⟩,
                fun h => absurd h hdevice⟩
          · split
            · rename_i events hevents
              refine Or.inl ⟨afterBinaryEvents_plain _ _, fun _ => Or.inr ⟨?_, fun d => ?_⟩⟩
              · exact Option.isSome_iff_exists.2 ⟨events, hevents⟩
              · exact afterBinaryEvents_forwards c bytes events
            · exact Or.inr ⟨htype, _, .chunk, rfl⟩

/-! ### Steps -/

/-- The browser on a socket whose messages reach its session. -/
theorem browserOn_eq {c : ClientRef} {client : WsClient} {r : SessionRef} {session : WsSession}
    (hclient : g.conn.clients[c]? = some client) (hr : client.session = some r)
    (hs : g.conn.heap[r]? = some session) (hsocket : session.socket = some c) :
    g.browserOn c = if session.type = .browser then some r else none := by
  simp [Gateway.browserOn, hclient, hr, hs, hsocket, Option.filter]

theorem browserOn_eq_none {c : ClientRef} {client : WsClient}
    (hclient : g.conn.clients[c]? = some client)
    (h : client.session.filter (fun r => g.conn.socket r = some c) = none) :
    g.browserOn c = none := by
  cases hr : client.session with
  | none => simp [Gateway.browserOn, hclient, hr]
  | some r =>
    cases hs : g.conn.heap[r]? with
    | none => simp [Gateway.browserOn, hclient, hr, hs, Option.filter]
    | some session =>
      have hsocket : session.socket ≠ some c := by
        simpa [hr, Option.filter, Connections.socket, hs] using h
      simp [Gateway.browserOn, hclient, hr, hs, hsocket, Option.filter]

/-- A message that comes in is ignored, or handled for the browser on its socket. -/
theorem receive_browserOn {c : ClientRef} {handle : SessionRef → WsSession → Stretch}
    {new : List Task} (h : g.receive c handle = some (g', new)) :
    g.browserOn c = none ∧ new = [] ∨ ∃ r session,
      g.browserOn c = (if session.type = .browser then some r else none) ∧
        g' = (handle r session).1 ∧ new = (handle r session).2.1 :: (handle r session).2.2 := by
  obtain ⟨client, hclient, -, -, ⟨-, rfl, hnot⟩ | ⟨r, session, hr, hs, hsocket, rfl, rfl⟩⟩ :=
    receive_cases h
  · exact Or.inl ⟨browserOn_eq_none hclient hnot, rfl⟩
  · exact Or.inr ⟨r, session, browserOn_eq hclient hr hs hsocket, rfl, rfl⟩

/-- What a JSON message does about uploads. -/
theorem message_uploads {c : ClientRef} {parsed : Option JsVal} {new : List Task}
    (h : g.onEvent cfg (.message c parsed) = some (g', new)) :
    g.uploading (.message c parsed) = none ∧ (∀ t ∈ new, t.Plain) ∨
      ∃ s item, g.uploading (.message c parsed) = some (s, item) ∧
        g.Takes cfg g' s item (.message c parsed) new := by
  obtain ⟨hnone, rfl⟩ | ⟨r, session, hbrowserOn, rfl, rfl⟩ := receive_browserOn h
  · exact Or.inl ⟨by simp [Gateway.uploading, hnone], List.forall_mem_nil _⟩
  · rcases onMessage_uploads cfg g c r session parsed with
      ⟨hplain, hforwards⟩ | ⟨hbrowser, t, item, hitem, ht, heq⟩
    · cases hitem : messageItem parsed with
      | none => exact Or.inl ⟨by simp [Gateway.uploading, hitem], hplain⟩
      | some item =>
        by_cases hbrowser : session.type = .browser
        · refine Or.inr ⟨r, item, by simp [Gateway.uploading, hbrowserOn, hbrowser, hitem], ?_⟩
          exact .refused (List.cons_ne_nil _ _) hplain fun d => hforwards d (by simp [hitem])
        · exact Or.inl ⟨by simp [Gateway.uploading, hbrowserOn, hbrowser], hplain⟩
    · refine Or.inr ⟨r, item, by simp [Gateway.uploading, hbrowserOn, hbrowser, hitem], ?_⟩
      rw [heq]
      have hdone : ∀ u ∈ [Task.done (.ok ())], u.Plain :=
        List.forall_mem_cons.2 ⟨trivial, List.forall_mem_nil _⟩
      exact .waits hdone ht fun d => .of_trace_eq rfl

/-- What a binary message does about uploads. -/
theorem binary_uploads {c : ClientRef} {bytes : List UInt8} {new : List Task}
    (h : g.onEvent cfg (.binary c bytes) = some (g', new)) :
    g.uploading (.binary c bytes) = none ∧ (∀ t ∈ new, t.Plain) ∨
      ∃ s item, g.uploading (.binary c bytes) = some (s, item) ∧
        g.Takes cfg g' s item (.binary c bytes) new := by
  obtain ⟨hnone, rfl⟩ | ⟨r, session, hbrowserOn, rfl, rfl⟩ := receive_browserOn h
  · exact Or.inl ⟨by simp [Gateway.uploading, hnone], List.forall_mem_nil _⟩
  · rcases onBinary_uploads cfg g c r session bytes with
      ⟨hplain, hforwards⟩ | ⟨hbrowser, t, ht, heq⟩
    · by_cases hbrowser : session.type = .browser
      · rw [if_pos hbrowser] at hbrowserOn
        refine Or.inr ⟨r, .chunk bytes, by simp [Gateway.uploading, hbrowserOn], ?_⟩
        rcases hforwards hbrowser with hnone | ⟨hcached, hsome⟩
        · exact .refused (List.cons_ne_nil _ _) hplain hnone
        · exact .served (List.cons_ne_nil _ _) hplain hcached hbrowserOn hsome
      · exact Or.inl ⟨by simp [Gateway.uploading, hbrowserOn, hbrowser], hplain⟩
    · refine Or.inr ⟨r, .chunk bytes, by simp [Gateway.uploading, hbrowserOn, hbrowser], ?_⟩
      rw [heq]
      have hnone : ∀ u ∈ ([] : List Task), u.Plain := List.forall_mem_nil _
      exact .waits hnone ht fun d => .of_trace_eq rfl

/-- What an event does about uploads: only messages are about them. -/
theorem onEvent_uploads {e : GatewayEvent} {new : List Task}
    (h : g.onEvent cfg e = some (g', new)) :
    g.uploading e = none ∧ (∀ t ∈ new, t.Plain) ∨
      ∃ s item, g.uploading e = some (s, item) ∧ g.Takes cfg g' s item e new := by
  cases e with
  | message c parsed => exact message_uploads h
  | binary c bytes => exact binary_uploads h
  | connect =>
    cases h
    exact Or.inl ⟨rfl, List.forall_mem_cons.2 ⟨trivial, List.forall_mem_nil _⟩⟩
  | cleanup | heartbeat | retry jitter =>
    cases h
    exact Or.inl ⟨rfl, List.forall_mem_nil _⟩
  | tick now | closing c =>
    simp only [Gateway.onEvent] at h
    split_ifs at h
    cases h
    exact Or.inl ⟨rfl, List.forall_mem_nil _⟩
  | pong c | close c | suspendTimer i | expiryTimer eventId =>
    simp only [Gateway.onEvent] at h
    split at h
    · cases h
    · split_ifs at h
      cases h
      exact Or.inl ⟨rfl, List.forall_mem_nil _⟩

theorem PlainStretch.of_eq {st : Stretch} {t' : Task} {new : List Task} (hst : PlainStretch st)
    (h : some st = some (g', t', new)) : t'.Plain ∧ ∀ t ∈ new, t.Plain := by
  cases h
  exact List.forall_mem_cons.1 hst

/-- The answer to anything else starts no upload. -/
theorem onAnswer_plain {t t' : Task} {a : GatewayAnswer} {new : List Task} (ht : t.Plain)
    (h : g.onAnswer cfg t a = some (g', t', new)) : t'.Plain ∧ ∀ t ∈ new, t.Plain := by
  have hdone : ∀ {g₁ : Gateway} {t₁ : Task}, some (g₁, t₁, []) = some (g', t', new) → t₁.Plain →
      t'.Plain ∧ ∀ t ∈ new, t.Plain := fun h ht₁ =>
    PlainStretch.of_eq (List.forall_mem_cons.2 ⟨ht₁, List.forall_mem_nil _⟩) h
  unfold Gateway.onAnswer at h
  split at h
  · exact hdone h trivial
  · exact hdone h trivial
  · refine PlainStretch.of_eq ?_ h
    unfold Gateway.connected
    dsimp only
    split_ifs <;> exact List.forall_mem_cons.2 ⟨trivial, List.forall_mem_nil _⟩
  · exact hdone h trivial
  · exact hdone h trivial
  · exact (afterApi_plain ht _ _).of_eq h
  · exact (afterEvents_plain ht _ _).of_eq h
  · exact (finish_plain_nil _ _).of_eq h
  · exact hdone h trivial
  · exact hdone h trivial
  · exact (afterBinaryEvents_plain _ _).of_eq h
  · exact (finish_plain_nil _ _).of_eq h
  · cases h

/-- The answer to a computation of an upload ends it: with the query of its targets or of its
    events, the item is forwarded. -/
theorem onAnswer_upload {t t' : Task} {a : GatewayAnswer} {new : List Task}
    (ht : t.UploadOf s item) (h : g.onAnswer cfg t a = some (g', t', new)) :
    (t'.Plain ∧ ∀ t ∈ new, t.Plain) ∧ ((∀ d, g.Forwards g' s d []) ∨
      ((∃ ids, a = .targets (.ok ids)) ∨ ∃ events, a = .events (.ok events)) ∧
        ∀ d, g.Forwards g' s d [item]) := by
  cases ht with
  | event hh hitem hnodup =>
    cases a with
    | targets answer =>
      cases answer with
      | ok ids =>
        cases h
        exact ⟨⟨trivial, List.forall_mem_nil _⟩, Or.inr ⟨Or.inl ⟨ids, rfl⟩, fun d =>
          finishQossing_forwards (.event hh hitem hnodup)⟩⟩
      | error f =>
        cases h
        exact ⟨⟨trivial, List.forall_mem_nil _⟩, Or.inl fun d => .of_trace_eq rfl⟩
    | _ => cases h
  | @chunk c bytes lastUpdate =>
    cases a with
    | events answer =>
      cases answer with
      | ok events =>
        refine ⟨(afterBinaryEvents_plain _ _).of_eq h, Or.inr ⟨Or.inr ⟨events, rfl⟩, fun d => ?_⟩⟩
        have hload : g.Forwards
            (g.loadEvents UploadAudioEvent.labelEvent events lastUpdate) s d [] := .of_trace_eq rfl
        have hg' : ((g.loadEvents UploadAudioEvent.labelEvent events lastUpdate).afterBinaryEvents
            ⟨c, s, UploadAudioEvent, bytes⟩ events).1 = g' :=
          congrArg Prod.fst (Option.some.inj h)
        rw [← hg']
        exact hload.trans (afterBinaryEvents_forwards c bytes events)
      | error f =>
        refine ⟨(finish_plain_nil _ _).of_eq h, Or.inl fun d => ?_⟩
        have hg' : (g.finish c [] (.error f)).1 = g' := congrArg Prod.fst (Option.some.inj h)
        rw [← hg']
        exact .finish g c [] _
    | _ => cases h

/-! ## Turns of a run -/

section
variable {threads new : List Task} {p p' : Pool Gateway Task} {a : Act GatewayEvent GatewayAnswer}
  {issued done : List (ℕ × UploadItem)} {items : List UploadItem}

theorem waitingUploads_append (hnew : ∀ t ∈ new, t.Plain) :
    waitingUploads (threads ++ new) s ⊆ waitingUploads threads s := by
  rintro x ⟨t, ht, hx⟩
  rw [List.getElem?_append] at ht
  split_ifs at ht
  · exact ⟨t, ht, hx⟩
  · rw [(hnew t (List.mem_of_getElem? ht)).uploading] at hx
    cases hx

theorem waitingUploads_concat {t : Task} (ht : t.UploadOf s item) :
    waitingUploads (threads ++ [t]) s ⊆
      insert (threads.length, item) (waitingUploads threads s) := by
  rintro ⟨i, item'⟩ ⟨t', ht', hx⟩
  rw [List.getElem?_append] at ht'
  split_ifs at ht' with hi
  · exact Or.inr ⟨t', ht', hx⟩
  · rw [List.getElem?_singleton] at ht'
    split_ifs at ht'
    cases ht'
    rw [ht.uploading] at hx
    cases hx
    exact Or.inl (Prod.ext (by omega) rfl)

/-- A computation that has ended waits no longer. -/
theorem waitingUploads_set {t' : Task} (ht' : t'.Plain) (hnew : ∀ t ∈ new, t.Plain) (i : ℕ) :
    waitingUploads (threads.set i t' ++ new) s ⊆ {x ∈ waitingUploads threads s | x.1 ≠ i} := by
  refine (waitingUploads_append hnew).trans ?_
  rintro x ⟨t, ht, hx⟩
  rw [List.getElem?_set] at ht
  split_ifs at ht with hi hlen
  · cases ht
    rw [ht'.uploading] at hx
    cases hx
  · exact ⟨⟨t, ht, hx⟩, fun h => hi h.symm⟩

/-- The items of a session wait as they did, if another one takes its turn. -/
theorem waitingUploads_concat_of_ne {s' : SessionRef} {t : Task} (ht : t.UploadOf s' item)
    (hs : s' ≠ s) : waitingUploads (threads ++ [t]) s ⊆ waitingUploads threads s := by
  rintro x ⟨t', ht', hx⟩
  rw [List.getElem?_append] at ht'
  split_ifs at ht'
  · exact ⟨t', ht', hx⟩
  · obtain rfl : t' = t := List.mem_singleton.1 (List.mem_of_getElem? ht')
    rw [ht.uploading] at hx
    cases hx
    exact absurd rfl hs

theorem uploadForwarded_sublist (h : p.shared.Forwards p'.shared s d items) :
    (uploadForwarded s d p a p').Sublist (items.map (p'.number a, ·)) := by
  obtain ⟨effects, htrace, hsub⟩ := h
  unfold uploadForwarded
  rw [htrace, List.drop_left]
  split_ifs
  · exact hsub.map _
  · exact List.nil_sublist _

theorem uploadForwarded_of_none (h : p.uploading a = none) : uploadForwarded s d p a p' = [] := by
  simp [uploadForwarded, h]

theorem uploadForwarded_of_ne {s' : SessionRef} (h : p.uploading a = some (s', item))
    (hs : s' ≠ s) : uploadForwarded s d p a p' = [] := by
  simp [uploadForwarded, h, hs]

/-- A message of an upload takes its turn. -/
theorem Gateway.Takes.inTurn {e : GatewayEvent} (hp' : p'.threads = p.threads ++ new)
    (htakes : p.shared.Takes cfg p'.shared s item e new)
    (hturn : InTurn issued done (waitingUploads p.threads s) p.threads.length)
    (hok : UploadsInTurn cfg p (.event e)) :
    InTurn (issued ++ [(p'.number (.event e), item)]) (done ++ uploadForwarded s d p (.event e) p')
      (waitingUploads p'.threads s) p'.threads.length := by
  have hnew : new ≠ [] := by
    cases htakes with
    | waits => simp
    | refused hne | served hne => exact hne
  have hlen : p'.threads.length = p.threads.length + new.length := by rw [hp', List.length_append]
  have hpos := List.length_pos_iff.2 hnew
  have hissued : InTurn (issued ++ [(p'.number (.event e), item)]) done
      (insert (p'.number (.event e), item) (waitingUploads p.threads s)) p'.threads.length :=
    hturn.issue (by simp only [Pool.number]; omega) (by simp only [Pool.number]; omega)
  have hquiet : p.shared.Forwards p'.shared s d [] →
      waitingUploads p'.threads s ⊆
        insert (p'.number (.event e), item) (waitingUploads p.threads s) →
      InTurn (issued ++ [(p'.number (.event e), item)])
        (done ++ uploadForwarded s d p (.event e) p') (waitingUploads p'.threads s)
        p'.threads.length := fun hforwards hsub => by
    rw [List.sublist_nil.1 (uploadForwarded_sublist hforwards), List.append_nil]
    exact hissued.mono hsub le_rfl
  have hplain : (∀ t ∈ new, t.Plain) → waitingUploads p'.threads s ⊆
      waitingUploads p.threads s := fun h => by
    rw [hp']
    exact waitingUploads_append h
  cases htakes with
  | refused _ htasks hforwards =>
    exact hquiet (hforwards d) ((hplain htasks).trans (Set.subset_insert _ _))
  | @waits _ tasks t htasks ht hforwards =>
    refine hquiet (hforwards d) ?_
    have hnumber : p'.number (.event e) = (p.threads ++ tasks).length := by
      simp only [Pool.number, hp', List.length_append, List.length_singleton]
      omega
    rw [hnumber, hp', ← List.append_assoc]
    exact (waitingUploads_concat ht).trans (Set.insert_subset_insert (waitingUploads_append htasks))
  | @served c bytes _ _ htasks hcached hbrowser hforwards =>
    have hsub : (uploadForwarded s d p (.event (.binary c bytes)) p').Sublist
        [(p'.number (.event (.binary c bytes)), item)] := uploadForwarded_sublist (hforwards d)
    rcases List.sublist_singleton.1 hsub with hnil | hone
    · rw [hnil, List.append_nil]
      exact hissued.mono ((hplain htasks).trans (Set.subset_insert _ _)) le_rfl
    · rw [hone]
      refine hissued.finish (Set.mem_insert _ _) ((hplain htasks).trans (Set.subset_insert _ _))
        fun y hy => ?_
      -- nothing of the session waits
      obtain ⟨t, ht, hy⟩ := hplain htasks hy
      have hforwards : p.forwards cfg (.event (.binary c bytes)) = some s :=
        (if_pos hcached).trans hbrowser
      exact absurd (by rw [hy]; rfl) (hok s hforwards t (List.mem_of_getElem? ht))

/-- The answer to a computation of an upload takes its turn. -/
theorem UploadsInTurn.resume {i : ℕ} {answer : GatewayAnswer} {t t' : Task}
    (hok : UploadsInTurn cfg p (.resume i answer)) (ht : p.threads[i]? = some t)
    (hup : t.UploadOf s item)
    (hanswer : p.shared.onAnswer cfg t answer = some (p'.shared, t', new))
    (hp' : p'.threads = p.threads.set i t' ++ new)
    (hturn : InTurn issued done (waitingUploads p.threads s) p.threads.length) :
    InTurn issued (done ++ uploadForwarded s d p (.resume i answer) p')
      (waitingUploads p'.threads s) p'.threads.length := by
  obtain ⟨⟨ht', hnew⟩, hforwards⟩ := onAnswer_upload hup hanswer
  have hrest : waitingUploads p'.threads s ⊆ {x ∈ waitingUploads p.threads s | x.1 ≠ i} := by
    rw [hp']
    exact waitingUploads_set ht' hnew i
  have hkept : InTurn issued done (waitingUploads p.threads s) p'.threads.length :=
    hturn.mono le_rfl (by simp [hp'])
  have hsub := hrest.trans (Set.sep_subset _ _)
  have hnone : uploadForwarded s d p (.resume i answer) p' = [] →
      InTurn issued (done ++ uploadForwarded s d p (.resume i answer) p')
        (waitingUploads p'.threads s) p'.threads.length := fun h => by
    rw [h, List.append_nil]
    exact hkept.mono hsub le_rfl
  rcases hforwards with hquiet | ⟨hanswered, hone⟩
  · exact hnone (List.sublist_nil.1 (uploadForwarded_sublist (hquiet d)))
  · have hforwarded : (uploadForwarded s d p (.resume i answer) p').Sublist [(i, item)] :=
      uploadForwarded_sublist (hone d)
    rcases List.sublist_singleton.1 hforwarded with hnil | hitem
    · exact hnone hnil
    · rw [hitem]
      refine hkept.finish ⟨t, ht, hup.uploading⟩ hsub fun y hy => ?_
      -- whatever still waits was started later
      obtain ⟨⟨u, hu, hy⟩, hne⟩ := hrest hy
      have hforwards : p.forwards cfg (.resume i answer) = some s := by
        rcases hanswered with ⟨ids, rfl⟩ | ⟨events, rfl⟩ <;>
          simp [Pool.forwards, ht, hup.uploading]
      by_contra hlt
      have hearlier : u ∈ p.threads.take i := by
        refine List.mem_of_getElem? (i := y.1) ?_
        rw [List.getElem?_take, if_pos (lt_of_le_of_ne (not_lt.1 hlt) hne)]
        exact hu
      exact hok s hforwards u hearlier (by rw [hy]; rfl)

/-- A message takes the items of uploads in turn, whoever sends it. -/
theorem uploads_event {e : GatewayEvent}
    (hturn : InTurn issued done (waitingUploads p.threads s) p.threads.length)
    (hok : UploadsInTurn cfg p (.event e))
    (he : p.shared.onEvent cfg e = some (p'.shared, new)) (hp' : p'.threads = p.threads ++ new) :
    InTurn (issued ++ uploadSent s p (.event e) p') (done ++ uploadForwarded s d p (.event e) p')
      (waitingUploads p'.threads s) p'.threads.length := by
  have hlen : p.threads.length ≤ p'.threads.length := by simp [hp']
  rcases onEvent_uploads he with ⟨hnone, hplain⟩ | ⟨s', item, hsome, htakes⟩
  · have hsent : uploadSent s p (.event e) p' = [] := by simp [uploadSent, hnone]
    rw [uploadForwarded_of_none (a := .event e) hnone, hsent, List.append_nil, List.append_nil, hp']
    exact hturn.mono (waitingUploads_append hplain) (hp' ▸ hlen)
  · by_cases hs : s' = s
    · subst hs
      have hsent : uploadSent s' p (.event e) p' = [(p'.number (.event e), item)] := by
        simp [uploadSent, hsome, Option.filter]
      rw [hsent]
      exact htakes.inTurn hp' hturn hok
    · have hsent : uploadSent s p (.event e) p' = [] := by
        simp [uploadSent, hsome, Option.filter, hs]
      rw [uploadForwarded_of_ne (a := .event e) hsome hs, hsent, List.append_nil, List.append_nil]
      refine hturn.mono ?_ hlen
      rw [hp']
      cases htakes with
      | refused _ hplain => exact waitingUploads_append hplain
      | served _ hplain => exact waitingUploads_append hplain
      | waits hplain ht =>
        rw [← List.append_assoc]
        exact (waitingUploads_concat_of_ne ht hs).trans (waitingUploads_append hplain)

/-- So does an answer. -/
theorem uploads_resume {i : ℕ} {answer : GatewayAnswer} {t t' : Task}
    (hturn : InTurn issued done (waitingUploads p.threads s) p.threads.length)
    (hok : UploadsInTurn cfg p (.resume i answer)) (ht : p.threads[i]? = some t)
    (hknown : t.Known) (hanswer : p.shared.onAnswer cfg t answer = some (p'.shared, t', new))
    (hp' : p'.threads = p.threads.set i t' ++ new) :
    InTurn issued (done ++ uploadForwarded s d p (.resume i answer) p')
      (waitingUploads p'.threads s) p'.threads.length := by
  have hother : t'.Plain ∧ (∀ t ∈ new, t.Plain) →
      uploadForwarded s d p (.resume i answer) p' = [] →
      InTurn issued (done ++ uploadForwarded s d p (.resume i answer) p')
        (waitingUploads p'.threads s) p'.threads.length := by
    rintro ⟨ht', hnew⟩ hnone
    rw [hnone, List.append_nil, hp']
    exact hturn.mono ((waitingUploads_set ht' hnew i).trans (Set.sep_subset _ _)) (by simp)
  rcases hknown with hplain | ⟨s', item, hup⟩
  · refine hother (onAnswer_plain hplain hanswer) (uploadForwarded_of_none ?_)
    simp [Pool.uploading, ht, hplain.uploading]
  · by_cases hs : s' = s
    · subst hs
      exact hok.resume ht hup hanswer hp' hturn
    · have huploading : p.uploading (.resume i answer) = some (s', item) := by
        simp [Pool.uploading, ht, hup.uploading]
      exact hother (onAnswer_upload hup hanswer).1 (uploadForwarded_of_ne huploading hs)

/-- A step takes the items of uploads in turn. -/
theorem uploads_step (hknown : ∀ t ∈ p.threads, t.Known)
    (hturn : InTurn issued done (waitingUploads p.threads s) p.threads.length)
    (hok : UploadsInTurn cfg p a) (hst : (gatewayProgram cfg).step p a = some p') :
    InTurn (issued ++ uploadSent s p a p') (done ++ uploadForwarded s d p a p')
      (waitingUploads p'.threads s) p'.threads.length := by
  obtain ⟨e, g', new, rfl, he, rfl⟩ | ⟨i, answer, t, g', t', new, rfl, ht, hanswer, rfl⟩ :=
    Program.step_cases hst
  · exact uploads_event hturn hok he rfl
  · have hsent : uploadSent s p (.resume i answer) ⟨g', p.threads.set i t' ++ new⟩ = [] := rfl
    rw [hsent, List.append_nil]
    exact uploads_resume hturn hok ht (hknown t (List.mem_of_getElem? ht)) hanswer rfl

/-- The computations of a run are those of uploads, and plain ones. -/
theorem known_step (hknown : ∀ t ∈ p.threads, t.Known)
    (hst : (gatewayProgram cfg).step p a = some p') : ∀ t ∈ p'.threads, t.Known := by
  refine (Program.step_inv (G := fun _ => True) (L := fun _ t => t.Known)
    (fun g e g' new _ he => ⟨trivial, fun _ ht => ht, ?_⟩)
    (fun g t answer g' t' new _ ht hanswer => ?_) ⟨trivial, hknown⟩ hst).2
  · rcases onEvent_uploads he with ⟨-, hplain⟩ | ⟨s, item, -, htakes⟩
    · exact fun t ht => Or.inl (hplain t ht)
    · cases htakes with
      | refused _ hplain => exact fun t ht => Or.inl (hplain t ht)
      | served _ hplain => exact fun t ht => Or.inl (hplain t ht)
      | waits hplain hup =>
        refine List.forall_mem_append.2 ⟨fun t ht => Or.inl (hplain t ht), fun t ht => ?_⟩
        rw [List.mem_singleton] at ht
        exact ht ▸ Or.inr ⟨s, item, hup⟩
  · have hplain : t'.Plain ∧ ∀ t ∈ new, t.Plain := by
      rcases ht with ht | ⟨s, item, hup⟩
      · exact onAnswer_plain ht hanswer
      · exact (onAnswer_upload hup hanswer).1
    exact ⟨trivial, fun _ ht => ht, Or.inl hplain.1, fun t ht => Or.inl (hplain.2 t ht)⟩

end

/-- **Uploads in turn.**  In every run in which no stretch forwards an item of an upload while an
    earlier message of the same session waits for a query, what a session is sent of the uploads of
    a browser is in the order in which the browser has sent it. -/
theorem uploads_inOrder {t₀ : ℤ} {acts : List (Act GatewayEvent GatewayAnswer)}
    {p : Pool Gateway Task}
    (h : Run (gatewayProgram cfg).step (UploadsInTurn cfg) (Gateway.start t₀) acts p) :
    UploadsInOrder cfg t₀ acts := by
  intro s d
  suffices hinv : (∀ t ∈ p.threads, t.Known) ∧
      InTurn (observed (gatewayProgram cfg).step (uploadSent s) (Gateway.start t₀) acts)
        (observed (gatewayProgram cfg).step (uploadForwarded s d) (Gateway.start t₀) acts)
        (waitingUploads p.threads s) p.threads.length from hinv.2.sublist
  induction h with
  | nil =>
    refine ⟨List.forall_mem_nil _, (InTurn.start 0).mono ?_ le_rfl⟩
    rintro x ⟨t, ht, -⟩
    cases ht
  | snoc hrun hok hst ih =>
    rw [hrun.observed_concat _ hst, hrun.observed_concat _ hst]
    exact ⟨known_step ih.1 hst, uploads_step ih.1 ih.2 hok hst⟩

end

/-! ## An upload of two chunks -/

instance (p : Pool Gateway Task) (a : Act GatewayEvent GatewayAnswer) :
    Decidable (UploadsInTurn cfg p a) :=
  inferInstanceAs (Decidable
    (∀ s ∈ p.forwards cfg a, ∀ t ∈ p.earlier a, t.uploading.map Prod.fst ≠ some s))

/-- A browser of the product that plays audio. -/
def announcer : Authenticated where
  id_enduser := 11
  auth := .browser { adminUser with role_product := "bell" }
  product := none
  type := .browser
  issued := rfl

/-- The description of the file. -/
def bellFile : JsVal :=
  .obj [text "filename" "bell.mp3", ("size", .num 2), text "type" "audio/mpeg",
    ("totalChunks", .num 2)]

def uploadStarts : Act GatewayEvent GatewayAnswer :=
  .event (.message 1 (some (.obj [text "event" "upload-audio-start", ("data", bellFile)])))

def uploadChunk (b : UInt8) : Act GatewayEvent GatewayAnswer := .event (.binary 1 [b])

def uploadStops : Act GatewayEvent GatewayAnswer :=
  .event (.message 1 (some (.obj [text "event" "upload-audio-end"])))

/-- The events of the product. -/
def bellEvents : GatewayAnswer := .events (.ok [⟨10, "upload-audio", 3⟩])

/-- A device and the browser connect. -/
def bellConnected : List (Act GatewayEvent GatewayAnswer) :=
  enters 0 reader ++ enters 1 announcer ++ [.resume 1 (.devices (.ok []))]

/-- The targets of the start are known before the first chunk comes, and the second chunk comes
    when the events have been queried. -/
def patientUpload : List (Act GatewayEvent GatewayAnswer) :=
  bellConnected ++ [uploadStarts, .resume 3 (.targets (.ok [7])), uploadChunk 1,
    .resume 4 bellEvents, uploadChunk 2, uploadStops, .resume 7 (.targets (.ok [7]))]

theorem uploads_inOrder_patientUpload :
    (observed (gatewayProgram .defaults).step (uploadForwarded 1 0) (Gateway.start 0)
        patientUpload).map Prod.fst = [3, 4, 5, 7] ∧
      UploadsInOrder .defaults 0 patientUpload := by
  obtain ⟨p, hp⟩ : ∃ p, exec (guarded (gatewayProgram .defaults).step (UploadsInTurn .defaults))
      (Gateway.start 0) patientUpload = some p := ⟨_, rfl⟩
  exact ⟨by decide, uploads_inOrder (run_of_exec_guarded hp)⟩

/-- The targets of the start are known after the chunk has been forwarded. -/
def hastyUpload : List (Act GatewayEvent GatewayAnswer) :=
  bellConnected ++ [uploadStarts, uploadChunk 1, uploadStops, .resume 4 bellEvents,
    .resume 3 (.targets (.ok [7])), .resume 6 (.targets (.ok [7]))]

/-- The device is sent the chunk before the start. -/
theorem hastyUpload_outOfOrder :
    (∃ p, Run (gatewayProgram .defaults).step anyStep (Gateway.start 0) hastyUpload p) ∧
      observed (gatewayProgram .defaults).step (uploadSent 1) (Gateway.start 0) hastyUpload =
        [(3, .start (some bellFile)), (4, .chunk [1]), (6, .finish none)] ∧
      observed (gatewayProgram .defaults).step (uploadForwarded 1 0) (Gateway.start 0) hastyUpload =
        [(4, .chunk [1]), (3, .start (some bellFile)), (6, .finish none)] ∧
      ¬ UploadsInOrder .defaults 0 hastyUpload := by
  refine ⟨⟨_, run_reach (by decide)⟩, rfl, rfl, fun h => ?_⟩
  have hnumbers : List.Sublist [4, 3, 6] [3, 4, 6] := (h 1 0).map Prod.fst
  exact absurd hnumbers (by decide)

end GatewayRealtime
