/-
  Acknowledgements and the notices about them (`events/json/commons/acknowledge.event.ts`).

  * `Ack`, `Gateway.ackOf`: an acknowledgement of a stored event whose sender is to be told.
  * `Gateway.notices`: the notices `event:delivered` between two states, sent or stored.
  * `acknowledged`, `notified`: what a step adds to the acknowledgements of an event, and to the
    notices about it.
  * `Untold`: a change without acknowledgements makes no notice.
  * `Attributable`: in a run, the notices about an event are those of its targets that
    acknowledged it, one each.
  * `acknowledged_once`: when that holds.
-/
import GatewayRealtime.Finality

namespace GatewayRealtime

/-! ## Acknowledgements and notices -/

/-- What names a recipient: the role of a browser or a desktop, the `deviceId` of a device. -/
def EndUser.recipient : EndUser → String
  | .browser user => user.role
  | .device user => user.deviceId

/-- An acknowledgement: who acknowledges which event, and whose event that is. -/
structure Ack where
  session : WsSession
  record : EventRecord JsObj
  sender : ℕ

/-- The acknowledgement that an event carries, of a stored event that notifies its sender, by
    somebody else than its sender. -/
def Gateway.ackOf (g : Gateway) (event : GatewayEvent) : Option Ack :=
  match g.acking event with
  | none => none
  | some (r, payload) =>
    match g.conn.heap[r]?, g.store.getEvent (payloadText payload "eventId") with
    | some session, some record =>
      match record.senderId with
      | none => none
      | some sender =>
        if record.notifySender = true ∧ sender ≠ session.sessionId then
          some ⟨session, record, sender⟩
        else none
    | _, _ => none

/-- Who acknowledges the event `e` in a step, with its name. -/
def acknowledged (e : String) (p : Pool Gateway Task) :
    Act GatewayEvent GatewayAnswer → Pool Gateway Task → List (ℕ × String)
  | .event event, _ =>
    match p.shared.ackOf event with
    | some a =>
      if a.record.eventId = e then [(a.session.sessionId, a.session.principal.recipient)] else []
    | none => []
  | .resume .., _ => []

/-- `data` of a message `event:delivered`. -/
def Frame.delivered : Frame → Option JsObj
  | .json fields =>
    match OMap.find "event" fields, OMap.find "data" fields with
    | some (.str event), some (.obj data) =>
      if event = "event:delivered" then some data else none
    | _, _ => none
  | .binary _ => none

/-- A notice that is sent at once. -/
def Effect.delivered : Effect → Option JsObj
  | .send _ _ frame .notice => frame.delivered
  | _ => none

/-- A notice that is stored. -/
def EventRecord.delivered (r : EventRecord JsObj) : Option JsObj :=
  if r.eventName = "event:delivered" then some r.payload else none

/-- The events created since the gateway was `g₀`, as far as they are stored. -/
def Gateway.newRecords (cfg : GatewayConfig) (g₀ g : Gateway) : List (EventRecord JsObj) :=
  (List.range' g₀.generated (g.generated - g₀.generated)).filterMap fun n =>
    g.store.getEvent (cfg.randomUUID n)

/-- The notices since the gateway was `g₀`. -/
def Gateway.notices (cfg : GatewayConfig) (g₀ g : Gateway) : List JsObj :=
  (g.trace.drop g₀.trace.length).filterMap Effect.delivered ++
    (g₀.newRecords cfg g).filterMap EventRecord.delivered

/-- A notice about the event `e`. -/
def isAbout (e : String) (data : JsObj) : Bool :=
  match OMap.find "originalEventId" data with
  | some (.str id) => id = e
  | _ => false

/-- The notices about `e` in a step. -/
def notified (cfg : GatewayConfig) (e : String) (p : Pool Gateway Task)
    (_ : Act GatewayEvent GatewayAnswer) (p' : Pool Gateway Task) : List JsObj :=
  (p.shared.notices cfg p'.shared).filter (isAbout e)

/-- The users that the event `e` was created for. -/
def Gateway.targetsOf (g : Gateway) (e : String) : List ℕ :=
  (g.trace.findSome? fun
    | .store eventId targets _ _ => if eventId = e then some targets else none
    | _ => none).getD []

/-- The notices name the targets that acknowledged, each once and nobody else. -/
def CountedOnce (targets : List ℕ) (notices : List JsObj) (acks : List (ℕ × String)) : Prop :=
  ∃ l, l ⊆ acks ∧ (l.map Prod.fst).Nodup ∧
    (∀ u, u ∈ l.map Prod.fst ↔ u ∈ targets ∧ u ∈ acks.map Prod.fst) ∧
    notices.map (OMap.find "deliveredTo") = l.map fun a => some (.str a.2)

/-- **Attributable acknowledgements.**  The notices about `e` of the run of `acts` that leads to
    `p` correspond to the targets of `e` that acknowledged it, and an acknowledgement by anybody
    else leaves the store as it is. -/
structure Attributable (cfg : GatewayConfig) (p₀ : Pool Gateway Task)
    (acts : List (Act GatewayEvent GatewayAnswer)) (p : Pool Gateway Task) (e : String) :
    Prop where
  counted : CountedOnce (p.shared.targetsOf e)
    (observed (gatewayProgram cfg).step (notified cfg e) p₀ acts)
    (observed (gatewayProgram cfg).step (acknowledged e) p₀ acts)
  strangers : ∀ pre event post q q', acts = pre ++ .event event :: post →
    Run (gatewayProgram cfg).step anyStep p₀ pre q →
    (gatewayProgram cfg).step q (.event event) = some q' →
    ∀ a, q.shared.ackOf event = some a → a.record.eventId = e →
      a.session.sessionId ∉ q.shared.targetsOf e → q'.shared.store = q.shared.store

/-- An acknowledgement that the gateway reports as it should: by a target that has not
    acknowledged the event before, whose role it can read, to a sender that can be told. -/
structure Ack.Countable (cfg : GatewayConfig) (g : Gateway) (a : Ack) : Prop where
  sender : a.sender ≠ 0
  target : a.session.sessionId ∈ g.targetsOf a.record.eventId
  first : a.record.userStatus.get? a.session.sessionId ≠ some .APPLIED
  browser : a.session.principal.asBrowser.isSome = true
  told : 0 < cfg.store.MAX_EVENTS_PER_USER ∨ (g.conn.find a.sender).any g.conn.isActive = true

/-- The condition on the steps. -/
def AcknowledgesOnce (cfg : GatewayConfig) (p : Pool Gateway Task) :
    Act GatewayEvent GatewayAnswer → Prop
  | .event event => ∀ a ∈ p.shared.ackOf event, a.Countable cfg p.shared
  | .resume .. => True

section
variable {cfg : GatewayConfig} {ok : Promise} {t₀ : ℤ} {g₀ g g' : Gateway} {u : ℕ} {e : String}
  {p p' : Pool Gateway Task} {act : Act GatewayEvent GatewayAnswer} {event : GatewayEvent}
  {a : Ack} {r : SessionRef} {session : WsSession} {payload : Option JsVal}

theorem ackOf_eq_some : g.ackOf event = some a ↔ ∃ r payload,
    g.acking event = some (r, payload) ∧ g.conn.heap[r]? = some a.session ∧
      g.store.getEvent (payloadText payload "eventId") = some a.record ∧
      a.record.notifySender = true ∧ a.record.senderId = some a.sender ∧
      a.sender ≠ a.session.sessionId := by
  unfold Gateway.ackOf
  constructor
  · intro h
    split at h
    · cases h
    · rename_i r payload hack
      refine ⟨r, payload, hack, ?_⟩
      split at h
      · rename_i session record hs hr
        split at h
        · cases h
        · rename_i sender hsender
          split_ifs at h with htold
          cases h
          exact ⟨hs, hr, htold.1, hsender, htold.2⟩
      · cases h
  · rintro ⟨r, payload, hack, hs, hr, hnotify, hsender, hne⟩
    simp [hack, hs, hr, hsender, hnotify, hne]

/-! ## Changes without a notice -/

/-- Neither a new event nor a notice is called `event:delivered`. -/
def Promise.silent : Promise where
  create _ _ eventName _ _ := eventName ≠ "event:delivered"
  notice _ _ frame := frame.event ≠ some (.str "event:delivered")

/-- No notice was made since `g₀`. -/
structure Untold (cfg : GatewayConfig) (t₀ : ℤ) (g₀ g : Gateway) : Prop where
  storeRun : g.StoreRun cfg t₀
  generated : g₀.generated ≤ g.generated
  names : ∀ n r, g₀.generated ≤ n → g.store.getEvent (cfg.randomUUID n) = some r →
    r.eventName ≠ "event:delivered"
  later : ∃ later, g.trace = g₀.trace ++ later ∧ ∀ effect ∈ later, effect.delivered = none

theorem delivered_eq_none {frame : Frame} (h : frame.event ≠ some (.str "event:delivered")) :
    frame.delivered = none := by
  cases frame with
  | binary => rfl
  | json fields =>
    unfold Frame.delivered
    dsimp only
    split
    · rename_i event data hevent hdata
      split_ifs with hname
      · rw [hname] at hevent
        exact absurd hevent h
      · rfl
    · rfl

theorem Untold.refl (h : g.StoreRun cfg t₀) : Untold cfg t₀ g g where
  storeRun := h
  generated := le_rfl
  names n r hn hr := by
    have hissued := h.worldInv.issued _ r hr
    rw [mem_issued] at hissued
    omega
  later := ⟨[], (List.append_nil _).symm, List.forall_mem_nil _⟩

theorem Untold.log (h : Untold cfg t₀ g₀ g) {effects : List Effect}
    (he : ∀ effect ∈ effects, effect.delivered = none) : Untold cfg t₀ g₀ (g.log effects) where
  storeRun := h.storeRun
  generated := h.generated
  names := h.names
  later := by
    obtain ⟨later, htrace, hlater⟩ := h.later
    refine ⟨later ++ effects, ?_, List.forall_mem_append.2 ⟨hlater, he⟩⟩
    rw [← List.append_assoc, ← htrace]
    rfl

theorem Effect.IsNotice.delivered {effect : Effect} (h : effect.IsNotice) :
    effect.delivered = none := by
  cases effect with
  | send _ _ frame origin =>
    cases origin with
    | notice => exact delivered_eq_none (by rw [show frame.event = _ from h]; simp)
    | _ => rfl
  | _ => rfl

theorem Untold.setStore (h : Untold cfg t₀ g₀ g) {s : EventStore JsObj}
    (hs : EventStore.Operated cfg.store g.clock g.store s) :
    Untold cfg t₀ g₀ (g.setStore s) := by
  have hrun := h.storeRun.setStore hs
  obtain ⟨notices, heq, hnotices⟩ := setStore_eq g s
  rw [heq] at hrun ⊢
  have hstored : Untold cfg t₀ g₀ { g with store := s } := by
    refine ⟨hrun, h.generated, fun n r' hn hr' => ?_, h.later⟩
    obtain ⟨r, hr, hheader⟩ := hs.noGrow.events _ r' hr'
    rw [EventStore.eventName_of_header hheader]
    exact h.names n r hn hr
  exact hstored.log fun effect heffect => (hnotices effect heffect).delivered

theorem Untold.createEvent (h : Untold cfg t₀ g₀ g) (targetIds : List ℕ) {eventName : String}
    (hname : eventName ≠ "event:delivered") (payload : JsObj) (qos : QoS)
    (options : CreateOptions) (sender : SessionRef) (grant : Option Grant) :
    Untold cfg t₀ g₀
      (g.createEvent cfg targetIds eventName payload qos options sender grant) := by
  have hrun := h.storeRun.createEvent targetIds eventName payload qos options sender grant
  obtain ⟨notices, heq, hnotices⟩ := createEvent_eq cfg g targetIds eventName payload qos options
    sender grant
  rw [heq] at hrun ⊢
  obtain ⟨later, htrace, hlater⟩ := h.later
  have hcreated : Untold cfg t₀ g₀ (g.withEvent cfg (g.store.create cfg.store
      (cfg.randomUUID g.generated) targetIds eventName payload qos options g.clock) targetIds
      sender grant) := by
    refine ⟨hrun, h.generated.trans (Nat.le_succ _), fun n r' hn hr' => ?_,
      later ++ [.store (cfg.randomUUID g.generated) targetIds sender grant], ?_, ?_⟩
    · rcases (EventStore.create_growsBy cfg.store g.store _ targetIds eventName payload qos options
        g.clock).events _ r' hr' with ⟨r, hr, hheader⟩ | ⟨-, hheader⟩
      · rw [EventStore.eventName_of_header hheader]
        exact h.names n r hn hr
      · rw [EventStore.eventName_of_header hheader]
        exact hname
    · rw [← List.append_assoc, ← htrace]
      rfl
    · exact List.forall_mem_append.2 ⟨hlater, List.forall_mem_singleton.2 rfl⟩
  exact hcreated.log fun effect heffect => (hnotices effect heffect).delivered

theorem Untold.change (h : Untold cfg t₀ g₀ g) (hc : Change cfg .silent g g') :
    Untold cfg t₀ g₀ g' :=
  hc.inv h
    (fun g effects h hdue => h.log fun effect heffect => by
      have hd := hdue effect heffect
      cases effect with
      | send _ _ frame origin =>
        cases origin with
        | notice =>
          rcases hd with hexpired | hsilent
          · exact delivered_eq_none (by rw [hexpired]; simp)
          · exact delivered_eq_none hsilent
        | _ => rfl
      | _ => rfl)
    (fun _ _ h hs => h.setStore hs)
    (fun _ targetIds _ payload qos options sender grant h hname =>
      h.createEvent targetIds hname payload qos options sender grant)
    (fun _ _ h _ => ⟨h.storeRun, h.generated, h.names, h.later⟩)
    (fun _ _ _ _ h => ⟨h.storeRun, h.generated, h.names, h.later⟩)
    fun _ _ h hle => ⟨h.storeRun.tick hle, h.generated, h.names, h.later⟩

theorem Untold.notices (h : Untold cfg t₀ g₀ g) : g₀.notices cfg g = [] := by
  obtain ⟨later, htrace, hlater⟩ := h.later
  unfold Gateway.notices Gateway.newRecords
  rw [htrace, List.drop_left, List.append_eq_nil_iff]
  constructor
  · exact List.filterMap_eq_nil_iff.2 hlater
  · refine List.filterMap_eq_nil_iff.2 fun r hr => ?_
    obtain ⟨n, hn, hr⟩ := List.mem_filterMap.1 hr
    exact if_neg (h.names n r (List.mem_range'_1.1 hn).1 hr)

/-! ## The notice about an acknowledgement -/

/-- The notice that an event was delivered. -/
def deliveredNotice (record : EventRecord JsObj) (session : WsSession) (now : ℤ)
    (payload : Option JsVal) : JsObj :=
  [text "originalEventId" record.eventId, text "originalEventName" record.eventName] ++
    optionalField "deliveredTo" (session.principal.asBrowser.map fun user => .str user.role) ++
    [("deliveredAt", .num now)] ++ optionalField "message" (payload.bind (·.field "message"))

theorem isAbout_deliveredNotice (record : EventRecord JsObj) (session : WsSession) (now : ℤ)
    (payload : Option JsVal) (e : String) :
    isAbout e (deliveredNotice record session now payload) = decide (record.eventId = e) := rfl

/-- A browser is named by its role. -/
theorem deliveredTo_deliveredNotice (record : EventRecord JsObj) {session : WsSession} (now : ℤ)
    (payload : Option JsVal) (hbrowser : session.principal.asBrowser.isSome = true) :
    OMap.find "deliveredTo" (deliveredNotice record session now payload) =
      some (.str session.principal.recipient) := by
  unfold deliveredNotice
  cases hp : session.principal with
  | browser user => rfl
  | device user => simp [hp, EndUser.asBrowser] at hbrowser

/-- An acknowledgement of which nobody is to be told is recorded at most. -/
theorem acknowledge_silent (hack : g.acking event = some (r, payload))
    (hnone : ∀ a ∈ g.ackOf event, a.sender = 0) :
    Handling cfg ok g (g.acknowledge cfg r payload) := by
  unfold Gateway.acknowledge
  split
  · exact .refl
  · rename_i session hs
    have hmark : Handling cfg ok g (g.setStore
        (g.store.markApplied session.sessionId (payloadText payload "eventId"))) :=
      Handling.refl.store (EventStore.operated_markApplied _ _)
    dsimp only
    split
    · exact hmark
    · rename_i record hr
      split
      · exact hmark
      · rename_i sender hsender
        split_ifs with htold
        · -- then the event carries an acknowledgement of which somebody is told
          have hsome : g.ackOf event = some ⟨session, record, sender⟩ :=
            ackOf_eq_some.2 ⟨r, payload, hack, hs, hr, htold.1, hsender, htold.2.2⟩
          exact absurd (hnone _ hsome) htold.2.1
        · exact hmark

/-- What becomes of the notice: it is sent to the sender of the event, or stored for it. -/
theorem acknowledge_told (hs : g.conn.heap[r]? = some a.session)
    (hr : g.store.getEvent (payloadText payload "eventId") = some a.record)
    (hnotify : a.record.notifySender = true) (hsender : a.record.senderId = some a.sender)
    (hne : a.sender ≠ a.session.sessionId) (h0 : a.sender ≠ 0) :
    g.acknowledge cfg r payload =
      match (g.conn.find a.sender).filter g.conn.isActive with
      | some s =>
        (g.setStore (g.store.markApplied a.session.sessionId (payloadText payload "eventId"))).log
          (g.conn.send s (.json [text "event" "event:delivered",
            ("data", .obj (deliveredNotice a.record a.session g.clock payload))]) .notice)
      | none =>
        (g.setStore (g.store.markApplied a.session.sessionId
          (payloadText payload "eventId"))).createEvent cfg [a.sender] "event:delivered"
            (deliveredNotice a.record a.session g.clock payload) .qos1 { ttl := some 3600000 }
            r none := by
  unfold Gateway.acknowledge
  simp only [hs, hr, hsender, hnotify, hne, h0, ne_eq, not_false_eq_true, and_self, if_true]
  rfl

/-- A new event is stored, unless users may have no events at all. -/
theorem createEvent_getEvent (hg : g.StoreRun cfg t₀) (target : ℕ) (eventName : String)
    (data : JsObj) (sender : SessionRef) (grant : Option Grant)
    (hmax : 0 < cfg.store.MAX_EVENTS_PER_USER) :
    ∃ record, (g.createEvent cfg [target] eventName data .qos1 { ttl := some 3600000 } sender
        grant).store.getEvent (cfg.randomUUID g.generated) = some record ∧
      record.eventName = eventName ∧ record.payload = data := by
  have hworld := hg.worldInv
  have hfresh := hworld.fresh (Gateway.randomUUID_not_mem_issued cfg g)
  have httl : ∀ t, some (3600000 : ℤ) = some t → 0 ≤ t := by
    rintro t ⟨⟩
    decide
  have hindexed := (EventStore.create_indexed_iff cfg.store [target] eventName data .qos1
    { ttl := some 3600000 } hworld.store hfresh hworld.created httl target).2
      ⟨List.mem_singleton_self target, hmax⟩
  obtain ⟨record, -, hrecord, -⟩ := (hworld.store.create cfg.store _ [target] eventName data .qos1
    { ttl := some 3600000 } g.clock hfresh).recipient target _ hindexed
  refine ⟨record, hrecord, ?_⟩
  rcases (EventStore.create_growsBy cfg.store g.store _ [target] eventName data .qos1
    { ttl := some 3600000 } g.clock).events _ record hrecord with ⟨r, hr, -⟩ | ⟨-, hheader⟩
  · rw [hfresh] at hr
    cases hr
  · exact ⟨EventStore.eventName_of_header hheader, congrArg EventRecord.payload hheader⟩

/-- Nothing is sent at once about a new event. -/
theorem createEvent_later (cfg : GatewayConfig) (g : Gateway) (targetIds : List ℕ)
    (eventName : String) (data : JsObj) (qos : QoS) (options : CreateOptions)
    (sender : SessionRef) (grant : Option Grant) : ∃ later,
    (g.createEvent cfg targetIds eventName data qos options sender grant).trace =
      g.trace ++ later ∧ ∀ effect ∈ later, effect.delivered = none := by
  obtain ⟨notices, htrace, hnotices⟩ := createEvent_logged cfg g targetIds eventName data qos
    options sender grant
  exact ⟨_, htrace, List.forall_mem_cons.2 ⟨rfl,
    fun effect heffect => (hnotices effect heffect).delivered⟩⟩

/-- The notices among what is logged. -/
theorem Untold.notices_log (h : Untold cfg t₀ g₀ g) (hgenerated : g.generated = g₀.generated)
    (effects : List Effect) :
    g₀.notices cfg (g.log effects) = effects.filterMap Effect.delivered := by
  obtain ⟨later, htrace, hlater⟩ := h.later
  have hnone : later.filterMap Effect.delivered = [] := List.filterMap_eq_nil_iff.2 hlater
  unfold Gateway.notices Gateway.newRecords
  simp [Gateway.log, htrace, hgenerated, hnone]

/-- A notice that is stored. -/
theorem Untold.notices_createEvent (h : Untold cfg t₀ g₀ g)
    (hgenerated : g.generated = g₀.generated) (target : ℕ) (data : JsObj) (sender : SessionRef)
    (hmax : 0 < cfg.store.MAX_EVENTS_PER_USER) :
    g₀.notices cfg (g.createEvent cfg [target] "event:delivered" data .qos1
      { ttl := some 3600000 } sender none) = [data] := by
  obtain ⟨record, hrecord, hname, hdata⟩ := createEvent_getEvent h.storeRun target
    "event:delivered" data sender none hmax
  obtain ⟨notices, heq, hnotices⟩ := createEvent_eq cfg g [target] "event:delivered" data .qos1
    { ttl := some 3600000 } sender none
  obtain ⟨later, htrace, hlater⟩ := h.later
  have hnone : later.filterMap Effect.delivered = [] := List.filterMap_eq_nil_iff.2 hlater
  have hexpired : notices.filterMap Effect.delivered = [] :=
    List.filterMap_eq_nil_iff.2 fun effect heffect => (hnotices effect heffect).delivered
  have hstored : record.delivered = some data := by
    rw [EventRecord.delivered, if_pos hname, hdata]
  rw [heq, hgenerated] at hrecord
  have hnew : (g.store.create cfg.store (cfg.randomUUID g₀.generated) [target] "event:delivered"
      data .qos1 { ttl := some 3600000 } g.clock).getEvent (cfg.randomUUID g₀.generated) =
        some record := hrecord
  have hcreated : (Effect.store (cfg.randomUUID g₀.generated) [target] sender none).delivered =
      none := rfl
  unfold Gateway.notices Gateway.newRecords
  rw [heq]
  simp [Gateway.log, Gateway.withEvent, htrace, hnone, hgenerated, hcreated, hexpired, hnew,
    hstored]

/-- **One notice.**  An acknowledgement of which somebody is to be told makes one notice. -/
theorem notices_acknowledge (hg : g.Inv cfg t₀) (hack : g.acking event = some (r, payload))
    (ha : g.ackOf event = some a) (h0 : a.sender ≠ 0)
    (htold : 0 < cfg.store.MAX_EVENTS_PER_USER ∨
      (g.conn.find a.sender).any g.conn.isActive = true) :
    g.notices cfg (g.acknowledge cfg r payload) =
      [deliveredNotice a.record a.session g.clock payload] := by
  obtain ⟨r', payload', hack', hs, hr, hnotify, hsender, hne⟩ := ackOf_eq_some.1 ha
  rw [hack] at hack'
  cases hack'
  have hmarked := (Untold.refl hg.storeRun).setStore (s := g.store.markApplied a.session.sessionId
    (payloadText payload "eventId")) (EventStore.operated_markApplied _ _)
  rw [acknowledge_told hs hr hnotify hsender hne h0]
  split
  · rename_i s hactive
    obtain ⟨-, hactive⟩ := Option.filter_eq_some_iff.1 hactive
    obtain ⟨c, hsocket, hopen⟩ := (Connections.isActive_iff _).1 hactive
    rw [hmarked.notices_log rfl, Connections.send, hsocket]
    dsimp only
    rw [if_pos hopen]
    rfl
  · rename_i hinactive
    refine hmarked.notices_createEvent rfl _ _ _ ?_
    rcases htold with hmax | hactive
    · exact hmax
    · obtain ⟨s, hfind, hs⟩ := (Option.any_eq_true _ _).1 hactive
      exact absurd hs (Option.filter_eq_none_iff.1 hinactive s hfind)

/-! ## Whoever has applied an event -/

/-- The event was issued, and the user has applied it if it is still stored. -/
structure Gateway.Applied (cfg : GatewayConfig) (t₀ : ℤ) (u : ℕ) (e : String) (g : Gateway) :
    Prop where
  storeRun : g.StoreRun cfg t₀
  issued : e ∈ g.issued cfg
  applied : EventStore.AppliedBy u e g.store

theorem Gateway.Applied.change (hg : g.Applied cfg t₀ u e) (h : Change cfg ok g g') :
    g'.Applied cfg t₀ u e := by
  refine h.inv hg (fun _ _ hg _ => ⟨hg.storeRun, hg.issued, hg.applied⟩)
    (fun _ _ hg hs => ⟨hg.storeRun.setStore hs, hg.issued, hg.applied.operated hs⟩)
    (fun g targetIds eventName payload qos options sender grant hg _ => ⟨hg.storeRun.createEvent
      targetIds eventName payload qos options sender grant, ?_, ?_⟩)
    (fun _ _ hg _ => ⟨hg.storeRun, hg.issued, hg.applied⟩)
    (fun _ _ _ _ hg => ⟨hg.storeRun, hg.issued, hg.applied⟩)
    fun _ _ hg hle => ⟨hg.storeRun.tick hle, hg.issued, hg.applied⟩
  · rw [issued_createEvent]
    exact List.mem_cons_of_mem _ hg.issued
  · have hfresh := Gateway.randomUUID_not_mem_issued cfg g
    have hne : e ≠ cfg.randomUUID g.generated := ne_of_mem_of_not_mem hg.issued hfresh
    exact hg.applied.create hg.storeRun.worldInv.store hne (hg.storeRun.worldInv.fresh hfresh)
      targetIds eventName payload qos options

theorem Gateway.Applied.step (hp : Consistent cfg t₀ p) (hg : p.shared.Applied cfg t₀ u e)
    (hst : (gatewayProgram cfg).step p act = some p') : p'.shared.Applied cfg t₀ u e := by
  rcases hp.step_change hst with hchange | ⟨k₁, a, c, r, -, -, hchange⟩
  · exact hg.change hchange
  · exact Gateway.Applied.change (g := { p.shared with conn := k₁ })
      ⟨hg.storeRun, hg.issued, hg.applied⟩ hchange

/-- Whoever acknowledges an event has applied it. -/
theorem applied_acknowledge (hg : g.Inv cfg t₀) (hack : g.acking event = some (r, payload))
    (ha : g.ackOf event = some a) :
    (g.acknowledge cfg r payload).Applied cfg t₀ a.session.sessionId a.record.eventId := by
  obtain ⟨r', payload', hack', hs, hr, -⟩ := ackOf_eq_some.1 ha
  rw [hack] at hack'
  cases hack'
  have hkeyed := hg.storeInv.keyed _ _ hr
  have hissued := hg.storeRun.worldInv.issued _ _ hr
  rw [hkeyed]
  have hmarked : Gateway.Applied cfg t₀ a.session.sessionId (payloadText payload "eventId")
      (g.setStore (g.store.markApplied a.session.sessionId (payloadText payload "eventId"))) :=
    ⟨hg.storeRun.setStore (EventStore.operated_markApplied _ _), hissued,
      EventStore.appliedBy_markApplied _ _ _⟩
  have hafter : Handling cfg .any (g.setStore (g.store.markApplied a.session.sessionId
      (payloadText payload "eventId"))) (g.acknowledge cfg r payload) :=
    acknowledge_after hs (fun _ _ => trivial) (fun _ _ _ _ => trivial) payload
  exact hmarked.change hafter.change

theorem targetsOf_mono (h : g.trace <+: g'.trace) (hu : u ∈ g.targetsOf e) :
    u ∈ g'.targetsOf e := by
  obtain ⟨later, htrace⟩ := h
  unfold Gateway.targetsOf at hu ⊢
  rw [← htrace, List.findSome?_append]
  generalize g.trace.findSome? _ = targets at hu ⊢
  cases targets with
  | none => cases hu
  | some targets => exact hu

/-! ## Every run -/

/-- What a run keeps whose acknowledgements can all be counted. -/
structure Tallied (cfg : GatewayConfig) (t₀ : ℤ) (e : String) (p : Pool Gateway Task)
    (notices : List JsObj) (acks : List (ℕ × String)) : Prop where
  consistent : Consistent cfg t₀ p
  applied : ∀ a ∈ acks, p.shared.Applied cfg t₀ a.1 e
  targets : ∀ a ∈ acks, a.1 ∈ p.shared.targetsOf e
  nodup : (acks.map Prod.fst).Nodup
  named : notices.map (OMap.find "deliveredTo") = acks.map fun a => some (.str a.2)

theorem Tallied.counted {notices : List JsObj} {acks : List (ℕ × String)}
    (h : Tallied cfg t₀ e p notices acks) : CountedOnce (p.shared.targetsOf e) notices acks := by
  refine ⟨acks, List.Subset.refl _, h.nodup, fun u => ?_, h.named⟩
  constructor
  · intro hu
    obtain ⟨a, ha, rfl⟩ := List.mem_map.1 hu
    exact ⟨h.targets a ha, hu⟩
  · exact And.right

/-- A step without a notice. -/
theorem Tallied.step_untold {notices : List JsObj} {acks : List (ℕ × String)}
    (h : Tallied cfg t₀ e p notices acks) (hst : (gatewayProgram cfg).step p act = some p') :
    Tallied cfg t₀ e p' notices acks where
  consistent := h.consistent.step hst
  applied a ha := (h.applied a ha).step h.consistent hst
  targets a ha := targetsOf_mono (h.consistent.step_trace hst) (h.targets a ha)
  nodup := h.nodup
  named := h.named

/-- An acknowledgement that can be counted adds one acknowledgement and one notice to those of
    its event. -/
theorem Tallied.step_told {notices : List JsObj} {acks : List (ℕ × String)}
    (h : Tallied cfg t₀ e p notices acks)
    (hst : (gatewayProgram cfg).step p (.event event) = some p')
    (hack : p.shared.acking event = some (r, payload)) (ha : p.shared.ackOf event = some a)
    (hcount : a.Countable cfg p.shared) (heq : p'.shared = p.shared.acknowledge cfg r payload) :
    Tallied cfg t₀ e p' (notices ++ notified cfg e p (.event event) p')
      (acks ++ acknowledged e p (.event event) p') := by
  have hlater := h.step_untold hst
  have hnotices := notices_acknowledge h.consistent.1 hack ha hcount.sender hcount.told
  have happlied := applied_acknowledge h.consistent.1 hack ha
  rw [← heq] at hnotices happlied
  simp only [notified, acknowledged, hnotices, ha]
  by_cases he : a.record.eventId = e
  · subst he
    rw [if_pos rfl, List.filter_cons_of_pos (by simp [isAbout_deliveredNotice]), List.filter_nil]
    refine ⟨hlater.consistent, ?_, ?_, ?_, ?_⟩
    · refine List.forall_mem_append.2 ⟨hlater.applied, List.forall_mem_singleton.2 happlied⟩
    · exact List.forall_mem_append.2 ⟨hlater.targets, List.forall_mem_singleton.2
        (targetsOf_mono (h.consistent.step_trace hst) hcount.target)⟩
    · rw [List.map_append, List.nodup_append]
      refine ⟨h.nodup, List.nodup_singleton _, fun u hu v hv huv => ?_⟩
      -- it would have applied the event already
      obtain ⟨b, hb, rfl⟩ := List.mem_map.1 hu
      obtain rfl : v = a.session.sessionId := by simpa using hv
      obtain ⟨r', payload', -, -, hr, -⟩ := ackOf_eq_some.1 ha
      have hr' : p.shared.store.getEvent a.record.eventId = some a.record := by
        rw [h.consistent.1.storeInv.keyed _ _ hr]
        exact hr
      have hstatus := (h.applied b hb).applied a.record hr'
      rw [huv] at hstatus
      exact hcount.first hstatus
    · rw [List.map_append, List.map_append, h.named, List.map_singleton,
        deliveredTo_deliveredNotice _ _ _ hcount.browser, List.map_singleton]
  · rw [if_neg he, List.filter_cons_of_neg (by simp [isAbout_deliveredNotice, he]),
      List.filter_nil, List.append_nil, List.append_nil]
    exact hlater

/-- No handler of the list calls an event that it stores `event:delivered`. -/
theorem labelEventToReceiver_ne : ∀ h ∈ WS_EVENT_JSON_CLASSES, h.qos ≠ .qos0 →
    h.labelEventToReceiver ≠ "event:delivered" := by
  decide

theorem Tallied.step {notices : List JsObj} {acks : List (ℕ × String)}
    (h : Tallied cfg t₀ e p notices acks) (hok : AcknowledgesOnce cfg p act)
    (hst : (gatewayProgram cfg).step p act = some p') :
    Tallied cfg t₀ e p' (notices ++ notified cfg e p act p') (acks ++ acknowledged e p act p') := by
  have hlater := h.step_untold hst
  -- nobody is to be told of anything
  have hnone : (∀ event, act = .event event → p.shared.ackOf event = none) →
      p.shared.notices cfg p'.shared = [] →
      Tallied cfg t₀ e p' (notices ++ notified cfg e p act p')
        (acks ++ acknowledged e p act p') := by
    intro hack hnotices
    have hacknowledged : acknowledged e p act p' = [] := by
      unfold acknowledged
      split
      · rw [hack _ rfl]
      · rfl
    rw [hacknowledged, notified, hnotices, List.filter_nil, List.append_nil, List.append_nil]
    exact hlater
  have hrun := h.consistent.1.storeRun
  obtain ⟨event, r, payload, rfl, hack, heq⟩ | ⟨hnot, hchange⟩ :=
    h.consistent.step_promise .silent hst
      (fun _ _ _ _ _ _ _ _ _ hevent => by
        show _ ≠ _
        rw [hevent]
        simp)
      fun _ q _ _ _ hq =>
        ⟨fun hqos => labelEventToReceiver_ne q.handler hq.listed (by simp [hqos]),
          fun hqos => labelEventToReceiver_ne q.handler hq.listed (by simp [hqos])⟩
  · cases ha : p.shared.ackOf event with
    | some a => exact h.step_told hst hack ha (hok a ha) heq
    | none =>
      have hsilent : Handling cfg .silent p.shared (p.shared.acknowledge cfg r payload) :=
        acknowledge_silent hack (by simp [ha])
      refine hnone ?_ ?_
      · rintro event' ⟨⟩
        exact ha
      · rw [heq]
        exact ((Untold.refl hrun).change hsilent.change).notices
  · refine hnone (fun event hact => ?_) ?_
    · simp [Gateway.ackOf, hnot event hact]
    · rcases hchange with hchange | ⟨i, k₁, b, c, r, -, -, -, hchange⟩
      · exact ((Untold.refl hrun).change hchange).notices
      · have hentered : Untold cfg t₀ { p.shared with conn := k₁ } { p.shared with conn := k₁ } :=
          .refl hrun
        exact (hentered.change hchange).notices

theorem tallied_run {acts : List (Act GatewayEvent GatewayAnswer)}
    (h : Run (gatewayProgram cfg).step (AcknowledgesOnce cfg) (Gateway.start t₀) acts p)
    (e : String) :
    Tallied cfg t₀ e p
      (observed (gatewayProgram cfg).step (notified cfg e) (Gateway.start t₀) acts)
      (observed (gatewayProgram cfg).step (acknowledged e) (Gateway.start t₀) acts) := by
  induction h with
  | nil =>
    exact ⟨consistent_start cfg t₀, List.forall_mem_nil _, List.forall_mem_nil _, List.nodup_nil,
      rfl⟩
  | snoc hrun hok hst ih =>
    rw [hrun.observed_concat _ hst, hrun.observed_concat _ hst]
    exact ih.step hok hst

/-- **Acknowledgements are counted once.**  In every run whose acknowledgements can all be
    counted, the notices about an event are in bijection with its targets that acknowledged it,
    and name them. -/
theorem acknowledged_once {acts : List (Act GatewayEvent GatewayAnswer)}
    (h : Run (gatewayProgram cfg).step (AcknowledgesOnce cfg) (Gateway.start t₀) acts p)
    (e : String) : Attributable cfg (Gateway.start t₀) acts p e where
  counted := (tallied_run h e).counted
  strangers pre event post q q' hacts hpre _ a ha hea hstranger := by
    -- nobody but a target acknowledges in such a run
    subst hacts
    obtain ⟨q₁, -, hpre₁, hok, -⟩ := h.cut
    obtain rfl : q₁ = q := hpre₁.det hpre
    have htarget := (hok a ha).target
    rw [hea] at htarget
    exact absurd htarget hstranger

end

/-! ## Acknowledgements by targets and by strangers -/

instance (cfg : GatewayConfig) (g : Gateway) (a : Ack) : Decidable (a.Countable cfg g) :=
  decidable_of_iff (a.sender ≠ 0 ∧ a.session.sessionId ∈ g.targetsOf a.record.eventId ∧
      a.record.userStatus.get? a.session.sessionId ≠ some .APPLIED ∧
      a.session.principal.asBrowser.isSome = true ∧
      (0 < cfg.store.MAX_EVENTS_PER_USER ∨ (g.conn.find a.sender).any g.conn.isActive = true))
    ⟨fun ⟨h₁, h₂, h₃, h₄, h₅⟩ => ⟨h₁, h₂, h₃, h₄, h₅⟩,
      fun h => ⟨h.sender, h.target, h.first, h.browser, h.told⟩⟩

instance (cfg : GatewayConfig) : DecidableRel (AcknowledgesOnce cfg) := fun p act =>
  match act with
  | .event event => inferInstanceAs (Decidable (∀ a ∈ p.shared.ackOf event, a.Countable cfg _))
  | .resume .. => isTrue trivial

/-- The message of socket `c` that acknowledges an event. -/
def acknowledges (c : ClientRef) (eventId : String) : Act GatewayEvent GatewayAnswer :=
  .event (.message c (some (.obj [text "event" "event:ack",
    ("data", .obj [text "eventId" eventId])])))

/-- The device tells the browsers which audio it has. -/
def sendsMetadata : Act GatewayEvent GatewayAnswer :=
  .event (.message 0 (some (.obj [text "event" "send-metadata-audio",
    ("data", .obj [("audios", .arr [.obj [text "id" "1", text "label" "bell"]])])])))

/-- It does so twice, and both browsers acknowledge the second event. -/
def metadataAcked : List (Act GatewayEvent GatewayAnswer) :=
  enters 0 reader ++ enters 1 (watcher 11 [10]) ++ [.resume 1 (.devices (.ok []))] ++
    enters 2 (watcher 12 [10]) ++ [.resume 2 (.devices (.ok [])), sendsMetadata,
      .resume 3 (.events (.ok [⟨10, "send-metadata-audio", 3⟩])), sendsMetadata,
      .resume 4 (.targets (.ok [11, 12])), .resume 6 (.targets (.ok [11, 12])),
      acknowledges 1 "e", acknowledges 2 "e"]

theorem acknowledged_once_metadataAcked :
    ∃ p, exec (guarded (gatewayProgram .defaults).step (AcknowledgesOnce .defaults))
        (Gateway.start 0) metadataAcked = some p ∧
      observed (gatewayProgram .defaults).step (acknowledged "e") (Gateway.start 0) metadataAcked =
        [(11, "admin"), (12, "admin")] ∧
      Attributable .defaults (Gateway.start 0) metadataAcked p "e" := by
  obtain ⟨p, hp⟩ : ∃ p, exec (guarded (gatewayProgram .defaults).step (AcknowledgesOnce .defaults))
      (Gateway.start 0) metadataAcked = some p := ⟨_, rfl⟩
  have hrun : Run (gatewayProgram .defaults).step (AcknowledgesOnce .defaults) (Gateway.start 0)
      metadataAcked p := run_of_exec_guarded hp
  exact ⟨p, hp, by decide, acknowledged_once hrun "e"⟩

/-- A browser acknowledges an event that was for two devices. -/
def strangerAcks : List (Act GatewayEvent GatewayAnswer) :=
  twoUploads ++ enters 6 (watcher 12 []) ++ [.resume 6 (.devices (.ok [])), acknowledges 2 "e"]

/-- The sender is told that the event was delivered to that browser. -/
theorem strangerAcks_told : ∃ p,
    Run (gatewayProgram .defaults).step anyStep (Gateway.start 0) strangerAcks p ∧
      ¬ Attributable .defaults (Gateway.start 0) strangerAcks p "e" := by
  refine ⟨reach strangerAcks, run_of_exec rfl, fun h => ?_⟩
  obtain ⟨l, -, -, husers, hnamed⟩ := h.counted
  have hnotices : (observed (gatewayProgram .defaults).step (notified .defaults "e")
      (Gateway.start 0) strangerAcks).length = 1 := by decide
  have hacks : observed (gatewayProgram .defaults).step (acknowledged "e") (Gateway.start 0)
      strangerAcks = [(12, "admin")] := by decide
  have htargets : (reach strangerAcks).shared.targetsOf "e" = [7, 8] := by decide
  have hempty : l = [] := by
    refine List.eq_nil_iff_forall_not_mem.2 fun a ha => ?_
    obtain ⟨htarget, hack⟩ := (husers a.1).1 (List.mem_map_of_mem ha)
    rw [hacks, List.map_singleton, List.mem_singleton] at hack
    rw [htargets, hack] at htarget
    exact absurd htarget (by decide)
  have hlength := congrArg List.length hnamed
  rw [List.length_map, hnotices, hempty] at hlength
  cases hlength

end GatewayRealtime
