/-
  Who is sent a dispatch of quality 1, and for whom it is stored.

  * `Connections.reached`: the receivers that the sending loop comes to.
  * `Gateway.FrameSent`, `Gateway.StoredFor`: what `qossing` leaves for a target after its query.
  * `Gateway.Partitions`: the receivers all have a socket still, or the loop reaches everyone.
  * `qos1_partition_iff`: when every permitted target has exactly one of the two.
-/
import Mathlib.Data.List.TakeWhile
import GatewayRealtime.Create
import GatewayRealtime.GatewayInv

namespace GatewayRealtime

/-- The receivers before the first one that has lost its socket. -/
def Connections.reached (k : Connections) (receivers : List SessionRef) : List SessionRef :=
  receivers.takeWhile fun r => (k.socket r).isSome

/-- A receiver with an open socket, of the user `u`. -/
def Connections.OnlineAs (k : Connections) (u : ℕ) (r : SessionRef) : Prop :=
  k.isActive r = true ∧ k.sessionId r = some u

/-- Between `g` and `g'`, the frame of the call was sent on an open socket of the user `u`. -/
def Gateway.FrameSent (g g' : Gateway) (q : Qossing) (u : ℕ) : Prop :=
  ∃ c r, Effect.send c r (.json (eventMessage q.handler.labelEventToReceiver q.payload))
      (.dispatch q.sender q.grant) ∈ g'.trace.drop g.trace.length ∧
    g.conn.isOpen c = true ∧ g.conn.sessionId r = some u

/-- Between `g` and `g'`, the event of the call was stored for the user `u`. -/
def Gateway.StoredFor (cfg : GatewayConfig) (g g' : Gateway) (q : Qossing) (u : ℕ) : Prop :=
  ∃ record, g'.store.events.get? (cfg.randomUUID g.generated) = some record ∧
    record.eventName = q.handler.labelEventToReceiver ∧ record.payload = q.payload ∧
    record.userStatus.has u = true ∧
    EventStore.inIndex g'.store.userEvents u (cfg.randomUUID g.generated)

/-- Either all receivers have a socket still, and users may have events, or every permitted
    target is online among the receivers before the first one that has lost its socket. -/
def Gateway.Partitions (cfg : GatewayConfig) (g : Gateway) (q : Qossing) (ids : List ℕ)
    (permitted : ℕ → Prop) : Prop :=
  (∀ r ∈ q.receivers, g.conn.socket r ≠ none) ∧ 0 < cfg.store.MAX_EVENTS_PER_USER ∨
    ∀ u ∈ ids, permitted u → ∃ r ∈ g.conn.reached q.receivers, g.conn.OnlineAs u r

section
variable {cfg : GatewayConfig} {g g' : Gateway} {k : Connections} {q : Qossing} {ids : List ℕ}
  {u : ℕ}

/-! ## The sending loop -/

theorem sendAll_effects (frame : Frame) (origin : Origin) : ∀ receivers : List SessionRef,
    (k.sendAll frame origin receivers).1 =
      (k.reached receivers).flatMap fun r => k.send r frame origin
  | [] => rfl
  | r :: rest => by
    unfold Connections.sendAll Connections.reached
    cases hc : k.socket r with
    | none => simp [hc]
    | some c =>
      have ih := sendAll_effects frame origin rest
      rw [Connections.reached] at ih
      simp [hc, ih]

theorem sendAll_ok_iff (frame : Frame) (origin : Origin) : ∀ receivers : List SessionRef,
    (k.sendAll frame origin receivers).2 = .ok () ↔ ∀ r ∈ receivers, k.socket r ≠ none
  | [] => by simp [Connections.sendAll]
  | r :: rest => by
    unfold Connections.sendAll
    cases hc : k.socket r with
    | none => simp [hc]
    | some c => simp [hc, sendAll_ok_iff frame origin rest]

theorem reached_of_sockets {receivers : List SessionRef}
    (h : ∀ r ∈ receivers, k.socket r ≠ none) : k.reached receivers = receivers :=
  List.takeWhile_eq_self_iff.2 fun r hr => Option.isSome_iff_ne_none.2 (h r hr)

theorem mem_onlineIds : u ∈ Gateway.onlineIds k q ↔ ∃ r ∈ q.receivers, k.OnlineAs u r := by
  simp [Gateway.onlineIds, Connections.OnlineAs, and_assoc]

/-! ## The trace -/

/-- A frame of a dispatch. -/
def Effect.IsDispatch : Effect → Prop
  | .send _ _ _ (.dispatch ..) => True
  | _ => False

theorem Effect.IsNotice.not_isDispatch {e : Effect} (h : e.IsNotice) : ¬ e.IsDispatch := by
  cases e with
  | send _ _ _ origin =>
    cases origin with
    | notice => exact id
    | _ => cases h
  | _ => cases h

/-- Creating an event sends no frame of a dispatch. -/
theorem createEvent_trace (cfg : GatewayConfig) (g : Gateway) (targetIds : List ℕ)
    (eventName : String) (payload : JsObj) (qos : QoS) (options : CreateOptions)
    (sender : SessionRef) (grant : Option Grant) : ∃ rest,
    (g.createEvent cfg targetIds eventName payload qos options sender grant).trace =
      g.trace ++ rest ∧ ∀ e ∈ rest, ¬ e.IsDispatch := by
  obtain ⟨notices, htrace, hnotices⟩ := createEvent_logged cfg g targetIds eventName payload qos
    options sender grant
  exact ⟨_, htrace, List.forall_mem_cons.2 ⟨id, fun e he => (hnotices e he).not_isDispatch⟩⟩

/-- The frames that were sent are those to the receivers that the loop reached. -/
theorem frameSent_iff (rest : List Effect)
    (htrace : g'.trace = g.trace ++ (g.conn.sendAll
      (.json (eventMessage q.handler.labelEventToReceiver q.payload)) (.dispatch q.sender q.grant)
      q.receivers).1 ++ rest) (hrest : ∀ e ∈ rest, ¬ e.IsDispatch) :
    g.FrameSent g' q u ↔ ∃ r ∈ g.conn.reached q.receivers, g.conn.OnlineAs u r := by
  have hdrop : g'.trace.drop g.trace.length = (g.conn.reached q.receivers).flatMap (fun r =>
      g.conn.send r (.json (eventMessage q.handler.labelEventToReceiver q.payload))
        (.dispatch q.sender q.grant)) ++ rest := by
    rw [htrace, List.append_assoc, List.drop_left, sendAll_effects]
  unfold Gateway.FrameSent
  rw [hdrop]
  constructor
  · rintro ⟨c, r, hmem, hopen, hid⟩
    rcases List.mem_append.1 hmem with hmem | hmem
    · obtain ⟨r', hr', hmem⟩ := List.mem_flatMap.1 hmem
      obtain ⟨c', hc', ho', heq⟩ := mem_send_iff.1 hmem
      cases heq
      exact ⟨r, hr', (Connections.isActive_iff _).2 ⟨c, hc', ho'⟩, hid⟩
    · exact absurd trivial (hrest _ hmem)
  · rintro ⟨r, hr, hactive, hid⟩
    obtain ⟨c, hc, hopen⟩ := (Connections.isActive_iff _).1 hactive
    exact ⟨c, r, List.mem_append_left _ (List.mem_flatMap.2
      ⟨r, hr, mem_send_iff.2 ⟨c, hc, hopen, rfl⟩⟩), hopen, hid⟩

/-! ## The store -/

/-- The handlers of the list keep their events for some time. -/
theorem ttl_nonneg {h : WsEventJSON} (hh : h ∈ WS_EVENT_JSON_CLASSES) : 0 ≤ h.ttl := by
  have hall : ∀ h ∈ WS_EVENT_JSON_CLASSES, 0 ≤ h.ttl := by decide
  exact hall h hh

/-- A call that creates no event stores nothing. -/
theorem not_storedFor_of_store_eq
    (hworld : EventStore.WorldInv ⟨g.store, g.clock, g.issued cfg⟩) (h : g'.store = g.store) :
    ¬ g.StoredFor cfg g' q u := by
  rintro ⟨record, hrecord, -⟩
  rw [h, hworld.fresh (Gateway.randomUUID_not_mem_issued cfg g)] at hrecord
  cases hrecord

/-- The event of a call is stored for the targets it is created for. -/
theorem storedFor_createEvent_iff {sent : List Effect} {targetIds : List ℕ}
    {qos : QoS} {options : CreateOptions}
    (hworld : EventStore.WorldInv ⟨g.store, g.clock, g.issued cfg⟩)
    (httl : ∀ t, options.ttl = some t → 0 ≤ t) :
    g.StoredFor cfg ((g.log sent).createEvent cfg targetIds q.handler.labelEventToReceiver
        q.payload qos options q.sender q.grant) q u ↔
      u ∈ targetIds ∧ 0 < cfg.store.MAX_EVENTS_PER_USER := by
  have hfresh := hworld.fresh (Gateway.randomUUID_not_mem_issued cfg g)
  have hindexed := EventStore.create_indexed_iff cfg.store targetIds
    q.handler.labelEventToReceiver q.payload qos options hworld.store hfresh hworld.created httl u
  refine ⟨fun ⟨_, _, _, _, _, h⟩ => hindexed.1 h, fun h => ?_⟩
  have hidx := hindexed.2 h
  obtain ⟨record, st, hrecord, hst⟩ := (hworld.store.create cfg.store _ targetIds
    q.handler.labelEventToReceiver q.payload qos options g.clock hfresh).recipient u _ hidx
  have hheader : record.header = (EventStore.newRecord (cfg.randomUUID g.generated)
      q.handler.labelEventToReceiver q.payload qos options g.clock).header := by
    rcases (EventStore.create_growsBy cfg.store g.store _ targetIds
        q.handler.labelEventToReceiver q.payload qos options g.clock).events _ _ hrecord with
      ⟨r, hr, -⟩ | ⟨-, hheader⟩
    · rw [hfresh] at hr
      cases hr
    · exact hheader
  have hname := congrArg EventRecord.eventName hheader
  have hpayload := congrArg EventRecord.payload hheader
  exact ⟨record, hrecord, hname, hpayload, (OMap.has_iff _ _).2 ⟨st, hst⟩, hidx⟩

/-- What `qossing` does with an event of quality 1, once the targets are known. -/
theorem finishQossing_partition (hworld : EventStore.WorldInv ⟨g.store, g.clock, g.issued cfg⟩)
    (hh : q.handler ∈ WS_EVENT_JSON_CLASSES) (hqos : q.handler.qos = .qos1) (hu : u ∈ ids) :
    (g.FrameSent (g.finishQossing cfg q ids).1 q u ↔
        ∃ r ∈ g.conn.reached q.receivers, g.conn.OnlineAs u r) ∧
    (g.StoredFor cfg (g.finishQossing cfg q ids).1 q u ↔
      (∀ r ∈ q.receivers, g.conn.socket r ≠ none) ∧ 0 < cfg.store.MAX_EVENTS_PER_USER ∧
        ¬ ∃ r ∈ q.receivers, g.conn.OnlineAs u r) := by
  have hsend := sendAll_ok_iff (k := g.conn)
    (.json (eventMessage q.handler.labelEventToReceiver q.payload)) (.dispatch q.sender q.grant)
    q.receivers
  simp only [Gateway.finishQossing, hqos]
  split
  · rename_i f hf
    rw [hf] at hsend
    refine ⟨frameSent_iff [] (by simp [Gateway.log]) (List.forall_mem_nil _), ?_⟩
    refine iff_of_false (not_storedFor_of_store_eq hworld rfl) fun h => ?_
    cases hsend.2 h.1
  · rename_i hok
    have hsockets := hsend.1 hok
    split_ifs with hoffline
    · refine ⟨frameSent_iff [] (by simp [Gateway.log]) (List.forall_mem_nil _), ?_⟩
      refine iff_of_false (not_storedFor_of_store_eq hworld rfl) fun h => h.2.2 ?_
      have hnot : u ∉ Gateway.offlineIds g.conn q ids := by rw [hoffline]; exact List.not_mem_nil
      simpa [Gateway.offlineIds, hu, mem_onlineIds] using hnot
    · obtain ⟨rest, htrace, hrest⟩ := createEvent_trace cfg (g.log (g.conn.sendAll
        (.json (eventMessage q.handler.labelEventToReceiver q.payload)) (.dispatch q.sender q.grant)
        q.receivers).1) (Gateway.offlineIds g.conn q ids) q.handler.labelEventToReceiver q.payload
        .qos1 { ttl := some q.handler.ttl, senderEventName := some q.handler.labelEvent } q.sender
        q.grant
      refine ⟨frameSent_iff rest htrace hrest, ?_⟩
      refine (storedFor_createEvent_iff hworld fun t ht => ?_).trans ?_
      · cases ht
        exact ttl_nonneg hh
      · have hmem : u ∈ Gateway.offlineIds g.conn q ids ↔
            ¬ ∃ r ∈ q.receivers, g.conn.OnlineAs u r := by
          rw [← mem_onlineIds]
          simp [Gateway.offlineIds, hu]
        rw [hmem]
        exact ⟨fun h => ⟨hsockets, h.2, h.1⟩, fun h => ⟨h.2.2, h.2.1⟩⟩

/-- **The partition of the targets.**  When a call of quality 1 ends, each permitted target has
    exactly one of a frame on its open socket and a stored event, iff all receivers have kept a
    socket during the query (and users may have events), or every permitted target was reached
    by the loop before it failed on a receiver that had lost its socket. -/
theorem qos1_partition_iff {t₀ : ℤ} {acts : List (Act GatewayEvent GatewayAnswer)}
    {p p' : Pool Gateway Task} {i : ℕ}
    (h : Run (gatewayProgram cfg).step anyStep (Gateway.start t₀) acts p)
    (ht : p.threads[i]? = some (.targets q)) (hqos : q.handler.qos = .qos1)
    (hst : (gatewayProgram cfg).step p (.resume i (.targets (.ok ids))) = some p')
    (permitted : ℕ → Prop) :
    (∀ u ∈ ids, permitted u →
        Xor (p.shared.FrameSent p'.shared q u) (p.shared.StoredFor cfg p'.shared q u)) ↔
      p.shared.Partitions cfg q ids permitted := by
  obtain ⟨hinv, hsound⟩ := consistent_run h
  have hq := hsound _ (List.mem_of_getElem? ht)
  have hp' : p'.shared = (p.shared.finishQossing cfg q ids).1 := by
    obtain ⟨t, ht', hst⟩ := Option.bind_eq_some_iff.1 hst
    rw [ht] at ht'
    cases ht'
    rw [← Option.some.inj hst]
  rw [hp']
  have hpart := fun u (hu : u ∈ ids) =>
    finishQossing_partition (u := u) hinv.storeRun.worldInv hq.1 hqos hu
  by_cases hsockets : ∀ r ∈ q.receivers, p.shared.conn.socket r ≠ none
  · -- the loop comes to all receivers
    have hreached := reached_of_sockets hsockets
    constructor
    · intro hxor
      by_cases hmax : 0 < cfg.store.MAX_EVENTS_PER_USER
      · exact Or.inl ⟨hsockets, hmax⟩
      · refine Or.inr fun u hu hperm => (hpart u hu).1.1 ?_
        rcases hxor u hu hperm with ⟨hsent, -⟩ | ⟨hstored, -⟩
        · exact hsent
        · exact absurd ((hpart u hu).2.1 hstored).2.1 hmax
    · intro hcond u hu hperm
      rw [Xor, (hpart u hu).1, (hpart u hu).2, hreached]
      by_cases honline : ∃ r ∈ q.receivers, p.shared.conn.OnlineAs u r
      · exact Or.inl ⟨honline, fun h => h.2.2 honline⟩
      · rcases hcond with ⟨-, hmax⟩ | hcond
        · exact Or.inr ⟨⟨hsockets, hmax, honline⟩, honline⟩
        · exact absurd (hreached ▸ hcond u hu hperm) honline
  · -- the loop fails, and nothing is stored
    constructor
    · intro hxor
      refine Or.inr fun u hu hperm => (hpart u hu).1.1 ?_
      rcases hxor u hu hperm with ⟨hsent, -⟩ | ⟨hstored, -⟩
      · exact hsent
      · exact absurd ((hpart u hu).2.1 hstored).1 hsockets
    · rintro (⟨h, -⟩ | hcond) u hu hperm
      · exact absurd h hsockets
      · exact Or.inl ⟨(hpart u hu).1.2 (hcond u hu hperm),
          fun hstored => hsockets ((hpart u hu).2.1 hstored).1⟩

end

/-! ## A scan at a device -/

/-- The device of a tenant at which people check in. -/
def reader : Authenticated where
  id_enduser := 7
  auth := .device
    { clientId := "shop", products := [("absensi", ⟨"https://absensi.shop", "key"⟩)],
      deviceId := "reader-1", blacklistSend := [], blacklistGet := [], id_device := 3,
      device_product := "absensi" }
  product := none
  type := .device
  issued := rfl

/-- A browser of the tenant, with the events that it may receive. -/
def watcher (id_enduser : ℕ) (whiteListGet : List ℕ) : Authenticated where
  id_enduser := id_enduser
  auth := .browser { adminUser with whiteListGet := whiteListGet }
  product := none
  type := .browser
  issued := rfl

/-- Connection number `i` is let in. -/
def enters (i : ℕ) (a : Authenticated) : List (Act GatewayEvent GatewayAnswer) :=
  [.event .connect, .resume i (.rateLimit (.ok ())), .resume i (.authenticated (.ok a))]

/-- The device and two browsers connect, and the device scans a card. -/
def scan (a b : Authenticated) : List (Act GatewayEvent GatewayAnswer) :=
  enters 0 reader ++ enters 1 a ++ enters 2 b ++
    [.event (.message 0 (some (.obj [text "event" "rfid-scan",
        ("data", .obj [text "mode" "login", text "uid" "04A1"])]))),
      .resume 3 (.api (.response (.obj [("isSuccess", .bool true)]) [])),
      .resume 3 (.events (.ok [⟨10, "login", 3⟩]))]

/-- The state to which the acts lead, if they can be taken. -/
def reach (acts : List (Act GatewayEvent GatewayAnswer)) : Pool Gateway Task :=
  (exec (gatewayProgram .defaults).step (Gateway.start 0) acts).getD (Gateway.start 0)

theorem run_reach {acts : List (Act GatewayEvent GatewayAnswer)}
    (h : (exec (gatewayProgram .defaults).step (Gateway.start 0) acts).isSome = true) :
    Run (gatewayProgram .defaults).step anyStep (Gateway.start 0) acts (reach acts) := by
  obtain ⟨p, hp⟩ := Option.isSome_iff_exists.1 h
  have hreach : reach acts = p := by rw [reach, hp, Option.getD_some]
  exact run_of_exec (hreach ▸ hp)

theorem step_reach {acts : List (Act GatewayEvent GatewayAnswer)}
    {a : Act GatewayEvent GatewayAnswer}
    (h : (exec (gatewayProgram .defaults).step (Gateway.start 0) (acts ++ [a])).isSome = true) :
    (gatewayProgram .defaults).step (reach acts) a = some (reach (acts ++ [a])) := by
  obtain ⟨p', hp'⟩ := Option.isSome_iff_exists.1 h
  have hreach' : reach (acts ++ [a]) = p' := by rw [reach, hp', Option.getD_some]
  rw [exec_append] at hp'
  obtain ⟨p, hp, hstep⟩ := Option.bind_eq_some_iff.1 hp'
  have hreach : reach acts = p := by rw [reach, hp, Option.getD_some]
  rw [hreach', hreach]
  simpa [exec] using hstep

/-- The dispatch of the scan, waiting for its targets. -/
def scanned (receivers : List SessionRef) : Qossing where
  handler := RFIDScanEvent
  sender := 0
  receivers := receivers
  payload := [("isSuccess", .bool true)]
  grant := some ⟨.browser, [⟨10, "login", 3⟩]⟩

theorem qos1_partition_iff_scan :
    (∀ u ∈ [11, 12], True →
        Xor ((reach (scan (watcher 11 [10]) (watcher 12 [10]))).shared.FrameSent
            (reach (scan (watcher 11 [10]) (watcher 12 [10]) ++
              [.resume 4 (.targets (.ok [11, 12]))])).shared (scanned [1, 2]) u)
          ((reach (scan (watcher 11 [10]) (watcher 12 [10]))).shared.StoredFor .defaults
            (reach (scan (watcher 11 [10]) (watcher 12 [10]) ++
              [.resume 4 (.targets (.ok [11, 12]))])).shared (scanned [1, 2]) u)) ↔
      (reach (scan (watcher 11 [10]) (watcher 12 [10]))).shared.Partitions .defaults
        (scanned [1, 2]) [11, 12] fun _ => True := by
  have hrun : Run (gatewayProgram .defaults).step anyStep (Gateway.start 0)
      (scan (watcher 11 [10]) (watcher 12 [10]))
      (reach (scan (watcher 11 [10]) (watcher 12 [10]))) :=
    run_of_exec rfl
  exact qos1_partition_iff (i := 4) hrun rfl rfl rfl fun _ => True

/-- One browser goes away while the targets are queried. -/
def scanAndLeave : List (Act GatewayEvent GatewayAnswer) :=
  scan (watcher 11 [10]) (watcher 12 [10]) ++ [.event (.close 1)]

/-- The other browser, which is online and may receive the event, is sent nothing, and nothing
    is stored for either of them. -/
theorem scanAndLeave_lost : ∃ p p',
    Run (gatewayProgram .defaults).step anyStep (Gateway.start 0) scanAndLeave p ∧
      p.threads[4]? = some (.targets (scanned [1, 2])) ∧
      (gatewayProgram .defaults).step p (.resume 4 (.targets (.ok [11, 12]))) = some p' ∧
      (∀ u ∈ [11, 12], ¬ p.shared.FrameSent p'.shared (scanned [1, 2]) u ∧
        ¬ p.shared.StoredFor .defaults p'.shared (scanned [1, 2]) u) ∧
      p.shared.conn.OnlineAs 12 2 := by
  have htrace : (reach scanAndLeave).shared.trace.length =
      (reach (scanAndLeave ++ [.resume 4 (.targets (.ok [11, 12]))])).shared.trace.length := by
    decide
  have hstore : (reach (scanAndLeave ++
      [.resume 4 (.targets (.ok [11, 12]))])).shared.store.events.keys = [] := by decide
  refine ⟨reach scanAndLeave, reach (scanAndLeave ++ [.resume 4 (.targets (.ok [11, 12]))]),
    run_of_exec rfl, rfl, rfl, fun u _ => ⟨?_, ?_⟩, by decide, by decide⟩
  · rintro ⟨c, r, hmem, -⟩
    rw [htrace, List.drop_length] at hmem
    cases hmem
  · rintro ⟨record, hrecord, -⟩
    have hkey := (OMap.mem_keys _ _).2 ⟨record, hrecord⟩
    rw [hstore] at hkey
    cases hkey

end GatewayRealtime
