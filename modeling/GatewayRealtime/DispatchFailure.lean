/-
  A dispatch that fails (`BaseWsEventJSON.dispatch`, `qossing`): nobody awaits `qossing`.

  * `Task.settles`: what a computation that a message starts comes to.
  * `Gateway.Reported`: `execute` rejects if one of them fails, and resolves only if all succeed.
  * `Qossing.Succeeds`, `reported_iff`: when it does.
-/
import GatewayRealtime.Partition

namespace GatewayRealtime

/-- What a computation comes to, its query answered in the state `g`. -/
def Task.settles (cfg : GatewayConfig) (g : Gateway) (answer : Except Failure (List ℕ)) :
    Task → Except Failure Unit
  | .targets q =>
    match answer with
    | .ok ids => (g.finishQossing cfg q ids).2
    | .error f => .error f
  | .done r => r
  | _ => .ok ()

/-- **Failures of a dispatch reach the sender.**  `execute`, from the dispatch in the state `g` on,
    settles to what the computations settle to that it started, their query answered in the state
    `g'`: it rejects with their error, and resolves only if they succeed. -/
def Gateway.Reported (cfg : GatewayConfig) (g g' : Gateway) (m : Message) (modified : JsObj)
    (grant : Option Grant) (receivers : List SessionRef) (answer : Except Failure (List ℕ)) :
    Prop :=
  ∃ r, (g.afterReceivers cfg m modified grant receivers).2.1 = .done r ∧
    ∀ t ∈ (g.afterReceivers cfg m modified grant receivers).2.2, t.settles cfg g' answer = r

/-- The query of `qossing` is answered, and all receivers have a socket still, or nothing is sent:
    an event of quality 2 has no target. -/
def Qossing.Succeeds (q : Qossing) (g : Gateway) (answer : Except Failure (List ℕ)) : Prop :=
  ∃ ids, answer = .ok ids ∧ ((∀ r ∈ q.receivers, g.conn.socket r ≠ none) ∨
    q.handler.qos = .qos2 ∧ ids = [] ∧ ∀ r ∈ q.receivers, g.conn.isActive r = false)

section
variable {cfg : GatewayConfig} {g g' : Gateway} {q : Qossing} {m : Message} {modified : JsObj}
  {grant : Option Grant} {receivers : List SessionRef} {answer : Except Failure (List ℕ)}
  {h : WsEventJSON}

/-! ## The end of a computation -/

/-- A query that is rejected ends the computation, and nothing else happens. -/
theorem step_targets_error {p : Pool Gateway Task} {i : ℕ} (f : Failure)
    (ht : p.threads[i]? = some (.targets q)) :
    (gatewayProgram cfg).step p (.resume i (.targets (.error f))) =
      some (p.move p.shared i (.done (.error f))) := by
  simp [Program.step, ht, gatewayProgram, Gateway.onAnswer, Pool.move]

/-- What rejects has sent its error to the socket of the message, if it is open. -/
theorem finish_error (g : Gateway) (c : ClientRef) (tasks : List Task) (f : Failure)
    (hopen : g.conn.isOpen c = true) :
    Effect.reply c [text "event" "error", text "code" f.code, ("message", f.message)] ∈
      (g.finish c tasks (.error f)).1.trace := by
  simp only [Gateway.finish, Gateway.failMessage, Gateway.handleError, if_pos hopen]
  split_ifs <;> simp [Gateway.log]

/-! ## What a dispatch starts -/

/-- No handler of the list with browsers or devices as receivers has quality 0, or a side effect
    that starts a computation. -/
theorem qos_of_receiverType (hh : h ∈ WS_EVENT_JSON_CLASSES)
    (htype : h.receiverType = .browser ∨ h.receiverType = .device) :
    h.qos ≠ .qos0 ∧ h.sideEffectEvent ≠ .cancel := by
  have hall : ∀ h ∈ WS_EVENT_JSON_CLASSES, h.receiverType = .browser ∨ h.receiverType = .device →
      h.qos ≠ .qos0 ∧ h.sideEffectEvent ≠ .cancel := by decide
  exact hall h hh htype

theorem sideEffect_tasks (hside : m.handler.sideEffectEvent ≠ .cancel) (label : String) :
    (g.sideEffect cfg m modified label).2 = [] := by
  unfold Gateway.sideEffect
  cases hs : m.handler.sideEffectEvent with
  | cancel => exact absurd hs hside
  | _ => rfl

/-- `execute` resolves as soon as the dispatch has started `qossing`. -/
theorem afterReceivers_targets (cfg : GatewayConfig) (g : Gateway) (modified : JsObj)
    (grant : Option Grant) (receivers : List SessionRef)
    (hh : m.handler ∈ WS_EVENT_JSON_CLASSES)
    (htype : m.handler.receiverType = .browser ∨ m.handler.receiverType = .device) :
    (g.afterReceivers cfg m modified grant receivers).2 =
      (.done (.ok ()), [.targets ⟨m.handler, m.session, receivers, modified, grant⟩]) := by
  obtain ⟨hqos, hside⟩ := qos_of_receiverType hh htype
  have hdispatch : g.dispatch m modified grant receivers =
      (g, .ok (), [.targets ⟨m.handler, m.session, receivers, modified, grant⟩]) := by
    unfold Gateway.dispatch Gateway.startQossing
    rcases htype with htype | htype
    · cases hq : m.handler.qos with
      | qos0 => exact absurd hq hqos
      | _ => simp [htype]
    · cases hq : m.handler.qos with
      | qos0 => exact absurd hq hqos
      | _ => simp [htype]
  unfold Gateway.afterReceivers
  rw [hdispatch]
  simp only [Gateway.finish, sideEffect_tasks hside, List.append_nil]

/-! ## What becomes of it -/

theorem onlineIds_eq_nil : Gateway.onlineIds g.conn q = [] ↔
    ∀ r ∈ q.receivers, g.conn.isActive r = false := by
  rw [List.eq_nil_iff_forall_not_mem]
  constructor
  · intro hnone r hr
    by_contra hactive
    rw [Bool.not_eq_false] at hactive
    obtain ⟨c, hc, -⟩ := (Connections.isActive_iff _).1 hactive
    obtain ⟨s, hs, -⟩ := Option.bind_eq_some_iff.1 hc
    exact hnone s.sessionId (mem_onlineIds.2 ⟨r, hr, hactive, by simp [Connections.sessionId, hs]⟩)
  · intro hnone u hu
    obtain ⟨r, hr, hactive, -⟩ := mem_onlineIds.1 hu
    rw [hnone r hr] at hactive
    cases hactive

theorem targets_eq_nil {ids : List ℕ} :
    Gateway.onlineIds g.conn q ++ Gateway.offlineIds g.conn q ids = [] ↔
      ids = [] ∧ ∀ r ∈ q.receivers, g.conn.isActive r = false := by
  rw [List.append_eq_nil_iff, onlineIds_eq_nil, and_comm]
  refine and_congr_left fun hnone => ?_
  rw [Gateway.offlineIds, onlineIds_eq_nil.2 hnone]
  simp

/-- `qossing` ends well once its query is answered, if it sends nothing, or all receivers have a
    socket. -/
theorem finishQossing_ok_iff {ids : List ℕ} (hqos : q.handler.qos ≠ .qos0) :
    (g.finishQossing cfg q ids).2 = .ok () ↔
      (∀ r ∈ q.receivers, g.conn.socket r ≠ none) ∨
        q.handler.qos = .qos2 ∧ ids = [] ∧ ∀ r ∈ q.receivers, g.conn.isActive r = false := by
  cases hq : q.handler.qos with
  | qos0 => exact absurd hq hqos
  | qos1 =>
    have hsend := sendAll_ok_iff (k := g.conn)
      (.json (eventMessage q.handler.labelEventToReceiver q.payload))
      (.dispatch q.sender q.grant) q.receivers
    simp only [Gateway.finishQossing, hq, reduceCtorEq, false_and, or_false]
    rw [← hsend]
    split
    · rename_i f hf
      simp [hf]
    · rename_i hok
      rw [hok]
      split_ifs <;> simp
  | qos2 =>
    simp only [Gateway.finishQossing, hq, true_and, ← targets_eq_nil (g := g) (q := q)]
    split_ifs with hnone
    · simp [hnone]
    · have hsend := sendAll_ok_iff (k := g.conn) (.json (eventMessageMeta
        q.handler.labelEventToReceiver q.payload (cfg.randomUUID g.generated)))
        (.dispatch q.sender q.grant) q.receivers
      simp only [hnone, or_false]
      rw [← hsend]
      dsimp only [Gateway.createEvent, Gateway.setStore, Gateway.log]
      split
      · rename_i f hf
        simp [hf]
      · rename_i hok
        simp [hok]

/-- **When failures of a dispatch reach the sender**: iff there are none. -/
theorem reported_iff (cfg : GatewayConfig) (g g' : Gateway) (modified : JsObj)
    (grant : Option Grant) (receivers : List SessionRef) (answer : Except Failure (List ℕ))
    (hh : m.handler ∈ WS_EVENT_JSON_CLASSES)
    (htype : m.handler.receiverType = .browser ∨ m.handler.receiverType = .device) :
    g.Reported cfg g' m modified grant receivers answer ↔
      Qossing.Succeeds ⟨m.handler, m.session, receivers, modified, grant⟩ g' answer := by
  unfold Gateway.Reported Qossing.Succeeds
  rw [afterReceivers_targets cfg g modified grant receivers hh htype]
  simp only [Task.done.injEq, exists_eq_left', List.forall_mem_singleton]
  cases answer with
  | error f => simp [Task.settles]
  | ok ids =>
    simp only [Task.settles, Except.ok.injEq, exists_eq_left']
    exact finishQossing_ok_iff (qos_of_receiverType hh htype).1

end

/-! ## The scan of a card -/

/-- The message of the scan. -/
def scanMessage : Message where
  client := 0
  session := 0
  handler := RFIDScanEvent
  payload := some (.obj [text "mode" "login", text "uid" "04A1"])

/-- The error of the query. -/
def connectionLost : Failure := .internal "Connection lost"

/-- The scan with two browsers, dispatched in the state `g`. -/
def Gateway.ScanReported (g g' : Gateway) (answer : Except Failure (List ℕ)) : Prop :=
  g.Reported .defaults g' scanMessage (scanned [1, 2]).payload (scanned [1, 2]).grant [1, 2] answer

theorem reported_iff_scan :
    (reach (scan (watcher 11 [10]) (watcher 12 [10]))).shared.ScanReported
        (reach scanAndLeave).shared (.ok [11, 12]) ↔
      Qossing.Succeeds (scanned [1, 2]) (reach scanAndLeave).shared (.ok [11, 12]) :=
  reported_iff (m := scanMessage) .defaults _ _ _ _ _ _ (.tail _ (.head _))
    (Or.inl rfl)

/-- The query of the dispatch is rejected.  The message has been handled by then, and the device
    is told nothing. -/
theorem scan_failure_unseen : ∃ p p',
    Run (gatewayProgram .defaults).step anyStep (Gateway.start 0)
        (scan (watcher 11 [10]) (watcher 12 [10])) p ∧
      p.threads[3]? = some (.done (.ok ())) ∧ p.threads[4]? = some (.targets (scanned [1, 2])) ∧
      (gatewayProgram .defaults).step p (.resume 4 (.targets (.error connectionLost))) = some p' ∧
      p'.threads[4]? = some (.done (.error connectionLost)) ∧
      p'.shared.trace = p.shared.trace ∧
      ¬ p.shared.ScanReported p.shared (.error connectionLost) := by
  have hqossing : (reach (scan (watcher 11 [10]) (watcher 12 [10]))).threads[4]? =
      some (.targets (scanned [1, 2])) := rfl
  refine ⟨reach (scan (watcher 11 [10]) (watcher 12 [10])), _, run_of_exec rfl, rfl, hqossing,
    step_targets_error connectionLost hqossing, ?_, rfl, ?_⟩
  · exact List.getElem?_set_self (List.getElem?_eq_some_iff.1 hqossing).1
  rintro ⟨r, hr, hsettles⟩
  have hr' : Except.ok () = r := Task.done.inj hr
  cases hr'
  -- the query is asked by the one computation that was started
  have hfailed := hsettles (.targets (scanned [1, 2])) (List.mem_singleton_self _)
  cases hfailed

end GatewayRealtime
