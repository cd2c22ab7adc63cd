/-
  What a user has done with a stored event is final.

  * `Connections.Spares`: no frame of an event is for a session of the user.
  * `Gateway.Settled`: an event that was issued does not wait for the user, and since a certain
    instant no frame of it was for that user.
  * `Settled.change`, `settled_run`: nothing that the gateway does ends that.
  * `acknowledgement_final`: an acknowledgement settles an event, and so does its expiry.
-/
import GatewayRealtime.Partition

namespace GatewayRealtime

/-- Every frame of the stored event `e` is for a session of another user than `u`. -/
def Connections.Spares (k : Connections) (u : ℕ) (e : String) (effects : List Effect) : Prop :=
  ∀ c r frame, Effect.send c r frame (.stored e) ∈ effects →
    ∃ v, k.sessionId r = some v ∧ v ≠ u

/-- The event `e` was issued, it does not wait for `u`, and no frame of it was for `u` since
    what happened was `past`. -/
structure Gateway.Settled (cfg : GatewayConfig) (t₀ : ℤ) (u : ℕ) (e : String)
    (past : List Effect) (g : Gateway) : Prop where
  storeRun : g.StoreRun cfg t₀
  indexed : g.conn.Indexed
  issued : e ∈ g.issued cfg
  settled : ¬ g.store.Awaits u e g.clock
  spared : ∃ later, g.trace = past ++ later ∧ g.conn.Spares u e later

section
variable {cfg : GatewayConfig} {ok : Promise} {t₀ : ℤ} {g g' : Gateway} {k k' : Connections}
  {u : ℕ} {e : String} {past effects effects' : List Effect} {p p' q : Pool Gateway Task}

theorem Connections.Extends.sessionId (h : k.Extends k') {r : SessionRef} {v : ℕ}
    (hv : k.sessionId r = some v) : k'.sessionId r = some v := by
  obtain ⟨s, hs, rfl⟩ := Option.map_eq_some_iff.1 hv
  obtain ⟨s', hs', hid⟩ := h r s hs
  exact Option.map_eq_some_iff.2 ⟨s', hs', (WsSession.identity_eq hid).1⟩

theorem Connections.Spares.extends (h : k.Spares u e effects) (hext : k.Extends k') :
    k'.Spares u e effects := by
  intro c r frame hsent
  obtain ⟨v, hv, hne⟩ := h c r frame hsent
  exact ⟨v, hext.sessionId hv, hne⟩

theorem Connections.Spares.append (h : k.Spares u e effects) (h' : k.Spares u e effects') :
    k.Spares u e (effects ++ effects') := by
  intro c r frame hsent
  rcases List.mem_append.1 hsent with hsent | hsent
  · exact h c r frame hsent
  · exact h' c r frame hsent

/-- Notices are not frames of stored events. -/
theorem spares_notices (k : Connections) (u : ℕ) (e : String)
    (h : ∀ effect ∈ effects, effect.IsNotice) : k.Spares u e effects := by
  intro c r frame hsent
  cases h _ hsent

/-- Whatever is logged meanwhile spares the user. -/
theorem Gateway.Settled.log (hg : g.Settled cfg t₀ u e past) (h : g.conn.Spares u e effects) :
    (g.log effects).Settled cfg t₀ u e past := by
  obtain ⟨later, htrace, hspared⟩ := hg.spared
  refine ⟨hg.storeRun, hg.indexed, hg.issued, hg.settled, later ++ effects, ?_,
    hspared.append h⟩
  rw [← List.append_assoc, ← htrace]
  rfl

/-- An event does not wait for the sessions that frames of it are due to. -/
theorem Gateway.Settled.spares (hg : g.Settled cfg t₀ u e past)
    (h : ∀ effect ∈ effects, effect.Due ok g) : g.conn.Spares u e effects := by
  intro c r frame hsent
  obtain ⟨v, hfind, hawaits⟩ := h _ hsent
  obtain ⟨s, hs, hid⟩ := hg.indexed.session v r hfind
  refine ⟨v, Option.map_eq_some_iff.2 ⟨s, hs, hid⟩, ?_⟩
  rintro rfl
  exact hg.settled hawaits

theorem Gateway.Settled.setStore (hg : g.Settled cfg t₀ u e past) {s : EventStore JsObj}
    (hs : EventStore.Operated cfg.store g.clock g.store s) :
    (g.setStore s).Settled cfg t₀ u e past := by
  have hrun := hg.storeRun.setStore hs
  obtain ⟨notices, heq, hnotices⟩ := setStore_eq g s
  rw [heq] at hrun ⊢
  have hstored : Gateway.Settled cfg t₀ u e past { g with store := s } :=
    ⟨hrun, hg.indexed, hg.issued, fun h => hg.settled (h.of_operated hs), hg.spared⟩
  exact hstored.log (spares_notices _ u e hnotices)

theorem Gateway.Settled.createEvent (hg : g.Settled cfg t₀ u e past) (targetIds : List ℕ)
    (eventName : String) (payload : JsObj) (qos : QoS) (options : CreateOptions)
    (sender : SessionRef) (grant : Option Grant) :
    (g.createEvent cfg targetIds eventName payload qos options sender grant).Settled cfg t₀ u e
      past := by
  have hrun := hg.storeRun.createEvent targetIds eventName payload qos options sender grant
  obtain ⟨notices, heq, hnotices⟩ := createEvent_eq cfg g targetIds eventName payload qos options
    sender grant
  rw [heq] at hrun ⊢
  have hfresh := Gateway.randomUUID_not_mem_issued cfg g
  have hne : e ≠ cfg.randomUUID g.generated := ne_of_mem_of_not_mem hg.issued hfresh
  obtain ⟨later, htrace, hspared⟩ := hg.spared
  have hcreated : (g.withEvent cfg (g.store.create cfg.store (cfg.randomUUID g.generated) targetIds
      eventName payload qos options g.clock) targetIds sender grant).Settled cfg t₀ u e past := by
    refine ⟨hrun, hg.indexed, ?_, fun h => ?_, later ++ [.store (cfg.randomUUID g.generated)
      targetIds sender grant], ?_, hspared.append fun c r frame hsent => ?_⟩
    · rw [issued_withEvent]
      exact List.mem_cons_of_mem _ hg.issued
    · exact hg.settled (h.of_create hg.storeRun.worldInv.store hne
        (hg.storeRun.worldInv.fresh hfresh))
    · rw [← List.append_assoc, ← htrace]
      rfl
    · simp at hsent
  exact hcreated.log (spares_notices _ u e hnotices)

theorem Gateway.Settled.turn (hg : g.Settled cfg t₀ u e past) (hidx : k.Indexed)
    (hext : g.conn.Extends k) : Gateway.Settled cfg t₀ u e past { g with conn := k } := by
  obtain ⟨later, htrace, hspared⟩ := hg.spared
  exact ⟨hg.storeRun, hidx, hg.issued, hg.settled, later, htrace, hspared.extends hext⟩

theorem Gateway.Settled.tick (hg : g.Settled cfg t₀ u e past) {now : ℤ} (hle : g.clock ≤ now) :
    Gateway.Settled cfg t₀ u e past { g with clock := now } :=
  ⟨hg.storeRun.tick hle, hg.indexed, hg.issued, fun h => hg.settled (h.earlier hle), hg.spared⟩

/-- What is settled stays settled, and no frame of it is sent to the user. -/
theorem Gateway.Settled.change (hg : g.Settled cfg t₀ u e past) (h : Change cfg ok g g') :
    g'.Settled cfg t₀ u e past :=
  h.inv hg (fun _ _ hg hdue => hg.log (hg.spares hdue)) (fun _ _ hg hs => hg.setStore hs)
    (fun _ targetIds eventName payload qos options sender grant hg _ =>
      hg.createEvent targetIds eventName payload qos options sender grant)
    (fun _ _ hg hk => hg.turn (hk.indexed hg.indexed) hk.sessions)
    (fun _ _ _ _ hg => ⟨hg.storeRun, hg.indexed, hg.issued, hg.settled, hg.spared⟩)
    fun _ _ hg hle => hg.tick hle

/-- An event that does not wait for a user is settled from now on. -/
theorem Gateway.Inv.settled (hg : g.Inv cfg t₀) (hissued : e ∈ g.issued cfg)
    (h : ¬ g.store.Awaits u e g.clock) : g.Settled cfg t₀ u e g.trace :=
  ⟨hg.storeRun, hg.indexed, hissued, h, [], (List.append_nil _).symm, nofun⟩

theorem Gateway.Settled.step {act : Act GatewayEvent GatewayAnswer} (hp : Consistent cfg t₀ p)
    (hg : p.shared.Settled cfg t₀ u e past) (hst : (gatewayProgram cfg).step p act = some p') :
    p'.shared.Settled cfg t₀ u e past := by
  rcases hp.step_change hst with hchange | ⟨k₁, a, c, r, hentered, hidx, hchange⟩
  · exact hg.change hchange
  · exact (hg.turn hidx hentered.extends).change hchange

theorem settled_run {acts : List (Act GatewayEvent GatewayAnswer)} (hp : Consistent cfg t₀ p)
    (hg : p.shared.Settled cfg t₀ u e past)
    (h : Run (gatewayProgram cfg).step anyStep p acts q) : q.shared.Settled cfg t₀ u e past := by
  have hinv : Consistent cfg t₀ q ∧ q.shared.Settled cfg t₀ u e past :=
    h.inv (I := fun p => Consistent cfg t₀ p ∧ p.shared.Settled cfg t₀ u e past) ⟨hp, hg⟩
      fun _ _ _ hp _ hst => ⟨hp.1.step hst, hp.2.step hp.1 hst⟩
  exact hinv.2

/-! ## Acknowledgement and expiry -/

theorem expired_settles {s : EventStore JsObj} {now : ℤ}
    (h : ∀ record, s.getEvent e = some record → record.isExpired now = true) :
    ¬ s.Awaits u e now := by
  rintro ⟨-, r, hr, hpending⟩
  unfold EventRecord.isPending at hpending
  simp [h r hr] at hpending

/-- An acknowledgement that the gateway handles settles its event for the user. -/
theorem settled_acknowledge (hg : g.Inv cfg t₀) {r : SessionRef} {payload : Option JsVal}
    (hu : g.conn.sessionId r = some u) (hissued : payloadText payload "eventId" ∈ g.issued cfg) :
    (g.acknowledge cfg r payload).Settled cfg t₀ u (payloadText payload "eventId")
      (g.setStore (g.store.markApplied u (payloadText payload "eventId"))).trace := by
  obtain ⟨session, hs, rfl⟩ := Option.map_eq_some_iff.1 hu
  have hmark : Handling cfg .any g (g.setStore (g.store.markApplied session.sessionId
      (payloadText payload "eventId"))) :=
    Handling.refl.store (EventStore.operated_markApplied _ _)
  have hsettled := (hg.handling hmark).settled hissued
    ((EventStore.appliedBy_markApplied g.store session.sessionId _).not_awaits g.clock)
  have hafter : Handling cfg .any (g.setStore (g.store.markApplied session.sessionId
      (payloadText payload "eventId"))) (g.acknowledge cfg r payload) :=
    acknowledge_after hs (fun _ _ => trivial) (fun _ _ _ _ => trivial) payload
  exact hsettled.change hafter.change

/-- **An acknowledgement is final.**  From the step on that handles an acknowledgement, no frame
    of the stored event is for a session of the user; and once the event has expired, none is for
    a session of any user. -/
theorem acknowledgement_final {acts : List (Act GatewayEvent GatewayAnswer)}
    (h : Run (gatewayProgram cfg).step anyStep (Gateway.start t₀) acts p)
    (hissued : e ∈ p.shared.issued cfg) :
    (∀ event r payload u p', p.shared.acking event = some (r, payload) →
      p.shared.conn.sessionId r = some u → payloadText payload "eventId" = e →
      (gatewayProgram cfg).step p (.event event) = some p' →
      ∀ later q, Run (gatewayProgram cfg).step anyStep p' later q →
        q.shared.conn.Spares u e (q.shared.trace.drop p'.shared.trace.length)) ∧
    ((∀ record, p.shared.store.getEvent e = some record →
        record.isExpired p.shared.clock = true) →
      ∀ later q, Run (gatewayProgram cfg).step anyStep p later q →
        ∀ u, q.shared.conn.Spares u e (q.shared.trace.drop p.shared.trace.length)) := by
  have hp := consistent_run h
  have hrest : ∀ {p q later u}, Consistent cfg t₀ p → e ∈ p.shared.issued cfg →
      ¬ p.shared.store.Awaits u e p.shared.clock →
      Run (gatewayProgram cfg).step anyStep p later q →
      q.shared.conn.Spares u e (q.shared.trace.drop p.shared.trace.length) := by
    intro p q later u hp hissued hsettled hrun
    obtain ⟨rest, htrace, hspared⟩ :=
      (settled_run hp (hp.1.settled hissued hsettled) hrun).spared
    rw [htrace, List.drop_left]
    exact hspared
  refine ⟨fun event r payload u p' hack hu he hst later q hrun => ?_,
    fun hexpired later q hrun u => hrest hp hissued (expired_settles hexpired) hrun⟩
  subst he
  obtain ⟨e', r', payload', ⟨⟩, hack', hacknowledged⟩ | ⟨i, c, a, ⟨⟩, -⟩ |
    ⟨i, c, r, devices, ⟨⟩, -⟩ | ⟨i, q, ids, ⟨⟩, -⟩ | ⟨hnot, -⟩ := hp.step_cases .any hst
  · rw [hack] at hack'
    cases hack'
    have hsettled := settled_acknowledge hp.1 hu hissued
    rw [← hacknowledged] at hsettled
    exact hrest (hp.step hst) hsettled.issued hsettled.settled hrun
  · rw [hnot event rfl] at hack
    cases hack

end

/-! ## Two uploads, of which one is acknowledged -/

/-- The browser on the second socket tells the devices that an upload has ended. -/
def uploadEnds : Act GatewayEvent GatewayAnswer :=
  .event (.message 1 (some (.obj [text "event" "upload-audio-end"])))

/-- That happens twice; a second device of the tenant is not connected. -/
def twoUploads : List (Act GatewayEvent GatewayAnswer) :=
  enters 0 reader ++ enters 1 (watcher 11 []) ++
    [.resume 1 (.devices (.ok [])), uploadEnds, uploadEnds,
      .resume 3 (.targets (.ok [7, 8])), .resume 5 (.targets (.ok [7, 8]))]

/-- The device acknowledges the second. -/
def secondAcked : GatewayEvent :=
  .message 0 (some (.obj [text "event" "event:ack", ("data", .obj [text "eventId" "e"])]))

/-- The device connects again. -/
def reconnects : List (Act GatewayEvent GatewayAnswer) :=
  [.event (.close 0), .event .connect, .resume 7 (.rateLimit (.ok ())),
    .resume 7 (.authenticated (.ok reader))]

/-- It is sent the first event then; and after the time to live of the events, nobody is sent
    any of them. -/
theorem acknowledgement_final_twoUploads :
    (∃ p' q, (gatewayProgram .defaults).step (reach twoUploads) (.event secondAcked) = some p' ∧
      Run (gatewayProgram .defaults).step anyStep p' reconnects q ∧
      (∃ frame, Effect.send 2 0 frame (.stored "") ∈
        q.shared.trace.drop p'.shared.trace.length) ∧
      q.shared.conn.Spares 7 "e" (q.shared.trace.drop p'.shared.trace.length)) ∧
    ∃ q, Run (gatewayProgram .defaults).step anyStep (reach (twoUploads ++ [.event (.tick 30001)]))
        (.event secondAcked :: reconnects) q ∧
      ∀ u, q.shared.conn.Spares u "e"
        (q.shared.trace.drop (reach (twoUploads ++ [.event (.tick 30001)])).shared.trace.length) :=
  by
  have hrun : Run (gatewayProgram .defaults).step anyStep (Gateway.start 0) twoUploads
      (reach twoUploads) := run_of_exec rfl
  have hlate : Run (gatewayProgram .defaults).step anyStep (Gateway.start 0)
      (twoUploads ++ [.event (.tick 30001)]) (reach (twoUploads ++ [.event (.tick 30001)])) :=
    run_of_exec rfl
  constructor
  · have hagain : Run (gatewayProgram .defaults).step anyStep
        (reach (twoUploads ++ [.event secondAcked])) reconnects
        (reach (twoUploads ++ [.event secondAcked] ++ reconnects)) := run_of_exec rfl
    have hissued : "e" ∈ (reach twoUploads).shared.issued .defaults := by decide
    have hack : (reach twoUploads).shared.acking secondAcked =
        some (0, some (.obj [text "eventId" "e"])) := rfl
    have hst : (gatewayProgram .defaults).step (reach twoUploads) (.event secondAcked) =
        some (reach (twoUploads ++ [.event secondAcked])) := rfl
    refine ⟨_, _, hst, hagain, ⟨_, List.mem_of_getElem? (i := 1) rfl⟩, ?_⟩
    exact (acknowledgement_final hrun hissued).1 secondAcked 0 _ 7 _ hack (by decide) (by decide)
      hst reconnects _ hagain
  · have hagain : Run (gatewayProgram .defaults).step anyStep
        (reach (twoUploads ++ [.event (.tick 30001)])) (.event secondAcked :: reconnects)
        (reach (twoUploads ++ [.event (.tick 30001), .event secondAcked] ++ reconnects)) :=
      run_of_exec rfl
    refine ⟨_, hagain, (acknowledgement_final hlate (e := "e") (by decide)).2 (fun record hr => ?_)
      _ _ hagain⟩
    have hexpired : ∀ record ∈ (reach (twoUploads ++
        [.event (.tick 30001)])).shared.store.getEvent "e", record.isExpired 30001 = true := by
      decide
    exact hexpired record hr

end GatewayRealtime
