/-
  Tenants do not see each other.

  * `Gateway.CreatedBy`: the session whose message created an event.
  * `Isolated`: every frame goes to the tenant of the session that it is caused by, or of the
    devices that it is about.
  * `Truthful`: what the database is trusted with; `AcksAtHome`: acknowledgements come from the
    tenant of the event.
  * `Gateway.Housed`: the invariant: the sessions and the indexed events of a user are of the
    tenant that owns it.
  * `tenants_isolated`: then no frame ever leaves its tenant.
-/
import GatewayRealtime.Acknowledge
import GatewayRealtime.Recipients

namespace GatewayRealtime

/-- A message of the session `sender` created the event `e`. -/
def Gateway.CreatedBy (g : Gateway) (e : String) (sender : SessionRef) : Prop :=
  ∃ targets grant, Effect.store e targets sender grant ∈ g.trace

/-- The device `id` is listed in a frame `device-snapshot`. -/
def Frame.Lists (frame : Frame) (id : ℕ) : Prop :=
  frame.event = some (.str "device-snapshot") ∧
    ∃ fields items item, frame = .json fields ∧ OMap.find "data" fields = some (.arr items) ∧
      item ∈ items ∧ item.field "id" = some (.num id)

/-- Every device that a frame lists is of the tenant of the session. -/
def Connections.ListsOwn (k : Connections) (deviceOwner : ℕ → String) (r : SessionRef)
    (frame : Frame) : Prop :=
  ∀ id, frame.Lists id → ∃ s : WsSession, k.heap[r]? = some s ∧
    deviceOwner id = s.principal.clientId

/-- A frame stays within a tenant: that of the sender of a dispatch, of the session that created a
    stored event, of the device whose presence it tells, or of the devices that it lists. -/
def Effect.Isolated (deviceOwner : ℕ → String) (g : Gateway) : Effect → Prop
  | .send _ r _ (.dispatch sender _) => g.conn.SameTenant sender r
  | .send _ r _ (.stored e) => ∃ sender, g.CreatedBy e sender ∧ g.conn.SameTenant sender r
  | .send _ r _ (.presence device) => g.conn.SameTenant device r
  | .send _ r frame .notice => g.conn.ListsOwn deviceOwner r frame
  | _ => True

/-- No frame has left its tenant, and no event was created twice. -/
structure Gateway.Isolated (deviceOwner : ℕ → String) (g : Gateway) : Prop where
  sent : ∀ e ∈ g.trace, e.Isolated deviceOwner g
  once : ∀ e sender sender', g.CreatedBy e sender → g.CreatedBy e sender' → sender = sender'

/-- What `g` has sent since it was `g₀` about an event that is delivered went to the tenant of the
    session `r`. -/
def Gateway.TellsHome (g g₀ : Gateway) (r : SessionRef) : Prop :=
  ∀ c r' frame, Effect.send c r' frame .notice ∈ g.trace.drop g₀.trace.length →
    frame.delivered ≠ none → g.conn.SameTenant r r'

/-- The session that a computation has to tell the devices of its tenant. -/
def Task.browsing : Task → Option SessionRef
  | .snapshot _ r => some r
  | _ => none

/-- What the database is trusted with: an end user belongs to one tenant, its owner; the targets
    of a dispatch are users of the tenant of the sender; and the devices that a browser is told of
    are those of its tenant. -/
def Truthful (owner deviceOwner : ℕ → String) (p : Pool Gateway Task) :
    Act GatewayEvent GatewayAnswer → Prop
  | .resume _ (.authenticated (.ok a)) => a.auth.clientId = owner a.id_enduser
  | .resume i (.targets (.ok ids)) =>
    ∀ q ∈ (p.threads[i]?).bind Task.dispatching, ∀ s ∈ p.shared.conn.heap[q.sender]?,
      ∀ id ∈ ids, owner id = s.principal.clientId
  | .resume i (.devices (.ok rows)) =>
    ∀ r ∈ (p.threads[i]?).bind Task.browsing, ∀ s ∈ p.shared.conn.heap[r]?,
      ∀ row ∈ rows, deviceOwner row.id = s.principal.clientId
  | _ => True

/-- The condition on acknowledgements: those of which somebody is told come from its tenant. -/
def AcksAtHome (owner : ℕ → String) (p : Pool Gateway Task) :
    Act GatewayEvent GatewayAnswer → Prop
  | .event event => ∀ a ∈ p.shared.ackOf event, a.sender ≠ 0 →
    owner a.sender = a.session.principal.clientId
  | .resume .. => True

/-- Whoever has a session is of the tenant of its session, whatever is indexed for a user was
    created by a session of its tenant, and no frame has left its tenant. -/
structure Gateway.Housed (cfg : GatewayConfig) (t₀ : ℤ) (owner deviceOwner : ℕ → String)
    (g : Gateway) : Prop where
  storeRun : g.StoreRun cfg t₀
  owned : ∀ u r, g.conn.find u = some r → ∃ s : WsSession, g.conn.heap[r]? = some s ∧
    s.principal.clientId = owner u
  indexed : ∀ u e, EventStore.inIndex g.store.userEvents u e → ∃ sender, g.CreatedBy e sender ∧
    ∃ s : WsSession, g.conn.heap[sender]? = some s ∧ s.principal.clientId = owner u
  issued : ∀ e sender, g.CreatedBy e sender → e ∈ g.issued cfg
  isolated : g.Isolated deviceOwner

section
variable {cfg : GatewayConfig} {ok : Promise} {t₀ : ℤ} {g g' : Gateway} {k k' : Connections}
  {owner deviceOwner : ℕ → String} {r : SessionRef} {e : String} {sender : SessionRef}
  {p p' : Pool Gateway Task} {act : Act GatewayEvent GatewayAnswer}

/-- Events are created for users of the tenant of the session, and a session is told of devices
    of its tenant. -/
def Promise.housing (owner deviceOwner : ℕ → String) : Promise where
  create k targetIds _ sender _ := ∀ id ∈ targetIds, ∃ s : WsSession,
    k.heap[sender]? = some s ∧ owner id = s.principal.clientId
  notice k r frame := k.ListsOwn deviceOwner r frame

/-! ## Frames -/

theorem Gateway.CreatedBy.mono (h : g.CreatedBy e sender) (htrace : g.trace <+: g'.trace) :
    g'.CreatedBy e sender := by
  obtain ⟨targets, grant, hmem⟩ := h
  exact ⟨targets, grant, htrace.subset hmem⟩

/-- A frame that lists no devices. -/
theorem listsOwn_of_event {frame : Frame} (k : Connections) (deviceOwner : ℕ → String)
    (r : SessionRef) (h : frame.event ≠ some (.str "device-snapshot")) :
    k.ListsOwn deviceOwner r frame := fun _ hlists => absurd hlists.1 h

theorem Effect.Isolated.mono {effect : Effect} (h : effect.Isolated deviceOwner g)
    (htrace : g.trace <+: g'.trace) (hext : g.conn.Extends g'.conn) :
    effect.Isolated deviceOwner g' := by
  unfold Effect.Isolated at h ⊢
  split
  · exact h.extends hext
  · obtain ⟨sender, hcreated, htenant⟩ := h
    exact ⟨sender, hcreated.mono htrace, htenant.extends hext⟩
  · exact h.extends hext
  · intro id hlists
    obtain ⟨s, hs, howner⟩ := h id hlists
    obtain ⟨s', hs', hid⟩ := hext _ s hs
    refine ⟨s', hs', ?_⟩
    rw [howner, (WsSession.identity_eq hid).2.1]
  · trivial

theorem Gateway.Isolated.of_eq (h : g.Isolated deviceOwner) (htrace : g'.trace = g.trace)
    (hext : g.conn.Extends g'.conn) : g'.Isolated deviceOwner where
  sent effect heffect := by
    rw [htrace] at heffect
    exact (h.sent effect heffect).mono (htrace ▸ List.prefix_refl _) hext
  once e sender sender' hc hc' := by
    unfold Gateway.CreatedBy at hc hc'
    rw [htrace] at hc hc'
    exact h.once e sender sender' hc hc'

/-- An effect that the state accounts for is isolated. -/
theorem Gateway.Housed.isolates (hg : g.Housed cfg t₀ owner deviceOwner) {effect : Effect}
    (h : effect.Due (.housing owner deviceOwner) g) : effect.Isolated deviceOwner g := by
  unfold Effect.Isolated
  split
  · exact h.tenant _ (List.mem_singleton_self _)
  · obtain ⟨u, hfind, hawaits⟩ := h
    obtain ⟨sender, hcreated, s, hs, howner⟩ := hg.indexed u _ hawaits.indexed
    obtain ⟨s', hs', howner'⟩ := hg.owned u _ hfind
    exact ⟨sender, hcreated, s, s', hs, hs', howner'.trans howner.symm⟩
  · exact h
  · rcases h with hexpired | hown
    · refine listsOwn_of_event _ _ _ ?_
      rw [hexpired]
      simp
    · exact hown
  · trivial

/-! ## Elementary changes -/

theorem Gateway.Housed.log (hg : g.Housed cfg t₀ owner deviceOwner) {effects : List Effect}
    (h : ∀ effect ∈ effects, effect.Due (.housing owner deviceOwner) g) :
    (g.log effects).Housed cfg t₀ owner deviceOwner := by
  have hcreated : ∀ {e sender}, (g.log effects).CreatedBy e sender → g.CreatedBy e sender := by
    rintro e sender ⟨targets, grant, hmem⟩
    rcases List.mem_append.1 hmem with hmem | hmem
    · exact ⟨targets, grant, hmem⟩
    · exact (h _ hmem).elim
  have htrace : g.trace <+: (g.log effects).trace := List.prefix_append _ _
  refine ⟨hg.storeRun, hg.owned, fun u e hidx => ?_, fun e sender hc => hg.issued e sender
    (hcreated hc), fun effect heffect => ?_, fun e sender sender' hc hc' =>
      hg.isolated.once e sender sender' (hcreated hc) (hcreated hc')⟩
  · obtain ⟨sender, hc, hs⟩ := hg.indexed u e hidx
    exact ⟨sender, hc.mono htrace, hs⟩
  · have hisolated : effect.Isolated deviceOwner g := (List.mem_append.1 heffect).elim
      (hg.isolated.sent effect) fun heffect => hg.isolates (h effect heffect)
    exact hisolated.mono htrace fun r s hs => ⟨s, hs, rfl⟩

theorem Gateway.Housed.notices (hg : g.Housed cfg t₀ owner deviceOwner) {notices : List Effect}
    (h : ∀ effect ∈ notices, effect.IsNotice) :
    (g.log notices).Housed cfg t₀ owner deviceOwner :=
  hg.log fun effect heffect => (h effect heffect).due

theorem Gateway.Housed.setStore (hg : g.Housed cfg t₀ owner deviceOwner)
    {s : EventStore JsObj} (hs : EventStore.Operated cfg.store g.clock g.store s) :
    (g.setStore s).Housed cfg t₀ owner deviceOwner := by
  have hrun := hg.storeRun.setStore hs
  obtain ⟨notices, heq, hnotices⟩ := setStore_eq g s
  rw [heq] at hrun ⊢
  have hstored : Gateway.Housed cfg t₀ owner deviceOwner { g with store := s } :=
    ⟨hrun, hg.owned, fun u e hidx => hg.indexed u e (hs.noGrow.index u e hidx), hg.issued,
      hg.isolated.of_eq rfl fun r s hs => ⟨s, hs, rfl⟩⟩
  exact hstored.notices hnotices

/-- The id of a new event is new, so nobody else has created it. -/
theorem Gateway.Housed.createEvent (hg : g.Housed cfg t₀ owner deviceOwner)
    {targetIds : List ℕ} (eventName : String) (payload : JsObj) (qos : QoS)
    (options : CreateOptions) {sender : SessionRef} (grant : Option Grant)
    (hown : ∀ id ∈ targetIds, ∃ s : WsSession, g.conn.heap[sender]? = some s ∧
      owner id = s.principal.clientId) :
    (g.createEvent cfg targetIds eventName payload qos options sender grant).Housed cfg t₀ owner
      deviceOwner := by
  have hrun := hg.storeRun.createEvent targetIds eventName payload qos options sender grant
  have hgrows := EventStore.create_growsBy cfg.store g.store (cfg.randomUUID g.generated)
    targetIds eventName payload qos options g.clock
  have hfresh := Gateway.randomUUID_not_mem_issued cfg g
  obtain ⟨notices, heq, hnotices⟩ := createEvent_eq cfg g targetIds eventName payload qos options
    sender grant
  rw [heq] at hrun ⊢
  generalize hg' : g.withEvent cfg (g.store.create cfg.store (cfg.randomUUID g.generated) targetIds
    eventName payload qos options g.clock) targetIds sender grant = g' at hrun ⊢
  have htrace : g'.trace = g.trace ++ [.store (cfg.randomUUID g.generated) targetIds sender
    grant] := by rw [← hg']; rfl
  have hconn : g'.conn = g.conn := by rw [← hg']; rfl
  have hissued : g'.issued cfg = cfg.randomUUID g.generated :: g.issued cfg := by
    rw [← hg', issued_withEvent]
  have hinit : g.trace <+: g'.trace := by
    rw [htrace]
    exact List.prefix_append _ _
  have hself : g'.CreatedBy (cfg.randomUUID g.generated) sender := by
    refine ⟨targetIds, grant, ?_⟩
    rw [htrace]
    exact List.mem_append_right _ (List.mem_singleton_self _)
  have hcreated : ∀ e sender', g'.CreatedBy e sender' → g.CreatedBy e sender' ∨
      e = cfg.randomUUID g.generated ∧ sender' = sender := by
    rintro e sender' ⟨targets, grant', hmem⟩
    rw [htrace] at hmem
    rcases List.mem_append.1 hmem with hmem | hmem
    · exact Or.inl ⟨targets, grant', hmem⟩
    · cases List.mem_singleton.1 hmem
      exact Or.inr ⟨rfl, rfl⟩
  have hhoused : g'.Housed cfg t₀ owner deviceOwner := by
    refine ⟨hrun, by rw [hconn]; exact hg.owned, fun u e hidx => ?_, fun e sender' hc => ?_,
      fun effect heffect => ?_, fun e sender₁ sender₂ h₁ h₂ => ?_⟩
    · rw [← hg'] at hidx
      rw [hconn]
      rcases hgrows.index u e hidx with hold | ⟨rfl, hu⟩
      · obtain ⟨sender', hc, hs⟩ := hg.indexed u e hold
        exact ⟨sender', hc.mono hinit, hs⟩
      · obtain ⟨s, hs, howner⟩ := hown u hu
        exact ⟨sender, hself, s, hs, howner.symm⟩
    · rw [hissued]
      rcases hcreated e sender' hc with hold | ⟨rfl, -⟩
      · exact List.mem_cons_of_mem _ (hg.issued e sender' hold)
      · exact List.mem_cons_self
    · rw [htrace] at heffect
      rcases List.mem_append.1 heffect with hold | hnew
      · refine (hg.isolated.sent effect hold).mono hinit ?_
        rw [hconn]
        exact fun r s hs => ⟨s, hs, rfl⟩
      · cases List.mem_singleton.1 hnew
        trivial
    · rcases hcreated e sender₁ h₁ with hold₁ | ⟨rfl, rfl⟩
      · rcases hcreated e sender₂ h₂ with hold₂ | ⟨rfl, -⟩
        · exact hg.isolated.once e sender₁ sender₂ hold₁ hold₂
        · exact absurd (hg.issued _ sender₁ hold₁) hfresh
      · rcases hcreated _ sender₂ h₂ with hold₂ | ⟨-, rfl⟩
        · exact absurd (hg.issued _ sender₂ hold₂) hfresh
        · rfl
  exact hhoused.notices hnotices

/-- A turn of the connections that gives a session only to users of its tenant. -/
theorem Gateway.Housed.turn (hg : g.Housed cfg t₀ owner deviceOwner)
    (hext : g.conn.Extends k)
    (howned : ∀ u r, k.find u = some r → ∃ s : WsSession, k.heap[r]? = some s ∧
      s.principal.clientId = owner u) :
    Gateway.Housed cfg t₀ owner deviceOwner { g with conn := k } := by
  refine ⟨hg.storeRun, howned, fun u e hidx => ?_, hg.issued, hg.isolated.of_eq rfl hext⟩
  obtain ⟨sender, hc, s, hs, howner⟩ := hg.indexed u e hidx
  obtain ⟨s', hs', hid⟩ := hext sender s hs
  refine ⟨sender, hc, s', hs', ?_⟩
  rw [(WsSession.identity_eq hid).2.1, howner]

theorem Gateway.Housed.shrinks (hg : g.Housed cfg t₀ owner deviceOwner)
    (hk : g.conn.Shrinks k) : Gateway.Housed cfg t₀ owner deviceOwner { g with conn := k } := by
  refine hg.turn hk.sessions fun u r hfind => ?_
  obtain ⟨s, hs, howner⟩ := hg.owned u r (hk.find u r hfind)
  obtain ⟨s', hs', hid⟩ := hk.sessions r s hs
  refine ⟨s', hs', ?_⟩
  rw [(WsSession.identity_eq hid).2.1, howner]

theorem Gateway.Housed.change (hg : g.Housed cfg t₀ owner deviceOwner)
    (h : Change cfg (.housing owner deviceOwner) g g') :
    g'.Housed cfg t₀ owner deviceOwner :=
  h.inv hg (fun _ _ hg hdue => hg.log hdue) (fun _ _ hg hs => hg.setStore hs)
    (fun _ _ eventName payload qos options _ grant hg hok =>
      hg.createEvent eventName payload qos options grant hok)
    (fun _ _ hg hk => hg.shrinks hk)
    (fun _ _ _ _ hg => ⟨hg.storeRun, hg.owned, hg.indexed, hg.issued,
      hg.isolated.of_eq rfl fun _ s hs => ⟨s, hs, rfl⟩⟩)
    fun _ _ hg hle => ⟨hg.storeRun.tick hle, hg.owned, hg.indexed, hg.issued,
      hg.isolated.of_eq rfl fun _ s hs => ⟨s, hs, rfl⟩⟩

/-! ## Steps -/

/-- Who enters is of the tenant that owns its user. -/
theorem Gateway.Housed.entered (hg : g.Housed cfg t₀ owner deviceOwner) {a : Authenticated}
    {client : ClientRef} (h : g.conn.Entered k a client r)
    (howner : a.auth.clientId = owner a.id_enduser) :
    Gateway.Housed cfg t₀ owner deviceOwner { g with conn := k } := by
  refine hg.turn h.extends fun u r' hfind => ?_
  have hold : g.conn.find u = some r' → ∃ s : WsSession, k.heap[r']? = some s ∧
      s.principal.clientId = owner u := by
    intro hfind
    obtain ⟨s, hs, hs'⟩ := hg.owned u r' hfind
    obtain ⟨s₁, hs₁, hid⟩ := h.extends r' s hs
    refine ⟨s₁, hs₁, ?_⟩
    rw [(WsSession.identity_eq hid).2.1, hs']
  rw [h.find] at hfind
  split_ifs at hfind with hu
  · cases hfind
    subst hu
    rcases h.heap with ⟨-, rfl, hheap⟩ | ⟨hsome, -⟩
    · refine ⟨_, by rw [hheap, List.getElem?_concat_length], howner⟩
    · exact hold hsome
  · exact hold hfind

/-- The devices that a browser is told of are those of the answer. -/
theorem lists_snapshot {devices : Except Failure (List Connections.DeviceInfo)} {c : ClientRef}
    {frame : Frame} {id : ℕ} (h : Effect.send c r frame .notice ∈ k.snapshot r devices)
    (hlists : frame.Lists id) : (∃ s : WsSession, k.heap[r]? = some s) ∧
      ∃ rows row, devices = .ok rows ∧ row ∈ rows ∧ row.id = id := by
  unfold Connections.snapshot at h
  split at h
  · cases h
  · rename_i session hs
    obtain ⟨c', -, -, heq⟩ := mem_send_iff.1 h
    cases heq
    refine ⟨⟨session, hs⟩, ?_⟩
    obtain ⟨-, fields, items, item, ⟨⟩, hdata, hitem, hid⟩ := hlists
    cases hdata
    cases devices with
    | error f => cases hitem
    | ok rows =>
      obtain ⟨row, hrow, rfl⟩ := List.mem_map.1 hitem
      refine ⟨rows, row, rfl, hrow, ?_⟩
      have hcast : (row.id : ℚ) = (id : ℚ) := JsVal.num.inj (Option.some.inj hid)
      exact_mod_cast hcast

/-- Acknowledgements that come from the tenant of the event tell its sender and nobody else. -/
theorem acknowledge_housing {event : GatewayEvent} {payload : Option JsVal}
    (hack : g.acking event = some (r, payload))
    (hhome : ∀ a ∈ g.ackOf event, a.sender ≠ 0 → owner a.sender = a.session.principal.clientId) :
    Handling cfg (.housing owner deviceOwner) g (g.acknowledge cfg r payload) := by
  by_cases hnone : ∀ a ∈ g.ackOf event, a.sender = 0
  · exact acknowledge_silent hack hnone
  · obtain ⟨a, ha⟩ := not_forall.1 hnone
    obtain ⟨ha, h0⟩ := Classical.not_imp.1 ha
    obtain ⟨r', payload', hack', hs, hr, hnotify, hsender, hne⟩ := ackOf_eq_some.1 ha
    rw [hack] at hack'
    cases hack'
    have hmark : Handling cfg (.housing owner deviceOwner) g (g.setStore
        (g.store.markApplied a.session.sessionId (payloadText payload "eventId"))) :=
      Handling.refl.store (EventStore.operated_markApplied _ _)
    rw [acknowledge_told hs hr hnotify hsender hne h0]
    split
    · refine hmark.log fun effect heffect => ?_
      obtain ⟨c, -, -, rfl⟩ := mem_send_iff.1 heffect
      exact Or.inr (listsOwn_of_event _ _ _ (by simp [Frame.event, text, OMap.find]))
    · refine hmark.create fun id hid => ?_
      rw [List.mem_singleton.1 hid]
      exact ⟨a.session, hs, hhome a ha h0⟩

theorem Gateway.Housed.step (hp : Consistent cfg t₀ p)
    (hg : p.shared.Housed cfg t₀ owner deviceOwner) (hdb : Truthful owner deviceOwner p act)
    (hacks : AcksAtHome owner p act) (hst : (gatewayProgram cfg).step p act = some p') :
    p'.shared.Housed cfg t₀ owner deviceOwner := by
  obtain ⟨event, r, payload, rfl, hack, heq⟩ | ⟨-, hchange | ⟨i, k₁, a, c, r, rfl, hentered, -,
      hchange⟩⟩ := hp.step_promise (.housing owner deviceOwner) hst
    (fun i c r devices hact ht c' frame hsent _ id hlists => by
      subst hact
      obtain ⟨⟨s, hs⟩, rows, row, rfl, hrow, rfl⟩ := lists_snapshot hsent hlists
      exact ⟨s, hs, hdb r (by simp [ht, Task.browsing]) s hs row hrow⟩)
    fun i q ids hact ht hq => by
      subst hact
      obtain ⟨s, hs⟩ := hq.routed.exists_sender
      have hoffline : ∀ id ∈ Gateway.offlineIds p.shared.conn q ids, ∃ s : WsSession,
          p.shared.conn.heap[q.sender]? = some s ∧ owner id = s.principal.clientId :=
        fun id hid => ⟨s, hs, hdb q (by simp [ht, Task.dispatching]) s hs id
          (List.mem_filter.1 hid).1⟩
      refine ⟨fun _ => hoffline, fun _ id hid => ?_⟩
      rcases List.mem_append.1 hid with hid | hid
      · -- a receiver that is online is of the tenant of the sender
        obtain ⟨r, hr, honline⟩ := mem_onlineIds.1 hid
        obtain ⟨s₁, s₂, hs₁, hs₂, htenant⟩ := hq.routed.tenant r hr
        obtain ⟨s₃, hs₃, howner⟩ := hg.owned id r (honline.find hp.1.conn)
        rw [hs₂] at hs₃
        cases hs₃
        exact ⟨s₁, hs₁, howner.symm.trans htenant⟩
      · exact hoffline id hid
  · rw [heq]
    exact hg.change (acknowledge_housing hack hacks).change
  · exact hg.change hchange
  · exact (hg.entered hentered hdb).change hchange

theorem housed_start (cfg : GatewayConfig) (t₀ : ℤ) (owner deviceOwner : ℕ → String) :
    (Gateway.start t₀).shared.Housed cfg t₀ owner deviceOwner where
  storeRun := (gatewayInv_start cfg t₀).storeRun
  owned := nofun
  indexed u e hidx := by
    obtain ⟨set, hset, -⟩ := hidx
    cases hset
  issued e sender hc := by
    obtain ⟨targets, grant, hmem⟩ := hc
    cases hmem
  isolated := by
    refine ⟨List.forall_mem_nil _, fun e sender sender' hc => ?_⟩
    obtain ⟨targets, grant, hmem⟩ := hc
    cases hmem

/-- The notice about an acknowledgement stays within the tenant, if the acknowledgement came from
    the tenant of the event. -/
theorem Gateway.Housed.told_home (hg : g.Housed cfg t₀ owner deviceOwner) {event : GatewayEvent}
    {payload : Option JsVal} (hack : g.acking event = some (r, payload))
    (hhome : ∀ a ∈ g.ackOf event, a.sender ≠ 0 → owner a.sender = a.session.principal.clientId) :
    (g.acknowledge cfg r payload).TellsHome g r := by
  have hh : Handling cfg (.housing owner deviceOwner) g (g.acknowledge cfg r payload) :=
    acknowledge_housing hack hhome
  intro c r' frame hsent hdelivered
  by_cases hnone : ∀ a ∈ g.ackOf event, a.sender = 0
  · have hsilent : Handling cfg .silent g (g.acknowledge cfg r payload) :=
      acknowledge_silent hack hnone
    obtain ⟨later, htrace, hlater⟩ := ((Untold.refl hg.storeRun).change hsilent.change).later
    rw [htrace, List.drop_left] at hsent
    exact absurd (hlater _ hsent) hdelivered
  · obtain ⟨a, ha⟩ := not_forall.1 hnone
    obtain ⟨ha, h0⟩ := Classical.not_imp.1 ha
    obtain ⟨r₁, payload₁, hack₁, hs, hr, hnotify, hsender, hne⟩ := ackOf_eq_some.1 ha
    rw [hack] at hack₁
    cases hack₁
    have hmarked := (Untold.refl hg.storeRun).setStore (s := g.store.markApplied
      a.session.sessionId (payloadText payload "eventId")) (EventStore.operated_markApplied _ _)
    obtain ⟨later, htrace, hlater⟩ := hmarked.later
    have htold : g.acknowledge cfg r payload = _ :=
      acknowledge_told hs hr hnotify hsender hne h0
    cases hactive : (g.conn.find a.sender).filter g.conn.isActive with
    | some s =>
      -- the sender of the event is active
      rw [hactive] at htold
      rw [htold] at hsent
      simp only [Gateway.log, htrace, List.append_assoc, List.drop_left] at hsent
      rcases List.mem_append.1 hsent with hsent | hsent
      · exact absurd (hlater _ hsent) hdelivered
      · obtain ⟨c', -, -, heq⟩ := mem_send_iff.1 hsent
        cases heq
        obtain ⟨hfind, -⟩ := Option.filter_eq_some_iff.1 hactive
        obtain ⟨s', hs', howner⟩ := hg.owned a.sender _ hfind
        have htenant : g.conn.SameTenant r r' :=
          ⟨a.session, s', hs, hs', howner.trans (hhome a ha h0)⟩
        exact htenant.extends hh.kept.shrinks.sessions
    | none =>
      rw [hactive] at htold
      obtain ⟨rest, hrest, hnew⟩ := createEvent_later cfg (g.setStore (g.store.markApplied
        a.session.sessionId (payloadText payload "eventId"))) [a.sender] "event:delivered"
        (deliveredNotice a.record a.session g.clock payload) .qos1 { ttl := some 3600000 } r none
      rw [htold, hrest, htrace, List.append_assoc, List.drop_left] at hsent
      exact absurd ((List.mem_append.1 hsent).elim (hlater _) (hnew _)) hdelivered

/-- **Tenants are isolated.**  If the database is truthful, and acknowledgements come from the
    tenants of their events, then in every run each frame that the message of a session causes goes
    to a session of its tenant, and so does each frame about a device. -/
theorem tenants_isolated {acts : List (Act GatewayEvent GatewayAnswer)}
    (h : Run (gatewayProgram cfg).step
      (fun p act => Truthful owner deviceOwner p act ∧ AcksAtHome owner p act)
      (Gateway.start t₀) acts p) :
    p.shared.Isolated deviceOwner ∧
    ∀ pre event post q q' r payload, acts = pre ++ .event event :: post →
      Run (gatewayProgram cfg).step anyStep (Gateway.start t₀) pre q →
      (gatewayProgram cfg).step q (.event event) = some q' →
      q.shared.acking event = some (r, payload) → q'.shared.TellsHome q.shared r := by
  have hrun : ∀ {acts p}, Run (gatewayProgram cfg).step
      (fun p act => Truthful owner deviceOwner p act ∧ AcksAtHome owner p act)
      (Gateway.start t₀) acts p →
      Consistent cfg t₀ p ∧ p.shared.Housed cfg t₀ owner deviceOwner := by
    intro acts p h
    exact h.inv (I := fun p => Consistent cfg t₀ p ∧ p.shared.Housed cfg t₀ owner deviceOwner)
      ⟨consistent_start cfg t₀, housed_start cfg t₀ owner deviceOwner⟩
      fun _ _ _ hp hok hst => ⟨hp.1.step hst, hp.2.step hp.1 hok.1 hok.2 hst⟩
  refine ⟨(hrun h).2.isolated, fun pre event post q q' r payload hacts hpre hst hack => ?_⟩
  subst hacts
  obtain ⟨q₁, -, hpre₁, hok, -⟩ := h.cut
  obtain rfl : q₁ = q := hpre₁.det hpre
  obtain ⟨hp, hg⟩ := hrun hpre₁
  obtain ⟨event', r', payload', ⟨⟩, hack', heq⟩ | ⟨i, c, a, ⟨⟩, -⟩ |
    ⟨i, c, r, devices, ⟨⟩, -⟩ | ⟨i, q, ids, ⟨⟩, -⟩ | ⟨hnot, -⟩ := hp.step_cases .any hst
  · rw [hack] at hack'
    cases hack'
    rw [heq]
    exact hg.told_home hack hok.2
  · rw [hnot event rfl] at hack
    cases hack

end

/-! ## Two tenants -/

instance (owner deviceOwner : ℕ → String) : DecidableRel (Truthful owner deviceOwner) :=
  fun p act =>
    match act with
    | .event _ => isTrue trivial
    | .resume _ (.authenticated (.ok a)) =>
      inferInstanceAs (Decidable (a.auth.clientId = owner a.id_enduser))
    | .resume i (.targets (.ok ids)) => inferInstanceAs (Decidable
        (∀ q ∈ (p.threads[i]?).bind Task.dispatching, ∀ s ∈ p.shared.conn.heap[q.sender]?,
          ∀ id ∈ ids, owner id = s.principal.clientId))
    | .resume i (.devices (.ok rows)) => inferInstanceAs (Decidable
        (∀ r ∈ (p.threads[i]?).bind Task.browsing, ∀ s ∈ p.shared.conn.heap[r]?,
          ∀ row ∈ rows, deviceOwner row.id = s.principal.clientId))
    | .resume _ (.rateLimit _) => isTrue trivial
    | .resume _ (.authenticated (.error _)) => isTrue trivial
    | .resume _ (.devices (.error _)) => isTrue trivial
    | .resume _ (.api _) => isTrue trivial
    | .resume _ (.events _) => isTrue trivial
    | .resume _ (.targets (.error _)) => isTrue trivial

instance (owner : ℕ → String) : DecidableRel (AcksAtHome owner) := fun p act =>
  match act with
  | .event event => inferInstanceAs (Decidable (∀ a ∈ p.shared.ackOf event, a.sender ≠ 0 →
      owner a.sender = a.session.principal.clientId))
  | .resume .. => isTrue trivial

/-- A browser of another tenant. -/
def clerk : Authenticated where
  id_enduser := 21
  auth := .browser { adminUser with clientId := "bank" }
  product := none
  type := .browser
  issued := rfl

/-- The tenants of the end users. -/
def userOwner (id : ℕ) : String := if id = 21 then "bank" else "shop"

/-- The tenants of the devices. -/
def tillOwner (id : ℕ) : String := if id = 4 then "bank" else "shop"

/-- Both tenants are connected, and the acknowledgements come from the tenant of the event. -/
def clerkLooksOn : List (Act GatewayEvent GatewayAnswer) :=
  metadataAcked ++ enters 9 clerk ++ [.resume 9 (.devices (.ok [⟨4, "till-1", "cash"⟩]))]

theorem tenants_isolated_clerkLooksOn :
    ∃ p, exec (guarded (gatewayProgram .defaults).step
        fun p act => Truthful userOwner tillOwner p act ∧ AcksAtHome userOwner p act)
        (Gateway.start 0) clerkLooksOn = some p ∧ p.shared.Isolated tillOwner := by
  obtain ⟨p, hp⟩ : ∃ p, exec (guarded (gatewayProgram .defaults).step
      fun p act => Truthful userOwner tillOwner p act ∧ AcksAtHome userOwner p act)
      (Gateway.start 0) clerkLooksOn = some p := ⟨_, rfl⟩
  have hrun : Run (gatewayProgram .defaults).step
      (fun p act => Truthful userOwner tillOwner p act ∧ AcksAtHome userOwner p act)
      (Gateway.start 0) clerkLooksOn p := run_of_exec_guarded hp
  exact ⟨p, hp, (tenants_isolated hrun).1⟩

/-- The browser that has sent an event goes away, a browser of another tenant acknowledges the
    event, and the sender comes back. -/
def clerkAcks : List (Act GatewayEvent GatewayAnswer) :=
  twoUploads ++ enters 6 clerk ++ [.resume 6 (.devices (.ok [])), .event (.close 1),
    acknowledges 2 "e"] ++ enters 8 (watcher 11 [])

/-- The sender is sent what the browser of the other tenant has caused. -/
theorem clerkAcks_leaks : ∃ p,
    Run (gatewayProgram .defaults).step (Truthful userOwner tillOwner) (Gateway.start 0) clerkAcks
        p ∧ ¬ p.shared.Isolated tillOwner := by
  obtain ⟨p, hp⟩ : ∃ p, exec (guarded (gatewayProgram .defaults).step
      (Truthful userOwner tillOwner)) (Gateway.start 0) clerkAcks = some p := ⟨_, rfl⟩
  have hrun : Run (gatewayProgram .defaults).step (Truthful userOwner tillOwner) (Gateway.start 0)
      clerkAcks p := run_of_exec_guarded hp
  obtain rfl : p = reach clerkAcks := by
    have hreach : Run (gatewayProgram .defaults).step anyStep (Gateway.start 0) clerkAcks
        (reach clerkAcks) := run_of_exec rfl
    exact hrun.det hreach
  refine ⟨_, hrun, fun hisolated => ?_⟩
  obtain ⟨frame, hsent⟩ : ∃ frame, Effect.send 3 1 frame (.stored "ee") ∈
      (reach clerkAcks).shared.trace := ⟨_, List.mem_of_getElem? (i := 10) rfl⟩
  obtain ⟨sender, hcreated, s, s', hs, hs', htenant⟩ := hisolated.sent _ hsent
  have hclerk : (reach clerkAcks).shared.CreatedBy "ee" 2 :=
    ⟨[11], none, List.mem_of_getElem? (i := 9) rfl⟩
  obtain rfl := hisolated.once "ee" sender 2 hcreated hclerk
  have htenants :
      ((reach clerkAcks).shared.conn.heap[2]?).map (·.principal.clientId) = some "bank" ∧
      ((reach clerkAcks).shared.conn.heap[1]?).map (·.principal.clientId) = some "shop" := by
    decide
  rw [hs, hs', Option.map_some, Option.map_some, htenant] at htenants
  have hsame : some "bank" = some "shop" := htenants.1.symm.trans htenants.2
  exact absurd hsame (by decide)

end GatewayRealtime
