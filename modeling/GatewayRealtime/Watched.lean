/-
  Browsers that hold the states of the registry.

  * `Connections.Turns`: one session changes, and what that does to the states of the devices.
  * `WsSession.told`, `view_presence`: what a session tells the browsers.
  * `Gateway.Watched`: the invariant: the views of the browsers are the states of the registry.
  * `Watched.turned`: when a session that turns keeps it; `Watched.close`, `Watched.suspendTimer`:
    a session that goes away does.
-/
import GatewayRealtime.Lifecycle
import GatewayRealtime.Presence

namespace GatewayRealtime

/-- One session changes its standing, or is new. -/
structure Connections.Turns (k k' : Connections) (r : SessionRef) (s' : WsSession) : Prop where
  self : k'.heap[r]? = some s'
  others : ∀ r' ≠ r, k'.heap[r']? = k.heap[r']?
  identity : ∀ s, k.heap[r]? = some s → s'.identity = s.identity
  leaves : s'.state = .OFFLINE → ∃ s, k.heap[r]? = some s ∧ s.state ≠ .OFFLINE

/-- A session goes away, and is `s'` then. -/
structure Connections.Leaves (k k' : Connections) (r : SessionRef) (s' : WsSession) : Prop where
  conn : k'.Inv
  indexed : k'.Indexed
  attached : k'.Attached
  turns : k.Turns k' r s'
  length : k'.clients.length = k.clients.length

/-- The view of a browser after the device of a session has told its state. -/
def WsSession.told (s sb : WsSession) (view : ℚ → Option String) : ℚ → Option String :=
  match s.principal with
  | .device user =>
    if sb.follows user then Function.update view user.id_device (some s.state.name) else view
  | .browser _ => view

/-- The browsers hold the states of the registry, and nobody is online whom a browser lists but
    does not track. -/
structure Gateway.Watched (g : Gateway) (db : Database) (ord : RowOrder) : Prop where
  attached : g.conn.Attached
  tabled : g.conn.Tabled db
  idle : g.store.userEvents = .empty
  unsaid : ∀ c, g.conn.clients.length ≤ c → ∀ e ∈ g.trace, e.updateOn c = none
  shows : g.ShowsDevices db ord
  untracked : ∀ (r : SessionRef) (s : WsSession), g.conn.heap[r]? = some s → s.watches = true →
    s.state = .ONLINE → ∀ row ∈ s.listed db ord, s.tracks row.product = false →
      g.conn.deviceState row.id = .OFFLINE

section
variable {cfg : GatewayConfig} {db : Database} {ord : RowOrder} {k k' : Connections}
  {g g' : Gateway} {r b : SessionRef} {s s' sb : WsSession} {c : ClientRef} {id : ℕ}

/-! ## One session turns -/

theorem Connections.Turns.device_ne (h : k.Turns k' r s') (hid : s'.device ≠ some id)
    (hs : k.heap[b]? = some sb) (hdev : sb.device = some id) : b ≠ r := by
  rintro rfl
  refine hid ?_
  rw [WsSession.device, (WsSession.identity_eq (h.identity sb hs)).2.1]
  exact hdev

/-- The states of the other devices stay. -/
theorem Connections.Turns.deviceState_ne (h : k.Turns k' r s') (hk : k.Inv) (hk' : k'.Inv)
    (hdb : db.Keyed) (ht : k.Tabled db) (ht' : k'.Tabled db) (hid : s'.device ≠ some id) :
    k'.deviceState id = k.deviceState id := by
  rcases deviceState_cases hk hdb ht id with ⟨b, sb, hb, hlive, hdev, heq⟩ | ⟨hnone, heq⟩
  · have hne := h.device_ne hid hb hdev
    rw [heq]
    exact deviceState_eq hk' hdb ht' (by rw [h.others b hne, hb]) hlive hdev
  · rw [heq]
    refine deviceState_offline hk' fun b sb hb hlive hdev => ?_
    by_cases hr : b = r
    · rw [hr, h.self] at hb
      cases hb
      exact hid hdev
    · exact hnone b sb (h.others b hr ▸ hb) hlive hdev

/-- The device of the session is in its new state. -/
theorem Connections.Turns.deviceState_self (h : k.Turns k' r s') (hk : k.Inv) (hk' : k'.Inv)
    (hdb : db.Keyed) (ht : k.Tabled db) (ht' : k'.Tabled db) (hid : s'.device = some id) :
    k'.deviceState id = s'.state := by
  by_cases hlive : s'.state = .OFFLINE
  · rw [hlive]
    refine deviceState_offline hk' fun b sb hb hliveb hdev => ?_
    -- no other session of the device was there before
    obtain ⟨s, hs, hlives⟩ := h.leaves hlive
    have hids : s.device = some id := by
      rw [← hid, WsSession.device, WsSession.device, (WsSession.identity_eq (h.identity s hs)).2.1]
    by_cases hr : b = r
    · rw [hr, h.self] at hb
      cases hb
      exact hliveb hlive
    · rw [h.others b hr] at hb
      exact hr (ht.unique hdb hk hb hliveb hdev hs hlives hids)
  · exact deviceState_eq hk' hdb ht' h.self hlive hid

theorem Connections.Tabled.turns (ht : k.Tabled db) (h : k.Turns k' r s')
    (hnew : k.heap[r]? = none → ∀ user, s'.principal = .device user →
      db.IsDevice user.id_device user.clientId user.device_product s'.sessionId) :
    k'.Tabled db := by
  intro b sb user hb hu
  by_cases hr : b = r
  · subst hr
    rw [h.self] at hb
    cases hb
    cases hs : k.heap[b]? with
    | none => exact hnew hs user hu
    | some s =>
      obtain ⟨hsession, hprincipal, -⟩ := WsSession.identity_eq (h.identity s hs)
      rw [hsession]
      exact ht b s user hs (hprincipal ▸ hu)
  · exact ht b sb user (h.others b hr ▸ hb) hu

/-- The states of the devices depend on the sessions and the registry alone. -/
theorem deviceState_congr (hheap : k'.heap = k.heap) (hregistry : k'.registry = k.registry)
    (id : ℕ) : k'.deviceState id = k.deviceState id := by
  unfold Connections.deviceState Connections.getAllSessions
  rw [hheap, hregistry]

/-! ## What a session tells -/

/-- The frames about a session, if it is that of a device. -/
theorem presence_trace (hs : g.conn.heap[r]? = some s) (event : String) (withDeviceId : Bool) :
    (g.presence r event withDeviceId).trace =
      g.trace ++ if s.type = .device then g.conn.presence r event withDeviceId else [] := by
  unfold Gateway.presence
  rw [hs]
  dsimp only
  split_ifs
  · rfl
  · exact (List.append_nil _).symm

/-- The frames about a session go to open sockets. -/
theorem presence_unsaid {event : String} {withDeviceId : Bool}
    (hunsaid : ∀ c, g.conn.clients.length ≤ c → ∀ e ∈ g.trace, e.updateOn c = none)
    (c : ClientRef) (hc : g.conn.clients.length ≤ c) :
    ∀ e ∈ (g.presence r event withDeviceId).trace, e.updateOn c = none := by
  unfold Gateway.presence
  split
  · split_ifs
    · intro e he
      rcases List.mem_append.1 he with he | he
      · exact hunsaid c hc e he
      · unfold Connections.presence at he
        split at he
        · cases he
        · obtain ⟨b, -, he⟩ := List.mem_flatMap.1 he
          obtain ⟨c', -, hopen, rfl⟩ := mem_send_iff.1 he
          rw [Effect.updateOn, if_neg]
          rintro rfl
          simp [Connections.isOpen, List.getElem?_eq_none hc] at hopen
    · exact hunsaid c hc
  · exact hunsaid c hc

/-- Only the sessions of devices tell anything. -/
theorem told_of_browser (hissued : s.type.issues s.principal = true)
    (hbrowser : s.type.isBrowser = true) (sb : WsSession) (view : ℚ → Option String) :
    s.told sb view = view := by
  unfold WsSession.told
  split
  · rename_i user hu
    rw [hu] at hissued
    rw [TypeEnduser.eq_device_of_issues hissued] at hbrowser
    cases hbrowser
  · rfl

/-- What the device of a session tells is nothing about the others. -/
theorem told_ne (hid : s.device ≠ some id) (sb : WsSession) (view : ℚ → Option String) :
    s.told sb view id = view id := by
  unfold WsSession.told
  cases hu : s.principal with
  | browser user => rfl
  | device user =>
    have hne : (id : ℚ) ≠ user.id_device := by
      intro h
      exact hid (WsSession.device_eq_some.2 ⟨user, hu, (Rat.natCast_inj.1 h).symm⟩)
    dsimp only
    split_ifs
    · exact Function.update_of_ne hne _ _
    · rfl

/-- A browser that lists a device and tracks it is told the state of its session. -/
theorem told_self {row : Connections.DeviceInfo} (hdb : db.Keyed) (ht : k.Tabled db)
    (hs : k.heap[r]? = some s) (hid : s.device = some row.id) (hrow : row ∈ sb.listed db ord)
    (htracks : sb.tracks row.product = true) (view : ℚ → Option String) :
    s.told sb view row.id = some s.state.name := by
  obtain ⟨user, hu, hsame⟩ := WsSession.device_eq_some.1 hid
  obtain ⟨htenant, hproduct⟩ := ht.listed hdb hrow hs hu hsame
  have hfollows : sb.follows user = true := by
    simp [WsSession.follows, htenant, hproduct, htracks]
  rw [WsSession.told, hu]
  dsimp only
  rw [if_pos hfollows, ← hsame]
  exact Function.update_self ..

/-- What the hooks of a session do to the view of a browser. -/
theorem view_presence {event : String} (hk : g.conn.Inv) (hidx : g.conn.Indexed)
    (ha : g.conn.Attached) (hs : g.conn.heap[r]? = some s) (hevent : event ∈ deviceEvents)
    (hb : g.conn.heap[b]? = some sb) (hbrowser : sb.type.isBrowser = true)
    (hc : sb.socket = some c) (withDeviceId : Bool) :
    (g.presence r event withDeviceId).view c = s.told sb (g.view c) := by
  have hissued := hk.issued r s hs
  rw [view_of_trace (presence_trace hs event withDeviceId)]
  unfold WsSession.told
  cases hu : s.principal with
  | browser user =>
    have htype : s.type ≠ .device := by
      intro htype
      rw [hu, htype] at hissued
      cases hissued
    rw [if_neg htype]
    rfl
  | device user =>
    rw [if_pos (TypeEnduser.eq_device_of_issues (hu ▸ hissued))]
    exact presence_view hk hidx ha hs hu hevent hb hbrowser hc withDeviceId _

/-! ## The views after a session has turned -/

/-- **A session turns.**  The views keep in step if whoever lists the device of the session tracks
    it, and if the session itself, where it is that of a browser, is. -/
theorem Gateway.Watched.turned (hw : g.Watched db ord) (hdb : db.Keyed) (hk : g.conn.Inv)
    (hk' : g'.conn.Inv) (hturn : g.conn.Turns g'.conn r s') (ht' : g'.conn.Tabled db)
    (ha' : g'.conn.Attached) (hstore : g'.store = g.store)
    (hunsaid : ∀ c, g'.conn.clients.length ≤ c → ∀ e ∈ g'.trace, e.updateOn c = none)
    (htold : ∀ (b : SessionRef) (sb : WsSession) c, b ≠ r → g'.conn.heap[b]? = some sb →
      sb.watches = true → sb.socket = some c → g'.view c = s'.told sb (g.view c))
    (htracked : ∀ user, s'.principal = .device user → ∀ (b : SessionRef) (sb : WsSession),
      g.conn.heap[b]? = some sb → sb.watches = true → sb.state = .ONLINE →
        ∀ row ∈ sb.listed db ord, row.id = user.id_device → sb.tracks row.product = true)
    (hself : s'.watches = true → s'.state = .ONLINE → ∀ c, s'.socket = some c →
      ∀ row ∈ s'.listed db ord, g'.view c row.id = some (g'.conn.deviceState row.id).name ∧
        (s'.tracks row.product = false → g'.conn.deviceState row.id = .OFFLINE)) :
    g'.Watched db ord := by
  have htracked' : ∀ (b : SessionRef) (sb : WsSession), g.conn.heap[b]? = some sb →
      sb.watches = true → sb.state = .ONLINE → ∀ row ∈ sb.listed db ord,
        s'.device = some row.id → sb.tracks row.product = true := by
    intro b sb hb hwatches hstate row hrow hid
    obtain ⟨user, hu, hsame⟩ := WsSession.device_eq_some.1 hid
    exact htracked user hu b sb hb hwatches hstate row hrow hsame.symm
  refine ⟨ha', ht', hstore ▸ hw.idle, hunsaid, fun b sb c hb hwatches hstate hc row hrow => ?_,
    fun b sb hb hwatches hstate row hrow htracks => ?_⟩
  · by_cases hr : b = r
    · rw [hr, hturn.self] at hb
      cases hb
      exact (hself hwatches hstate c hc row hrow).1
    · rw [htold b sb c hr hb hwatches hc]
      have hb₀ : g.conn.heap[b]? = some sb := hturn.others b hr ▸ hb
      by_cases hid : s'.device = some row.id
      · rw [hturn.deviceState_self hk hk' hdb hw.tabled ht' hid]
        exact told_self hdb ht' hturn.self hid hrow
          (htracked' b sb hb₀ hwatches hstate row hrow hid) _
      · rw [told_ne hid, hturn.deviceState_ne hk hk' hdb hw.tabled ht' hid]
        exact hw.shows b sb c hb₀ hwatches hstate hc row hrow
  · by_cases hr : b = r
    · rw [hr, hturn.self] at hb
      cases hb
      obtain ⟨c, hc⟩ := (hk'.standing r s' hturn.self).exists_socket hstate
      exact (hself hwatches hstate c hc row hrow).2 htracks
    · have hb₀ : g.conn.heap[b]? = some sb := hturn.others b hr ▸ hb
      by_cases hid : s'.device = some row.id
      · rw [htracked' b sb hb₀ hwatches hstate row hrow hid] at htracks
        cases htracks
      · rw [hturn.deviceState_ne hk hk' hdb hw.tabled ht' hid]
        exact hw.untracked b sb hb₀ hwatches hstate row hrow htracks

/-- A session that was there and leaves the state it was in: whoever lists its device tracks
    it. -/
theorem Gateway.Watched.tracked (hw : g.Watched db ord) (hdb : db.Keyed) (hk : g.conn.Inv)
    (hs : g.conn.heap[r]? = some s) (hlive : s.state ≠ .OFFLINE) {user : DeviceUser}
    (hu : s.principal = .device user) (hb : g.conn.heap[b]? = some sb)
    (hwatches : sb.watches = true) (hstate : sb.state = .ONLINE) {row : Connections.DeviceInfo}
    (hrow : row ∈ sb.listed db ord) (hid : row.id = user.id_device) :
    sb.tracks row.product = true := by
  by_contra htracks
  have hoffline := hw.untracked b sb hb hwatches hstate row hrow (by simpa using htracks)
  rw [deviceState_eq hk hdb hw.tabled hs hlive
    (WsSession.device_eq_some.2 ⟨user, hu, hid.symm⟩)] at hoffline
  exact hlive hoffline

/-- Sessions and registry stay, and nothing is said about devices. -/
theorem Gateway.Watched.of_eq (hw : g.Watched db ord) (hheap : g'.conn.heap = g.conn.heap)
    (hregistry : g'.conn.registry = g.conn.registry) (ha' : g'.conn.Attached)
    (hlength : g.conn.clients.length ≤ g'.conn.clients.length)
    (hstore : g'.store = g.store) {effects : List Effect} (htrace : g'.trace = g.trace ++ effects)
    (hquiet : ∀ e ∈ effects, ∀ c, e.updateOn c = none) : g'.Watched db ord := by
  have hstate : ∀ id, g'.conn.deviceState id = g.conn.deviceState id :=
    deviceState_congr hheap hregistry
  refine ⟨ha', fun b sb user hb => hw.tabled b sb user (hheap ▸ hb), hstore ▸ hw.idle,
    fun c hc e he => ?_, fun b sb c hb hwatches honline hc row hrow => ?_,
    fun b sb hb hwatches honline row hrow htracks => ?_⟩
  · rw [htrace] at he
    rcases List.mem_append.1 he with he | he
    · exact hw.unsaid c (hlength.trans hc) e he
    · exact hquiet e he c
  · rw [view_of_quiet htrace fun e he => hquiet e he c, hstate]
    exact hw.shows b sb c (hheap ▸ hb) hwatches honline hc row hrow
  · rw [hstate]
    exact hw.untracked b sb (hheap ▸ hb) hwatches honline row hrow htracks

/-- A session that was there goes away, and the browsers are told what it is in `k₁`. -/
theorem Gateway.Watched.leaves {k₁ : Connections} {s₁ : WsSession} {event : String}
    {withDeviceId : Bool} (hw : g.Watched db ord) (hdb : db.Keyed) (hk : g.conn.Inv)
    (hs : g.conn.heap[r]? = some s) (hlive : s.state ≠ .OFFLINE)
    (htold : g.conn.Leaves k₁ r s₁) (hleft : g.conn.Leaves g'.conn r s')
    (hsame : s'.principal = s₁.principal ∧ s'.state = s₁.state) (hstate : s'.state ≠ .ONLINE)
    (hevent : event ∈ deviceEvents)
    (htrace : g'.trace = (({ g with conn := k₁ } : Gateway).presence r event withDeviceId).trace)
    (hstore : g'.store = g.store) : g'.Watched db ord := by
  have hsaid : ∀ c, g'.view c =
      (({ g with conn := k₁ } : Gateway).presence r event withDeviceId).view c := fun c => by
    rw [Gateway.view, htrace]
    rfl
  have ht' : g'.conn.Tabled db := hw.tabled.turns hleft.turns fun hnone => by
    rw [hs] at hnone
    cases hnone
  refine hw.turned hdb hk hleft.conn hleft.turns ht' hleft.attached hstore (fun c hc e he => ?_)
    (fun b sb c hr hb hwatches hc => ?_) (fun user hu b sb hb hwatches honline row hrow hid => ?_)
    fun _ honline => absurd honline hstate
  · rw [htrace] at he
    refine presence_unsaid (g := { g with conn := k₁ })
      (fun c hc e he => hw.unsaid c ?_ e he) c ?_ e he
    · exact htold.length ▸ hc
    · dsimp only
      rw [htold.length, ← hleft.length]
      exact hc
  · have hb₁ : k₁.heap[b]? = some sb := by
      rw [htold.turns.others b hr, ← hleft.turns.others b hr]
      exact hb
    rw [hsaid, view_presence htold.conn htold.indexed htold.attached htold.turns.self hevent hb₁
      (WsSession.isBrowser_of_watches hwatches) hc]
    simp only [WsSession.told, hsame]
    rfl
  · refine hw.tracked hdb hk hs hlive ?_ hb hwatches honline hrow hid
    rw [← (WsSession.identity_eq (hleft.turns.identity s hs)).2.1]
    exact hu

/-! ## Leaving -/

/-- The close of the socket of a session suspends it; the listener finds it suspended. -/
theorem close_current (hk : g.conn.Inv) (ha : g.conn.Attached) (hs : g.conn.heap[r]? = some s)
    (hc : s.socket = some c) (client : WsClient) : g.close cfg c client =
      (({ g with conn := g.conn.closed c } : Gateway).onSuspend r s).startSuspendTimer cfg r := by
  obtain ⟨g₁, hg₁⟩ : ∃ g₁ : Gateway, g₁ = { g with conn := g.conn.closed c } := ⟨_, rfl⟩
  have hk₁ : g₁.conn.Inv := by
    rw [hg₁]
    exact hk.of_eq rfl rfl
  have hsocket : g.conn.socket r = some c := by
    rw [Connections.socket, hs]
    exact hc
  have hsession : (g₁.conn.clients[c]?).bind (·.session) = some r := by
    rw [hg₁]
    exact ha.linked.closed_session hsocket
  have hfirst : g₁.handleDisconnect cfg c = (g₁.onSuspend r s).startSuspendTimer cfg r := by
    rcases handleDisconnect_eq cfg hk₁ c with ⟨-, hnot⟩ | ⟨r', s', hr', hs', -, heq⟩
    · refine absurd ?_ (hnot r hsession)
      rw [hg₁]
      exact hsocket
    · rw [hsession] at hr'
      cases hr'
      rw [hg₁] at hs'
      have hs'' : g.conn.heap[r]? = some s' := hs'
      rw [hs] at hs''
      cases hs''
      exact heq
  have hsuspends := startSuspendTimer_suspends cfg g₁ r s
  have hsecond : ((g₁.onSuspend r s).startSuspendTimer cfg r).handleDisconnect cfg c =
      (g₁.onSuspend r s).startSuspendTimer cfg r := by
    have hk₂ : ((g₁.onSuspend r s).startSuspendTimer cfg r).conn.Inv :=
      hfirst ▸ handleDisconnect_inv hk₁ c
    rcases handleDisconnect_eq cfg hk₂ c with ⟨heq, -⟩ | ⟨r', s', hr', hs', hc', -⟩
    · exact heq
    · rw [hsuspends.clients, hsession] at hr'
      cases hr'
      have hnone := Connections.socket_suspends hsuspends r
      rw [if_pos rfl, Connections.socket, hs', Option.bind_some, hc'] at hnone
      cases hnone
  rw [← hg₁]
  refine close_rule (I := fun g' => g' = (g₁.onSuspend r s).startSuspendTimer cfg r) hk c client
    (hg₁ ▸ hfirst) fun g' _ heq => ?_
  rw [heq]
  exact hsecond

/-- The session of a socket that has closed is suspended. -/
theorem suspendedFrom_leaves (hk : k.Inv) (hidx : k.Indexed) (ha : k.Attached)
    (hs : k.heap[r]? = some s) (hc : s.socket = some c) :
    k.Leaves (k.suspendedFrom c r s) r { s with state := .SUSPEND, socket := none } := by
  have hlive := ((hk.standing r s hs).state_ne (by simp [hc])).2.2
  have hclosed : (k.closed c).heap[r]? = some s := hs
  have hself : (k.suspendedFrom c r s).heap[r]? =
      some { s with state := .SUSPEND, socket := none } := by
    rw [Connections.suspendedFrom, Connections.clearTimeout_heap, Connections.heap_updateSession,
      hclosed]
    simp
  have hothers : ∀ b ≠ r, (k.suspendedFrom c r s).heap[b]? = k.heap[b]? := by
    intro b hb
    rw [Connections.suspendedFrom, Connections.clearTimeout_heap, Connections.heap_updateSession]
    simp [hb, Connections.closed]
  refine ⟨?_, ?_, ha.suspendedFrom hs hc, ⟨hself, hothers, fun s' hs' => ?_, by simp⟩, ?_⟩
  · have hk₀ : (k.closed c).Inv := hk.of_eq rfl rfl
    refine (hk₀.updateSession (fun s => { s with state := .SUSPEND, socket := none })
      (fun _ => rfl) fun s' hs' => ?_).of_eq (Connections.clearTimeout_heap _ _)
        (Connections.clearTimeout_registry _ _)
    rw [hclosed] at hs'
    cases hs'
    exact ⟨hlive, by simp, Or.inr ⟨rfl, Or.inl rfl⟩⟩
  · have hidx₀ : (k.closed c).Indexed := hidx.of_eq rfl rfl
    exact (hidx₀.updateSession r (fun s => { s with state := .SUSPEND, socket := none })
      fun _ => rfl).of_eq (Connections.clearTimeout_heap _ _)
        (Connections.clearTimeout_registry _ _)
  · rw [hs] at hs'
    cases hs'
    rfl
  · simp [Connections.suspendedFrom, Connections.closed, Connections.updateClient]

/-- Its timer is set. -/
theorem Connections.Leaves.startSuspendTimer (h : k.Leaves g.conn r s')
    (hstate : s'.state = .SUSPEND) (hsocket : s'.socket = none) :
    k.Leaves (g.startSuspendTimer cfg r).conn r
      { s' with suspendTimer := some g.conn.nextTimer } := by
  have hheap : (g.startSuspendTimer cfg r).conn.heap =
      (g.conn.updateSession r fun s =>
        { s with suspendTimer := some g.conn.nextTimer }).heap := rfl
  refine ⟨?_, ?_, ?_, ⟨?_, fun b hb => ?_, h.turns.identity, ?_⟩, h.length⟩
  · refine (h.conn.updateSession (r := r) (fun s => { s with
      suspendTimer := some g.conn.nextTimer }) (fun _ => rfl) fun s hs => ?_).of_eq hheap rfl
    rw [h.turns.self] at hs
    cases hs
    exact ⟨by simp [hstate], by simp [hstate], Or.inr ⟨hsocket, Or.inl hstate⟩⟩
  · exact (h.indexed.updateSession r (fun s => { s with
      suspendTimer := some g.conn.nextTimer }) fun _ => rfl).of_eq hheap rfl
  · exact (h.attached.updateSession (r := r) (fun s => { s with
      suspendTimer := some g.conn.nextTimer }) fun _ => Or.inr rfl).of_socket
        (fun _ _ hb => hb) fun _ _ client _ hclient => ⟨client, hclient, rfl, rfl⟩
  · rw [hheap, Connections.heap_updateSession, h.turns.self]
    simp
  · rw [hheap, Connections.heap_updateSession, ← h.turns.others b hb]
    simp [hb]
  · intro hoffline
    rw [hstate] at hoffline
    cases hoffline

/-- The close of a socket. -/
theorem Gateway.Watched.close (hw : g.Watched db ord) (hdb : db.Keyed) (hk : g.conn.Inv)
    (hidx : g.conn.Indexed) (c : ClientRef) (client : WsClient) :
    (g.close cfg c client).Watched db ord := by
  by_cases hfree : ∀ r, g.conn.socket r ≠ some c
  · rw [close_superseded hk client fun r _ => hfree r]
    refine hw.of_eq rfl rfl (hw.attached.closed hfree) ?_ rfl (List.append_nil _).symm
      (List.forall_mem_nil _)
    simp [Connections.closed, Connections.updateClient]
  · obtain ⟨r, hr⟩ := not_forall_not.1 hfree
    obtain ⟨s, hs, hc⟩ := Option.bind_eq_some_iff.1 hr
    have hlive := ((hk.standing r s hs).state_ne (by simp [hc])).2.2
    rw [close_current hk hw.attached hs hc client]
    have htold := suspendedFrom_leaves hk hidx hw.attached hs hc
    have hgone : g.conn.Leaves (({ g with conn := g.conn.suspendedFrom c r s } : Gateway).presence r
        "device-suspend" false).conn r { s with state := .SUSPEND, socket := none } := by
      rw [presence_conn]
      exact htold
    exact hw.leaves hdb hk hs hlive htold (hgone.startSuspendTimer rfl rfl) ⟨rfl, rfl⟩
      (by simp) (by decide) rfl (presence_store _ r _ _)

/-- A session that is dropped leaves the registry. -/
theorem dropped_leaves (hk : k.Inv) (hidx : k.Indexed) (ha : k.Attached)
    (hs : k.heap[r]? = some s) (hsuspend : s.state = .SUSPEND) :
    k.Leaves ((k.updateSession r fun s => { s with state := .OFFLINE }).unregister s.sessionId) r
      { s with state := .OFFLINE } := by
  have hlive : s.state ≠ .OFFLINE := by
    simp [hsuspend]
  have hidx' := hidx.updateSession r (fun s => { s with state := .OFFLINE }) fun _ => rfl
  refine ⟨hk.dropped hs hsuspend, hidx'.unregister s.sessionId, ?_,
    ⟨?_, fun b hb => ?_, fun s' hs' => ?_, fun _ => ⟨s, hs, hlive⟩⟩, ?_⟩
  · refine (ha.updateSession (r := r) (fun s => { s with state := .OFFLINE })
      fun _ => Or.inr rfl).of_socket (fun b c hb => ?_) fun b c client _ hclient =>
        ⟨client, ?_, rfl, rfl⟩
    · rwa [Connections.socket, Connections.unregister_heap] at hb
    · rw [Connections.unregister_clients]
      exact hclient
  · rw [Connections.unregister_heap, Connections.heap_updateSession, hs]
    simp
  · rw [Connections.unregister_heap, Connections.heap_updateSession]
    simp [hb]
  · rw [hs] at hs'
    cases hs'
    rfl
  · rw [Connections.unregister_clients, Connections.updateSession_clients]

/-- A suspend timer that fires. -/
theorem Gateway.Watched.suspendTimer (hw : g.Watched db ord) (hdb : db.Keyed) (hk : g.conn.Inv)
    (hidx : g.conn.Indexed) (t : SuspendTimer) : (g.suspendTimer t).Watched db ord := by
  unfold Gateway.suspendTimer
  split
  · exact hw
  · rename_i s hs
    split_ifs with hsuspend
    · have htold := dropped_leaves hk hidx hw.attached hs hsuspend
      have hlive : s.state ≠ .OFFLINE := by simp [hsuspend]
      have hleft : g.conn.Leaves (({ g with
          conn := (g.conn.updateSession t.session fun s =>
            { s with state := .OFFLINE }).unregister s.sessionId } : Gateway).presence t.session
              "device-disconnected" false).conn t.session { s with state := .OFFLINE } := by
        rw [presence_conn]
        exact htold
      exact hw.leaves hdb hk hs hlive htold hleft ⟨rfl, rfl⟩ (by simp) (by decide) rfl
        (presence_store _ t.session _ _)
    · exact hw

/-- A gateway that has just started. -/
theorem watched_start (db : Database) (ord : RowOrder) (t₀ : ℤ) :
    (Gateway.start t₀).shared.Watched db ord := by
  have hheap : ∀ r : SessionRef, (Gateway.start t₀).shared.conn.heap[r]? = none := fun _ => rfl
  constructor
  · intro r c hr
    rw [Connections.socket, hheap] at hr
    cases hr
  · intro r s user hs
    rw [hheap] at hs
    cases hs
  · rfl
  · intro c _ e he
    cases he
  · intro r s c hs
    rw [hheap] at hs
    cases hs
  · intro r s hs
    rw [hheap] at hs
    cases hs

end

end GatewayRealtime
