/-
  What browsers are told about the states of devices.

  * `Frame.update`: what a frame says about devices; `Gateway.view`: the states that a client
    holds after all frames sent on its socket.
  * `Connections.deviceState`: the state of a device in the registry.
  * `Gateway.ShowsDevices`: every browser that is online holds the states of the registry, for
    the devices that the database lists for it.
  * `presence_view`, `snapshot_view`: what the frames about one device, and the snapshot, do to
    the view of a browser.
-/
import GatewayRealtime.Attached
import GatewayRealtime.Directory
import GatewayRealtime.Lib.Replica

namespace GatewayRealtime

/-! ## Frames about devices -/

/-- `id` and `state` of what is said about a device. -/
def JsVal.deviceState (v : JsVal) : Option (ℚ × String) :=
  match v.field "id", v.strField "state" with
  | some (.num id), some state => some (id, state)
  | _, _ => none

/-- The events that tell the new state of one device. -/
def deviceEvents : List String :=
  ["device-connected", "device-reconnect", "device-suspend", "device-disconnected"]

/-- `data` of a frame. -/
def Frame.data : Frame → Option JsVal
  | .json fields => OMap.find "data" fields
  | .binary _ => none

/-- What a frame says about the states of devices. -/
def Frame.update (frame : Frame) : Option (Update ℚ String) :=
  match frame.event, frame.data with
  | some (.str event), some data =>
    if event = "device-snapshot" then
      match data with
      | .arr items => some (.reset (items.filterMap JsVal.deviceState))
      | _ => none
    else if event ∈ deviceEvents then data.deviceState.map fun d => .assign d.1 d.2
    else none
  | _, _ => none

/-- What an effect says on a socket about the states of devices. -/
def Effect.updateOn (c : ClientRef) : Effect → Option (Update ℚ String)
  | .send c' _ frame _ => if c' = c then frame.update else none
  | .reply c' fields => if c' = c then (Frame.json fields).update else none
  | _ => none

/-- The states of devices that the client of a socket holds. -/
def Gateway.view (g : Gateway) (c : ClientRef) : ℚ → Option String :=
  replay (fun _ => none) (g.trace.filterMap (Effect.updateOn c))

/-! ## The registry and the database -/

/-- The device that a session is for. -/
def WsSession.device (s : WsSession) : Option ℕ := s.principal.asDevice.map (·.id_device)

/-- The state of the session of a device in the registry, or `OFFLINE` when it has none. -/
def Connections.deviceState (k : Connections) (id : ℕ) : TypeConnectionState :=
  (((k.getAllSessions.filterMap (k.heap[·]?)).find? fun s => s.device = some id).map
    (·.state)).getD .OFFLINE

/-- A browser whose product filter is allowed. -/
def WsSession.watches (s : WsSession) : Bool :=
  s.type.isBrowser && decide (s.product = none ∨ s.product = some "" ∨
    s.product = s.principal.asBrowser.map (·.role_product))

/-- The frames about a device of the product pass the filter of the session. -/
def WsSession.tracks (s : WsSession) (product : String) : Bool :=
  decide (s.product = none ∨ s.product = some product)

/-- The active devices in the database that match the filter of a session. -/
def WsSession.listed (s : WsSession) (db : Database) (ord : RowOrder) :
    List Connections.DeviceInfo :=
  db.getDevicesWithInfoByTenant ord s.principal.clientId s.product

/-- Every browser with an allowed filter that is online holds, for the devices in the database
    that match it, the states of the registry. -/
def Gateway.ShowsDevices (g : Gateway) (db : Database) (ord : RowOrder) : Prop :=
  ∀ (r : SessionRef) (s : WsSession) (c : ClientRef), g.conn.heap[r]? = some s →
    s.watches = true → s.state = .ONLINE → s.socket = some c → ∀ row ∈ s.listed db ord,
      g.view c row.id = some (g.conn.deviceState row.id).name

/-- Every device that has a session is in the tables, and the session is that of its end user. -/
def Connections.Tabled (k : Connections) (db : Database) : Prop :=
  ∀ (r : SessionRef) (s : WsSession) (user : DeviceUser), k.heap[r]? = some s →
    s.principal = .device user →
      db.IsDevice user.id_device user.clientId user.device_product s.sessionId

section
variable {k k' : Connections} {g g' : Gateway} {db : Database} {ord : RowOrder}
  {r r' b : SessionRef} {s sb : WsSession} {c : ClientRef} {id : ℕ} {user : DeviceUser}
  {row : Connections.DeviceInfo} {tenantId event : String} {filter : Option String}

theorem TypeConnectionState.name_injective : Function.Injective TypeConnectionState.name := by
  intro a b h
  cases a <;> cases b <;> first | rfl | exact absurd h (by decide)

/-- The principal of a device is issued to devices alone. -/
theorem TypeEnduser.eq_device_of_issues {type : TypeEnduser}
    (h : type.issues (.device user) = true) : type = .device := by
  cases type <;> first | rfl | cases h

theorem WsSession.isBrowser_of_watches (h : s.watches = true) : s.type.isBrowser = true := by
  simp only [WsSession.watches, Bool.and_eq_true] at h
  exact h.1

theorem WsSession.device_eq_some :
    s.device = some id ↔ ∃ user, s.principal = .device user ∧ user.id_device = id := by
  unfold WsSession.device
  cases s.principal with
  | browser user => simp [EndUser.asDevice]
  | device user => simp [EndUser.asDevice]

/-! ## The state of a device -/

theorem mem_sessions (hk : k.Inv) : s ∈ k.getAllSessions.filterMap (k.heap[·]?) ↔
    ∃ r : SessionRef, k.heap[r]? = some s ∧ s.state ≠ .OFFLINE := by
  rw [List.mem_filterMap]
  constructor
  · rintro ⟨r, hr, hs⟩
    obtain ⟨id, hid⟩ := (OMap.mem_values _ _).1 hr
    obtain ⟨s', hs', -, hstate⟩ := hk.registered id r hid
    rw [hs] at hs'
    cases hs'
    exact ⟨r, hs, hstate⟩
  · rintro ⟨r, hs, hstate⟩
    exact ⟨r, (OMap.mem_values _ _).2 ⟨_, hk.live r s hs hstate⟩, hs⟩

/-- A device has one session. -/
theorem Connections.Tabled.unique (ht : k.Tabled db) (hdb : db.Keyed) (hk : k.Inv)
    (hs : k.heap[r]? = some s) (hlive : s.state ≠ .OFFLINE) (hid : s.device = some id)
    {s' : WsSession} (hs' : k.heap[r']? = some s') (hlive' : s'.state ≠ .OFFLINE)
    (hid' : s'.device = some id) : r = r' := by
  obtain ⟨user, huser, rfl⟩ := WsSession.device_eq_some.1 hid
  obtain ⟨user', huser', hsame⟩ := WsSession.device_eq_some.1 hid'
  have hdevice := ht r s user hs huser
  rw [← hsame] at hdevice
  have hsession := (hdevice.unique hdb (ht r' s' user' hs' huser')).2.2
  have hfind := hk.live r s hs hlive
  rw [hsession, hk.live r' s' hs' hlive'] at hfind
  exact (Option.some.inj hfind).symm

/-- A device that has a session is in the state of this session. -/
theorem deviceState_eq (hk : k.Inv) (hdb : db.Keyed) (ht : k.Tabled db)
    (hs : k.heap[r]? = some s) (hlive : s.state ≠ .OFFLINE) (hid : s.device = some id) :
    k.deviceState id = s.state := by
  have hmem : s ∈ k.getAllSessions.filterMap (k.heap[·]?) := (mem_sessions hk).2 ⟨r, hs, hlive⟩
  unfold Connections.deviceState
  cases hfound : (k.getAllSessions.filterMap (k.heap[·]?)).find? fun s => s.device = some id with
  | none =>
    have hnot := List.find?_eq_none.1 hfound s hmem
    simp [hid] at hnot
  | some s' =>
    obtain ⟨r', hs', hlive'⟩ := (mem_sessions hk).1 (List.mem_of_find?_eq_some hfound)
    have hid' : s'.device = some id := by simpa using List.find?_some hfound
    obtain rfl : r = r' := ht.unique hdb hk hs hlive hid hs' hlive' hid'
    rw [hs] at hs'
    cases hs'
    rfl

theorem deviceState_offline (hk : k.Inv) (hnone : ∀ (r : SessionRef) (s : WsSession),
    k.heap[r]? = some s → s.state ≠ .OFFLINE → s.device ≠ some id) :
    k.deviceState id = .OFFLINE := by
  unfold Connections.deviceState
  rw [List.find?_eq_none.2]
  · rfl
  · intro s hs
    obtain ⟨r, hr, hlive⟩ := (mem_sessions hk).1 hs
    simpa using hnone r s hr hlive

/-- Either a device has a session, or it is offline. -/
theorem deviceState_cases (hk : k.Inv) (hdb : db.Keyed) (ht : k.Tabled db) (id : ℕ) :
    (∃ (r : SessionRef) (s : WsSession), k.heap[r]? = some s ∧ s.state ≠ .OFFLINE ∧
      s.device = some id ∧ k.deviceState id = s.state) ∨
    (∀ (r : SessionRef) (s : WsSession), k.heap[r]? = some s → s.state ≠ .OFFLINE →
      s.device ≠ some id) ∧ k.deviceState id = .OFFLINE := by
  by_cases h : ∃ (r : SessionRef) (s : WsSession), k.heap[r]? = some s ∧ s.state ≠ .OFFLINE ∧
      s.device = some id
  · obtain ⟨r, s, hs, hlive, hid⟩ := h
    exact Or.inl ⟨r, s, hs, hlive, hid, deviceState_eq hk hdb ht hs hlive hid⟩
  · have hnone : ∀ (r : SessionRef) (s : WsSession), k.heap[r]? = some s →
        s.state ≠ .OFFLINE → s.device ≠ some id :=
      fun r s hs hlive hid => h ⟨r, s, hs, hlive, hid⟩
    exact Or.inr ⟨hnone, deviceState_offline hk hnone⟩

/-! ## The frames about one device -/

/-- The frame about the presence of the device of a session. -/
def WsSession.presenceFrame (s : WsSession) (event : String) (withDeviceId : Bool) : Frame :=
  let device := s.principal.asDevice
  .json [text "event" event, ("data", .obj
    (optionalField "id" (device.map fun d => .num d.id_device) ++
      optionalField "deviceId"
        (if withDeviceId then device.map fun d => .str d.deviceId else none) ++
      [text "state" s.state.name]))]

/-- Whether the frames about a device reach a browser. -/
def WsSession.follows (s : WsSession) (user : DeviceUser) : Bool :=
  decide (s.principal.clientId = user.clientId) && s.tracks user.device_product

/-- What the frame says. -/
theorem presenceFrame_update (hu : s.principal = .device user) (hevent : event ∈ deviceEvents)
    (withDeviceId : Bool) :
    (s.presenceFrame event withDeviceId).update =
      some (.assign (user.id_device : ℚ) s.state.name) := by
  have hne : event ≠ "device-snapshot" := by
    rintro rfl
    exact absurd hevent (by decide)
  cases withDeviceId <;>
    simp [WsSession.presenceFrame, Frame.update, Frame.event, Frame.data, OMap.find, text, hne,
      hevent, hu, JsVal.deviceState, JsVal.strField, JsVal.field, optionalField,
      EndUser.asDevice]

/-- Who is sent it. -/
theorem mem_presence (hidx : k.Indexed) (hs : k.heap[r]? = some s)
    (hu : s.principal = .device user) {withDeviceId : Bool} {e : Effect} :
    e ∈ k.presence r event withDeviceId ↔
      ∃ (b : SessionRef) (sb : WsSession) (c : ClientRef), k.heap[b]? = some sb ∧
        k.find sb.sessionId = some b ∧ sb.type.isBrowser = true ∧ sb.follows user = true ∧
        k.socket b = some c ∧ k.isOpen c = true ∧
        e = .send c b (s.presenceFrame event withDeviceId) (.presence r) := by
  unfold Connections.presence
  rw [hs]
  simp only [List.mem_flatMap, mem_getBrowsersByTenant hidx, mem_send_iff]
  constructor
  · rintro ⟨b, ⟨⟨sb, hb, hfind, htenant, hbrowser⟩, hpass⟩, c, hc, hopen, rfl⟩
    refine ⟨b, sb, c, hb, hfind, hbrowser, ?_, hc, hopen, rfl⟩
    rw [Bool.and_eq_true, hb] at hpass
    rw [hu] at htenant hpass
    simp only [WsSession.follows, WsSession.tracks, Bool.and_eq_true, decide_eq_true_eq]
    refine ⟨htenant, ?_⟩
    have hproduct := of_decide_eq_true hpass.2
    exact hproduct.imp_right Eq.symm
  · rintro ⟨b, sb, c, hb, hfind, hbrowser, hfollows, hc, hopen, rfl⟩
    simp only [WsSession.follows, WsSession.tracks, Bool.and_eq_true, decide_eq_true_eq]
      at hfollows
    refine ⟨b, ⟨⟨sb, hb, hfind, ?_, hbrowser⟩, ?_⟩, c, hc, hopen, rfl⟩
    · rw [hu]
      exact hfollows.1
    · rw [Bool.and_eq_true, hb, hu]
      exact ⟨isActive_of_socket hc hopen, decide_eq_true (hfollows.2.imp_right Eq.symm)⟩

/-- What the presence of a device does to the view of a browser: it sets the state of the device,
    if the filter of the browser lets it through. -/
theorem presence_view (hk : k.Inv) (hidx : k.Indexed) (ha : k.Attached)
    (hs : k.heap[r]? = some s) (hu : s.principal = .device user) (hevent : event ∈ deviceEvents)
    (hb : k.heap[b]? = some sb) (hbrowser : sb.type.isBrowser = true) (hc : sb.socket = some c)
    (withDeviceId : Bool) (view : ℚ → Option String) :
    replay view ((k.presence r event withDeviceId).filterMap (Effect.updateOn c)) =
      if sb.follows user then Function.update view user.id_device (some s.state.name)
      else view := by
  have hsocket : k.socket b = some c := by rw [Connections.socket, hb]; exact hc
  have hlive : sb.state ≠ .OFFLINE := ((hk.standing b sb hb).state_ne (by simp [hc])).2.2
  have hupdate := presenceFrame_update hu hevent withDeviceId
  -- whatever is said on the socket is said to `b`
  have hsaid : ∀ u ∈ (k.presence r event withDeviceId).filterMap (Effect.updateOn c),
      sb.follows user = true ∧ u = .assign (user.id_device : ℚ) s.state.name := by
    intro u hmem
    obtain ⟨e, he, hu'⟩ := List.mem_filterMap.1 hmem
    obtain ⟨b', sb', c', hb', -, -, hfollows, hc', -, rfl⟩ := (mem_presence hidx hs hu).1 he
    simp only [Effect.updateOn] at hu'
    split_ifs at hu' with hsame
    subst hsame
    obtain rfl : b' = b := ha.unique hc' hsocket
    rw [hb] at hb'
    cases hb'
    rw [hupdate] at hu'
    exact ⟨hfollows, (Option.some.inj hu').symm⟩
  split_ifs with hfollows
  · refine replay_assign view (fun u hmem => (hsaid u hmem).2) ?_
    have hsent : Effect.send c b (s.presenceFrame event withDeviceId) (.presence r) ∈
        k.presence r event withDeviceId :=
      (mem_presence hidx hs hu).2 ⟨b, sb, c, hb, hk.live b sb hb hlive, hbrowser, hfollows, hsocket,
        ha.isOpen hsocket, rfl⟩
    have hsays : Effect.updateOn c (.send c b (s.presenceFrame event withDeviceId)
        (.presence r)) = some (.assign (user.id_device : ℚ) s.state.name) := by
      rw [Effect.updateOn, if_pos rfl, hupdate]
    exact List.ne_nil_of_mem (List.mem_filterMap.2 ⟨_, hsent, hsays⟩)
  · rw [List.eq_nil_iff_forall_not_mem.2 fun u hmem => hfollows (hsaid u hmem).1]
    rfl

/-! ## The snapshot -/

/-- What a session contributes to the states of the snapshot. -/
def Connections.deviceEntry (k : Connections) (r : SessionRef) : Option (ℕ × TypeConnectionState) :=
  (k.heap[r]?).bind fun s => s.device.map fun id => (id, s.state)

theorem Connections.deviceEntry_eq_some {σ : TypeConnectionState} :
    k.deviceEntry r = some (id, σ) ↔
      ∃ s : WsSession, k.heap[r]? = some s ∧ s.device = some id ∧ s.state = σ := by
  unfold Connections.deviceEntry
  simp [Option.bind_eq_some_iff]

theorem deviceStates_eq (k : Connections) (tenantId : String) (filter : Option String) :
    k.deviceStates tenantId filter = (k.getDevicesByTenant tenantId fun r =>
      match k.heap[r]? with
      | some s => decide (filter = none ∨ s.principal.asDevice.map (·.device_product) = filter)
      | none => false).foldl (OMap.setBy k.deviceEntry) .empty := by
  unfold Connections.deviceStates
  refine List.foldl_ext _ _ _ fun states r _ => ?_
  unfold OMap.setBy Connections.deviceEntry WsSession.device
  cases k.heap[r]? with
  | none => rfl
  | some s => cases h : s.principal.asDevice <;> simp [h]

/-- Which devices the snapshot reads a state of: those of the tenant that pass the filter. -/
theorem mem_deviceSessions (hidx : k.Indexed) (tenantId : String) (filter : Option String) :
    (r ∈ k.getDevicesByTenant tenantId fun r =>
      match k.heap[r]? with
      | some s => decide (filter = none ∨ s.principal.asDevice.map (·.device_product) = filter)
      | none => false) ↔
    ∃ s : WsSession, k.heap[r]? = some s ∧ k.find s.sessionId = some r ∧
      s.principal.clientId = tenantId ∧ s.type.isDevice = true ∧
      (filter = none ∨ s.principal.asDevice.map (·.device_product) = filter) := by
  rw [mem_getDevicesByTenant hidx]
  constructor
  · rintro ⟨⟨s, hs, hfind, htenant, hdevice⟩, hpass⟩
    rw [hs] at hpass
    exact ⟨s, hs, hfind, htenant, hdevice, of_decide_eq_true hpass⟩
  · rintro ⟨s, hs, hfind, htenant, hdevice, hpass⟩
    refine ⟨⟨s, hs, hfind, htenant, hdevice⟩, ?_⟩
    rw [hs]
    exact decide_eq_true hpass

/-- The tables list the session of a device with the tenant and the product of its principal. -/
theorem Connections.Tabled.listed (ht : k.Tabled db) (hdb : db.Keyed)
    (hrow : row ∈ db.getDevicesWithInfoByTenant ord tenantId filter) (hs : k.heap[r]? = some s)
    (hu : s.principal = .device user) (hid : user.id_device = row.id) :
    user.clientId = tenantId ∧ user.device_product = row.product := by
  obtain ⟨⟨owner, hdevice⟩, -⟩ := Database.mem_getDevicesWithInfoByTenant hrow
  have hlisted := ht r s user hs hu
  rw [hid] at hlisted
  obtain ⟨htenant, hproduct, -⟩ := hlisted.unique hdb hdevice
  exact ⟨htenant, hproduct⟩

/-- A device of the database in the states of the snapshot: it has the state of the registry, if
    the filter is no filter or its product. -/
theorem get?_deviceStates (hk : k.Inv) (hidx : k.Indexed) (hdb : db.Keyed) (ht : k.Tabled db)
    (hrow : row ∈ db.getDevicesWithInfoByTenant ord tenantId filter) :
    ((k.deviceStates tenantId filter).get? row.id).getD .OFFLINE =
      if filter = none ∨ filter = some row.product then k.deviceState row.id else .OFFLINE := by
  have hlive : ∀ {r : SessionRef} {s : WsSession}, k.heap[r]? = some s →
      k.find s.sessionId = some r → s.state ≠ .OFFLINE := by
    intro r s hs hfind
    obtain ⟨s', hs', -, hstate⟩ := hk.registered _ r hfind
    rw [hs] at hs'
    cases hs'
    exact hstate
  -- no session contributes to the device unless the filter lets it through
  have hpass : ∀ {r : SessionRef} {s : WsSession}, k.heap[r]? = some s →
      s.device = some row.id →
      (filter = none ∨ s.principal.asDevice.map (·.device_product) = filter) →
      filter = none ∨ filter = some row.product := by
    intro r s hs hid hfilter
    obtain ⟨user, hu, hid'⟩ := WsSession.device_eq_some.1 hid
    refine hfilter.imp_right fun h => ?_
    rw [← h, hu]
    exact congrArg some (ht.listed hdb hrow hs hu hid').2
  rw [deviceStates_eq]
  rcases deviceState_cases hk hdb ht row.id with ⟨r, s, hs, hstate, hid, heq⟩ | ⟨hnone, heq⟩
  · split_ifs with hfilter
    · obtain ⟨user, hu, hid'⟩ := WsSession.device_eq_some.1 hid
      obtain ⟨htenant, hproduct⟩ := ht.listed hdb hrow hs hu hid'
      have htype : s.type.isDevice = true :=
        TypeEnduser.isDevice_iff.2 (TypeEnduser.eq_device_of_issues (hu ▸ hk.issued r s hs))
      have hmem := (mem_deviceSessions hidx tenantId filter).2
        ⟨s, hs, hk.live r s hs hstate, by rw [hu]; exact htenant, htype, by
          rw [hu]
          exact hfilter.imp_right fun h => by rw [h, ← hproduct]; rfl⟩
      rw [get?_foldl_setBy (a := s.state) _ ?_ ⟨r, hmem,
        Connections.deviceEntry_eq_some.2 ⟨s, hs, hid, rfl⟩⟩]
      · exact heq.symm
      · intro r' hr' σ hσ
        obtain ⟨s', hs', hfind', -⟩ := (mem_deviceSessions hidx _ _).1 hr'
        obtain ⟨s'', hs'', hid'', rfl⟩ := Connections.deviceEntry_eq_some.1 hσ
        rw [hs'] at hs''
        cases hs''
        obtain rfl := ht.unique hdb hk hs hstate hid hs' (hlive hs' hfind') hid''
        rw [hs] at hs'
        cases hs'
        rfl
    · rw [get?_foldl_setBy_of_none]
      · rfl
      · intro r' hr' σ hσ
        obtain ⟨s', hs', -, -, -, hfilter'⟩ := (mem_deviceSessions hidx _ _).1 hr'
        obtain ⟨s'', hs'', hid'', -⟩ := Connections.deviceEntry_eq_some.1 hσ
        rw [hs'] at hs''
        cases hs''
        exact hfilter (hpass hs' hid'' hfilter')
  · rw [get?_foldl_setBy_of_none, heq, ite_self]
    · rfl
    · intro r' hr' σ hσ
      obtain ⟨s', hs', hfind', -⟩ := (mem_deviceSessions hidx _ _).1 hr'
      obtain ⟨s'', hs'', hid'', -⟩ := Connections.deviceEntry_eq_some.1 hσ
      rw [hs'] at hs''
      cases hs''
      exact hnone r' s' hs' (hlive hs' hfind') hid''

/-- What the snapshot says: a state for each of the devices. -/
theorem snapshot_update (states : OMap ℕ TypeConnectionState)
    (rows : List Connections.DeviceInfo) :
    Frame.update (.json [text "event" "device-snapshot", ("data", .arr (rows.map fun device =>
      .obj [("id", .num device.id), text "deviceId" device.deviceId, text "product" device.product,
        text "state" ((states.get? device.id).getD .OFFLINE).name]))]) =
      some (.reset (rows.map fun device =>
        ((device.id : ℚ), ((states.get? device.id).getD .OFFLINE).name))) := by
  simp [Frame.update, Frame.event, Frame.data, OMap.find, text, List.filterMap_map,
    Function.comp_def, JsVal.deviceState, JsVal.strField, JsVal.field]

/-- What the snapshot does to the view of its session: it sets the states of the devices that the
    session tracks to those of the registry, and those of the others to `OFFLINE`. -/
theorem snapshot_view (hk : k.Inv) (hidx : k.Indexed) (hdb : db.Keyed) (ht : k.Tabled db)
    (ha : k.Attached) (hs : k.heap[r]? = some s) (hc : s.socket = some c)
    (hrow : row ∈ s.listed db ord) (view : ℚ → Option String) :
    replay view ((k.snapshot r (.ok (s.listed db ord))).filterMap (Effect.updateOn c)) row.id =
      some (if s.tracks row.product then k.deviceState row.id else .OFFLINE).name := by
  have hsocket : k.socket r = some c := by rw [Connections.socket, hs]; exact hc
  have hstate := get?_deviceStates hk hidx hdb ht hrow
  have hsent : (k.snapshot r (.ok (s.listed db ord))).filterMap (Effect.updateOn c) =
      [.reset ((s.listed db ord).map fun device => ((device.id : ℚ),
        (((k.deviceStates s.principal.clientId s.product).get?
          device.id).getD .OFFLINE).name))] := by
    unfold Connections.snapshot
    simp [hs, Connections.send, hsocket, ha.isOpen hsocket, Effect.updateOn, snapshot_update]
  rw [hsent, replay_reset, find_snapshot (f := fun q : ℚ =>
    (((k.deviceStates s.principal.clientId s.product).get? q.num.natAbs).getD .OFFLINE).name)]
  · rw [Rat.num_natCast, Int.natAbs_natCast, hstate]
    simp [WsSession.tracks]
  · intro e he
    obtain ⟨device, -, rfl⟩ := List.mem_map.1 he
    simp
  · exact ⟨_, List.mem_map.2 ⟨row, hrow, rfl⟩, rfl⟩

/-! ## Views -/

/-- A view after more effects. -/
theorem view_of_trace {effects : List Effect} (h : g'.trace = g.trace ++ effects)
    (c : ClientRef) : g'.view c = replay (g.view c) (effects.filterMap (Effect.updateOn c)) := by
  rw [Gateway.view, h, List.filterMap_append, replay_append]
  rfl

/-- Effects that say nothing on a socket. -/
theorem view_of_quiet {effects : List Effect} (h : g'.trace = g.trace ++ effects)
    (hquiet : ∀ e ∈ effects, e.updateOn c = none) : g'.view c = g.view c := by
  rw [view_of_trace h, List.filterMap_eq_nil_iff.2 hquiet, replay_nil]

/-- The snapshot says nothing to others. -/
theorem snapshot_quiet {devices : Except Failure (List Connections.DeviceInfo)}
    (hc : k.socket r ≠ some c) : ∀ e ∈ k.snapshot r devices, e.updateOn c = none := by
  intro e he
  unfold Connections.snapshot at he
  split at he
  · cases he
  · obtain ⟨c', hc', -, rfl⟩ := mem_send_iff.1 he
    rw [Effect.updateOn, if_neg]
    rintro rfl
    exact hc hc'

end

end GatewayRealtime
