/-
  The tenant index of the registry.

  * `tenantSet`: the sessions that an index has under a tenant.
  * `Connections.Member`: a registered session of a tenant and of a kind.
  * `Connections.Indexed`: the two indexes list the registered devices and browsers of each
    tenant, and an id leads to the session of that id.
  * `Indexed.updateSession`, `Indexed.createSession`, `Indexed.unregister`: what the registry and
    the session manager do keeps it so.
  * `Connections.SameTenant`: two sessions of one tenant, and who receives by type.
-/
import GatewayRealtime.Loop

namespace GatewayRealtime

/-- The sessions that an index has under a tenant. -/
def tenantSet (index : OMap String (OSet SessionRef)) (tenantId : String) : List SessionRef :=
  ((index.get? tenantId).map OSet.elems).getD []

/-- The part of a session that is fixed when it is created. -/
def WsSession.identity (s : WsSession) : ℕ × EndUser × TypeEnduser × Option String :=
  (s.sessionId, s.principal, s.type, s.product)

/-- The kind of the sessions in `tenantDevices`. -/
def TypeEnduser.isDevice : TypeEnduser → Bool
  | .device => true
  | _ => false

/-- The kind of the sessions in `tenantBrowsers`. -/
def TypeEnduser.isBrowser : TypeEnduser → Bool
  | .browser | .desktop => true
  | _ => false

theorem TypeEnduser.isDevice_iff {type : TypeEnduser} : type.isDevice = true ↔ type = .device := by
  cases type <;> simp [TypeEnduser.isDevice]

theorem TypeEnduser.isBrowser_iff {type : TypeEnduser} :
    type.isBrowser = true ↔ type = .browser ∨ type = .desktop := by
  cases type <;> simp [TypeEnduser.isBrowser]

/-- Whoever is authenticated is of one of the two kinds. -/
theorem TypeEnduser.kind_of_issues {type : TypeEnduser} {p : EndUser}
    (h : type.issues p = true) : type.isDevice = true ∨ type.isBrowser = true := by
  cases type with
  | self => cases h
  | server => cases h
  | device => exact Or.inl rfl
  | _ => exact Or.inr rfl

/-- A registered session of the tenant and of the kind. -/
def Connections.Member (k : Connections) (kind : TypeEnduser → Bool) (tenantId : String)
    (r : SessionRef) : Prop :=
  ∃ s : WsSession, k.heap[r]? = some s ∧ k.find s.sessionId = some r ∧
    s.principal.clientId = tenantId ∧ kind s.type = true

/-- The index lists the registered sessions of a kind under their tenants. -/
def Connections.Lists (k : Connections) (index : OMap String (OSet SessionRef))
    (kind : TypeEnduser → Bool) : Prop :=
  ∀ tenantId r, r ∈ tenantSet index tenantId ↔ k.Member kind tenantId r

/-- The id map and the two indexes agree. -/
structure Connections.Indexed (k : Connections) : Prop where
  session : ∀ id r, k.find id = some r → ∃ s, k.heap[r]? = some s ∧ s.sessionId = id
  devices : k.Lists k.registry.tenantDevices TypeEnduser.isDevice
  browsers : k.Lists k.registry.tenantBrowsers TypeEnduser.isBrowser

/-- Two sessions of one tenant. -/
def Connections.SameTenant (k : Connections) (r r' : SessionRef) : Prop :=
  ∃ s s' : WsSession, k.heap[r]? = some s ∧ k.heap[r']? = some s' ∧
    s'.principal.clientId = s.principal.clientId

section
variable {k k' : Connections} {kind : TypeEnduser → Bool} {tenantId : String}
  {r r' : SessionRef} {s session : WsSession} {index : OMap String (OSet SessionRef)}

theorem WsSession.identity_eq (h : s.identity = session.identity) :
    s.sessionId = session.sessionId ∧ s.principal = session.principal ∧ s.type = session.type :=
  ⟨congrArg (·.1) h, congrArg (·.2.1) h, congrArg (·.2.2.1) h⟩

/-! ## One index -/

theorem mem_addToTenant (index : OMap String (OSet SessionRef)) (t : String) (r : SessionRef) :
    r' ∈ tenantSet (Connections.addToTenant index t r) tenantId ↔
      r' ∈ tenantSet index tenantId ∨ tenantId = t ∧ r' = r := by
  unfold tenantSet Connections.addToTenant
  rw [OMap.get?_set]
  split_ifs with ht
  · subst ht
    show r' ∈ ((index.get? tenantId).getD .empty).add r ↔ _
    rw [OSet.mem_add]
    cases index.get? tenantId with
    | none => simp [OSet.empty, OSet.mem_def]
    | some set => simp [OSet.mem_def]
  · simp [ht]

theorem mem_removeFromTenant (index : OMap String (OSet SessionRef)) (t : String)
    (r : SessionRef) :
    r' ∈ tenantSet (Connections.removeFromTenant index t r) tenantId ↔
      r' ∈ tenantSet index tenantId ∧ ¬ (tenantId = t ∧ r' = r) := by
  unfold Connections.removeFromTenant
  split
  · rename_i hnone
    constructor
    · intro h
      refine ⟨h, ?_⟩
      rintro ⟨rfl, -⟩
      simp [tenantSet, hnone] at h
    · intro h
      exact h.1
  · rename_i set hset
    have hmem : ∀ x, x ∈ tenantSet index t ↔ x ∈ set := by
      intro x
      simp [tenantSet, hset, OSet.mem_def]
    by_cases ht : tenantId = t
    · subst ht
      rw [hmem]
      split_ifs with hempty
      · -- the set of the tenant goes with its last session
        have hgone := (OSet.size_eq_zero _).1 hempty r'
        simpa [tenantSet, OMap.get?_delete] using hgone
      · simp [tenantSet, OMap.get?_set, ← OSet.mem_def]
    · split_ifs
      · simp [tenantSet, OMap.get?_delete, ht]
      · simp [tenantSet, OMap.get?_set, ht]

/-! ## Members -/

theorem Connections.Lists.of_member (h : k.Lists index kind)
    (hmember : ∀ tenantId r, k'.Member kind tenantId r ↔ k.Member kind tenantId r) :
    k'.Lists index kind := by
  intro tenantId r
  rw [hmember]
  exact h tenantId r

theorem Connections.member_updateSession (r : SessionRef) (f : WsSession → WsSession)
    (hf : ∀ s, (f s).identity = s.identity) :
    (k.updateSession r f).Member kind tenantId r' ↔ k.Member kind tenantId r' := by
  unfold Connections.Member
  rw [Connections.heap_updateSession]
  constructor
  · rintro ⟨s', hs', hfind, htenant, hkind⟩
    obtain ⟨s, hs, rfl⟩ := Option.map_eq_some_iff.1 hs'
    obtain ⟨hsession, hprincipal, htype⟩ := WsSession.identity_eq (hf s)
    refine ⟨s, hs, ?_⟩
    split_ifs at hfind htenant hkind
    · rw [hsession] at hfind
      rw [hprincipal] at htenant
      rw [htype] at hkind
      exact ⟨hfind, htenant, hkind⟩
    · exact ⟨hfind, htenant, hkind⟩
  · rintro ⟨s, hs, hfind, htenant, hkind⟩
    obtain ⟨hsession, hprincipal, htype⟩ := WsSession.identity_eq (hf s)
    refine ⟨if r' = r then f s else s, by rw [hs]; rfl, ?_⟩
    split_ifs
    · rw [hsession, hprincipal, htype]
      exact ⟨hfind, htenant, hkind⟩
    · exact ⟨hfind, htenant, hkind⟩

/-- A session that is registered anew joins the members of its tenant and kind. -/
theorem Connections.member_added (hheap : k'.heap = k.heap ++ [session])
    (hfree : k.find session.sessionId = none)
    (hfind : ∀ id, k'.find id = if id = session.sessionId then some k.heap.length else k.find id) :
    k'.Member kind tenantId r' ↔ k.Member kind tenantId r' ∨
      r' = k.heap.length ∧ tenantId = session.principal.clientId ∧ kind session.type = true := by
  unfold Connections.Member
  rw [hheap]
  constructor
  · rintro ⟨s, hs, hr, htenant, hkind⟩
    rw [hfind] at hr
    rcases Nat.lt_trichotomy r' k.heap.length with hlt | heq | hgt
    · rw [List.getElem?_append_left hlt] at hs
      split_ifs at hr
      · cases hr
        exact absurd hlt (lt_irrefl _)
      · exact Or.inl ⟨s, hs, hr, htenant, hkind⟩
    · subst heq
      rw [List.getElem?_concat_length] at hs
      cases hs
      exact Or.inr ⟨rfl, htenant.symm, hkind⟩
    · rw [List.getElem?_eq_none (by simp; omega)] at hs
      cases hs
  · rintro (⟨s, hs, hr, htenant, hkind⟩ | ⟨rfl, rfl, hkind⟩)
    · have hlt : r' < k.heap.length := (List.getElem?_eq_some_iff.1 hs).1
      have hne : s.sessionId ≠ session.sessionId := by
        intro heq
        rw [heq, hfree] at hr
        cases hr
      refine ⟨s, by rw [List.getElem?_append_left hlt, hs], ?_, htenant, hkind⟩
      rw [hfind, if_neg hne]
      exact hr
    · exact ⟨session, List.getElem?_concat_length, by rw [hfind, if_pos rfl], rfl, hkind⟩

/-- A session that is no longer registered leaves the members. -/
theorem Connections.member_removed {id : ℕ} (hr : k.find id = some r) (hs : k.heap[r]? = some s)
    (hid : s.sessionId = id) (hheap : k'.heap = k.heap)
    (hfind : ∀ id', k'.find id' = if id' = id then none else k.find id') :
    k'.Member kind tenantId r' ↔ k.Member kind tenantId r' ∧ r' ≠ r := by
  unfold Connections.Member
  rw [hheap]
  constructor
  · rintro ⟨s', hs', hr', htenant, hkind⟩
    rw [hfind] at hr'
    split_ifs at hr' with hne
    refine ⟨⟨s', hs', hr', htenant, hkind⟩, ?_⟩
    rintro rfl
    rw [hs] at hs'
    cases hs'
    exact hne hid
  · rintro ⟨⟨s', hs', hr', htenant, hkind⟩, hne⟩
    refine ⟨s', hs', ?_, htenant, hkind⟩
    rw [hfind, if_neg, hr']
    intro heq
    rw [heq, hr] at hr'
    exact hne (Option.some.inj hr').symm

/-! ## The registry -/

theorem Connections.Indexed.of_eq (h : k.Indexed) (hheap : k'.heap = k.heap)
    (hregistry : k'.registry = k.registry) : k'.Indexed := by
  have hfind : ∀ id, k'.find id = k.find id := by
    intro id
    rw [Connections.find, hregistry]
    rfl
  have hmember : ∀ (kind : TypeEnduser → Bool) tenantId r,
      k'.Member kind tenantId r ↔ k.Member kind tenantId r := by
    intro kind tenantId r
    simp only [Connections.Member, hheap, hfind]
  constructor
  · intro id r hr
    rw [hheap]
    exact h.session id r (hfind id ▸ hr)
  · rw [hregistry]
    exact h.devices.of_member (hmember _)
  · rw [hregistry]
    exact h.browsers.of_member (hmember _)

theorem Connections.Indexed.updateSession (h : k.Indexed) (r : SessionRef)
    (f : WsSession → WsSession) (hf : ∀ s, (f s).identity = s.identity) :
    (k.updateSession r f).Indexed := by
  constructor
  · intro id r' hr'
    obtain ⟨s, hs, hid⟩ := h.session id r' hr'
    refine ⟨if r' = r then f s else s, by rw [Connections.heap_updateSession, hs]; rfl, ?_⟩
    split_ifs
    · exact (WsSession.identity_eq (hf s)).1.trans hid
    · exact hid
  · exact h.devices.of_member fun _ _ => Connections.member_updateSession r f hf
  · exact h.browsers.of_member fun _ _ => Connections.member_updateSession r f hf

/-- An index after a registration, whichever the type of the session is. -/
theorem Connections.Lists.added (h : k.Lists index kind) (hheap : k'.heap = k.heap ++ [session])
    (hfree : k.find session.sessionId = none)
    (hfind : ∀ id, k'.find id = if id = session.sessionId then some k.heap.length else k.find id) :
    k'.Lists (if kind session.type then
      Connections.addToTenant index session.principal.clientId k.heap.length else index) kind := by
  intro tenantId r
  rw [Connections.member_added hheap hfree hfind, ← h tenantId r]
  split_ifs with hkind
  · rw [mem_addToTenant]
    simp [hkind, and_comm]
  · simp [hkind]

theorem Connections.Indexed.createSession (h : k.Indexed) {id_enduser : ℕ} (auth : EndUser)
    (type : TypeEnduser) (product : Option String) (client : ClientRef)
    (hfree : k.find id_enduser = none) :
    (k.createSession id_enduser auth type product client).1.Indexed := by
  obtain ⟨session, hsession⟩ : ∃ session : WsSession, session =
      { sessionId := id_enduser, principal := auth, type := type, product := product,
        socket := some client } := ⟨_, rfl⟩
  obtain ⟨k', hk'⟩ : ∃ k', k' = (k.createSession id_enduser auth type product client).1 :=
    ⟨_, rfl⟩
  have hheap : k'.heap = k.heap ++ [session] := by
    rw [hk', hsession]
    simp [Connections.createSession]
  have hfind : ∀ id, k'.find id =
      if id = session.sessionId then some k.heap.length else k.find id := by
    intro id
    rw [hk', hsession]
    simp only [Connections.createSession, Connections.register, Connections.updateClient_heap,
      List.getElem?_concat_length]
    split <;> exact OMap.get?_set ..
  have hfree' : k.find session.sessionId = none := by
    rw [hsession]
    exact hfree
  have hdevices := h.devices.added hheap hfree' hfind
  have hbrowsers := h.browsers.added hheap hfree' hfind
  rw [← hk']
  constructor
  · intro id r hr
    rw [hfind] at hr
    split_ifs at hr with hid
    · cases hr
      exact ⟨session, by rw [hheap, List.getElem?_concat_length], hid.symm⟩
    · obtain ⟨s, hs, hid'⟩ := h.session id r hr
      have hlt : r < k.heap.length := (List.getElem?_eq_some_iff.1 hs).1
      exact ⟨s, by rw [hheap, List.getElem?_append_left hlt, hs], hid'⟩
  · have hregistry : k'.registry.tenantDevices = if session.type.isDevice then
        Connections.addToTenant k.registry.tenantDevices session.principal.clientId k.heap.length
      else k.registry.tenantDevices := by
      rw [hk', hsession]
      cases type <;> simp [Connections.createSession, Connections.register, TypeEnduser.isDevice]
    rw [hregistry]
    exact hdevices
  · have hregistry : k'.registry.tenantBrowsers = if session.type.isBrowser then
        Connections.addToTenant k.registry.tenantBrowsers session.principal.clientId k.heap.length
      else k.registry.tenantBrowsers := by
      rw [hk', hsession]
      cases type <;> simp [Connections.createSession, Connections.register, TypeEnduser.isBrowser]
    rw [hregistry]
    exact hbrowsers

/-- An index after a session has gone, whichever the type of the session is. -/
theorem Connections.Lists.removed (h : k.Lists index kind) {id : ℕ} (hr : k.find id = some r)
    (hs : k.heap[r]? = some s) (hid : s.sessionId = id) (hheap : k'.heap = k.heap)
    (hfind : ∀ id', k'.find id' = if id' = id then none else k.find id') :
    k'.Lists (if kind s.type then
      Connections.removeFromTenant index s.principal.clientId r else index) kind := by
  intro tenantId r'
  rw [Connections.member_removed hr hs hid hheap hfind, ← h tenantId r']
  -- the session is a member of its own tenant and kind alone
  have hown : r ∈ tenantSet index tenantId →
      tenantId = s.principal.clientId ∧ kind s.type = true := by
    intro hmem
    obtain ⟨s', hs', -, htenant, hkind⟩ := (h tenantId r).1 hmem
    rw [hs] at hs'
    cases hs'
    exact ⟨htenant.symm, hkind⟩
  split_ifs with hkind
  · rw [mem_removeFromTenant]
    refine and_congr_right fun hmem => not_congr ⟨fun heq => heq.2, ?_⟩
    rintro rfl
    exact ⟨(hown hmem).1, rfl⟩
  · refine ⟨fun hmem => ⟨hmem, ?_⟩, fun hmem => hmem.1⟩
    rintro rfl
    exact hkind (hown hmem).2

theorem Connections.unregister_heap (k : Connections) (id : ℕ) :
    (k.unregister id).heap = k.heap := by
  unfold Connections.unregister
  split
  · rfl
  · split
    · rfl
    · split <;> rfl

/-- The entry of a registered id goes. -/
theorem Connections.find_unregister {id : ℕ} {s : WsSession} (hr : k.find id = some r)
    (hs : k.heap[r]? = some s) (id' : ℕ) :
    (k.unregister id).find id' = if id' = id then none else k.find id' := by
  unfold Connections.unregister
  rw [hr]
  dsimp only
  rw [hs]
  dsimp only
  split <;> exact OMap.get?_delete ..

theorem Connections.Indexed.unregister (h : k.Indexed) (id : ℕ) : (k.unregister id).Indexed := by
  cases hr : k.find id with
  | none =>
    have hsame : k.unregister id = k := by simp [Connections.unregister, hr]
    rw [hsame]
    exact h
  | some r =>
    obtain ⟨s, hs, hid⟩ := h.session id r hr
    have hheap := k.unregister_heap id
    have hfind := Connections.find_unregister hr hs
    have hdevices := h.devices.removed hr hs hid hheap hfind
    have hbrowsers := h.browsers.removed hr hs hid hheap hfind
    constructor
    · intro id' r' hr'
      rw [hfind] at hr'
      split_ifs at hr'
      rw [hheap]
      exact h.session id' r' hr'
    · convert hdevices using 1
      cases hty : s.type <;> simp [Connections.unregister, hr, hs, hty, TypeEnduser.isDevice]
    · convert hbrowsers using 1
      cases hty : s.type <;> simp [Connections.unregister, hr, hs, hty, TypeEnduser.isBrowser]

/-! ## Receivers -/

theorem mem_getDevicesByTenant (h : k.Indexed) {filter : SessionRef → Bool} :
    r ∈ k.getDevicesByTenant tenantId filter ↔
      k.Member TypeEnduser.isDevice tenantId r ∧ filter r = true := by
  rw [← h.devices tenantId r]
  exact List.mem_filter

theorem mem_getBrowsersByTenant (h : k.Indexed) {filter : SessionRef → Bool} :
    r ∈ k.getBrowsersByTenant tenantId filter ↔
      k.Member TypeEnduser.isBrowser tenantId r ∧ filter r = true := by
  rw [← h.browsers tenantId r]
  exact List.mem_filter

theorem Connections.Member.sameTenant (h : k.Member kind s.principal.clientId r')
    (hs : k.heap[r]? = some s) : k.SameTenant r r' := by
  obtain ⟨s', hs', -, htenant, -⟩ := h
  exact ⟨s, s', hs, hs', htenant⟩

theorem Connections.SameTenant.refl (hs : k.heap[r]? = some s) : k.SameTenant r r :=
  ⟨s, s, hs, hs, rfl⟩

/-- Receivers by type are of the tenant of the sender. -/
theorem sameTenant_of_byType (h : k.Indexed) (hs : k.heap[r]? = some s) {type : TypeEnduser}
    (hr' : r' ∈ k.getActiveScoketsByType r s.principal type) : k.SameTenant r r' := by
  cases type with
  | browser => exact ((mem_getBrowsersByTenant h).1 hr').1.sameTenant hs
  | desktop => exact ((mem_getBrowsersByTenant h).1 hr').1.sameTenant hs
  | device => exact ((mem_getDevicesByTenant h).1 hr').1.sameTenant hs
  | self =>
    rw [List.mem_singleton.1 hr']
    exact .refl hs
  | server => cases hr'

end

end GatewayRealtime
