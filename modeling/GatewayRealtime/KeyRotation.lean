/-
  The secrets of a tenant at login and at the authentication of its devices
  (`ClientService.exists`, `DeviceService.getDevice` and `mapAuth`).

  * `newestSecret_spec`: login reads the secret with the highest id.
  * `OneSecret`: devices authenticate with the key of that row, and in whatever order the joined
    rows come back.
  * `RowsAgree`, `oneSecret_iff`: when they do.
-/
import Mathlib.Data.List.Rotate
import GatewayRealtime.Auth

namespace GatewayRealtime

namespace Database

/-! ## What is compared -/

/-- The same record: the properties of `products` are compared by their names. -/
structure AuthDevice.Same (a b : AuthDevice) : Prop where
  fields : { a with products := [] } = { b with products := [] }
  products : ∀ name, OMap.find name a.products = OMap.find name b.products

/-- Two authentications come to the same. -/
def SameAuth (x y : Except Failure AuthDevice) : Prop :=
  (∃ a b, x = .ok a ∧ y = .ok b ∧ a.Same b) ∨ ∃ f, x = .error f ∧ y = .error f

/-- **Login and device authentication use the same secret.**  In whatever order the rows come
    back, a device authenticates with the key of the newest secret of its tenant, and the result
    is the same. -/
structure OneSecret (db : Database) (clientId deviceId : String) : Prop where
  newest : ∀ ord auth, db.getAuthDevice ord clientId deviceId = .ok auth →
    ∀ client ∈ db.client, client.client_id = clientId → ∀ s ∈ db.newestSecret client,
      auth.key_device = s.key_device
  order : ∀ ord ord', SameAuth (db.getAuthDevice ord clientId deviceId)
    (db.getAuthDevice ord' clientId deviceId)

/-- The joined rows of a device have the key of the newest secret, are about one device, and have
    one host for each product. -/
structure RowsAgree (db : Database) (clientId deviceId : String) : Prop where
  key : ∀ row ∈ db.deviceRows clientId deviceId, ∀ client ∈ db.client,
    client.client_id = clientId → ∀ s ∈ db.newestSecret client, row.2.keyDevice = s.key_device
  device : ∀ row ∈ db.deviceRows clientId deviceId, ∀ row' ∈ db.deviceRows clientId deviceId,
    row.2.id_device = row'.2.id_device ∧ row.2.id_enduser = row'.2.id_enduser ∧
      row.2.device_product = row'.2.device_product
  host : ∀ row ∈ db.deviceRows clientId deviceId, ∀ row' ∈ db.deviceRows clientId deviceId,
    row.2.nama_product = row'.2.nama_product → row.2.host = row'.2.host

end Database

/-! ## Orders -/

/-- Rows come back from the `n`-th on, and then those before it. -/
def RowOrder.rotated (n : ℕ) : RowOrder :=
  ⟨fun rows => rows.rotate n, fun rows => rows.rotate_perm n⟩

/-- Any row can come back first. -/
theorem RowOrder.exists_first {α : Type} {rows : List α} {row : α} (h : row ∈ rows) :
    ∃ (ord : RowOrder) (rest : List α), ord.arrange rows = row :: rest := by
  obtain ⟨before, after, rfl⟩ := List.append_of_mem h
  exact ⟨.rotated before.length, after ++ before, List.rotate_append_length_eq before _⟩

/-- Any row can come back last. -/
theorem RowOrder.exists_last {α : Type} {rows : List α} {row : α} (h : row ∈ rows) :
    ∃ (ord : RowOrder) (rest : List α), ord.arrange rows = rest ++ [row] := by
  obtain ⟨before, after, rfl⟩ := List.append_of_mem h
  refine ⟨.rotated (before ++ [row]).length, after ++ before, ?_⟩
  have hrotate := List.rotate_append_length_eq (before ++ [row]) after
  rw [List.append_assoc, List.singleton_append] at hrotate
  rw [List.append_assoc]
  exact hrotate

namespace Database

section
variable {db : Database} {ord ord' : RowOrder} {clientId deviceId : String}
  {client : ClientEntity} {auth : AuthDevice}

/-! ## The newest secret -/

theorem newerSecret_spec {l : List SecretEntity} {t u : SecretEntity}
    (h : l.foldl newerSecret (some t) = some u) :
    (u = t ∨ u ∈ l) ∧ t.id ≤ u.id ∧ ∀ s ∈ l, s.id ≤ u.id := by
  induction l generalizing t with
  | nil =>
    cases h
    exact ⟨Or.inl rfl, le_refl _, List.forall_mem_nil _⟩
  | cons s l ih =>
    rw [List.foldl_cons] at h
    have hnewer : newerSecret (some t) s = if t.id < s.id then some s else some t := rfl
    rw [hnewer] at h
    rw [List.forall_mem_cons]
    split_ifs at h with hlt
    · obtain ⟨hmem, hle, hall⟩ := ih h
      refine ⟨Or.inr ?_, by omega, hle, hall⟩
      rcases hmem with rfl | hmem
      · exact List.mem_cons_self
      · exact List.mem_cons_of_mem _ hmem
    · obtain ⟨hmem, hle, hall⟩ := ih h
      refine ⟨hmem.imp_right (List.mem_cons_of_mem _), hle, by omega, hall⟩

theorem isSome_foldl_newerSecret (l : List SecretEntity) (t : SecretEntity) :
    ∃ u, l.foldl newerSecret (some t) = some u := by
  induction l generalizing t with
  | nil => exact ⟨t, rfl⟩
  | cons s l ih =>
    have hnewer : newerSecret (some t) s = if t.id < s.id then some s else some t := rfl
    rw [List.foldl_cons, hnewer]
    split_ifs
    · exact ih s
    · exact ih t

/-- **Login reads the secret of the tenant with the highest id.** -/
theorem newestSecret_spec {s : SecretEntity} (h : db.newestSecret client = some s) :
    s ∈ db.secret ∧ s.id_client = client.id ∧
      ∀ t ∈ db.secret, t.id_client = client.id → t.id ≤ s.id := by
  have hmem : ∀ t, t ∈ db.secret.filter (·.id_client = client.id) ↔
      t ∈ db.secret ∧ t.id_client = client.id := fun t => by simp
  unfold newestSecret at h
  cases hl : db.secret.filter (·.id_client = client.id) with
  | nil => simp [hl] at h
  | cons t l =>
    rw [hl] at h hmem
    obtain ⟨hs, hle, hall⟩ := newerSecret_spec (l := l) (t := t) h
    have hin : s ∈ t :: l := List.mem_cons.2 hs
    refine ⟨((hmem s).1 hin).1, ((hmem s).1 hin).2, fun u hu hclient => ?_⟩
    rcases List.mem_cons.1 ((hmem u).2 ⟨hu, hclient⟩) with rfl | hu
    · exact hle
    · exact hall u hu

/-- A tenant with a secret has a newest one. -/
theorem newestSecret_isSome {s : SecretEntity} (hs : s ∈ db.secret)
    (hclient : s.id_client = client.id) : ∃ t, db.newestSecret client = some t := by
  unfold newestSecret
  have hmem : s ∈ db.secret.filter (·.id_client = client.id) := by simp [hs, hclient]
  cases hl : db.secret.filter (·.id_client = client.id) with
  | nil => simp [hl] at hmem
  | cons t l => exact isSome_foldl_newerSecret l t

/-! ## The result of an order -/

/-- The products of some rows, as `mapAuth` collects them. -/
def productsOf (rows : List (DeviceTransaksiEntity × DeviceAuthRow)) :
    List (String × ProductInfo) :=
  productRecord (rows.map fun r => (r.2.nama_product, r.2.host))

/-- What `getAuth` makes of the first row and the products. -/
def authOf (db : Database) (first : DeviceAuthRow) (products : List (String × ProductInfo)) :
    AuthDevice where
  id_enduser := first.id_enduser
  product := first.device_product
  id_device := first.id_device
  key_device := first.keyDevice
  clientId := first.clientId
  deviceId := first.deviceId
  products := products
  blackListSend := db.listedEvents db.blacklist_device_send_event first.id_device
  blackListGet := db.listedEvents db.blacklist_device_get_event first.id_device

theorem getAuthDevice_of_arrange {first : DeviceTransaksiEntity × DeviceAuthRow}
    {rest : List (DeviceTransaksiEntity × DeviceAuthRow)}
    (h : ord.arrange (db.deviceRows clientId deviceId) = first :: rest) :
    db.getAuthDevice ord clientId deviceId =
      .ok (db.authOf first.2 (productsOf (first :: rest))) := by
  unfold getAuthDevice getDevice
  rw [h]
  simp [authOf, BaseDevice.auth, productsOf, List.map_map, Function.comp_def]

/-- There are rows, and the result is read off them, or there are none. -/
theorem getAuthDevice_cases (db : Database) (ord : RowOrder) (clientId deviceId : String) :
    (db.deviceRows clientId deviceId = [] ∧ db.getAuthDevice ord clientId deviceId =
      .error (.ws "UNAUTHENTICATED" "Penyusup lu?")) ∨
    ∃ first ∈ db.deviceRows clientId deviceId, db.getAuthDevice ord clientId deviceId =
      .ok (db.authOf first.2 (productsOf (ord.arrange (db.deviceRows clientId deviceId)))) := by
  cases h : ord.arrange (db.deviceRows clientId deviceId) with
  | nil =>
    refine Or.inl ⟨(ord.arrange_eq_nil _).1 h, ?_⟩
    unfold getAuthDevice getDevice
    rw [h]
    rfl
  | cons first rest =>
    refine Or.inr ⟨first, ord.mem.1 (by rw [h]; exact List.mem_cons_self), ?_⟩
    exact getAuthDevice_of_arrange h

/-- A row is about the tenant, which has a secret. -/
theorem newestSecret_of_row {row : DeviceTransaksiEntity × DeviceAuthRow}
    (h : row ∈ db.deviceRows clientId deviceId) : row.2.clientId = clientId ∧
      row.2.deviceId = deviceId ∧ ∃ client ∈ db.client, client.client_id = clientId ∧
        ∃ s, db.newestSecret client = some s := by
  obtain ⟨-, -, -, -, hdevice, hclient, -⟩ := db.mem_deviceRows h
  refine ⟨hclient, hdevice, ?_⟩
  simp only [deviceRows, List.mem_flatMap, List.mem_map, List.mem_filter, decide_eq_true_eq] at h
  obtain ⟨client, ⟨hmem, hid⟩, _, -, _, -, _, -, _, -, host, hhost, -⟩ := h
  obtain ⟨hs, hclient'⟩ := db.mem_hostRows hhost
  exact ⟨client, hmem, hid, newestSecret_isSome hs hclient'⟩

/-! ## The products of an order -/

theorem find_productRecord_concat (rows : List (String × ProductInfo))
    (r : String × ProductInfo) (name : String) :
    OMap.find name (productRecord (rows ++ [r])) =
      if name = r.1 then some r.2 else OMap.find name (productRecord rows) := by
  unfold productRecord
  rw [List.foldl_concat, OMap.find_put]

/-- A product has the host of one of its rows. -/
theorem find_productsOf (rows : List (DeviceTransaksiEntity × DeviceAuthRow)) (name : String) :
    (OMap.find name (productsOf rows) = none ∧ ∀ r ∈ rows, r.2.nama_product ≠ name) ∨
      ∃ r ∈ rows, r.2.nama_product = name ∧ OMap.find name (productsOf rows) = some r.2.host := by
  induction rows using List.reverseRecOn with
  | nil => exact Or.inl ⟨rfl, List.forall_mem_nil _⟩
  | append_singleton rows r ih =>
    have hlast := find_productRecord_concat (rows.map fun r => (r.2.nama_product, r.2.host))
      (r.2.nama_product, r.2.host) name
    have hconcat : productsOf (rows ++ [r]) = productRecord
        ((rows.map fun r => (r.2.nama_product, r.2.host)) ++
          [(r.2.nama_product, r.2.host)]) := by
      simp [productsOf]
    rw [hconcat, hlast]
    by_cases hname : name = r.2.nama_product
    · rw [if_pos hname]
      exact Or.inr ⟨r, by simp, hname.symm, rfl⟩
    · rw [if_neg hname]
      rcases ih with ⟨hnone, hall⟩ | ⟨r', hr', hname', hsome⟩
      · refine Or.inl ⟨hnone, fun r' hr' => ?_⟩
        rcases List.mem_append.1 hr' with hr' | hr'
        · exact hall r' hr'
        · rw [List.mem_singleton.1 hr']
          exact Ne.symm hname
      · exact Or.inr ⟨r', by simp [hr'], hname', hsome⟩

/-- The last row decides about its product. -/
theorem find_productsOf_last (rows : List (DeviceTransaksiEntity × DeviceAuthRow))
    (r : DeviceTransaksiEntity × DeviceAuthRow) :
    OMap.find r.2.nama_product (productsOf (rows ++ [r])) = some r.2.host := by
  unfold productsOf
  rw [List.map_append, List.map_singleton, find_productRecord_concat, if_pos rfl]

/-! ## When one secret is used -/

/-- Some order has the row first. -/
theorem exists_auth_first {row : DeviceTransaksiEntity × DeviceAuthRow}
    (h : row ∈ db.deviceRows clientId deviceId) :
    ∃ ord products, db.getAuthDevice ord clientId deviceId = .ok (db.authOf row.2 products) := by
  obtain ⟨ord, rest, harrange⟩ := RowOrder.exists_first h
  exact ⟨ord, _, getAuthDevice_of_arrange harrange⟩

/-- Some order has the row last. -/
theorem exists_auth_last {row : DeviceTransaksiEntity × DeviceAuthRow}
    (h : row ∈ db.deviceRows clientId deviceId) :
    ∃ ord auth, db.getAuthDevice ord clientId deviceId = .ok auth ∧
      OMap.find row.2.nama_product auth.products = some row.2.host := by
  obtain ⟨ord, rest, harrange⟩ := RowOrder.exists_last h
  rcases db.getAuthDevice_cases ord clientId deviceId with ⟨hnil, -⟩ | ⟨first, -, hauth⟩
  · rw [hnil] at h
    cases h
  · refine ⟨ord, _, hauth, ?_⟩
    rw [harrange]
    exact find_productsOf_last rest row

theorem SameAuth.same {a b : AuthDevice} (h : SameAuth (.ok a) (.ok b)) : a.Same b := by
  rcases h with ⟨a', b', ha, hb, hsame⟩ | ⟨f, hf, -⟩
  · cases ha
    cases hb
    exact hsame
  · cases hf

/-- Whatever row comes first, it says the same. -/
theorem RowsAgree.authOf (h : db.RowsAgree clientId deviceId)
    {row row' : DeviceTransaksiEntity × DeviceAuthRow}
    (hrow : row ∈ db.deviceRows clientId deviceId) (hrow' : row' ∈ db.deviceRows clientId deviceId)
    (products : List (String × ProductInfo)) :
    db.authOf row.2 products = db.authOf row'.2 products := by
  obtain ⟨hclientId, hdeviceId, client, hclient, hid, s, hs⟩ := newestSecret_of_row hrow
  obtain ⟨hclientId', hdeviceId', -⟩ := newestSecret_of_row hrow'
  obtain ⟨hdevice, henduser, hproduct⟩ := h.device row hrow row' hrow'
  have hkey := h.key row hrow client hclient hid s hs
  have hkey' := h.key row' hrow' client hclient hid s hs
  simp only [Database.authOf, hdevice, henduser, hproduct, hkey, hkey', hclientId, hclientId',
    hdeviceId, hdeviceId']

/-- Whatever row of a product comes last, it has the same host. -/
theorem RowsAgree.products (h : db.RowsAgree clientId deviceId) (ord ord' : RowOrder)
    (name : String) :
    OMap.find name (productsOf (ord.arrange (db.deviceRows clientId deviceId))) =
      OMap.find name (productsOf (ord'.arrange (db.deviceRows clientId deviceId))) := by
  have hrows : ∀ r, r ∈ ord.arrange (db.deviceRows clientId deviceId) ↔
      r ∈ ord'.arrange (db.deviceRows clientId deviceId) := fun r => ord.mem.trans ord'.mem.symm
  rcases find_productsOf (ord.arrange (db.deviceRows clientId deviceId)) name with
    ⟨hnone, hall⟩ | ⟨r, hr, hname, hsome⟩
  · rcases find_productsOf (ord'.arrange (db.deviceRows clientId deviceId)) name with
      ⟨hnone', -⟩ | ⟨r', hr', hname', -⟩
    · rw [hnone, hnone']
    · exact absurd hname' (hall r' ((hrows r').2 hr'))
  · rcases find_productsOf (ord'.arrange (db.deviceRows clientId deviceId)) name with
      ⟨-, hall⟩ | ⟨r', hr', hname', hsome'⟩
    · exact absurd hname (hall r ((hrows r).1 hr))
    · rw [hsome, hsome', h.host r (ord.mem.1 hr) r' (ord'.mem.1 hr') (hname.trans hname'.symm)]

/-- Every secret of a tenant joins with its devices, so all of them have the newest key. -/
theorem RowsAgree.key_device (h : db.RowsAgree clientId deviceId)
    {row : DeviceTransaksiEntity × DeviceAuthRow} (hrow : row ∈ db.deviceRows clientId deviceId) :
    ∃ client ∈ db.client, client.client_id = clientId ∧ ∀ s ∈ db.secret,
      s.id_client = client.id → ∀ t ∈ db.newestSecret client, s.key_device = t.key_device := by
  simp only [deviceRows, List.mem_flatMap, List.mem_map, List.mem_filter, decide_eq_true_eq]
    at hrow
  obtain ⟨client, ⟨hclient, hid⟩, d, hd, enduser, henduser, j, hj, p, hp, host, hhost, -⟩ := hrow
  refine ⟨client, hclient, hid, fun s hs hs' t ht => ?_⟩
  have hsecret : (host.1, host.2.1, s) ∈ db.hostRows client := by
    simp only [hostRows, List.mem_flatMap, List.mem_map, List.mem_filter, decide_eq_true_eq]
      at hhost ⊢
    obtain ⟨host', hhost', p', hp', _, -, rfl⟩ := hhost
    exact ⟨host', hhost', p', hp', s, ⟨hs, hs'⟩, rfl⟩
  refine h.key (d, ⟨client.client_id, d.id, d.device_id, enduser, s.key_device, host.1,
    p.nama_product, host.2.1⟩) ?_ client hclient hid t ht
  simp only [deviceRows, List.mem_flatMap, List.mem_map, List.mem_filter, decide_eq_true_eq]
  exact ⟨client, ⟨hclient, hid⟩, d, hd, enduser, henduser, j, hj, p, hp, _, hsecret, rfl⟩

/-- **When login and device authentication use the same secret**: iff the joined rows of the
    device agree. -/
theorem oneSecret_iff (db : Database) (clientId deviceId : String) :
    db.OneSecret clientId deviceId ↔ db.RowsAgree clientId deviceId := by
  constructor
  · intro h
    refine ⟨fun row hrow client hclient hid s hs => ?_, fun row hrow row' hrow' => ?_,
      fun row hrow row' hrow' hname => ?_⟩
    · obtain ⟨ord, products, hauth⟩ := exists_auth_first hrow
      exact h.newest ord _ hauth client hclient hid s hs
    · obtain ⟨ord, products, hauth⟩ := exists_auth_first hrow
      obtain ⟨ord', products', hauth'⟩ := exists_auth_first hrow'
      have hsame := h.order ord ord'
      rw [hauth, hauth'] at hsame
      have hfields := hsame.same.fields
      simp only [authOf, AuthDevice.mk.injEq] at hfields
      exact ⟨hfields.2.2.1, hfields.1, hfields.2.1⟩
    · obtain ⟨ord, auth, hauth, hhost⟩ := exists_auth_last hrow
      obtain ⟨ord', auth', hauth', hhost'⟩ := exists_auth_last hrow'
      have hsame := h.order ord ord'
      rw [hauth, hauth'] at hsame
      have hproducts := hsame.same.products row.2.nama_product
      rw [hhost, hname, hhost'] at hproducts
      exact Option.some.inj hproducts
  · intro h
    refine ⟨fun ord auth hauth client hclient hid s hs => ?_, fun ord ord' => ?_⟩
    · rcases db.getAuthDevice_cases ord clientId deviceId with ⟨-, herror⟩ | ⟨first, hfirst, hok⟩
      · rw [herror] at hauth
        cases hauth
      · rw [hok] at hauth
        cases hauth
        exact h.key first hfirst client hclient hid s hs
    · rcases db.getAuthDevice_cases ord clientId deviceId with ⟨hnil, herror⟩ | ⟨first, hfirst, hok⟩
      · rcases db.getAuthDevice_cases ord' clientId deviceId with ⟨-, herror'⟩ | ⟨_, hfirst', -⟩
        · exact Or.inr ⟨_, herror, herror'⟩
        · rw [hnil] at hfirst'
          cases hfirst'
      · rcases db.getAuthDevice_cases ord' clientId deviceId with
          ⟨hnil, -⟩ | ⟨first', hfirst', hok'⟩
        · rw [hnil] at hfirst
          cases hfirst
        · refine Or.inl ⟨_, _, hok, hok', ?_, h.products ord ord'⟩
          exact h.authOf hfirst hfirst' []

end

end Database

/-! ## A rotated key -/

/-- The tenant of `scannerTenant` after its keys are rotated: the old row of `secret` stays. -/
def rotatedTenant : Database :=
  { scannerTenant with
    secret := [⟨1, "service-key", "device-key", 1⟩, ⟨2, "service-key-2", "device-key-2", 1⟩] }

/-- Login reads the new secret, and the device authenticates with the old one, or with the new
    one if the rows come back the other way round. -/
theorem rotatedTenant_oldKey :
    (∃ s, rotatedTenant.newestSecret ⟨1, "acme", .ACTIVE⟩ = some s ∧
      s.key_device = "device-key-2") ∧
    (∃ auth, rotatedTenant.getAuthDevice .natural "acme" "scanner" = .ok auth ∧
      auth.key_device = "device-key") ∧
    (∃ auth, rotatedTenant.getAuthDevice (.rotated 1) "acme" "scanner" = .ok auth ∧
      auth.key_device = "device-key-2") ∧
    ¬ rotatedTenant.OneSecret "acme" "scanner" := by
  refine ⟨⟨_, rfl, rfl⟩, ⟨_, rfl, rfl⟩, ⟨_, rfl, rfl⟩, fun h => ?_⟩
  have hkey := h.newest .natural _ rfl ⟨1, "acme", .ACTIVE⟩ (by decide) rfl _ rfl
  exact absurd hkey (by decide)

end GatewayRealtime
