/-
  The tables behind authentication and permission, and the queries over them.

  * `Database`: one list of rows per table; a foreign key that matches no row stands for a
    missing one.
  * `RowOrder`: the order in which the server returns the rows of a query without `ORDER BY`.
  * `EventService.getByProduct`, `DeviceService.getDevice` and `getBlacklist`,
    `BrowserService.getBaseRole` and `getWhitelist`, and the id queries of the two services,
    each join written in the order of the source.

  Columns that no modelled function reads are left out.
-/
import GatewayRealtime.Types

namespace GatewayRealtime

/-! ## Tables -/

/-- `ClientStatus` and `DeviceStatus`. -/
inductive RowStatus
  | ACTIVE | OFFLINE
deriving DecidableEq, Repr

/-- A row of `client`. -/
structure ClientEntity where
  id : ℕ
  client_id : String
  status : RowStatus
deriving DecidableEq, Repr

/-- A row of `secret`. -/
structure SecretEntity where
  id : ℕ
  key_service : String
  key_device : String
  id_client : ℕ
deriving DecidableEq, Repr

/-- A row of `role_transaksi`. -/
structure RoleTransaksiEntity where
  id : ℕ
  label_role : String
  id_client : ℕ
  id_product : ℕ
  id_enduser : ℕ
deriving DecidableEq, Repr

/-- A row of `device_transaksi`. -/
structure DeviceTransaksiEntity where
  id : ℕ
  device_id : String
  status : RowStatus
  id_jenis_device : ℕ
  id_client : ℕ
  id_enduser : ℕ
deriving DecidableEq, Repr

/-- A row of `jenis_device`. -/
structure JenisDeviceEntity where
  id : ℕ
  id_product : ℕ
deriving DecidableEq, Repr

/-- A row of `event_transaksi`. -/
structure EventTransaksiEntity where
  id : ℕ
  event : String
  id_jenis_device : ℕ
deriving DecidableEq, Repr

/-- A row of `host_client`. -/
structure HostClientEntity where
  domain : String
  api_secret : String
  id_client : ℕ
  id_product : ℕ
deriving DecidableEq, Repr

/-- A row of `product`. -/
structure ProductEntity where
  id : ℕ
  nama_product : String
deriving DecidableEq, Repr

/-- A row of one of the four whitelist and blacklist tables: an event listed for a role or a
    device. -/
structure EventListEntity where
  owner : ℕ
  id_event : ℕ
deriving DecidableEq, Repr

/-- A row of `refresh_tokens`. -/
structure RefreshTokenEntity where
  token : String
  client : ℕ
  role : String
  expiresAt : ℤ
  revoked : Bool := false
deriving DecidableEq, Repr

/-- The tables. -/
structure Database where
  client : List ClientEntity := []
  secret : List SecretEntity := []
  role_transaksi : List RoleTransaksiEntity := []
  device_transaksi : List DeviceTransaksiEntity := []
  jenis_device : List JenisDeviceEntity := []
  event_transaksi : List EventTransaksiEntity := []
  host_client : List HostClientEntity := []
  product : List ProductEntity := []
  enduser : List ℕ := []
  whitelist_role_send_event : List EventListEntity := []
  whitelist_role_get_event : List EventListEntity := []
  blacklist_device_send_event : List EventListEntity := []
  blacklist_device_get_event : List EventListEntity := []
  refresh_tokens : List RefreshTokenEntity := []
deriving DecidableEq

/-- The order in which the rows of a query come back. -/
structure RowOrder where
  arrange : ∀ {α : Type}, List α → List α
  perm : ∀ {α : Type} (rows : List α), (arrange rows).Perm rows

/-- Rows come back in the order of the tables. -/
def RowOrder.natural : RowOrder := ⟨fun rows => rows, fun rows => .refl rows⟩

theorem RowOrder.mem (ord : RowOrder) {α : Type} {rows : List α} {a : α} :
    a ∈ ord.arrange rows ↔ a ∈ rows := (ord.perm rows).mem_iff

/-- An order returns rows exactly when there are some. -/
theorem RowOrder.arrange_eq_nil (ord : RowOrder) {α : Type} (rows : List α) :
    ord.arrange rows = [] ↔ rows = [] :=
  ⟨fun h => List.nil_perm.1 (h ▸ ord.perm rows), fun h => List.perm_nil.1 (h ▸ ord.perm rows)⟩

/-- `[...new Set(ids)]`. -/
def uniqueIds (ids : List ℕ) : List ℕ := ids.eraseDups

@[simp] theorem mem_uniqueIds {ids : List ℕ} {id : ℕ} : id ∈ uniqueIds ids ↔ id ∈ ids :=
  List.mem_eraseDups

/-- `products[r.nama_product] = …` over all rows: the last row of a product wins. -/
def productRecord (rows : List (String × ProductInfo)) : List (String × ProductInfo) :=
  rows.foldl (fun products r => OMap.put r.1 r.2 products) []

namespace Database

variable (db : Database) (ord : RowOrder)

/-! ## Joins -/

/-- The rows of `product` with the given id. -/
def productsById (id : ℕ) : List ProductEntity := db.product.filter (·.id = id)

/-- The hosts of a client with their products, and the secrets of the client: the part that the
    joins of both services share. -/
def hostRows (client : ClientEntity) : List (String × ProductInfo × SecretEntity) :=
  (db.host_client.filter (·.id_client = client.id)).flatMap fun h =>
    (db.productsById h.id_product).flatMap fun p =>
      (db.secret.filter (·.id_client = client.id)).map fun s =>
        (p.nama_product, ⟨h.domain, h.api_secret⟩, s)

/-! ## Events -/

/-- `EventService.getByProduct`: `id_device` is the column `id_jenis_device`. -/
def eventRows (productName : Option String) : List (EventTransaksiEntity × Events) :=
  db.event_transaksi.flatMap fun event =>
    (db.jenis_device.filter (·.id = event.id_jenis_device)).flatMap fun jd =>
      ((db.productsById jd.id_product).filter fun p =>
        productName.all (p.nama_product = ·)).map fun _ =>
          (event, ⟨event.id, event.event, event.id_jenis_device⟩)

/-- `EventService.getByProduct`. -/
def getByProduct (productName : Option String) : List Events :=
  ord.arrange ((db.eventRows productName).map Prod.snd)

/-! ## Devices -/

/-- A row of `DeviceService.getDevice`. -/
structure DeviceAuthRow where
  clientId : String
  id_device : ℕ
  deviceId : String
  id_enduser : ℕ
  keyDevice : String
  nama_product : String
  device_product : String
  host : ProductInfo
deriving DecidableEq

/-- The query of `DeviceService.getDevice`, each row with the device it is about. -/
def deviceRows (clientId deviceId : String) : List (DeviceTransaksiEntity × DeviceAuthRow) :=
  (db.client.filter (·.client_id = clientId)).flatMap fun client =>
    (db.device_transaksi.filter fun d =>
      d.id_client = client.id ∧ d.device_id = deviceId ∧ d.status = .ACTIVE).flatMap fun d =>
        (db.enduser.filter (· = d.id_enduser)).flatMap fun enduser =>
          (db.jenis_device.filter (·.id = d.id_jenis_device)).flatMap fun j =>
            (db.productsById j.id_product).flatMap fun product_one =>
              (db.hostRows client).map fun (nama_product, host, s) =>
                (d, ⟨client.client_id, d.id, d.device_id, enduser, s.key_device, nama_product,
                  product_one.nama_product, host⟩)

/-- `AuthBase` of a device: what `DeviceService.getDevice` returns. -/
structure BaseDevice where
  id_enduser : ℕ
  product : String
  id_device : ℕ
  key_device : String
  clientId : String
  deviceId : String
  products : List (String × ProductInfo)
deriving DecidableEq

/-- What `DeviceService.getAuth` returns. -/
structure AuthDevice where
  id_enduser : ℕ
  product : String
  id_device : ℕ
  key_device : String
  clientId : String
  deviceId : String
  products : List (String × ProductInfo)
  blackListSend : List ℕ
  blackListGet : List ℕ
deriving DecidableEq

/-- The events listed for an owner in one of the list tables. -/
def listedEvents (table : List EventListEntity) (owner : ℕ) : List ℕ :=
  uniqueIds ((table.filter (·.owner = owner)).flatMap fun b =>
    (db.event_transaksi.filter (·.id = b.id_event)).map (·.id))

/-- `DeviceService.getDevice`, with `mapAuth`. -/
def getDevice (clientId deviceId : String) : Option BaseDevice :=
  let rows := (ord.arrange (db.deviceRows clientId deviceId)).map Prod.snd
  match rows with
  | [] => none
  | first :: _ => some {
      id_enduser := first.id_enduser
      product := first.device_product
      id_device := first.id_device
      key_device := first.keyDevice
      clientId := first.clientId
      deviceId := first.deviceId
      products := productRecord (rows.map fun r => (r.nama_product, r.host)) }

/-- A device with the two lists of `getBlacklist`. -/
def BaseDevice.auth (base : BaseDevice) (blackListSend blackListGet : List ℕ) : AuthDevice where
  id_enduser := base.id_enduser
  product := base.product
  id_device := base.id_device
  key_device := base.key_device
  clientId := base.clientId
  deviceId := base.deviceId
  products := base.products
  blackListSend := blackListSend
  blackListGet := blackListGet

/-- `DeviceService.getAuth`, with `getBlacklist`, at once. -/
def getAuthDevice (clientId deviceId : String) : Except Failure AuthDevice :=
  match db.getDevice ord clientId deviceId with
  | none => .error (.ws "UNAUTHENTICATED" "Penyusup lu?")
  | some base => .ok (base.auth (db.listedEvents db.blacklist_device_send_event base.id_device)
      (db.listedEvents db.blacklist_device_get_event base.id_device))

/-- `new DeviceUser(authData)`. -/
def AuthDevice.user (auth : AuthDevice) : DeviceUser where
  clientId := auth.clientId
  products := auth.products
  deviceId := auth.deviceId
  blacklistSend := auth.blackListSend
  blacklistGet := auth.blackListGet
  id_device := auth.id_device
  device_product := auth.product

/-! ## Roles -/

/-- A row of `BrowserService.getBaseRole`. -/
structure RoleAuthRow where
  clientId : String
  roleId : ℕ
  role : String
  id_enduser : ℕ
  nama_product : String
  role_product : String
  host : ProductInfo
deriving DecidableEq

/-- The query of `BrowserService.getBaseRole`. -/
def roleRows (clientId role : String) : List RoleAuthRow :=
  (db.client.filter (·.client_id = clientId)).flatMap fun client =>
    (db.role_transaksi.filter fun r =>
        r.id_client = client.id ∧ r.label_role = role).flatMap fun r =>
      (db.enduser.filter (· = r.id_enduser)).flatMap fun enduser =>
        (db.productsById r.id_product).flatMap fun product_one =>
          (db.hostRows client).map fun (nama_product, host, _) =>
            ⟨client.client_id, r.id, r.label_role, enduser, nama_product,
              product_one.nama_product, host⟩

/-- `AuthBase` of a role: what `BrowserService.getBaseRole` returns. -/
structure BaseRole where
  id_enduser : ℕ
  product : String
  roleId : ℕ
  clientId : String
  role : String
  products : List (String × ProductInfo)
deriving DecidableEq

/-- What `BrowserService.getAuth` returns. -/
structure AuthBrowser where
  id_enduser : ℕ
  clientId : String
  role : String
  roleId : ℕ
  product : String
  products : List (String × ProductInfo)
  whiteListSend : List ℕ
  whiteListGet : List ℕ
deriving DecidableEq

/-- `BrowserService.getBaseRole`, with `mapAuth`. -/
def getBaseRole (clientId role : String) : Option BaseRole :=
  let rows := ord.arrange (db.roleRows clientId role)
  match rows with
  | [] => none
  | first :: _ => some {
      id_enduser := first.id_enduser
      product := first.role_product
      roleId := first.roleId
      clientId := first.clientId
      role := first.role
      products := productRecord (rows.map fun r => (r.nama_product, r.host)) }

/-- A role with the two lists of `getWhitelist`. -/
def BaseRole.auth (base : BaseRole) (whiteListSend whiteListGet : List ℕ) : AuthBrowser where
  id_enduser := base.id_enduser
  clientId := base.clientId
  role := base.role
  roleId := base.roleId
  product := base.product
  products := base.products
  whiteListSend := whiteListSend
  whiteListGet := whiteListGet

/-- `BrowserService.getAuth`, with `getWhitelist`, at once. -/
def getAuthBrowser (clientId role : String) : Except Failure AuthBrowser :=
  match db.getBaseRole ord clientId role with
  | none => .error (.ws "UNAUTHENTICATED" "Penyusup lu?")
  | some base => .ok (base.auth (db.listedEvents db.whitelist_role_send_event base.roleId)
      (db.listedEvents db.whitelist_role_get_event base.roleId))

/-- `new BrowserUser(authData)`. -/
def AuthBrowser.user (auth : AuthBrowser) : BrowserUser where
  clientId := auth.clientId
  products := auth.products
  role := auth.role
  whiteListSend := auth.whiteListSend
  whiteListGet := auth.whiteListGet
  role_product := auth.product

/-! ## What the rows say -/

theorem mem_hostRows {client : ClientEntity} {row : String × ProductInfo × SecretEntity}
    (h : row ∈ db.hostRows client) : row.2.2 ∈ db.secret ∧ row.2.2.id_client = client.id := by
  simp only [hostRows, List.mem_flatMap, List.mem_map, List.mem_filter, decide_eq_true_eq] at h
  obtain ⟨_, _, _, _, s, ⟨hs, hclient⟩, rfl⟩ := h
  exact ⟨hs, hclient⟩

/-- A row of `getDevice` is about an active device of the tenant with the given id. -/
theorem mem_deviceRows {clientId deviceId : String}
    {row : DeviceTransaksiEntity × DeviceAuthRow} (h : row ∈ db.deviceRows clientId deviceId) :
    row.1 ∈ db.device_transaksi ∧ row.1.device_id = deviceId ∧ row.1.status = .ACTIVE ∧
      row.2.id_device = row.1.id ∧ row.2.deviceId = deviceId ∧ row.2.clientId = clientId ∧
      ∃ s ∈ db.secret, row.2.keyDevice = s.key_device := by
  simp only [deviceRows, List.mem_flatMap, List.mem_map, List.mem_filter, decide_eq_true_eq] at h
  obtain ⟨client, ⟨_, hclient⟩, d, ⟨hd, _, hdev, hact⟩, _, _, _, _, _, _, host, hhost, rfl⟩ := h
  exact ⟨hd, hdev, hact, rfl, hdev, hclient, host.2.2, (db.mem_hostRows hhost).1, rfl⟩

/-- What `getAuth` returns is read off one row of the query. -/
theorem getAuthDevice_ok {clientId deviceId : String} {auth : AuthDevice}
    (h : db.getAuthDevice ord clientId deviceId = .ok auth) :
    ∃ row ∈ db.deviceRows clientId deviceId, auth.clientId = row.2.clientId ∧
      auth.deviceId = row.2.deviceId ∧ auth.product = row.2.device_product ∧
      auth.id_enduser = row.2.id_enduser ∧ auth.id_device = row.2.id_device ∧
      auth.key_device = row.2.keyDevice ∧
      auth.blackListSend = db.listedEvents db.blacklist_device_send_event row.2.id_device ∧
      auth.blackListGet = db.listedEvents db.blacklist_device_get_event row.2.id_device := by
  unfold getAuthDevice getDevice at h
  cases hrows : ord.arrange (db.deviceRows clientId deviceId) with
  | nil => simp [hrows] at h
  | cons row rows =>
    have hmem : row ∈ db.deviceRows clientId deviceId :=
      ord.mem.1 (by rw [hrows]; exact List.mem_cons_self)
    simp only [hrows, List.map_cons, Except.ok.injEq] at h
    subst h
    exact ⟨row, hmem, rfl, rfl, rfl, rfl, rfl, rfl, rfl, rfl⟩

/-- A row of `getBaseRole` is about a role of the tenant with the given label. -/
theorem mem_roleRows {clientId role : String} {row : RoleAuthRow}
    (h : row ∈ db.roleRows clientId role) : ∃ r ∈ db.role_transaksi, r.label_role = role := by
  simp only [roleRows, List.mem_flatMap, List.mem_map, List.mem_filter, decide_eq_true_eq] at h
  obtain ⟨_, _, r, ⟨hr, _, hrole⟩, _⟩ := h
  exact ⟨r, hr, hrole⟩

/-! ## Emptiness of the queries -/

/-- A role is let in exactly when the query of `getBaseRole` has a row for it. -/
theorem getAuthBrowser_ok_iff (clientId role : String) :
    (∃ auth, db.getAuthBrowser ord clientId role = .ok auth) ↔ db.roleRows clientId role ≠ [] := by
  have hnil := ord.arrange_eq_nil (db.roleRows clientId role)
  unfold getAuthBrowser getBaseRole
  cases h : ord.arrange (db.roleRows clientId role) with
  | nil => simp [hnil.1 h]
  | cons r rows =>
    have hne : db.roleRows clientId role ≠ [] := fun h' => by simp [hnil.2 h'] at h
    simp [hne]

end Database

end GatewayRealtime
