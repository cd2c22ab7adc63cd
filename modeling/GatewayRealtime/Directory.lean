/-
  The devices of a tenant in the database.

  * `getDevicesWithInfoByTenant`: the query of the snapshot.
  * `Database.Keyed`: the ids of the tables are primary keys; `IsDevice`: what the tables say of
    a device, and by `IsDevice.unique` they say one thing.
  * `getAuthDevice_isDevice`, `mem_getDevicesWithInfoByTenant`: both queries read it off.
  * `Database.admits`: an authentication that these tables allow (`admits_of_validateToken`).
-/
import GatewayRealtime.Auth
import GatewayRealtime.Loop

namespace GatewayRealtime

namespace Database

variable (db : Database) (ord : RowOrder)

/-- The rows of `DeviceService.getDevicesWithInfoByTenant`. -/
def deviceInfoRows (clientId : String) (product : Option String) : List Connections.DeviceInfo :=
  (db.client.filter (·.client_id = clientId)).flatMap fun client =>
    (db.device_transaksi.filter fun d =>
      d.id_client = client.id ∧ d.status = .ACTIVE).flatMap fun d =>
        (db.jenis_device.filter (·.id = d.id_jenis_device)).flatMap fun j =>
          ((db.productsById j.id_product).filter fun p =>
            product.all fun name => name = "" ∨ p.nama_product = name).map fun p =>
              ⟨d.id, d.device_id, p.nama_product⟩

/-- `DeviceService.getDevicesWithInfoByTenant`. -/
def getDevicesWithInfoByTenant (clientId : String) (product : Option String) :
    List Connections.DeviceInfo := ord.arrange (db.deviceInfoRows clientId product)

/-- The ids of the tables that a device is joined from are primary keys. -/
structure Keyed (db : Database) : Prop where
  client : (db.client.map (·.id)).Nodup
  device_transaksi : (db.device_transaksi.map (·.id)).Nodup
  jenis_device : (db.jenis_device.map (·.id)).Nodup
  product : (db.product.map (·.id)).Nodup

/-- The device `id` is one of the tenant and of the product, and belongs to the end user. -/
def IsDevice (id : ℕ) (clientId product : String) (id_enduser : ℕ) : Prop :=
  ∃ client ∈ db.client, ∃ d ∈ db.device_transaksi, ∃ j ∈ db.jenis_device, ∃ p ∈ db.product,
    d.id = id ∧ d.id_client = client.id ∧ client.client_id = clientId ∧
      j.id = d.id_jenis_device ∧ p.id = j.id_product ∧ p.nama_product = product ∧
      d.id_enduser = id_enduser

/-- Whether a connection can have authenticated so: a device is what `getAuth` returns for it. -/
def admits (a : Authenticated) : Bool :=
  match a.auth with
  | .browser _ => true
  | .device user =>
    match db.getAuthDevice ord user.clientId user.deviceId with
    | .ok auth => decide (auth.user = user ∧ auth.id_enduser = a.id_enduser)
    | .error _ => false

variable {db ord} {id id_enduser id_enduser' : ℕ} {clientId clientId' product product' : String}

/-- A row of a keyed table is determined by its id. -/
theorem eq_of_key {α : Type} {key : α → ℕ} {a b : α} {table : List α}
    (h : (table.map key).Nodup) (ha : a ∈ table) (hb : b ∈ table) (hkey : key a = key b) :
    a = b :=
  List.inj_on_of_nodup_map h ha hb hkey

/-- The tables say one thing about a device. -/
theorem IsDevice.unique (hdb : db.Keyed) (h : db.IsDevice id clientId product id_enduser)
    (h' : db.IsDevice id clientId' product' id_enduser') :
    clientId = clientId' ∧ product = product' ∧ id_enduser = id_enduser' := by
  obtain ⟨client, hclient, d, hd, j, hj, p, hp, hid, howner, rfl, hkind, hproduct, rfl, rfl⟩ := h
  obtain ⟨client', hclient', d', hd', j', hj', p', hp', hid', howner', rfl, hkind', hproduct',
    rfl, rfl⟩ := h'
  obtain rfl : d = d' := eq_of_key hdb.device_transaksi hd hd' (hid.trans hid'.symm)
  obtain rfl : client = client' :=
    eq_of_key hdb.client hclient hclient' (howner.symm.trans howner')
  obtain rfl : j = j' := eq_of_key hdb.jenis_device hj hj' (hkind.trans hkind'.symm)
  obtain rfl : p = p' := eq_of_key hdb.product hp hp' (hproduct.trans hproduct'.symm)
  exact ⟨rfl, rfl, rfl⟩

/-- A row of the snapshot is about a device of the tenant that passes the filter. -/
theorem mem_getDevicesWithInfoByTenant {filter : Option String} {row : Connections.DeviceInfo}
    (h : row ∈ db.getDevicesWithInfoByTenant ord clientId filter) :
    (∃ id_enduser, db.IsDevice row.id clientId row.product id_enduser) ∧
      ∀ name ∈ filter, name = "" ∨ row.product = name := by
  have hrow := ord.mem.1 h
  simp only [deviceInfoRows, productsById, List.mem_flatMap, List.mem_map, List.mem_filter,
    decide_eq_true_eq] at hrow
  obtain ⟨client, ⟨hclient, htenant⟩, d, ⟨hd, howner, -⟩, j, ⟨hj, hkind⟩, p, ⟨⟨hp, hproduct⟩,
    hfilter⟩, rfl⟩ := hrow
  refine ⟨⟨d.id_enduser, client, hclient, d, hd, j, hj, p, hp, rfl, howner, htenant, hkind,
    hproduct, rfl, rfl⟩, ?_⟩
  intro name hname
  cases hname
  simpa using hfilter

/-- What `getAuth` returns is what the tables say of the device. -/
theorem getAuthDevice_isDevice {deviceId : String} {auth : AuthDevice}
    (h : db.getAuthDevice ord clientId deviceId = .ok auth) :
    auth.clientId = clientId ∧ auth.deviceId = deviceId ∧
      db.IsDevice auth.id_device auth.clientId auth.product auth.id_enduser := by
  obtain ⟨row, hmem, hclientId, hdeviceId, hproductId, henduserId, hid, -⟩ :=
    db.getAuthDevice_ok ord h
  rw [hclientId, hdeviceId, hproductId, henduserId, hid]
  simp only [deviceRows, productsById, List.mem_flatMap, List.mem_map, List.mem_filter,
    decide_eq_true_eq] at hmem
  obtain ⟨client, ⟨hclient, htenant⟩, d, ⟨hd, howner, hdevice, -⟩, enduser, ⟨-, henduser⟩, j,
    ⟨hj, hkind⟩, p, ⟨hp, hproduct⟩, host, -, rfl⟩ := hmem
  exact ⟨htenant, hdevice, client, hclient, d, hd, j, hj, p, hp, rfl, howner, rfl, hkind,
    hproduct, rfl, henduser.symm⟩

/-- A device that is admitted is one of the tables. -/
theorem isDevice_of_admits {a : Authenticated} {user : DeviceUser} (h : db.admits ord a = true)
    (ha : a.auth = .device user) :
    db.IsDevice user.id_device user.clientId user.device_product a.id_enduser := by
  unfold admits at h
  rw [ha] at h
  dsimp only at h
  split at h
  · rename_i auth hauth
    obtain ⟨rfl, hid⟩ := of_decide_eq_true h
    rw [← hid]
    exact (getAuthDevice_isDevice hauth).2.2
  · cases h

/-- Whoever the strategies let in is admitted. -/
theorem admits_of_validateToken {env : AuthEnv} {now : ℤ} {token : String} {type : TypeEnduser}
    {client : Option String} {result : AuthResult} (product : Option String)
    (h : validateToken env db ord now token type client = .ok result) :
    db.admits ord ⟨result.id_enduser, result.auth, product, type, validateToken_issues h⟩ = true :=
  by
  unfold admits
  dsimp only
  split
  · rfl
  · rename_i user hauth
    have htype : type = .device := by
      have hissues := validateToken_issues h
      rw [hauth] at hissues
      cases type <;> first | rfl | cases hissues
    subst htype
    obtain ⟨v, fields, timestamp, device, -, -, -, -, hsigned, rfl⟩ := hmacValidate_ok_iff.1 h
    cases hauth
    obtain ⟨hclient, hdevice, -⟩ := getAuthDevice_isDevice hsigned.1
    have hquery : db.getAuthDevice ord device.user.clientId device.user.deviceId = .ok device := by
      show db.getAuthDevice ord device.clientId device.deviceId = .ok device
      rw [hclient, hdevice]
      exact hsigned.1
    rw [hquery]
    simp

end Database

end GatewayRealtime
