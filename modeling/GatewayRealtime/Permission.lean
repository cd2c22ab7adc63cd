/-
  Permission to send and to receive (`events/helpers/`).

  * `EventHelper`: the browser, device and default helpers; `getHelper` picks one by type.
  * `filterEvents`: which event rows a sender may use; `accepts`: whether a receiver passes
    `filterReceivers` for the rows that a sender may use.
  * `devicePermission_iff`: when the device helper implements "an event of my device kind that
    is not blacklisted", over all contents of the tables.
-/
import GatewayRealtime.Database

namespace GatewayRealtime

/-! ## The helpers -/

/-- The classes behind `EventHelperFactory`. -/
inductive EventHelper
  | browser | device | default
deriving DecidableEq, Repr

/-- `EventHelperFactory.getHelper`. -/
def getHelper : TypeEnduser → EventHelper
  | .browser => .browser
  | .desktop => .browser
  | .device => .device
  | .self => .default
  | .server => .default

/-- `BrowserHelper.filterEvents`: without a `whiteListSend`, the first row throws. -/
def BrowserHelper.filterEvents (principal : EndUser) (event : String) (events : List Events) :
    Except Failure (List Events) :=
  match principal.asBrowser with
  | some user => .ok (events.filter fun m => m.id ∈ user.whiteListSend ∧ m.label = event)
  | none => if events = [] then .ok [] else .error (typeError "includes")

/-- The callback of `BrowserHelper.filterReceivers`. -/
def BrowserHelper.accepts (allowedEvents : List Events) (r : EndUser) : Bool :=
  let whitelist := (r.asBrowser.map (·.whiteListGet)).getD []
  allowedEvents.any fun e => e.id ∈ whitelist

/-- `DeviceHelper.filterEvents`: a principal without `id_device` matches no row. -/
def DeviceHelper.filterEvents (principal : EndUser) (event : String) (events : List Events) :
    List Events :=
  let blacklist := (principal.asDevice.map (·.blacklistSend)).getD []
  events.filter fun e => e.id ∉ blacklist ∧ e.label = event ∧
    principal.asDevice.map (·.id_device) = some e.id_device

/-- The callback of `DeviceHelper.filterReceivers`. -/
def DeviceHelper.accepts (allowedEvents : List Events) (r : EndUser) : Bool :=
  let blacklist := (r.asDevice.map (·.blacklistGet)).getD []
  allowedEvents.any fun ev => r.asDevice.map (·.id_device) = some ev.id_device ∧ ev.id ∉ blacklist

namespace EventHelper

/-- `filterEvents` of a helper. -/
def filterEvents (helper : EventHelper) (principal : EndUser) (event : String)
    (events : List Events) : Except Failure (List Events) :=
  match helper with
  | .browser => BrowserHelper.filterEvents principal event events
  | .device => .ok (DeviceHelper.filterEvents principal event events)
  | .default => .ok events

/-- Whether `filterReceivers` of a helper keeps a receiver with this principal. -/
def accepts (helper : EventHelper) (allowedEvents : List Events) (r : EndUser) : Bool :=
  match helper with
  | .browser => BrowserHelper.accepts allowedEvents r
  | .device => DeviceHelper.accepts allowedEvents r
  | .default => true

end EventHelper

/-! ## Device permission over the tables -/

/-- A row of the table lists event `E` for device `D`. -/
def Listed (table : List EventListEntity) (D : DeviceTransaksiEntity) (E : EventTransaksiEntity) :
    Prop := ∃ b ∈ table, b.owner = D.id ∧ b.id_event = E.id

/-- The device helper implements the permission of device `D`, authenticated as `auth`: it may
    send exactly the rows of its kind with the right label that it is not barred from sending,
    and it receives exactly if one of the allowed rows is of its kind and it is not barred from
    receiving it. -/
structure DevicePermission (db : Database) (ord : RowOrder) (auth : Database.AuthDevice)
    (D : DeviceTransaksiEntity) : Prop where
  send : ∀ label productName, ∀ r ∈ db.eventRows productName,
    r.2 ∈ DeviceHelper.filterEvents (.device auth.user) label (db.getByProduct ord productName) ↔
      r.1.event = label ∧ r.1.id_jenis_device = D.id_jenis_device ∧
        ¬ Listed db.blacklist_device_send_event D r.1
  receive : ∀ productName allowed, allowed ⊆ db.eventRows productName →
    (DeviceHelper.accepts (allowed.map Prod.snd) (.device auth.user) = true ↔
      ∃ r ∈ allowed, r.1.id_jenis_device = D.id_jenis_device ∧
        ¬ Listed db.blacklist_device_get_event D r.1)

/-- The device's own id is the id of its kind, or it is barred both ways from every event of the
    two kinds with these ids. -/
def KindsAgree (db : Database) (D : DeviceTransaksiEntity) : Prop :=
  D.id = D.id_jenis_device ∨ ∀ productName, ∀ r ∈ db.eventRows productName,
    r.1.id_jenis_device = D.id ∨ r.1.id_jenis_device = D.id_jenis_device →
      Listed db.blacklist_device_send_event D r.1 ∧ Listed db.blacklist_device_get_event D r.1

section
variable {db : Database} {ord : RowOrder} {D : DeviceTransaksiEntity}
  {auth : Database.AuthDevice} {clientId deviceId : String}

/-- The row that `getByProduct` makes of a row of `event_transaksi`. -/
theorem eventRows_row {productName : Option String} {r : EventTransaksiEntity × Events}
    (h : r ∈ db.eventRows productName) :
    r.1 ∈ db.event_transaksi ∧ r.2 = ⟨r.1.id, r.1.event, r.1.id_jenis_device⟩ := by
  simp only [Database.eventRows, List.mem_flatMap, List.mem_map] at h
  obtain ⟨E, hE, _, _, _, _, rfl⟩ := h
  exact ⟨hE, rfl⟩

/-- An event of the table is in the list of an owner exactly when a row lists it. -/
theorem mem_listedEvents (table : List EventListEntity) {E : EventTransaksiEntity}
    (hE : E ∈ db.event_transaksi) (owner : ℕ) :
    E.id ∈ db.listedEvents table owner ↔ ∃ b ∈ table, b.owner = owner ∧ b.id_event = E.id := by
  simp only [Database.listedEvents, mem_uniqueIds, List.mem_flatMap, List.mem_filter, List.mem_map,
    decide_eq_true_eq]
  constructor
  · rintro ⟨b, ⟨hb, ho⟩, E', ⟨_, hE'⟩, hid⟩
    exact ⟨b, hb, ho, by rw [← hE', hid]⟩
  · rintro ⟨b, hb, ho, hid⟩
    exact ⟨b, ⟨hb, ho⟩, E, ⟨hE, hid.symm⟩, rfl⟩

/-- The fields of the principal that the device helper reads. -/
theorem getAuthDevice_lists (hauth : db.getAuthDevice ord clientId deviceId = .ok auth)
    (hD : D.id = auth.id_device) :
    auth.blackListSend = db.listedEvents db.blacklist_device_send_event D.id ∧
      auth.blackListGet = db.listedEvents db.blacklist_device_get_event D.id := by
  obtain ⟨row, -, -, -, -, -, hid, -, hsend, hget⟩ := db.getAuthDevice_ok ord hauth
  rw [hD, hid]
  exact ⟨hsend, hget⟩

/-- What `filterEvents` accepts: it compares the kind of the event with the id of the device. -/
theorem mem_filterEvents_iff (hauth : db.getAuthDevice ord clientId deviceId = .ok auth)
    (hD : D.id = auth.id_device) {productName : Option String}
    {r : EventTransaksiEntity × Events} (hr : r ∈ db.eventRows productName) (label : String) :
    r.2 ∈ DeviceHelper.filterEvents (.device auth.user) label (db.getByProduct ord productName) ↔
      r.1.event = label ∧ r.1.id_jenis_device = D.id ∧
        ¬ Listed db.blacklist_device_send_event D r.1 := by
  obtain ⟨hE, hrow⟩ := eventRows_row hr
  have hmem : r.2 ∈ db.getByProduct ord productName := ord.mem.2 (List.mem_map.2 ⟨r, hr, rfl⟩)
  have hlisted := mem_listedEvents db.blacklist_device_send_event hE D.id
  rw [← (getAuthDevice_lists hauth hD).1] at hlisted
  rw [hrow] at hmem ⊢
  simp only [DeviceHelper.filterEvents, List.mem_filter, hmem, true_and, decide_eq_true_eq,
    EndUser.asDevice, Option.map_some, Option.getD_some, Database.AuthDevice.user, hlisted,
    Option.some.injEq, ← hD, Listed]
  constructor
  · rintro ⟨h₁, h₂, h₃⟩
    exact ⟨h₂, h₃.symm, h₁⟩
  · rintro ⟨h₂, h₃, h₁⟩
    exact ⟨h₁, h₂, h₃.symm⟩

/-- When `filterReceivers` keeps the device: it compares the kinds of the events with the id of
    the device. -/
theorem accepts_iff (hauth : db.getAuthDevice ord clientId deviceId = .ok auth)
    (hD : D.id = auth.id_device) {productName : Option String}
    {allowed : List (EventTransaksiEntity × Events)} (ha : allowed ⊆ db.eventRows productName) :
    DeviceHelper.accepts (allowed.map Prod.snd) (.device auth.user) = true ↔
      ∃ r ∈ allowed, r.1.id_jenis_device = D.id ∧
        ¬ Listed db.blacklist_device_get_event D r.1 := by
  simp only [DeviceHelper.accepts, List.any_map, List.any_eq_true, Function.comp, decide_eq_true_eq,
    EndUser.asDevice, Option.map_some, Option.getD_some, Database.AuthDevice.user,
    Option.some.injEq, ← hD]
  refine exists_congr fun r => and_congr_right fun hr => ?_
  obtain ⟨hE, hrow⟩ := eventRows_row (ha hr)
  have hlisted := mem_listedEvents db.blacklist_device_get_event hE D.id
  rw [← (getAuthDevice_lists hauth hD).2] at hlisted
  rw [hrow]
  exact and_congr eq_comm (not_congr hlisted)

/-- **When device permission is by kind.**  For a device that `getAuth` lets in, the device
    helper implements the permission by kind iff the id of the device is the id of its kind, or
    the device is barred both ways from all events of the two kinds in question. -/
theorem devicePermission_iff (hauth : db.getAuthDevice ord clientId deviceId = .ok auth)
    (hD : D.id = auth.id_device) : DevicePermission db ord auth D ↔ KindsAgree db D := by
  constructor
  · intro h
    by_cases hkind : D.id = D.id_jenis_device
    · exact Or.inl hkind
    refine Or.inr fun productName r hr hk => ?_
    have hsend := (mem_filterEvents_iff hauth hD hr r.1.event).symm.trans
      (h.send r.1.event productName r hr)
    have hone : [r] ⊆ db.eventRows productName := by simpa using hr
    have hget := (accepts_iff hauth hD hone).symm.trans (h.receive productName [r] hone)
    simp only [true_and, List.mem_singleton, exists_eq_left] at hsend hget
    rcases hk with hk | hk
    · simp only [hk, hkind, true_and, false_and, iff_false, not_not] at hsend hget
      exact ⟨hsend, hget⟩
    · simp only [hk, Ne.symm hkind, true_and, false_and, false_iff, not_not] at hsend hget
      exact ⟨hsend, hget⟩
  · intro h
    have hagree : ∀ productName, ∀ r ∈ db.eventRows productName,
        (¬ Listed db.blacklist_device_send_event D r.1 ∨
          ¬ Listed db.blacklist_device_get_event D r.1) →
        (r.1.id_jenis_device = D.id ↔ r.1.id_jenis_device = D.id_jenis_device) := by
      intro productName r hr hnot
      rcases h with h | h
      · rw [h]
      · constructor
        · intro hk
          have := h productName r hr (Or.inl hk)
          tauto
        · intro hk
          have := h productName r hr (Or.inr hk)
          tauto
    refine ⟨fun label productName r hr => ?_, fun productName allowed ha => ?_⟩
    · rw [mem_filterEvents_iff hauth hD hr label]
      have := hagree productName r hr
      tauto
    · rw [accepts_iff hauth hD ha]
      refine exists_congr fun r => and_congr_right fun hr => ?_
      have := hagree productName r (ha hr)
      tauto

end

/-- A tenant with two readers of kind 1, devices 1 and 5, and an event of that kind. -/
def readerTables : Database where
  client := [⟨1, "shop", .ACTIVE⟩]
  secret := [⟨1, "service", "device", 1⟩]
  device_transaksi := [⟨1, "reader-a", .ACTIVE, 1, 1, 11⟩, ⟨5, "reader-b", .ACTIVE, 1, 1, 15⟩]
  jenis_device := [⟨1, 1⟩]
  event_transaksi := [⟨10, "login", 1⟩]
  host_client := [⟨"shop.example", "secret", 1, 1⟩]
  product := [⟨1, "absensi"⟩]
  enduser := [11, 15]

/-- What `getAuth` returns for a device of `readerTables`. -/
def readerAuth (id id_enduser : ℕ) (deviceId : String) : Database.AuthDevice where
  id_enduser := id_enduser
  product := "absensi"
  id_device := id
  key_device := "device"
  clientId := "shop"
  deviceId := deviceId
  products := [("absensi", ⟨"shop.example", "secret"⟩)]
  blackListSend := []
  blackListGet := []

/-- `devicePermission_iff` at the device whose id happens to be the id of its kind. -/
theorem devicePermission_iff_readerA :
    DevicePermission readerTables .natural (readerAuth 1 11 "reader-a")
      ⟨1, "reader-a", .ACTIVE, 1, 1, 11⟩ ↔
    KindsAgree readerTables ⟨1, "reader-a", .ACTIVE, 1, 1, 11⟩ :=
  devicePermission_iff
    (show readerTables.getAuthDevice .natural "shop" "reader-a" = .ok _ from rfl) rfl

/-- Device 5 is refused the event of its own kind, which is on none of its lists, both ways. -/
theorem readerB_refused :
    readerTables.getAuthDevice .natural "shop" "reader-b" = .ok (readerAuth 5 15 "reader-b") ∧
    DeviceHelper.filterEvents (.device (readerAuth 5 15 "reader-b").user) "login"
      (readerTables.getByProduct .natural (some "absensi")) = [] ∧
    DeviceHelper.accepts (readerTables.getByProduct .natural (some "absensi"))
      (.device (readerAuth 5 15 "reader-b").user) = false ∧
    ¬ DevicePermission readerTables .natural (readerAuth 5 15 "reader-b")
      ⟨5, "reader-b", .ACTIVE, 1, 1, 15⟩ := by
  refine ⟨by decide, by decide, by decide, fun h => ?_⟩
  have hsend := (h.send "login" (some "absensi") (⟨10, "login", 1⟩, ⟨10, "login", 1⟩)
    (by decide)).2 ⟨rfl, rfl, by simp [Listed, readerTables]⟩
  exact absurd hsend (by decide)

end GatewayRealtime
