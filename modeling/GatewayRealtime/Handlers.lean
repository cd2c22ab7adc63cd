/-
  The event handlers (`events/json/`, `events/binner/`) and the services they call
  (`webhook/services/`).

  * `ApiCall`, `ApiAnswer`, `WHResPipe`: a request to a tenant's own service and its answer.
  * `PayloadPlan`: what a `modifiedPayload` does up to its first suspension.
  * `WsEventJSON`: a handler, with the fields that its class sets and the methods that it
    overrides; one definition per class, and `WS_EVENT_JSON_CLASSES`.
  * `WsEventBinner`: the same for binary messages.

  `allowedEvent` is left out where nothing reads it.
-/
import Mathlib.Algebra.Ring.Nat
import GatewayRealtime.Dto

namespace GatewayRealtime

/-! ## Services of the tenants -/

inductive HttpMethod
  | GET | POST | PUT | DELETE
deriving DecidableEq, Repr

/-- The options of `ExternalApiService.call`. -/
structure ApiCall where
  url : String
  method : HttpMethod
  payload : Option JsVal
  secret : String

/-- How a call ends: it throws, or a body comes back, whose errors are those against the DTO
    that its `isSuccess` selects. -/
inductive ApiAnswer
  | failed (f : Failure)
  | response (body : JsVal) (errors : List DtoError)

/-- A call with the check of its answer, `WHResPipe`. -/
def WHResPipe : ApiAnswer → Except Failure JsObj
  | .failed f => .error f
  | .response (.obj fields) errors =>
    match OMap.find "isSuccess" fields with
    | some (.bool _) =>
      if errors = [] then .ok fields else .error (.invalid "INVALID RESPONSE WEBHOOK" errors)
    | _ => .error (.ws "INVALID RESPONSE SHAPE" "Response dari client tidak valid")
  | .response .null _ =>
    .error (.internal "Cannot read properties of null (reading 'isSuccess')")
  | .response _ _ => .error (.ws "INVALID RESPONSE SHAPE" "Response dari client tidak valid")

/-- `{ uid }`. -/
def uidPayload (uid : String) : Option JsVal := some (.obj [("uid", .str uid)])

namespace AbsensiApiService

def login (baseUrl uid secret : String) : ApiCall :=
  ⟨baseUrl ++ "/scan/login", .POST, uidPayload uid, secret⟩

def register (baseUrl uid secret : String) : ApiCall :=
  ⟨baseUrl ++ "/scan/register", .POST, uidPayload uid, secret⟩

def update (baseUrl uid secret : String) : ApiCall :=
  ⟨baseUrl ++ "/scan/update", .POST, uidPayload uid, secret⟩

def getAllReservasi (baseUrl : String) (payload : Option JsVal) (secret : String) : ApiCall :=
  ⟨baseUrl ++ "/reservasi", .POST, payload, secret⟩

def cancelReservasi (baseUrl id uid secret : String) : ApiCall :=
  ⟨baseUrl ++ "/reservasi/" ++ id, .DELETE, uidPayload uid, secret⟩

end AbsensiApiService

namespace BellApiService

def store (baseUrl : String) (data : Option JsVal) (secret : String) : ApiCall :=
  ⟨baseUrl ++ "/bell", .POST, data, secret⟩

def destroy (baseUrl time secret : String) : ApiCall :=
  ⟨baseUrl ++ "/bell/" ++ time, .DELETE, none, secret⟩

def destroyAll (baseUrl secret : String) : ApiCall := ⟨baseUrl ++ "/bell", .DELETE, none, secret⟩

end BellApiService

/-! ## Handlers of JSON messages -/

/-- What a `modifiedPayload` does: return, throw, or call a service and then emit a notification
    if the answer says that it succeeded. -/
inductive PayloadPlan
  | value (payload : JsObj)
  | throws (f : Failure)
  | call (call : ApiCall) (notification : Option String)

/-- `modifiedPayload`, inherited or overridden. -/
inductive ModifiedPayload
  | base
  | override (plan : EndUser → Option JsVal → PayloadPlan)

/-- `getReceivers`: inherited; all active sessions of the receiver type; or none. -/
inductive GetReceivers
  | base | byType | empty
deriving DecidableEq

/-- `sideEffectEvent`: inherited, or that of the scan, the cancellation or the acknowledgement. -/
inductive SideEffect
  | base | apply | cancel | acknowledge
deriving DecidableEq

/-- `BaseWsEventJSON`, with what its classes set and override. -/
structure WsEventJSON where
  productName : Option String
  labelEvent : String
  labelEventToReceiver : String
  type : Option TypeEnduser
  receiverType : TypeEnduser
  qos : QoS
  notifySender : Bool := true
  ttl : ℤ := 30000
  /-- `dto`, unless `validateStructurePayload` is overridden to do nothing -/
  dto : Option Dto
  validatePayload : Option JsVal → Bool := fun _ => true
  getEventMessage : Option JsVal → String := fun _ => labelEvent
  modifiedPayload : ModifiedPayload := .base
  getReceivers : GetReceivers := .base
  sideEffectEvent : SideEffect := .base

/-- `validateStructurePayload`. -/
def WsEventJSON.validateStructurePayload (h : WsEventJSON) (payload : Option JsVal) :
    Except Failure Unit :=
  match h.dto with
  | none => .ok ()
  | some dto =>
    match payload with
    | none => .error (.ws "EVENT_ERROR" "Payload is empty")
    | some v =>
      if v.falsy then .error (.ws "EVENT_ERROR" "Payload is empty")
      else
        match validateDtoSafe dto v with
        | .error f => .error f
        | .ok [] => .ok ()
        | .ok errors => .error (.invalid "EVENT_ERROR" errors)

/-- The inherited `modifiedPayload`, `{ data: payload }`. -/
def dataPayload : Option JsVal → JsObj
  | some v => [("data", v)]
  | none => []

/-- What the `modifiedPayload` of a handler does. -/
def WsEventJSON.plan (h : WsEventJSON) (principal : EndUser) (payload : Option JsVal) :
    PayloadPlan :=
  match h.modifiedPayload with
  | .base => .value (dataPayload payload)
  | .override plan => plan principal payload

/-- A string property of a payload; validation has checked that it is one. -/
def payloadText (payload : Option JsVal) (k : String) : String :=
  (payload.bind (·.strField k)).getD ""

/-- The request of a handler to the service of a product, as `getProduct` gives it. -/
def serviceCall (user : EndUser) (productName : String) (request : ProductInfo → PayloadPlan) :
    PayloadPlan :=
  match user.getProduct productName with
  | .ok product => request product
  | .error f => .throws f

/-- `allowedEvent` of the two handlers that have modes. -/
def allowedModes : List String := ["register", "login", "update"]

/-- `this.allowedEvent.includes(payload.mode)`. -/
def modeAllowed (payload : Option JsVal) : Bool :=
  match payload.bind (·.strField "mode") with
  | some mode => mode ∈ allowedModes
  | none => false

/-! ### Absensi -/

def ChangeModeEvent : WsEventJSON where
  productName := some "absensi"
  labelEvent := "change-mode"
  labelEventToReceiver := "change-mode"
  type := some .browser
  receiverType := .device
  qos := .qos2
  notifySender := false
  dto := some ChangeModeDto
  validatePayload := modeAllowed
  getEventMessage payload := payloadText payload "mode"

def RFIDScanEvent : WsEventJSON where
  productName := some "absensi"
  labelEvent := "rfid-scan"
  labelEventToReceiver := "result-scan"
  type := some .device
  receiverType := .browser
  qos := .qos1
  dto := some ScandDto
  validatePayload := modeAllowed
  getEventMessage payload := payloadText payload "mode"
  modifiedPayload := .override fun user payload =>
    serviceCall user "absensi" fun product =>
      match payloadText payload "mode" with
      | "login" =>
        .call (AbsensiApiService.login product.domain (payloadText payload "uid") product.secret)
          (some "absensi.scan.login")
      | "register" =>
        .call (AbsensiApiService.register product.domain (payloadText payload "uid")
          product.secret) none
      | "update" =>
        .call (AbsensiApiService.update product.domain (payloadText payload "uid")
          product.secret) none
      | mode => .throws (.internal ("Unsupported mode: " ++ mode))
  sideEffectEvent := .apply

def CancelReservasiEvent : WsEventJSON where
  productName := some "absensi"
  labelEvent := "cancel-reservasi"
  labelEventToReceiver := "cancel-reservasi"
  type := some .device
  receiverType := .self
  qos := .qos2
  notifySender := false
  dto := some CancelReservasiDto
  modifiedPayload := .override fun user payload =>
    serviceCall user "absensi" fun product =>
      .call (AbsensiApiService.cancelReservasi product.domain (payloadText payload "id")
        (payloadText payload "uid") product.secret) (some "absensi.reservasi.cancel")
  sideEffectEvent := .cancel

def GetAllReservasiEvent : WsEventJSON where
  productName := some "absensi"
  labelEvent := "get-all-reservasi"
  labelEventToReceiver := "get-all-reservasi"
  type := some .device
  receiverType := .self
  qos := .qos1
  dto := some GetAllReservasiDto
  modifiedPayload := .override fun user payload =>
    serviceCall user "absensi" fun product =>
      .call (AbsensiApiService.getAllReservasi product.domain payload product.secret) none

/-! ### Bell -/

def CreateSesiEvent : WsEventJSON where
  productName := some "bell"
  labelEvent := "create-sesi"
  labelEventToReceiver := "create-sesi"
  type := some .browser
  receiverType := .device
  qos := .qos2
  dto := some CreateSesiDto
  modifiedPayload := .override fun user payload =>
    serviceCall user "bell" fun product =>
      .call (BellApiService.store product.domain payload product.secret) none

def DestroyAllSesiEvent : WsEventJSON where
  productName := some "bell"
  labelEvent := "destroy-all-sesi"
  labelEventToReceiver := "destroy-all-sesi"
  type := some .browser
  receiverType := .device
  qos := .qos2
  dto := none
  modifiedPayload := .override fun user _ =>
    serviceCall user "bell" fun product =>
      .call (BellApiService.destroyAll product.domain product.secret) none

def DestroySesiEvent : WsEventJSON where
  productName := some "bell"
  labelEvent := "destroy-sesi"
  labelEventToReceiver := "destroy-sesi"
  type := some .browser
  receiverType := .device
  qos := .qos2
  dto := some DestroySesiDto
  modifiedPayload := .override fun user payload =>
    serviceCall user "bell" fun product =>
      .call (BellApiService.destroy product.domain (payloadText payload "time") product.secret) none

def SyncAlarmEvent : WsEventJSON where
  productName := some "bell"
  labelEvent := "sync-alarm"
  labelEventToReceiver := "sync-alarm"
  type := some .browser
  receiverType := .device
  qos := .qos2
  dto := some SyncAlarmDto

def SendMetadataAudioEvent : WsEventJSON where
  productName := some "bell"
  labelEvent := "send-metadata-audio"
  labelEventToReceiver := "get-metadata-audio"
  type := some .device
  receiverType := .browser
  qos := .qos2
  dto := some SendMetadataAudiosDto

def UploadAudioStartEvent : WsEventJSON where
  productName := some "bell"
  labelEvent := "upload-audio-start"
  labelEventToReceiver := "lets-fucking-go"
  type := some .browser
  receiverType := .device
  qos := .qos2
  ttl := 3000
  dto := some StartUploadDto
  getReceivers := .byType

def UploadAudioEndEvent : WsEventJSON where
  productName := some "bell"
  labelEvent := "upload-audio-end"
  labelEventToReceiver := "thats-it-b1tch"
  type := some .browser
  receiverType := .device
  qos := .qos2
  dto := none
  getReceivers := .byType

/-! ### Commons -/

def EventAcknowledgmentEvent : WsEventJSON where
  productName := none
  labelEvent := "event:ack"
  labelEventToReceiver := "event:delivered"
  type := none
  receiverType := .server
  qos := .qos0
  dto := some EventAckDto
  getReceivers := .empty
  sideEffectEvent := .acknowledge

/-- `WS_EVENT_JSON_CLASSES`. -/
def WS_EVENT_JSON_CLASSES : List WsEventJSON :=
  [ChangeModeEvent, RFIDScanEvent, CancelReservasiEvent, GetAllReservasiEvent,
    CreateSesiEvent, DestroyAllSesiEvent, DestroySesiEvent, SyncAlarmEvent,
    SendMetadataAudioEvent, UploadAudioStartEvent, UploadAudioEndEvent,
    EventAcknowledgmentEvent]

/-! ## Handlers of binary messages -/

/-- `BaseWsEventBinner`. -/
structure WsEventBinner where
  productName : String
  labelEvent : String
  type : TypeEnduser
  receiverType : TypeEnduser
  modifiedPayload : EndUser → List UInt8 → Except Failure (List UInt8) :=
    fun _ payload => .ok payload

def UploadAudioEvent : WsEventBinner where
  productName := "bell"
  labelEvent := "upload-audio"
  type := .browser
  receiverType := .device

/-- The bytes that `writeUInt32BE` writes. -/
def uint32BE (n : ℕ) : List UInt8 :=
  [UInt8.ofNat (n / 2 ^ 24), UInt8.ofNat (n / 2 ^ 16), UInt8.ofNat (n / 2 ^ 8), UInt8.ofNat n]

/-- The header of `StreamImageEvent`: the four bytes of the id overwrite the first byte.  An id
    that is not there is written as `NaN`, hence 0. -/
def streamHeader (id_device : ℕ) : Except Failure (List UInt8) :=
  if id_device < 2 ^ 32 then .ok (uint32BE id_device ++ [1])
  else .error (.internal "The value of \"value\" is out of range")

def StreamImageEvent : WsEventBinner where
  productName := "monitoring"
  labelEvent := "stream-image"
  type := .device
  receiverType := .desktop
  modifiedPayload user payload :=
    (streamHeader ((user.asDevice.map (·.id_device)).getD 0)).map (· ++ payload)

/-- `WS_EVENT_BINNER_CLASSES`. -/
def WS_EVENT_BINNER_CLASSES : List WsEventBinner := [StreamImageEvent, UploadAudioEvent]

end GatewayRealtime
