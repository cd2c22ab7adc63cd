/-
  The vocabulary of the gateway: the enumerations of `commons/enums`, the principals of
  `commons/schemas`, JSON values, frames and failures.

  Product names stay strings: they come from the database and from the query string of a
  connection, and nothing checks them against `TYPE_PRODUCT`.  Instants and durations are
  integers (milliseconds).
-/
import Mathlib.Data.Rat.Defs
import GatewayRealtime.Lib.OrderedMap

namespace GatewayRealtime

/-! ## Enumerations -/

/-- `TYPE_ENDUSER`. -/
inductive TypeEnduser
  | browser | device | self | desktop | server
deriving DecidableEq, Repr

/-- `CONNECTION_STATE`. -/
inductive TypeConnectionState
  | CONNECTING | ONLINE | SUSPEND | REPLACE | OFFLINE
deriving DecidableEq, Repr

/-- `TYPE_STATUS_EVENT`. -/
inductive TypeEventStatus
  | STORED | DELIVERED | APPLIED | FAILED
deriving DecidableEq, Repr

/-- The quality of service `0 | 1 | 2` of a handler. -/
inductive QoS
  | qos0 | qos1 | qos2
deriving DecidableEq, Repr

/-! ## JSON -/

/-- A value that `JSON.parse` can return. -/
inductive JsVal
  | null
  | bool (b : Bool)
  | num (q : ℚ)
  /-- a literal that is too large for a double -/
  | infinity (negative : Bool)
  | str (s : String)
  | arr (items : List JsVal)
  | obj (fields : List (String × JsVal))

/-- The fields of an object, in insertion order. -/
abbrev JsObj := List (String × JsVal)

/-- `v.k`, where `v` is an object that has the property. -/
def JsVal.field (k : String) : JsVal → Option JsVal
  | .obj fields => OMap.find k fields
  | _ => none

/-- `v.k`, where it is a string. -/
def JsVal.strField (k : String) (v : JsVal) : Option String :=
  match v.field k with
  | some (.str s) => some s
  | _ => none

/-- `!v`. -/
def JsVal.falsy : JsVal → Bool
  | .null => true
  | .bool b => !b
  | .num q => q = 0
  | .infinity _ => false
  | .str s => s = ""
  | .arr _ => false
  | .obj _ => false

mutual

/-- `String(v)`, where `number` is that of the finite numbers.  It throws on an object with a
    `toString` of its own: that is no function, and the inherited `valueOf` gives no primitive. -/
def JsVal.toText (number : ℚ → String) : JsVal → Option String
  | .null => some "null"
  | .bool b => some (if b then "true" else "false")
  | .num q => some (number q)
  | .infinity negative => some (if negative then "-Infinity" else "Infinity")
  | .str s => some s
  | .arr items => (JsVal.itemTexts number items).map fun texts => ",".intercalate texts
  | .obj fields => if fields.any fun f => f.1 = "toString" then none else some "[object Object]"

/-- The texts that `join` puts commas between: `null` is left out of them. -/
def JsVal.itemTexts (number : ℚ → String) : List JsVal → Option (List String)
  | [] => some []
  | .null :: items => (JsVal.itemTexts number items).map fun texts => "" :: texts
  | v :: items => (v.toText number).bind fun t =>
    (JsVal.itemTexts number items).map fun texts => t :: texts

end

/-- The names that every object inherits a property under. -/
def inheritedNames : List String :=
  ["constructor", "__proto__", "hasOwnProperty", "isPrototypeOf", "propertyIsEnumerable",
    "toLocaleString", "toString", "valueOf", "__defineGetter__", "__defineSetter__",
    "__lookupGetter__", "__lookupSetter__"]

/-- `{ ...base, ...extra }`: a later field overwrites an earlier one where that one stands. -/
def JsObj.spread (base extra : JsObj) : JsObj :=
  extra.foldl (fun o f => OMap.put f.1 f.2 o) base

/-- `{ event, ...payload }`. -/
def eventMessage (event : String) (payload : JsObj) : JsObj :=
  JsObj.spread [("event", .str event)] payload

/-- `{ event, ...payload, meta: { eventId } }`. -/
def eventMessageMeta (event : String) (payload : JsObj) (eventId : String) : JsObj :=
  OMap.put "meta" (.obj [("eventId", .str eventId)]) (eventMessage event payload)

/-! ## Failures -/

/-- What a handler can throw. -/
inductive Failure
  /-- an `AppWsException` or `WebhookError` -/
  | ws (code message : String)
  /-- an `AppWsException` whose message is the list of validation errors -/
  | invalid (code : String) (errors : List (String × String))
  /-- an `HttpException` -/
  | http (message : String)
  /-- any other `Error`, a `TypeError` included -/
  | internal (message : String)
deriving DecidableEq, Repr

/-- The `code` that `normalizeWsError` gives a failure. -/
def Failure.code : Failure → String
  | .ws code _ => code
  | .invalid code _ => code
  | .http _ => "HTTP_ERROR"
  | .internal _ => "INTERNAL_ERROR"

/-- `undefined.key`. -/
def typeError (key : String) : Failure :=
  .internal ("Cannot read properties of undefined (reading '" ++ key ++ "')")

/-! ## Principals -/

/-- A product of a tenant, as its services reach it. -/
structure ProductInfo where
  domain : String
  secret : String
deriving DecidableEq, Repr

/-- `BrowserUser`. -/
structure BrowserUser where
  clientId : String
  products : List (String × ProductInfo)
  role : String
  whiteListSend : List ℕ
  whiteListGet : List ℕ
  role_product : String
deriving DecidableEq, Repr

/-- `DeviceUser`. -/
structure DeviceUser where
  clientId : String
  products : List (String × ProductInfo)
  deviceId : String
  blacklistSend : List ℕ
  blacklistGet : List ℕ
  id_device : ℕ
  device_product : String
deriving DecidableEq, Repr

/-- `EndUser`: the principal of a session. -/
inductive EndUser
  | browser (user : BrowserUser)
  | device (user : DeviceUser)
deriving DecidableEq, Repr

namespace EndUser

def clientId : EndUser → String
  | .browser user => user.clientId
  | .device user => user.clientId

def products : EndUser → List (String × ProductInfo)
  | .browser user => user.products
  | .device user => user.products

/-- `ProductOwner.getProduct`. -/
def getProduct (user : EndUser) (product : String) : Except Failure ProductInfo :=
  match OMap.find product user.products with
  | some p => .ok p
  | none => .error (.internal ("PRODUCT_NOT_ALLOWED: " ++ product))

/-- The principal read as a `BrowserUser`: the casts of the source are unchecked, so a field of
    the other class reads `undefined`. -/
def asBrowser : EndUser → Option BrowserUser
  | .browser user => some user
  | .device _ => none

/-- The principal read as a `DeviceUser`. -/
def asDevice : EndUser → Option DeviceUser
  | .browser _ => none
  | .device user => some user

end EndUser

/-- The class of principal that authentication returns for a type; there is no strategy for
    `self` and `server`. -/
def TypeEnduser.issues : TypeEnduser → EndUser → Bool
  | .browser, .browser _ => true
  | .desktop, .browser _ => true
  | .device, .device _ => true
  | _, _ => false

/-- A row of `EventService.getByProduct`. -/
structure Events where
  id : ℕ
  label : String
  id_device : ℕ
deriving DecidableEq, Repr

end GatewayRealtime
