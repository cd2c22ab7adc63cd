/-
  Authentication of a connection (`auth.service.ts`, `strategies/`), and who is let in for a
  tenant that is not active.

  * `AuthEnv`: the code outside the repository: JWT verification, JSON, HMAC-SHA256, the Firebase
    provider, and what becomes of a token field that is not a string in a query or a buffer.
  * `JsPrimitive`: `a + b`, a sum of numbers or a text.
  * `JwtAuthStrategy.validate`, `HmacAuthStrategy.validate`, `FireBaseAuthStrategy.validate`,
    `AuthService.validateToken`.
  * `hmac_expires_iff`: for which tokens the freshness check is a check.
  * `alone`: a login or refresh with no other call in between.
  * `lockedOut_iff`: which rows must be gone for an inactive tenant to be locked out.
-/
import GatewayRealtime.RefreshToken

namespace GatewayRealtime

/-! ## The environment -/

/-- The payload of a verified JWT. -/
structure JwtPayload where
  client_id : Option String
  role : Option String
deriving DecidableEq, Repr

/-- How `jwtService.verify` throws, by the name of the error. -/
inductive JwtError
  | TokenExpiredError | JsonWebTokenError | other
deriving DecidableEq, Repr

/-- What `JwtAuthStrategy.validate` throws for an error. -/
def JwtError.failure : JwtError → Failure
  | .TokenExpiredError => .ws "TOKEN_EXPIRED" "JWT token expired"
  | .JsonWebTokenError => .ws "INVALID_TOKEN" "Invalid JWT token"
  | .other => .ws "UNAUTHENTICATED" "JWT authentication failed"

/-- How `getProvider` or `verifyIdToken` throws, by the code of the error. -/
inductive FirebaseError
  | idTokenExpired | argumentError
  | other (f : Failure)
deriving DecidableEq, Repr

/-- What `FireBaseAuthStrategy.validate` throws for an error. -/
def FirebaseError.failure : FirebaseError → Failure
  | .idTokenExpired => .ws "TOKEN_EXPIRED" "Token has expired"
  | .argumentError => .ws "INVALID_TOKEN" "Malformed token"
  | .other f => f

/-- The functions that authentication calls. -/
structure AuthEnv where
  /-- `jwtService.verify(token, …)` at an instant -/
  verify : String → ℤ → Except JwtError JwtPayload
  /-- `JSON.parse`; `none` when it throws -/
  parse : String → Option JsVal
  /-- `createHmac('sha256', key).update(message).digest('hex')` -/
  hmac : String → String → String
  /-- `getProvider('auth', clientId)` and its `verifyIdToken(token)`: the role claim -/
  verifyIdToken : String → String → ℤ → Except FirebaseError (Option String)
  /-- `String(x)` of a finite number -/
  numberText : ℚ → String
  /-- the id that `v` equals in a query, where `v` is truthy and not a string -/
  column : JsVal → {id : String // id ≠ ""}
  /-- `Buffer.from(v, 'hex')`, where `v` is not a string; `none` when it throws -/
  bytes : JsVal → Option (List UInt8)

/-! ## Sums -/

/-- A number of the language. -/
inductive JsNumber
  | finite (q : ℚ)
  | infinity (negative : Bool)
  | nan
deriving DecidableEq

/-- `x + y`. -/
def JsNumber.add : JsNumber → JsNumber → JsNumber
  | .finite a, .finite b =>
    let sum := Double.round (a + b)
    if |sum| < 2 ^ 1024 then .finite sum else .infinity (sum < 0)
  | .finite _, .infinity negative => .infinity negative
  | .infinity negative, .finite _ => .infinity negative
  | .infinity negative, .infinity negative' =>
    if negative = negative' then .infinity negative else .nan
  | .nan, _ => .nan
  | _, .nan => .nan

/-- `String(x)`, where `number` is that of the finite numbers. -/
def JsNumber.toText (number : ℚ → String) : JsNumber → String
  | .finite q => number q
  | .infinity negative => if negative then "-Infinity" else "Infinity"
  | .nan => "NaN"

/-- What `+` adds: a text, or a number, with the text of the value that it is the number of. -/
inductive JsPrimitive
  | text (s : String)
  | number (x : JsNumber) (s : String)
deriving DecidableEq

/-- The operand that a value is, where `number` is `String` of the finite numbers; `none` when the
    conversion throws. -/
def JsVal.toPrimitive (number : ℚ → String) : JsVal → Option JsPrimitive
  | .null => some (.number (.finite 0) "null")
  | .bool b => some (.number (.finite (if b then 1 else 0)) (if b then "true" else "false"))
  | .num q => some (.number (.finite q) (number q))
  | .infinity negative => some (.number (.infinity negative)
      (JsNumber.toText number (.infinity negative)))
  | v => (v.toText number).map .text

/-- `String` of an operand. -/
def JsPrimitive.toText : JsPrimitive → String
  | .text s => s
  | .number _ s => s

/-- `a + b`, where `number` is `String` of the finite numbers. -/
def JsPrimitive.add (number : ℚ → String) : JsPrimitive → JsPrimitive → JsPrimitive
  | .number x _, .number y _ => .number (x.add y) ((x.add y).toText number)
  | a, b => .text (a.toText ++ b.toText)

/-- `AuthResult`. -/
structure AuthResult where
  auth : EndUser
  id_enduser : ℕ
deriving DecidableEq

/-! ## The strategies -/

section
variable (env : AuthEnv) (db : Database) (ord : RowOrder) (now : ℤ)

/-- `JwtAuthStrategy.validate`. -/
def jwtValidate (token : String) : Except Failure AuthResult :=
  match env.verify token now with
  | .error e => .error e.failure
  | .ok ⟨some clientId, some role⟩ =>
    match db.getAuthBrowser ord clientId role with
    | .ok authData => .ok ⟨.browser authData.user, authData.id_enduser⟩
    | .error _ => .error JwtError.other.failure
  | .ok _ => .error JwtError.other.failure

/-- `FormatHMAC`: what `JSON.parse` returns need not be strings. -/
structure FormatHMAC where
  clientId : JsVal
  timestamp : JsVal
  signature : JsVal
  deviceId : JsVal

/-- The four fields of a parsed HMAC token, if none is falsy. -/
def hmacFields (v : JsVal) : Option FormatHMAC :=
  match v.field "clientId", v.field "timestamp", v.field "signature", v.field "deviceId" with
  | some clientId, some timestamp, some signature, some deviceId =>
    if clientId.falsy || timestamp.falsy || signature.falsy || deviceId.falsy then none
    else some ⟨clientId, timestamp, signature, deviceId⟩
  | _, _, _, _ => none

/-- `Math.abs(Date.now() - parseInt(timestamp)) > 300000`; a comparison with `NaN` is false. -/
def hmacExpired (timestamp : String) : Bool :=
  match parseInt timestamp with
  | some t => decide (300000 < (now - t).natAbs)
  | none => false

/-- The bytes that pairs of hexadecimal digits stand for, up to the first other character. -/
def hexBytes : List Char → List UInt8
  | a :: b :: cs =>
    if digitValue a < 16 ∧ digitValue b < 16 then
      UInt8.ofNat (16 * digitValue a + digitValue b) :: hexBytes cs
    else []
  | _ => []

/-- `Buffer.from(text, 'hex')`. -/
def hexDecode (text : String) : List UInt8 := hexBytes text.toList

namespace AuthEnv

/-- `String(v)`. -/
def toText (v : JsVal) : Option String := v.toText env.numberText

/-- The id that a value equals in a query. -/
def columnId : JsVal → String
  | .str s => s
  | v => env.column v

/-- `Buffer.from(v, 'hex')`. -/
def fromHex : JsVal → Option (List UInt8)
  | .str s => some (hexDecode s)
  | v => env.bytes v

/-- `deviceId + timestamp + clientId`; `none` when an operand throws. -/
def message (token : FormatHMAC) : Option JsPrimitive :=
  (token.deviceId.toPrimitive env.numberText).bind fun d =>
    (token.timestamp.toPrimitive env.numberText).bind fun t =>
      (token.clientId.toPrimitive env.numberText).map fun c =>
        (d.add env.numberText t).add env.numberText c

/-- `compareSignatures`: `timingSafeEqual` throws, and the answer is `false`, unless both
    buffers have the same length. -/
def compareSignatures (sig1 : JsVal) (sig2 : String) : Bool :=
  env.fromHex sig1 = some (hexDecode sig2)

end AuthEnv

/-- `HmacAuthStrategy.validate` up to the query: the fields of a token that is not stale. -/
def hmacFresh (token : String) : Except Failure FormatHMAC :=
  match env.parse token with
  | none =>
    .error (.ws "INVALID_TOKEN_FORMAT" "Token must be a valid JSON HMAC payload")
  | some .null =>
    .error (.internal "Cannot destructure property 'clientId' of 'parsedToken' as it is null.")
  | some parsedToken =>
    match hmacFields parsedToken with
    | none => .error (.ws "INVALID_TOKEN_FORMAT" "Missing HMAC fields")
    | some fields =>
      match env.toText fields.timestamp with
      | none => .error (.internal "Cannot convert object to primitive value")
      | some timestamp =>
        if hmacExpired now timestamp then .error (.ws "TOKEN_EXPIRED" "HMAC token expired")
        else .ok fields

/-- `HmacAuthStrategy.validate` once the device is known. -/
def hmacSigned (token : FormatHMAC) (device : Database.AuthDevice) : Except Failure AuthResult :=
  match env.message token with
  | none => .error (.internal "Cannot convert object to primitive value")
  | some message =>
    if device.key_device = "" then .error (.ws "UNAUTHENTICATED" "Unknown Device")
    else
      match message with
      | .text text =>
        if env.compareSignatures token.signature (env.hmac device.key_device text) then
          .ok ⟨.device device.user, device.id_enduser⟩
        else .error (.ws "INVALID_SIGNATURE" "Invalid HMAC signature")
      -- `Hmac.update` takes no number
      | .number .. => .error (.internal
          "The \"data\" argument must be of type string or an instance of Buffer")

/-- `HmacAuthStrategy.validate` past the check of the instant. -/
def hmacDevice (token : FormatHMAC) : Except Failure AuthResult :=
  match db.getAuthDevice ord (env.columnId token.clientId) (env.columnId token.deviceId) with
  | .error f => .error f
  | .ok device => hmacSigned env token device

/-- `HmacAuthStrategy.validate`. -/
def hmacValidate (token : String) : Except Failure AuthResult :=
  match hmacFresh env now token with
  | .error f => .error f
  | .ok fields => hmacDevice env db ord fields

/-- `FireBaseAuthStrategy.validate`. -/
def firebaseValidate (token : String) (clientId : Option String) : Except Failure AuthResult :=
  match clientId with
  | none => .error (.ws "UNAUTHENTICATED" "clientId is required for desktop auth")
  | some clientId =>
    if clientId = "" then .error (.ws "UNAUTHENTICATED" "clientId is required for desktop auth")
    else
      match env.verifyIdToken clientId token now with
      | .error e => .error e.failure
      | .ok role =>
        match db.getAuthBrowser ord clientId (orString role "default") with
        | .ok authData => .ok ⟨.browser authData.user, authData.id_enduser⟩
        | .error f => .error f

/-- `AuthService.validateToken`, over tables that stay as they are. -/
def validateToken (token : String) (type : TypeEnduser) (clientId : Option String) :
    Except Failure AuthResult :=
  match type with
  | .browser => jwtValidate env db ord now token
  | .device => hmacValidate env db ord now token
  | .desktop => firebaseValidate env db ord now token clientId
  | .self => .error (.ws "UNSUPPORTED_AUTH_TYPE" "Auth type self is not supported")
  | .server => .error (.ws "UNSUPPORTED_AUTH_TYPE" "Auth type server is not supported")

end

/-! ## The class of a principal -/

section
variable {env : AuthEnv} {db : Database} {ord : RowOrder} {now : ℤ} {token : String}
  {type : TypeEnduser} {clientId : Option String} {result : AuthResult}

theorem jwtValidate_browser (h : jwtValidate env db ord now token = .ok result) :
    ∃ user, result.auth = .browser user := by
  unfold jwtValidate at h
  split at h
  · cases h
  · split at h
    · cases h
      exact ⟨_, rfl⟩
    · cases h
  · cases h

/-- The fields of a token are signed with the key of the device that `getAuth` returns for
    them. -/
def SignedBy (env : AuthEnv) (db : Database) (ord : RowOrder) (token : FormatHMAC)
    (device : Database.AuthDevice) : Prop :=
  db.getAuthDevice ord (env.columnId token.clientId) (env.columnId token.deviceId) = .ok device ∧
  device.key_device ≠ "" ∧ ∃ text, env.message token = some (.text text) ∧
    env.compareSignatures token.signature (env.hmac device.key_device text) = true

theorem hmacSigned_ok_iff {fields : FormatHMAC} {device : Database.AuthDevice} :
    hmacSigned env fields device = .ok result ↔
      (device.key_device ≠ "" ∧ ∃ text, env.message fields = some (.text text) ∧
        env.compareSignatures fields.signature (env.hmac device.key_device text) = true) ∧
      result = ⟨.device device.user, device.id_enduser⟩ := by
  unfold hmacSigned
  cases env.message fields with
  | none => simp
  | some message =>
    by_cases hkey : device.key_device = ""
    · simp [hkey]
    · cases message <;> simp [hkey]
      split_ifs with hsig <;> simp [hsig, eq_comm]

theorem hmacDevice_ok_iff {fields : FormatHMAC} :
    hmacDevice env db ord fields = .ok result ↔ ∃ device, SignedBy env db ord fields device ∧
      result = ⟨.device device.user, device.id_enduser⟩ := by
  unfold hmacDevice SignedBy
  cases db.getAuthDevice ord (env.columnId fields.clientId) (env.columnId fields.deviceId) with
  | error f => simp
  | ok device => simp [hmacSigned_ok_iff]

theorem hmacFields_null : hmacFields .null = none := rfl

theorem hmacFresh_ok_iff {fields : FormatHMAC} : hmacFresh env now token = .ok fields ↔
    ∃ v timestamp, env.parse token = some v ∧ hmacFields v = some fields ∧
      env.toText fields.timestamp = some timestamp ∧ hmacExpired now timestamp = false := by
  unfold hmacFresh
  split
  · rename_i hv
    simp [hv]
  · rename_i hv
    simp [hv, hmacFields_null]
  · rename_i v _ hv
    cases hf : hmacFields v with
    | none => simp [hv, hf]
    | some fields' =>
      cases ht : env.toText fields'.timestamp with
      | none =>
        simp only [ht, hv, hf, reduceCtorEq, Option.some.injEq, ↓existsAndEq, true_and, false_iff,
          not_exists, not_and]
        rintro _ rfl h
        simp [ht] at h
      | some timestamp =>
        simp only [ht, hv, hf, Option.some.injEq, ↓existsAndEq, true_and]
        constructor
        · intro h
          split_ifs at h with hx
          cases h
          exact ⟨timestamp, rfl, ht, by simpa using hx⟩
        · rintro ⟨_, rfl, h, hx⟩
          cases ht.symm.trans h
          simp [hx]

/-- **When an HMAC token is accepted**: it is fresh, and signed by its device. -/
theorem hmacValidate_ok_iff : hmacValidate env db ord now token = .ok result ↔
    ∃ v fields timestamp device, env.parse token = some v ∧ hmacFields v = some fields ∧
      env.toText fields.timestamp = some timestamp ∧ hmacExpired now timestamp = false ∧
      SignedBy env db ord fields device ∧
      result = ⟨.device device.user, device.id_enduser⟩ := by
  have hfresh : hmacValidate env db ord now token = .ok result ↔
      ∃ fields, hmacFresh env now token = .ok fields ∧
        hmacDevice env db ord fields = .ok result := by
    unfold hmacValidate
    cases hmacFresh env now token <;> simp
  rw [hfresh]
  constructor
  · rintro ⟨fields, h, hdevice⟩
    obtain ⟨v, timestamp, hv, hf, ht, hx⟩ := hmacFresh_ok_iff.1 h
    obtain ⟨device, hs, hr⟩ := hmacDevice_ok_iff.1 hdevice
    exact ⟨v, fields, timestamp, device, hv, hf, ht, hx, hs, hr⟩
  · rintro ⟨v, fields, timestamp, device, hv, hf, ht, hx, hs, hr⟩
    exact ⟨fields, hmacFresh_ok_iff.2 ⟨v, timestamp, hv, hf, ht, hx⟩,
      hmacDevice_ok_iff.2 ⟨device, hs, hr⟩⟩

theorem hmacValidate_device (h : hmacValidate env db ord now token = .ok result) :
    ∃ user, result.auth = .device user := by
  obtain ⟨_, _, _, device, _, _, _, _, _, rfl⟩ := hmacValidate_ok_iff.1 h
  exact ⟨device.user, rfl⟩

theorem firebaseValidate_browser
    (h : firebaseValidate env db ord now token clientId = .ok result) :
    ∃ user, result.auth = .browser user := by
  unfold firebaseValidate at h
  split at h
  · cases h
  · split_ifs at h
    split at h
    · cases h
    · split at h
      · cases h
        exact ⟨_, rfl⟩
      · cases h

/-- The principal that authentication returns is of the class of its type. -/
theorem validateToken_issues (h : validateToken env db ord now token type clientId = .ok result) :
    type.issues result.auth = true := by
  cases type with
  | browser =>
    obtain ⟨user, hauth⟩ := jwtValidate_browser h
    rw [hauth]
    rfl
  | device =>
    obtain ⟨user, hauth⟩ := hmacValidate_device h
    rw [hauth]
    rfl
  | desktop =>
    obtain ⟨user, hauth⟩ := firebaseValidate_browser h
    rw [hauth]
    rfl
  | self => cases h
  | server => cases h

end

/-! ## How long an HMAC token is accepted -/

section
variable (env : AuthEnv) (db : Database) (ord : RowOrder)

/-- A token that names an instant is refused more than five minutes away from it. -/
theorem hmacExpired_false_iff {now t : ℤ} {timestamp : String} (ht : parseInt timestamp = some t) :
    hmacExpired now timestamp = false ↔ t - 300000 ≤ now ∧ now ≤ t + 300000 := by
  simp only [hmacExpired, ht, decide_eq_false_iff_not]
  omega

/-- A token that names no instant is never stale. -/
theorem hmacExpired_nan (now : ℤ) {timestamp : String} (ht : parseInt timestamp = none) :
    hmacExpired now timestamp = false := by simp [hmacExpired, ht]

/-- **Which tokens expire.**  The instants at which a token is accepted lie within ten minutes
    exactly when its timestamp starts with a number, or no device has signed it. -/
theorem hmac_expires_iff (token : String) :
    (∀ n₁ n₂ r₁ r₂, n₁ ≤ n₂ → hmacValidate env db ord n₁ token = .ok r₁ →
      hmacValidate env db ord n₂ token = .ok r₂ → n₂ - n₁ ≤ 600000) ↔
    ∀ v fields timestamp device, env.parse token = some v → hmacFields v = some fields →
      env.toText fields.timestamp = some timestamp → SignedBy env db ord fields device →
        ∃ t, parseInt timestamp = some t := by
  constructor
  · intro hexpires v fields timestamp device hv hf ht hsigned
    rw [← Option.ne_none_iff_exists']
    intro hnan
    have haccepted : ∀ now, hmacValidate env db ord now token =
        .ok ⟨.device device.user, device.id_enduser⟩ := fun now =>
      hmacValidate_ok_iff.2 ⟨v, fields, timestamp, device, hv, hf, ht, hmacExpired_nan now hnan,
        hsigned, rfl⟩
    have hbound := hexpires 0 600001 _ _ (by decide) (haccepted 0) (haccepted 600001)
    omega
  · intro hnumber n₁ n₂ r₁ r₂ _ h₁ h₂
    obtain ⟨v, fields, timestamp, device, hv, hf, ht, hx₁, hsigned, -⟩ := hmacValidate_ok_iff.1 h₁
    obtain ⟨v', fields', timestamp', _, hv', hf', ht', hx₂, -, -⟩ := hmacValidate_ok_iff.1 h₂
    obtain rfl : v = v' := Option.some.inj (hv.symm.trans hv')
    obtain rfl : fields = fields' := Option.some.inj (hf.symm.trans hf')
    obtain rfl : timestamp = timestamp' := Option.some.inj (ht.symm.trans ht')
    obtain ⟨t, hparse⟩ := hnumber v fields timestamp device hv hf ht hsigned
    have hw₁ := (hmacExpired_false_iff hparse).1 hx₁
    have hw₂ := (hmacExpired_false_iff hparse).1 hx₂
    omega

end

/-- A tenant with one device, and no one else. -/
def scannerTenant : Database where
  client := [⟨1, "acme", .ACTIVE⟩]
  secret := [⟨1, "service-key", "device-key", 1⟩]
  device_transaksi := [⟨1, "scanner", .ACTIVE, 1, 1, 2⟩]
  jenis_device := [⟨1, 1⟩]
  host_client := [⟨"https://acme.example", "api-secret", 1, 1⟩]
  product := [⟨1, "absensi"⟩]
  enduser := [1, 2]

/-- The HMAC-SHA256 digest of `scannersoonacme` under the key of the device. -/
def soonDigest : String :=
  "1af66b755d201fb6cb702cc8b57bbfc9eeb87cc164a6dc750c7d183cb550d737"

/-- The JSON text of a token whose timestamp is no number. -/
def soonToken : String :=
  "\x7b\"clientId\":\"acme\",\"timestamp\":\"soon\",\"signature\":\"" ++ soonDigest ++
    "\",\"deviceId\":\"scanner\"\x7d"

/-- An environment in which that token is in use. -/
def soonEnv : AuthEnv where
  verify _ _ := .error .JsonWebTokenError
  parse text := if text = soonToken then some (.obj [("clientId", .str "acme"),
    ("timestamp", .str "soon"), ("signature", .str soonDigest), ("deviceId", .str "scanner")])
    else none
  hmac _ _ := soonDigest
  verifyIdToken _ _ _ := .error .argumentError
  numberText _ := "0"
  column _ := ⟨"0", by decide⟩
  bytes _ := none

/-- The device may write `soon` once and for all. -/
theorem soonToken_forever :
    ¬ ∀ (env : AuthEnv) (db : Database) (ord : RowOrder) (token : String) (n₁ n₂ : ℤ)
      (r₁ r₂ : AuthResult), n₁ ≤ n₂ → hmacValidate env db ord n₁ token = .ok r₁ →
        hmacValidate env db ord n₂ token = .ok r₂ → n₂ - n₁ ≤ 600000 := by
  intro h
  have hbound := h soonEnv scannerTenant .natural soonToken 1702656000000 1734192000000 _ _
    (by decide) rfl rfl
  omega

/-! ## A call alone -/

/-- A call that nothing interleaves with, up to its end: one answer per repository call. -/
def alone (cfg : AuthConfig) : List AuthAnswer → Database → AuthCall → Database × AuthCall
  | _, db, .done r => (db, .done r)
  | [], db, call => (db, call)
  | a :: answers, db, call =>
    alone cfg answers (authStep cfg db a call).1 (authStep cfg db a call).2

/-- A login, left alone at the instant `now`, can succeed. -/
def LoginSucceeds (cfg : AuthConfig) (db : Database) (now : ℤ) (dto : GenerateTokenDto) : Prop :=
  ∃ answers reply, (∀ a ∈ answers, a.now = now) ∧
    (alone cfg answers db (.existsClient dto)).2 = .done (.ok reply)

/-- A refresh, left alone at the instant `now`, can issue an access token for tenant `c`. -/
def RefreshSucceeds (cfg : AuthConfig) (db : Database) (now : ℤ) (token c : String) : Prop :=
  ∃ answers accessToken refreshToken, (∀ a ∈ answers, a.now = now) ∧
    (alone cfg answers db (.validate token)).2 =
      .done (.ok (.refresh token accessToken refreshToken)) ∧ accessToken.client_id = c

/-- The token is a live refresh token of tenant `c`. -/
def LiveTokenOf (db : Database) (now : ℤ) (token c : String) : Prop :=
  ∃ r client, db.findLiveToken token now = some r ∧
    db.client.find? (·.id = r.client) = some client ∧ client.client_id = c

section
variable {cfg : AuthConfig} {db : Database} {now : ℤ} {c : String}

@[simp] theorem alone_done (answers : List AuthAnswer) (r : Except Failure AuthReply) :
    alone cfg answers db (.done r) = (db, .done r) := by
  cases answers <;> rfl

theorem alone_cons (a : AuthAnswer) (answers : List AuthAnswer) {call : AuthCall}
    (h : ∀ r, call ≠ .done r) : alone cfg (a :: answers) db call =
      alone cfg answers (authStep cfg db a call).1 (authStep cfg db a call).2 := by
  cases call with
  | done r => exact absurd rfl (h r)
  | _ => rfl

/-- What every repository call keeps, a call that nothing interleaves with keeps. -/
theorem alone_inv {I : Database → AuthCall → Prop}
    (hstep : ∀ a db call, I db call → I (authStep cfg db a call).1 (authStep cfg db a call).2) :
    ∀ (answers : List AuthAnswer) {db : Database} {call : AuthCall}, I db call →
      I (alone cfg answers db call).1 (alone cfg answers db call).2
  | [], db, call, h => by cases call <;> exact h
  | a :: answers, db, call, h => by
    by_cases hdone : ∃ r, call = .done r
    · obtain ⟨r, rfl⟩ := hdone
      simpa using h
    · rw [alone_cons a answers fun r hr => hdone ⟨r, hr⟩]
      exact alone_inv hstep answers (hstep a db call h)

/-- The refresh, past the check of its token, is one of tenant `c`. -/
def AuthCall.refreshes (c : String) : AuthCall → Prop
  | .revoke _ clientId _ => clientId = c
  | .createFind (.refresh _ clientId) _ _ => clientId = c
  | .createRevokeAll (.refresh _ clientId) _ _ => clientId = c
  | .createSave (.refresh _ clientId) _ _ => clientId = c
  | .done (.ok (.refresh _ accessToken _)) => accessToken.client_id = c
  | _ => False

/-- Past the check of its token, a refresh keeps its tenant. -/
theorem AuthEdge.refreshes {a : AuthAnswer} {call call' : AuthCall} {db' : Database}
    (h : AuthEdge cfg db a call db' call') (hc : call'.refreshes c) :
    call.refreshes c ∨ ∃ t, call = .validate t := by
  cases h with
  | found => exact Or.inr ⟨_, rfl⟩
  | revoke => exact Or.inl hc
  | stay => exact Or.inl hc
  | create => rename_i k _ _ _; refine Or.inl ?_; cases k <;> exact hc
  | revokeAll => rename_i k _ _ _; refine Or.inl ?_; cases k <;> exact hc
  | save =>
    rename_i k _ _
    refine Or.inl ?_
    cases k with
    | login => exact hc
    | refresh t clientId =>
      cases hs : a.signFails with
      | some f => simp [AuthCall.refreshes, afterCreate, hs] at hc
      | none => simpa [AuthCall.refreshes, afterCreate, hs] using hc
  | _ => exact hc.elim

/-- No call goes back to the check of a token. -/
theorem AuthEdge.ne_validate {a : AuthAnswer} {call call' : AuthCall} {db' : Database}
    (h : AuthEdge cfg db a call db' call') (t : String) : call' ≠ .validate t := by
  cases h <;> nofun

/-- A refresh that ends with an access token was one of that tenant all along. -/
theorem alone_refreshes : ∀ (answers : List AuthAnswer) {db : Database} {call : AuthCall},
    (∀ t, call ≠ .validate t) → (alone cfg answers db call).2.refreshes c → call.refreshes c
  | [], _, call, _, hc => by cases call <;> exact hc
  | a :: answers, db, call, hv, hc => by
    by_cases hdone : ∃ r, call = .done r
    · obtain ⟨r, rfl⟩ := hdone
      simpa using hc
    · rw [alone_cons a answers fun r hr => hdone ⟨r, hr⟩] at hc
      have hedge := authStep_edge cfg db a call
      have hc' := alone_refreshes answers hedge.ne_validate hc
      rcases hedge.refreshes hc' with h | ⟨t, rfl⟩
      · exact h
      · exact absurd rfl (hv t)

/-- **A refresh succeeds exactly with a live token**, whatever the status of its tenant. -/
theorem refreshSucceeds_iff (cfg : AuthConfig) (db : Database) (now : ℤ) (token c : String) :
    RefreshSucceeds cfg db now token c ↔ LiveTokenOf db now token c := by
  constructor
  · rintro ⟨answers, accessToken, refreshToken, hnow, hend, hgrant⟩
    cases answers with
    | nil => simp [alone] at hend
    | cons a answers =>
      change (alone cfg answers (authStep cfg db a (.validate token)).1
        (authStep cfg db a (.validate token)).2).2 = _ at hend
      have hanow : a.now = now := hnow a List.mem_cons_self
      have hedge := authStep_edge cfg db a (.validate token)
      have hc := alone_refreshes (c := c) answers hedge.ne_validate (by rw [hend]; exact hgrant)
      unfold authStep at hc
      cases hrej : a.rejects with
      | some f => simp [hrej, AuthCall.refreshes] at hc
      | none =>
        simp only [hrej, authRun, hanow] at hc
        cases hr : db.findLiveToken token now with
        | none => simp [hr, AuthCall.refreshes] at hc
        | some r =>
          simp only [hr] at hc
          cases hclient : db.client.find? (·.id = r.client) with
          | none => simp [hclient, AuthCall.refreshes] at hc
          | some client =>
            simp only [hclient, AuthCall.refreshes] at hc
            exact ⟨r, client, hr, hclient, hc⟩
  · rintro ⟨r, client, hr, hclient, rfl⟩
    have hfind : ∃ client',
        (db.revokeToken token).findByClientId client.client_id = some client' := by
      rw [← Option.isSome_iff_exists]
      simp only [Database.findByClientId, List.find?_isSome]
      exact ⟨client, List.mem_of_find?_eq_some hclient, by simp⟩
    obtain ⟨client', hclient'⟩ := hfind
    refine ⟨List.replicate 5 { now := now }, ⟨client.client_id, r.role, "15m"⟩, "", ?_, ?_, rfl⟩
    · intro a ha
      rw [List.eq_of_mem_replicate ha]
    · simp [List.replicate, alone, authStep, authRun, hr, hclient, hclient', afterCreate]

/-- A login of a tenant that is not active fails. -/
theorem not_loginSucceeds (hinactive : ∀ client ∈ db.client, client.client_id = c →
    client.status ≠ .ACTIVE) {dto : GenerateTokenDto} (hdto : dto.client_id = c) :
    ¬ LoginSucceeds cfg db now dto := by
  rintro ⟨answers, reply, -, hend⟩
  have hnone : db.findActiveClient dto.client_id = none := by
    rw [Database.findActiveClient, List.find?_eq_none]
    intro client hclient
    simpa [hdto] using hinactive client hclient
  cases answers with
  | nil => simp [alone] at hend
  | cons a answers =>
    change (alone cfg answers (authStep cfg db a (.existsClient dto)).1
      (authStep cfg db a (.existsClient dto)).2).2 = _ at hend
    unfold authStep at hend
    cases hrej : a.rejects with
    | some f => simp [hrej] at hend
    | none => simp [hrej, authRun, hnone] at hend

end

/-! ## Who is let in for a tenant -/

/-- No operation gives access to tenant `c` at the instant `now`. -/
structure LockedOut (cfg : AuthConfig) (env : AuthEnv) (db : Database) (ord : RowOrder) (now : ℤ)
    (c : String) : Prop where
  login : ∀ dto, dto.client_id = c → ¬ LoginSucceeds cfg db now dto
  refresh : ∀ token, ¬ RefreshSucceeds cfg db now token c
  browser : ∀ token role clientId result, env.verify token now = .ok ⟨some c, role⟩ →
    validateToken env db ord now token .browser clientId ≠ .ok result
  device : ∀ token v clientId result, env.parse token = some v →
    v.strField "clientId" = some c →
      validateToken env db ord now token .device clientId ≠ .ok result
  desktop : ∀ token result, validateToken env db ord now token .desktop (some c) ≠ .ok result

/-- The rows through which a tenant is let in are gone: no refresh token of it is live, no role
    of it joins with the other tables, and no device that `getAuth` returns for it could sign. -/
structure RowsGone (db : Database) (ord : RowOrder) (now : ℤ) (c : String) : Prop where
  tokens : ∀ token, ¬ LiveTokenOf db now token c
  roles : ∀ role, db.roleRows c role = []
  devices : ∀ deviceId auth, db.getAuthDevice ord c deviceId = .ok auth →
    c = "" ∨ deviceId = "" ∨ auth.key_device = ""

/-- The text that `JSON.parse` reads as an HMAC token. -/
def hmacToken (clientId timestamp signature deviceId : String) : JsVal :=
  .obj [("clientId", .str clientId), ("timestamp", .str timestamp), ("signature", .str signature),
    ("deviceId", .str deviceId)]

/-- The tokens that the roles and devices of a tenant hold: a JWT that was signed for a role
    verifies, and a device can write the JSON text of a token that it signed at the instant
    `timestamp`. -/
structure TokensExist (env : AuthEnv) (db : Database) (now : ℤ) (c timestamp : String) :
    Prop where
  jwt : ∀ r ∈ db.role_transaksi, ∃ token, env.verify token now = .ok ⟨some c, some r.label_role⟩
  fresh : timestamp ≠ "" ∧ hmacExpired now timestamp = false
  digest : ∀ key message, env.hmac key message ≠ ""
  json : ∀ d ∈ db.device_transaksi, ∀ s ∈ db.secret, ∃ token, env.parse token =
    some (hmacToken c timestamp (env.hmac s.key_device (d.device_id ++ timestamp ++ c)) d.device_id)

section
variable {env : AuthEnv} {db : Database} {ord : RowOrder} {now : ℤ} {c : String}

/-- A JWT of a tenant is accepted exactly when its role joins with the other tables. -/
theorem jwtValidate_ok_iff (ord : RowOrder) {token : String} {role : Option String}
    (hv : env.verify token now = .ok ⟨some c, role⟩) :
    (∃ result, jwtValidate env db ord now token = .ok result) ↔
      ∃ r, role = some r ∧ db.roleRows c r ≠ [] := by
  cases role with
  | none => simp [jwtValidate, hv]
  | some r =>
    rw [jwtValidate, hv]
    simp only [Option.some.injEq, exists_eq_left', ← db.getAuthBrowser_ok_iff ord]
    cases db.getAuthBrowser ord c r <;> simp

theorem hmacFields_some {v : JsVal} {fields : FormatHMAC} (h : hmacFields v = some fields) :
    v.field "clientId" = some fields.clientId ∧ fields.clientId.falsy = false ∧
      fields.timestamp.falsy = false ∧ fields.deviceId.falsy = false := by
  unfold hmacFields at h
  split at h
  · rename_i hc _ _ _
    split_ifs at h with hfalsy
    cases h
    simp only [Bool.or_eq_true, not_or, Bool.not_eq_true] at hfalsy
    exact ⟨hc, hfalsy.1.1.1, hfalsy.1.1.2, hfalsy.2⟩
  · simp at h

/-- A truthy value does not equal the empty id. -/
theorem AuthEnv.columnId_ne {v : JsVal} (h : v.falsy = false) : env.columnId v ≠ "" := by
  cases v with
  | str s => simpa [JsVal.falsy, AuthEnv.columnId] using h
  | _ => exact (env.column _).2

/-- What an accepted HMAC token says: its device is one that `getAuth` returns, and has a key. -/
theorem hmacValidate_ok {token : String} {v : JsVal} {result : AuthResult}
    (hv : env.parse token = some v) (hc : v.strField "clientId" = some c)
    (h : hmacValidate env db ord now token = .ok result) :
    c ≠ "" ∧ ∃ deviceId auth, deviceId ≠ "" ∧ db.getAuthDevice ord c deviceId = .ok auth ∧
      auth.key_device ≠ "" := by
  obtain ⟨v', fields, _, auth, hv', hfields, -, -, ⟨hauth, hkey, -⟩, -⟩ := hmacValidate_ok_iff.1 h
  obtain rfl : v = v' := Option.some.inj (hv.symm.trans hv')
  obtain ⟨hclient, hc0, -, hd0⟩ := hmacFields_some hfields
  have hcolumn : fields.clientId = .str c := by
    rw [JsVal.strField, hclient] at hc
    cases hcl : fields.clientId <;> simp [hcl] at hc
    rw [hc]
  rw [hcolumn] at hauth hc0
  exact ⟨by simpa [JsVal.falsy] using hc0, env.columnId fields.deviceId, auth,
    env.columnId_ne hd0, hauth, hkey⟩

/-- A device with a key that signs a fresh token is let in. -/
theorem hmacValidate_hmacToken {token timestamp deviceId : String} {auth : Database.AuthDevice}
    (hts : timestamp ≠ "" ∧ hmacExpired now timestamp = false)
    (hdigest : ∀ key message, env.hmac key message ≠ "")
    (hauth : db.getAuthDevice ord c deviceId = .ok auth) (hc : c ≠ "") (hd : deviceId ≠ "")
    (hkey : auth.key_device ≠ "")
    (hparse : env.parse token = some (hmacToken c timestamp
      (env.hmac auth.key_device (deviceId ++ timestamp ++ c)) deviceId)) :
    hmacValidate env db ord now token = .ok ⟨.device auth.user, auth.id_enduser⟩ := by
  have hfields : hmacFields (hmacToken c timestamp
      (env.hmac auth.key_device (deviceId ++ timestamp ++ c)) deviceId) =
        some ⟨.str c, .str timestamp, .str (env.hmac auth.key_device (deviceId ++ timestamp ++ c)),
          .str deviceId⟩ := by
    simp [hmacFields, hmacToken, JsVal.field, JsVal.falsy, OMap.find, hc, hd, hts.1, hdigest]
  exact hmacValidate_ok_iff.2 ⟨_, _, timestamp, auth, hparse, hfields, rfl, hts.2,
    ⟨hauth, hkey, deviceId ++ timestamp ++ c, rfl, by simp [AuthEnv.compareSignatures,
      AuthEnv.fromHex]⟩, rfl⟩

/-- **Which tenants are locked out.**  A tenant that is not active is refused at login, and it
    is refused on every other path exactly when the rows through which it is let in are gone:
    none of those paths looks at its status. -/
theorem lockedOut_iff (cfg : AuthConfig) {timestamp : String}
    (hinactive : ∀ client ∈ db.client, client.client_id = c → client.status ≠ .ACTIVE)
    (htokens : TokensExist env db now c timestamp) :
    LockedOut cfg env db ord now c ↔ RowsGone db ord now c := by
  constructor
  · intro h
    refine ⟨fun token ht => h.refresh token ((refreshSucceeds_iff cfg db now token c).2 ht),
      fun role => ?_, fun deviceId auth hauth => ?_⟩
    · by_contra hne
      obtain ⟨row, hrow⟩ := List.exists_mem_of_ne_nil _ hne
      obtain ⟨r, hr, rfl⟩ := db.mem_roleRows hrow
      obtain ⟨token, hv⟩ := htokens.jwt r hr
      obtain ⟨result, hres⟩ := (jwtValidate_ok_iff ord hv).2 ⟨_, rfl, hne⟩
      exact h.browser token _ none result hv hres
    · by_contra hne
      simp only [not_or] at hne
      obtain ⟨hc, hd, hkey⟩ := hne
      obtain ⟨row, hrow, -, -, -, -, -, hk, -⟩ := db.getAuthDevice_ok ord hauth
      obtain ⟨hdev, hid, _, _, _, _, s, hs, hks⟩ := db.mem_deviceRows hrow
      obtain ⟨token, hparse⟩ := htokens.json row.1 hdev s hs
      rw [hid, ← hks, ← hk] at hparse
      exact h.device token _ none _ hparse rfl
        (hmacValidate_hmacToken htokens.fresh htokens.digest hauth hc hd hkey hparse)
  · intro h
    refine ⟨fun dto hdto => not_loginSucceeds hinactive hdto,
      fun token ht => h.tokens token ((refreshSucceeds_iff cfg db now token c).1 ht), ?_, ?_, ?_⟩
    · intro token role clientId result hv hres
      obtain ⟨r, rfl, hne⟩ := (jwtValidate_ok_iff ord hv).1 ⟨result, hres⟩
      exact hne (h.roles r)
    · intro token v clientId result hv hclient hres
      obtain ⟨hc0, deviceId, auth, hd0, hauth, hkey⟩ := hmacValidate_ok hv hclient hres
      rcases h.devices deviceId auth hauth with h' | h' | h'
      · exact hc0 h'
      · exact hd0 h'
      · exact hkey h'
    · intro token result hres
      have hnone : ∀ role f, db.getAuthBrowser ord c role ≠ .ok f := fun role f hf =>
        (db.getAuthBrowser_ok_iff ord c role).1 ⟨f, hf⟩ (h.roles role)
      simp only [validateToken, firebaseValidate] at hres
      split_ifs at hres
      split at hres
      · cases hres
      · split at hres
        · rename_i authData hauth
          exact hnone _ _ hauth
        · cases hres

end

/-! ## An offline tenant -/

/-- A tenant that is offline, with one role, one active device and one refresh token. -/
def offlineTenant : Database where
  client := [⟨1, "acme", .OFFLINE⟩]
  secret := [⟨1, "service-key", "device-key", 1⟩]
  role_transaksi := [⟨1, "admin", 1, 1, 1⟩]
  device_transaksi := [⟨1, "scanner", .ACTIVE, 1, 1, 2⟩]
  jenis_device := [⟨1, 1⟩]
  host_client := [⟨"https://acme.example", "api-secret", 1, 1⟩]
  product := [⟨1, "absensi"⟩]
  enduser := [1, 2]
  refresh_tokens := [⟨"r", 1, "admin", 1000, false⟩]

/-- The HMAC-SHA256 digest of `scanner10acme` under the key of the device. -/
def scannerDigest : String :=
  "62b5d84f45a9161312ae24a17577e9beab6b686d4a22452b14ba14e42e0451a4"

/-- The JSON text of the token that the device writes at the instant 10. -/
def scannerToken : String :=
  "\x7b\"clientId\":\"acme\",\"timestamp\":\"10\",\"signature\":\"" ++ scannerDigest ++
    "\",\"deviceId\":\"scanner\"\x7d"

/-- An environment in which one JWT and one HMAC token of the tenant are in use, and no token has
    a field that is not a string. -/
def offlineEnv : AuthEnv where
  verify token _ :=
    if token = "jwt" then .ok ⟨some "acme", some "admin"⟩ else .error .JsonWebTokenError
  parse text :=
    if text = scannerToken then some (hmacToken "acme" "10" scannerDigest "scanner") else none
  hmac _ _ := scannerDigest
  verifyIdToken _ _ _ := .error .argumentError
  numberText _ := "0"
  column _ := ⟨"0", by decide⟩
  bytes _ := none

theorem lockedOut_iff_offlineTenant :
    LockedOut {} offlineEnv offlineTenant .natural 10 "acme" ↔
      RowsGone offlineTenant .natural 10 "acme" := by
  have htokens : TokensExist offlineEnv offlineTenant 10 "acme" "10" := by
    have hdigest : scannerDigest ≠ "" := by decide
    refine ⟨fun r hr => ⟨"jwt", ?_⟩, by decide, fun _ _ => hdigest, fun d hd s _ =>
      ⟨scannerToken, ?_⟩⟩
    · obtain rfl : r = ⟨1, "admin", 1, 1, 1⟩ := by simpa [offlineTenant] using hr
      rfl
    · obtain rfl : d = ⟨1, "scanner", .ACTIVE, 1, 1, 2⟩ := by simpa [offlineTenant] using hd
      simp [offlineEnv]
  exact lockedOut_iff {} (by decide) htokens

/-- The offline tenant is let in by its refresh token, its JWT and its device. -/
theorem offlineTenant_let_in :
    (∀ client ∈ offlineTenant.client, client.client_id = "acme" → client.status ≠ .ACTIVE) ∧
    RefreshSucceeds {} offlineTenant 10 "r" "acme" ∧
    (∃ result, validateToken offlineEnv offlineTenant .natural 10 "jwt" .browser none =
      .ok result) ∧
    (∃ result, validateToken offlineEnv offlineTenant .natural 10 scannerToken .device none =
      .ok result) ∧
    ¬ LockedOut {} offlineEnv offlineTenant .natural 10 "acme" := by
  have hrefresh : RefreshSucceeds {} offlineTenant 10 "r" "acme" :=
    ⟨List.replicate 5 { now := 10, uuid := "r1" }, ⟨"acme", "admin", "15m"⟩, "r1", by simp,
      by decide, rfl⟩
  exact ⟨by decide, hrefresh, ⟨_, rfl⟩, ⟨_, rfl⟩, fun h => h.refresh "r" hrefresh⟩

end GatewayRealtime
