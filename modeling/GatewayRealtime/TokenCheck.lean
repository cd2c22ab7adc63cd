/-
  The check of a token, one answer after the other (`auth.service.ts`, `strategies/`,
  `browser.service.ts`, `device.service.ts`).

  * `TokenCheck`: what the check of a token waits for.
  * `TokenCheck.begin`, `TokenCheck.answer`: the stretches of code between two answers.
  * `TokenCheck.Issues`: the principal that it ends with is of the class of its type.
  * `TokenCheck.settle`: what a check ends with if no one writes to the tables.
  * `TokenCheck.Agrees`: then `validateToken` says the same at once; `begin_agrees`,
    `Agrees.answer`.

  `getAuth` awaits a query, and then two more that are asked together.  The tables may be written
  between any two of them.
-/
import GatewayRealtime.Auth

namespace GatewayRealtime

/-! ## What is asked -/

/-- Whom a token is for: a role of a tenant, or the device that its fields name. -/
inductive AuthTarget
  | role (clientId role : Option String)
  | device (fields : FormatHMAC)

/-- What the first query has found. -/
inductive AuthBase
  | role (base : Database.BaseRole)
  | device (fields : FormatHMAC) (base : Database.BaseDevice)

/-- What the check of a token waits for. -/
inductive TokenCheck
  /-- `getProvider('auth', clientId)` and its `verifyIdToken(token)` -/
  | verify (clientId token : String)
  /-- the query of `getBaseRole` or `getDevice` -/
  | getBase (target : AuthTarget)
  /-- the queries of `getWhitelist` or `getBlacklist`, of which some may be answered -/
  | lists (base : AuthBase) (send get : Option (List ℕ))
  | done (result : Except Failure AuthResult)

/-- Which of them is answered. -/
inductive TokenAnswer
  | verify | base | send | get
  | rejects (f : Failure)

/-- What a strategy throws when `getAuth` does. -/
def TypeEnduser.authFailure : TypeEnduser → Failure → Failure
  | .browser, _ => JwtError.other.failure
  | _, f => f

section
variable (env : AuthEnv) (db : Database) (ord : RowOrder) (now : ℤ)

/-- The first query of `getAuth`. -/
def AuthTarget.find : AuthTarget → Option AuthBase
  | .role (some clientId) (some label) => (db.getBaseRole ord clientId label).map .role
  | .role _ _ => none
  | .device fields => (db.getDevice ord (env.columnId fields.clientId)
      (env.columnId fields.deviceId)).map (.device fields)

/-- The events listed for sending. -/
def AuthBase.sendList : AuthBase → List ℕ
  | .role base => db.listedEvents db.whitelist_role_send_event base.roleId
  | .device _ base => db.listedEvents db.blacklist_device_send_event base.id_device

/-- The events listed for receiving. -/
def AuthBase.getList : AuthBase → List ℕ
  | .role base => db.listedEvents db.whitelist_role_get_event base.roleId
  | .device _ base => db.listedEvents db.blacklist_device_get_event base.id_device

/-- `validate` past `getAuth`. -/
def AuthBase.result : AuthBase → List ℕ → List ℕ → Except Failure AuthResult
  | .role base, send, get =>
    let authData := base.auth send get
    .ok ⟨.browser authData.user, authData.id_enduser⟩
  | .device fields base, send, get => hmacSigned env fields (base.auth send get)

namespace TokenCheck

/-- `validateToken`, up to the first answer that it waits for. -/
def begin (token : String) (type : TypeEnduser) (clientId : Option String) : TokenCheck :=
  match type with
  | .browser =>
    match env.verify token now with
    | .error e => .done (.error e.failure)
    | .ok payload => .getBase (.role payload.client_id payload.role)
  | .device =>
    match hmacFresh env now token with
    | .error f => .done (.error f)
    | .ok fields => .getBase (.device fields)
  | .desktop =>
    match clientId with
    | none => .done (.error (.ws "UNAUTHENTICATED" "clientId is required for desktop auth"))
    | some clientId =>
      if clientId = "" then
        .done (.error (.ws "UNAUTHENTICATED" "clientId is required for desktop auth"))
      else .verify clientId token
  | .self => .done (.error (.ws "UNSUPPORTED_AUTH_TYPE" "Auth type self is not supported"))
  | .server => .done (.error (.ws "UNSUPPORTED_AUTH_TYPE" "Auth type server is not supported"))

/-- `Promise.all` of the two lists. -/
def listed (base : AuthBase) : Option (List ℕ) → Option (List ℕ) → TokenCheck
  | some send, some get => .done (base.result env send get)
  | send, get => .lists base send get

/-- The stretch of code after an answer, or `none` if that is not awaited. -/
def answer (type : TypeEnduser) : TokenCheck → TokenAnswer → Option TokenCheck
  | .done _, _ => none
  | _, .rejects f => some (.done (.error (type.authFailure f)))
  | .verify clientId token, .verify =>
    match env.verifyIdToken clientId token now with
    | .error e => some (.done (.error e.failure))
    | .ok role => some (.getBase (.role (some clientId) (some (orString role "default"))))
  | .getBase target, .base =>
    match target.find env db ord with
    | none => some (.done (.error (type.authFailure (.ws "UNAUTHENTICATED" "Penyusup lu?"))))
    | some base => some (.lists base none none)
  | .lists base none get, .send => some (listed env base (some (base.sendList db)) get)
  | .lists base send none, .get => some (listed env base send (some (base.getList db)))
  | _, _ => none

end TokenCheck

end

/-! ## The class of the principal -/

/-- What is held of a role, or of a device, belongs to the type. -/
def AuthTarget.Of (type : TypeEnduser) : AuthTarget → Prop
  | .role .. => type = .browser ∨ type = .desktop
  | .device _ => type = .device

def AuthBase.Of (type : TypeEnduser) : AuthBase → Prop
  | .role _ => type = .browser ∨ type = .desktop
  | .device .. => type = .device

/-- A check for a type ends with a principal of its class. -/
def TokenCheck.Issues (type : TypeEnduser) : TokenCheck → Prop
  | .verify .. => type = .desktop
  | .getBase target => target.Of type
  | .lists base _ _ => base.Of type
  | .done (.ok result) => type.issues result.auth = true
  | .done (.error _) => True

section
variable {env : AuthEnv} {db : Database} {ord : RowOrder} {now : ℤ} {type : TypeEnduser}
  {token : String} {clientId : Option String} {target : AuthTarget} {base : AuthBase}
  {check check' : TokenCheck} {a : TokenAnswer}

theorem AuthTarget.Of.find (h : target.Of type) (hfind : target.find env db ord = some base) :
    base.Of type := by
  unfold AuthTarget.find at hfind
  split at hfind
  · obtain ⟨_, -, rfl⟩ := Option.map_eq_some_iff.1 hfind
    exact h
  · cases hfind
  · obtain ⟨_, -, rfl⟩ := Option.map_eq_some_iff.1 hfind
    exact h

theorem AuthBase.Of.issues (h : base.Of type) {send get : List ℕ} {result : AuthResult}
    (hresult : base.result env send get = .ok result) : type.issues result.auth = true := by
  cases base with
  | role base =>
    cases hresult
    rcases h with rfl | rfl <;> rfl
  | device fields base =>
    obtain ⟨-, rfl⟩ := hmacSigned_ok_iff.1 hresult
    obtain rfl : type = .device := h
    rfl

namespace TokenCheck

theorem begin_issues : (TokenCheck.begin env now token type clientId).Issues type := by
  cases type with
  | browser =>
    unfold TokenCheck.begin
    dsimp only
    split
    · trivial
    · exact Or.inl rfl
  | device =>
    unfold TokenCheck.begin
    dsimp only
    split
    · trivial
    · rfl
  | desktop =>
    unfold TokenCheck.begin
    dsimp only
    split
    · trivial
    · split_ifs
      · trivial
      · rfl
  | self => trivial
  | server => trivial

theorem listed_issues (h : base.Of type) (send get : Option (List ℕ)) :
    (listed env base send get).Issues type := by
  unfold listed
  split
  · cases hresult : base.result env _ _ with
    | error f => trivial
    | ok result => exact h.issues hresult
  · exact h

theorem Issues.answer (h : check.Issues type)
    (ha : check.answer env db ord now type a = some check') : check'.Issues type := by
  unfold TokenCheck.answer at ha
  split at ha
  · cases ha
  · cases ha
    trivial
  · split at ha
    · cases ha
      trivial
    · cases ha
      exact Or.inr h
  · split at ha
    · cases ha
      trivial
    · rename_i hfind
      cases ha
      exact AuthTarget.Of.find h hfind
  · cases ha
    exact listed_issues h _ _
  · cases ha
    exact listed_issues h _ _
  · cases ha

end TokenCheck

end

/-! ## Tables that stay -/

section
variable (env : AuthEnv) (db : Database) (ord : RowOrder) (now : ℤ) (type : TypeEnduser)

/-- `getAuth`, and `validate` past it, at once. -/
def AuthTarget.settle (target : AuthTarget) : Except Failure AuthResult :=
  match target.find env db ord with
  | none => .error (type.authFailure (.ws "UNAUTHENTICATED" "Penyusup lu?"))
  | some base => base.result env (base.sendList db) (base.getList db)

/-- What a check ends with if all that it waits for is answered at once. -/
def TokenCheck.settle : TokenCheck → Except Failure AuthResult
  | .verify clientId token =>
    match env.verifyIdToken clientId token now with
    | .error e => .error e.failure
    | .ok role => (AuthTarget.role (some clientId) (some (orString role "default"))).settle env db
        ord type
  | .getBase target => target.settle env db ord type
  | .lists base send get =>
    base.result env (send.getD (base.sendList db)) (get.getD (base.getList db))
  | .done result => result

end

section
variable {env : AuthEnv} {db : Database} {ord : RowOrder} {now : ℤ} {type : TypeEnduser}
  {token : String} {clientId : Option String} {check check' : TokenCheck} {a : TokenAnswer}

/-- `getAuth` of a role is its first query and then the lists. -/
theorem settle_role (clientId role : String) :
    (AuthTarget.role (some clientId) (some role)).settle env db ord type =
      match db.getAuthBrowser ord clientId role with
      | .ok authData => .ok ⟨.browser authData.user, authData.id_enduser⟩
      | .error f => .error (type.authFailure f) := by
  simp only [AuthTarget.settle, AuthTarget.find, Database.getAuthBrowser]
  cases db.getBaseRole ord clientId role <;> rfl

theorem settle_device (fields : FormatHMAC) :
    (AuthTarget.device fields).settle env db ord .device = hmacDevice env db ord fields := by
  simp only [AuthTarget.settle, AuthTarget.find, hmacDevice, Database.getAuthDevice]
  cases db.getDevice ord (env.columnId fields.clientId) (env.columnId fields.deviceId) <;> rfl

namespace TokenCheck

theorem settle_begin : (TokenCheck.begin env now token type clientId).settle env db ord now type =
    validateToken env db ord now token type clientId := by
  cases type with
  | browser =>
    unfold TokenCheck.begin validateToken jwtValidate
    dsimp only
    cases env.verify token now with
    | error e => rfl
    | ok payload =>
      obtain ⟨_ | c, _ | role⟩ := payload
      · rfl
      · rfl
      · rfl
      · refine (settle_role c role).trans ?_
        dsimp only
        cases db.getAuthBrowser ord c role <;> rfl
  | device =>
    unfold TokenCheck.begin validateToken hmacValidate
    dsimp only
    cases hmacFresh env now token with
    | error f => rfl
    | ok fields => exact settle_device fields
  | desktop =>
    unfold TokenCheck.begin validateToken firebaseValidate
    dsimp only
    cases clientId with
    | none => rfl
    | some c =>
      by_cases hc : c = ""
      · simp [hc, settle]
      · simp only [hc, ↓reduceIte, settle]
        cases env.verifyIdToken c token now with
        | error e => rfl
        | ok role =>
          refine (settle_role c (orString role "default")).trans ?_
          dsimp only
          cases db.getAuthBrowser ord c (orString role "default") <;> rfl
  | self => rfl
  | server => rfl

theorem settle_listed (base : AuthBase) (send get : Option (List ℕ)) :
    (listed env base send get).settle env db ord now type =
      base.result env (send.getD (base.sendList db)) (get.getD (base.getList db)) := by
  cases send <;> cases get <;> rfl

/-- No answer of tables that stay changes what the check ends with. -/
theorem settle_answer (ha : check.answer env db ord now type a = some check')
    (hrejects : ∀ f, a ≠ .rejects f) :
    check'.settle env db ord now type = check.settle env db ord now type := by
  unfold TokenCheck.answer at ha
  split at ha
  · cases ha
  · exact absurd rfl (hrejects _)
  · rename_i c t
    cases hverify : env.verifyIdToken c t now <;> simp only [hverify, Option.some.injEq] at ha <;>
      subst ha <;> simp [settle, hverify]
  · rename_i target
    cases hfind : target.find env db ord <;> simp only [hfind, Option.some.injEq] at ha <;>
      subst ha <;> simp [settle, AuthTarget.settle, hfind]
  · cases ha
    exact settle_listed _ _ _
  · cases ha
    exact settle_listed _ _ _
  · cases ha

/-- Past the verification, the instant does not matter. -/
theorem settle_instant (hverify : ∀ clientId token, check ≠ .verify clientId token) (now' : ℤ) :
    check.settle env db ord now' type = check.settle env db ord now type := by
  cases check with
  | verify clientId token => exact absurd rfl (hverify clientId token)
  | _ => rfl

theorem answer_ne_verify (ha : check.answer env db ord now type a = some check')
    (clientId token : String) : check' ≠ .verify clientId token := by
  rintro rfl
  unfold TokenCheck.answer at ha
  split at ha
  · cases ha
  · cases ha
  · split at ha <;> cases ha
  · split at ha <;> cases ha
  · cases hget : ‹Option (List ℕ)› <;> simp [hget, listed] at ha
  · cases hsend : ‹Option (List ℕ)› <;> simp [hsend, listed] at ha
  · cases ha

theorem answer_rejects {f : Failure}
    (ha : check.answer env db ord now type (.rejects f) = some check') :
    check' = .done (.error (type.authFailure f)) := by
  unfold TokenCheck.answer at ha
  split at ha <;> simp_all

/-- If a check ends well, then `validateToken` says the same at some instant. -/
def Agrees (env : AuthEnv) (db : Database) (ord : RowOrder) (type : TypeEnduser) (token : String)
    (clientId : Option String) (check : TokenCheck) : Prop :=
  ∀ now' result, check.settle env db ord now' type = .ok result →
    ∃ now, validateToken env db ord now token type clientId = .ok result

theorem begin_agrees (env : AuthEnv) (db : Database) (ord : RowOrder) (now : ℤ)
    (type : TypeEnduser) (token : String) (clientId : Option String) :
    (TokenCheck.begin env now token type clientId).Agrees env db ord type token clientId := by
  intro now' result hsettle
  cases hbegin : TokenCheck.begin env now token type clientId with
  | verify c t =>
    -- the token of a desktop is not verified yet
    have hissues : (TokenCheck.begin env now token type clientId).Issues type := begin_issues
    rw [hbegin] at hissues
    obtain rfl : type = .desktop := hissues
    refine ⟨now', ?_⟩
    rw [← settle_begin]
    exact hsettle
  | _ =>
    refine ⟨now, ?_⟩
    rw [← settle_begin, ← hsettle]
    exact (settle_instant (by rw [hbegin]; rintro _ _ ⟨⟩) now').symm

/-- Tables that stay keep it so. -/
theorem Agrees.answer (h : check.Agrees env db ord type token clientId)
    (ha : check.answer env db ord now type a = some check') :
    check'.Agrees env db ord type token clientId := by
  intro now' result hsettle
  by_cases hrejects : ∃ f, a = .rejects f
  · obtain ⟨f, rfl⟩ := hrejects
    rw [answer_rejects ha] at hsettle
    cases hsettle
  · refine h now result ?_
    rw [← settle_answer ha fun f hf => hrejects ⟨f, hf⟩,
      ← settle_instant (answer_ne_verify ha) now']
    exact hsettle

end TokenCheck

end

end GatewayRealtime
