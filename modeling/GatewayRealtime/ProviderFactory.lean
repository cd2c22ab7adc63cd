/-
  The providers of a tenant (`provider-factory.service.ts`, `email-provider.factory.ts`,
  `auth-provider.factory.ts`, `firebase.provider.ts`, `smtp.provider.ts`).

  * `SmtpEmailProvider`, `FirebaseProvider`: a provider, by what it was constructed with.
  * `ProviderEnv.smtpOptions` and `FirebaseApps.provider`: the constructions.  The applications of
    `firebase-admin` are one map by name for the whole process, which only `initializeApp` changes.
  * `ProviderCall`: where a call of `getProvider` stands.  A query and the code that goes on with
    its answer are two steps: between them anything else can run.
  * `ProviderEdge`: what a call can do, read off its code once (`providerRun_edge`).
  * `providerProgram`: calls of `getProvider` and `invalidate`, expiring timers, and changes of the
    configuration tables, on one event loop.

  `verifyIdToken` and `sendMail` use what the constructor was given and are left out.
-/
import GatewayRealtime.RefreshToken
import GatewayRealtime.Lib.OrderedMap

namespace GatewayRealtime

namespace ProviderFactory

/-! ## Configuration -/

/-- `ProviderFactoryLabelType`. -/
inductive ProviderLabel
  | email | auth
deriving DecidableEq, Repr

/-- The text of a label. -/
def ProviderLabel.text : ProviderLabel → String
  | email => "email"
  | auth => "auth"

/-- The encryption column of `smtp_config`. -/
inductive Encryption
  | ssl | tls | none
deriving DecidableEq, Repr

/-- A row of `smtp_config`. -/
structure SmtpConfigEntity where
  clientId : ℕ
  address : String
  smtpHost : String
  smtpPort : ℤ
  smtpUsername : String
  smtpPassword : String
  encryption : Encryption
deriving DecidableEq, Repr

/-- A row of `firebase_config`. -/
structure FirebaseConfigEntity where
  clientId : ℕ
  projectId : String
  privateKey : String
  clientEmail : String
deriving DecidableEq, Repr

/-- The two configuration tables. -/
structure ProviderConfig where
  smtp_config : List SmtpConfigEntity := []
  firebase_config : List FirebaseConfigEntity := []
deriving DecidableEq, Repr

/-- What the query of a factory finds. -/
inductive ConfigRow
  | smtp (config : Option SmtpConfigEntity)
  | firebase (config : Option FirebaseConfigEntity)
deriving DecidableEq, Repr

/-- `findOne({ where: { clientId } })` on the table of a type. -/
def ProviderConfig.findOne (config : ProviderConfig) (id : ℕ) : ProviderLabel → ConfigRow
  | .email => .smtp (config.smtp_config.find? (·.clientId = id))
  | .auth => .firebase (config.firebase_config.find? (·.clientId = id))

/-- The environment variables that the factories read. -/
structure ProviderEnv where
  DEFAULT_EMAIL_PROVIDER : Option String := none
  DEFAULT_AUTH_PROVIDER : Option String := none
  DEFAULT_MAIL_ADDRESS : Option String := none
  DEFAULT_MAIL_HOST : Option String := none
  DEFAULT_PORT_MAIL : Option String := none
  DEFAULT_MAIL_PASSWORD : Option String := none
  DEFAULT_MAIL_SECURE : Option String := none
deriving DecidableEq, Repr

/-! ## Providers -/

/-- A port: a number from the table, a text from the environment. -/
inductive MailPort
  | column (port : ℤ)
  | env (port : String)
deriving DecidableEq, Repr

/-- A `SmtpEmailProvider`: the options of its transport and `fromAddress`. -/
structure SmtpEmailProvider where
  host : String
  port : MailPort
  secure : Bool
  user : String
  pass : String
  fromAddress : String
deriving DecidableEq, Repr

/-- What `admin.credential.cert` is given. -/
structure FirebaseCredential where
  projectId : String
  clientEmail : String
  privateKey : String
deriving DecidableEq, Repr

/-- A `FirebaseProvider`: the name of its application, and the credential that the application was
    initialized with. -/
structure FirebaseProvider where
  app : String
  credential : FirebaseCredential
deriving DecidableEq, Repr

/-- `ProviderFactoryType`. -/
inductive ProviderInstance
  | email (provider : SmtpEmailProvider)
  | auth (provider : FirebaseProvider)
deriving DecidableEq, Repr

/-- A text that is there and not empty. -/
def truthy (s : Option String) : Option String := s.filter (· ≠ "")

/-- A port that is there and not zero. -/
def truthyPort (n : Option ℤ) : Option MailPort := (n.filter (· ≠ 0)).map .column

namespace ProviderEnv

variable (env : ProviderEnv)

/-- The provider that `EmailProviderFactory.create` constructs from a row, or from the
    environment where the row or one of its columns is missing.  It always says `secure`, so the
    constructor does not go by the port. -/
def smtpOptions (clientId : ℕ) (config : Option SmtpConfigEntity) :
    Except Failure SmtpEmailProvider :=
  let address := truthy (config.map (·.address)) <|> truthy env.DEFAULT_MAIL_ADDRESS
  let host := truthy (config.map (·.smtpHost)) <|> truthy env.DEFAULT_MAIL_HOST
  let port := truthyPort (config.map (·.smtpPort)) <|>
    (truthy env.DEFAULT_PORT_MAIL).map .env
  let user := truthy (config.map (·.smtpUsername)) <|> truthy env.DEFAULT_MAIL_ADDRESS
  let pass := truthy (config.map (·.smtpPassword)) <|> truthy env.DEFAULT_MAIL_PASSWORD
  let secure := decide (config.map (·.encryption) = some .ssl) ||
    decide (env.DEFAULT_MAIL_SECURE = some "true")
  match address, host, port, user, pass with
  | some address, some host, some port, some user, some pass =>
    .ok ⟨host, port, secure, user, pass, address⟩
  | _, _, _, _, _ =>
    .error (.internal (s!"SMTP configuration missing for client {clientId}" ++
      " and no default values available"))

end ProviderEnv

/-- `privateKey.replace(/\\n/g, '\n')`: a backslash and an `n` become a line break. -/
def unescape : List Char → List Char
  | '\\' :: 'n' :: l => '\n' :: unescape l
  | c :: l => c :: unescape l
  | [] => []

/-- The credential of a row. -/
def FirebaseConfigEntity.credential (config : FirebaseConfigEntity) : FirebaseCredential where
  projectId := config.projectId
  clientEmail := config.clientEmail
  privateKey := String.ofList (unescape config.privateKey.toList)

/-- The name of the application of a tenant. -/
def appName (clientId : ℕ) : String := s!"firebase-{clientId}"

/-- The applications of `firebase-admin`, by name. -/
abbrev FirebaseApps := OMap String FirebaseCredential

/-- The constructor of `FirebaseProvider`: an application of that name is used as it is.
    `cert` says for which credentials `admin.credential.cert` throws. -/
def FirebaseApps.provider (cert : FirebaseCredential → Option Failure) (apps : FirebaseApps)
    (clientId : ℕ) (config : FirebaseConfigEntity) :
    FirebaseApps × Except Failure FirebaseProvider :=
  match apps.get? (appName clientId) with
  | some existingApp => (apps, .ok ⟨appName clientId, existingApp⟩)
  | none =>
    match cert config.credential with
    | some f => (apps, .error f)
    | none =>
      (apps.set (appName clientId) config.credential, .ok ⟨appName clientId, config.credential⟩)

/-- The code of `create` after its query. -/
def create (env : ProviderEnv) (cert : FirebaseCredential → Option Failure) (apps : FirebaseApps)
    (clientId : ℕ) : ConfigRow → FirebaseApps × Except Failure ProviderInstance
  | .smtp config => (apps, (env.smtpOptions clientId config).map .email)
  | .firebase none => (apps, .error (.internal s!"Firebase config not found for client {clientId}"))
  | .firebase (some config) =>
    let r := FirebaseApps.provider cert apps clientId config
    (r.1, r.2.map .auth)

/-! ## The cache -/

/-- The arguments of `getProvider` and of `invalidate`. -/
structure ProviderRequest where
  type : ProviderLabel
  clientId : String
  provider : Option String := none
deriving DecidableEq, Repr

/-- The key of the cache. -/
def ProviderRequest.key (r : ProviderRequest) : String :=
  r.clientId ++ ":" ++ r.type.text ++ ":" ++ orString r.provider "default"

/-- `providerType` in the `create` of the two factories. -/
def ProviderEnv.providerType (env : ProviderEnv) (r : ProviderRequest) : String :=
  match r.type with
  | .email => orString r.provider (orString env.DEFAULT_EMAIL_PROVIDER "smtp")
  | .auth => orString r.provider (orString env.DEFAULT_AUTH_PROVIDER "firebase")

/-- The only case of the `switch` of a factory. -/
def ProviderLabel.implemented : ProviderLabel → String
  | email => "smtp"
  | auth => "firebase"

/-- `CProviderFactory`. -/
structure CProviderFactory where
  instance_ : ProviderInstance
  timer : ℕ
deriving DecidableEq, Repr

/-- The tables, the cache of the factory, the pending timers with the key that each removes, and
    the applications. -/
structure ProviderState where
  config : ProviderConfig
  cache : OMap String CProviderFactory := .empty
  timers : OMap ℕ String := .empty
  nextTimer : ℕ := 0
  apps : FirebaseApps := OMap.empty
deriving DecidableEq

namespace ProviderState

variable (s : ProviderState)

/-- `clearTimeout`. -/
def clearTimeout (timer : ℕ) : ProviderState := { s with timers := s.timers.delete timer }

/-- `setTimeout(() => this.removeFromCache(key), this.TTL)`, kept in the entry of `key`, which is
    written with `inst`. -/
def install (key : String) (inst : ProviderInstance) : ProviderState :=
  { s with
    cache := s.cache.set key ⟨inst, s.nextTimer⟩
    timers := s.timers.set s.nextTimer key
    nextTimer := s.nextTimer + 1 }

/-- `removeFromCache`. -/
def removeFromCache (key : String) : ProviderState :=
  match s.cache.get? key with
  | some entry => { s.clearTimeout entry.timer with cache := s.cache.delete key }
  | none => s

@[simp] theorem clearTimeout_config (timer : ℕ) : (s.clearTimeout timer).config = s.config := rfl

@[simp] theorem removeFromCache_config (key : String) :
    (s.removeFromCache key).config = s.config := by
  unfold removeFromCache
  split <;> rfl

@[simp] theorem removeFromCache_apps (key : String) :
    (s.removeFromCache key).apps = s.apps := by
  unfold removeFromCache
  split <;> rfl

theorem get?_install (key key' : String) (inst : ProviderInstance) :
    (s.install key inst).cache.get? key' =
      if key' = key then some ⟨inst, s.nextTimer⟩ else s.cache.get? key' := by
  simp [install]

@[simp] theorem get?_removeFromCache (key key' : String) :
    (s.removeFromCache key).cache.get? key' = if key' = key then none else s.cache.get? key' := by
  unfold removeFromCache
  split
  · simp
  · rename_i hnone
    split_ifs with hkey
    · rw [hkey, hnone]
    · rfl

/-- What is left in the cache was there before. -/
theorem cached_of_removeFromCache {key key' : String} {entry : CProviderFactory}
    (h : (s.removeFromCache key).cache.get? key' = some entry) :
    s.cache.get? key' = some entry := by
  rw [get?_removeFromCache] at h
  split_ifs at h
  exact h

end ProviderState

/-- Where a call of `getProvider` stands. -/
inductive ProviderCall
  /-- the query of `findByClientId` is under way -/
  | findClient (r : ProviderRequest)
  /-- it is answered -/
  | clientFound (r : ProviderRequest) (client : Except Failure (Option ClientEntity))
  /-- the query of `create` is under way -/
  | findConfig (r : ProviderRequest) (id : ℕ)
  /-- it is answered -/
  | configFound (r : ProviderRequest) (id : ℕ) (row : Except Failure ConfigRow)
  /-- `create` is over -/
  | created (r : ProviderRequest) (providerInstance : Except Failure ProviderInstance)
  | done (r : ProviderRequest) (result : Except Failure ProviderInstance)
deriving DecidableEq

/-- What happens outside the calls in progress. -/
inductive ProviderEvent
  | getProvider (r : ProviderRequest)
  | invalidate (r : ProviderRequest)
  /-- a pending timer expires -/
  | timeout (timer : ℕ)
  /-- somebody writes the configuration tables -/
  | configure (config : ProviderConfig)
deriving DecidableEq

/-- `getProvider` up to its first `await`. -/
def getProvider (s : ProviderState) (r : ProviderRequest) : ProviderState × ProviderCall :=
  match s.cache.get? r.key with
  | some cached =>
    ((s.clearTimeout cached.timer).install r.key cached.instance_, .done r (.ok cached.instance_))
  | none => (s, .findClient r)

section
variable (env : ProviderEnv) (db : Database) (cert : FirebaseCredential → Option Failure)

/-- What `create` goes on with: a rejected query is swallowed by the factory of e-mail providers,
    and passed on by the other one. -/
def rowOf (type : ProviderLabel) : Except Failure ConfigRow → Except Failure ConfigRow
  | .ok row => .ok row
  | .error f =>
    match type with
    | .email => .ok (.smtp none)
    | .auth => .error f

/-- A call goes on.  `rejects` is for its query, when it has one. -/
def providerRun (s : ProviderState) (rejects : Option Failure) :
    ProviderCall → ProviderState × ProviderCall
  | .findClient r =>
    match rejects with
    | some f => (s, .clientFound r (.error f))
    | none => (s, .clientFound r (.ok (db.findByClientId r.clientId)))
  | .clientFound r (.error f) => (s, .done r (.error f))
  | .clientFound r (.ok none) =>
    (s, .done r (.error (.internal s!"Client ID not found: {r.clientId}")))
  | .clientFound r (.ok (some client)) =>
    if env.providerType r = r.type.implemented then (s, .findConfig r client.id)
    else (s, .created r (.error (.internal
      s!"Unsupported {r.type.text} provider: {env.providerType r}")))
  | .findConfig r id =>
    match rejects with
    | some f => (s, .configFound r id (.error f))
    | none => (s, .configFound r id (.ok (s.config.findOne id r.type)))
  | .configFound r id row =>
    match rowOf r.type row with
    | .error f => (s, .created r (.error f))
    | .ok row =>
      ({ s with apps := (create env cert s.apps id row).1 },
        .created r (create env cert s.apps id row).2)
  | .created r (.error f) => (s, .done r (.error f))
  | .created r (.ok providerInstance) =>
    (s.install r.key providerInstance, .done r (.ok providerInstance))
  | .done r result => (s, .done r result)

/-- A call that has not returned can go on. -/
def ProviderCall.running : ProviderCall → Bool
  | .done .. => false
  | _ => true

/-- The provider factory on one event loop. -/
def providerProgram : Program ProviderState ProviderCall ProviderEvent (Option Failure) where
  event s
    | .getProvider r => some ((getProvider s r).1, [(getProvider s r).2])
    | .invalidate r => some (s.removeFromCache r.key, [])
    | .timeout timer =>
      (s.timers.get? timer).map fun key => ((s.clearTimeout timer).removeFromCache key, [])
    | .configure config => some ({ s with config := config }, [])
  resume s call rejects :=
    if call.running then
      some ((providerRun env db cert s rejects call).1,
        (providerRun env db cert s rejects call).2, [])
    else none

end

/-- The process has just started. -/
def ProviderPool.init (config : ProviderConfig) : Pool ProviderState ProviderCall :=
  ⟨{ config := config }, []⟩

/-! ## What a call can do -/

/-- The control flow of a call: from where it stands, the state after its next stretch and where it
    stands then. -/
inductive ProviderEdge (env : ProviderEnv) (db : Database)
    (cert : FirebaseCredential → Option Failure) (s : ProviderState) (rejects : Option Failure) :
    ProviderCall → ProviderState → ProviderCall → Prop
  | answered {r client} : (∀ c, client = .ok (some c) → db.findByClientId r.clientId = some c) →
      ProviderEdge env db cert s rejects (.findClient r) s (.clientFound r client)
  | unknown {r client f} :
      ProviderEdge env db cert s rejects (.clientFound r client) s (.done r (.error f))
  | unsupported {r client f} :
      ProviderEdge env db cert s rejects (.clientFound r client) s (.created r (.error f))
  | supported {r client} : env.providerType r = r.type.implemented →
      ProviderEdge env db cert s rejects (.clientFound r (.ok (some client))) s
        (.findConfig r client.id)
  | read {r id} : ProviderEdge env db cert s rejects (.findConfig r id) s
      (.configFound r id (.ok (s.config.findOne id r.type)))
  | rejected {r id f} : rejects = some f →
      ProviderEdge env db cert s rejects (.findConfig r id) s (.configFound r id (.error f))
  | passOn {r id row f} :
      ProviderEdge env db cert s rejects (.configFound r id row) s (.created r (.error f))
  | construct {r id row row'} : rowOf r.type row = .ok row' →
      ProviderEdge env db cert s rejects (.configFound r id row)
        { s with apps := (create env cert s.apps id row').1 }
        (.created r (create env cert s.apps id row').2)
  | fail {r f} :
      ProviderEdge env db cert s rejects (.created r (.error f)) s (.done r (.error f))
  | install {r inst} : ProviderEdge env db cert s rejects (.created r (.ok inst))
      (s.install r.key inst) (.done r (.ok inst))
  | stay {r result} : ProviderEdge env db cert s rejects (.done r result) s (.done r result)

theorem providerRun_edge (env : ProviderEnv) (db : Database)
    (cert : FirebaseCredential → Option Failure) (s : ProviderState) (rejects : Option Failure)
    (call : ProviderCall) :
    ProviderEdge env db cert s rejects call (providerRun env db cert s rejects call).1
      (providerRun env db cert s rejects call).2 := by
  cases call with
  | findClient r =>
    cases rejects with
    | none => exact .answered fun c hc => Except.ok.inj hc
    | some f => exact .answered fun c hc => by cases hc
  | clientFound r client =>
    rcases client with f | client
    · exact .unknown
    · cases client with
      | none => exact .unknown
      | some client =>
        dsimp only [providerRun]
        split_ifs with himplemented
        · exact .supported himplemented
        · exact .unsupported
  | findConfig r id =>
    cases rejects with
    | none => exact .read
    | some f => exact .rejected rfl
  | configFound r id row =>
    dsimp only [providerRun]
    split
    · exact .passOn
    · rename_i row' hrow
      exact .construct hrow
  | created r result =>
    cases result with
    | error f => exact .fail
    | ok inst => exact .install
  | done r result => exact .stay

end ProviderFactory

end GatewayRealtime
