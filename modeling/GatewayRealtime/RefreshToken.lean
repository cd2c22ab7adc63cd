/-
  Login, refresh and logout (`auth.service.ts`, `refresh-token.service.ts`,
  `client.service.ts`), repository call by repository call.

  * `AuthCall`: where a call stands, named by the repository call it makes next.
  * `authStep`: that repository call and the code up to the next one.
  * `authProgram`: any number of calls on one event loop; any of them may take the next step.
  * `refresh_redeems_once`: a refresh token is redeemed at most once, in every run in which no
    refresh finds a token live while another one sits between finding it and revoking it.
  * `one_live_token`: at most one token of a client is live, in every run in which no call
    revokes the tokens of a client while another one is about to save a token for it.
-/
import GatewayRealtime.Database
import GatewayRealtime.Lib.Double
import GatewayRealtime.Lib.EventLoop
import GatewayRealtime.Lib.ParseInt

namespace GatewayRealtime

/-! ## Data -/

/-- `GenerateTokenDto`. -/
structure GenerateTokenDto where
  role : String
  client_id : String
  secret_key : String
  access_token_expired : Option String := none
deriving DecidableEq, Repr

/-- An access token: what `jwtService.sign` signs. -/
structure AccessToken where
  client_id : String
  role : String
  expiresIn : String
deriving DecidableEq, Repr

/-- What the endpoints answer. -/
inductive AuthReply
  | login (accessToken : AccessToken) (refreshToken : String) (accessTokenExpiry : Option ℤ)
  | refresh (presented : String) (accessToken : AccessToken) (refreshToken : String)
  | revoked
deriving DecidableEq, Repr

/-- The configuration that login and refresh read.  `expiresAt now` is `now` plus
    `REFRESH_TOKEN_EXPIRY_DAYS` calendar days. -/
structure AuthConfig where
  ACCESS_TOKEN_EXPIRY : Option String := none
  expiresAt : ℤ → ℤ := fun now => now + 7 * 86400000

/-- `a || b` on strings. -/
def orString (a : Option String) (b : String) : String :=
  match a with
  | some s => if s = "" then b else s
  | none => b

/-- `AuthService.parseExpiry`, in the numbers of the language.  None of them overflows, since
    `sign` takes no time span of more than 100 characters. -/
def parseExpiry (exp : String) : Option ℤ :=
  match exp.toList.getLast? with
  | some 'm' => (parseInt exp).map fun n => Double.roundInt (Double.roundInt n * 60)
  | some 'h' => (parseInt exp).map fun n => Double.roundInt (Double.roundInt n * 3600)
  | _ => (parseInt exp).map Double.roundInt

/-- The call of `RefreshTokenService.create`: what it returns to. -/
inductive CreateFor
  | login (accessToken : AccessToken) (accessTokenExpiry : Option ℤ)
  | refresh (presented clientId : String)
deriving DecidableEq, Repr

/-- Where a call stands: the repository call it makes next. -/
inductive AuthCall
  /-- `exists`: the client -/
  | existsClient (dto : GenerateTokenDto)
  /-- `exists`: its newest secret -/
  | existsSecret (dto : GenerateTokenDto) (client : ClientEntity)
  /-- `exists`: its roles -/
  | existsRoles (dto : GenerateTokenDto) (client : ClientEntity)
  /-- `getRoles`, for the answer to an invalid role -/
  | getRoles (client : ClientEntity)
  /-- `findOne` in `validate` -/
  | validate (token : String)
  /-- `update` in `revoke`, of a refresh -/
  | revoke (token clientId role : String)
  /-- `findByClientId` in `create` -/
  | createFind (k : CreateFor) (clientId role : String)
  /-- `update` in `create` -/
  | createRevokeAll (k : CreateFor) (client : ClientEntity) (role : String)
  /-- `save` in `create` -/
  | createSave (k : CreateFor) (client : ClientEntity) (role : String)
  /-- `update` in `revoke`, of a logout -/
  | logout (token : String)
  /-- `findByClientId` in `revokeAllForClient` -/
  | revokeAllFind (clientId : String)
  /-- `update` in `revokeAllForClient` -/
  | revokeAllUpdate (client : ClientEntity)
  | done (result : Except Failure AuthReply)
deriving DecidableEq

/-- What is not determined by the tables when a call goes on: whether the repository call
    rejects, the clock, the uuid drawn, and whether signing throws. -/
structure AuthAnswer where
  rejects : Option Failure := none
  now : ℤ := 0
  uuid : String := ""
  signFails : Option Failure := none
deriving DecidableEq

/-! ## The repository calls -/

namespace Database

variable (db : Database)

/-- `clientRepo.findOne({ where: { client_id, status: ACTIVE } })`. -/
def findActiveClient (clientId : String) : Option ClientEntity :=
  db.client.find? fun c => c.client_id = clientId ∧ c.status = .ACTIVE

/-- `findByClientId`. -/
def findByClientId (clientId : String) : Option ClientEntity :=
  db.client.find? fun c => c.client_id = clientId

/-- The later of two secrets. -/
def newerSecret (newest : Option SecretEntity) (s : SecretEntity) : Option SecretEntity :=
  match newest with
  | some t => if t.id < s.id then some s else some t
  | none => some s

/-- `secretRepo.findOne({ where: { id_client }, order: { id: 'DESC' } })`. -/
def newestSecret (client : ClientEntity) : Option SecretEntity :=
  (db.secret.filter (·.id_client = client.id)).foldl newerSecret none

/-- `roleRepo.find({ where: { id_client } })`. -/
def rolesOf (client : ClientEntity) : List RoleTransaksiEntity :=
  db.role_transaksi.filter (·.id_client = client.id)

/-- `repo.findOne({ where: { token, revoked: false, expiresAt: MoreThan(now) } })`. -/
def findLiveToken (token : String) (now : ℤ) : Option RefreshTokenEntity :=
  db.refresh_tokens.find? fun r => r.token = token ∧ r.revoked = false ∧ now < r.expiresAt

/-- `repo.update(…, { revoked: true })` on the rows that match. -/
def revokeWhere (p : RefreshTokenEntity → Bool) : Database :=
  { db with
    refresh_tokens := db.refresh_tokens.map fun r => if p r then { r with revoked := true } else r }

/-- `repo.update({ token }, { revoked: true })`. -/
def revokeToken (token : String) : Database := db.revokeWhere fun r => r.token = token

/-- `repo.update({ client, revoked: false }, { revoked: true })`. -/
def revokeAll (client : ClientEntity) : Database :=
  db.revokeWhere fun r => r.client = client.id ∧ r.revoked = false

/-- `repo.save(row)`. -/
def saveToken (row : RefreshTokenEntity) : Database :=
  { db with refresh_tokens := db.refresh_tokens ++ [row] }

end Database

/-- `AuthService.login` after `exists` and before `create`. -/
def signLogin (cfg : AuthConfig) (dto : GenerateTokenDto) (a : AuthAnswer) : AuthCall :=
  let accessTokenExpiry :=
    orString dto.access_token_expired (orString cfg.ACCESS_TOKEN_EXPIRY "15m")
  match a.signFails with
  | some f => .done (.error f)
  | none =>
    .createFind
      (.login ⟨dto.client_id, dto.role, accessTokenExpiry⟩ (parseExpiry accessTokenExpiry))
      dto.client_id dto.role

/-- What the caller of `create` does with the new refresh token. -/
def afterCreate (k : CreateFor) (role token : String) (a : AuthAnswer) : Except Failure AuthReply :=
  match k with
  | .login accessToken accessTokenExpiry => .ok (.login accessToken token accessTokenExpiry)
  | .refresh presented clientId =>
    match a.signFails with
    | some f => .error f
    | none => .ok (.refresh presented ⟨clientId, role, "15m"⟩ token)

/-- The repository call that `call` makes next, and the code after it up to the next one. -/
def authRun (cfg : AuthConfig) (db : Database) (a : AuthAnswer) : AuthCall → Database × AuthCall
  | .existsClient dto =>
    match db.findActiveClient dto.client_id with
    | none => (db, .done (.error (.http "Client ID not found")))
    | some client => (db, .existsSecret dto client)
  | .existsSecret dto client =>
    match db.newestSecret client with
    | none => (db, .done (.error (.http "Invalid secret key")))
    | some secret =>
      if secret.key_service ≠ dto.secret_key then
        (db, .done (.error (.http "Invalid secret key")))
      else (db, .existsRoles dto client)
  | .existsRoles dto client =>
    if (db.rolesOf client).any (·.label_role = dto.role) then (db, signLogin cfg dto a)
    else (db, .getRoles client)
  | .getRoles _ => (db, .done (.error (.http "Role tidak valid")))
  | .validate token =>
    match db.findLiveToken token a.now with
    | none => (db, .done (.error (.http "Invalid or expired refresh token")))
    | some record =>
      match db.client.find? (·.id = record.client) with
      | none => (db, .done (.error (typeError "client_id")))
      | some client => (db, .revoke token client.client_id record.role)
  | .revoke token clientId role =>
    (db.revokeToken token, .createFind (.refresh token clientId) clientId role)
  | .createFind k clientId role =>
    match db.findByClientId clientId with
    | none => (db, .done (.error (.http "Client ID not found")))
    | some client => (db, .createRevokeAll k client role)
  | .createRevokeAll k client role => (db.revokeAll client, .createSave k client role)
  | .createSave k client role =>
    (db.saveToken ⟨a.uuid, client.id, role, cfg.expiresAt a.now, false⟩,
      .done (afterCreate k role a.uuid a))
  | .logout token => (db.revokeToken token, .done (.ok .revoked))
  | .revokeAllFind clientId =>
    match db.findByClientId clientId with
    | none => (db, .done (.ok .revoked))
    | some client => (db, .revokeAllUpdate client)
  | .revokeAllUpdate client => (db.revokeAll client, .done (.ok .revoked))
  | .done result => (db, .done result)

/-- A call that goes on with an answer: a rejected repository call changes nothing and makes the
    whole call reject. -/
def authStep (cfg : AuthConfig) (db : Database) (a : AuthAnswer) (call : AuthCall) :
    Database × AuthCall :=
  match a.rejects with
  | some f => (db, .done (.error f))
  | none => authRun cfg db a call

/-! ## Concurrent calls -/

/-- What starts a call, or changes another table. -/
inductive AuthRequest
  | login (dto : GenerateTokenDto)
  | refresh (token : String)
  | logout (token : String)
  | revokeAllForClient (clientId : String)
  /-- an administrator rewrites the other tables -/
  | administer (db : Database)

/-- A call can go on: it is not done, and a uuid that it draws is new. -/
def AuthCall.enabled (db : Database) (a : AuthAnswer) : AuthCall → Bool
  | .done _ => false
  | .createSave .. => decide (∀ r ∈ db.refresh_tokens, r.token ≠ a.uuid)
  | _ => true

/-- The calls of `AuthController` and `RefreshTokenService` on one event loop. -/
def authProgram (cfg : AuthConfig) : Program Database AuthCall AuthRequest AuthAnswer where
  event db
    | .login dto => some (db, [.existsClient dto])
    | .refresh token => some (db, [.validate token])
    | .logout token => some (db, [.logout token])
    | .revokeAllForClient clientId => some (db, [.revokeAllFind clientId])
    | .administer tables => some ({ tables with refresh_tokens := db.refresh_tokens }, [])
  resume db call a :=
    if call.enabled db a then some ((authStep cfg db a call).1, (authStep cfg db a call).2, [])
    else none

/-- No call in progress. -/
def AuthPool.init (db : Database) : Pool Database AuthCall := ⟨db, []⟩

/-! ## What one repository call can do -/

/-- The control flow of the calls: from a call, the tables after its repository call and where
    it stands then. -/
inductive AuthEdge (cfg : AuthConfig) (db : Database) (a : AuthAnswer) :
    AuthCall → Database → AuthCall → Prop
  | fail {call f} : AuthEdge cfg db a call db (.done (.error f))
  | stay {r} : AuthEdge cfg db a (.done r) db (.done r)
  | secret {dto client} : AuthEdge cfg db a (.existsClient dto) db (.existsSecret dto client)
  | roles {dto client} : AuthEdge cfg db a (.existsSecret dto client) db (.existsRoles dto client)
  | badRole {dto client} : AuthEdge cfg db a (.existsRoles dto client) db (.getRoles client)
  | login {dto client accessToken expiry clientId role} : AuthEdge cfg db a
      (.existsRoles dto client) db (.createFind (.login accessToken expiry) clientId role)
  | found {t clientId role} : (db.findLiveToken t a.now).isSome = true → a.rejects = none →
      AuthEdge cfg db a (.validate t) db (.revoke t clientId role)
  | revoke {t clientId role} : AuthEdge cfg db a (.revoke t clientId role) (db.revokeToken t)
      (.createFind (.refresh t clientId) clientId role)
  | create {k clientId client role} : AuthEdge cfg db a (.createFind k clientId role) db
      (.createRevokeAll k client role)
  | revokeAll {k client role} : a.rejects = none → AuthEdge cfg db a
      (.createRevokeAll k client role) (db.revokeAll client) (.createSave k client role)
  | save {k client role} : AuthEdge cfg db a (.createSave k client role)
      (db.saveToken ⟨a.uuid, client.id, role, cfg.expiresAt a.now, false⟩)
      (.done (afterCreate k role a.uuid a))
  | logout {t} : AuthEdge cfg db a (.logout t) (db.revokeToken t) (.done (.ok .revoked))
  | noClient {clientId} : AuthEdge cfg db a (.revokeAllFind clientId) db (.done (.ok .revoked))
  | revokeAllFind {clientId client} : AuthEdge cfg db a (.revokeAllFind clientId) db
      (.revokeAllUpdate client)
  | revokeAllUpdate {client} : AuthEdge cfg db a (.revokeAllUpdate client) (db.revokeAll client)
      (.done (.ok .revoked))

theorem authStep_edge (cfg : AuthConfig) (db : Database) (a : AuthAnswer) (call : AuthCall) :
    AuthEdge cfg db a call (authStep cfg db a call).1 (authStep cfg db a call).2 := by
  unfold authStep
  cases hrej : a.rejects with
  | some f => exact .fail
  | none =>
    cases call with
    | existsClient dto =>
      dsimp only [authRun]
      split
      · exact .fail
      · exact .secret
    | existsSecret dto client =>
      dsimp only [authRun]
      split
      · exact .fail
      · split_ifs
        · exact .fail
        · exact .roles
    | existsRoles dto client =>
      dsimp only [authRun, signLogin]
      split_ifs
      · split
        · exact .fail
        · exact .login
      · exact .badRole
    | getRoles client => exact .fail
    | validate t =>
      dsimp only [authRun]
      split
      · exact .fail
      · rename_i record hrecord
        split
        · exact .fail
        · exact .found (by rw [hrecord]; rfl) hrej
    | revoke t clientId role => exact .revoke
    | createFind k clientId role =>
      dsimp only [authRun]
      split
      · exact .fail
      · exact .create
    | createRevokeAll k client role => exact .revokeAll hrej
    | createSave k client role => exact .save
    | logout t => exact .logout
    | revokeAllFind clientId =>
      dsimp only [authRun]
      split
      · exact .noClient
      · exact .revokeAllFind
    | revokeAllUpdate client => exact .revokeAllUpdate
    | done r => exact .stay

/-! ## One redemption per token -/

namespace AuthCall

/-- A refresh that has found `t` live and has not revoked it yet. -/
def revoking (t : String) : AuthCall → Bool
  | .revoke t' _ _ => t' = t
  | _ => false

/-- A refresh that has revoked `t` and has not failed. -/
def spent (t : String) : AuthCall → Bool
  | .createFind (.refresh t' _) _ _ => t' = t
  | .createRevokeAll (.refresh t' _) _ _ => t' = t
  | .createSave (.refresh t' _) _ _ => t' = t
  | .done (.ok (.refresh t' _ _)) => t' = t
  | _ => false

/-- A refresh of `t` that has succeeded. -/
def redeemed (t : String) : AuthCall → Bool
  | .done (.ok (.refresh t' _ _)) => t' = t
  | _ => false

theorem spent_of_redeemed {t : String} : ∀ {call : AuthCall}, call.redeemed t = true →
    call.spent t = true
  | .done (.ok (.refresh _ _ _)), h => h

end AuthCall

section
variable {cfg : AuthConfig} {db : Database} {a : AuthAnswer} {call : AuthCall} {t : String}

/-- There is a row for the token. -/
def HasToken (db : Database) (t : String) : Prop := ∃ r ∈ db.refresh_tokens, r.token = t

/-- Every row of the token is revoked. -/
def RowsRevoked (db : Database) (t : String) : Prop :=
  ∀ r ∈ db.refresh_tokens, r.token = t → r.revoked = true

theorem findLiveToken_some {now : ℤ} (h : (db.findLiveToken t now).isSome = true) :
    HasToken db t ∧ ¬ RowsRevoked db t := by
  obtain ⟨r, hr⟩ := Option.isSome_iff_exists.1 h
  have hp := List.find?_some hr
  simp only [decide_eq_true_eq] at hp
  have hmem := List.mem_of_find?_eq_some hr
  refine ⟨⟨r, hmem, hp.1⟩, fun hall => ?_⟩
  rw [hall r hmem hp.1] at hp
  exact absurd hp.2.1 (by decide)

theorem mem_revokeWhere {p : RefreshTokenEntity → Bool} {r : RefreshTokenEntity} :
    r ∈ (db.revokeWhere p).refresh_tokens ↔
      ∃ r₀ ∈ db.refresh_tokens, r = if p r₀ then { r₀ with revoked := true } else r₀ := by
  simp only [Database.revokeWhere, List.mem_map, eq_comm]

/-- Revoking rows keeps the tokens. -/
theorem HasToken.revokeWhere (h : HasToken db t) (p : RefreshTokenEntity → Bool) :
    HasToken (db.revokeWhere p) t := by
  obtain ⟨r, hr, ht⟩ := h
  refine ⟨_, mem_revokeWhere.2 ⟨r, hr, rfl⟩, ?_⟩
  split_ifs <;> exact ht

/-- Revoking rows keeps what is revoked. -/
theorem RowsRevoked.revokeWhere (h : RowsRevoked db t) (p : RefreshTokenEntity → Bool) :
    RowsRevoked (db.revokeWhere p) t := by
  intro r hr ht
  obtain ⟨r₀, hr₀, rfl⟩ := mem_revokeWhere.1 hr
  split_ifs at ht ⊢ with hp
  · rfl
  · exact h r₀ hr₀ ht

theorem rowsRevoked_revokeToken : RowsRevoked (db.revokeToken t) t := by
  intro r hr ht
  obtain ⟨r₀, hr₀, rfl⟩ := mem_revokeWhere.1 hr
  by_cases hp : r₀.token = t
  · simp [hp]
  · simp [hp] at ht

/-! ### What one repository call does to a token -/

section
variable {db' : Database} {call' : AuthCall}

/-- The tables after a repository call: some rows revoked, or one row with a new token saved. -/
theorem AuthEdge.tables (h : AuthEdge cfg db a call db' call')
    (henabled : call.enabled db a = true) :
    db' = db ∨ (∃ p, db' = db.revokeWhere p) ∨
    ∃ row, (∀ r ∈ db.refresh_tokens, r.token ≠ row.token) ∧ db' = db.saveToken row := by
  cases h with
  | revoke => exact Or.inr (Or.inl ⟨_, rfl⟩)
  | revokeAll => exact Or.inr (Or.inl ⟨_, rfl⟩)
  | logout => exact Or.inr (Or.inl ⟨_, rfl⟩)
  | revokeAllUpdate => exact Or.inr (Or.inl ⟨_, rfl⟩)
  | save => exact Or.inr (Or.inr ⟨_, by simpa [AuthCall.enabled] using henabled, rfl⟩)
  | _ => exact Or.inl rfl

/-- A token that is there stays there. -/
theorem AuthEdge.hasToken (h : AuthEdge cfg db a call db' call')
    (henabled : call.enabled db a = true) (hhas : HasToken db t) : HasToken db' t := by
  obtain rfl | ⟨p, rfl⟩ | ⟨row, -, rfl⟩ := h.tables henabled
  · exact hhas
  · exact hhas.revokeWhere p
  · obtain ⟨r, hr, ht⟩ := hhas
    exact ⟨r, List.mem_append_left _ hr, ht⟩

/-- A token that is there and revoked stays revoked: a saved row has another token. -/
theorem AuthEdge.rowsRevoked (h : AuthEdge cfg db a call db' call')
    (henabled : call.enabled db a = true) (hhas : HasToken db t) (hrev : RowsRevoked db t) :
    RowsRevoked db' t := by
  obtain rfl | ⟨p, rfl⟩ | ⟨row, hnew, rfl⟩ := h.tables henabled
  · exact hrev
  · exact hrev.revokeWhere p
  · intro r hr ht
    rcases List.mem_append.1 hr with hr | hr
    · exact hrev r hr ht
    · obtain ⟨r₀, hr₀, ht₀⟩ := hhas
      rw [List.mem_singleton] at hr
      exact absurd (ht₀.trans (ht.symm.trans (by rw [hr]))) (hnew r₀ hr₀)

/-- A call comes to be revoking `t` only by finding it live. -/
theorem AuthEdge.revoking (h : AuthEdge cfg db a call db' call') (hc : call'.revoking t = true) :
    call = .validate t ∧ a.rejects = none ∧ (db.findLiveToken t a.now).isSome = true ∧
      db' = db := by
  cases h with
  | found hlive hrej =>
    obtain rfl : _ = t := by simpa [AuthCall.revoking] using hc
    exact ⟨rfl, hrej, hlive, rfl⟩
  | stay => simp [AuthCall.revoking] at hc
  | _ => simp [AuthCall.revoking] at hc

/-- A call comes to have spent `t` only by revoking it. -/
theorem AuthEdge.spent (h : AuthEdge cfg db a call db' call') (hc : call'.spent t = true) :
    call.spent t = true ∨ call.revoking t = true ∧ db' = db.revokeToken t := by
  cases h with
  | revoke =>
    obtain rfl : _ = t := by simpa [AuthCall.spent] using hc
    exact Or.inr ⟨by simp [AuthCall.revoking], rfl⟩
  | create => rename_i k _ _ _; refine Or.inl ?_; cases k <;> simp_all [AuthCall.spent]
  | revokeAll => rename_i k _ _ _; refine Or.inl ?_; cases k <;> simp_all [AuthCall.spent]
  | save =>
    rename_i k _ _
    cases k with
    | login => simp [AuthCall.spent, afterCreate] at hc
    | refresh t' clientId =>
      cases hs : a.signFails with
      | some f => simp [AuthCall.spent, afterCreate, hs] at hc
      | none => exact Or.inl (by simpa [AuthCall.spent, afterCreate, hs] using hc)
  | stay => exact Or.inl hc
  | _ => simp [AuthCall.spent] at hc

end

/-! ### Runs -/

variable {p p' : Pool Database AuthCall} {act : Act AuthRequest AuthAnswer}

/-- A call that has just been started: no token found, no row about to be saved. -/
def AuthCall.Fresh (call : AuthCall) : Prop :=
  (∀ t, call.revoking t = false ∧ call.spent t = false) ∧
    ∀ k client role, call ≠ .createSave k client role

/-- What a step of the calls can do: start some, or take one call along an edge. -/
theorem authProgram_cases (h : (authProgram cfg).step p act = some p') :
    (∃ e db new, act = .event e ∧ p' = ⟨db, p.threads ++ new⟩ ∧
      db.refresh_tokens = p.shared.refresh_tokens ∧ ∀ call ∈ new, call.Fresh) ∨
    ∃ i a call db' call', act = .resume i a ∧ p.threads[i]? = some call ∧
      call.enabled p.shared a = true ∧ AuthEdge cfg p.shared a call db' call' ∧
      p' = p.move db' i call' := by
  obtain ⟨e, s, new, rfl, he, rfl⟩ | ⟨i, a, call, s, call', new, rfl, hcall, hr, rfl⟩ :=
    Program.step_cases h
  · refine Or.inl ⟨e, s, new, rfl, rfl, ?_, ?_⟩
    · cases e <;> (cases he; rfl)
    · cases e <;> (cases he; simp [AuthCall.Fresh, AuthCall.revoking, AuthCall.spent])
  · simp only [authProgram] at hr
    split_ifs at hr with hen
    cases hr
    exact Or.inr ⟨i, a, call, _, _, rfl, hcall, hen, authStep_edge cfg p.shared a call,
      by simp [Pool.move]⟩

/-- A refresh of `t` that has found it live and has not failed since. -/
def AuthCall.engaged (t : String) (call : AuthCall) : Bool := call.revoking t || call.spent t

/-- At most one refresh of `t` is past finding it live; once one has revoked it, no row of `t`
    is live. -/
structure RedeemInv (t : String) (p : Pool Database AuthCall) : Prop where
  one : p.count (AuthCall.engaged t) ≤ 1
  known : ∀ call ∈ p.threads, call.engaged t = true → HasToken p.shared t
  dead : ∀ call ∈ p.threads, call.spent t = true → RowsRevoked p.shared t

/-- A refresh finds its token live only while no other refresh of the token is between finding
    it live and revoking it. -/
def redeemsAlone (p : Pool Database AuthCall) : Act AuthRequest AuthAnswer → Bool
  | .event _ => true
  | .resume i a =>
    match p.threads[i]? with
    | some (.validate t) =>
      a.rejects.isSome || (p.shared.findLiveToken t a.now).isNone ||
        p.count (AuthCall.revoking t) = 0
    | _ => true

/-- Starting calls keeps the invariant. -/
theorem RedeemInv.start (hp : RedeemInv t p) {db : Database} {new : List AuthCall}
    (hrows : db.refresh_tokens = p.shared.refresh_tokens) (hnew : ∀ call ∈ new, call.Fresh) :
    RedeemInv t ⟨db, p.threads ++ new⟩ := by
  have hidle : ∀ call ∈ new, call.engaged t = false := fun call hcall => by
    simp [AuthCall.engaged, ((hnew call hcall).1 t).1, ((hnew call hcall).1 t).2]
  refine ⟨(Pool.count_event _ p db hidle).trans_le hp.one, fun call hcall he => ?_,
    fun call hcall hs => ?_⟩
  · rcases List.mem_append.1 hcall with hcall | hcall
    · simpa only [HasToken, hrows] using hp.known call hcall he
    · simp [hidle call hcall] at he
  · rcases List.mem_append.1 hcall with hcall | hcall
    · simpa only [RowsRevoked, hrows] using hp.dead call hcall hs
    · simp [((hnew call hcall).1 t).2] at hs

/-- If `t` is live and no refresh is about to revoke it, no refresh of it is engaged. -/
theorem RedeemInv.idle (hp : RedeemInv t p) {now : ℤ}
    (hlive : (p.shared.findLiveToken t now).isSome = true)
    (hnone : p.count (AuthCall.revoking t) = 0) : p.count (AuthCall.engaged t) = 0 := by
  rw [Pool.count_eq_zero] at hnone ⊢
  intro call hcall
  by_contra he
  simp only [AuthCall.engaged, hnone call hcall, Bool.false_or, Bool.not_eq_false] at he
  exact (findLiveToken_some hlive).2 (hp.dead call hcall he)

/-- **One step of the calls** keeps the invariant, if a refresh that finds its token does so
    alone. -/
theorem RedeemInv.step (hp : RedeemInv t p) (hok : redeemsAlone p act = true)
    (h : (authProgram cfg).step p act = some p') : RedeemInv t p' := by
  obtain ⟨e, db, new, rfl, rfl, hrows, hnew⟩ | ⟨i, a, call, db', call', rfl, hcall, hen, hedge,
    rfl⟩ := authProgram_cases h
  · exact hp.start hrows hnew
  have hmem := List.mem_of_getElem? hcall
  have hspent : ∀ c ∈ (p.move db' i call').threads, c.spent t = true → RowsRevoked db' t := by
    intro c hc hs
    rcases Pool.mem_move hc with hc | rfl
    · exact hedge.rowsRevoked hen (hp.known c hc (by simp [AuthCall.engaged, hs]))
        (hp.dead c hc hs)
    · rcases hedge.spent hs with hs₀ | ⟨_, rfl⟩
      · exact hedge.rowsRevoked hen (hp.known call hmem (by simp [AuthCall.engaged, hs₀]))
          (hp.dead call hmem hs₀)
      · exact rowsRevoked_revokeToken
  by_cases henter : call'.engaged t = true → call.engaged t = true
  · refine ⟨(Pool.count_move_le _ db' hcall henter).trans hp.one, fun c hc he => ?_, hspent⟩
    rcases Pool.mem_move hc with hc | rfl
    · exact hedge.hasToken hen (hp.known c hc he)
    · exact hedge.hasToken hen (hp.known call hmem (henter he))
  · -- the call has just found `t` live
    simp only [AuthCall.engaged, Bool.or_eq_true, not_forall, not_or, exists_prop] at henter
    obtain ⟨hr | hs, hnr, hns⟩ := henter
    · obtain ⟨rfl, hrej, hlive, rfl⟩ := hedge.revoking hr
      have halone : p.count (AuthCall.revoking t) = 0 := by
        have hlive' : (p.shared.findLiveToken t a.now).isNone = false := by simpa using hlive
        simpa [redeemsAlone, hcall, hrej, hlive'] using hok
      have hidle := hp.idle hlive halone
      refine ⟨(Pool.count_move_le_succ _ _ _ hcall).trans (by rw [hidle]), fun _ _ _ => ?_, hspent⟩
      exact (findLiveToken_some hlive).1
    · rcases hedge.spent hs with hs₀ | ⟨hr₀, _⟩
      · exact absurd hs₀ hns
      · exact absurd hr₀ hnr

theorem RedeemInv.init (db : Database) (t : String) : RedeemInv t (AuthPool.init db) where
  one := by simp [AuthPool.init, Pool.count]
  known _ h := by cases h
  dead _ h := by cases h

/-- **A refresh token is redeemed at most once**, in every run of the calls in which no refresh
    finds a token live while another refresh of it is between finding it and revoking it. -/
theorem refresh_redeems_once (cfg : AuthConfig) (db : Database)
    {acts : List (Act AuthRequest AuthAnswer)} {p : Pool Database AuthCall}
    (hrun : Run (authProgram cfg).step (fun p act => redeemsAlone p act = true) (AuthPool.init db)
      acts p) (t : String) : p.count (AuthCall.redeemed t) ≤ 1 := by
  have hinv : RedeemInv t p :=
    hrun.inv (RedeemInv.init db t) fun _ _ _ hp hok hst => hp.step hok hst
  have hle : p.count (AuthCall.redeemed t) ≤ p.count (AuthCall.engaged t) :=
    List.countP_mono_left fun call _ h => by
      simp [AuthCall.engaged, AuthCall.spent_of_redeemed h]
  exact hle.trans hinv.one

end

/-- A tenant with one refresh token. -/
def oneToken : Database where
  client := [⟨1, "acme", .ACTIVE⟩]
  refresh_tokens := [⟨"r", 1, "admin", 1000, false⟩]

/-- Two refreshes, the second one started after the first one is done. -/
def refreshTwice : List (Act AuthRequest AuthAnswer) :=
  [.event (.refresh "r"), .resume 0 { now := 10 }, .resume 0 {}, .resume 0 {}, .resume 0 {},
    .resume 0 { uuid := "r1" }, .event (.refresh "r"), .resume 1 { now := 20 }]

theorem refresh_redeems_once_refreshTwice :
    ∃ p, exec (guarded (authProgram {}).step fun p act => redeemsAlone p act = true)
        (AuthPool.init oneToken) refreshTwice = some p ∧ p.count (AuthCall.redeemed "r") ≤ 1 := by
  have hsome : (exec (guarded (authProgram {}).step fun p act => redeemsAlone p act = true)
      (AuthPool.init oneToken) refreshTwice).isSome = true := by decide
  obtain ⟨p, hp⟩ := Option.isSome_iff_exists.1 hsome
  exact ⟨p, hp, refresh_redeems_once {} oneToken (run_of_exec_guarded hp) "r"⟩

/-- Two refreshes that both find the token live before either of them revokes it. -/
def overlappingRefreshes : List (Act AuthRequest AuthAnswer) :=
  [.event (.refresh "r"), .event (.refresh "r"), .resume 0 { now := 10 }, .resume 1 { now := 10 },
    .resume 0 {}, .resume 1 {}, .resume 0 {}, .resume 0 {}, .resume 0 { uuid := "r1" },
    .resume 1 {}, .resume 1 {}, .resume 1 { uuid := "r2" }]

/-- Both of two overlapping refreshes succeed. -/
theorem refresh_redeemed_twice :
    ∃ p, Run (authProgram {}).step anyStep (AuthPool.init oneToken) overlappingRefreshes p ∧
      ¬ p.count (AuthCall.redeemed "r") ≤ 1 := by
  have hcount : (exec (authProgram {}).step (AuthPool.init oneToken) overlappingRefreshes).map
      (Pool.count (AuthCall.redeemed "r")) = some 2 := by decide
  obtain ⟨p, hp, htwo⟩ := Option.map_eq_some_iff.1 hcount
  exact ⟨p, run_of_exec hp, by omega⟩

/-! ## One live token per client -/

section
variable {cfg : AuthConfig} {db db' : Database} {a : AuthAnswer} {call call' : AuthCall}
  {p p' : Pool Database AuthCall} {act : Act AuthRequest AuthAnswer} {k : ℕ}

/-- How many rows of client `k` are not revoked. -/
def Database.liveTokens (db : Database) (k : ℕ) : ℕ :=
  db.refresh_tokens.countP fun r => r.client = k && !r.revoked

/-- A call about to save a token of client `k`. -/
def AuthCall.saving (k : ℕ) : AuthCall → Bool
  | .createSave _ client _ => client.id = k
  | _ => false

theorem liveTokens_revokeWhere (db : Database) (q : RefreshTokenEntity → Bool) (k : ℕ) :
    (db.revokeWhere q).liveTokens k ≤ db.liveTokens k := by
  simp only [Database.liveTokens, Database.revokeWhere, List.countP_map]
  refine List.countP_mono_left fun r _ h => ?_
  simp only [Function.comp] at h
  split_ifs at h with hq
  · simp at h
  · exact h

theorem liveTokens_revokeToken (db : Database) (t : String) (k : ℕ) :
    (db.revokeToken t).liveTokens k ≤ db.liveTokens k := liveTokens_revokeWhere db _ k

theorem liveTokens_revokeAll_le (db : Database) (client : ClientEntity) (k : ℕ) :
    (db.revokeAll client).liveTokens k ≤ db.liveTokens k := liveTokens_revokeWhere db _ k

/-- Revoking the live rows of a client leaves none. -/
theorem liveTokens_revokeAll (db : Database) (client : ClientEntity) :
    (db.revokeAll client).liveTokens client.id = 0 := by
  simp only [Database.liveTokens, Database.revokeAll, Database.revokeWhere, List.countP_map,
    List.countP_eq_zero]
  intro r _ h
  simp only [Function.comp] at h
  split_ifs at h with hq
  · simp at h
  · simp only [Bool.and_eq_true, decide_eq_true_eq, Bool.not_eq_eq_eq_not, Bool.not_true] at h hq
    exact hq h

theorem liveTokens_saveToken (db : Database) (token role : String) (c : ℕ) (expiresAt : ℤ) (k : ℕ) :
    (db.saveToken ⟨token, c, role, expiresAt, false⟩).liveTokens k =
      db.liveTokens k + if c = k then 1 else 0 := by
  simp [Database.liveTokens, Database.saveToken, List.countP_append, List.countP_singleton]

/-- A repository call makes the live rows of a client and the calls about to save one for it no
    more, unless it revokes the rows of that client in order to save one. -/
theorem AuthEdge.liveTokens (h : AuthEdge cfg db a call db' call') (k : ℕ) :
    (∃ f client role, call = .createRevokeAll f client role ∧ client.id = k ∧ a.rejects = none ∧
      db'.liveTokens k = 0) ∨
    db'.liveTokens k + (if call'.saving k then 1 else 0) ≤
      db.liveTokens k + if call.saving k then 1 else 0 := by
  cases h with
  | revoke => refine Or.inr ?_; simpa [AuthCall.saving] using liveTokens_revokeToken db _ k
  | logout => refine Or.inr ?_; simpa [AuthCall.saving] using liveTokens_revokeToken db _ k
  | revokeAllUpdate =>
    refine Or.inr ?_
    simpa [AuthCall.saving] using liveTokens_revokeAll_le db _ k
  | revokeAll hrej =>
    rename_i f client role
    by_cases hk : client.id = k
    · exact Or.inl ⟨f, client, role, rfl, hk, hrej, hk ▸ liveTokens_revokeAll db client⟩
    · exact Or.inr (by simpa [AuthCall.saving, hk] using liveTokens_revokeAll_le db client k)
  | save => exact Or.inr (by simp [AuthCall.saving, liveTokens_saveToken])
  | stay => exact Or.inr (by simp [AuthCall.saving])
  | _ => exact Or.inr (by simp [AuthCall.saving])

/-- The tokens of a client are revoked in order to save one only while no other call is about
    to save one for it. -/
def savesAlone (p : Pool Database AuthCall) : Act AuthRequest AuthAnswer → Bool
  | .event _ => true
  | .resume i a =>
    match p.threads[i]? with
    | some (.createRevokeAll _ client _) =>
      a.rejects.isSome || p.count (AuthCall.saving client.id) = 0
    | _ => true

/-- **One step of the calls**: live rows and rows about to be saved stay at most one. -/
theorem liveTokens_step (hok : savesAlone p act = true)
    (hp : p.shared.liveTokens k + p.count (AuthCall.saving k) ≤ 1)
    (h : (authProgram cfg).step p act = some p') :
    p'.shared.liveTokens k + p'.count (AuthCall.saving k) ≤ 1 := by
  obtain ⟨e, db, new, rfl, rfl, hrows, hnew⟩ | ⟨i, a, call, db', call', rfl, hcall, hen, hedge,
    rfl⟩ := authProgram_cases h
  · have hidle : ∀ call ∈ new, call.saving k = false := fun call hcall => by
      have := (hnew call hcall).2
      cases call <;> simp_all [AuthCall.saving]
    rw [Pool.count_event _ p db hidle]
    simpa only [Database.liveTokens, hrows] using hp
  · have hcount := Pool.count_move (AuthCall.saving k) db' call' hcall
    change db'.liveTokens k + (p.move db' i call').count (AuthCall.saving k) ≤ 1
    rcases hedge.liveTokens k with ⟨f, client, role, rfl, rfl, hrej, hzero⟩ | hle
    · have halone : p.count (AuthCall.saving client.id) = 0 := by
        simpa [savesAlone, hcall, hrej] using hok
      have := Pool.count_move_le_succ (AuthCall.saving client.id) db' call' hcall
      omega
    · omega

/-- **At most one token of a client is live**, in every state of every run of the calls in
    which no call revokes the tokens of a client, to save a new one, while another call is about
    to save one for the same client. -/
theorem one_live_token (cfg : AuthConfig) (db : Database) (hdb : ∀ k, db.liveTokens k ≤ 1)
    {acts : List (Act AuthRequest AuthAnswer)} {p : Pool Database AuthCall}
    (hrun : Run (authProgram cfg).step (fun p act => savesAlone p act = true) (AuthPool.init db)
      acts p) (k : ℕ) : p.shared.liveTokens k ≤ 1 := by
  have hinv : p.shared.liveTokens k + p.count (AuthCall.saving k) ≤ 1 :=
    hrun.inv (I := fun p => p.shared.liveTokens k + p.count (AuthCall.saving k) ≤ 1)
      (by simpa [AuthPool.init, Pool.count] using hdb k)
      fun _ _ _ hp hok hst => liveTokens_step hok hp hst
  omega

end

theorem one_live_token_refreshTwice :
    ∃ p, exec (guarded (authProgram {}).step fun p act => savesAlone p act = true)
        (AuthPool.init oneToken) refreshTwice = some p ∧ p.shared.liveTokens 1 ≤ 1 := by
  have hsome : (exec (guarded (authProgram {}).step fun p act => savesAlone p act = true)
      (AuthPool.init oneToken) refreshTwice).isSome = true := by decide
  obtain ⟨p, hp⟩ := Option.isSome_iff_exists.1 hsome
  refine ⟨p, hp, one_live_token {} oneToken (fun k => ?_) (run_of_exec_guarded hp) 1⟩
  exact List.countP_le_length

/-- A tenant with a role and no refresh token. -/
def noToken : Database where
  client := [⟨1, "acme", .ACTIVE⟩]
  secret := [⟨1, "service-key", "device-key", 1⟩]
  role_transaksi := [⟨1, "admin", 1, 1, 1⟩]

/-- Two logins that both revoke the tokens of the client before either of them saves one. -/
def overlappingLogins : List (Act AuthRequest AuthAnswer) :=
  [.event (.login ⟨"admin", "acme", "service-key", none⟩),
    .event (.login ⟨"admin", "acme", "service-key", none⟩),
    .resume 0 {}, .resume 0 {}, .resume 0 {}, .resume 0 {}, .resume 0 {},
    .resume 1 {}, .resume 1 {}, .resume 1 {}, .resume 1 {}, .resume 1 {},
    .resume 0 { uuid := "r1" }, .resume 1 { uuid := "r2" }]

/-- Two overlapping logins leave two live tokens when no call is in progress. -/
theorem two_live_tokens :
    ∃ p, Run (authProgram {}).step anyStep (AuthPool.init noToken) overlappingLogins p ∧
      (∀ call ∈ p.threads, ∃ r, call = .done r) ∧ ¬ p.shared.liveTokens 1 ≤ 1 := by
  have hcount : (exec (authProgram {}).step (AuthPool.init noToken) overlappingLogins).map
      (fun p => (p.shared.liveTokens 1, p.threads.all fun
        | .done _ => true
        | _ => false)) = some (2, true) := by decide
  obtain ⟨p, hp, htwo⟩ := Option.map_eq_some_iff.1 hcount
  simp only [Prod.mk.injEq, List.all_eq_true] at htwo
  refine ⟨p, run_of_exec hp, fun call hcall => ?_, by omega⟩
  have := htwo.2 call hcall
  cases call with
  | done r => exact ⟨r, rfl⟩
  | _ => simp at this

end GatewayRealtime
