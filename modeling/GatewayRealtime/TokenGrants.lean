/-
  Where the access tokens come from (`auth.service.ts`, `refresh-token.service.ts`).

  * `AuthHistory`: what a run has gone through, call by call.
  * `LoggedIn`: the three queries of a login were answered as `exists` asks for.
  * `Granted`: a tenant has logged in with a role, or had a refresh token for it from the start.
  * `Redeemed`: the query of a refresh found the token that was presented live, and it was granted.
  * `Held`: what a call in progress can count on; `held_authStep` keeps it.
  * `tokens_granted`: every access token that a run issues is for a tenant and a role that were
    granted to it, and a refresh changes neither.
-/
import GatewayRealtime.RefreshToken

namespace GatewayRealtime

/-- What a run has gone through: the states of the tables, the calls that are logins, the answers
    that the calls have had, with where a call stood and the tables at that stretch, and the refresh
    tokens that were there from the start. -/
structure AuthHistory where
  seen : Database → Prop
  asked : ℕ → GenerateTokenDto → Prop
  answered : ℕ → AuthCall → AuthAnswer → Database → Prop
  before : List RefreshTokenEntity

namespace AuthHistory

variable (H : AuthHistory)

/-- The id of a tenant's row names the same tenant throughout. -/
def SameTenants : Prop :=
  ∀ db db', H.seen db → H.seen db' → ∀ client ∈ db.client, ∀ client' ∈ db'.client,
    client.id = client'.id → client.client_id = client'.client_id

/-- Call number `i` is this login, whose tenant was active when it was looked up. -/
def ShownActive (i : ℕ) (dto : GenerateTokenDto) (client : ClientEntity) : Prop :=
  H.asked i dto ∧ ∃ a db, H.answered i (.existsClient dto) a db ∧
    db.findActiveClient dto.client_id = some client

/-- Its newest secret was the one that was presented. -/
def ShownSecret (i : ℕ) (dto : GenerateTokenDto) (client : ClientEntity) : Prop :=
  ∃ a db secret, H.answered i (.existsSecret dto client) a db ∧
    db.newestSecret client = some secret ∧ secret.key_service = dto.secret_key

/-- The role was one of its roles. -/
def ShownRole (i : ℕ) (dto : GenerateTokenDto) (client : ClientEntity) : Prop :=
  ∃ a db, H.answered i (.existsRoles dto client) a db ∧
    (db.rolesOf client).any (·.label_role = dto.role) = true

/-- By call number `i`, the tenant has logged in with the role. -/
def LoggedIn (i : ℕ) (clientId role : String) : Prop :=
  ∃ dto client, dto.client_id = clientId ∧ dto.role = role ∧ H.ShownActive i dto client ∧
    H.ShownSecret i dto client ∧ H.ShownRole i dto client

/-- A row of a tenant. -/
def Known (client : ClientEntity) : Prop := ∃ db, H.seen db ∧ client ∈ db.client

/-- Why a tenant has a role. -/
inductive Granted : String → String → Prop
  | login {i clientId role} : H.LoggedIn i clientId role → Granted clientId role
  | before {row client} : row ∈ H.before → H.Known client → client.id = row.client →
      Granted client.client_id row.role

/-- The query of call number `i` found the presented token live at its instant, in a row of this
    tenant and this role. -/
def Redeemed (i : ℕ) (presented clientId role : String) : Prop :=
  H.Granted clientId role ∧ ∃ a db row client, H.answered i (.validate presented) a db ∧
    db.findLiveToken presented a.now = some row ∧ row.role = role ∧
    db.client.find? (·.id = row.client) = some client ∧ client.client_id = clientId

/-- What a call of `create` can count on. -/
def HeldFor (i : ℕ) (clientId role : String) : CreateFor → Prop
  | .login accessToken _ =>
    H.LoggedIn i clientId role ∧ accessToken.client_id = clientId ∧ accessToken.role = role
  | .refresh presented clientId' => H.Redeemed i presented clientId role ∧ clientId' = clientId

/-- What call number `i` can count on, and what its result is worth. -/
def Held (i : ℕ) : AuthCall → Prop
  | .existsClient dto => H.asked i dto
  | .existsSecret dto client => H.ShownActive i dto client
  | .existsRoles dto client => H.ShownActive i dto client ∧ H.ShownSecret i dto client
  | .revoke token clientId role => H.Redeemed i token clientId role
  | .createFind k clientId role => H.HeldFor i clientId role k
  | .createRevokeAll k client role | .createSave k client role =>
    H.HeldFor i client.client_id role k ∧ H.Known client
  | .done (.ok (.login accessToken _ _)) => H.LoggedIn i accessToken.client_id accessToken.role
  | .done (.ok (.refresh presented accessToken _)) =>
    H.Redeemed i presented accessToken.client_id accessToken.role
  | _ => True

/-- Where a row of `refresh_tokens` comes from. -/
def RowHeld (row : RefreshTokenEntity) : Prop :=
  (∃ row₀ ∈ H.before, row₀.client = row.client ∧ row₀.role = row.role) ∨
    ∃ client, H.Known client ∧ client.id = row.client ∧ H.Granted client.client_id row.role

/-- A history goes on. -/
structure Grows (H H' : AuthHistory) : Prop where
  seen : ∀ db, H.seen db → H'.seen db
  asked : ∀ i dto, H.asked i dto → H'.asked i dto
  answered : ∀ i call a db, H.answered i call a db → H'.answered i call a db
  before : H'.before = H.before

/-! ## A longer history -/

section
variable {H H' : AuthHistory} {dto : GenerateTokenDto} {client : ClientEntity} {i : ℕ}
  {clientId role presented : String} {call : AuthCall} {row : RefreshTokenEntity}

theorem ShownActive.mono (h : H.ShownActive i dto client) (hle : H.Grows H') :
    H'.ShownActive i dto client := by
  obtain ⟨hasked, a, db, hanswered, hfound⟩ := h
  exact ⟨hle.asked _ _ hasked, a, db, hle.answered _ _ _ _ hanswered, hfound⟩

theorem ShownSecret.mono (h : H.ShownSecret i dto client) (hle : H.Grows H') :
    H'.ShownSecret i dto client := by
  obtain ⟨a, db, secret, hanswered, hfound⟩ := h
  exact ⟨a, db, secret, hle.answered _ _ _ _ hanswered, hfound⟩

theorem ShownRole.mono (h : H.ShownRole i dto client) (hle : H.Grows H') :
    H'.ShownRole i dto client := by
  obtain ⟨a, db, hanswered, hfound⟩ := h
  exact ⟨a, db, hle.answered _ _ _ _ hanswered, hfound⟩

theorem LoggedIn.mono (h : H.LoggedIn i clientId role) (hle : H.Grows H') :
    H'.LoggedIn i clientId role := by
  obtain ⟨dto, client, hclient, hrole, hactive, hsecret, hshown⟩ := h
  exact ⟨dto, client, hclient, hrole, hactive.mono hle, hsecret.mono hle, hshown.mono hle⟩

theorem Known.mono (h : H.Known client) (hle : H.Grows H') : H'.Known client := by
  obtain ⟨db, hdb, hmem⟩ := h
  exact ⟨db, hle.seen _ hdb, hmem⟩

theorem Granted.mono (h : H.Granted clientId role) (hle : H.Grows H') :
    H'.Granted clientId role := by
  cases h with
  | login h => exact .login (h.mono hle)
  | before hrow hclient hid => exact .before (hle.before ▸ hrow) (hclient.mono hle) hid

theorem Redeemed.mono (h : H.Redeemed i presented clientId role) (hle : H.Grows H') :
    H'.Redeemed i presented clientId role := by
  obtain ⟨hgranted, a, db, row, client, hanswered, hrest⟩ := h
  exact ⟨hgranted.mono hle, a, db, row, client, hle.answered _ _ _ _ hanswered, hrest⟩

theorem HeldFor.mono {k : CreateFor} (h : H.HeldFor i clientId role k) (hle : H.Grows H') :
    H'.HeldFor i clientId role k := by
  cases k with
  | login accessToken expiry => exact ⟨h.1.mono hle, h.2⟩
  | refresh presented clientId' => exact ⟨h.1.mono hle, h.2⟩

theorem RowHeld.mono (h : H.RowHeld row) (hle : H.Grows H') : H'.RowHeld row := by
  rcases h with ⟨row₀, hmem, hrest⟩ | ⟨client, hknown, hid, hgranted⟩
  · exact Or.inl ⟨row₀, hle.before ▸ hmem, hrest⟩
  · exact Or.inr ⟨client, hknown.mono hle, hid, hgranted.mono hle⟩

theorem Held.mono (h : H.Held i call) (hle : H.Grows H') : H'.Held i call := by
  cases call with
  | existsClient dto => exact hle.asked _ _ h
  | existsSecret dto client => exact ShownActive.mono h hle
  | existsRoles dto client => exact ⟨h.1.mono hle, h.2.mono hle⟩
  | revoke token clientId role => exact Redeemed.mono h hle
  | createFind k clientId role => exact HeldFor.mono h hle
  | createRevokeAll k client role => exact ⟨h.1.mono hle, h.2.mono hle⟩
  | createSave k client role => exact ⟨h.1.mono hle, h.2.mono hle⟩
  | done result =>
    cases result with
    | error f => trivial
    | ok reply =>
      cases reply with
      | login accessToken token expiry => exact LoggedIn.mono h hle
      | refresh presented accessToken token => exact Redeemed.mono h hle
      | revoked => trivial
  | _ => trivial

theorem HeldFor.granted {k : CreateFor} (h : H.HeldFor i clientId role k) :
    H.Granted clientId role := by
  cases k with
  | login accessToken expiry => exact .login h.1
  | refresh presented clientId' => exact h.1.1

end

/-! ## One repository call -/

section
variable {H : AuthHistory} {db : Database} {call : AuthCall} {i : ℕ} {a : AuthAnswer}

theorem rowHeld_revokeWhere (hrows : ∀ row ∈ db.refresh_tokens, H.RowHeld row)
    (p : RefreshTokenEntity → Bool) : ∀ row ∈ (db.revokeWhere p).refresh_tokens, H.RowHeld row := by
  intro row hrow
  obtain ⟨row₀, hrow₀, rfl⟩ := mem_revokeWhere.1 hrow
  split_ifs
  · exact hrows row₀ hrow₀
  · exact hrows row₀ hrow₀

/-- A live token is worth what its row says. -/
theorem redeemed_of_live {token : String} {row : RefreshTokenEntity} {client : ClientEntity}
    (hsame : H.SameTenants) (hseen : H.seen db) (hanswered : H.answered i (.validate token) a db)
    (hrows : ∀ row ∈ db.refresh_tokens, H.RowHeld row)
    (hrow : db.findLiveToken token a.now = some row)
    (hclient : db.client.find? (·.id = row.client) = some client) :
    H.Redeemed i token client.client_id row.role := by
  have hmem := List.mem_of_find?_eq_some hclient
  have hid : client.id = row.client := by simpa using List.find?_some hclient
  refine ⟨?_, a, db, row, client, hanswered, hrow, rfl, hclient, rfl⟩
  rcases hrows row (List.mem_of_find?_eq_some hrow) with
    ⟨row₀, hrow₀, hrow₀client, hrole⟩ | ⟨client', ⟨db', hdb', hmem'⟩, hid', hgranted⟩
  · exact hrole ▸ .before hrow₀ ⟨db, hseen, hmem⟩ (hid.trans hrow₀client.symm)
  · -- the row of the token was saved for the same tenant
    have heq := hsame db db' hseen hdb' client hmem client' hmem' (hid.trans hid'.symm)
    rw [heq]
    exact hgranted

/-- What a call holds when it is over. -/
theorem held_afterCreate {k : CreateFor} {clientId role token : String}
    (h : H.HeldFor i clientId role k) : H.Held i (.done (afterCreate k role token a)) := by
  cases k with
  | login accessToken expiry =>
    obtain ⟨hlogin, hclient, hrole⟩ := h
    subst hclient
    subst hrole
    exact hlogin
  | refresh presented clientId' =>
    obtain ⟨hredeemed, rfl⟩ := h
    unfold afterCreate
    dsimp only
    split
    · trivial
    · exact hredeemed

/-- **A repository call keeps what is held.** -/
theorem held_authStep (cfg : AuthConfig) (hsame : H.SameTenants) (hseen : H.seen db)
    (hanswered : a.rejects = none → H.answered i call a db)
    (hrows : ∀ row ∈ db.refresh_tokens, H.RowHeld row) (hcall : H.Held i call) :
    H.Held i (authStep cfg db a call).2 ∧
      ∀ row ∈ (authStep cfg db a call).1.refresh_tokens, H.RowHeld row := by
  unfold authStep
  split
  · exact ⟨trivial, hrows⟩
  · rename_i hrejects
    have hanswer := hanswered hrejects
    cases call with
    | existsClient dto =>
      dsimp only [authRun]
      split
      · exact ⟨trivial, hrows⟩
      · rename_i client hclient
        exact ⟨⟨hcall, a, db, hanswer, hclient⟩, hrows⟩
    | existsSecret dto client =>
      dsimp only [authRun]
      split
      · exact ⟨trivial, hrows⟩
      · rename_i secret hsecret
        split_ifs with hkey
        · exact ⟨trivial, hrows⟩
        · exact ⟨⟨hcall, a, db, secret, hanswer, hsecret, not_not.1 hkey⟩, hrows⟩
    | existsRoles dto client =>
      dsimp only [authRun, signLogin]
      split_ifs with hrole
      · have hlogin : H.LoggedIn i dto.client_id dto.role :=
          ⟨dto, client, rfl, rfl, hcall.1, hcall.2, a, db, hanswer, hrole⟩
        split
        · exact ⟨trivial, hrows⟩
        · exact ⟨⟨hlogin, rfl, rfl⟩, hrows⟩
      · exact ⟨trivial, hrows⟩
    | getRoles client => exact ⟨trivial, hrows⟩
    | validate token =>
      dsimp only [authRun]
      split
      · exact ⟨trivial, hrows⟩
      · rename_i row hrow
        split
        · exact ⟨trivial, hrows⟩
        · rename_i client hclient
          exact ⟨redeemed_of_live hsame hseen hanswer hrows hrow hclient, hrows⟩
    | revoke token clientId role => exact ⟨⟨hcall, rfl⟩, rowHeld_revokeWhere hrows _⟩
    | createFind k clientId role =>
      dsimp only [authRun]
      split
      · exact ⟨trivial, hrows⟩
      · rename_i client hclient
        have hid : client.client_id = clientId := by simpa using List.find?_some hclient
        subst hid
        exact ⟨⟨hcall, db, hseen, List.mem_of_find?_eq_some hclient⟩, hrows⟩
    | createRevokeAll k client role => exact ⟨hcall, rowHeld_revokeWhere hrows _⟩
    | createSave k client role =>
      refine ⟨held_afterCreate hcall.1, fun row hrow => ?_⟩
      rcases List.mem_append.1 hrow with hrow | hrow
      · exact hrows row hrow
      · obtain rfl := List.mem_singleton.1 hrow
        exact Or.inr ⟨client, hcall.2, rfl, hcall.1.granted⟩
    | logout token => exact ⟨trivial, rowHeld_revokeWhere hrows _⟩
    | revokeAllFind clientId =>
      dsimp only [authRun]
      split <;> exact ⟨trivial, hrows⟩
    | revokeAllUpdate client => exact ⟨trivial, rowHeld_revokeWhere hrows _⟩
    | done result => exact ⟨hcall, hrows⟩

end

end AuthHistory

/-! ## Runs -/

section
variable {cfg : AuthConfig} {db₀ : Database} {as : List (Act AuthRequest AuthAnswer)}
  {p p' : Pool Database AuthCall}

/-- The history of a run. -/
def authHistory (cfg : AuthConfig) (db₀ : Database) (as : List (Act AuthRequest AuthAnswer)) :
    AuthHistory where
  seen db := ∃ t, Visited (authProgram cfg).step (AuthPool.init db₀) as t ∧ t.shared = db
  asked i dto := ∃ pre t, pre ++ [.event (.login dto)] <+: as ∧
    Run (authProgram cfg).step anyStep (AuthPool.init db₀) pre t ∧ t.threads.length = i
  answered i call a db := ∃ pre t, pre ++ [.resume i a] <+: as ∧
    Run (authProgram cfg).step anyStep (AuthPool.init db₀) pre t ∧ t.threads[i]? = some call ∧
    t.shared = db ∧ a.rejects = none
  before := db₀.refresh_tokens

theorem authHistory_grows (cfg : AuthConfig) (db₀ : Database)
    (as bs : List (Act AuthRequest AuthAnswer)) :
    (authHistory cfg db₀ as).Grows (authHistory cfg db₀ (as ++ bs)) where
  seen := fun _ ⟨t, ht, hshared⟩ => ⟨t, ht.extend bs, hshared⟩
  asked := fun _ _ ⟨pre, t, hpre, h⟩ => ⟨pre, t, hpre.trans (List.prefix_append as bs), h⟩
  answered := fun _ _ _ _ ⟨pre, t, hpre, h⟩ =>
    ⟨pre, t, hpre.trans (List.prefix_append as bs), h⟩
  before := rfl

/-- A step keeps what the calls and the rows hold. -/
theorem held_step {H : AuthHistory} {act : Act AuthRequest AuthAnswer} (hsame : H.SameTenants)
    (hseen : H.seen p.shared)
    (hasked : ∀ dto, act = .event (.login dto) → H.asked p.threads.length dto)
    (hanswered : ∀ i a call, act = .resume i a → p.threads[i]? = some call → a.rejects = none →
      H.answered i call a p.shared)
    (hrows : ∀ row ∈ p.shared.refresh_tokens, H.RowHeld row)
    (hcalls : ∀ i call, p.threads[i]? = some call → H.Held i call)
    (hst : (authProgram cfg).step p act = some p') :
    (∀ row ∈ p'.shared.refresh_tokens, H.RowHeld row) ∧
      ∀ i call, p'.threads[i]? = some call → H.Held i call := by
  have hstarts : ∀ call, H.Held p.threads.length call →
      ∀ i call', (p.threads ++ [call])[i]? = some call' → H.Held i call' := by
    intro call hcall i call' hi
    rw [List.getElem?_append, List.getElem?_singleton] at hi
    split_ifs at hi with hlt hlast
    · exact hcalls i call' hi
    · cases hi
      obtain rfl : i = p.threads.length := by omega
      exact hcall
  obtain ⟨e, s, new, rfl, he, rfl⟩ | ⟨i, a, call, s, call', new, rfl, ht, hr, rfl⟩ :=
    Program.step_cases hst
  · cases e with
    | login dto =>
      cases he
      exact ⟨hrows, hstarts _ (hasked dto rfl)⟩
    | administer tables =>
      cases he
      exact ⟨hrows, by simpa only [List.append_nil] using hcalls⟩
    | _ =>
      cases he
      exact ⟨hrows, hstarts _ trivial⟩
  · dsimp only [authProgram] at hr
    split_ifs at hr
    cases hr
    obtain ⟨hheld, hrows'⟩ := AuthHistory.held_authStep cfg hsame hseen (hanswered i a call rfl ht)
      hrows (hcalls i call ht)
    refine ⟨hrows', fun j call' hj => ?_⟩
    rw [List.append_nil, List.getElem?_set] at hj
    split_ifs at hj with hij
    · cases hj
      exact hij ▸ hheld
    · exact hcalls j call' hj

theorem held_run (hrun : Run (authProgram cfg).step anyStep (AuthPool.init db₀) as p)
    (hsame : (authHistory cfg db₀ as).SameTenants) :
    (∀ row ∈ p.shared.refresh_tokens, (authHistory cfg db₀ as).RowHeld row) ∧
      ∀ i call, p.threads[i]? = some call → (authHistory cfg db₀ as).Held i call := by
  induction hrun with
  | nil => exact ⟨fun row hrow => Or.inl ⟨row, hrow, rfl, rfl⟩, fun i call hi => by cases hi⟩
  | @snoc as p act p' hrun _ hst ih =>
    have hle := authHistory_grows cfg db₀ as [act]
    have hsame' : (authHistory cfg db₀ as).SameTenants := fun db db' hdb hdb' =>
      hsame db db' (hle.seen _ hdb) (hle.seen _ hdb')
    obtain ⟨hrows, hcalls⟩ := ih hsame'
    refine held_step hsame (hle.seen _ ⟨p, .last hrun, rfl⟩) ?_ ?_
      (fun row hrow => (hrows row hrow).mono hle)
      (fun i call hi => (hcalls i call hi).mono hle) hst
    · rintro dto rfl
      exact ⟨as, p, List.prefix_refl _, hrun, rfl⟩
    · rintro i a call rfl hi hrejects
      exact ⟨as, p, List.prefix_refl _, hrun, hi, rfl, hrejects⟩

/-- **Where the access tokens come from.**  In every run in which the id of a tenant's row names the
    same tenant throughout, every access token that a login signs is for the tenant and the role
    that this login was asked for, and its own queries were answered as the checks ask for; and
    every one that a refresh signs is for the tenant and the role of the row in which its own
    query found the presented token live, at the instant of that query; and that goes back to such
    a login or to a refresh token that was there from the start. -/
theorem tokens_granted (hrun : Run (authProgram cfg).step anyStep (AuthPool.init db₀) as p)
    (hsame : (authHistory cfg db₀ as).SameTenants) :
    (∀ i accessToken token expiry,
      p.threads[i]? = some (.done (.ok (.login accessToken token expiry))) →
        (authHistory cfg db₀ as).LoggedIn i accessToken.client_id accessToken.role) ∧
    ∀ i presented accessToken token,
      p.threads[i]? = some (.done (.ok (.refresh presented accessToken token))) →
        (authHistory cfg db₀ as).Redeemed i presented accessToken.client_id accessToken.role := by
  obtain ⟨-, hcalls⟩ := held_run hrun hsame
  exact ⟨fun i _ _ _ hi => hcalls i _ hi, fun i _ _ _ hi => hcalls i _ hi⟩

/-! ## Tables that nobody writes -/

/-- The calls do not write the table of the tenants. -/
theorem client_authStep (cfg : AuthConfig) (db : Database) (a : AuthAnswer) (call : AuthCall) :
    (authStep cfg db a call).1.client = db.client := by
  have hedge := authStep_edge cfg db a call
  generalize (authStep cfg db a call).1 = db' at hedge ⊢
  generalize (authStep cfg db a call).2 = call' at hedge
  cases hedge <;> rfl

theorem client_run (hquiet : ∀ tables, .event (.administer tables) ∉ as)
    (hrun : Run (authProgram cfg).step anyStep (AuthPool.init db₀) as p) :
    p.shared.client = db₀.client := by
  induction hrun with
  | nil => rfl
  | snoc _ _ hst ih =>
    refine Eq.trans ?_ (ih fun tables hmem => hquiet tables (List.mem_append_left _ hmem))
    obtain ⟨e, s, new, rfl, he, rfl⟩ | ⟨i, a, call, s, call', new, rfl, ht, hr, rfl⟩ :=
      Program.step_cases hst
    · cases e with
      | administer tables =>
        exact (hquiet tables (List.mem_append_right _ (List.mem_singleton.2 rfl))).elim
      | _ =>
        cases he
        rfl
    · dsimp only [authProgram] at hr
      split_ifs at hr
      cases hr
      exact client_authStep ..

/-- Where nobody writes the tables, the ids are those of the start. -/
theorem sameTenants_of_quiet (hquiet : ∀ tables, .event (.administer tables) ∉ as)
    (hids : ∀ client ∈ db₀.client, ∀ client' ∈ db₀.client, client.id = client'.id →
      client.client_id = client'.client_id) : (authHistory cfg db₀ as).SameTenants := by
  have hclient : ∀ db, (authHistory cfg db₀ as).seen db → db.client = db₀.client := by
    rintro db ⟨t, ⟨bs, hbefore, hrun⟩, rfl⟩
    exact client_run (fun tables hmem => hquiet tables (hbefore.subset hmem)) hrun
  intro db db' hdb hdb' client hmem client' hmem'
  exact hids client (hclient db hdb ▸ hmem) client' (hclient db' hdb' ▸ hmem')

end

/-- A tenant logs in and redeems the refresh token that it got. -/
def loginAndRefresh : List (Act AuthRequest AuthAnswer) :=
  [.event (.login ⟨"admin", "acme", "service-key", none⟩), .resume 0 {}, .resume 0 {}, .resume 0 {},
    .resume 0 {}, .resume 0 {}, .resume 0 { uuid := "r1" }, .event (.refresh "r1"),
    .resume 1 { now := 10 }, .resume 1 {}, .resume 1 {}, .resume 1 {}, .resume 1 { uuid := "r2" }]

theorem tokens_granted_loginAndRefresh : ∃ p,
    Run (authProgram {}).step anyStep (AuthPool.init noToken) loginAndRefresh p ∧
      (authHistory {} noToken loginAndRefresh).LoggedIn 0 "acme" "admin" ∧
      (authHistory {} noToken loginAndRefresh).Redeemed 1 "r1" "acme" "admin" := by
  have hruns : ((exec (authProgram {}).step (AuthPool.init noToken) loginAndRefresh).any fun p =>
      decide (p.threads = [.done (.ok (.login ⟨"acme", "admin", "15m"⟩ "r1" (some 900))),
        .done (.ok (.refresh "r1" ⟨"acme", "admin", "15m"⟩ "r2"))])) = true := by decide +kernel
  simp only [Option.any_eq_true, decide_eq_true_eq] at hruns
  obtain ⟨p, hp, hthreads⟩ := hruns
  have hsame : (authHistory {} noToken loginAndRefresh).SameTenants := by
    refine sameTenants_of_quiet (fun tables hmem => ?_) (by decide)
    simp [loginAndRefresh] at hmem
  obtain ⟨hlogin, hrefresh⟩ := tokens_granted (run_of_exec hp) hsame
  refine ⟨p, run_of_exec hp, ?_, ?_⟩
  · exact hlogin 0 ⟨"acme", "admin", "15m"⟩ "r1" (some 900) (by rw [hthreads]; rfl)
  · exact hrefresh 1 "r1" ⟨"acme", "admin", "15m"⟩ "r2" (by rw [hthreads]; rfl)

end GatewayRealtime
