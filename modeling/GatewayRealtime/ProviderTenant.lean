/-
  A provider belongs to its tenant (`provider-factory.service.ts`).

  * `OwnProvider`: the providers that the tables and the environment have for a tenant.
  * `Retained`: the providers that are around for a tenant: a call is about to cache one, one is
    cached or has been returned, or an application of the tenant exists.
  * `retained_step`: a step takes a provider up from the tables, or it was around before.
  * `getProvider_own`: whatever else is going on, `getProvider` returns a provider of the tenant
    that was asked for.
-/
import GatewayRealtime.ProviderCache

namespace GatewayRealtime

namespace ProviderFactory

/-! ## Tenants and types -/

/-- The table that a row comes from. -/
def ConfigRow.label : ConfigRow → ProviderLabel
  | .smtp _ => .email
  | .firebase _ => .auth

/-- A call that has an answer has one from the table that it asked for. -/
def ProviderCall.Typed : ProviderCall → Prop
  | .configFound r _ (.ok row) => row.label = r.type
  | _ => True

/-- The providers of a type that a tenant has: the one that its row describes, and for mails the one
    that the environment alone describes. -/
inductive OwnProvider (env : ProviderEnv) (db : Database) (clientId : String)
    (type : ProviderLabel) (config : ProviderConfig) : ProviderInstance → Prop
  | stored {client inst} : db.findByClientId clientId = some client →
      described env client.id (config.findOne client.id type) = some inst →
      OwnProvider env db clientId type config inst
  | environment {client inst} : db.findByClientId clientId = some client → type = .email →
      described env client.id (.smtp none) = some inst →
      OwnProvider env db clientId type config inst

/-- The providers of a type that are around for a tenant. -/
inductive Retained (env : ProviderEnv) (db : Database) (clientId : String) (type : ProviderLabel)
    (p : ProviderPool) : ProviderInstance → Prop
  | pending {client r row row' inst} : db.findByClientId clientId = some client →
      .configFound r client.id row ∈ p.threads → r.type = type → rowOf r.type row = .ok row' →
      described env client.id row' = some inst → Retained env db clientId type p inst
  | created {r : ProviderRequest} {inst} : r.clientId = clientId → r.type = type →
      .created r (.ok inst) ∈ p.threads → Retained env db clientId type p inst
  | cached {r : ProviderRequest} {entry} : r.Plain → r.clientId = clientId → r.type = type →
      p.shared.cache.get? r.key = some entry → Retained env db clientId type p entry.instance_
  | returned {r : ProviderRequest} {inst} : r.Plain → r.clientId = clientId → r.type = type →
      .done r (.ok inst) ∈ p.threads → Retained env db clientId type p inst
  | app {client credential} : db.findByClientId clientId = some client → type = .auth →
      p.shared.apps.get? (appName client.id) = some credential →
      Retained env db clientId type p (.auth ⟨appName client.id, credential⟩)

@[simp] theorem findOne_label (config : ProviderConfig) (id : ℕ) (type : ProviderLabel) :
    (config.findOne id type).label = type := by
  cases type <;> rfl

/-- A name tells the tenant. -/
theorem appName_injective : Function.Injective appName := by
  intro id id' h
  have hdigits : Nat.toDigits 10 id = Nat.toDigits 10 id' := by
    simpa [appName] using congrArg String.toList h
  rw [← Nat.ofDigitChars_ten_toDigits (n := id), hdigits, Nat.ofDigitChars_ten_toDigits]

section
variable {env : ProviderEnv} {db : Database} {cert : FirebaseCredential → Option Failure}
  {s s' : ProviderState} {rejects : Option Failure} {call call' : ProviderCall}

/-! ## What a call does -/

theorem ProviderEdge.typed (h : ProviderEdge env db cert s rejects call s' call')
    (htyped : call.Typed) : call'.Typed := by
  cases h with
  | read => exact findOne_label _ _ _
  | stay => exact htyped
  | _ => trivial

/-- What a call goes on with is of the type that it asked for. -/
theorem rowOf_label {r : ProviderRequest} {id : ℕ} {row : Except Failure ConfigRow}
    {row' : ConfigRow} (htyped : (ProviderCall.configFound r id row).Typed)
    (h : rowOf r.type row = .ok row') : row'.label = r.type := by
  cases row with
  | ok row =>
    cases h
    exact htyped
  | error f =>
    cases htype : r.type with
    | email =>
      rw [htype] at h
      cases h
      rfl
    | auth =>
      rw [htype] at h
      cases h

/-- `create` makes what the row describes, or hands out an application that is there. -/
theorem create_origin {apps : FirebaseApps} {id : ℕ} {row : ConfigRow} {inst : ProviderInstance}
    (h : (create env cert apps id row).2 = .ok inst) :
    described env id row = some inst ∨
      row.label = .auth ∧ ∃ credential, apps.get? (appName id) = some credential ∧
        inst = .auth ⟨appName id, credential⟩ := by
  by_cases happ : ∀ config, row = .firebase (some config) →
      ∀ credential, apps.get? (appName id) = some credential → credential = config.credential
  · exact Or.inl (create_described h happ)
  · simp only [not_forall] at happ
    obtain ⟨config, rfl, credential, hget, -⟩ := happ
    refine Or.inr ⟨rfl, credential, hget, ?_⟩
    simpa [create, FirebaseApps.provider, hget, Except.map] using h.symm

/-- The applications change only by the one that `create` makes of a row. -/
theorem create_apps {apps : FirebaseApps} {id : ℕ} {row : ConfigRow} {name : String}
    {credential : FirebaseCredential}
    (h : (create env cert apps id row).1.get? name = some credential) :
    apps.get? name = some credential ∨
      ∃ config, row = .firebase (some config) ∧ name = appName id ∧
        credential = config.credential := by
  rcases row with config | config
  · exact Or.inl h
  cases config with
  | none => exact Or.inl h
  | some config =>
    dsimp only [create, FirebaseApps.provider] at h
    split at h
    · exact Or.inl h
    · split at h
      · exact Or.inl h
      · rw [OMap.get?_set] at h
        split_ifs at h with hname
        · exact Or.inr ⟨config, rfl, hname, (Option.some.inj h).symm⟩
        · exact Or.inl h

theorem ProviderEdge.apps (h : ProviderEdge env db cert s rejects call s' call') {name : String}
    {credential : FirebaseCredential} (hget : s'.apps.get? name = some credential) :
    s.apps.get? name = some credential ∨
      ∃ r id row config, call = .configFound r id row ∧
        rowOf r.type row = .ok (.firebase (some config)) ∧ name = appName id ∧
        credential = config.credential := by
  cases h with
  | @construct r id row row' hrow =>
    rcases create_apps hget with hold | ⟨config, rfl, hname, hcredential⟩
    · exact Or.inl hold
    · exact Or.inr ⟨r, id, row, config, rfl, hrow, hname, hcredential⟩
  | _ => exact Or.inl hget

theorem event_apps {e : ProviderEvent} {new : List ProviderCall}
    (h : (providerProgram env db cert).event s e = some (s', new)) : s'.apps = s.apps := by
  cases e with
  | getProvider r =>
    cases h
    dsimp only [getProvider]
    split <;> rfl
  | invalidate r =>
    cases h
    exact s.removeFromCache_apps r.key
  | timeout timer =>
    obtain ⟨key, -, h⟩ := Option.map_eq_some_iff.1 h
    cases h
    exact (s.clearTimeout timer).removeFromCache_apps key
  | configure config =>
    cases h
    rfl

end

/-! ## What is around for a tenant -/

section
variable {env : ProviderEnv} {db : Database} {cert : FirebaseCredential → Option Failure}
  {p p' : ProviderPool} {a : ProviderAct} {clientId : String} {type : ProviderLabel}
  {inst : ProviderInstance}

/-- What every call can rely on. -/
def Calls (env : ProviderEnv) (db : Database) (p : ProviderPool) : Prop :=
  ∀ call ∈ p.threads, call.Sound env db ∧ call.Typed

theorem calls_step (h : Calls env db p) (hst : (providerProgram env db cert).step p a = some p') :
    Calls env db p' := by
  have htyped : ∀ call ∈ p'.threads, call.Typed := by
    refine (Program.step_inv (G := fun _ => True) (L := fun _ call => call.Typed) ?_ ?_
      ⟨trivial, fun call hcall => (h call hcall).2⟩ hst).2
    · intro s e s' new _ he
      refine ⟨trivial, fun _ hcall => hcall, fun call hcall => ?_⟩
      have hpending := ((event_spec he).1 call hcall).2
      cases call with
      | configFound r id row =>
        -- no event starts a call that has an answer already
        cases e with
        | getProvider r' =>
          cases he
          have hnot : (getProvider s r').2 ≠ .configFound r id row := by
            unfold getProvider
            split <;> simp
          exact absurd (List.mem_singleton.1 hcall).symm hnot
        | invalidate r' => cases he; cases hcall
        | timeout timer =>
          obtain ⟨key, -, he⟩ := Option.map_eq_some_iff.1 he
          cases he
          cases hcall
        | configure config => cases he; cases hcall
      | _ => trivial
    · intro s call rejects s' call' new _ htyped hresume
      obtain ⟨-, hedge, rfl⟩ := resume_edge hresume
      exact ⟨trivial, fun _ hcall => hcall, hedge.typed htyped, List.forall_mem_nil _⟩
  exact fun call hcall =>
    ⟨step_sound (fun call hcall => (h call hcall).1) hst call hcall, htyped call hcall⟩

/-- An event brings nothing new. -/
theorem retained_event {e : ProviderEvent} {s : ProviderState} {new : List ProviderCall}
    (he : (providerProgram env db cert).event p.shared e = some (s, new))
    (h : Retained env db clientId type ⟨s, p.threads ++ new⟩ inst) :
    Retained env db clientId type p inst := by
  obtain ⟨hnew, hcache, hdone⟩ := event_spec he
  cases h with
  | pending hclient hmem htype hrow hdescribed =>
    rcases List.mem_append.1 hmem with hmem | hmem
    · exact .pending hclient hmem htype hrow hdescribed
    · have hnone := (hnew _ hmem).2
      simp [ProviderCall.pending, hrow, Except.toOption, hdescribed] at hnone
  | created hclient htype hmem =>
    rcases List.mem_append.1 hmem with hmem | hmem
    · exact .created hclient htype hmem
    · cases (hnew _ hmem).2
  | cached hplain hclient htype hentry =>
    obtain ⟨old, hold, hinst⟩ := hcache _ _ hentry
    exact hinst ▸ .cached hplain hclient htype hold
  | returned hplain hclient htype hmem =>
    rcases List.mem_append.1 hmem with hmem | hmem
    · exact .returned hplain hclient htype hmem
    · obtain ⟨old, hold, rfl⟩ := hdone _ _ hmem
      exact .cached hplain hclient htype hold
  | app hclient htype hget =>
    rw [event_apps he] at hget
    exact .app hclient htype hget

/-- **A step takes a provider up from the tables, or it was around before.** -/
theorem retained_step (hcalls : Calls env db p)
    (hst : (providerProgram env db cert).step p a = some p')
    (h : Retained env db clientId type p' inst) :
    Retained env db clientId type p inst ∨
      OwnProvider env db clientId type p.shared.config inst := by
  obtain ⟨e, s, new, rfl, he, rfl⟩ | ⟨i, c, call, s, call', new, rfl, hcall, hresume, rfl⟩ :=
    Program.step_cases hst
  · exact Or.inl (retained_event he h)
  · obtain ⟨hrunning, hedge, rfl⟩ := resume_edge hresume
    have hmem : call ∈ p.threads := List.mem_of_getElem? hcall
    obtain ⟨hsound, htyped⟩ := hcalls call hmem
    rw [List.append_nil] at h
    cases h with
    | pending hclient hmem' htype hrow hdescribed =>
      rcases List.mem_or_eq_of_mem_set hmem' with hmem' | rfl
      · exact Or.inl (.pending hclient hmem' htype hrow hdescribed)
      · refine Or.inr ?_
        cases hedge with
        | read =>
          cases hrow
          exact .stored hclient (htype ▸ hdescribed)
        | rejected =>
          rw [htype] at hrow
          cases type with
          | email =>
            cases hrow
            exact .environment hclient rfl hdescribed
          | auth => cases hrow
    | created hclient htype hmem' =>
      refine Or.inl ?_
      rcases List.mem_or_eq_of_mem_set hmem' with hmem' | heq
      · exact .created hclient htype hmem'
      · generalize hcall' : ProviderCall.created _ (.ok _) = call'' at heq
        subst heq
        cases hedge with
        | @construct r id row row' hrow =>
          injection hcall' with hr hcreate
          subst hr
          obtain ⟨-, client, hfind, rfl⟩ := hsound
          rw [hclient] at hfind
          rcases create_origin hcreate.symm with hdescribed | ⟨hlabel, credential, hget, rfl⟩
          · exact .pending hfind hmem htype hrow hdescribed
          · have hauth : type = .auth := by
              rw [← htype, ← rowOf_label htyped hrow, hlabel]
            exact .app hfind hauth hget
        | _ => cases hcall'
    | cached hplain hclient htype hentry =>
      refine Or.inl ?_
      cases hedge with
      | @install r inst =>
        rw [ProviderState.get?_install] at hentry
        split_ifs at hentry with hkey
        · cases hentry
          have hsent : (ProviderCall.created r (.ok inst)).request.Plain := hsound.plain rfl
          obtain ⟨hsame, hsame'⟩ := hplain.key_inj hsent hkey
          exact .created (hsame.symm.trans hclient) (hsame'.symm.trans htype) hmem
        · exact .cached hplain hclient htype hentry
      | _ => exact .cached hplain hclient htype hentry
    | returned hplain hclient htype hmem' =>
      refine Or.inl ?_
      rcases List.mem_or_eq_of_mem_set hmem' with hmem' | rfl
      · exact .returned hplain hclient htype hmem'
      · cases hedge with
        | install => exact .created hclient htype hmem
        | stay => cases hrunning
    | app hclient htype hget =>
      refine Or.inl ?_
      rcases hedge.apps hget with hold | ⟨r, id, row, config, rfl, hrow, hname, rfl⟩
      · exact .app hclient htype hold
      · obtain rfl := appName_injective hname
        have hauth : r.type = type := by rw [← rowOf_label htyped hrow, htype]; rfl
        exact .pending hclient hmem hauth hrow rfl

theorem calls_init (env : ProviderEnv) (db : Database) (config : ProviderConfig) :
    Calls env db (ProviderPool.init config) := List.forall_mem_nil _

theorem not_retained_init {config : ProviderConfig} :
    ¬ Retained env db clientId type (ProviderPool.init config) inst := by
  intro h
  cases h with
  | pending _ hmem => cases hmem
  | created _ _ hmem => cases hmem
  | cached _ _ _ hentry => cases hentry
  | returned _ _ _ hmem => cases hmem
  | app _ _ hget => cases hget

/-- What is around for a tenant was once in the tables for it. -/
theorem retained_own {config : ProviderConfig} {as : List ProviderAct}
    (hrun : Run (providerProgram env db cert).step anyStep (ProviderPool.init config) as p)
    (h : Retained env db clientId type p inst) :
    ∃ t, Visited (providerProgram env db cert).step (ProviderPool.init config) as t ∧
      OwnProvider env db clientId type t.shared.config inst :=
  hrun.traced (I := Calls env db) (Retained env db clientId type)
    (fun t inst => OwnProvider env db clientId type t.shared.config inst) (calls_init env db config)
    (fun _ _ _ hcalls hst => calls_step hcalls hst)
    (fun _ hretained => absurd hretained not_retained_init)
    (fun _ _ _ _ hcalls _ hst hretained => retained_step hcalls hst hretained) h

/-- **A tenant's own provider.**  In every run, whatever else happens, a call returns a provider
    that at some state of the run the tables have for the tenant and the type that it asks for, or,
    for mails, the one that the environment alone describes. -/
theorem getProvider_own {config : ProviderConfig} {as : List ProviderAct} {r : ProviderRequest}
    (hr : r.Plain)
    (hrun : Run (providerProgram env db cert).step anyStep (ProviderPool.init config) as p)
    (hdone : .done r (.ok inst) ∈ p.threads) :
    ∃ t, Visited (providerProgram env db cert).step (ProviderPool.init config) as t ∧
      OwnProvider env db r.clientId r.type t.shared.config inst :=
  retained_own hrun (.returned hr rfl rfl hdone)

end

/-- Two tenants, one of which has a mail server. -/
def twoTenants : Database where
  client := [⟨1, "acme", .ACTIVE⟩, ⟨2, "bank", .ACTIVE⟩]

/-- The tenant without a mail server. -/
def bankMail : ProviderRequest := ⟨.email, "bank", none⟩

/-- The mail server of everybody who has none. -/
def sharedMail : ProviderEnv where
  DEFAULT_MAIL_ADDRESS := some "shared@host.test"
  DEFAULT_MAIL_HOST := some "host.test"
  DEFAULT_PORT_MAIL := some "587"
  DEFAULT_MAIL_PASSWORD := some "secret"

/-- The calls of both tenants overlap. -/
def bothCall : List ProviderAct :=
  [.event (.getProvider acmeMail), .event (.getProvider bankMail)] ++
    (List.replicate 5 [.resume 0 none, .resume 1 none]).flatten

theorem getProvider_own_bothCall :
    ∃ p t, Run (providerProgram sharedMail twoTenants fun _ => none).step anyStep
        (ProviderPool.init (mailAt "acme.test")) bothCall p ∧
      Visited (providerProgram sharedMail twoTenants fun _ => none).step
        (ProviderPool.init (mailAt "acme.test")) bothCall t ∧
      OwnProvider sharedMail twoTenants "bank" .email t.shared.config (.email
        ⟨"host.test", .env "587", false, "shared@host.test", "secret", "shared@host.test"⟩) := by
  have hruns : ((exec (providerProgram sharedMail twoTenants fun _ => none).step
      (ProviderPool.init (mailAt "acme.test")) bothCall).any fun p =>
        decide (p.threads[1]? = some (.done bankMail (.ok (.email ⟨"host.test", .env "587", false,
          "shared@host.test", "secret", "shared@host.test"⟩))))) = true := by decide +kernel
  simp only [Option.any_eq_true, decide_eq_true_eq] at hruns
  obtain ⟨p, hp, hdone⟩ := hruns
  have hplain : bankMail.Plain := by decide
  obtain ⟨t, ht, hown⟩ :=
    getProvider_own hplain (run_of_exec hp) (List.mem_of_getElem? hdone)
  exact ⟨p, t, run_of_exec hp, ht, hown⟩

end ProviderFactory

end GatewayRealtime
