/-
  What the cache of providers hands out (`provider-factory.service.ts`).

  * `described`, `storedProvider`: the provider that a row, and the stored configuration of a
    tenant, stand for.
  * `Moment`: when something is known about a key, at the start and when the key is removed from
    the cache by `invalidate` or by a timer of its own.
  * `Current`: what `getProvider` returns to a call that starts after a moment is what the
    configuration of its tenant stood for at that moment or later.
  * `Coherent`: the condition on a step under which the code keeps to this (`coherent_current`).

  * `late_install`, `stale_app`: a call that is late at the removal of its key, and an application
    with an outdated credential, break it in every state that is reached.

  The proof follows the providers around: what the calls and the cache hold for a key was held
  before the step or is read in it (`held_step`).
-/
import GatewayRealtime.ProviderFactory

namespace GatewayRealtime

namespace ProviderFactory

/-! ## What is compared -/

/-- The provider that a row, or the lack of one, stands for. -/
def described (env : ProviderEnv) (id : ℕ) : ConfigRow → Option ProviderInstance
  | .smtp config => (env.smtpOptions id config).toOption.map .email
  | .firebase config => config.map fun config => .auth ⟨appName id, config.credential⟩

/-- The provider, of the type that `r` asks for, that the configuration of its tenant stands for. -/
def storedProvider (env : ProviderEnv) (db : Database) (config : ProviderConfig)
    (r : ProviderRequest) : Option ProviderInstance :=
  (db.findByClientId r.clientId).bind fun client =>
    described env client.id (config.findOne client.id r.type)

/-- `getProvider(type, clientId)`, or with a provider whose name has no colon in it. -/
def ProviderRequest.Plain (r : ProviderRequest) : Prop :=
  ':' ∉ (orString r.provider "default").toList

instance (r : ProviderRequest) : Decidable r.Plain := inferInstanceAs (Decidable (¬ _))

/-- The arguments of a call. -/
def ProviderCall.request : ProviderCall → ProviderRequest
  | findClient r | clientFound r _ | findConfig r _ | configFound r _ _ | created r _
  | done r _ => r

/-- The provider that a call past its query is about to put into the cache. -/
def ProviderCall.pending (env : ProviderEnv) : ProviderCall → Option ProviderInstance
  | .configFound r id row => (rowOf r.type row).toOption.bind (described env id)
  | .created _ result => result.toOption
  | _ => none

/-- The state of the process. -/
abbrev ProviderPool := Pool ProviderState ProviderCall

/-- A step of the process. -/
abbrev ProviderAct := Act ProviderEvent (Option Failure)

/-- The key that a step removes from the cache, if it is there: by `invalidate`, or by a timer. -/
def removedKey (p : ProviderPool) : ProviderAct → Option String
  | .event (.invalidate r) => some r.key
  | .event (.timeout timer) => p.shared.timers.get? timer
  | _ => none

/-- The tenant and the row for which a call goes on to construct a `FirebaseProvider`. -/
def ProviderCall.firebaseRow : ProviderCall → Option (ℕ × FirebaseConfigEntity)
  | .configFound _ id (.ok (.firebase (some config))) => some (id, config)
  | _ => none

/-- The tenant whose row in `smtp_config` a call is looking for. -/
def ProviderCall.smtpQuery : ProviderCall → Option ℕ
  | .findConfig r id => if r.type = .email then some id else none
  | _ => none

/-- The construction of a `FirebaseProvider` that a step goes on to. -/
def constructing (p : ProviderPool) : ProviderAct → Option (ℕ × FirebaseConfigEntity)
  | .resume i _ => p.threads[i]?.bind ProviderCall.firebaseRow
  | .event _ => none

/-- The query of `smtp_config` that a step rejects. -/
def rejecting (p : ProviderPool) : ProviderAct → Option ℕ
  | .resume i (some _) => p.threads[i]?.bind ProviderCall.smtpQuery
  | _ => none

section
variable (env : ProviderEnv) (db : Database) (cert : FirebaseCredential → Option Failure)

/-- The start of the process, or a state right after `key` has been removed from the cache. -/
def Moment (ok : ProviderPool → ProviderAct → Prop) (config : ProviderConfig) (key : String)
    (q : ProviderPool) : Prop :=
  q = ProviderPool.init config ∨
    ∃ as p a, Run (providerProgram env db cert).step ok (ProviderPool.init config) as p ∧
      ok p a ∧ removedKey p a = some key ∧ (providerProgram env db cert).step p a = some q

/-- In every run whose steps all meet `ok`: a call that starts after a moment for its key, and that
    returns a provider, returns the one that the configuration of its tenant stood for in a state
    since that moment. -/
def Current (ok : ProviderPool → ProviderAct → Prop) (config : ProviderConfig) : Prop :=
  ∀ (r : ProviderRequest) (q p : ProviderPool) (as : List ProviderAct),
    Moment env db cert ok config r.key q → Run (providerProgram env db cert).step ok q as p →
    ∀ i inst, q.threads.length ≤ i → p.threads[i]? = some (.done r (.ok inst)) → r.Plain →
      ∃ t, Visited (providerProgram env db cert).step q as t ∧
        storedProvider env db t.shared.config r = some inst

/-- The condition on a step. -/
structure Coherent (p : ProviderPool) (a : ProviderAct) : Prop where
  /-- when a key is removed, what a call past its query is about to cache is what is stored then -/
  removal : ∀ key ∈ removedKey p a, ∀ call ∈ p.threads, call.request.key = key →
    ∀ inst ∈ call.pending env, storedProvider env db p.shared.config call.request = some inst
  /-- when a `FirebaseProvider` is constructed, an application of the tenant that exists already
      has the credential of the row -/
  app : ∀ x ∈ constructing p a, ∀ credential ∈ p.shared.apps.get? (appName x.1),
    credential = x.2.credential
  /-- when a query of `smtp_config` is rejected, the environment alone makes no provider, or the
      one that is stored -/
  query : ∀ id ∈ rejecting p a, ∀ inst ∈ described env id (.smtp none),
    described env id (p.shared.config.findOne id .email) = some inst

instance (p : ProviderPool) (a : ProviderAct) : Decidable (Coherent env db p a) :=
  decidable_of_iff (_ ∧ _ ∧ _) ⟨fun h => ⟨h.1, h.2.1, h.2.2⟩, fun h => ⟨h.1, h.2, h.3⟩⟩

end

/-! ## Keys -/

/-- What is behind the last occurrence of a separator, and what is in front of it. -/
theorem append_cons_inj {α : Type} {a : α} {l l' m m' : List α} (hm : a ∉ m) (hm' : a ∉ m')
    (h : l ++ a :: m = l' ++ a :: m') : l = l' ∧ m = m' := by
  rcases List.append_eq_append_iff.1 h with ⟨x, rfl, hx⟩ | ⟨x, rfl, hx⟩
  · cases x with
    | nil => exact ⟨by simp, by simpa using hx⟩
    | cons b x =>
      refine absurd ?_ hm
      rw [(List.cons.inj hx).2]
      simp
  · cases x with
    | nil => exact ⟨by simp, by simpa using hx.symm⟩
    | cons b x =>
      refine absurd ?_ hm'
      rw [(List.cons.inj hx).2]
      simp

theorem ProviderLabel.colon_not_mem_text (type : ProviderLabel) : ':' ∉ type.text.toList := by
  cases type <;> decide

theorem ProviderLabel.text_inj {type type' : ProviderLabel}
    (h : type.text.toList = type'.text.toList) : type = type' := by
  revert h
  cases type <;> cases type' <;> decide

theorem ProviderRequest.key_toList (r : ProviderRequest) :
    r.key.toList = (r.clientId.toList ++ ':' :: r.type.text.toList) ++
      ':' :: (orString r.provider "default").toList := by
  simp [ProviderRequest.key]

/-- A key tells the tenant and the type. -/
theorem ProviderRequest.Plain.key_inj {r r' : ProviderRequest} (hr : r.Plain) (hr' : r'.Plain)
    (h : r.key = r'.key) : r.clientId = r'.clientId ∧ r.type = r'.type := by
  have hlist := congrArg String.toList h
  rw [key_toList, key_toList] at hlist
  have hfront := (append_cons_inj hr hr' hlist).1
  obtain ⟨hclient, htype⟩ := append_cons_inj r.type.colon_not_mem_text
    r'.type.colon_not_mem_text hfront
  exact ⟨String.toList_inj.1 hclient, ProviderLabel.text_inj htype⟩

theorem storedProvider_congr {env : ProviderEnv} {db : Database} {config : ProviderConfig}
    {r r' : ProviderRequest} (hr : r.Plain) (hr' : r'.Plain) (h : r.key = r'.key) :
    storedProvider env db config r = storedProvider env db config r' := by
  obtain ⟨hclient, htype⟩ := hr.key_inj hr' h
  rw [storedProvider, storedProvider, hclient, htype]

/-- The stored provider, when the id of the tenant is known. -/
theorem storedProvider_of_client {env : ProviderEnv} {db : Database} {r : ProviderRequest}
    {id : ℕ} (h : ∃ client, db.findByClientId r.clientId = some client ∧ client.id = id)
    (config : ProviderConfig) :
    storedProvider env db config r = described env id (config.findOne id r.type) := by
  obtain ⟨client, hclient, rfl⟩ := h
  rw [storedProvider, hclient, Option.bind_some]

/-- A factory that gets past its `switch` has been given a plain request. -/
theorem plain_of_implemented {env : ProviderEnv} {r : ProviderRequest}
    (h : env.providerType r = r.type.implemented) : r.Plain := by
  have hname : orString r.provider "default" = "default" ∨
      orString r.provider "default" = r.type.implemented := by
    cases hprovider : r.provider with
    | none => exact Or.inl rfl
    | some s =>
      by_cases hs : s = ""
      · exact Or.inl (by simp [orString, hs])
      · refine Or.inr ?_
        cases htype : r.type <;>
          simp_all [ProviderEnv.providerType, orString, ProviderLabel.implemented]
  unfold ProviderRequest.Plain
  rcases hname with hname | hname <;> rw [hname]
  · decide
  · cases r.type <;> decide

/-! ## What a call does -/

section
variable {env : ProviderEnv} {db : Database} {cert : FirebaseCredential → Option Failure}
  {s s' : ProviderState} {rejects : Option Failure} {call call' : ProviderCall}

/-- What `create` constructs from a row is what the row stands for, unless an application of the
    tenant has another credential. -/
theorem create_described {apps : FirebaseApps} {id : ℕ} {row : ConfigRow} {inst : ProviderInstance}
    (h : (create env cert apps id row).2 = .ok inst)
    (happ : ∀ config, row = .firebase (some config) →
      ∀ credential, apps.get? (appName id) = some credential → credential = config.credential) :
    described env id row = some inst := by
  cases row with
  | smtp config =>
    dsimp only [create] at h
    cases hoptions : env.smtpOptions id config with
    | error f => simp [hoptions, Except.map] at h
    | ok provider =>
      simp only [hoptions, Except.map, Except.ok.injEq] at h
      simp [described, hoptions, Except.toOption, h]
  | firebase config =>
    cases config with
    | none => simp [create] at h
    | some config =>
      dsimp only [create, FirebaseApps.provider] at h
      cases hget : apps.get? (appName id) with
      | some credential =>
        have hsame := happ config rfl credential hget
        simp only [hget, Except.map, Except.ok.injEq, hsame] at h
        simp [described, h]
      | none =>
        cases hcert : cert config.credential with
        | some f => simp [hget, hcert, Except.map] at h
        | none =>
          simp only [hget, hcert, Except.map, Except.ok.injEq] at h
          simp [described, h]

/-- What a call knows of its tenant, and that its factory has got past its `switch`. -/
def ProviderCall.Sound (env : ProviderEnv) (db : Database) : ProviderCall → Prop
  | .clientFound r client => ∀ c, client = .ok (some c) → db.findByClientId r.clientId = some c
  | .findConfig r id | .configFound r id _ =>
    env.providerType r = r.type.implemented ∧
      ∃ client, db.findByClientId r.clientId = some client ∧ client.id = id
  | .created r result => result.toOption ≠ none → env.providerType r = r.type.implemented
  | _ => True

/-- A call that is about to cache something has been given a plain request. -/
theorem ProviderCall.Sound.plain {inst : ProviderInstance} (h : call.Sound env db)
    (hpending : call.pending env = some inst) : call.request.Plain := by
  cases call with
  | configFound r id row => exact plain_of_implemented h.1
  | created r result =>
    have hresult : result.toOption = some inst := hpending
    exact plain_of_implemented (h (by simp [hresult]))
  | _ => cases hpending

/-- A call keeps its arguments. -/
theorem ProviderEdge.request_eq (h : ProviderEdge env db cert s rejects call s' call') :
    call'.request = call.request := by
  cases h <;> rfl

theorem ProviderEdge.sound (h : ProviderEdge env db cert s rejects call s' call')
    (hsound : call.Sound env db) : call'.Sound env db := by
  cases h with
  | answered hclient => exact hclient
  | unknown | fail | install | stay => trivial
  | unsupported | passOn => exact fun hne => absurd rfl hne
  | supported himplemented => exact ⟨himplemented, _, hsound _ rfl, rfl⟩
  | read | rejected => exact hsound
  | construct => exact fun _ => hsound.1

/-- **Where a provider comes from.**  What a call is about to cache it was about to cache before the
    step, or it stands for what is stored now: the row has just been read. -/
theorem ProviderEdge.pending (h : ProviderEdge env db cert s rejects call s' call')
    (hsound : call.Sound env db)
    (happ : ∀ x ∈ call.firebaseRow, ∀ credential ∈ s.apps.get? (appName x.1),
      credential = x.2.credential)
    (hquery : ∀ f, rejects = some f → ∀ id ∈ call.smtpQuery,
      ∀ inst ∈ described env id (.smtp none),
        described env id (s.config.findOne id .email) = some inst)
    {inst : ProviderInstance} (hpending : call'.pending env = some inst) :
    call.pending env = some inst ∨ storedProvider env db s.config call.request = some inst := by
  cases h with
  | answered | unknown | unsupported | supported | passOn | fail | install | stay => cases hpending
  | @read r id =>
    refine Or.inr ?_
    exact (storedProvider_of_client hsound.2 s.config).trans hpending
  | @rejected r id f hrejects =>
    refine Or.inr ((storedProvider_of_client hsound.2 s.config).trans ?_)
    cases htype : r.type with
    | email =>
      refine hquery f hrejects id (by simp [ProviderCall.smtpQuery, htype]) inst ?_
      simpa [ProviderCall.pending, rowOf, htype, Except.toOption] using hpending
    | auth => simp [ProviderCall.pending, rowOf, htype, Except.toOption] at hpending
  | @construct r id row row' hrow =>
    refine Or.inl ?_
    have hcreate : (create env cert s.apps id row').2 = .ok inst := by
      change (create env cert s.apps id row').2.toOption = some inst at hpending
      cases hresult : (create env cert s.apps id row').2 with
      | error f => simp [hresult, Except.toOption] at hpending
      | ok inst' => simpa [hresult, Except.toOption] using hpending
    have hdescribed := create_described hcreate fun config hconfig => by
      subst hconfig
      refine happ (id, config) ?_
      cases row with
      | ok row => cases hrow; rfl
      | error f => cases htype : r.type <;> simp [rowOf, htype] at hrow
    simpa [ProviderCall.pending, hrow, Except.toOption] using hdescribed

/-- What a call returns is what it was about to cache. -/
theorem ProviderEdge.returned {r : ProviderRequest} {inst : ProviderInstance}
    (h : ProviderEdge env db cert s rejects call s' (.done r (.ok inst)))
    (hrunning : call.running = true) : call.pending env = some inst := by
  cases h with
  | install => rfl
  | stay => cases hrunning

/-- What is in the cache after a call has gone on was there, or the call was about to cache it. -/
theorem ProviderEdge.cached (h : ProviderEdge env db cert s rejects call s' call') {key : String}
    {entry : CProviderFactory} (hentry : s'.cache.get? key = some entry) :
    s.cache.get? key = some entry ∨
      call.request.key = key ∧ call.pending env = some entry.instance_ := by
  cases h with
  | @install r inst =>
    rw [ProviderState.get?_install] at hentry
    split_ifs at hentry with hkey
    · cases hentry
      exact Or.inr ⟨hkey.symm, rfl⟩
    · exact Or.inl hentry
  | answered | unknown | unsupported | supported | read | rejected | passOn | construct | fail
  | stay => exact Or.inl hentry

theorem resume_edge {new : List ProviderCall}
    (h : (providerProgram env db cert).resume s call rejects = some (s', call', new)) :
    call.running = true ∧ ProviderEdge env db cert s rejects call s' call' ∧ new = [] := by
  dsimp only [providerProgram] at h
  split_ifs at h with hrunning
  have hedge := providerRun_edge env db cert s rejects call
  cases h
  exact ⟨hrunning, hedge, rfl⟩

/-- An event starts no call that is past its query, puts no provider into the cache that was not
    there, and returns none that was not. -/
theorem event_spec {e : ProviderEvent} {new : List ProviderCall}
    (h : (providerProgram env db cert).event s e = some (s', new)) :
    (∀ call ∈ new, call.Sound env db ∧ call.pending env = none) ∧
    (∀ key entry, s'.cache.get? key = some entry →
      ∃ old, s.cache.get? key = some old ∧ old.instance_ = entry.instance_) ∧
    ∀ r inst, .done r (.ok inst) ∈ new →
      ∃ old, s.cache.get? r.key = some old ∧ old.instance_ = inst := by
  cases e with
  | getProvider r =>
    cases h
    unfold getProvider
    cases hcached : s.cache.get? r.key with
    | some cached =>
      refine ⟨by simp [ProviderCall.Sound, ProviderCall.pending], fun key entry hentry => ?_, ?_⟩
      · rw [ProviderState.get?_install] at hentry
        split_ifs at hentry with hkey
        · cases hentry
          exact ⟨cached, hkey ▸ hcached, rfl⟩
        · exact ⟨entry, hentry, rfl⟩
      · intro r' inst hmem
        cases List.mem_singleton.1 hmem
        exact ⟨cached, hcached, rfl⟩
    | none =>
      exact ⟨by simp [ProviderCall.Sound, ProviderCall.pending],
        fun key entry hentry => ⟨entry, hentry, rfl⟩, by simp⟩
  | invalidate r =>
    cases h
    exact ⟨by simp, fun key entry hentry =>
      ⟨entry, s.cached_of_removeFromCache hentry, rfl⟩, by simp⟩
  | timeout timer =>
    obtain ⟨key', -, h⟩ := Option.map_eq_some_iff.1 h
    cases h
    exact ⟨by simp, fun key entry hentry =>
      ⟨entry, (s.clearTimeout timer).cached_of_removeFromCache hentry, rfl⟩, by simp⟩
  | configure config =>
    cases h
    exact ⟨by simp, fun key entry hentry => ⟨entry, hentry, rfl⟩, by simp⟩

end

/-! ## What is held for a key -/

section
variable {env : ProviderEnv} {db : Database} {cert : FirebaseCredential → Option Failure}
  {p p' : ProviderPool} {a : ProviderAct}

/-- Every call knows its tenant. -/
theorem step_sound (h : ∀ call ∈ p.threads, call.Sound env db)
    (hst : (providerProgram env db cert).step p a = some p') :
    ∀ call ∈ p'.threads, call.Sound env db := by
  refine (Program.step_inv (G := fun _ => True) (L := fun _ call => call.Sound env db)
    ?_ ?_ ⟨trivial, h⟩ hst).2
  · intro s e s' new _ he
    exact ⟨trivial, fun _ hcall => hcall, fun call hcall => ((event_spec he).1 call hcall).1⟩
  · intro s call rejects s' call' new _ hsound hresume
    obtain ⟨-, hedge, rfl⟩ := resume_edge hresume
    exact ⟨trivial, fun _ hcall => hcall, hedge.sound hsound, List.forall_mem_nil _⟩

/-- The providers that are around for the key of `r`: a call past its query is about to cache it,
    it is cached, or a call from number `n` on has returned it. -/
inductive Held (env : ProviderEnv) (r : ProviderRequest) (n : ℕ) (p : ProviderPool) :
    ProviderInstance → Prop
  | pending {call inst} : call ∈ p.threads → call.request.key = r.key →
      call.pending env = some inst → Held env r n p inst
  | cached {entry} : p.shared.cache.get? r.key = some entry → Held env r n p entry.instance_
  | returned {i r' inst} : n ≤ i → p.threads[i]? = some (.done r' (.ok inst)) → r'.key = r.key →
      Held env r n p inst

/-- **A step takes a provider up from the stored configuration, or it was around before.** -/
theorem held_step {r : ProviderRequest} {n : ℕ} {inst : ProviderInstance} (hr : r.Plain)
    (hsound : ∀ call ∈ p.threads, call.Sound env db) (hok : Coherent env db p a)
    (hst : (providerProgram env db cert).step p a = some p') (h : Held env r n p' inst) :
    Held env r n p inst ∨ storedProvider env db p.shared.config r = some inst := by
  obtain ⟨e, s, new, rfl, he, rfl⟩ | ⟨i, c, call, s, call', new, rfl, hcall, hresume, rfl⟩ :=
    Program.step_cases hst
  · obtain ⟨hnew, hcache, hdone⟩ := event_spec he
    refine Or.inl ?_
    cases h with
    | pending hmem hkey hpending =>
      rcases List.mem_append.1 hmem with hmem | hmem
      · exact .pending hmem hkey hpending
      · rw [(hnew _ hmem).2] at hpending
        cases hpending
    | cached hentry =>
      obtain ⟨old, hold, hinst⟩ := hcache _ _ hentry
      exact hinst ▸ .cached hold
    | @returned j r' inst hle hj hkey =>
      by_cases hlt : j < p.threads.length
      · rw [List.getElem?_append_left hlt] at hj
        exact .returned hle hj hkey
      · rw [List.getElem?_append_right (by omega)] at hj
        obtain ⟨old, hold, rfl⟩ := hdone _ _ (List.mem_of_getElem? hj)
        exact .cached (hkey ▸ hold)
  · obtain ⟨hrunning, hedge, rfl⟩ := resume_edge hresume
    have hmem : call ∈ p.threads := List.mem_of_getElem? hcall
    rw [List.append_nil] at h
    cases h with
    | pending hmem' hkey hpending =>
      rcases List.mem_or_eq_of_mem_set hmem' with hmem' | rfl
      · exact Or.inl (.pending hmem' hkey hpending)
      · have hplain := (hedge.sound (hsound call hmem)).plain hpending
        rw [hedge.request_eq] at hkey hplain
        rcases hedge.pending (hsound call hmem)
          (fun x hx => hok.app x (by simp [constructing, hcall, Option.mem_def.1 hx]))
          (fun f hrejects id hid => hok.query id (by
            simp [rejecting, hrejects, hcall, Option.mem_def.1 hid]))
          hpending with hbefore | hstored
        · exact Or.inl (.pending hmem hkey hbefore)
        · exact Or.inr (storedProvider_congr hplain hr hkey ▸ hstored)
    | cached hentry =>
      refine Or.inl ?_
      rcases hedge.cached hentry with hbefore | ⟨hkey, hpending⟩
      · exact .cached hbefore
      · exact .pending hmem hkey hpending
    | @returned j r' inst hle hj hkey =>
      refine Or.inl ?_
      by_cases hij : i = j
      · subst hij
        rw [List.getElem?_set_self (List.getElem?_eq_some_iff.1 hcall).1] at hj
        cases hj
        have hrequest : call.request = r' := hedge.request_eq.symm
        exact .pending hmem (hrequest ▸ hkey) (hedge.returned hrunning)
      · rw [List.getElem?_set_ne hij] at hj
        exact .returned hle hj hkey

/-- Removing a key leaves nothing in the cache for it. -/
theorem removedKey_spec {key : String} (h : removedKey p a = some key)
    (hst : (providerProgram env db cert).step p a = some p') :
    p'.threads = p.threads ∧ p'.shared.config = p.shared.config ∧
      p'.shared.cache.get? key = none := by
  cases a with
  | resume i c => cases h
  | event e =>
    obtain ⟨⟨s, new⟩, he, rfl⟩ := Option.map_eq_some_iff.1 hst
    cases e with
    | getProvider r => cases h
    | configure config => cases h
    | invalidate r =>
      cases h
      cases he
      simp
    | timeout timer =>
      obtain ⟨key', hkey', he⟩ := Option.map_eq_some_iff.1 he
      cases he
      cases hkey'.symm.trans h
      simp

theorem run_sound {ok : ProviderPool → ProviderAct → Prop} {as : List ProviderAct}
    (h : Run (providerProgram env db cert).step ok p as p')
    (h0 : ∀ call ∈ p.threads, call.Sound env db) : ∀ call ∈ p'.threads, call.Sound env db :=
  h.inv h0 fun _ _ _ hsound _ hst => step_sound hsound hst

section
variable {config : ProviderConfig} {r : ProviderRequest} {q : ProviderPool}

theorem Moment.sound {ok : ProviderPool → ProviderAct → Prop} {key : String}
    (h : Moment env db cert ok config key q) : ∀ call ∈ q.threads, call.Sound env db := by
  have h0 : ∀ call ∈ (ProviderPool.init config).threads, call.Sound env db :=
    List.forall_mem_nil _
  rcases h with rfl | ⟨as, p, a, hrun, -, -, hst⟩
  · exact h0
  · exact step_sound (run_sound hrun h0) hst

/-- What is around at a moment stands for what is stored then. -/
theorem Moment.held {inst : ProviderInstance} (hr : r.Plain)
    (h : Moment env db cert (Coherent env db) config r.key q)
    (hheld : Held env r q.threads.length q inst) :
    storedProvider env db q.shared.config r = some inst := by
  have hsound := h.sound
  rcases h with rfl | ⟨as, p, a, hrun, hok, hremoves, hst⟩
  · cases hheld with
    | pending hmem => cases hmem
    | cached hentry => cases hentry
    | returned _ hi => simp [ProviderPool.init] at hi
  · obtain ⟨hthreads, hconfig, hcache⟩ := removedKey_spec hremoves hst
    cases hheld with
    | @pending call inst hmem hkey hpending =>
      have hplain := (hsound call hmem).plain hpending
      rw [hthreads] at hmem
      rw [hconfig, ← storedProvider_congr hplain hr hkey]
      exact hok.removal r.key hremoves call hmem hkey inst hpending
    | cached hentry =>
      rw [hcache] at hentry
      cases hentry
    | returned hle hi =>
      rw [List.getElem?_eq_none hle] at hi
      cases hi

end

/-- **Current under coherence.**  In every run whose steps are coherent, what `getProvider` returns
    is what the configuration of its own tenant stood for, in a state after the key was last
    removed from the cache. -/
theorem coherent_current (env : ProviderEnv) (db : Database)
    (cert : FirebaseCredential → Option Failure) (config : ProviderConfig) :
    Current env db cert (Coherent env db) config := by
  intro r q p as hmoment hrun i inst hle hdone hr
  have hheld : Held env r q.threads.length p inst := .returned hle hdone rfl
  refine hrun.traced (I := fun p => ∀ call ∈ p.threads, call.Sound env db)
    (Held env r q.threads.length)
    (fun t inst => storedProvider env db t.shared.config r = some inst)
    hmoment.sound (fun _ _ _ hsound hst => step_sound hsound hst) ?_ ?_ hheld
  · exact fun _ hstart => hmoment.held hr hstart
  · exact fun _ _ _ _ hsound hok hst hlater => held_step hr hsound hok hst hlater

end

/-- A tenant. -/
def acme : Database where
  client := [⟨1, "acme", .ACTIVE⟩]

/-- Its mail server, at one host or another. -/
def mailAt (host : String) : ProviderConfig where
  smtp_config := [⟨1, "no-reply@acme.test", host, 465, "no-reply", "secret", .ssl⟩]

/-- The provider of its mails. -/
def acmeMail : ProviderRequest := ⟨.email, "acme", none⟩

/-- Call number `n`, which misses the cache, from its start to its end. -/
def wholeCall (r : ProviderRequest) (n : ℕ) : List ProviderAct :=
  .event (.getProvider r) :: List.replicate 5 (.resume n none)

/-- A call, a change of the host, `invalidate`, and another call: it returns the new host. -/
theorem coherent_current_moved :
    ∃ q p, Moment {} acme (fun _ => none) (Coherent {} acme) (mailAt "old") acmeMail.key q ∧
      Run (providerProgram {} acme fun _ => none).step (Coherent {} acme) q
        (wholeCall acmeMail 1) p ∧
      p.threads[1]? = some (.done acmeMail
        (.ok (.email ⟨"new", .column 465, true, "no-reply", "secret", "no-reply@acme.test"⟩))) ∧
      ∃ t, Visited (providerProgram {} acme fun _ => none).step q (wholeCall acmeMail 1) t ∧
        storedProvider {} acme t.shared.config acmeMail =
          some (.email ⟨"new", .column 465, true, "no-reply", "secret", "no-reply@acme.test"⟩) := by
  have hruns : ((exec (guarded (providerProgram {} acme fun _ => none).step (Coherent {} acme))
      (ProviderPool.init (mailAt "old"))
      (wholeCall acmeMail 0 ++ [.event (.configure (mailAt "new"))])).any fun p₀ =>
        decide (Coherent {} acme p₀ (.event (.invalidate acmeMail))) &&
        ((providerProgram {} acme fun _ => none).step p₀ (.event (.invalidate acmeMail))).any
          fun q => (exec (guarded (providerProgram {} acme fun _ => none).step (Coherent {} acme)) q
            (wholeCall acmeMail 1)).any fun p => decide (q.threads.length ≤ 1 ∧
              p.threads[1]? = some (.done acmeMail (.ok (.email ⟨"new", .column 465, true,
                "no-reply", "secret", "no-reply@acme.test"⟩))))) = true := by decide +kernel
  simp only [Option.any_eq_true, Bool.and_eq_true, decide_eq_true_eq] at hruns
  obtain ⟨p₀, hp₀, hok, q, hq, p, hp, hlt, hdone⟩ := hruns
  have hmoment : Moment {} acme (fun _ => none) (Coherent {} acme) (mailAt "old") acmeMail.key q :=
    Or.inr ⟨_, p₀, _, run_of_exec_guarded hp₀, hok, rfl, hq⟩
  have hrun := run_of_exec_guarded hp
  exact ⟨q, p, hmoment, hrun, hdone, coherent_current {} acme (fun _ => none) (mailAt "old")
    acmeMail q p _ hmoment hrun 1 _ hlt hdone (by decide)⟩

section
variable {env : ProviderEnv} {db : Database} {cert : FirebaseCredential → Option Failure}
  {p p' : ProviderPool} {a : ProviderAct}

/-! ## Calls that break it -/

/-- Only a change of the configuration changes the configuration. -/
theorem step_config (ha : ∀ config, a ≠ .event (.configure config))
    (hst : (providerProgram env db cert).step p a = some p') :
    p'.shared.config = p.shared.config := by
  obtain ⟨e, s, new, rfl, he, rfl⟩ | ⟨i, c, call, s, call', new, rfl, hcall, hresume, rfl⟩ :=
    Program.step_cases hst
  · cases e with
    | getProvider r =>
      cases he
      dsimp only [getProvider]
      split <;> rfl
    | invalidate r =>
      cases he
      simp
    | timeout timer =>
      obtain ⟨key, -, he⟩ := Option.map_eq_some_iff.1 he
      cases he
      simp
    | configure config => exact absurd rfl (ha config)
  · obtain ⟨-, hedge, -⟩ := resume_edge hresume
    cases hedge <;> rfl

theorem visited_config {as : List ProviderAct} {t : ProviderPool}
    (h : Visited (providerProgram env db cert).step p as t)
    (has : ∀ a ∈ as, ∀ config, a ≠ .event (.configure config)) :
    t.shared.config = p.shared.config := by
  obtain ⟨as', hpre, hrun⟩ := h
  refine (hrun.and_forall fun a ha => has a (hpre.subset ha)).inv (I := fun t =>
    t.shared.config = p.shared.config) rfl ?_
  intro s a s' hs ha hst
  exact (step_config ha.2 hst).trans hs

section
variable {config : ProviderConfig} {r : ProviderRequest} {q : ProviderPool} {as : List ProviderAct}
  {inst : ProviderInstance}

/-- A call that returns something else than what is stored all the time since the key was removed
    is not current. -/
theorem not_current_of_stale {bs : List ProviderAct} {i : ℕ} (hr : r.Plain)
    (hrun : Run (providerProgram env db cert).step anyStep (ProviderPool.init config) as p)
    (hremoved : removedKey p a = some r.key)
    (hst : (providerProgram env db cert).step p a = some q)
    (hrest : Run (providerProgram env db cert).step anyStep q bs p')
    (hbs : ∀ b ∈ bs, ∀ config, b ≠ .event (.configure config))
    (hlt : q.threads.length ≤ i) (hi : p'.threads[i]? = some (.done r (.ok inst)))
    (hstored : storedProvider env db q.shared.config r ≠ some inst) :
    ¬ Current env db cert anyStep config := by
  intro hcurrent
  obtain ⟨t, ht, hprovider⟩ := hcurrent r q p' bs
    (Or.inr ⟨as, p, a, hrun, trivial, hremoved, hst⟩) hrest i inst hlt hi hr
  rw [visited_config ht hbs] at hprovider
  exact hstored hprovider

/-- **A late call.**  If a call is about to cache an outdated provider when its key is removed, the
    call comes after the removal and the next one returns the outdated provider. -/
theorem late_install {i : ℕ} (hr : r.Plain)
    (hrun : Run (providerProgram env db cert).step anyStep (ProviderPool.init config) as p)
    (hcall : p.threads[i]? = some (.created r (.ok inst)))
    (hremoved : removedKey p a = some r.key)
    (hst : (providerProgram env db cert).step p a = some q)
    (hstored : storedProvider env db p.shared.config r ≠ some inst) :
    ¬ Current env db cert anyStep config := by
  obtain ⟨hthreads, hconfig, -⟩ := removedKey_spec hremoved hst
  have hinstall : (providerProgram env db cert).step q (.resume i none) =
      some ⟨q.shared.install r.key inst, q.threads.set i (.done r (.ok inst))⟩ := by
    simp [Program.step, hthreads, hcall, providerProgram, ProviderCall.running, providerRun]
  have hhit : ∃ s, (providerProgram env db cert).step
      ⟨q.shared.install r.key inst, q.threads.set i (.done r (.ok inst))⟩
      (.event (.getProvider r)) =
      some ⟨s, q.threads.set i (.done r (.ok inst)) ++ [.done r (.ok inst)]⟩ := by
    simp [Program.step, providerProgram, getProvider, ProviderState.get?_install]
  obtain ⟨s, hhit⟩ := hhit
  have hlast : (q.threads.set i (.done r (.ok inst)) ++ [.done r (.ok inst)])[q.threads.length]? =
      some (.done r (.ok inst)) := by simp
  refine not_current_of_stale hr hrun hremoved hst
    ((Run.single trivial hinstall).snoc trivial hhit) (by simp) le_rfl hlast ?_
  rwa [hconfig]

/-- The call that was started last goes on. -/
theorem step_last_call {s s' : ProviderState} {l : List ProviderCall} {call call' : ProviderCall}
    (hrunning : call.running = true) (h : providerRun env db cert s none call = (s', call')) :
    (providerProgram env db cert).step ⟨s, l ++ [call]⟩ (.resume l.length none) =
      some ⟨s', l ++ [call']⟩ := by
  simp [Program.step_last, providerProgram, hrunning, h]

/-- **A call on its own.**  A call that misses the cache, and that nothing else comes between,
    returns what `create` makes of the stored row, and caches it. -/
theorem getProvider_solo {s : ProviderState} {l : List ProviderCall} {client : ClientEntity}
    (hmiss : s.cache.get? r.key = none) (hclient : db.findByClientId r.clientId = some client)
    (himplemented : env.providerType r = r.type.implemented) {apps : FirebaseApps}
    (hcreate : create env cert s.apps client.id (s.config.findOne client.id r.type) =
      (apps, .ok inst)) :
    Run (providerProgram env db cert).step anyStep ⟨s, l⟩ (wholeCall r l.length)
      ⟨{ s with apps := apps }.install r.key inst, l ++ [.done r (.ok inst)]⟩ := by
  have hmissed : (providerProgram env db cert).step ⟨s, l⟩ (.event (.getProvider r)) =
      some ⟨s, l ++ [.findClient r]⟩ := by
    simp [Program.step, providerProgram, getProvider, hmiss]
  have htenant : providerRun env db cert s none (.findClient r) =
      (s, .clientFound r (.ok (some client))) := by
    simp [providerRun, hclient]
  have hswitch : providerRun env db cert s none (.clientFound r (.ok (some client))) =
      (s, .findConfig r client.id) := by
    simp [providerRun, himplemented]
  have hread : providerRun env db cert s none (.findConfig r client.id) =
      (s, .configFound r client.id (.ok (s.config.findOne client.id r.type))) := rfl
  have hcreated : providerRun env db cert s none
      (.configFound r client.id (.ok (s.config.findOne client.id r.type))) =
      ({ s with apps := apps }, .created r (.ok inst)) := by
    simp [providerRun, rowOf, hcreate]
  exact .cons trivial hmissed (.cons trivial (step_last_call rfl htenant)
    (.cons trivial (step_last_call rfl hswitch) (.cons trivial (step_last_call rfl hread)
      (.cons trivial (step_last_call rfl hcreated) (.single trivial (step_last_call rfl rfl))))))

/-- **A stale application.**  As soon as a tenant has an application whose credential is not the
    stored one, `invalidate` and the next call return the old credential. -/
theorem stale_app {client : ClientEntity} {row : FirebaseConfigEntity}
    {credential : FirebaseCredential} (htype : r.type = .auth)
    (himplemented : env.providerType r = r.type.implemented)
    (hclient : db.findByClientId r.clientId = some client)
    (hrun : Run (providerProgram env db cert).step anyStep (ProviderPool.init config) as p)
    (hrow : p.shared.config.findOne client.id .auth = .firebase (some row))
    (happ : p.shared.apps.get? (appName client.id) = some credential)
    (hne : row.credential ≠ credential) : ¬ Current env db cert anyStep config := by
  have hst : (providerProgram env db cert).step p (.event (.invalidate r)) =
      some ⟨p.shared.removeFromCache r.key, p.threads⟩ := by
    simp [Program.step, providerProgram]
  have hremoved : removedKey p (.event (.invalidate r)) = some r.key := rfl
  have hmiss : (p.shared.removeFromCache r.key).cache.get? r.key = none := by simp
  have hcreate : create env cert (p.shared.removeFromCache r.key).apps client.id
      ((p.shared.removeFromCache r.key).config.findOne client.id r.type) =
      ((p.shared.removeFromCache r.key).apps, .ok (.auth ⟨appName client.id, credential⟩)) := by
    simp [htype, hrow, create, FirebaseApps.provider, happ, Except.map]
  have hstored : storedProvider env db (p.shared.removeFromCache r.key).config r =
      some (.auth ⟨appName client.id, row.credential⟩) := by
    rw [storedProvider_of_client ⟨client, hclient, rfl⟩]
    simp [htype, hrow, described]
  refine not_current_of_stale (i := p.threads.length) (plain_of_implemented himplemented) hrun
    hremoved hst (getProvider_solo hmiss hclient himplemented hcreate) ?_ le_rfl
    List.getElem?_concat_length ?_
  · simp [wholeCall]
  · rw [hstored]
    simpa using hne

end

end

/-- The application of a tenant, with one key or another. -/
def firebaseWith (privateKey : String) : ProviderConfig where
  firebase_config := [⟨1, "acme-app", privateKey, "admin@acme-app.test"⟩]

/-- The provider that checks its identity tokens. -/
def acmeAuth : ProviderRequest := ⟨.auth, "acme", none⟩

/-- A call, and a change of the key: whatever is invalidated, the old key stays in use. -/
theorem not_current_of_new_key :
    ¬ Current {} acme (fun _ => none) anyStep (firebaseWith "old key") := by
  have hruns : ((exec (providerProgram {} acme fun _ => none).step
      (ProviderPool.init (firebaseWith "old key"))
      (wholeCall acmeAuth 0 ++ [.event (.configure (firebaseWith "new key"))])).any fun p =>
        decide (p.shared.config = firebaseWith "new key" ∧ p.shared.apps.get? (appName 1) =
          some ⟨"acme-app", "admin@acme-app.test", "old key"⟩)) = true := by decide +kernel
  simp only [Option.any_eq_true, decide_eq_true_eq] at hruns
  obtain ⟨p, hp, hconfig, happ⟩ := hruns
  have hrow : p.shared.config.findOne 1 .auth =
      .firebase (some ⟨1, "acme-app", "new key", "admin@acme-app.test"⟩) := by
    rw [hconfig]
    rfl
  have hclient : acme.findByClientId acmeAuth.clientId = some ⟨1, "acme", .ACTIVE⟩ := rfl
  exact stale_app rfl rfl hclient (run_of_exec hp) hrow happ (by decide +kernel)

end ProviderFactory

end GatewayRealtime
