/-
  The timers of the cache of providers (`provider-factory.service.ts`).

  * `Timed`: every entry of the cache has a pending timer of its own, which removes it.
  * `Tidy`: every pending timer is that of an entry.
  * `InstallsFirst`: a call that puts a provider into the cache finds no entry there.
  * `timed_run`: every entry is timed, in every run.
  * `tidy_iff`: no timer is left over, throughout a run, exactly when no call overwrites an entry.

  The timer of an overwritten entry stays pending: when it expires it removes the newer entry,
  whose own time is not up.
-/
import GatewayRealtime.ProviderCache

namespace GatewayRealtime

namespace ProviderFactory

/-- Every entry of the cache has a pending timer of its own, and no timer has a number that is
    still to be given. -/
structure ProviderState.Timed (s : ProviderState) : Prop where
  entry : ∀ key entry, s.cache.get? key = some entry → s.timers.get? entry.timer = some key
  fresh : ∀ timer key, s.timers.get? timer = some key → timer < s.nextTimer

/-- Every pending timer is that of an entry. -/
def ProviderState.Tidy (s : ProviderState) : Prop :=
  ∀ timer key, s.timers.get? timer = some key →
    ∃ entry, s.cache.get? key = some entry ∧ entry.timer = timer

/-- The key under which a call puts its provider into the cache next. -/
def ProviderCall.installs : ProviderCall → Option String
  | .created r (.ok _) => some r.key
  | _ => none

/-- A call that puts a provider into the cache finds no entry there: since it has missed the cache,
    no other call has put one there that is still there. -/
def InstallsFirst (p : ProviderPool) : ProviderAct → Prop
  | .resume i _ => ∀ key ∈ (p.threads[i]?).bind ProviderCall.installs,
    p.shared.cache.get? key = none
  | .event _ => True

instance (p : ProviderPool) (a : ProviderAct) : Decidable (InstallsFirst p a) :=
  match a with
  | .resume i _ => inferInstanceAs (Decidable
      (∀ key ∈ (p.threads[i]?).bind ProviderCall.installs, p.shared.cache.get? key = none))
  | .event _ => isTrue trivial

section
variable {s s' : ProviderState} {key : String} {timer : ℕ}

/-! ## The elementary changes -/

theorem ProviderState.get?_clearTimeout (timer timer' : ℕ) :
    (s.clearTimeout timer).timers.get? timer' =
      if timer' = timer then none else s.timers.get? timer' := by
  simp [ProviderState.clearTimeout]

theorem ProviderState.get?_install_timers (key : String) (inst : ProviderInstance) (timer : ℕ) :
    (s.install key inst).timers.get? timer =
      if timer = s.nextTimer then some key else s.timers.get? timer := by
  simp [ProviderState.install]

/-- Without an entry there is nothing to remove. -/
theorem ProviderState.removeFromCache_of_none (h : s.cache.get? key = none) :
    s.removeFromCache key = s := by
  simp [ProviderState.removeFromCache, h]

theorem ProviderState.get?_removeFromCache_timers {entry : CProviderFactory}
    (h : s.cache.get? key = some entry) (timer' : ℕ) :
    (s.removeFromCache key).timers.get? timer' =
      if timer' = entry.timer then none else s.timers.get? timer' := by
  simp [ProviderState.removeFromCache, h, ProviderState.clearTimeout]

@[simp] theorem ProviderState.removeFromCache_nextTimer (key : String) :
    (s.removeFromCache key).nextTimer = s.nextTimer := by
  unfold ProviderState.removeFromCache
  split <;> rfl

/-- Only what is looked up matters. -/
theorem ProviderState.Timed.congr (h : s.Timed)
    (hcache : ∀ key, s'.cache.get? key = s.cache.get? key)
    (htimers : ∀ timer, s'.timers.get? timer = s.timers.get? timer)
    (hnext : s'.nextTimer = s.nextTimer) : s'.Timed where
  entry key entry hentry := by
    rw [hcache] at hentry
    rw [htimers, h.entry key entry hentry]
  fresh timer key hpending := by
    rw [htimers] at hpending
    rw [hnext]
    exact h.fresh timer key hpending

theorem ProviderState.Tidy.congr (h : s.Tidy)
    (hcache : ∀ key, s'.cache.get? key = s.cache.get? key)
    (htimers : ∀ timer, s'.timers.get? timer = s.timers.get? timer) : s'.Tidy := by
  intro timer key hpending
  rw [htimers] at hpending
  rw [hcache]
  exact h timer key hpending

/-! ### Entries keep their timers -/

theorem ProviderState.Timed.install (h : s.Timed) (key : String) (inst : ProviderInstance) :
    (s.install key inst).Timed where
  entry key' entry hentry := by
    rw [get?_install] at hentry
    rw [get?_install_timers]
    split_ifs at hentry with hkey
    · cases hentry
      rw [if_pos rfl, hkey]
    · have hpending := h.entry key' entry hentry
      rwa [if_neg (Nat.ne_of_lt (h.fresh _ _ hpending))]
  fresh timer key' hpending := by
    rw [get?_install_timers] at hpending
    change timer < s.nextTimer + 1
    split_ifs at hpending with htimer
    · omega
    · have hlt := h.fresh timer key' hpending
      omega

/-- A timer that no entry has can go. -/
theorem ProviderState.Timed.clearTimeout (h : s.Timed)
    (hfree : ∀ key entry, s.cache.get? key = some entry → entry.timer ≠ timer) :
    (s.clearTimeout timer).Timed where
  entry key entry hentry := by
    rw [get?_clearTimeout, if_neg (hfree key entry hentry)]
    exact h.entry key entry hentry
  fresh timer' key hpending := by
    rw [get?_clearTimeout] at hpending
    split_ifs at hpending
    exact h.fresh timer' key hpending

/-- Entries of different keys have different timers. -/
theorem ProviderState.Timed.timer_ne (h : s.Timed) {key' : String} {entry : CProviderFactory}
    (hentry : s.cache.get? key' = some entry) (htimer : s.timers.get? timer = some key)
    (hne : key' ≠ key) : entry.timer ≠ timer := by
  rintro rfl
  rw [h.entry key' entry hentry] at htimer
  exact hne (Option.some.inj htimer)

theorem ProviderState.Timed.removeFromCache (h : s.Timed) (key : String) :
    (s.removeFromCache key).Timed := by
  cases hentry : s.cache.get? key with
  | none => rwa [s.removeFromCache_of_none hentry]
  | some entry =>
    constructor
    · intro key' entry' hentry'
      rw [get?_removeFromCache] at hentry'
      split_ifs at hentry' with hkey
      rw [get?_removeFromCache_timers hentry,
        if_neg (h.timer_ne hentry' (h.entry key entry hentry) hkey)]
      exact h.entry key' entry' hentry'
    · intro timer key' hpending
      rw [get?_removeFromCache_timers hentry] at hpending
      rw [removeFromCache_nextTimer]
      split_ifs at hpending
      exact h.fresh timer key' hpending

/-! ### Left-over timers -/

/-- A new entry leaves no timer behind if it overwrites none. -/
theorem ProviderState.Tidy.install (h : s.Tidy) (hnone : s.cache.get? key = none)
    (inst : ProviderInstance) : (s.install key inst).Tidy := by
  intro timer key' hpending
  rw [get?_install_timers] at hpending
  split_ifs at hpending with htimer
  · cases hpending
    exact ⟨_, by rw [get?_install, if_pos rfl], htimer.symm⟩
  · obtain ⟨entry, hentry, hsame⟩ := h timer key' hpending
    refine ⟨entry, ?_, hsame⟩
    have hne : key' ≠ key := by
      rintro rfl
      rw [hnone] at hentry
      cases hentry
    rw [get?_install, if_neg hne, hentry]

/-- The timer of the entry that it overwrites is left over. -/
theorem ProviderState.Timed.not_tidy_install (h : s.Timed) {old : CProviderFactory}
    (hold : s.cache.get? key = some old) (inst : ProviderInstance) :
    ¬ (s.install key inst).Tidy := by
  intro htidy
  have hpending := h.entry key old hold
  have hlt := h.fresh _ _ hpending
  obtain ⟨entry, hentry, hsame⟩ := htidy old.timer key (by
    rw [get?_install_timers, if_neg (Nat.ne_of_lt hlt), hpending])
  rw [get?_install, if_pos rfl] at hentry
  cases hentry
  exact absurd hsame (Nat.ne_of_gt hlt)

theorem ProviderState.Tidy.clearTimeout (h : s.Tidy) (timer : ℕ) : (s.clearTimeout timer).Tidy := by
  intro timer' key hpending
  rw [get?_clearTimeout] at hpending
  split_ifs at hpending
  exact h timer' key hpending

theorem ProviderState.Tidy.removeFromCache (h : s.Tidy) (key : String) :
    (s.removeFromCache key).Tidy := by
  cases hentry : s.cache.get? key with
  | none => rwa [s.removeFromCache_of_none hentry]
  | some entry =>
    intro timer key' hpending
    rw [get?_removeFromCache_timers hentry] at hpending
    split_ifs at hpending with hcleared
    obtain ⟨entry', hentry', hsame⟩ := h timer key' hpending
    refine ⟨entry', ?_, hsame⟩
    have hne : key' ≠ key := by
      rintro rfl
      rw [hentry] at hentry'
      cases hentry'
      exact hcleared hsame.symm
    rw [get?_removeFromCache, if_neg hne, hentry']

/-! ### A hit, and a timer that expires -/

/-- A hit looks like a removal and a new entry. -/
theorem ProviderState.Timed.renew (h : s.Timed) {cached : CProviderFactory}
    (hcached : s.cache.get? key = some cached) :
    ((s.clearTimeout cached.timer).install key cached.instance_).Timed := by
  refine ((h.removeFromCache key).install key cached.instance_).congr (fun key' => ?_)
    (fun timer => ?_) (by simp [ProviderState.install, ProviderState.clearTimeout])
  · rw [get?_install, get?_install, get?_removeFromCache, removeFromCache_nextTimer]
    split_ifs <;> rfl
  · rw [get?_install_timers, get?_install_timers, get?_removeFromCache_timers hcached,
      get?_clearTimeout, removeFromCache_nextTimer]
    rfl

theorem ProviderState.Tidy.renew (h : s.Tidy) {cached : CProviderFactory}
    (hcached : s.cache.get? key = some cached) :
    ((s.clearTimeout cached.timer).install key cached.instance_).Tidy := by
  have hremoved : (s.removeFromCache key).cache.get? key = none := by
    rw [get?_removeFromCache, if_pos rfl]
  refine ((h.removeFromCache key).install hremoved cached.instance_).congr (fun key' => ?_)
    (fun timer => ?_)
  · rw [get?_install, get?_install, get?_removeFromCache, removeFromCache_nextTimer]
    split_ifs <;> rfl
  · rw [get?_install_timers, get?_install_timers, get?_removeFromCache_timers hcached,
      get?_clearTimeout, removeFromCache_nextTimer]
    rfl

/-- A timer that expires goes, and so does the entry of its key with its own timer. -/
theorem timeout_lookups (timer : ℕ) (key : String) :
    (∀ key', ((s.clearTimeout timer).removeFromCache key).cache.get? key' =
      ((s.removeFromCache key).clearTimeout timer).cache.get? key') ∧
    (∀ timer', ((s.clearTimeout timer).removeFromCache key).timers.get? timer' =
      ((s.removeFromCache key).clearTimeout timer).timers.get? timer') ∧
    ((s.clearTimeout timer).removeFromCache key).nextTimer =
      ((s.removeFromCache key).clearTimeout timer).nextTimer := by
  cases hentry : s.cache.get? key with
  | none =>
    have hcleared : (s.clearTimeout timer).cache.get? key = none := hentry
    simp [ProviderState.removeFromCache_of_none hentry,
      ProviderState.removeFromCache_of_none hcleared]
  | some entry =>
    have hcleared : (s.clearTimeout timer).cache.get? key = some entry := hentry
    refine ⟨fun key' => ?_, fun timer' => ?_, ?_⟩
    · rw [ProviderState.get?_removeFromCache]
      exact (ProviderState.get?_removeFromCache s key key').symm
    · rw [ProviderState.get?_removeFromCache_timers hcleared, ProviderState.get?_clearTimeout,
        ProviderState.get?_clearTimeout, ProviderState.get?_removeFromCache_timers hentry]
      split_ifs <;> rfl
    · rw [ProviderState.removeFromCache_nextTimer]
      change s.nextTimer = (s.removeFromCache key).nextTimer
      rw [ProviderState.removeFromCache_nextTimer]

theorem ProviderState.Timed.timeout (h : s.Timed) (htimer : s.timers.get? timer = some key) :
    ((s.clearTimeout timer).removeFromCache key).Timed := by
  obtain ⟨hcache, htimers, hnext⟩ := timeout_lookups (s := s) timer key
  refine ((h.removeFromCache key).clearTimeout fun key' entry hentry => ?_).congr hcache htimers
    hnext
  rw [get?_removeFromCache] at hentry
  split_ifs at hentry with hkey
  exact h.timer_ne hentry htimer hkey

theorem ProviderState.Tidy.timeout (h : s.Tidy) (timer : ℕ) (key : String) :
    ((s.clearTimeout timer).removeFromCache key).Tidy := by
  obtain ⟨hcache, htimers, -⟩ := timeout_lookups (s := s) timer key
  exact ((h.removeFromCache key).clearTimeout timer).congr hcache htimers

end

section
variable {env : ProviderEnv} {db : Database} {cert : FirebaseCredential → Option Failure}
  {p p' : ProviderPool} {a : ProviderAct}

/-! ## Steps and runs -/

/-- What a step does to the cache and the timers: nothing, or one of the changes above. -/
theorem step_timers (hst : (providerProgram env db cert).step p a = some p') :
    (InstallsFirst p a ∧ p'.shared.cache = p.shared.cache ∧
        p'.shared.timers = p.shared.timers ∧ p'.shared.nextTimer = p.shared.nextTimer) ∨
      (∃ key cached, p.shared.cache.get? key = some cached ∧ InstallsFirst p a ∧
        p'.shared = (p.shared.clearTimeout cached.timer).install key cached.instance_) ∨
      (∃ key, InstallsFirst p a ∧ p'.shared = p.shared.removeFromCache key) ∨
      (∃ timer key, p.shared.timers.get? timer = some key ∧ InstallsFirst p a ∧
        p'.shared = (p.shared.clearTimeout timer).removeFromCache key) ∨
      ∃ i c r inst, a = .resume i c ∧ p.threads[i]? = some (.created r (.ok inst)) ∧
        p'.shared = p.shared.install r.key inst := by
  obtain ⟨e, s, new, rfl, he, rfl⟩ | ⟨i, c, call, s, call', new, rfl, hcall, hresume, rfl⟩ :=
    Program.step_cases hst
  · cases e with
    | getProvider r =>
      cases he
      unfold getProvider
      cases hcached : p.shared.cache.get? r.key with
      | some cached => exact Or.inr (Or.inl ⟨r.key, cached, hcached, trivial, rfl⟩)
      | none => exact Or.inl ⟨trivial, rfl, rfl, rfl⟩
    | invalidate r =>
      cases he
      exact Or.inr (Or.inr (Or.inl ⟨r.key, trivial, rfl⟩))
    | timeout timer =>
      obtain ⟨key, hkey, he⟩ := Option.map_eq_some_iff.1 he
      cases he
      exact Or.inr (Or.inr (Or.inr (Or.inl ⟨timer, key, hkey, trivial, rfl⟩)))
    | configure config =>
      cases he
      exact Or.inl ⟨trivial, rfl, rfl, rfl⟩
  · obtain ⟨-, hedge, -⟩ := resume_edge hresume
    have hfirst : (call.installs = none) → InstallsFirst p (.resume i c) := by
      intro hnone key hkey
      rw [hcall, Option.bind_some, hnone] at hkey
      cases hkey
    cases hedge with
    | @install r inst => exact Or.inr (Or.inr (Or.inr (Or.inr ⟨i, c, r, inst, rfl, hcall, rfl⟩)))
    | _ => exact Or.inl ⟨hfirst rfl, rfl, rfl, rfl⟩

theorem timed_step (h : p.shared.Timed)
    (hst : (providerProgram env db cert).step p a = some p') : p'.shared.Timed := by
  obtain ⟨-, hcache, htimers, hnext⟩ | ⟨key, cached, hcached, -, heq⟩ | ⟨key, -, heq⟩ |
    ⟨timer, key, hkey, -, heq⟩ | ⟨i, c, r, inst, -, -, heq⟩ := step_timers hst
  · exact h.congr (fun _ => by rw [hcache]) (fun _ => by rw [htimers]) hnext
  · exact heq ▸ h.renew hcached
  · exact heq ▸ h.removeFromCache key
  · exact heq ▸ h.timeout hkey
  · exact heq ▸ h.install r.key inst

/-- In a tidy state a step leaves a timer behind iff it overwrites an entry. -/
theorem tidy_step (h : p.shared.Timed) (htidy : p.shared.Tidy)
    (hst : (providerProgram env db cert).step p a = some p') :
    p'.shared.Tidy ↔ InstallsFirst p a := by
  obtain ⟨hfirst, hcache, htimers, -⟩ | ⟨key, cached, hcached, hfirst, heq⟩ | ⟨key, hfirst, heq⟩ |
    ⟨timer, key, hkey, hfirst, heq⟩ | ⟨i, c, r, inst, rfl, hcall, heq⟩ := step_timers hst
  · refine iff_of_true (htidy.congr (fun _ => ?_) fun _ => ?_) hfirst
    · rw [hcache]
    · rw [htimers]
  · exact iff_of_true (heq ▸ htidy.renew hcached) hfirst
  · exact iff_of_true (heq ▸ htidy.removeFromCache key) hfirst
  · exact iff_of_true (heq ▸ htidy.timeout timer key) hfirst
  · have hiff : InstallsFirst p (.resume i c) ↔ p.shared.cache.get? r.key = none := by
      simp [InstallsFirst, hcall, ProviderCall.installs]
    rw [hiff, heq]
    cases hold : p.shared.cache.get? r.key with
    | none => exact iff_of_true (htidy.install hold inst) rfl
    | some old => exact iff_of_false (h.not_tidy_install hold inst) (by simp)

theorem timed_init (config : ProviderConfig) : (ProviderPool.init config).shared.Timed where
  entry _ _ h := by cases h
  fresh _ _ h := by cases h

/-- Every entry of the cache has a timer of its own, in every run. -/
theorem timed_run {config : ProviderConfig} {as : List ProviderAct}
    (hrun : Run (providerProgram env db cert).step anyStep (ProviderPool.init config) as p) :
    p.shared.Timed :=
  hrun.inv (I := fun p => p.shared.Timed) (timed_init config)
    fun _ _ _ h _ hst => timed_step h hst

/-- **The timers of the cache.**  In every run each cached provider has a pending timer of its own
    that removes it; and the pending timers are those of the cached providers, and no others,
    throughout the run, iff no call of the run overwrites an entry of the cache. -/
theorem timers_of_cache {config : ProviderConfig} {as : List ProviderAct}
    (hrun : Run (providerProgram env db cert).step anyStep (ProviderPool.init config) as p) :
    (∀ key entry, p.shared.cache.get? key = some entry →
      p.shared.timers.get? entry.timer = some key) ∧
    ((∀ t, Visited (providerProgram env db cert).step (ProviderPool.init config) as t →
        t.shared.Tidy) ↔
      Run (providerProgram env db cert).step InstallsFirst (ProviderPool.init config) as p) := by
  refine ⟨(timed_run hrun).entry, hrun.safe_iff_of_exact (I := fun p => p.shared.Timed)
    (timed_init config) ?_ (fun _ _ _ h hst => timed_step h hst)
    fun _ _ _ h htidy hst => tidy_step h htidy hst⟩
  intro timer key hpending
  cases hpending

end

/-- Two calls of one tenant that miss the cache together. -/
def missTogether : List ProviderAct :=
  [.event (.getProvider acmeMail), .event (.getProvider acmeMail)] ++
    (List.replicate 5 [.resume 0 none, .resume 1 none]).flatten

/-- The timer of the first is left over, and removes what the second has cached. -/
theorem timers_of_cache_missTogether :
    ∃ p, Run (providerProgram {} acme fun _ => none).step anyStep
        (ProviderPool.init (mailAt "acme.test")) missTogether p ∧
      p.shared.timers.keys = [0, 1] ∧ p.shared.cache.size = 1 ∧
      ((∀ t, Visited (providerProgram {} acme fun _ => none).step
          (ProviderPool.init (mailAt "acme.test")) missTogether t → t.shared.Tidy) ↔
        Run (providerProgram {} acme fun _ => none).step InstallsFirst
          (ProviderPool.init (mailAt "acme.test")) missTogether p) := by
  have hruns : ((exec (providerProgram {} acme fun _ => none).step
      (ProviderPool.init (mailAt "acme.test")) missTogether).any fun p =>
        decide (p.shared.timers.keys = [0, 1] ∧ p.shared.cache.size = 1)) = true := by
    decide +kernel
  simp only [Option.any_eq_true, decide_eq_true_eq] at hruns
  obtain ⟨p, hp, htimers, hsize⟩ := hruns
  exact ⟨p, run_of_exec hp, htimers, hsize, (timers_of_cache (run_of_exec hp)).2⟩

end ProviderFactory

end GatewayRealtime
