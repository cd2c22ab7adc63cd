/-
  Runs of a step function.

  * `Run step ok s₀ as s`: from `s₀`, the actions `as` lead to `s`, and every action meets `ok`
    in the state it is taken in.
  * `Run.inv`: an invariant kept by every step that meets `ok` holds after every such run.
  * `Run.safe_iff`: if the steps that meet `ok` keep the invariant, and every other step breaks
    safety at once, then a run is safe throughout exactly when all its steps meet `ok`.
    `Run.safe_iff_of_exact` has one hypothesis for both: a step keeps safety iff it meets `ok`.
  * `Run.traced`: what is held at the end of a run was read in a state that the run passes through,
    if every step holds on to what it held before or takes up what is read before it.
  * `exec`: the run of a concrete list of actions, computed.
  * `observed`: what is seen of the steps of a list of actions, one after the other.

  Nothing here knows which system is run.
-/
import Mathlib.Data.List.Basic

namespace GatewayRealtime

universe u v
variable {σ : Type u} {α : Type v}

/-- A run from `s₀`, last action last, whose steps all meet `ok`. -/
inductive Run (step : σ → α → Option σ) (ok : σ → α → Prop) (s₀ : σ) : List α → σ → Prop
  | nil : Run step ok s₀ [] s₀
  | snoc {as s a s'} : Run step ok s₀ as s → ok s a → step s a = some s' →
      Run step ok s₀ (as ++ [a]) s'

/-- No condition on the steps. -/
def anyStep : σ → α → Prop := fun _ _ => True

/-- `s` is a state that the run of `as` from `s₀` passes through, its ends included. -/
def Visited (step : σ → α → Option σ) (s₀ : σ) (as : List α) (s : σ) : Prop :=
  ∃ as', as' <+: as ∧ Run step anyStep s₀ as' s

/-- The state after a list of actions, if each of them can be taken. -/
def exec (step : σ → α → Option σ) : σ → List α → Option σ
  | s, [] => some s
  | s, a :: as => (step s a).bind fun s' => exec step s' as

/-- What `f` sees of the steps of a list of actions, up to the first that cannot be taken. -/
def observed {β : Type v} (step : σ → α → Option σ) (f : σ → α → σ → List β) :
    σ → List α → List β
  | _, [] => []
  | s, a :: as =>
    match step s a with
    | some s' => f s a s' ++ observed step f s' as
    | none => []

section
variable {step : σ → α → Option σ} {ok ok' : σ → α → Prop} {s₀ s : σ} {as bs : List α}

theorem Run.single {a : α} {s' : σ} (hok : ok s a) (h : step s a = some s') :
    Run step ok s [a] s' := .snoc .nil hok h

/-- An invariant kept by every step that meets `ok` holds after every run. -/
theorem Run.inv {I : σ → Prop} (h : Run step ok s₀ as s) (h0 : I s₀)
    (hs : ∀ s a s', I s → ok s a → step s a = some s' → I s') : I s := by
  induction h with
  | nil => exact h0
  | snoc _ hok hst ih => exact hs _ _ _ ih hok hst

/-- A weaker condition holds of the same run. -/
theorem Run.mono (h : Run step ok s₀ as s) (hw : ∀ s a, ok s a → ok' s a) :
    Run step ok' s₀ as s := by
  induction h with
  | nil => exact .nil
  | snoc _ hk hst ih => exact ih.snoc (hw _ _ hk) hst

/-- What holds of every action of the list may be added to the condition. -/
theorem Run.and_forall {Q : α → Prop} (h : Run step ok s₀ as s) (hQ : ∀ a ∈ as, Q a) :
    Run step (fun s a => ok s a ∧ Q a) s₀ as s := by
  induction h with
  | nil => exact .nil
  | snoc _ hk hst ih =>
    exact (ih fun a ha => hQ a (List.mem_append_left _ ha)).snoc
      ⟨hk, hQ _ (List.mem_append_right _ (List.mem_singleton_self _))⟩ hst

theorem Run.append {s₁ : σ} (h₁ : Run step ok s₀ as s₁) (h₂ : Run step ok s₁ bs s) :
    Run step ok s₀ (as ++ bs) s := by
  induction h₂ with
  | nil => simpa using h₁
  | snoc _ hk hst ih => rw [← List.append_assoc]; exact ih.snoc hk hst

/-- A run can be cut anywhere. -/
theorem Run.split (h : Run step ok s₀ (as ++ bs) s) :
    ∃ s₁, Run step ok s₀ as s₁ ∧ Run step ok s₁ bs s := by
  generalize hcs : as ++ bs = cs at h
  induction h generalizing bs with
  | nil =>
    obtain ⟨rfl, rfl⟩ := List.append_eq_nil_iff.1 hcs
    exact ⟨s₀, .nil, .nil⟩
  | @snoc cs' t a t' hr hk hst ih =>
    rcases List.eq_nil_or_concat bs with rfl | ⟨bs', b, rfl⟩
    · rw [List.append_nil] at hcs
      exact ⟨t', hcs ▸ hr.snoc hk hst, .nil⟩
    · rw [List.concat_eq_append, ← List.append_assoc] at hcs
      obtain ⟨h₁, h₂⟩ := List.append_inj' hcs rfl
      obtain ⟨s₁, hr₁, hr₂⟩ := ih h₁
      cases h₂
      rw [List.concat_eq_append]
      exact ⟨s₁, hr₁, hr₂.snoc hk hst⟩

/-- The first step of a run. -/
theorem Run.head {a : α} (h : Run step ok s₀ (a :: as) s) :
    ∃ s₁, ok s₀ a ∧ step s₀ a = some s₁ ∧ Run step ok s₁ as s := by
  have h' : Run step ok s₀ ([a] ++ as) s := h
  obtain ⟨s₁, h₁, h₂⟩ := h'.split
  generalize hl : [a] = l at h₁
  cases h₁ with
  | nil => cases hl
  | @snoc cs t b _ hr hk hst =>
    have hl' : [] ++ [a] = cs ++ [b] := hl
    obtain ⟨hcs, hb⟩ := List.append_inj' hl' rfl
    subst hcs
    cases hb
    generalize hn : ([] : List α) = n at hr
    cases hr with
    | nil => exact ⟨s₁, hk, hst, h₂⟩
    | snoc _ _ _ => simp at hn

/-- The step of a run at an action, with what is before and after it. -/
theorem Run.cut {a : α} (h : Run step ok s₀ (as ++ a :: bs) s) :
    ∃ s₁ s₂, Run step ok s₀ as s₁ ∧ ok s₁ a ∧ step s₁ a = some s₂ ∧ Run step ok s₂ bs s := by
  obtain ⟨s₁, hpre, hrest⟩ := h.split
  obtain ⟨s₂, hok, hst, hpost⟩ := hrest.head
  exact ⟨s₁, s₂, hpre, hok, hst, hpost⟩

theorem Run.cons {a : α} {s₁ : σ} (hk : ok s₀ a) (hst : step s₀ a = some s₁)
    (h : Run step ok s₁ as s) : Run step ok s₀ (a :: as) s :=
  (Run.single hk hst).append h

theorem exec_append : ∀ (as bs : List α) (s : σ),
    exec step s (as ++ bs) = (exec step s as).bind fun s' => exec step s' bs
  | [], _, _ => rfl
  | a :: as, bs, s => by
    simp only [List.cons_append, exec, Option.bind_assoc, exec_append as bs]

theorem run_of_exec : ∀ {as : List α} {s₀ : σ}, exec step s₀ as = some s →
    Run step anyStep s₀ as s
  | [], _, h => by cases h; exact .nil
  | a :: as, s₀, h => by
    obtain ⟨s₁, h₁, h₂⟩ := Option.bind_eq_some_iff.1 h
    exact .cons trivial h₁ (run_of_exec h₂)

/-- The steps that meet `ok`. -/
def guarded (step : σ → α → Option σ) (ok : σ → α → Prop) [∀ s a, Decidable (ok s a)] :
    σ → α → Option σ := fun s a => if ok s a then step s a else none

/-- A computed run whose steps are tested as they are taken. -/
theorem run_of_exec_guarded [∀ s a, Decidable (ok s a)] : ∀ {as : List α} {s₀ : σ},
    GatewayRealtime.exec (guarded step ok) s₀ as = some s → Run step ok s₀ as s
  | [], _, h => by cases h; exact .nil
  | a :: as, s₀, h => by
    obtain ⟨s₁, h₁, h₂⟩ := Option.bind_eq_some_iff.1 h
    unfold guarded at h₁
    split_ifs at h₁ with hok
    exact .cons hok h₁ (run_of_exec_guarded h₂)

theorem Run.exec (h : Run step ok s₀ as s) : exec step s₀ as = some s := by
  induction h with
  | nil => rfl
  | @snoc as t a t' _ _ hst ih => rw [exec_append, ih]; simpa [GatewayRealtime.exec] using hst

/-- A run is determined by its actions. -/
theorem Run.det {s' : σ} (h : Run step ok s₀ as s) (h' : Run step ok' s₀ as s') : s = s' :=
  Option.some.inj (h.exec.symm.trans h'.exec)

/-- A run meets a condition iff each of its steps does. -/
theorem Run.iff_forall_step (h : Run step anyStep s₀ as s) :
    Run step ok s₀ as s ↔
      ∀ pre a post s₁, as = pre ++ a :: post → Run step anyStep s₀ pre s₁ → ok s₁ a := by
  constructor
  · rintro hok pre a post s₁ rfl hpre
    obtain ⟨s₂, -, hpre', hstep, -⟩ := hok.cut
    exact hpre.det hpre' ▸ hstep
  · intro hsteps
    induction h with
    | nil => exact .nil
    | @snoc as s a s' hrun _ hst ih =>
      refine .snoc (ih fun pre b post s₁ has hpre => ?_) (hsteps as a [] s rfl hrun) hst
      exact hsteps pre b (post ++ [a]) s₁ (by rw [has, List.append_assoc]; rfl) hpre

/-- Two conditions on the steps of one run. -/
theorem Run.and {s' : σ} (h : Run step ok s₀ as s) (h' : Run step ok' s₀ as s') :
    Run step (fun s a => ok s a ∧ ok' s a) s₀ as s := by
  have hany : Run step anyStep s₀ as s := h.mono fun _ _ _ => trivial
  have hsame := h'.det h
  subst hsame
  exact hany.iff_forall_step.2 fun pre a post s₁ has hpre =>
    ⟨hany.iff_forall_step.1 h pre a post s₁ has hpre,
      hany.iff_forall_step.1 h' pre a post s₁ has hpre⟩

theorem observed_append {β : Type v} (f : σ → α → σ → List β) (bs : List α) :
    ∀ {as : List α} {s₀ : σ}, GatewayRealtime.exec step s₀ as = some s →
      observed step f s₀ (as ++ bs) = observed step f s₀ as ++ observed step f s bs
  | [], _, h => by cases h; rfl
  | a :: as, s₀, h => by
    obtain ⟨s₁, h₁, h₂⟩ := Option.bind_eq_some_iff.1 h
    simp only [List.cons_append, observed, h₁, observed_append f bs h₂, List.append_assoc]

/-- What is seen of a run that is one step longer. -/
theorem Run.observed_concat {β : Type v} {a : α} {s' : σ} (f : σ → α → σ → List β)
    (h : Run step ok s₀ as s) (hst : step s a = some s') :
    observed step f s₀ (as ++ [a]) = observed step f s₀ as ++ f s a s' := by
  rw [observed_append f [a] h.exec]
  simp [observed, hst]

/-- What is seen of a run is seen of one of its steps. -/
theorem Run.mem_observed {β : Type v} {f : σ → α → σ → List β} {b : β}
    (h : Run step ok s₀ as s) (hb : b ∈ observed step f s₀ as) :
    ∃ pre a t t', pre ++ [a] <+: as ∧ Run step anyStep s₀ pre t ∧ step t a = some t' ∧
      b ∈ f t a t' := by
  induction h with
  | nil => cases hb
  | @snoc as t a t' hr _ hst ih =>
    rw [hr.observed_concat f hst, List.mem_append] at hb
    rcases hb with hb | hb
    · obtain ⟨pre, c, u, u', hpre, h⟩ := ih hb
      exact ⟨pre, c, u, u', hpre.trans (List.prefix_append as [a]), h⟩
    · exact ⟨as, a, t, t', List.prefix_refl _, hr.mono fun _ _ _ => trivial, hst, hb⟩

theorem Visited.last (h : Run step anyStep s₀ as s) : Visited step s₀ as s :=
  ⟨as, List.prefix_refl as, h⟩

/-- A state that a shorter run passes through is one that the longer run passes through. -/
theorem Visited.extend (h : Visited step s₀ as s) (bs : List α) :
    Visited step s₀ (as ++ bs) s := by
  obtain ⟨as', hp, hr⟩ := h
  exact ⟨as', hp.trans (List.prefix_append as bs), hr⟩

/-- An empty run passes through its start alone. -/
theorem Visited.nil (h : Visited step s₀ [] s) : s = s₀ := by
  obtain ⟨as, hinit, hrun⟩ := h
  rw [List.prefix_nil.1 hinit] at hrun
  exact Option.some.inj hrun.exec.symm

/-- A run that is one step longer passes through one more state. -/
theorem Visited.concat {a : α} {s' t : σ} (hrun : Run step ok s₀ as s) (hst : step s a = some s')
    (h : Visited step s₀ (as ++ [a]) t) : Visited step s₀ as t ∨ t = s' := by
  obtain ⟨bs, hinit, hbs⟩ := h
  rcases List.prefix_concat_iff.1 hinit with rfl | hinit
  · have hlonger : Run step anyStep s₀ (as ++ [a]) s' :=
      (hrun.mono fun _ _ _ => trivial).snoc trivial hst
    exact Or.inr (hbs.det hlonger)
  · exact Or.inl ⟨bs, hinit, hbs⟩

/-- **Provenance.**  If what is held at the start is what is read there, and whatever a step holds
    was held or is read before it, then what is held at the end was read on the way. -/
theorem Run.traced {β : Type v} {I : σ → Prop} (held reads : σ → β → Prop)
    (h : Run step ok s₀ as s) (h0 : I s₀) (hI : ∀ s a s', I s → step s a = some s' → I s')
    (hstart : ∀ b, held s₀ b → reads s₀ b)
    (hstep : ∀ s a s' b, I s → ok s a → step s a = some s' → held s' b → held s b ∨ reads s b)
    {b : β} (hb : held s b) : ∃ t, Visited step s₀ as t ∧ reads t b := by
  induction h with
  | nil => exact ⟨s₀, .last .nil, hstart b hb⟩
  | @snoc as s a s' hr hok hst ih =>
    have hinv : I s := hr.inv h0 fun s a s' hs _ hst => hI s a s' hs hst
    rcases hstep s a s' b hinv hok hst hb with hheld | hread
    · obtain ⟨t, ht, hread⟩ := ih hheld
      exact ⟨t, ht.extend [a], hread⟩
    · exact ⟨s, (Visited.last (hr.mono fun _ _ _ => trivial)).extend [a], hread⟩

/-- **Safety of a run, step by step.**  If the steps that meet `ok` keep the invariant `I`, the
    invariant implies safety, and every step out of an invariant state that does not meet `ok`
    ends in an unsafe state, then a run is safe throughout iff all its steps meet `ok`. -/
theorem Run.safe_iff {I safe : σ → Prop} (h0 : I s₀) (hI : ∀ s, I s → safe s)
    (keep : ∀ s a s', I s → ok s a → step s a = some s' → I s')
    (breaks : ∀ s a s', I s → ¬ ok s a → step s a = some s' → ¬ safe s')
    (h : Run step anyStep s₀ as s) :
    (∀ t, Visited step s₀ as t → safe t) ↔ Run step ok s₀ as s := by
  constructor
  · intro hsafe
    induction h with
    | nil => exact .nil
    | @snoc as s a s' hr _ hst ih =>
      have hrun := ih fun t ht => hsafe t (ht.extend [a])
      by_cases hok : ok s a
      · exact hrun.snoc hok hst
      · exact absurd (hsafe s' (.last (hr.snoc trivial hst)))
          (breaks s a s' (hrun.inv h0 keep) hok hst)
  · rintro hrun t ⟨as', ⟨bs, rfl⟩, hr⟩
    obtain ⟨t', h₁, _⟩ := hrun.split
    have ht : t' = t := h₁.det hr
    exact hI t (ht ▸ h₁.inv h0 keep)

/-- **Exact conditions.**  If a step out of a safe state ends in a safe one iff it meets `ok`, then
    a run is safe throughout iff all its steps meet `ok`. -/
theorem Run.safe_iff_of_exact {I safe : σ → Prop} (h0 : I s₀) (hsafe : safe s₀)
    (keep : ∀ s a s', I s → step s a = some s' → I s')
    (hexact : ∀ s a s', I s → safe s → step s a = some s' → (safe s' ↔ ok s a))
    (h : Run step anyStep s₀ as s) :
    (∀ t, Visited step s₀ as t → safe t) ↔ Run step ok s₀ as s :=
  Run.safe_iff (I := fun s => I s ∧ safe s) ⟨h0, hsafe⟩ (fun _ hs => hs.2)
    (fun s a s' hs hok hst => ⟨keep s a s' hs.1 hst, (hexact s a s' hs.1 hs.2 hst).2 hok⟩)
    (fun s a s' hs hnot hst hs' => hnot ((hexact s a s' hs.1 hs.2 hst).1 hs')) h

end

end GatewayRealtime
