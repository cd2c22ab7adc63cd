/-
  A program of the event loop that runs within another one.

  * `Program.events`: some events one after the other, with the computations that they start.
  * `Embedding P Q`: what of the state and the computations of `P` is a state and are computations
    of `Q`, and that every stretch of `P` is either some events of `Q` or one stretch of it.
  * `Embedding.step`: a step of `P` is some events of `Q`, or one step of it.
  * `Embedding.inv`, `Embedding.holds`: what the steps of `Q` keep, the steps of `P` keep, and what
    is held after a step of `P` was held or is read before it, if it is so for `Q`.
  * `Embedding.run`: a run of `P` is one of `Q`.
  * `Embedding.trans`: embeddings composed.
-/
import GatewayRealtime.Lib.EventLoop

namespace GatewayRealtime

universe u
variable {σ τ ε χ σ' τ' ε' χ' : Type u}

/-- Some events, one after the other, and the computations that they start. -/
def Program.events (Q : Program σ τ ε χ) : σ → List ε → Option (σ × List τ)
  | s, [] => some (s, [])
  | s, e :: es => (Q.event s e).bind fun r => (Q.events r.1 es).map fun r' => (r'.1, r.2 ++ r'.2)

/-- The program `Q` within the program `P`. -/
structure Embedding (P : Program σ τ ε χ) (Q : Program σ' τ' ε' χ') where
  shared : σ → σ'
  thread : τ → Option τ'
  event : ∀ s e s' new, P.event s e = some (s', new) →
    ∃ es, Q.events (shared s) es = some (shared s', new.filterMap thread)
  resume : ∀ s t c s' t' new, P.resume s t c = some (s', t', new) →
    (thread t' = thread t ∧
      ∃ es, Q.events (shared s) es = some (shared s', new.filterMap thread)) ∨
    ∃ u u' c', thread t = some u ∧ thread t' = some u' ∧
      Q.resume (shared s) u c' = some (shared s', u', new.filterMap thread)

section
variable {P : Program σ τ ε χ} {Q : Program σ' τ' ε' χ'}

/-- What of a pool is one of the inner program. -/
def Embedding.pool (E : Embedding P Q) (p : Pool σ τ) : Pool σ' τ' :=
  ⟨E.shared p.shared, p.threads.filterMap E.thread⟩

/-- Steps that are events. -/
def eventStep : Pool σ' τ' → Act ε' χ' → Prop := fun _ a => ∃ e, a = .event e

/-! ## Positions -/

/-- A computation that stays what it is for the inner program. -/
theorem filterMap_set_of_eq {g : τ → Option τ'} {l : List τ} {i : ℕ} {t t' : τ}
    (ht : l[i]? = some t) (h : g t' = g t) : (l.set i t').filterMap g = l.filterMap g := by
  induction l generalizing i with
  | nil => rfl
  | cons a l ih =>
    cases i with
    | zero =>
      obtain rfl : a = t := by simpa using ht
      rw [List.set_cons_zero, List.filterMap_cons, List.filterMap_cons, h]
    | succ i =>
      rw [List.set_cons_succ, List.filterMap_cons, List.filterMap_cons,
        ih (by simpa using ht)]

/-- A computation that goes on within the inner program: its number there is that of the
    computations before it that are in the inner program, too. -/
theorem filterMap_set_of_some {g : τ → Option τ'} {l : List τ} {i : ℕ} {t t' : τ} {u u' : τ'}
    (ht : l[i]? = some t) (hu : g t = some u) (hu' : g t' = some u') :
    (l.filterMap g)[((l.take i).filterMap g).length]? = some u ∧
      (l.set i t').filterMap g = (l.filterMap g).set ((l.take i).filterMap g).length u' := by
  induction l generalizing i with
  | nil => cases ht
  | cons a l ih =>
    cases i with
    | zero =>
      obtain rfl : a = t := by simpa using ht
      refine ⟨?_, ?_⟩
      · rw [List.filterMap_cons, hu]
        rfl
      · rw [List.set_cons_zero, List.filterMap_cons, List.filterMap_cons, hu, hu']
        rfl
    | succ i =>
      obtain ⟨hk, hset⟩ := ih (i := i) (by simpa using ht)
      rw [List.set_cons_succ, List.take_succ_cons, List.filterMap_cons, List.filterMap_cons,
        List.filterMap_cons, hset]
      cases ha : g a with
      | none => exact ⟨hk, rfl⟩
      | some b => exact ⟨by simpa using hk, rfl⟩

/-! ## Steps -/

/-- Events that come to other computations. -/
theorem Program.events_run {s s' : σ'} {es : List ε'} {new : List τ'}
    (h : Q.events s es = some (s', new)) (l : List τ') :
    Run Q.step eventStep ⟨s, l⟩ (es.map .event) ⟨s', l ++ new⟩ := by
  induction es generalizing s new l with
  | nil =>
    cases h
    rw [List.append_nil]
    exact .nil
  | cons e es ih =>
    obtain ⟨⟨s₁, new₁⟩, he, h⟩ := Option.bind_eq_some_iff.1 h
    obtain ⟨⟨s₂, new₂⟩, hes, h⟩ := Option.map_eq_some_iff.1 h
    cases h
    have hstep : Q.step ⟨s, l⟩ (.event e) = some ⟨s₁, l ++ new₁⟩ := by simp [Program.step, he]
    rw [← List.append_assoc]
    exact .cons ⟨e, rfl⟩ hstep (ih hes (l ++ new₁))

variable (E : Embedding P Q) {p p' : Pool σ τ} {a : Act ε χ}

/-- **A step of the outer program is some events of the inner one, or one step of it.** -/
theorem Embedding.step (h : P.step p a = some p') :
    (∃ as, Run Q.step eventStep (E.pool p) as (E.pool p')) ∨
      ∃ a', Q.step (E.pool p) a' = some (E.pool p') := by
  obtain ⟨e, s, new, rfl, he, rfl⟩ | ⟨i, c, t, s, t', new, rfl, ht, hr, rfl⟩ :=
    Program.step_cases h
  · obtain ⟨es, hes⟩ := E.event _ _ _ _ he
    refine Or.inl ⟨es.map .event, ?_⟩
    have hrun := Q.events_run hes (p.threads.filterMap E.thread)
    rwa [← List.filterMap_append] at hrun
  · rcases E.resume _ _ _ _ _ _ hr with ⟨hsame, es, hes⟩ | ⟨u, u', c', hu, hu', hinner⟩
    · refine Or.inl ⟨es.map .event, ?_⟩
      have hpool : E.pool p = ⟨E.shared p.shared, (p.threads.set i t').filterMap E.thread⟩ := by
        rw [filterMap_set_of_eq ht hsame, Embedding.pool]
      have hrun := Q.events_run hes ((p.threads.set i t').filterMap E.thread)
      rwa [← hpool, ← List.filterMap_append] at hrun
    · obtain ⟨hk, hset⟩ := filterMap_set_of_some ht hu hu'
      refine Or.inr ⟨.resume ((p.threads.take i).filterMap E.thread).length c', ?_⟩
      simp [Embedding.pool, Program.step, hk, hinner, hset]

/-- What the steps of the inner program keep. -/
theorem Embedding.inv {I : Pool σ' τ' → Prop} (hI : ∀ q b q', I q → Q.step q b = some q' → I q')
    (h : P.step p a = some p') (hp : I (E.pool p)) : I (E.pool p') := by
  rcases E.step h with ⟨as, hrun⟩ | ⟨a', hstep⟩
  · exact hrun.inv hp fun q b q' hq _ hst => hI q b q' hq hst
  · exact hI _ _ _ hp hstep

/-- What the events of the inner program do not bring, and its other steps bring from what is read
    before them. -/
theorem Embedding.holds {I : Pool σ' τ' → Prop} (held reads : Pool σ' τ' → Prop)
    (hI : ∀ q b q', I q → Q.step q b = some q' → I q')
    (hevent : ∀ q e q', I q → Q.step q (.event e) = some q' → held q' → held q)
    (hstep : ∀ q b q', I q → Q.step q b = some q' → held q' → held q ∨ reads q)
    (h : P.step p a = some p') (hp : I (E.pool p)) (hheld : held (E.pool p')) :
    held (E.pool p) ∨ reads (E.pool p) := by
  rcases E.step h with ⟨as, hrun⟩ | ⟨a', hinner⟩
  · refine Or.inl ?_
    have hback : ∀ {q}, Run Q.step eventStep (E.pool p) as q →
        I q ∧ (held q → held (E.pool p)) := by
      intro q hrun
      refine hrun.inv (I := fun q => I q ∧ (held q → held (E.pool p))) ⟨hp, id⟩ ?_
      rintro q b q' ⟨hq, hold⟩ ⟨e, rfl⟩ hst
      exact ⟨hI _ _ _ hq hst, fun hnew => hold (hevent _ _ _ hq hst hnew)⟩
    exact (hback hrun).2 hheld
  · exact hstep _ _ _ hp hinner hheld

/-- A run of the outer program is one of the inner program. -/
theorem Embedding.run {ok : Pool σ τ → Act ε χ → Prop} {as : List (Act ε χ)}
    (h : Run P.step ok p as p') : ∃ as', Run Q.step anyStep (E.pool p) as' (E.pool p') := by
  induction h with
  | nil => exact ⟨[], .nil⟩
  | snoc _ _ hst ih =>
    obtain ⟨as', hrun⟩ := ih
    rcases E.step hst with ⟨bs, hevents⟩ | ⟨b, hstep⟩
    · exact ⟨_, hrun.append (hevents.mono fun _ _ _ => trivial)⟩
    · exact ⟨_, hrun.snoc trivial hstep⟩

end

/-! ## Composition -/

section
variable {σ'' τ'' ε'' χ'' : Type u} {P : Program σ τ ε χ} {Q : Program σ' τ' ε' χ'}
  {R : Program σ'' τ'' ε'' χ''}

theorem Program.events_append {s s₁ s₂ : σ'} {es es' : List ε'} {new new' : List τ'}
    (h : Q.events s es = some (s₁, new)) (h' : Q.events s₁ es' = some (s₂, new')) :
    Q.events s (es ++ es') = some (s₂, new ++ new') := by
  induction es generalizing s new with
  | nil =>
    cases h
    exact h'
  | cons e es ih =>
    obtain ⟨⟨s₀, new₀⟩, he, h⟩ := Option.bind_eq_some_iff.1 h
    obtain ⟨⟨s₃, new₃⟩, hes, h⟩ := Option.map_eq_some_iff.1 h
    cases h
    simp [Program.events, he, ih hes]

/-- Events of a program are events of the program within it. -/
theorem Embedding.events (E : Embedding Q R) {s s' : σ'} {es : List ε'} {new : List τ'}
    (h : Q.events s es = some (s', new)) :
    ∃ es', R.events (E.shared s) es' = some (E.shared s', new.filterMap E.thread) := by
  induction es generalizing s new with
  | nil =>
    cases h
    exact ⟨[], rfl⟩
  | cons e es ih =>
    obtain ⟨⟨s₁, new₁⟩, he, h⟩ := Option.bind_eq_some_iff.1 h
    obtain ⟨⟨s₂, new₂⟩, hes, h⟩ := Option.map_eq_some_iff.1 h
    cases h
    obtain ⟨es₁, h₁⟩ := E.event _ _ _ _ he
    obtain ⟨es₂, h₂⟩ := ih hes
    refine ⟨es₁ ++ es₂, ?_⟩
    rw [List.filterMap_append]
    exact Program.events_append h₁ h₂

/-- A program within a program within a program. -/
def Embedding.trans (E : Embedding P Q) (E' : Embedding Q R) : Embedding P R where
  shared s := E'.shared (E.shared s)
  thread t := (E.thread t).bind E'.thread
  event s e s' new h := by
    obtain ⟨es, hes⟩ := E.event s e s' new h
    obtain ⟨es', hes'⟩ := E'.events hes
    exact ⟨es', by rw [hes', List.filterMap_filterMap]⟩
  resume s t c s' t' new h := by
    rw [← List.filterMap_filterMap]
    rcases E.resume s t c s' t' new h with ⟨hsame, es, hes⟩ | ⟨u, u', c', hu, hu', hinner⟩
    · exact Or.inl ⟨by rw [hsame], E'.events hes⟩
    · rcases E'.resume _ _ _ _ _ _ hinner with hevents | ⟨v, v', c'', hv, hv', hinnermost⟩
      · exact Or.inl ⟨by rw [hu, hu', Option.bind_some, Option.bind_some, hevents.1], hevents.2⟩
      · exact Or.inr ⟨v, v', c'', by rw [hu, Option.bind_some, hv],
          by rw [hu', Option.bind_some, hv'], hinnermost⟩

theorem Embedding.pool_trans (E : Embedding P Q) (E' : Embedding Q R) (p : Pool σ τ) :
    (E.trans E').pool p = E'.pool (E.pool p) := by
  simp [Embedding.pool, Embedding.trans, List.filterMap_filterMap]

end

end GatewayRealtime
