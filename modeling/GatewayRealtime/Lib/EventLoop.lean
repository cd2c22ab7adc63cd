/-
  A single-threaded event loop with suspended computations.

  A program on an event loop runs one stretch of code at a time, from one suspension to the
  next; what is suspended can be resumed in any order.

  * `Pool σ τ`: the shared state, and the computations started so far, each where it stands
    (a finished one stays, in a state of its own).
  * `Program`: what an incoming event does at once and which computations it starts, and what
    the stretch after a suspension does when it is resumed with an answer.
  * `Program.step`: one stretch, guarded: `none` when it cannot be taken.
  * `Program.step_cases`: the inversion of a step; every rule below is derived from it.
  * `Program.step_last`: a stretch of the computation that was started last.
  * `Program.step_inv`: a shared invariant and a local one per computation, provided that no
    stretch disturbs the local invariant of another computation.
  * `Pool.count`: how many computations are in a given situation, and what a stretch does to it.
  * `filterMap_set_perm`: what the computations hold, before and after a stretch.
-/
import Mathlib.Data.List.Perm.Basic
import GatewayRealtime.Lib.Run

namespace GatewayRealtime

universe u
variable {σ τ ε χ : Type u}

/-- The shared state and the computations started so far. -/
structure Pool (σ τ : Type u) where
  shared : σ
  threads : List τ

/-- One stretch of execution: an incoming event, or the answer to computation number `i`. -/
inductive Act (ε χ : Type u)
  | event (e : ε)
  | resume (i : ℕ) (c : χ)

/-- The code of an event loop, stretch by stretch.  `none` means that the stretch cannot run. -/
structure Program (σ τ ε χ : Type u) where
  event : σ → ε → Option (σ × List τ)
  resume : σ → τ → χ → Option (σ × τ × List τ)

/-- Computation number `i` goes on to `t'`, and the shared state becomes `s`. -/
def Pool.move (p : Pool σ τ) (s : σ) (i : ℕ) (t' : τ) : Pool σ τ := ⟨s, p.threads.set i t'⟩

/-- How many computations are in the situation `q`. -/
def Pool.count (q : τ → Bool) (p : Pool σ τ) : ℕ := p.threads.countP q

namespace Program

variable (P : Program σ τ ε χ)

/-- One stretch of execution. -/
def step (p : Pool σ τ) : Act ε χ → Option (Pool σ τ)
  | .event e => (P.event p.shared e).map fun r => ⟨r.1, p.threads ++ r.2⟩
  | .resume i c =>
    p.threads[i]?.bind fun t =>
      (P.resume p.shared t c).map fun r => ⟨r.1, p.threads.set i r.2.1 ++ r.2.2⟩

variable {P}

/-- What a stretch can do. -/
theorem step_cases {p p' : Pool σ τ} {a : Act ε χ} (h : P.step p a = some p') :
    (∃ e s new, a = .event e ∧ P.event p.shared e = some (s, new) ∧
      p' = ⟨s, p.threads ++ new⟩) ∨
    ∃ i c t s t' new, a = .resume i c ∧ p.threads[i]? = some t ∧
      P.resume p.shared t c = some (s, t', new) ∧ p' = ⟨s, p.threads.set i t' ++ new⟩ := by
  cases a with
  | event e =>
    obtain ⟨⟨s, new⟩, h₁, h₂⟩ := Option.map_eq_some_iff.1 h
    exact Or.inl ⟨e, s, new, rfl, h₁, h₂.symm⟩
  | resume i c =>
    obtain ⟨t, ht, h⟩ := Option.bind_eq_some_iff.1 h
    obtain ⟨⟨s, t', new⟩, h₁, h₂⟩ := Option.map_eq_some_iff.1 h
    exact Or.inr ⟨i, c, t, s, t', new, rfl, ht, h₁, h₂.symm⟩

/-- A stretch of the computation that was started last. -/
theorem step_last (s : σ) (l : List τ) (t : τ) (c : χ) :
    P.step ⟨s, l ++ [t]⟩ (.resume l.length c) =
      (P.resume s t c).map fun r => ⟨r.1, l ++ [r.2.1] ++ r.2.2⟩ := by
  simp [step]

/-- **Invariants of an event loop.**  `G` is kept by every stretch, `L` holds of a computation
    when it starts and after each of its stretches, and no stretch of another one disturbs it. -/
theorem step_inv {G : σ → Prop} {L : σ → τ → Prop} {p p' : Pool σ τ} {a : Act ε χ}
    (hevent : ∀ s e s' new, G s → P.event s e = some (s', new) →
      G s' ∧ (∀ t, L s t → L s' t) ∧ ∀ t ∈ new, L s' t)
    (hresume : ∀ s t c s' t' new, G s → L s t → P.resume s t c = some (s', t', new) →
      G s' ∧ (∀ t, L s t → L s' t) ∧ L s' t' ∧ ∀ t ∈ new, L s' t)
    (hp : G p.shared ∧ ∀ t ∈ p.threads, L p.shared t) (h : P.step p a = some p') :
    G p'.shared ∧ ∀ t ∈ p'.threads, L p'.shared t := by
  obtain ⟨hG, hL⟩ := hp
  obtain ⟨e, s, new, rfl, he, rfl⟩ | ⟨i, c, t, s, t', new, rfl, ht, hr, rfl⟩ := step_cases h
  · obtain ⟨hG', hkeep, hnew⟩ := hevent _ _ _ _ hG he
    refine ⟨hG', fun t ht => ?_⟩
    rcases List.mem_append.1 ht with ht | ht
    · exact hkeep t (hL t ht)
    · exact hnew t ht
  · have htmem : t ∈ p.threads := List.mem_of_getElem? ht
    obtain ⟨hG', hkeep, hself, hnew⟩ := hresume _ _ _ _ _ _ hG (hL t htmem) hr
    refine ⟨hG', fun u hu => ?_⟩
    rcases List.mem_append.1 hu with hu | hu
    · rcases List.mem_or_eq_of_mem_set hu with hu | rfl
      · exact hkeep u (hL u hu)
      · exact hself
    · exact hnew u hu

end Program

/-! ## Counting computations -/

theorem countP_set {q : τ → Bool} : ∀ {l : List τ} {i : ℕ} {t : τ} (t' : τ), l[i]? = some t →
    (l.set i t').countP q + (if q t then 1 else 0) = l.countP q + if q t' then 1 else 0
  | [], _, _, _, h => by simp at h
  | u :: l, 0, t, t', h => by
    obtain rfl : u = t := by simpa using h
    simp only [List.set_cons_zero, List.countP_cons]
    omega
  | u :: l, i + 1, t, t', h => by
    have ih := countP_set (q := q) (l := l) (i := i) (t := t) t' (by simpa using h)
    simp only [List.set_cons_succ, List.countP_cons]
    omega

/-- Starting computations that are not in the situation `q` does not change the count. -/
theorem Pool.count_event (q : τ → Bool) (p : Pool σ τ) (s : σ) {new : List τ}
    (hnew : ∀ t ∈ new, q t = false) : (Pool.mk s (p.threads ++ new)).count q = p.count q := by
  have h0 : new.countP q = 0 := List.countP_eq_zero.2 fun t ht => by simp [hnew t ht]
  simp [Pool.count, h0]

/-- Resuming a computation moves the count by what it was and what it became. -/
theorem Pool.count_move (q : τ → Bool) {p : Pool σ τ} {i : ℕ} {t : τ} (s : σ) (t' : τ)
    (ht : p.threads[i]? = some t) :
    (p.move s i t').count q + (if q t then 1 else 0) = p.count q + if q t' then 1 else 0 :=
  countP_set t' ht

/-- A computation that comes into the situation `q` adds one to the count. -/
theorem Pool.count_move_le_succ (q : τ → Bool) {p : Pool σ τ} {i : ℕ} {t : τ} (s : σ) (t' : τ)
    (ht : p.threads[i]? = some t) : (p.move s i t').count q ≤ p.count q + 1 := by
  have h := Pool.count_move q s t' ht
  split_ifs at h <;> omega

/-- A computation that is in the situation `q` only if it was in it before adds nothing. -/
theorem Pool.count_move_le (q : τ → Bool) {p : Pool σ τ} {i : ℕ} {t : τ} (s : σ) {t' : τ}
    (ht : p.threads[i]? = some t) (hq : q t' = true → q t = true) :
    (p.move s i t').count q ≤ p.count q := by
  have h := Pool.count_move q s t' ht
  cases h' : q t'
  · simp only [h', Bool.false_eq_true, if_false] at h
    omega
  · simp only [h', hq h', if_true] at h
    omega

theorem Pool.mem_move {p : Pool σ τ} {s : σ} {i : ℕ} {t' u : τ}
    (hu : u ∈ (p.move s i t').threads) : u ∈ p.threads ∨ u = t' :=
  List.mem_or_eq_of_mem_set hu

theorem Pool.count_eq_zero (q : τ → Bool) {p : Pool σ τ} :
    p.count q = 0 ↔ ∀ t ∈ p.threads, q t = false := by
  simp [Pool.count, List.countP_eq_zero]

/-! ## What computations hold -/

/-- Resuming a computation exchanges what it held for what it holds afterwards. -/
theorem filterMap_set_perm {β : Type u} (f : τ → Option β) : ∀ {l : List τ} {i : ℕ} {t : τ}
    (t' : τ), l[i]? = some t →
    ((f t).toList ++ (l.set i t').filterMap f).Perm ((f t').toList ++ l.filterMap f)
  | [], _, _, _, h => by simp at h
  | u :: l, 0, t, t', h => by
    obtain rfl : u = t := by simpa using h
    cases hu : f u <;> cases ht : f t' <;> simp [hu, ht, List.Perm.swap]
  | u :: l, i + 1, t, t', h => by
    have ih := filterMap_set_perm f (l := l) (i := i) (t := t) t' (by simpa using h)
    cases hu : f u with
    | none => simpa [hu] using ih
    | some b =>
      simp only [List.set_cons_succ, List.filterMap_cons, hu]
      exact (List.perm_middle.trans (ih.cons b)).trans List.perm_middle.symm

theorem flatMap_set_perm {β : Type u} (f : τ → List β) : ∀ {l : List τ} {i : ℕ} {t : τ}
    (t' : τ), l[i]? = some t →
    (f t ++ (l.set i t').flatMap f).Perm (f t' ++ l.flatMap f)
  | [], _, _, _, h => by simp at h
  | u :: l, 0, t, t', h => by
    obtain rfl : u = t := by simpa using h
    rw [List.set_cons_zero, List.flatMap_cons, List.flatMap_cons, ← List.append_assoc,
      ← List.append_assoc]
    exact List.perm_append_comm.append_right _
  | u :: l, i + 1, t, t', h => by
    have ih := flatMap_set_perm f (l := l) (i := i) (t := t) t' (by simpa using h)
    rw [List.set_cons_succ, List.flatMap_cons, List.flatMap_cons]
    have hswap : ∀ x y z : List β, (x ++ (y ++ z)).Perm (y ++ (x ++ z)) := fun x y z => by
      rw [← List.append_assoc, ← List.append_assoc]
      exact List.perm_append_comm.append_right _
    exact ((hswap _ _ _).trans (ih.append_left _)).trans (hswap _ _ _)

end GatewayRealtime
