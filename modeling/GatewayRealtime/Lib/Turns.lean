/-
  Requests that are numbered as they are issued, and that are done in turn.

  * `InTurn issued done waiting next`: the numbers rise along both lists, what is done was issued,
    and what still waits has a higher number than all that is done.
  * `InTurn.mono`, `InTurn.issue`, `InTurn.finish`: what keeps it.
  * `InTurn.sublist`: what is done is done in the order in which it was issued.
-/
import Mathlib.Data.List.Sort
import Mathlib.Data.Set.Insert

namespace GatewayRealtime

universe u
variable {β : Type u}

/-- Requests with their numbers: those issued so far, those done so far, and those that wait.  The
    next one has at least the number `next`. -/
structure InTurn (issued done : List (ℕ × β)) (waiting : Set (ℕ × β)) (next : ℕ) : Prop where
  issued_rise : issued.Pairwise fun x y => x.1 < y.1
  issued_lt : ∀ x ∈ issued, x.1 < next
  done_rise : done.Pairwise fun x y => x.1 < y.1
  done_subset : done ⊆ issued
  waiting_subset : ∀ x ∈ waiting, x ∈ issued
  done_lt : ∀ x ∈ waiting, ∀ y ∈ done, y.1 < x.1

namespace InTurn

variable {issued done : List (ℕ × β)} {waiting waiting' : Set (ℕ × β)} {next next' : ℕ} {x : ℕ × β}

theorem start (next : ℕ) : InTurn ([] : List (ℕ × β)) [] ∅ next :=
  ⟨.nil, List.forall_mem_nil _, .nil, List.Subset.refl _, fun _ h => h.elim, fun _ h => h.elim⟩

/-- Some requests wait no longer. -/
theorem mono (h : InTurn issued done waiting next) (hw : waiting' ⊆ waiting)
    (hnext : next ≤ next') : InTurn issued done waiting' next' where
  issued_rise := h.issued_rise
  issued_lt y hy := (h.issued_lt y hy).trans_le hnext
  done_rise := h.done_rise
  done_subset := h.done_subset
  waiting_subset y hy := h.waiting_subset y (hw hy)
  done_lt y hy := h.done_lt y (hw hy)

/-- A request is issued. -/
theorem issue (h : InTurn issued done waiting next) (hx : next ≤ x.1) (hnext : x.1 < next') :
    InTurn (issued ++ [x]) done (insert x waiting) next' := by
  have hlt : ∀ y ∈ issued, y.1 < x.1 := fun y hy => (h.issued_lt y hy).trans_le hx
  refine ⟨?_, fun y hy => ?_, h.done_rise, fun y hy => List.mem_append_left _ (h.done_subset hy),
    ?_, ?_⟩
  · refine List.pairwise_append.2 ⟨h.issued_rise, List.pairwise_singleton _ _, fun y hy z hz => ?_⟩
    rw [List.mem_singleton] at hz
    exact hz ▸ hlt y hy
  · rcases List.mem_append.1 hy with hy | hy
    · exact (hlt y hy).trans hnext
    · rw [List.mem_singleton] at hy
      exact hy ▸ hnext
  · rintro y (rfl | hy)
    · exact List.mem_append_right _ (List.mem_singleton_self _)
    · exact List.mem_append_left _ (h.waiting_subset y hy)
  · rintro y (rfl | hy) z hz
    · exact hlt z (h.done_subset hz)
    · exact h.done_lt y hy z hz

/-- The first of the requests that wait is done. -/
theorem finish (h : InTurn issued done waiting next) (hx : x ∈ waiting) (hw : waiting' ⊆ waiting)
    (hfirst : ∀ y ∈ waiting', x.1 < y.1) : InTurn issued (done ++ [x]) waiting' next where
  issued_rise := h.issued_rise
  issued_lt := h.issued_lt
  done_rise := by
    refine List.pairwise_append.2 ⟨h.done_rise, List.pairwise_singleton _ _, fun y hy z hz => ?_⟩
    rw [List.mem_singleton] at hz
    exact hz ▸ h.done_lt x hx y hy
  done_subset := List.append_subset.2
    ⟨h.done_subset, List.cons_subset.2 ⟨h.waiting_subset x hx, List.nil_subset _⟩⟩
  waiting_subset y hy := h.waiting_subset y (hw hy)
  done_lt y hy z hz := by
    rcases List.mem_append.1 hz with hz | hz
    · exact h.done_lt y (hw hy) z hz
    · rw [List.mem_singleton] at hz
      exact hz ▸ hfirst y hy

/-- **In turn.**  What is done is done in the order in which it was issued. -/
theorem sublist (h : InTurn issued done waiting next) : done.Sublist issued := by
  have hnodup : done.Nodup := h.done_rise.imp fun hlt heq => hlt.ne (congrArg Prod.fst heq)
  have : Std.Antisymm fun x y : ℕ × β => x.1 < y.1 := ⟨fun _ _ h h' => absurd h' h.not_gt⟩
  exact List.sublist_of_subperm_of_pairwise (List.subperm_of_subset hnodup h.done_subset)
    h.done_rise h.issued_rise

end InTurn

end GatewayRealtime
