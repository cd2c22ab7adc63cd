/-
  Maps of sets.

  * `OMap.entries_set`, `OMap.entries_modify`, `OMap.find_map`: the entries of a map, in the order
    in which they came in, as the elements of a list.
  * `OMap.members`: the elements of the set under a key, oldest first; none if there is no set.
  * `members_set`, `members_delete`, `members_modify_remove`: what the operations do to them.
-/
import GatewayRealtime.Lib.OrderedMap

namespace GatewayRealtime

universe u v w
variable {κ : Type u} {ι α : Type v} {β : Type w}

namespace OMap

variable [DecidableEq κ]

/-! ## Entries -/

theorem put_of_notMem (k : κ) (a : α) : ∀ {l : List (κ × α)}, k ∉ l.map Prod.fst →
    put k a l = l ++ [(k, a)]
  | [], _ => rfl
  | e :: l, h => by
    rw [List.map_cons, List.mem_cons, not_or] at h
    rw [put, if_neg fun he => h.1 he.symm, put_of_notMem k a h.2, List.cons_append]

/-- A new entry comes last. -/
theorem entries_set {m : OMap κ α} {k : κ} (h : m.get? k = none) (a : α) :
    (m.set k a).entries = m.entries ++ [(k, a)] :=
  put_of_notMem k a ((not_mem_keys m k).2 h)

/-- Entries of other keys are left alone. -/
theorem map_of_notMem (k : κ) (f : α → α) {l : List (κ × α)} (h : k ∉ l.map Prod.fst) :
    l.map (fun e => if e.1 = k then (e.1, f e.2) else e) = l := by
  refine (List.map_congr_left fun e he => ?_).trans (List.map_id l)
  exact if_neg fun hk : e.1 = k => h (hk ▸ List.mem_map_of_mem he)

theorem put_of_find (k : κ) (f : α → α) : ∀ {l : List (κ × α)} {a : α}, (l.map Prod.fst).Nodup →
    find k l = some a → put k (f a) l = l.map fun e => if e.1 = k then (e.1, f e.2) else e
  | [], _, _, h => by cases h
  | e :: l, a, hnodup, h => by
    rw [List.map_cons, List.nodup_cons] at hnodup
    by_cases hk : e.1 = k
    · subst hk
      rw [find, if_pos rfl, Option.some.injEq] at h
      rw [put, if_pos rfl, List.map_cons, if_pos rfl, map_of_notMem e.1 f hnodup.1, h]
    · rw [find, if_neg hk] at h
      rw [put, if_neg hk, List.map_cons, if_neg hk, put_of_find k f hnodup.2 h]

/-- A value is modified where it stands. -/
theorem entries_modify (m : OMap κ α) (k : κ) (f : α → α) :
    (m.modify k f).entries = m.entries.map fun e => if e.1 = k then (e.1, f e.2) else e := by
  unfold modify
  cases h : m.get? k with
  | some a => exact put_of_find k f m.nodup h
  | none => exact (map_of_notMem k f ((not_mem_keys m k).2 h)).symm

/-- A lookup among elements that carry their keys. -/
theorem find_map (k : κ) (key : β → κ) (val : β → α) : ∀ l : List β,
    find k (l.map fun b => (key b, val b)) = (l.find? fun b => key b = k).map val
  | [] => rfl
  | b :: l => by
    by_cases hk : key b = k
    · simp [find, hk]
    · simp [find, hk, find_map k key val l]

/-! ## Members -/

/-- The elements of the set under `k`. -/
def members (m : OMap κ (OSet ι)) (k : κ) : List ι := ((m.get? k).map OSet.elems).getD []

@[simp] theorem members_empty (k : κ) : (empty : OMap κ (OSet ι)).members k = [] := rfl

theorem members_set (m : OMap κ (OSet ι)) (k : κ) (s : OSet ι) (k' : κ) :
    (m.set k s).members k' = if k' = k then s.elems else m.members k' := by
  unfold members
  rw [get?_set]
  split_ifs <;> rfl

theorem members_delete (m : OMap κ (OSet ι)) (k k' : κ) :
    (m.delete k).members k' = if k' = k then [] else m.members k' := by
  unfold members
  rw [get?_delete]
  split_ifs <;> rfl

theorem members_modify_remove [DecidableEq ι] (m : OMap κ (OSet ι)) (k : κ) (i : ι) (k' : κ) :
    (m.modify k (·.remove i)).members k' =
      if k' = k then (m.members k').filter (· ≠ i) else m.members k' := by
  unfold members
  rw [get?_modify]
  split_ifs with hk
  · subst hk
    cases m.get? k' <;> rfl
  · rfl

end OMap

end GatewayRealtime
