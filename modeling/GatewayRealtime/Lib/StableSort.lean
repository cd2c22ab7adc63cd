/-
  A stable sort, and the first elements of what it returns.

  * `insertionSort_concat`: a greatest last element stays last.
  * `insertionSort_filter`: sorting and selecting commute, ties included.
  * `filter_notMem_take`: dropping the first elements of a list, key by key.
  * `rel_of_mem_take_drop`: the first elements of a sorted list come before the others.

  Nothing here knows what is sorted.
-/
import Mathlib.Data.List.Sort

namespace GatewayRealtime

variable {α : Type} {rel : α → α → Prop} [DecidableRel rel]

/-! ## Inserting -/

theorem orderedInsert_concat {a x : α} (h : rel a x) : ∀ l : List α,
    (l ++ [x]).orderedInsert rel a = l.orderedInsert rel a ++ [x]
  | [] => by simp [h]
  | b :: l => by
    by_cases hab : rel a b
    · simp [hab]
    · simp [hab, orderedInsert_concat h l]

/-- An element that comes before all others is inserted first. -/
theorem orderedInsert_of_forall {a : α} : ∀ {l : List α}, (∀ b ∈ l, rel a b) →
    l.orderedInsert rel a = a :: l
  | [], _ => rfl
  | b :: l, h => List.orderedInsert_cons_of_le rel l (h b List.mem_cons_self)

/-- Inserting into a sorted list, as seen by a selection. -/
theorem filter_orderedInsert [IsTrans α rel] (p : α → Bool) (a : α) : ∀ {l : List α},
    l.Pairwise rel → (l.orderedInsert rel a).filter p =
      if p a = true then (l.filter p).orderedInsert rel a else l.filter p
  | [], _ => by by_cases ha : p a = true <;> simp [ha]
  | b :: l, hl => by
    obtain ⟨hb, hl⟩ := List.pairwise_cons.1 hl
    by_cases hab : rel a b
    · have hall : ∀ c ∈ b :: l, rel a c := by
        intro c hc
        rcases List.mem_cons.1 hc with rfl | hc
        · exact hab
        · exact IsTrans.trans a b c hab (hb c hc)
      have hfilter : ∀ c ∈ (b :: l).filter p, rel a c :=
        fun c hc => hall c (List.mem_filter.1 hc).1
      rw [orderedInsert_of_forall hall, orderedInsert_of_forall hfilter, List.filter_cons]
    · have ih := filter_orderedInsert p a hl
      rw [List.orderedInsert_of_not_le rel l hab, List.filter_cons, ih, List.filter_cons]
      by_cases ha : p a = true <;> by_cases hpb : p b = true <;> simp [ha, hpb, hab]

/-! ## Sorting -/

/-- A stable sort leaves a greatest last element last. -/
theorem insertionSort_concat {x : α} : ∀ {l : List α}, (∀ a ∈ l, rel a x) →
    (l ++ [x]).insertionSort rel = l.insertionSort rel ++ [x]
  | [], _ => by simp
  | a :: l, h => by
    rw [List.cons_append, List.insertionSort_cons, List.insertionSort_cons,
      insertionSort_concat fun b hb => h b (List.mem_cons_of_mem a hb),
      orderedInsert_concat (h a List.mem_cons_self)]

/-- A stable sort commutes with a selection. -/
theorem insertionSort_filter [Std.Total rel] [IsTrans α rel] (p : α → Bool) : ∀ l : List α,
    (l.filter p).insertionSort rel = (l.insertionSort rel).filter p
  | [] => rfl
  | a :: l => by
    have ih := insertionSort_filter p l
    rw [List.insertionSort_cons, filter_orderedInsert p a (List.pairwise_insertionSort rel l),
      List.filter_cons]
    by_cases ha : p a = true <;> simp [ha, ih]

/-! ## The first elements -/

omit [DecidableRel rel] in
/-- The first elements of a sorted list come before the others. -/
theorem rel_of_mem_take_drop {l : List α} (hl : l.Pairwise rel) {n : ℕ} {a b : α}
    (ha : a ∈ l.take n) (hb : b ∈ l.drop n) : rel a b := by
  rw [← List.take_append_drop n l, List.pairwise_append] at hl
  exact hl.2.2 a ha b hb

/-- Without the keys of its first elements, a list is what comes after them. -/
theorem filter_notMem_take {κ : Type} [DecidableEq κ] (f : α → κ) (n : ℕ) {l : List α}
    (hl : (l.map f).Nodup) : l.filter (fun a => f a ∉ (l.take n).map f) = l.drop n := by
  have hsplit : l.map f = (l.take n).map f ++ (l.drop n).map f := by
    rw [← List.map_append, List.take_append_drop]
  rw [hsplit, List.nodup_append] at hl
  have htake : (l.take n).filter (fun a => f a ∉ (l.take n).map f) = [] := by
    rw [List.filter_eq_nil_iff]
    intro a ha
    rw [decide_eq_true_eq, not_not]
    exact List.mem_map_of_mem ha
  have hdrop : (l.drop n).filter (fun a => f a ∉ (l.take n).map f) = l.drop n := by
    rw [List.filter_eq_self]
    intro a ha
    rw [decide_eq_true_eq]
    exact fun hmem => hl.2.2 _ hmem _ (List.mem_map_of_mem ha) rfl
  calc l.filter (fun a => f a ∉ (l.take n).map f)
      = (l.take n ++ l.drop n).filter (fun a => f a ∉ (l.take n).map f) := by
        rw [List.take_append_drop]
    _ = l.drop n := by rw [List.filter_append, htake, hdrop, List.nil_append]

end GatewayRealtime
