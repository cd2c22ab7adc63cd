/-
  Replicas that are kept by a snapshot and the changes after it.

  * `Update`: a snapshot, which sets all values, or the new value of one key.
  * `replay`: what a replica holds after a list of updates.
  * `replay_append`, `replay_reset`, `replay_assign`: the last word on a key is what counts.
  * `get?_foldl_setBy`: the map that is built of the values of a list.

  Nothing here knows what is replicated.
-/
import Mathlib.Logic.Function.Basic
import GatewayRealtime.Lib.OrderedMap

namespace GatewayRealtime

universe u v w
variable {κ : Type u} {α : Type v} {β : Type w} [DecidableEq κ]

/-- What a replica is told: the values of all keys, or the value of one. -/
inductive Update (κ : Type u) (α : Type v)
  | reset (entries : List (κ × α))
  | assign (k : κ) (a : α)

/-- A replica after an update. -/
def Update.apply (view : κ → Option α) : Update κ α → κ → Option α
  | .reset entries => fun k => OMap.find k entries
  | .assign k a => Function.update view k (some a)

/-- A replica after a list of updates, oldest first. -/
def replay (view : κ → Option α) (updates : List (Update κ α)) : κ → Option α :=
  updates.foldl Update.apply view

@[simp] theorem replay_nil (view : κ → Option α) : replay view [] = view := rfl

@[simp] theorem replay_cons (view : κ → Option α) (u : Update κ α) (us : List (Update κ α)) :
    replay view (u :: us) = replay (u.apply view) us := rfl

theorem replay_append (view : κ → Option α) (us us' : List (Update κ α)) :
    replay view (us ++ us') = replay (replay view us) us' := List.foldl_append

/-- After a snapshot the replica holds what the snapshot lists. -/
theorem replay_reset (view : κ → Option α) (entries : List (κ × α)) (k : κ) :
    replay view [.reset entries] k = OMap.find k entries := rfl

/-- One value that is told any number of times. -/
theorem replay_assign {k : κ} {a : α} : ∀ {us : List (Update κ α)} (view : κ → Option α),
    (∀ u ∈ us, u = .assign k a) → us ≠ [] → replay view us = Function.update view k (some a)
  | [], _, _, hne => absurd rfl hne
  | u :: us, view, hall, _ => by
    obtain rfl : u = .assign k a := hall u List.mem_cons_self
    rw [replay_cons]
    by_cases hus : us = []
    · rw [hus]
      rfl
    · rw [replay_assign _ (fun u hu => hall u (List.mem_cons_of_mem _ hu)) hus]
      exact Function.update_idem ..

/-- What a snapshot says of a key that it lists, if it lists every key with one value. -/
theorem find_snapshot {f : κ → α} {k : κ} : ∀ {entries : List (κ × α)},
    (∀ e ∈ entries, e.2 = f e.1) → (∃ e ∈ entries, e.1 = k) → OMap.find k entries = some (f k)
  | [], _, h => by simp at h
  | e :: rest, hall, h => by
    by_cases hk : e.1 = k
    · rw [OMap.find, if_pos hk, hall e List.mem_cons_self, hk]
    · rw [OMap.find, if_neg hk]
      refine find_snapshot (fun e he => hall e (List.mem_cons_of_mem _ he)) ?_
      obtain ⟨e', he', rfl⟩ := h
      rcases List.mem_cons.1 he' with rfl | he'
      · exact absurd rfl hk
      · exact ⟨e', he', rfl⟩

/-! ## The map of the values of a list -/

/-- A map with the value that `f` gives to an element, if it gives one. -/
def OMap.setBy (f : β → Option (κ × α)) (m : OMap κ α) (x : β) : OMap κ α :=
  match f x with
  | some e => m.set e.1 e.2
  | none => m

theorem OMap.get?_setBy {f : β → Option (κ × α)} {x : β} {k : κ} (m : OMap κ α)
    (h : ∀ a, f x ≠ some (k, a)) : (m.setBy f x).get? k = m.get? k := by
  unfold OMap.setBy
  split
  · rename_i e hx
    rw [OMap.get?_set, if_neg]
    rintro rfl
    exact h e.2 hx
  · rfl

/-- At a key that no element is about. -/
theorem get?_foldl_setBy_of_none {f : β → Option (κ × α)} {k : κ} :
    ∀ {l : List β} (m : OMap κ α), (∀ x ∈ l, ∀ a, f x ≠ some (k, a)) →
      (l.foldl (OMap.setBy f) m).get? k = m.get? k
  | [], _, _ => rfl
  | x :: l, m, h => by
    rw [List.foldl_cons, get?_foldl_setBy_of_none _ fun y hy => h y (List.mem_cons_of_mem _ hy),
      OMap.get?_setBy m (h x List.mem_cons_self)]

/-- At a key that some element is about, if all of these give it one value. -/
theorem get?_foldl_setBy {f : β → Option (κ × α)} {k : κ} {a : α} :
    ∀ {l : List β} (m : OMap κ α), (∀ x ∈ l, ∀ a', f x = some (k, a') → a' = a) →
      (∃ x ∈ l, f x = some (k, a)) → (l.foldl (OMap.setBy f) m).get? k = some a
  | [], _, _, h => by simp at h
  | x :: l, m, hall, h => by
    have hl : ∀ y ∈ l, ∀ a', f y = some (k, a') → a' = a :=
      fun y hy => hall y (List.mem_cons_of_mem _ hy)
    rw [List.foldl_cons]
    by_cases hlater : ∃ y ∈ l, f y = some (k, a)
    · exact get?_foldl_setBy _ hl hlater
    · -- no later element overwrites the value
      have hx : f x = some (k, a) := by
        obtain ⟨y, hy, hfy⟩ := h
        rcases List.mem_cons.1 hy with rfl | hy
        · exact hfy
        · exact absurd ⟨y, hy, hfy⟩ hlater
      rw [get?_foldl_setBy_of_none]
      · simp [OMap.setBy, hx]
      · intro y hy a' hfy
        exact hlater ⟨y, hy, hl y hy a' hfy ▸ hfy⟩

end GatewayRealtime
