/-
  Insertion-ordered maps and sets.

  A map here is what a scripting language calls a `Map`: a finite map that remembers in which
  order its keys were first inserted, and that is traversed in that order.

  * `OMap κ α`: the map, a list of entries with pairwise distinct keys.
  * `OMap.set` overwrites in place or appends; `OMap.delete` drops the entry; `OMap.mapVal`
    rewrites every value where it stands.
  * `OSet κ`: the set, a list of pairwise distinct elements, with `add` and `remove`.

  Distinctness is a field of both structures, so lookups never depend on which of two entries
  comes first.
-/
import Mathlib.Data.List.Nodup

namespace GatewayRealtime

universe u v
variable {κ : Type u} {α : Type v}

/-! ## Maps -/

/-- An insertion-ordered map. -/
@[ext] structure OMap (κ : Type u) (α : Type v) where
  entries : List (κ × α)
  nodup : (entries.map Prod.fst).Nodup
deriving DecidableEq

namespace OMap

/-- The empty map. -/
def empty : OMap κ α := ⟨[], List.nodup_nil⟩

instance : Inhabited (OMap κ α) := ⟨empty⟩

/-- The keys, oldest first. -/
def keys (m : OMap κ α) : List κ := m.entries.map Prod.fst

/-- The values, in the order of their keys. -/
def values (m : OMap κ α) : List α := m.entries.map Prod.snd

/-- The number of entries. -/
def size (m : OMap κ α) : ℕ := m.entries.length

/-- Rewrite every value where it stands. -/
def mapVal (f : κ → α → α) (m : OMap κ α) : OMap κ α where
  entries := m.entries.map fun e => (e.1, f e.1 e.2)
  nodup := by simpa [List.map_map, Function.comp_def] using m.nodup

variable [DecidableEq κ]

/-- The value of the first entry of `k` in a list of entries. -/
def find (k : κ) : List (κ × α) → Option α
  | [] => none
  | e :: l => if e.1 = k then some e.2 else find k l

/-- The value stored under `k`. -/
def get? (m : OMap κ α) (k : κ) : Option α := find k m.entries

/-- Is there an entry for `k`? -/
def has (m : OMap κ α) (k : κ) : Bool := (m.get? k).isSome

/-- Overwrite the entry of `k` where it stands, or append one. -/
def put (k : κ) (a : α) : List (κ × α) → List (κ × α)
  | [] => [(k, a)]
  | e :: l => if e.1 = k then (k, a) :: l else e :: put k a l

theorem keys_put (k : κ) (a : α) : ∀ l : List (κ × α),
    (put k a l).map Prod.fst =
      if k ∈ l.map Prod.fst then l.map Prod.fst else l.map Prod.fst ++ [k]
  | [] => by simp [put]
  | e :: l => by
    by_cases h : e.1 = k
    · simp [put, h]
    · have h' : ¬ k = e.1 := fun h' => h h'.symm
      simp only [put, if_neg h, List.map_cons, keys_put k a l, List.mem_cons, h', false_or]
      split_ifs <;> simp

theorem find_put (k : κ) (a : α) (k' : κ) : ∀ l : List (κ × α),
    find k' (put k a l) = if k' = k then some a else find k' l
  | [] => by simp [put, find, eq_comm]
  | e :: l => by
    by_cases h : e.1 = k
    · subst h
      by_cases h' : k' = e.1 <;> simp [put, find, h', eq_comm]
    · by_cases h' : k' = e.1
      · subst h'; simp [put, find, h]
      · have h'' : ¬ e.1 = k' := fun h'' => h' h''.symm
        simp [put, find, h, h'', find_put k a k' l]

/-- Store `a` under `k`. -/
def set (m : OMap κ α) (k : κ) (a : α) : OMap κ α where
  entries := put k a m.entries
  nodup := by
    rw [keys_put]
    split_ifs with h
    · exact m.nodup
    · exact m.nodup.append (List.nodup_singleton k) (by simpa using h)

/-- Drop the entry of `k`. -/
def delete (m : OMap κ α) (k : κ) : OMap κ α where
  entries := m.entries.filter fun e => e.1 ≠ k
  nodup := m.nodup.sublist (List.filter_sublist.map _)

/-- Apply `f` to the value stored under `k`, if there is one. -/
def modify (m : OMap κ α) (k : κ) (f : α → α) : OMap κ α :=
  match m.get? k with
  | some a => m.set k (f a)
  | none => m

/-! ### Lookups -/

@[simp] theorem get?_empty (k : κ) : (empty : OMap κ α).get? k = none := rfl

@[simp] theorem get?_set (m : OMap κ α) (k : κ) (a : α) (k' : κ) :
    (m.set k a).get? k' = if k' = k then some a else m.get? k' :=
  find_put k a k' m.entries

theorem find_filter_ne (k k' : κ) : ∀ l : List (κ × α),
    find k' (l.filter fun e => e.1 ≠ k) = if k' = k then none else find k' l
  | [] => by simp [find]
  | e :: l => by
    have ih := find_filter_ne k k' l
    by_cases h : e.1 = k
    · subst h
      by_cases h' : k' = e.1
      · simpa [find, h'] using ih
      · have h'' : ¬ e.1 = k' := fun h'' => h' h''.symm
        simpa [find, h', h''] using ih
    · by_cases h' : e.1 = k'
      · subst h'; simp [find, h]
      · simpa [find, h, h'] using ih

@[simp] theorem get?_delete (m : OMap κ α) (k k' : κ) :
    (m.delete k).get? k' = if k' = k then none else m.get? k' :=
  find_filter_ne k k' m.entries

@[simp] theorem get?_modify (m : OMap κ α) (k : κ) (f : α → α) (k' : κ) :
    (m.modify k f).get? k' = if k' = k then (m.get? k).map f else m.get? k' := by
  unfold modify
  cases h : m.get? k with
  | some a => simp
  | none =>
    by_cases h' : k' = k
    · simp [h', h]
    · simp [h']

theorem find_map_val (f : κ → α → α) (k : κ) : ∀ l : List (κ × α),
    find k (l.map fun e => (e.1, f e.1 e.2)) = (find k l).map (f k)
  | [] => rfl
  | e :: l => by
    by_cases h : e.1 = k
    · subst h; simp [find]
    · simp [find, h, find_map_val f k l]

@[simp] theorem get?_mapVal (m : OMap κ α) (f : κ → α → α) (k : κ) :
    (m.mapVal f).get? k = (m.get? k).map (f k) :=
  find_map_val f k m.entries

/-! ### Keys and entries -/

theorem find_isSome_iff (k : κ) : ∀ l : List (κ × α), (find k l).isSome ↔ k ∈ l.map Prod.fst
  | [] => by simp [find]
  | e :: l => by
    by_cases h : e.1 = k
    · subst h; simp [find]
    · have h' : ¬ k = e.1 := fun h' => h h'.symm
      simp only [find, h, if_false, List.map_cons, List.mem_cons, h', false_or]
      exact find_isSome_iff k l

theorem mem_keys (m : OMap κ α) (k : κ) : k ∈ m.keys ↔ ∃ a, m.get? k = some a := by
  rw [← Option.isSome_iff_exists]
  exact (find_isSome_iff k m.entries).symm

theorem not_mem_keys (m : OMap κ α) (k : κ) : k ∉ m.keys ↔ m.get? k = none := by
  rw [mem_keys, ← Option.isSome_iff_exists]
  simp

theorem has_iff (m : OMap κ α) (k : κ) : m.has k = true ↔ ∃ a, m.get? k = some a := by
  rw [has, Option.isSome_iff_exists]

theorem find_eq_some_iff (k : κ) (a : α) : ∀ l : List (κ × α), (l.map Prod.fst).Nodup →
    (find k l = some a ↔ (k, a) ∈ l)
  | [], _ => by simp [find]
  | e :: l, h => by
    have ih := find_eq_some_iff k a l (List.nodup_cons.1 h).2
    by_cases hk : e.1 = k
    · subst hk
      have hnot : (e.1, a) ∉ l := fun hm =>
        (List.nodup_cons.1 h).1 (List.mem_map.2 ⟨_, hm, rfl⟩)
      simp only [find, if_true, List.mem_cons, hnot, or_false, Option.some.injEq]
      exact ⟨fun h => Prod.ext rfl h.symm, fun h => (congrArg Prod.snd h).symm⟩
    · have hne : (k, a) ≠ e := fun h => hk (congrArg Prod.fst h).symm
      simp [find, hk, hne, ih]

/-- An entry is in the map exactly when its key looks its value up. -/
theorem mem_entries (m : OMap κ α) (k : κ) (a : α) :
    (k, a) ∈ m.entries ↔ m.get? k = some a :=
  (find_eq_some_iff k a m.entries m.nodup).symm

theorem mem_values (m : OMap κ α) (a : α) : a ∈ m.values ↔ ∃ k, m.get? k = some a := by
  simp only [values, List.mem_map, Prod.exists, mem_entries]
  exact ⟨fun ⟨k, b, h, hb⟩ => ⟨k, hb ▸ h⟩, fun ⟨k, h⟩ => ⟨k, a, h, rfl⟩⟩

theorem keys_set (m : OMap κ α) (k : κ) (a : α) :
    (m.set k a).keys = if k ∈ m.keys then m.keys else m.keys ++ [k] :=
  keys_put k a m.entries

omit [DecidableEq κ] in
@[simp] theorem size_mapVal (m : OMap κ α) (f : κ → α → α) : (m.mapVal f).size = m.size := by
  simp [size, mapVal]

omit [DecidableEq κ] in
theorem size_eq_keys (m : OMap κ α) : m.size = m.keys.length := by simp [size, keys]

theorem size_set (m : OMap κ α) (k : κ) (a : α) :
    (m.set k a).size = if k ∈ m.keys then m.size else m.size + 1 := by
  simp only [size_eq_keys, keys_set]
  split_ifs <;> simp

theorem size_set_le (m : OMap κ α) (k : κ) (a : α) : (m.set k a).size ≤ m.size + 1 := by
  rw [size_set]; split_ifs <;> omega

theorem size_delete_le (m : OMap κ α) (k : κ) : (m.delete k).size ≤ m.size :=
  List.length_filter_le _ _

/-- Modifying a value keeps the number of entries. -/
@[simp] theorem size_modify (m : OMap κ α) (k : κ) (f : α → α) : (m.modify k f).size = m.size := by
  unfold modify
  cases h : m.get? k with
  | none => rfl
  | some a => simp [size_set, (mem_keys m k).2 ⟨a, h⟩]

end OMap

/-! ## Sets -/

/-- An insertion-ordered set. -/
@[ext] structure OSet (κ : Type u) where
  elems : List κ
  nodup : elems.Nodup
deriving DecidableEq

namespace OSet

/-- The empty set. -/
def empty : OSet κ := ⟨[], List.nodup_nil⟩

instance : Inhabited (OSet κ) := ⟨empty⟩

instance : Membership κ (OSet κ) := ⟨fun s k => k ∈ s.elems⟩

/-- The number of elements. -/
def size (s : OSet κ) : ℕ := s.elems.length

theorem mem_def (s : OSet κ) (k : κ) : k ∈ s ↔ k ∈ s.elems := Iff.rfl

variable [DecidableEq κ]

instance (s : OSet κ) (k : κ) : Decidable (k ∈ s) := inferInstanceAs (Decidable (k ∈ s.elems))

/-- Append `k` unless it is there. -/
def add (s : OSet κ) (k : κ) : OSet κ where
  elems := if k ∈ s.elems then s.elems else s.elems ++ [k]
  nodup := by
    split_ifs with h
    · exact s.nodup
    · exact s.nodup.append (List.nodup_singleton k) (by simpa using h)

/-- Drop `k`. -/
def remove (s : OSet κ) (k : κ) : OSet κ where
  elems := s.elems.filter (· ≠ k)
  nodup := s.nodup.filter _

omit [DecidableEq κ] in
@[simp] theorem not_mem_empty (k : κ) : k ∉ (empty : OSet κ) := List.not_mem_nil

@[simp] theorem mem_add (s : OSet κ) (k k' : κ) : k' ∈ s.add k ↔ k' ∈ s ∨ k' = k := by
  simp only [mem_def, add]
  split_ifs with h
  · exact ⟨Or.inl, fun h' => h'.elim id fun e => e ▸ h⟩
  · simp

@[simp] theorem mem_remove (s : OSet κ) (k k' : κ) : k' ∈ s.remove k ↔ k' ∈ s ∧ k' ≠ k := by
  simp [mem_def, remove]

omit [DecidableEq κ] in
theorem size_eq_zero (s : OSet κ) : s.size = 0 ↔ ∀ k, k ∉ s := by
  simp only [size, List.length_eq_zero_iff, mem_def]
  exact List.eq_nil_iff_forall_not_mem

end OSet

end GatewayRealtime
