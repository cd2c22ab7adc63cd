/-
  Maps on which each operation touches the entry of one key.

  * `TouchesKey`: an operation changes the entry of its key, in a way that depends on that entry
    alone.
  * `TouchesKey.get?_foldl`: what a run makes of an entry.
  * `TouchesKey.get?_filter`: only the operations on a key matter for its entry.
-/
import GatewayRealtime.Lib.OrderedMap

namespace GatewayRealtime

universe u v w
variable {κ : Type u} {σ : Type v} {α : Type w} [DecidableEq κ]

/-- The operation `a` turns the entry of its key into what `act` says, and leaves the others alone;
    an operation without a key leaves them all alone. -/
def TouchesKey (step : OMap κ σ → α → OMap κ σ) (key : α → Option κ)
    (act : α → Option σ → Option σ) : Prop :=
  ∀ m a k, (step m a).get? k = if key a = some k then act a (m.get? k) else m.get? k

namespace TouchesKey

variable {step : OMap κ σ → α → OMap κ σ} {key : α → Option κ} {act : α → Option σ → Option σ}

/-- The entry of a key after a run: the operations on the key have acted on it, in their order. -/
theorem get?_foldl (h : TouchesKey step key act) (k : κ) : ∀ (l : List α) (m : OMap κ σ),
    (l.foldl step m).get? k =
      (l.filter fun a => key a = some k).foldl (fun entry a => act a entry) (m.get? k)
  | [], _ => rfl
  | a :: l, m => by
    rw [List.foldl_cons, h.get?_foldl k l, h, List.filter_cons]
    by_cases hk : key a = some k <;> simp [hk]

/-- Operations on other keys may be left out. -/
theorem get?_filter (h : TouchesKey step key act) {p : α → Bool} {k : κ} {l : List α}
    (hp : ∀ a ∈ l, key a = some k → p a = true) (m : OMap κ σ) :
    ((l.filter p).foldl step m).get? k = (l.foldl step m).get? k := by
  rw [h.get?_foldl, h.get?_foldl, List.filter_filter]
  congr 1
  refine List.filter_congr fun a ha => ?_
  by_cases hk : key a = some k
  · simp [hk, hp a ha hk]
  · simp [hk]

end TouchesKey

end GatewayRealtime
