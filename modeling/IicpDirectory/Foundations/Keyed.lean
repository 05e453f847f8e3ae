import Mathlib.Data.List.Basic

/-!
# Replaying updates, key by key

A state is seen through one value per key, and an update concerns some of
the keys. Where the value of a key after an update depends only on the
value before it and on whether the update concerns the key, a whole replay
can be read key by key: `Keyed.view_foldl` says that the value of a key is
the fold of the updates that concern it, in their order.
-/

namespace Keyed

variable {S K V E : Type*}

/-- **A replay, seen at one key, is the replay of what concerns the key.** -/
theorem view_foldl (view : S → K → V) {step : S → E → S} (concerns : E → K → Bool)
    (update : K → V → E → V)
    (hstep : ∀ s e k, view (step s e) k
      = if concerns e k then update k (view s k) e else view s k)
    (s : S) (updates : List E) (k : K) :
    view (updates.foldl step s) k
      = (updates.filter (concerns · k)).foldl (update k) (view s k) := by
  induction updates generalizing s with
  | nil => rfl
  | cons e rest ih =>
    rw [List.foldl_cons, ih, hstep, List.filter_cons]
    cases concerns e k <;> rfl

end Keyed
