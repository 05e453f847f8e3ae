import Mathlib.Data.List.Basic

/-!
# A store ahead of its log

A writer changes a keyed store, and only later appends the event that says
so to a log; meanwhile other writers do the same. The events that are still
to be appended, in the order of their changes, are the *pending* ones, and
the store is ahead of the log by just these. What a log means at a key is
the fold of the events of that key, `Outbox.value`.

The one rule that matters is `Outbox.value_move`: appending a pending event
out of its turn changes what the log and the pending events together mean
at no key, *provided no pending event of the same key was to come first*.
Each key is then replayed in the order of its changes, whatever becomes of
the order between keys.

A copy of the store is a value per key too, and it agrees with the log and
those pending events that had changed the store when the copy was made, a
prefix of the pending ones.
-/

namespace Outbox

variable {K V E : Type*} [DecidableEq K] (key : E → K)

/-- The events of a key, in order. -/
def concerning (k : K) (events : List E) : List E := events.filter (fun e => key e = k)

/-- The `i`-th pending event is the first of its key. -/
def InOrder (pending : List E) (i : ℕ) : Prop :=
  ∀ e, pending[i]? = some e → ∀ e' ∈ pending.take i, key e' ≠ key e

/-- What a sequence of events means at a key. -/
def value (apply : V → E → V) (init : V) (k : K) (events : List E) : V :=
  (concerning key k events).foldl apply init

variable {key}

theorem concerning_append (k : K) (first second : List E) :
    concerning key k (first ++ second) = concerning key k first ++ concerning key k second :=
  List.filter_append _ _

theorem concerning_eq_nil {k : K} {events : List E} :
    concerning key k events = [] ↔ ∀ e ∈ events, key e ≠ k := by
  unfold concerning
  rw [List.filter_eq_nil_iff]
  simp

theorem concerning_singleton (k : K) (e : E) :
    concerning key k [e] = if key e = k then [e] else [] := by
  unfold concerning
  by_cases h : key e = k
  · rw [if_pos h, List.filter_cons_of_pos (by simpa using h), List.filter_nil]
  · rw [if_neg h, List.filter_cons_of_neg (by simpa using h), List.filter_nil]

/-- **Appending in order moves no event of a key past another.** -/
theorem concerning_move {pending : List E} {i : ℕ} {e : E} (he : pending[i]? = some e)
    (hord : InOrder key pending i) (log : List E) (k : K) :
    concerning key k ((log ++ [e]) ++ pending.eraseIdx i)
      = concerning key k (log ++ pending) := by
  have hsplit : pending = pending.take i ++ e :: pending.drop (i + 1) := by
    obtain ⟨hlt, hget⟩ := List.getElem?_eq_some_iff.mp he
    rw [← hget, ← List.drop_eq_getElem_cons hlt, List.take_append_drop]
  have hcons : e :: pending.drop (i + 1) = [e] ++ pending.drop (i + 1) := rfl
  rw [List.eraseIdx_eq_take_drop_succ]
  conv_rhs => rw [hsplit, hcons]
  simp only [concerning_append, concerning_singleton, List.append_assoc]
  by_cases hk : key e = k
  · -- none of the events that stay behind is of this key
    have hnone : concerning key k (pending.take i) = [] :=
      concerning_eq_nil.mpr (fun e' he' => hk ▸ hord e he e' he')
    rw [hnone]
    rfl
  · rw [if_neg hk]
    rfl

variable {apply : V → E → V} {init : V}

/-- **An event appended in order changes no value.** -/
theorem value_move {pending : List E} {i : ℕ} {e : E} (he : pending[i]? = some e)
    (hord : InOrder key pending i) (log : List E) (k : K) :
    value key apply init k ((log ++ [e]) ++ pending.eraseIdx i)
      = value key apply init k (log ++ pending) := by
  unfold value
  rw [concerning_move he hord]

/-- A change of the store is pending last. -/
theorem value_snoc (k : K) (events : List E) (e : E) :
    value key apply init k (events ++ [e])
      = if key e = k then apply (value key apply init k events) e
        else value key apply init k events := by
  unfold value
  rw [concerning_append, concerning_singleton, List.foldl_append]
  by_cases h : key e = k
  · rw [if_pos h, if_pos h]
    rfl
  · rw [if_neg h, if_neg h]
    rfl

/-- Events of other keys do not matter. -/
theorem value_append_of_forall_ne {k : K} {events : List E} (h : ∀ e ∈ events, key e ≠ k)
    (log : List E) : value key apply init k (log ++ events) = value key apply init k log := by
  unfold value
  rw [concerning_append, concerning_eq_nil.mpr h, List.append_nil]

/-- An event of another key may be left out anywhere. -/
theorem value_insert_of_ne {k : K} {e : E} (h : key e ≠ k) (log rest : List E) :
    value key apply init k ((log ++ [e]) ++ rest) = value key apply init k (log ++ rest) := by
  unfold value
  simp only [concerning_append, concerning_singleton, if_neg h, List.append_nil]

/-! ## Copies -/

/-- An event of the prefix a copy was made with leaves it. -/
theorem take_eraseIdx_of_lt {pending : List E} {i mark : ℕ} (h : i < mark) :
    (pending.eraseIdx i).take (mark - 1) = (pending.take mark).eraseIdx i := by
  refine List.ext_getElem? fun j => ?_
  simp only [List.getElem?_take, List.getElem?_eraseIdx]
  by_cases hj : j < i
  · rw [if_pos (by omega), if_pos hj, if_pos hj, if_pos (by omega)]
  · rw [if_neg hj, if_neg hj]
    by_cases hm : j + 1 < mark
    · rw [if_pos (by omega), if_pos hm]
    · rw [if_neg (by omega), if_neg hm]

/-- An event outside that prefix leaves it as it is. -/
theorem take_eraseIdx_of_le {pending : List E} {i mark : ℕ} (h : mark ≤ i) :
    (pending.eraseIdx i).take mark = pending.take mark := by
  refine List.ext_getElem? fun j => ?_
  simp only [List.getElem?_take, List.getElem?_eraseIdx]
  by_cases hj : j < mark
  · rw [if_pos hj, if_pos hj, if_pos (by omega)]
  · rw [if_neg hj, if_neg hj]

omit [DecidableEq K] in
theorem inOrder_take {pending : List E} {i : ℕ} (h : InOrder key pending i) {mark : ℕ}
    (hlt : i < mark) : InOrder key (pending.take mark) i := by
  intro e he e' he'
  rw [List.getElem?_take_of_lt hlt] at he
  rw [List.take_take, Nat.min_eq_left (Nat.le_of_lt hlt)] at he'
  exact h e he e' he'

/-- **A copy stays right when an event it was made with is appended in
order.** -/
theorem value_move_copy {pending : List E} {i mark : ℕ} {e : E} (he : pending[i]? = some e)
    (hord : InOrder key pending i) (hlt : i < mark) (log : List E) (k : K) :
    value key apply init k ((log ++ [e]) ++ (pending.eraseIdx i).take (mark - 1))
      = value key apply init k (log ++ pending.take mark) := by
  rw [take_eraseIdx_of_lt hlt]
  refine value_move ?_ (inOrder_take hord hlt) log k
  rw [List.getElem?_take_of_lt hlt]
  exact he

end Outbox
