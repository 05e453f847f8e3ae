import Mathlib.Data.List.Basic
import Mathlib.Data.Nat.Find
import Mathlib.Order.BoundedOrder.Basic
import Mathlib.Order.PiLex

/-!
# Sequences compared behind their end

Two finite sequences are compared lexicographically, the shorter one padded
with the least value (`Precedes`). A loop over their common length that stops
at the first difference decides it (`atLeast_iff`).

A reader that stops at the first value it cannot hold cuts the sequences
short. What it then finds is right exactly under `CutSafe`: the sequences
differ before the first value that is cut, or what is cut is of the one that
was to be at least the other, and nothing that was read of the other behind
it shows (`agrees_iff_cutSafe`).
-/

namespace Padded

variable {α : Type*} [LinearOrder α] [OrderBot α]

/-- The value at a place, the least one behind the end. -/
def value (xs : List α) (i : ℕ) : α := xs.getD i ⊥

/-- **The one sequence precedes the other** lexicographically. -/
def Precedes (xs ys : List α) : Prop := Pi.Lex (· < ·) (· < ·) (value xs) (value ys)

/-- The loop: at the first difference it is known which is greater. -/
def atLeast (xs ys : List α) : Bool :=
  ((List.range (max xs.length ys.length)).findSome? fun i =>
    if value ys i < value xs i then some true
    else if value xs i < value ys i then some false
    else none).getD true

theorem value_of_length_le {xs : List α} {i : ℕ} (h : xs.length ≤ i) : value xs i = ⊥ := by
  unfold value
  rw [List.getD_eq_getElem?_getD, List.getElem?_eq_none h]
  rfl

@[simp] theorem value_cons_zero (x : α) (xs : List α) : value (x :: xs) 0 = x := rfl

@[simp] theorem value_cons_succ (x : α) (xs : List α) (i : ℕ) :
    value (x :: xs) (i + 1) = value xs i := by
  unfold value
  rw [List.getD_cons_succ]

theorem value_tail (xs : List α) (i : ℕ) : value xs.tail i = value xs (i + 1) := by
  cases xs with
  | nil => rfl
  | cons x rest => rw [List.tail_cons, value_cons_succ]

/-- The first values decide, or what is behind them. -/
theorem precedes_iff_tail {xs ys : List α} :
    Precedes xs ys
      ↔ value xs 0 < value ys 0 ∨ value xs 0 = value ys 0 ∧ Precedes xs.tail ys.tail := by
  constructor
  · rintro ⟨i, hbefore, hlt⟩
    cases i with
    | zero => exact .inl hlt
    | succ i =>
      refine .inr ⟨hbefore 0 (Nat.zero_lt_succ i), i, fun j hj => ?_, ?_⟩
      · rw [value_tail, value_tail]
        exact hbefore (j + 1) (Nat.succ_lt_succ hj)
      · rw [value_tail, value_tail]
        exact hlt
  · rintro (hlt | ⟨heq, i, hbefore, hlt⟩)
    · exact ⟨0, fun j hj => absurd hj (Nat.not_lt_zero j), hlt⟩
    · rw [value_tail, value_tail] at hlt
      refine ⟨i + 1, fun j hj => ?_, hlt⟩
      cases j with
      | zero => exact heq
      | succ j =>
        have hj := hbefore j (Nat.lt_of_succ_lt_succ hj)
        rwa [value_tail, value_tail] at hj

/-- Nothing precedes the least sequence. -/
theorem not_precedes_nil {xs : List α} : ¬ Precedes xs [] := by
  rintro ⟨i, -, hlt⟩
  exact not_lt_bot hlt

/-! ## The first difference -/

section First

variable {f g : ℕ → α}

omit [OrderBot α] in
/-- What precedes is decided at the first difference. -/
theorem lex_iff_of_first {i : ℕ} (hbefore : ∀ j < i, f j = g j) (hne : f i ≠ g i) :
    Pi.Lex (· < ·) (· < ·) f g ↔ f i < g i := by
  constructor
  · rintro ⟨k, hk, hlt⟩
    obtain hki | rfl | hik := Nat.lt_trichotomy k i
    · exact absurd (hbefore k hki) hlt.ne
    · exact hlt
    · exact absurd (hk i hik) hne
  · intro h
    exact ⟨i, hbefore, h⟩

omit [OrderBot α] in
theorem exists_first {k : ℕ} (h : ∃ i < k, f i ≠ g i) :
    ∃ i < k, (∀ j < i, f j = g j) ∧ f i ≠ g i := by
  have hsome : ∃ i, i < k ∧ f i ≠ g i := h
  classical
  refine ⟨Nat.find hsome, (Nat.find_spec hsome).1, fun j hj => ?_, (Nat.find_spec hsome).2⟩
  by_contra hne
  exact Nat.find_min hsome hj ⟨hj.trans (Nat.find_spec hsome).1, hne⟩

end First

/-- **The loop decides which sequence precedes.** -/
theorem atLeast_iff {xs ys : List α} : atLeast xs ys = true ↔ ¬ Precedes xs ys := by
  unfold atLeast
  by_cases hdiffer : ∃ i < max xs.length ys.length, value xs i ≠ value ys i
  · obtain ⟨i, hi, hbefore, hne⟩ := exists_first hdiffer
    have hfound : (List.range (max xs.length ys.length)).findSome? (fun i =>
        if value ys i < value xs i then some true
        else if value xs i < value ys i then some false
        else none) = some (decide (value ys i < value xs i)) := by
      rw [List.findSome?_eq_some_iff]
      refine ⟨List.range i, i, List.range' (i + 1) (max xs.length ys.length - (i + 1)), ?_, ?_, ?_⟩
      · rw [List.range_eq_range', List.range_eq_range', ← List.range'_succ]
        have hsplit := List.range'_append_1 (s := 0) (m := i)
          (n := max xs.length ys.length - (i + 1) + 1)
        rw [Nat.zero_add] at hsplit
        rw [hsplit]
        congr 1
        omega
      · obtain hlt | hlt := lt_or_gt_of_ne hne
        · rw [if_neg hlt.not_gt, if_pos hlt, decide_eq_false hlt.not_gt]
        · rw [if_pos hlt, decide_eq_true hlt]
      · intro j hj
        have heq := hbefore j (List.mem_range.mp hj)
        rw [heq, if_neg (lt_irrefl _), if_neg (lt_irrefl _)]
    rw [hfound, Option.getD_some, decide_eq_true_eq, Precedes, lex_iff_of_first hbefore hne, not_lt]
    exact ⟨le_of_lt, fun h => lt_of_le_of_ne h (Ne.symm hne)⟩
  · push Not at hdiffer
    have hall : ∀ i, value xs i = value ys i := by
      intro i
      by_cases hi : i < max xs.length ys.length
      · exact hdiffer i hi
      · rw [value_of_length_le ((le_max_left _ _).trans (not_lt.mp hi)),
          value_of_length_le ((le_max_right _ _).trans (not_lt.mp hi))]
    have hnone : (List.range (max xs.length ys.length)).findSome? (fun i =>
        if value ys i < value xs i then some true
        else if value xs i < value ys i then some false
        else none) = none := by
      rw [List.findSome?_eq_none_iff]
      intro i _
      rw [hall i, if_neg (lt_irrefl _), if_neg (lt_irrefl _)]
    rw [hnone]
    refine iff_of_true rfl ?_
    rintro ⟨i, -, hlt⟩
    exact absurd (hall i) hlt.ne

/-! ## Sequences that are cut -/

/-- What is read of a sequence before the first value beyond a bound. -/
def cut (bound : α) (xs : List α) : List α := xs.takeWhile fun x => decide (x < bound)

omit [OrderBot α] in
theorem cut_cons_of_lt {bound x : α} {rest : List α} (h : x < bound) :
    cut bound (x :: rest) = x :: cut bound rest :=
  List.takeWhile_cons_of_pos (p := fun x => decide (x < bound)) (decide_eq_true h)

omit [OrderBot α] in
theorem cut_cons_of_le {bound x : α} {rest : List α} (h : bound ≤ x) :
    cut bound (x :: rest) = [] :=
  List.takeWhile_cons_of_neg (p := fun x => decide (x < bound)) (by simpa using h)

/-- What was read is what there is up to the first value that is cut. -/
theorem value_cut {bound : α} {xs : List α} {i : ℕ} (h : ∀ j ≤ i, value xs j < bound) :
    value (cut bound xs) i = value xs i := by
  induction xs generalizing i with
  | nil => rfl
  | cons x rest ih =>
    have hx : x < bound := h 0 (Nat.zero_le i)
    rw [cut_cons_of_lt hx]
    cases i with
    | zero => rfl
    | succ i =>
      rw [value_cons_succ, value_cons_succ]
      exact ih fun j hj => (value_cons_succ x rest j) ▸ h (j + 1) (Nat.succ_le_succ hj)

/-- And nothing behind it. -/
theorem value_cut_of_le {bound : α} {xs : List α} {i j : ℕ} (hj : bound ≤ value xs j)
    (hji : j ≤ i) : value (cut bound xs) i = ⊥ := by
  induction xs generalizing i j with
  | nil => rfl
  | cons x rest ih =>
    by_cases hx : x < bound
    · rw [cut_cons_of_lt hx]
      cases j with
      | zero => exact absurd hj (not_le.mpr hx)
      | succ j =>
        cases i with
        | zero => exact absurd hji (Nat.not_succ_le_zero j)
        | succ i =>
          rw [value_cons_succ] at hj ⊢
          exact ih hj (Nat.le_of_succ_le_succ hji)
    · rw [cut_cons_of_le (not_lt.mp hx)]
      rfl

/-- A value of either sequence is cut at a place, and none before. -/
def FirstCut (bound : α) (xs ys : List α) (k : ℕ) : Prop :=
  (bound ≤ value xs k ∨ bound ≤ value ys k) ∧ ∀ j < k, value xs j < bound ∧ value ys j < bound

/-- **The cuts do not show.** Where a value is first cut the sequences have
differed before; or a value of the first is cut, and if none of the other is,
then what is read of the other from there on is the least value, and if one is
too, then the first sequence does not precede. -/
def CutSafe (bound : α) (xs ys : List α) : Prop :=
  ∀ k, FirstCut bound xs ys k →
    (∃ i < k, value xs i ≠ value ys i)
      ∨ bound ≤ value xs k
        ∧ (value ys k < bound → ∀ i ≥ k, (∀ j ≤ i, value ys j < bound) → value ys i = ⊥)
        ∧ (bound ≤ value ys k → ¬ Precedes xs ys)

theorem exists_firstCut {bound : α} {xs ys : List α}
    (h : ∃ k, bound ≤ value xs k ∨ bound ≤ value ys k) : ∃ k, FirstCut bound xs ys k := by
  classical
  refine ⟨Nat.find h, Nat.find_spec h, fun j hj => ?_⟩
  have hnot := Nat.find_min h hj
  rw [not_or, not_le, not_le] at hnot
  exact hnot

theorem FirstCut.unique {bound : α} {xs ys : List α} {k k' : ℕ} (h : FirstCut bound xs ys k)
    (h' : FirstCut bound xs ys k') : k = k' := by
  obtain hlt | heq | hlt := Nat.lt_trichotomy k k'
  · have ⟨hx, hy⟩ := h'.2 k hlt
    exact absurd h.1 (by rw [not_or, not_le, not_le]; exact ⟨hx, hy⟩)
  · exact heq
  · have ⟨hx, hy⟩ := h.2 k' hlt
    exact absurd h'.1 (by rw [not_or, not_le, not_le]; exact ⟨hx, hy⟩)

section Cut

variable {bound : α} {xs ys : List α} {k : ℕ}

/-- Before the first cut both are as they were read. -/
theorem FirstCut.value_eq (h : FirstCut bound xs ys k) {i : ℕ} (hi : i < k) :
    value (cut bound xs) i = value xs i ∧ value (cut bound ys) i = value ys i :=
  ⟨value_cut fun j hj => (h.2 j (hj.trans_lt hi)).1,
    value_cut fun j hj => (h.2 j (hj.trans_lt hi)).2⟩

/-- A difference before the first cut decides as it does without the cuts. -/
theorem FirstCut.precedes_iff (h : FirstCut bound xs ys k)
    (hdiffer : ∃ i < k, value xs i ≠ value ys i) :
    Precedes (cut bound xs) (cut bound ys) ↔ Precedes xs ys := by
  obtain ⟨i, hi, hbefore, hne⟩ := exists_first hdiffer
  have hread : ∀ j ≤ i, value (cut bound xs) j = value xs j
      ∧ value (cut bound ys) j = value ys j := fun j hj => h.value_eq (hj.trans_lt hi)
  unfold Precedes
  rw [lex_iff_of_first hbefore hne, lex_iff_of_first (i := i)]
  · rw [(hread i le_rfl).1, (hread i le_rfl).2]
  · intro j hj
    rw [(hread j hj.le).1, (hread j hj.le).2]
    exact hbefore j hj
  · rw [(hread i le_rfl).1, (hread i le_rfl).2]
    exact hne

/-- If nothing differs before the first cut, the cut sequence precedes if a
value is left of the other behind it. -/
theorem FirstCut.precedes_cut_iff (h : FirstCut bound xs ys k)
    (hsame : ∀ i < k, value xs i = value ys i) (hx : bound ≤ value xs k) :
    Precedes (cut bound xs) (cut bound ys) ↔ ∃ i ≥ k, value (cut bound ys) i ≠ ⊥ := by
  have hbot : ∀ i ≥ k, value (cut bound xs) i = ⊥ := fun i hi => value_cut_of_le hx hi
  have hbefore : ∀ i < k, value (cut bound xs) i = value (cut bound ys) i := by
    intro i hi
    rw [(h.value_eq hi).1, (h.value_eq hi).2, hsame i hi]
  constructor
  · rintro ⟨i, -, hlt⟩
    have hki : k ≤ i := not_lt.mp fun hi => absurd (hbefore i hi) hlt.ne
    exact ⟨i, hki, fun heq => absurd (heq ▸ hlt) not_lt_bot⟩
  · rintro ⟨i, hki, hne⟩
    obtain ⟨j, -, hfirst, hdiffer⟩ := exists_first (f := value (cut bound xs))
      (g := value (cut bound ys)) ⟨i, Nat.lt_succ_self i, by rw [hbot i hki]; exact hne.symm⟩
    have hkj : k ≤ j := not_lt.mp fun hj => hdiffer (hbefore j hj)
    refine ⟨j, hfirst, ?_⟩
    rw [hbot j hkj] at hdiffer ⊢
    exact bot_lt_iff_ne_bot.mpr (Ne.symm hdiffer)

/-- What is left of a sequence from a place on. -/
theorem forall_value_cut_eq_bot_iff :
    (∀ i ≥ k, value (cut bound ys) i = ⊥)
      ↔ ∀ i ≥ k, (∀ j ≤ i, value ys j < bound) → value ys i = ⊥ := by
  refine forall₂_congr fun i _ => ?_
  by_cases hread : ∀ j ≤ i, value ys j < bound
  · rw [value_cut hread, forall_prop_of_true hread]
  · have ⟨j, hj, hle⟩ : ∃ j ≤ i, bound ≤ value ys j := by
      by_contra hnone
      push Not at hnone
      exact hread hnone
    exact iff_of_true (value_cut_of_le hle hj) fun h => absurd h hread

/-- **What is found of the cut sequences is right exactly if the cuts do not
show.** -/
theorem agrees_iff_cutSafe :
    (¬ Precedes (cut bound xs) (cut bound ys) ↔ ¬ Precedes xs ys) ↔ CutSafe bound xs ys := by
  by_cases hcut : ∃ k, bound ≤ value xs k ∨ bound ≤ value ys k
  · obtain ⟨k, hk⟩ := exists_firstCut hcut
    have hsafe : CutSafe bound xs ys ↔ (∃ i < k, value xs i ≠ value ys i)
        ∨ bound ≤ value xs k
          ∧ (value ys k < bound → ∀ i ≥ k, (∀ j ≤ i, value ys j < bound) → value ys i = ⊥)
          ∧ (bound ≤ value ys k → ¬ Precedes xs ys) :=
      ⟨fun h => h k hk, fun h k' hk' => hk.unique hk' ▸ h⟩
    rw [hsafe]
    by_cases hdiffer : ∃ i < k, value xs i ≠ value ys i
    · exact iff_of_true (not_congr (hk.precedes_iff hdiffer)) (Or.inl hdiffer)
    rw [or_iff_right hdiffer]
    push Not at hdiffer
    by_cases hx : bound ≤ value xs k
    · rw [hk.precedes_cut_iff hdiffer hx, and_iff_right hx]
      have hleft : (¬ ∃ i ≥ k, value (cut bound ys) i ≠ ⊥)
          ↔ ∀ i ≥ k, value (cut bound ys) i = ⊥ := by
        push Not
        rfl
      rw [hleft]
      by_cases hy : bound ≤ value ys k
      · -- both are cut: what is left is the same
        have hall : ∀ i ≥ k, value (cut bound ys) i = ⊥ := fun i hi =>
          value_cut_of_le hy hi
        rw [iff_true_intro hall, true_iff, and_iff_right fun h => absurd hy (not_le.mpr h),
          forall_prop_of_true hy]
      · -- the first is greater where it is cut
        have hgreater : ¬ Precedes xs ys := by
          unfold Precedes
          rw [lex_iff_of_first hdiffer ((not_le.mp hy).trans_le hx).ne', not_lt]
          exact (not_le.mp hy).le.trans hx
        rw [iff_true_intro hgreater, iff_true, forall_value_cut_eq_bot_iff,
          forall_prop_of_true (not_le.mp hy)]
        exact ⟨fun h => ⟨h, fun _ => trivial⟩, And.left⟩
    · -- the other is cut where the first is less
      have hy : bound ≤ value ys k := hk.1.resolve_left hx
      have hless : Precedes xs ys := ⟨k, hdiffer, (not_le.mp hx).trans_le hy⟩
      refine iff_of_false (fun h => ?_) fun h => hx h.1
      refine h.mp ?_ hless
      rintro ⟨i, -, hlt⟩
      obtain hik | hki := lt_or_ge i k
      · rw [(hk.value_eq hik).1, (hk.value_eq hik).2, hdiffer i hik] at hlt
        exact absurd hlt (lt_irrefl _)
      · rw [value_cut_of_le hy hki] at hlt
        exact not_lt_bot hlt
  · push Not at hcut
    have hsafe : CutSafe bound xs ys := fun k hk =>
      absurd hk.1 (by rw [not_or, not_le, not_le]; exact hcut k)
    have hxs : value (cut bound xs) = value xs := funext fun i => value_cut fun j _ => (hcut j).1
    have hys : value (cut bound ys) = value ys := funext fun i => value_cut fun j _ => (hcut j).2
    refine iff_of_true ?_ hsafe
    unfold Precedes
    rw [hxs, hys]

end Cut

end Padded
