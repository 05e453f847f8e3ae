import Mathlib.Data.List.Nodup
import Mathlib.Data.List.Perm.Subperm
import Mathlib.Order.Basic

/-!
# Brackets, and what is numbered

A value is put in the first bracket of a list that admits it. A bracket is
named by its label, and it is better the earlier it stands. If every bracket
that admits one value admits another, then the other is put no later
(`rank_le_rank`); if the brackets have thresholds in order, then the one a
value is put in has the least that covers it (`threshold_le_of_first`).

What is numbered 1, 2, 3, … has so many members up to a number at most
(`countP_le_of_numbered`), so that a bracket with a cap on the number admits
no more than its cap.
-/

namespace Brackets

variable {B L X : Type*}

/-- The bracket a value is put in: the first that admits it. -/
def first (admits : X → B → Bool) (brackets : List B) (x : X) : Option B :=
  brackets.find? (admits x)

/-- Where a label stands among the brackets. -/
def rank [DecidableEq L] (label : B → L) (brackets : List B) (l : L) : ℕ :=
  brackets.findIdx fun b => label b == l

/-- What a value is put in admits it. -/
theorem admits_of_first {admits : X → B → Bool} {brackets : List B} {x : X} {b : B}
    (h : first admits brackets x = some b) : b ∈ brackets ∧ admits x b = true :=
  ⟨List.mem_of_find?_eq_some h, List.find?_some h⟩

/-- The rank of the bracket a value is put in is where the first one that
admits it stands. -/
theorem rank_of_first [DecidableEq L] {admits : X → B → Bool} {label : B → L} {brackets : List B}
    {x : X} {b : B} (hlabels : (brackets.map label).Nodup)
    (h : first admits brackets x = some b) :
    rank label brackets (label b) = brackets.findIdx (admits x) := by
  unfold first at h
  unfold rank
  induction brackets with
  | nil => exact absurd h (by simp)
  | cons c rest ih =>
    rw [List.map_cons, List.nodup_cons] at hlabels
    rw [List.findIdx_cons, List.findIdx_cons]
    by_cases hc : admits x c = true
    · rw [List.find?_cons_of_pos hc] at h
      cases h
      simp [hc]
    · rw [List.find?_cons_of_neg hc] at h
      have hne : label c ≠ label b := by
        intro heq
        exact hlabels.1 (heq ▸ List.mem_map_of_mem (List.mem_of_find?_eq_some h))
      have hbeq : (label c == label b) = false := beq_eq_false_iff_ne.mpr hne
      rw [hbeq, Bool.eq_false_iff.mpr hc]
      exact congrArg (· + 1) (ih hlabels.2 h)

/-- **What is admitted more is put no later.** -/
theorem rank_le_rank [DecidableEq L] {admits : X → B → Bool} {label : B → L} {brackets : List B}
    {x y : X} {b c : B} (hlabels : (brackets.map label).Nodup)
    (hadmits : ∀ d ∈ brackets, admits y d = true → admits x d = true)
    (hx : first admits brackets x = some b) (hy : first admits brackets y = some c) :
    rank label brackets (label b) ≤ rank label brackets (label c) := by
  rw [rank_of_first hlabels hx, rank_of_first hlabels hy]
  exact List.findIdx_le_findIdx hadmits

/-- **The bracket with the least threshold.** -/
theorem threshold_le_of_first [Preorder L] {admits : X → B → Bool} {threshold : B → L}
    {brackets : List B} {x : X} {b c : B}
    (hsorted : brackets.Pairwise fun d e => threshold d ≤ threshold e)
    (h : first admits brackets x = some b) (hc : c ∈ brackets) (hadmits : admits x c = true) :
    threshold b ≤ threshold c := by
  unfold first at h
  induction brackets with
  | nil => exact absurd hc List.not_mem_nil
  | cons d rest ih =>
    rw [List.pairwise_cons] at hsorted
    by_cases hd : admits x d = true
    · rw [List.find?_cons_of_pos hd] at h
      cases h
      cases hc with
      | head => exact le_rfl
      | tail _ hrest => exact hsorted.1 c hrest
    · rw [List.find?_cons_of_neg hd] at h
      cases hc with
      | head => exact absurd hadmits hd
        | tail _ hrest => exact ih hsorted.2 h hrest

/-! ## What is numbered in order -/

variable {A : Type*} {number : A → ℕ} {as : List A}

/-- The numbers rise. -/
theorem pairwise_lt_of_numbered (h : as.map number = List.range' 1 as.length) :
    as.Pairwise fun a b => number a < number b := by
  have hrises : (as.map number).Pairwise (· < ·) := h ▸ List.pairwise_lt_range'
  exact List.pairwise_map.mp hrises

/-- **So many have a number up to a cap at most.** -/
theorem countP_le_of_numbered (h : as.map number = List.range' 1 as.length) {p : A → Bool}
    {cap : ℕ} (hcap : ∀ a ∈ as, p a = true → number a ≤ cap) : as.countP p ≤ cap := by
  have hnodup : ((as.filter p).map number).Nodup :=
    List.Nodup.sublist (List.filter_sublist.map number) (h ▸ List.nodup_range')
  have hwithin : (as.filter p).map number ⊆ List.range' 1 cap := by
    intro n hn
    obtain ⟨a, ha, rfl⟩ := List.mem_map.mp hn
    have ⟨hmem, hp⟩ := List.mem_filter.mp ha
    have hnumber : number a ∈ List.range' 1 as.length := h ▸ List.mem_map_of_mem hmem
    have hle := hcap a hmem hp
    rw [List.mem_range'_1] at hnumber ⊢
    omega
  calc as.countP p = ((as.filter p).map number).length := by
        rw [List.length_map, List.countP_eq_length_filter]
    _ ≤ (List.range' 1 cap).length := (List.subperm_of_subset hnodup hwithin).length_le
    _ = cap := List.length_range'

end Brackets
