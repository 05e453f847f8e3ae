import IicpDirectory.Foundations.Table
import Mathlib.Data.List.Sort

/-!
# Deleting the first rows of a table

Rows that meet a condition are deleted in the order of their keys, so many at a
time. The keys they have are listed (`Table.keysWhere`); a batch takes the first
of the list, and leaves the table without them (`Table.without`). One batch
after another takes as much as one large batch
(`Table.keysWhere_without_take`, `Table.without_without`), and a row is among
those taken if few enough come before it (`Table.mem_take_keysWhere_iff`).
-/

/-- In a list in order, the first are those with few before them. -/
theorem List.mem_take_iff_countP_lt {K : Type*} [LinearOrder K] {keys : List K}
    (h : keys.Pairwise (· < ·)) {k : K} (hk : k ∈ keys) (n : ℕ) :
    k ∈ keys.take n ↔ keys.countP (fun other => decide (other < k)) < n := by
  induction keys generalizing n with
  | nil => exact absurd hk List.not_mem_nil
  | cons first rest ih =>
    obtain ⟨hfirst, hrest⟩ := List.pairwise_cons.mp h
    cases n with
    | zero => simp
    | succ n =>
      rw [List.take_succ_cons, List.mem_cons, List.countP_cons]
      rcases List.mem_cons.mp hk with rfl | hmem
      · have hnone : rest.countP (fun other => decide (other < k)) = 0 :=
          List.countP_eq_zero.mpr fun other hother => by
            simpa using le_of_lt (hfirst other hother)
        simp [hnone]
      · have hlt : first < k := hfirst k hmem
        rw [or_iff_right hlt.ne', ih hrest hmem]
        simp [hlt]

namespace Table

variable {K R : Type*} {key : R → K} [LinearOrder K]

/-- The keys of the rows that meet a condition, in order. -/
def keysWhere (t : Table key) (p : R → Bool) : List K :=
  ((t.rows.filter p).map key).insertionSort (· ≤ ·)

/-- `DELETE … WHERE key IN (…)`. -/
def without (t : Table key) (keys : List K) : Table key where
  rows := t.rows.filter fun r => decide (key r ∉ keys)
  keys_nodup := t.keys_nodup.sublist (List.filter_sublist.map _)

variable (t : Table key) (p : R → Bool)

theorem perm_keysWhere : (t.keysWhere p).Perm ((t.rows.filter p).map key) :=
  List.perm_insertionSort _ _

theorem mem_keysWhere_iff {k : K} :
    k ∈ t.keysWhere p ↔ ∃ r ∈ t.rows, p r = true ∧ key r = k := by
  rw [(t.perm_keysWhere p).mem_iff, List.mem_map]
  simp only [List.mem_filter, and_assoc]

/-- They are in order, each there once. -/
theorem keysWhere_pairwise : (t.keysWhere p).Pairwise (· < ·) := by
  have hsorted : (t.keysWhere p).Pairwise (· ≤ ·) := List.pairwise_insertionSort _ _
  have hnodup : (t.keysWhere p).Nodup :=
    (t.perm_keysWhere p).nodup_iff.mpr (t.keys_nodup.sublist (List.filter_sublist.map _))
  exact (hsorted.and hnodup).imp fun h => lt_of_le_of_ne h.1 h.2

theorem length_keysWhere : (t.keysWhere p).length = t.rows.countP p := by
  rw [(t.perm_keysWhere p).length_eq, List.length_map, List.countP_eq_length_filter]

@[simp] theorem mem_without_rows {keys : List K} {r : R} :
    r ∈ (t.without keys).rows ↔ r ∈ t.rows ∧ key r ∉ keys := by
  show r ∈ t.rows.filter _ ↔ _
  rw [List.mem_filter, decide_eq_true_iff]

/-- One deletion after another. -/
theorem without_without (keys keys' : List K) :
    (t.without keys).without keys' = t.without (keys ++ keys') := by
  unfold without
  congr 1
  rw [List.filter_filter]
  refine List.filter_congr fun r _ => ?_
  rw [← Bool.decide_and]
  refine decide_eq_decide.mpr ?_
  rw [List.mem_append, not_or, and_comm]

theorem without_nil : t.without [] = t := by
  unfold without
  simp

/-- **What is left of the keys**: those behind the ones that are taken. -/
theorem keysWhere_without_take (n : ℕ) :
    (t.without ((t.keysWhere p).take n)).keysWhere p = (t.keysWhere p).drop n := by
  have hpairwise := t.keysWhere_pairwise p
  have hsplit : (t.keysWhere p).take n ++ (t.keysWhere p).drop n = t.keysWhere p :=
    List.take_append_drop n _
  have hdrop : ((t.keysWhere p).drop n).Pairwise (· < ·) :=
    hpairwise.sublist (List.drop_sublist _ _)
  refine List.Perm.eq_of_pairwise (fun a b _ _ hab hba => absurd hab hba.asymm)
    (keysWhere_pairwise _ p) hdrop ?_
  refine (List.perm_ext_iff_of_nodup ((keysWhere_pairwise _ p).imp fun h => h.ne)
    (hdrop.imp fun h => h.ne)).mpr fun k => ?_
  have hdisjoint : k ∈ (t.keysWhere p).take n → k ∉ (t.keysWhere p).drop n := by
    intro htake hmem
    rw [← hsplit, List.pairwise_append] at hpairwise
    exact (hpairwise.2.2 k htake k hmem).false
  have hmem : k ∈ t.keysWhere p ↔ k ∈ (t.keysWhere p).take n ∨ k ∈ (t.keysWhere p).drop n := by
    rw [← List.mem_append, hsplit]
  rw [mem_keysWhere_iff]
  constructor
  · rintro ⟨r, hr, hp, rfl⟩
    obtain ⟨hrow, htaken⟩ := (t.mem_without_rows).mp hr
    exact (hmem.mp ((t.mem_keysWhere_iff p).mpr ⟨r, hrow, hp, rfl⟩)).resolve_left htaken
  · intro hk
    obtain ⟨r, hr, hp, rfl⟩ := (t.mem_keysWhere_iff p).mp (hmem.mpr (.inr hk))
    exact ⟨r, (t.mem_without_rows).mpr ⟨hr, fun htake => hdisjoint htake hk⟩, hp, rfl⟩

/-- As many rows go as keys are taken. -/
theorem length_without_take (n : ℕ) :
    (t.without ((t.keysWhere p).take n)).rows.length + min n (t.rows.countP p)
      = t.rows.length := by
  have htaken : ((t.rows.filter fun r => decide (key r ∈ (t.keysWhere p).take n)).map key).Perm
      ((t.keysWhere p).take n) := by
    refine (List.perm_ext_iff_of_nodup
      (t.keys_nodup.sublist (List.filter_sublist.map _))
      (((t.keysWhere_pairwise p).sublist (List.take_sublist _ _)).imp fun h => h.ne)).mpr
      fun k => ?_
    rw [List.mem_map]
    constructor
    · rintro ⟨r, hr, rfl⟩
      exact of_decide_eq_true (List.mem_filter.mp hr).2
    · intro hk
      obtain ⟨r, hr, -, rfl⟩ := (t.mem_keysWhere_iff p).mp (List.mem_of_mem_take hk)
      exact ⟨r, List.mem_filter.mpr ⟨hr, decide_eq_true hk⟩, rfl⟩
  have hlength := htaken.length_eq
  rw [List.length_map, List.length_take, length_keysWhere, ← List.countP_eq_length_filter]
    at hlength
  have hleft : (t.without ((t.keysWhere p).take n)).rows.length
      = t.rows.countP fun r => decide (key r ∉ (t.keysWhere p).take n) :=
    List.countP_eq_length_filter.symm
  have hall := List.length_eq_countP_add_countP
    (fun r => decide (key r ∈ (t.keysWhere p).take n)) (l := t.rows)
  simp only [decide_eq_true_eq] at hall
  omega

/-- **Which rows are taken**: those with few enough before them. -/
theorem mem_take_keysWhere_iff {r : R} (hr : r ∈ t.rows) (hp : p r = true) (n : ℕ) :
    key r ∈ (t.keysWhere p).take n
      ↔ t.rows.countP (fun other => p other && decide (key other < key r)) < n := by
  rw [List.mem_take_iff_countP_lt (t.keysWhere_pairwise p)
    ((t.mem_keysWhere_iff p).mpr ⟨r, hr, hp, rfl⟩), (t.perm_keysWhere p).countP_eq, List.countP_map,
    List.countP_filter]
  refine Eq.to_iff (congrArg (· < n) (List.countP_congr fun other _ => ?_))
  simp [and_comm]

/-- **The rows that go** are the first of those that meet the condition. -/
theorem not_mem_without_take_iff {r : R} (hr : r ∈ t.rows) (n : ℕ) :
    r ∉ (t.without ((t.keysWhere p).take n)).rows
      ↔ p r = true ∧ t.rows.countP (fun other => p other && decide (key other < key r)) < n := by
  rw [mem_without_rows, not_and, not_not]
  constructor
  · intro h
    obtain ⟨other, hother, hp, hkey⟩ :=
      (t.mem_keysWhere_iff p).mp (List.mem_of_mem_take (h hr))
    obtain rfl := List.inj_on_of_nodup_map t.keys_nodup hother hr hkey
    exact ⟨hp, (t.mem_take_keysWhere_iff p hr hp n).mp (h hr)⟩
  · rintro ⟨hp, hfew⟩ -
    exact (t.mem_take_keysWhere_iff p hr hp n).mpr hfew

end Table
