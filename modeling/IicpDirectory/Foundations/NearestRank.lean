import Mathlib.Algebra.Order.Floor.Ring
import Mathlib.Data.List.Sort
import Mathlib.Data.Rat.Floor
import Mathlib.Tactic.Linarith
import Mathlib.Tactic.NormNum

/-!
# Nearest-rank percentiles

A percentile by the nearest rank is a value of the sample: the least one that
so many percent of the sample do not exceed (`IsNearestRank`). There is one of
it, whatever order the sample is in, and it grows with the percentage.

It is read off the sample in order at the rank that the percentage makes of its
size, rounded up (`isNearestRank_getD`).
-/

namespace NearestRank

/-- The place of a percentage among so many values, from zero. -/
def index (n p : ℕ) : ℕ := (min (max (⌈(p / 100 : ℚ) * n⌉ - 1) 0) (n - 1)).toNat

/-- A place that is not beyond the sample. -/
theorem index_lt {n : ℕ} (p : ℕ) (hn : n ≠ 0) : index n p < n := by
  have hpos := Nat.pos_of_ne_zero hn
  unfold index
  omega

/-- **The place is the least that so many percent do not come after.** -/
theorem index_spec {n p : ℕ} (hn : n ≠ 0) (hp : p ≤ 100) :
    p * n ≤ 100 * (index n p + 1) ∧ (0 < index n p → 100 * index n p < p * n) := by
  set rank : ℤ := ⌈(p / 100 : ℚ) * n⌉
  have hup : (p / 100 : ℚ) * n ≤ rank := Int.le_ceil _
  have hdown : (rank : ℚ) < (p / 100 : ℚ) * n + 1 := Int.ceil_lt_add_one _
  have hup' : ((p * n : ℕ) : ℤ) ≤ 100 * rank := by
    have hcast : ((p * n : ℕ) : ℚ) ≤ ((100 * rank : ℤ) : ℚ) := by
      push_cast
      linarith
    exact_mod_cast hcast
  have hdown' : 100 * (rank - 1) < ((p * n : ℕ) : ℤ) := by
    have hcast : ((100 * (rank - 1) : ℤ) : ℚ) < ((p * n : ℕ) : ℚ) := by
      push_cast
      linarith
    exact_mod_cast hcast
  have hsize : p * n ≤ 100 * n := Nat.mul_le_mul_right n hp
  have hindex : index n p = (min (max (rank - 1) 0) (n - 1)).toNat := rfl
  have hpos := Nat.pos_of_ne_zero hn
  have hle : rank ≤ n := by omega
  rcases le_or_gt rank 1 with hfirst | hlater
  · have hzero : index n p = 0 := by omega
    rw [hzero]
    exact ⟨by omega, fun h => absurd h (lt_irrefl 0)⟩
  · have hplace : (index n p : ℤ) = rank - 1 := by omega
    exact ⟨by omega, fun _ => by omega⟩

section Sample

variable {α : Type*} [LinearOrder α]

/-- **The nearest rank of a percentage**: the least value that so many percent of
the sample do not exceed. -/
structure IsNearestRank (sample : List α) (p : ℕ) (v : α) : Prop where
  mem : v ∈ sample
  enough : p * sample.length ≤ 100 * sample.countP fun x => decide (x ≤ v)
  least : ∀ w ∈ sample, p * sample.length ≤ 100 * (sample.countP fun x => decide (x ≤ w)) → v ≤ w

/-- There is one at most. -/
theorem IsNearestRank.unique {sample : List α} {p : ℕ} {v w : α} (hv : IsNearestRank sample p v)
    (hw : IsNearestRank sample p w) : v = w :=
  le_antisymm (hv.least w hw.mem hw.enough) (hw.least v hv.mem hv.enough)

/-- It does not depend on the order of the sample. -/
theorem IsNearestRank.perm {sample sample' : List α} {p : ℕ} {v : α}
    (h : IsNearestRank sample p v) (hperm : sample.Perm sample') : IsNearestRank sample' p v where
  mem := hperm.mem_iff.mp h.mem
  enough := by
    rw [← hperm.length_eq, ← hperm.countP_eq]
    exact h.enough
  least w hw hle := by
    rw [← hperm.length_eq, ← hperm.countP_eq] at hle
    exact h.least w (hperm.mem_iff.mpr hw) hle

/-- **It grows with the percentage.** -/
theorem IsNearestRank.mono {sample : List α} {p q : ℕ} {v w : α} (hv : IsNearestRank sample p v)
    (hw : IsNearestRank sample q w) (hpq : p ≤ q) : v ≤ w :=
  hv.least w hw.mem ((Nat.mul_le_mul_right _ hpq).trans hw.enough)

/-- So many values of a list in order are not greater than the one at a place, -/
theorem lt_countP_le {sorted : List α} (hsorted : sorted.Pairwise (· ≤ ·)) {i : ℕ}
    (hi : i < sorted.length) : i < sorted.countP fun x => decide (x ≤ sorted[i]) := by
  induction sorted generalizing i with
  | nil => exact absurd hi (Nat.not_lt_zero i)
  | cons b rest ih =>
    obtain ⟨hle, hrest⟩ := List.pairwise_cons.mp hsorted
    cases i with
    | zero =>
      exact List.countP_pos_iff.mpr ⟨b, List.mem_cons_self, decide_eq_true le_rfl⟩
    | succ i =>
      have hi' : i < rest.length := Nat.lt_of_succ_lt_succ hi
      have hcount : ((b :: rest).countP fun x => decide (x ≤ rest[i]))
          = (rest.countP fun x => decide (x ≤ rest[i])) + 1 :=
        List.countP_cons_of_pos (decide_eq_true (hle _ (List.getElem_mem hi')))
      rw [List.getElem_cons_succ, hcount]
      exact Nat.succ_lt_succ (ih hrest hi')

/-- and of those that are less there are no more than come before it. -/
theorem countP_le_of_lt {sorted : List α} (hsorted : sorted.Pairwise (· ≤ ·)) {i : ℕ}
    (hi : i < sorted.length) {w : α} (hw : w < sorted[i]) :
    (sorted.countP fun x => decide (x ≤ w)) ≤ i := by
  induction sorted generalizing i with
  | nil => exact absurd hi (Nat.not_lt_zero i)
  | cons b rest ih =>
    obtain ⟨hle, hrest⟩ := List.pairwise_cons.mp hsorted
    cases i with
    | zero =>
      rw [List.getElem_cons_zero] at hw
      refine (List.countP_eq_zero.mpr fun x hx => ?_).le
      rw [decide_eq_true_eq, not_le]
      obtain rfl | hx := List.mem_cons.mp hx
      · exact hw
      · exact hw.trans_le (hle x hx)
    | succ i =>
      rw [List.getElem_cons_succ] at hw
      have hcount := ih hrest (Nat.lt_of_succ_lt_succ hi) hw
      rw [List.countP_cons]
      split <;> omega

/-- **The value at the place of a percentage is its nearest rank.** -/
theorem isNearestRank_getD {sorted : List α} (hsorted : sorted.Pairwise (· ≤ ·))
    (hne : sorted ≠ []) {p : ℕ} (hp : p ≤ 100) (default : α) :
    IsNearestRank sorted p (sorted.getD (index sorted.length p) default) := by
  have hlength : sorted.length ≠ 0 := fun h => hne (List.length_eq_zero_iff.mp h)
  have hi : index sorted.length p < sorted.length := index_lt p hlength
  obtain ⟨henough, hbefore⟩ := index_spec hlength hp
  rw [List.getD_eq_getElem?_getD, List.getElem?_eq_getElem hi, Option.getD_some]
  refine ⟨List.getElem_mem hi, ?_, fun w hw hle => ?_⟩
  · have hcount := lt_countP_le hsorted hi
    omega
  · by_contra hlt
    have hcount := countP_le_of_lt hsorted hi (not_le.mp hlt)
    have hpos : 0 < sorted.countP fun x => decide (x ≤ w) :=
      List.countP_pos_iff.mpr ⟨w, hw, decide_eq_true le_rfl⟩
    have hfew := hbefore (hpos.trans_le hcount)
    omega

end Sample

end NearestRank
