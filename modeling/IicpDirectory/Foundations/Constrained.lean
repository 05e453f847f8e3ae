import Mathlib.Data.List.Basic

/-!
# Tables whose rows must not clash

A unique key over several columns, one of them nullable, is no key in the
sense of `Table`: rows that leave the column empty never meet each other. All
there is is a relation on rows, `clash`, and a table any two rows of which
do not. An insertion is refused by a row that is there already; rows come in
the order of their insertion.

The rows inserted one after the other are accepted exactly where the table
they would make is one (`insertAll_eq_some_iff`).

Rows that belong to a key which many of them share are replaced as a whole:
the old ones are deleted, the new ones come behind what is left. What is then
found under the key, and under any other, is said of the lists alone
(`rows_replaced`, `rows_replaced_of_ne`).
-/

/-- **A table under a constraint**: no row clashes with a later one. -/
@[ext]
structure Constrained {R : Type*} (clash : R → R → Bool) where
  rows : List R
  apart : rows.Pairwise (fun a b => clash a b = false)

namespace Constrained

variable {R : Type*} {clash : R → R → Bool}

/-- The table without rows. -/
def empty (clash : R → R → Bool) : Constrained clash := ⟨[], List.Pairwise.nil⟩

/-- `DELETE … WHERE` a condition on the rows. -/
def deleteWhere (t : Constrained clash) (p : R → Bool) : Constrained clash :=
  ⟨t.rows.filter (fun r => !p r), t.apart.filter _⟩

/-- `INSERT`. -/
def insert (t : Constrained clash) (row : R) : Option (Constrained clash) :=
  if h : ∀ r ∈ t.rows, clash r row = false then
    some
      { rows := t.rows ++ [row]
        apart := by
          rw [List.pairwise_append]
          refine ⟨t.apart, List.pairwise_singleton _ _, fun a ha b hb => ?_⟩
          obtain rfl := List.mem_singleton.mp hb
          exact h a ha }
  else none

/-- Several insertions, one after the other. -/
def insertAll (t : Constrained clash) (rows : List R) : Option (Constrained clash) :=
  rows.foldlM insert t

/-- An insertion adds its row at the end, if it adds it. -/
theorem insert_eq_some_iff {t t' : Constrained clash} {row : R} :
    t.insert row = some t' ↔ t'.rows = t.rows ++ [row] := by
  unfold insert
  constructor
  · intro h
    split at h
    · rw [← Option.some.inj h]
    · exact absurd h (by simp)
  · intro h
    have hapart := t'.apart
    rw [h, List.pairwise_append] at hapart
    rw [dif_pos fun r hr => hapart.2.2 r hr row (List.mem_singleton_self row)]
    exact congrArg some (Constrained.ext h.symm)

/-- **Insertions are accepted where they make a table**, and it has their rows
at its end. -/
theorem insertAll_eq_some_iff {t t' : Constrained clash} {rows : List R} :
    t.insertAll rows = some t' ↔ t'.rows = t.rows ++ rows := by
  unfold insertAll
  induction rows generalizing t with
  | nil =>
    rw [List.foldlM_nil, List.append_nil]
    constructor
    · intro h
      rw [Option.some.inj h]
    · intro h
      exact congrArg some (Constrained.ext h.symm)
  | cons row rest ih =>
    rw [List.foldlM_cons]
    constructor
    · intro h
      obtain ⟨u, hu, hrest⟩ := Option.bind_eq_some_iff.mp h
      rw [ih.mp hrest, insert_eq_some_iff.mp hu, List.append_assoc]
      rfl
    · intro h
      -- the first of them are a table, being the first rows of one
      have hfirst : (t.rows ++ [row]).Pairwise (fun a b => clash a b = false) := by
        have happend : t'.rows = (t.rows ++ [row]) ++ rest := by
          rw [h, List.append_assoc]
          rfl
        exact (List.pairwise_append.mp (happend ▸ t'.apart)).1
      refine Option.bind_eq_some_iff.mpr ⟨⟨t.rows ++ [row], hfirst⟩, insert_eq_some_iff.mpr rfl,
        ih.mpr ?_⟩
      rw [h, List.append_assoc]
      rfl

/-! ## Replacing the rows of a key -/

section Replacing

variable {K : Type*} [DecidableEq K] {key : R → K} {k : K} {new : List R}

/-- **The rows under the key are the new ones.** -/
theorem rows_replaced (old : List R) (hnew : ∀ r ∈ new, key r = k) :
    (old.filter (fun r => !(key r == k)) ++ new).filter (fun r => key r == k) = new := by
  have hold : old.filter (fun r => (key r == k) && !(key r == k)) = [] :=
    List.filter_eq_nil_iff.mpr fun r _ => by simp
  rw [List.filter_append, List.filter_filter, hold, List.nil_append]
  exact List.filter_eq_self.mpr fun r hr => beq_iff_eq.mpr (hnew r hr)

/-- **Those under another key are the old ones.** -/
theorem rows_replaced_of_ne (old : List R) (hnew : ∀ r ∈ new, key r = k) {other : K}
    (hne : other ≠ k) :
    (old.filter (fun r => !(key r == k)) ++ new).filter (fun r => key r == other)
      = old.filter (fun r => key r == other) := by
  have hold : old.filter (fun r => (key r == other) && !(key r == k))
      = old.filter (fun r => key r == other) := by
    refine List.filter_congr fun r _ => ?_
    by_cases hr : key r = other
    · simp [hr, hne]
    · simp [hr]
  have hnone : new.filter (fun r => key r == other) = [] :=
    List.filter_eq_nil_iff.mpr fun r hr => by
      rw [hnew r hr, beq_iff_eq]
      exact Ne.symm hne
  rw [List.filter_append, List.filter_filter, hold, hnone, List.append_nil]

end Replacing

end Constrained
