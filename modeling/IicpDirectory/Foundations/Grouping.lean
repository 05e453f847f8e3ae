import Mathlib.Algebra.BigOperators.Group.List.Basic
import Mathlib.Algebra.Ring.Nat
import Mathlib.Data.List.Dedup
import Mathlib.Data.List.Perm.Basic

/-!
# Rows that are joined, grouped and counted

A join has a row once for each of its parts. Who counts the rows of a join
counts the parts; `COUNT(DISTINCT …)` counts the rows that have one
(`countDistinct_join`), and the two are the same exactly where no row has two
(`length_join_filter_eq_iff`). Then the join is the selection of the rows that
have a part (`map_fst_join_of_le_one`).

A grouping has one entry for each key, with a number that the key determines.
What it reports for a key is that number (`reported_grouped`), in whatever
order its entries are given (`reported_perm`).
-/

namespace Grouping

variable {α β γ κ : Type*}

/-! ## Joins -/

/-- `INNER JOIN`: each row with each of its parts. -/
def join (rows : List α) (parts : α → List β) : List (α × β) :=
  rows.flatMap fun r => (parts r).map fun p => (r, p)

theorem mem_join {rows : List α} {parts : α → List β} {e : α × β} :
    e ∈ join rows parts ↔ e.1 ∈ rows ∧ e.2 ∈ parts e.1 := by
  unfold join
  rw [List.mem_flatMap]
  constructor
  · rintro ⟨r, hr, he⟩
    obtain ⟨p, hp, rfl⟩ := List.mem_map.mp he
    exact ⟨hr, hp⟩
  · rintro ⟨hr, hp⟩
    exact ⟨e.1, hr, List.mem_map.mpr ⟨e.2, hp, rfl⟩⟩

theorem join_cons (r : α) (rows : List α) (parts : α → List β) :
    join (r :: rows) parts = ((parts r).map fun p => (r, p)) ++ join rows parts :=
  List.flatMap_cons

/-- **A join has a row as often as parts of it are selected.** -/
theorem length_join_filter (rows : List α) (parts : α → List β) (p : α → β → Bool) :
    ((join rows parts).filter fun e => p e.1 e.2).length
      = (rows.map fun r => (parts r).countP (p r)).sum := by
  induction rows with
  | nil => rfl
  | cons r rest ih =>
    rw [join_cons, List.filter_append, List.length_append, ih, List.map_cons, List.sum_cons,
      ← List.countP_eq_length_filter, List.countP_map]
    rfl

/-- Numbers add up to how many of them are not nothing exactly where none is
more than one. -/
theorem sum_eq_length_filter_iff {rows : List α} {k : α → ℕ} :
    (rows.map k).sum = (rows.filter fun r => k r ≠ 0).length ↔ ∀ r ∈ rows, k r ≤ 1 := by
  have hle : ∀ rows : List α, (rows.filter fun r => k r ≠ 0).length ≤ (rows.map k).sum := by
    intro rows
    induction rows with
    | nil => exact Nat.le_refl 0
    | cons r rest ih =>
      rw [List.filter_cons, List.map_cons, List.sum_cons]
      by_cases hr : k r = 0
      · rw [if_neg (by simpa using hr)]
        exact Nat.le_trans ih (Nat.le_add_left _ _)
      · rw [if_pos (by simpa using hr), List.length_cons]
        omega
  induction rows with
  | nil => exact iff_of_true rfl fun _ h => absurd h List.not_mem_nil
  | cons r rest ih =>
    rw [List.map_cons, List.sum_cons, List.filter_cons, List.forall_mem_cons]
    refine Iff.trans ?_ (and_congr_right fun _ => ih)
    have hrest := hle rest
    by_cases hr : k r = 0
    · rw [if_neg (by simpa using hr), hr, Nat.zero_add]
      exact (and_iff_right (Nat.zero_le 1)).symm
    · rw [if_pos (by simpa using hr), List.length_cons]
      omega

/-- **The rows of a join are as many as the rows that have a part exactly where
no row has two.** -/
theorem length_join_filter_eq_iff (rows : List α) (parts : α → List β) (p : α → β → Bool) :
    ((join rows parts).filter fun e => p e.1 e.2).length
        = (rows.filter fun r => (parts r).any (p r)).length
      ↔ ∀ r ∈ rows, (parts r).countP (p r) ≤ 1 := by
  have hany : (rows.filter fun r => (parts r).any (p r))
      = rows.filter fun r => (parts r).countP (p r) ≠ 0 := by
    refine List.filter_congr fun r _ => ?_
    rw [Bool.eq_iff_iff, decide_eq_true_iff, ← Nat.pos_iff_ne_zero, List.countP_pos_iff,
      List.any_eq_true]
  rw [length_join_filter, hany, sum_eq_length_filter_iff]

/-- Of one part at most a row keeps itself. -/
theorem map_fst_of_countP_le_one (r : α) {parts : List β} {q : β → Bool} (h : parts.countP q ≤ 1) :
    ((parts.map fun p => (r, p)).filter fun e => q e.2).map Prod.fst
      = if parts.any q then [r] else [] := by
  rw [List.filter_map, List.map_map]
  show (parts.filter q).map (fun _ => r) = _
  rw [List.map_const', ← List.countP_eq_length_filter]
  cases hany : parts.any q with
  | true =>
    obtain ⟨p, hp, hq⟩ := List.any_eq_true.mp hany
    have hsome := List.countP_pos_iff.mpr ⟨p, hp, hq⟩
    rw [Nat.le_antisymm h hsome]
    rfl
  | false =>
    have hnone : parts.countP q = 0 := List.countP_eq_zero.mpr fun p hp hq =>
      absurd (List.any_eq_true.mpr ⟨p, hp, hq⟩) (by simp [hany])
    rw [hnone]
    rfl

/-- **Then the join selects the rows that have a part.** -/
theorem map_fst_join_of_le_one {rows : List α} {parts : α → List β} {p : α → β → Bool}
    (h : ∀ r ∈ rows, (parts r).countP (p r) ≤ 1) :
    ((join rows parts).filter fun e => p e.1 e.2).map Prod.fst
      = rows.filter fun r => (parts r).any (p r) := by
  induction rows with
  | nil => rfl
  | cons r rest ih =>
    have hfilter : ((parts r).map fun q => (r, q)).filter (fun e => p e.1 e.2)
        = ((parts r).map fun q => (r, q)).filter fun e => p r e.2 := by
      refine List.filter_congr fun e he => ?_
      obtain ⟨q, _, rfl⟩ := List.mem_map.mp he
      rfl
    rw [join_cons, List.filter_append, List.map_append, hfilter,
      map_fst_of_countP_le_one r (h r List.mem_cons_self),
      ih fun s hs => h s (List.mem_cons_of_mem r hs), List.filter_cons]
    cases (parts r).any (p r) <;> rfl

/-- Selections of which one is within the other are as many exactly where they
are one. -/
theorem length_filter_eq_iff {rows : List α} {p q : α → Bool} (h : ∀ r, p r = true → q r = true) :
    (rows.filter p).length = (rows.filter q).length ↔ ∀ r ∈ rows, q r = true → p r = true := by
  have hwithin : rows.filter p = (rows.filter q).filter p := by
    rw [List.filter_filter]
    refine List.filter_congr fun r _ => ?_
    cases hp : p r with
    | true => rw [h r hp]; rfl
    | false => rfl
  rw [hwithin]
  constructor
  · intro hlength r hr hq
    have hall := List.filter_eq_self.mp (List.filter_sublist.eq_of_length hlength)
    exact hall r (List.mem_filter.mpr ⟨hr, hq⟩)
  · intro hall
    rw [List.filter_eq_self.mpr fun r hr => hall r (List.mem_filter.mp hr).1 (List.mem_filter.mp hr).2]

/-! ## Groups -/

variable [DecidableEq κ]

/-- `COUNT(DISTINCT …)`. -/
def countDistinct (key : α → κ) (rows : List α) : ℕ := (rows.map key).dedup.length

/-- **The distinct rows of a join are the rows that have a part.** -/
theorem countDistinct_join {key : α → κ} {rows : List α} (hkey : (rows.map key).Nodup)
    (parts : α → List β) (p : α → β → Bool) :
    countDistinct key (((join rows parts).filter fun e => p e.1 e.2).map Prod.fst)
      = (rows.filter fun r => (parts r).any (p r)).length := by
  have hperm : ((((join rows parts).filter fun e => p e.1 e.2).map Prod.fst).map key).dedup.Perm
      ((rows.filter fun r => (parts r).any (p r)).map key) := by
    refine (List.perm_ext_iff_of_nodup (List.nodup_dedup _)
      (hkey.sublist (List.filter_sublist.map key))).mpr fun k => ?_
    rw [List.mem_dedup, List.mem_map, List.mem_map]
    constructor
    · rintro ⟨r, hr, rfl⟩
      obtain ⟨e, he, rfl⟩ := List.mem_map.mp hr
      obtain ⟨hjoined, hp⟩ := List.mem_filter.mp he
      obtain ⟨hrow, hpart⟩ := mem_join.mp hjoined
      exact ⟨e.1, List.mem_filter.mpr ⟨hrow, List.any_eq_true.mpr ⟨e.2, hpart, hp⟩⟩, rfl⟩
    · rintro ⟨r, hr, rfl⟩
      obtain ⟨hrow, hany⟩ := List.mem_filter.mp hr
      obtain ⟨q, hq, hp⟩ := List.any_eq_true.mp hany
      refine ⟨r, List.mem_map.mpr ⟨(r, q), List.mem_filter.mpr ⟨mem_join.mpr ⟨hrow, hq⟩, hp⟩, rfl⟩,
        rfl⟩
  unfold countDistinct
  rw [hperm.length_eq, List.length_map]

/-- **A grouping**: one entry for each key, with its number. -/
def grouped (key : γ → κ) (f : γ → ℕ) (xs : List γ) : List (γ × ℕ) :=
  (xs.pwFilter fun a b => key a ≠ key b).map fun x => (x, f x)

/-- What is reported for a key. -/
def reported (key : γ → κ) (entries : List (γ × ℕ)) (x : γ) : ℕ :=
  ((entries.filter fun e => key e.1 = key x).map Prod.snd).sum

/-- The order of the entries is of no account. -/
theorem reported_perm {key : γ → κ} {entries entries' : List (γ × ℕ)} (h : entries.Perm entries')
    (x : γ) : reported key entries x = reported key entries' x :=
  ((h.filter _).map _).sum_eq

/-- Of keys that differ one at most is that of a given value. -/
theorem sum_filter_of_pairwise {key : γ → κ} {f : γ → ℕ} {x : γ} {xs : List γ}
    (hapart : xs.Pairwise fun a b => key a ≠ key b) (hf : ∀ a ∈ xs, key a = key x → f a = f x) :
    ((xs.filter fun a => key a = key x).map f).sum
      = if ∃ a ∈ xs, key a = key x then f x else 0 := by
  induction xs with
  | nil => exact (if_neg (by simp)).symm
  | cons a rest ih =>
    obtain ⟨hnew, hrest⟩ := List.pairwise_cons.mp hapart
    by_cases ha : key a = key x
    · have hnone : rest.filter (fun b => key b = key x) = [] :=
        List.filter_eq_nil_iff.mpr fun b hb hbx =>
          hnew b hb (ha.trans (of_decide_eq_true hbx).symm)
      rw [List.filter_cons, if_pos (decide_eq_true ha), hnone, List.map_singleton,
        List.sum_singleton, if_pos ⟨a, List.mem_cons_self, ha⟩]
      exact hf a List.mem_cons_self ha
    · rw [List.filter_cons, if_neg (by simpa using ha),
        ih hrest fun b hb => hf b (List.mem_cons_of_mem a hb)]
      refine if_congr ?_ rfl rfl
      simp [ha]

/-- **A grouping reports the number of a key**, which is nothing for a key that
does not occur. -/
theorem reported_grouped {key : γ → κ} {f : γ → ℕ} (hf : ∀ a b, key a = key b → f a = f b)
    {xs : List γ} {x : γ} (hnone : (∀ a ∈ xs, key a ≠ key x) → f x = 0) :
    reported key (grouped key f xs) x = f x := by
  have htrans : ∀ {a b c : γ}, key a ≠ key c → key a ≠ key b ∨ key b ≠ key c := by
    intro a b c hac
    by_contra hboth
    obtain ⟨hab, hbc⟩ := not_or.mp hboth
    exact hac ((not_not.mp hab).trans (not_not.mp hbc))
  unfold reported grouped
  rw [List.filter_map, List.map_map]
  show (((xs.pwFilter fun a b => key a ≠ key b).filter fun a => key a = key x).map f).sum = f x
  rw [sum_filter_of_pairwise (List.pairwise_pwFilter xs) fun a _ ha => hf a x ha]
  split
  · rfl
  · next hmissing =>
    refine (hnone fun a ha hax => hmissing ?_).symm
    by_contra hno
    -- a value whose key no representative has is itself one
    have hall : ∀ b ∈ xs.pwFilter (fun a b => key a ≠ key b), key a ≠ key b := fun b hb hab =>
      hno ⟨b, hb, hab.symm.trans hax⟩
    have hall' : ∀ b ∈ xs, key a ≠ key b :=
      (List.forall_mem_pwFilter (R := fun a b => key a ≠ key b) (fun h => htrans h) a xs).mp hall
    exact hall' a ha rfl

end Grouping
