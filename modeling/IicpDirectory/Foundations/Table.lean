import Mathlib.Data.List.Basic
import Mathlib.Data.List.Nodup

/-!
# Tables with a primary key

A table is a list of rows no two of which have the same key. The three
statements that change it are the ones a relational store has – `UPDATE …
WHERE key`, `DELETE … WHERE key`, and `INSERT … ON DUPLICATE KEY UPDATE` –
and each is described by what a lookup finds afterwards, at the key and at
every other one.
-/

/-- **A table**: rows with distinct keys. -/
structure Table {K R : Type*} (key : R → K) where
  rows : List R
  keys_nodup : (rows.map key).Nodup

namespace Table

variable {K R : Type*} {key : R → K}

/-- The table without rows. -/
def empty (key : R → K) : Table key := ⟨[], List.nodup_nil⟩

variable [DecidableEq K]

/-- The row under a key. -/
def find (t : Table key) (k : K) : Option R := t.rows.find? (fun r => key r = k)

/-- `UPDATE … WHERE key = k`; the key itself is not written. -/
def update (t : Table key) (k : K) (f : R → R) (hf : ∀ r, key (f r) = key r) : Table key where
  rows := t.rows.map (fun r => if key r = k then f r else r)
  keys_nodup := by
    rw [List.map_map]
    have hkeys : (key ∘ fun r => if key r = k then f r else r) = key := by
      funext r
      show key (if key r = k then f r else r) = key r
      split
      · exact hf r
      · rfl
    rw [hkeys]
    exact t.keys_nodup

/-- `UPDATE … WHERE` a condition on the rows; the key itself is not written. -/
def updateWhere (t : Table key) (p : R → Bool) (f : R → R) (hf : ∀ r, key (f r) = key r) :
    Table key where
  rows := t.rows.map (fun r => if p r then f r else r)
  keys_nodup := by
    rw [List.map_map]
    have hkeys : (key ∘ fun r => if p r then f r else r) = key := by
      funext r
      show key (if p r then f r else r) = key r
      split
      · exact hf r
      · rfl
    rw [hkeys]
    exact t.keys_nodup

/-- `DELETE … WHERE key = k`. -/
def delete (t : Table key) (k : K) : Table key where
  rows := t.rows.filter (fun r => key r ≠ k)
  keys_nodup := t.keys_nodup.sublist (List.filter_sublist.map _)

/-- `INSERT … ON DUPLICATE KEY UPDATE`: the row, or the row that is there
already, merged with it. -/
def upsert (t : Table key) (row : R) (merge : R → R) (hmerge : ∀ r, key (merge r) = key r) :
    Table key :=
  if h : key row ∈ t.rows.map key then t.update (key row) merge hmerge
  else
    { rows := t.rows ++ [row]
      keys_nodup := by
        rw [List.map_append, List.nodup_append]
        refine ⟨t.keys_nodup, List.nodup_singleton _, ?_⟩
        intro a ha b hb hab
        obtain rfl := List.mem_singleton.mp hb
        exact h (hab ▸ ha) }

@[simp] theorem find_empty (k : K) : (empty key).find k = none := rfl

theorem key_of_find {t : Table key} {k : K} {r : R} (h : t.find k = some r) : key r = k := by
  simpa using List.find?_some h

theorem find_isSome_iff {t : Table key} {k : K} :
    (t.find k).isSome = true ↔ k ∈ t.rows.map key := by
  unfold find
  rw [List.find?_isSome, List.mem_map]
  simp

/-- A row is what its key finds. -/
theorem find_eq_some_iff {t : Table key} {k : K} {r : R} :
    t.find k = some r ↔ r ∈ t.rows ∧ key r = k := by
  constructor
  · intro h
    exact ⟨List.mem_of_find?_eq_some h, key_of_find h⟩
  · rintro ⟨hmem, rfl⟩
    obtain ⟨found, hfound⟩ := Option.isSome_iff_exists.mp
      (find_isSome_iff.mpr (List.mem_map_of_mem hmem))
    rw [hfound, List.inj_on_of_nodup_map t.keys_nodup (List.mem_of_find?_eq_some hfound) hmem
      (key_of_find hfound)]

/-- **An update changes the row under its key**, and no other. -/
theorem find_update (t : Table key) (k k' : K) {f : R → R} (hf : ∀ r, key (f r) = key r) :
    (t.update k f hf).find k' = if k' = k then (t.find k').map f else t.find k' := by
  show (t.rows.map _).find? _ = _
  unfold find
  induction t.rows with
  | nil => simp
  | cons r rs ih =>
    rw [List.map_cons]
    by_cases hr : key r = k'
    · by_cases hk : k' = k
      · subst hk
        rw [List.find?_cons_of_pos (by simp [hr, hf]), List.find?_cons_of_pos (by simp [hr])]
        simp [hr]
      · have hne : key r ≠ k := fun he => hk (hr.symm.trans he)
        rw [List.find?_cons_of_pos (by simp [hr, hk]), List.find?_cons_of_pos (by simp [hr])]
        simp [hk, hne]
    · have hkey : key (if key r = k then f r else r) ≠ k' := by
        split
        · rw [hf]; exact hr
        · exact hr
      rw [List.find?_cons_of_neg (by simpa using hkey), List.find?_cons_of_neg (by simpa using hr), ih]

/-- **An update of the rows that meet a condition** changes them, and no
other. -/
theorem find_updateWhere (t : Table key) (p : R → Bool) (k : K) {f : R → R}
    (hf : ∀ r, key (f r) = key r) :
    (t.updateWhere p f hf).find k = (t.find k).map (fun r => if p r then f r else r) := by
  show (t.rows.map _).find? _ = _
  rw [List.find?_map]
  unfold find
  refine congrArg (fun q => (t.rows.find? q).map _) (funext fun r => ?_)
  show decide (key (if p r then f r else r) = k) = decide (key r = k)
  split
  · rw [hf]
  · rfl

/-- **A deletion removes the row under its key**, and no other. -/
theorem find_delete (t : Table key) (k k' : K) :
    (t.delete k).find k' = if k' = k then none else t.find k' := by
  show (t.rows.filter _).find? _ = _
  unfold find
  rw [List.find?_filter]
  by_cases hk : k' = k
  · subst hk
    rw [if_pos rfl, List.find?_eq_none]
    intro r _
    simp
  · rw [if_neg hk]
    refine congrFun (congrArg List.find? ?_) _
    funext r
    by_cases hr : key r = k'
    · simp [hr, hk]
    · simp [hr]

/-- **An upsert leaves its row under its key**, merged into what was there,
and every other row as it was. -/
theorem find_upsert (t : Table key) (row : R) {merge : R → R}
    (hmerge : ∀ r, key (merge r) = key r) (k : K) :
    (t.upsert row merge hmerge).find k
      = if k = key row then some (((t.find (key row)).map merge).getD row) else t.find k := by
  unfold upsert
  split
  · rename_i hmem
    obtain ⟨old, hold⟩ := Option.isSome_iff_exists.mp (find_isSome_iff.mpr hmem)
    rw [find_update]
    by_cases hk : k = key row
    · subst hk
      simp [hold]
    · rw [if_neg hk, if_neg hk]
  · rename_i hmem
    have hnone : t.find (key row) = none := by
      rw [← Option.not_isSome_iff_eq_none, find_isSome_iff]
      exact hmem
    show (t.rows ++ [row]).find? _ = _
    rw [List.find?_append, hnone]
    by_cases hk : k = key row
    · subst hk
      rw [show t.rows.find? (fun r => key r = key row) = none from hnone]
      simp
    · rw [if_neg hk, List.find?_cons_of_neg (by simpa using fun he => hk he.symm), List.find?_nil,
        Option.or_none]
      rfl

theorem mem_rows_iff {t : Table key} {r : R} : r ∈ t.rows ↔ t.find (key r) = some r :=
  (find_eq_some_iff.trans (and_iff_left rfl)).symm

/-- **The rows behind an update**: what it made of the row under its key, and
the others. -/
theorem mem_update_iff {t : Table key} {k : K} {f : R → R} {hf : ∀ r, key (f r) = key r} {r : R} :
    r ∈ (t.update k f hf).rows
      ↔ (∃ old, t.find k = some old ∧ r = f old) ∨ (r ∈ t.rows ∧ key r ≠ k) := by
  rw [mem_rows_iff, find_update]
  by_cases hk : key r = k
  · rw [if_pos hk, hk, Option.map_eq_some_iff]
    constructor
    · rintro ⟨old, hold, rfl⟩
      exact Or.inl ⟨old, hold, rfl⟩
    · rintro (⟨old, hold, rfl⟩ | ⟨-, hne⟩)
      · exact ⟨old, hold, rfl⟩
      · exact absurd rfl hne
  · rw [if_neg hk, ← mem_rows_iff]
    refine ⟨fun h => Or.inr ⟨h, hk⟩, ?_⟩
    rintro (⟨old, hold, rfl⟩ | ⟨h, -⟩)
    · exact absurd ((hf old).trans (key_of_find hold)) hk
    · exact h

/-- **The rows behind an upsert**: the row it leaves under its key, and the
others. -/
theorem mem_upsert_iff {t : Table key} {row : R} {merge : R → R}
    {hmerge : ∀ r, key (merge r) = key r} {r : R} :
    r ∈ (t.upsert row merge hmerge).rows
      ↔ r = ((t.find (key row)).map merge).getD row ∨ (r ∈ t.rows ∧ key r ≠ key row) := by
  have hkey : key (((t.find (key row)).map merge).getD row) = key row := by
    cases h : t.find (key row) with
    | none => rfl
    | some old => exact (hmerge old).trans (key_of_find h)
  rw [mem_rows_iff, find_upsert]
  by_cases hk : key r = key row
  · rw [if_pos hk, Option.some.injEq]
    exact ⟨fun h => Or.inl h.symm, fun h => h.elim Eq.symm fun ⟨_, hne⟩ => absurd hk hne⟩
  · rw [if_neg hk, ← mem_rows_iff]
    refine ⟨fun h => Or.inr ⟨h, hk⟩, ?_⟩
    rintro (rfl | ⟨h, -⟩)
    · exact absurd hkey hk
    · exact h

/-- Two updates under one key are one. -/
theorem update_update (t : Table key) (k : K) {f g : R → R} (hf : ∀ r, key (f r) = key r)
    (hg : ∀ r, key (g r) = key r) :
    (t.update k f hf).update k g hg
      = t.update k (fun r => g (f r)) (fun r => (hg (f r)).trans (hf r)) := by
  unfold update
  congr 1
  rw [List.map_map]
  refine List.map_congr_left fun r _ => ?_
  show (if key (if key r = k then f r else r) = k then _ else _) = _
  by_cases hr : key r = k
  · simp [hr, hf]
  · simp [hr]

/-- An update of the row just upserted is part of the upsert. -/
theorem update_upsert (t : Table key) (row : R) {merge f : R → R}
    (hmerge : ∀ r, key (merge r) = key r) (hf : ∀ r, key (f r) = key r) :
    (t.upsert row merge hmerge).update (key row) f hf
      = t.upsert (f row) (fun r => f (merge r)) (fun r => (hf (merge r)).trans (hmerge r)) := by
  unfold upsert
  by_cases h : key row ∈ t.rows.map key
  · have h' : key (f row) ∈ t.rows.map key := by rwa [hf]
    rw [dif_pos h, dif_pos h', update_update]
    congr 1
    exact (hf row).symm
  · have h' : key (f row) ∉ t.rows.map key := by rwa [hf]
    rw [dif_neg h, dif_neg h']
    unfold update
    congr 1
    show (t.rows ++ [row]).map _ = _
    rw [List.map_append, List.map_singleton, if_pos rfl]
    congr 1
    -- no older row is under the key
    refine (List.map_congr_left fun r hr => ?_).trans (List.map_id _)
    exact if_neg fun he => h (List.mem_map.mpr ⟨r, hr, he⟩)

/-- An update that leaves the row under its key as it is leaves the table. -/
theorem update_eq_self {t : Table key} {k : K} {f : R → R} (hf : ∀ r, key (f r) = key r)
    (h : ∀ r, t.find k = some r → f r = r) : t.update k f hf = t := by
  unfold update
  congr 1
  refine (List.map_congr_left fun r hr => ?_).trans (List.map_id _)
  show (if key r = k then f r else r) = r
  split
  · next hk => exact h r (find_eq_some_iff.mpr ⟨hr, hk⟩)
  · rfl

/-- So does an upsert that merges into a row nothing new. -/
theorem upsert_eq_self {t : Table key} {row old : R} {merge : R → R}
    (hmerge : ∀ r, key (merge r) = key r) (hfind : t.find (key row) = some old)
    (hold : merge old = old) : t.upsert row merge hmerge = t := by
  unfold upsert
  rw [dif_pos (find_isSome_iff.mp (by rw [hfind]; rfl))]
  refine update_eq_self hmerge fun r hr => ?_
  obtain rfl := Option.some.inj (hfind.symm.trans hr)
  exact hold

/-- An upsert under a key none of the first rows has works on the others. -/
theorem rows_upsert_append {t first rest : Table key} (h : t.rows = first.rows ++ rest.rows)
    (row : R) {merge : R → R} (hmerge : ∀ r, key (merge r) = key r)
    (hfirst : key row ∉ first.rows.map key) :
    (t.upsert row merge hmerge).rows = first.rows ++ (rest.upsert row merge hmerge).rows := by
  have hmem : key row ∈ t.rows.map key ↔ key row ∈ rest.rows.map key := by
    rw [h, List.map_append, List.mem_append]
    exact or_iff_right hfirst
  unfold upsert
  by_cases hrest : key row ∈ rest.rows.map key
  · rw [dif_pos (hmem.mpr hrest), dif_pos hrest]
    show t.rows.map _ = first.rows ++ rest.rows.map _
    rw [h, List.map_append]
    congr 1
    refine (List.map_congr_left fun r hr => ?_).trans (List.map_id _)
    exact if_neg fun he => hfirst (List.mem_map.mpr ⟨r, hr, he⟩)
  · rw [dif_neg (fun he => hrest (hmem.mp he)), dif_neg hrest]
    show t.rows ++ [row] = _
    rw [h, List.append_assoc]

end Table
