import Mathlib.Data.List.Sort

/-!
# The first of a ranking

A ranking lists the least of some values, in order, and so many of them at
most. A value that is there more than once is listed more than once, unless
those that are less fill the list: that is what it takes for the ranking to
have no value twice (`nodup_lowest_iff`), and it is how another occurrence of
a value that is ranked shows (`nodup_lowest_cons_iff`).
-/

namespace Ranking

variable {α : Type*} [LinearOrder α]

/-- **The lowest values**, so many of them at most. -/
def lowest (n : ℕ) (values : List α) : List α := (values.insertionSort (· ≤ ·)).take n

/-- A ranking does not depend on the order of what is ranked. -/
theorem lowest_eq_of_perm {n : ℕ} {values values' : List α} (h : values.Perm values') :
    lowest n values = lowest n values' := by
  have hsorted : (values.insertionSort (· ≤ ·)).Perm (values'.insertionSort (· ≤ ·)) :=
    (List.perm_insertionSort _ values).trans (h.trans (List.perm_insertionSort _ values').symm)
  unfold lowest
  rw [hsorted.eq_of_pairwise' (List.pairwise_insertionSort _ _) (List.pairwise_insertionSort _ _)]

/-- What begins a list in order is less than all that is different from it. -/
theorem countP_cons_of_mem {a b : α} {values : List α} (hle : ∀ x ∈ values, b ≤ x)
    (ha : a ∈ values) (hne : a ≠ b) :
    (b :: values).countP (fun x => decide (x < a)) = values.countP (fun x => decide (x < a)) + 1 :=
  List.countP_cons_of_pos (decide_eq_true (lt_of_le_of_ne (hle a ha) hne.symm))

/-- Nothing is less than what begins it. -/
theorem countP_lt_head {b : α} {values : List α} (hle : ∀ x ∈ values, b ≤ x) :
    (b :: values).countP (fun x => decide (x < b)) = 0 := by
  rw [List.countP_eq_zero]
  intro x hx
  rw [decide_eq_true_eq, not_lt]
  obtain rfl | hx := List.mem_cons.mp hx
  · exact le_refl x
  · exact hle x hx

/-- What begins a list in order is met again at once, if at all. -/
theorem mem_take_iff {n : ℕ} {b : α} {values : List α} (hsorted : (b :: values).Pairwise (· ≤ ·)) :
    b ∈ values.take n ↔ n ≠ 0 ∧ b ∈ values := by
  constructor
  · intro h
    refine ⟨?_, List.mem_of_mem_take h⟩
    rintro rfl
    exact absurd h (by simp)
  · rintro ⟨hn, hb⟩
    cases values with
    | nil => exact absurd hb List.not_mem_nil
    | cons c rest =>
      obtain ⟨hle, hrest⟩ := List.pairwise_cons.mp hsorted
      have hc : c = b := by
        refine le_antisymm ?_ (hle c List.mem_cons_self)
        obtain rfl | hb := List.mem_cons.mp hb
        · exact le_refl b
        · exact (List.pairwise_cons.mp hrest).1 b hb
      obtain ⟨n, rfl⟩ := Nat.exists_eq_succ_of_ne_zero hn
      rw [List.take_succ_cons, hc]
      exact List.mem_cons_self

/-- **What the beginning of a list in order has** is what is preceded by so few
lesser values. -/
theorem mem_take_iff_countP {n : ℕ} {a : α} {values : List α}
    (hsorted : values.Pairwise (· ≤ ·)) :
    a ∈ values.take n ↔ a ∈ values ∧ values.countP (fun x => decide (x < a)) < n := by
  induction values generalizing n with
  | nil => simp
  | cons b rest ih =>
    obtain ⟨hle, hrest⟩ := List.pairwise_cons.mp hsorted
    cases n with
    | zero => simp
    | succ n =>
      rw [List.take_succ_cons, List.mem_cons, List.mem_cons, ih hrest]
      by_cases hab : a = b
      · subst hab
        rw [countP_lt_head hle]
        simp
      · constructor
        · rintro (rfl | ⟨ha, hcount⟩)
          · exact absurd rfl hab
          · rw [countP_cons_of_mem hle ha hab]
            exact ⟨Or.inr ha, Nat.succ_lt_succ hcount⟩
        · rintro ⟨rfl | ha, hcount⟩
          · exact absurd rfl hab
          · rw [countP_cons_of_mem hle ha hab] at hcount
            exact Or.inr ⟨ha, Nat.lt_of_succ_lt_succ hcount⟩

/-- **The beginning of a list in order has no value twice** exactly if the
lesser values leave room for one only of each. -/
theorem nodup_take_iff {n : ℕ} {values : List α} (hsorted : values.Pairwise (· ≤ ·)) :
    (values.take n).Nodup
      ↔ ∀ a, 2 ≤ values.count a → n ≤ values.countP (fun x => decide (x < a)) + 1 := by
  induction values generalizing n with
  | nil => simp
  | cons b rest ih =>
    obtain ⟨hle, hrest⟩ := List.pairwise_cons.mp hsorted
    cases n with
    | zero => simp
    | succ n =>
      rw [List.take_succ_cons, List.nodup_cons, mem_take_iff hsorted, ih hrest]
      constructor
      · rintro ⟨hnew, hall⟩ a ha
        by_cases hab : a = b
        · subst hab
          rw [List.count_cons_self] at ha
          rw [countP_lt_head hle]
          have hmem : a ∈ rest := List.count_pos_iff.mp (by omega)
          have hn : n = 0 := by
            by_contra hn
            exact hnew ⟨hn, hmem⟩
          omega
        · rw [List.count_cons_of_ne (Ne.symm hab)] at ha
          rw [countP_cons_of_mem hle (List.count_pos_iff.mp (by omega)) hab]
          exact Nat.succ_le_succ (hall a ha)
      · intro hall
        constructor
        · rintro ⟨hn, hb⟩
          have hcount := List.count_pos_iff.mpr hb
          have hroom := hall b (by rw [List.count_cons_self]; omega)
          rw [countP_lt_head hle] at hroom
          omega
        · intro a ha
          by_cases hab : a = b
          · subst hab
            have hroom := hall a (by rw [List.count_cons_self]; omega)
            rw [countP_lt_head hle] at hroom
            omega
          · have hroom := hall a (by rwa [List.count_cons_of_ne (Ne.symm hab)])
            rw [countP_cons_of_mem hle (List.count_pos_iff.mp (by omega)) hab] at hroom
            omega

/-- In a list in order without repetition, as many values are less than one as
come before it. -/
theorem getElem?_eq_some_iff_countP {i : ℕ} {a : α} {values : List α}
    (hsorted : values.Pairwise (· ≤ ·)) (hnodup : values.Nodup) :
    values[i]? = some a ↔ a ∈ values ∧ values.countP (fun x => decide (x < a)) = i := by
  induction values generalizing i with
  | nil => simp
  | cons b rest ih =>
    obtain ⟨hle, hrest⟩ := List.pairwise_cons.mp hsorted
    obtain ⟨hnew, hrest'⟩ := List.nodup_cons.mp hnodup
    by_cases hab : a = b
    · subst hab
      rw [countP_lt_head hle]
      cases i with
      | zero => simp
      | succ i =>
        rw [List.getElem?_cons_succ]
        constructor
        · intro h
          exact absurd (List.mem_of_getElem? h) hnew
        · rintro ⟨-, h⟩
          exact absurd h (Nat.succ_ne_zero i).symm
    · cases i with
      | zero =>
        constructor
        · intro h
          exact absurd (Option.some.inj h).symm hab
        · rintro ⟨ha, hcount⟩
          rw [countP_cons_of_mem hle ((List.mem_cons.mp ha).resolve_left hab) hab] at hcount
          exact absurd hcount (Nat.succ_ne_zero _)
      | succ i =>
        rw [List.getElem?_cons_succ, ih hrest hrest']
        constructor
        · rintro ⟨ha, hcount⟩
          rw [countP_cons_of_mem hle ha hab, hcount]
          exact ⟨List.mem_cons_of_mem b ha, rfl⟩
        · rintro ⟨ha, hcount⟩
          have ha' := (List.mem_cons.mp ha).resolve_left hab
          rw [countP_cons_of_mem hle ha' hab] at hcount
          exact ⟨ha', Nat.succ.inj hcount⟩

/-- A ranking has as many values as there are, up to its length. -/
theorem length_lowest (n : ℕ) (values : List α) :
    (lowest n values).length = min n values.length := by
  unfold lowest
  rw [List.length_take, List.length_insertionSort]

/-- **What is ranked** has so few lesser values. -/
theorem mem_lowest_iff {n : ℕ} {a : α} {values : List α} :
    a ∈ lowest n values ↔ a ∈ values ∧ values.countP (fun x => decide (x < a)) < n := by
  unfold lowest
  rw [mem_take_iff_countP (List.pairwise_insertionSort _ _), List.mem_insertionSort,
    (List.perm_insertionSort (· ≤ ·) values).countP_eq]

/-- **The place of what is ranked** is the number of lesser values. -/
theorem getElem?_lowest_iff {n i : ℕ} {a : α} {values : List α} (hnodup : values.Nodup) :
    (lowest n values)[i]? = some a
      ↔ (a ∈ values ∧ values.countP (fun x => decide (x < a)) = i) ∧ i < n := by
  have hperm := List.perm_insertionSort (· ≤ ·) values
  unfold lowest
  rw [List.getElem?_take, ← hperm.mem_iff, ← hperm.countP_eq, ← getElem?_eq_some_iff_countP
    (List.pairwise_insertionSort _ _) (hperm.nodup_iff.mpr hnodup)]
  by_cases hi : i < n
  · rw [if_pos hi]
    exact (and_iff_left hi).symm
  · rw [if_neg hi]
    constructor
    · intro h
      exact absurd h (by simp)
    · rintro ⟨-, h⟩
      exact absurd h hi

/-- Another occurrence of a value adds nothing to what is ranked. -/
theorem mem_lowest_of_mem_cons {n : ℕ} {a b : α} {values : List α} (ha : a ∈ values)
    (h : b ∈ lowest n (a :: values)) : b ∈ lowest n values := by
  obtain ⟨hmem, hcount⟩ := mem_lowest_iff.mp h
  have hmore : values.countP (fun x => decide (x < b))
      ≤ (a :: values).countP (fun x => decide (x < b)) :=
    (List.sublist_cons_self a values).countP_le
  refine mem_lowest_iff.mpr ⟨?_, hmore.trans_lt hcount⟩
  obtain rfl | hmem := List.mem_cons.mp hmem
  · exact ha
  · exact hmem

/-- **A ranking has no value twice** exactly if the lesser values leave room for
one only of each. -/
theorem nodup_lowest_iff {n : ℕ} {values : List α} :
    (lowest n values).Nodup
      ↔ ∀ a, 2 ≤ values.count a → n ≤ values.countP (fun x => decide (x < a)) + 1 := by
  unfold lowest
  rw [nodup_take_iff (List.pairwise_insertionSort _ _)]
  simp only [(List.perm_insertionSort (· ≤ ·) values).count_eq,
    (List.perm_insertionSort (· ≤ ·) values).countP_eq]

/-- **Another occurrence of a value shows** unless the lesser values leave room
for one only. -/
theorem nodup_lowest_cons_iff {n : ℕ} {a : α} {values : List α} (ha : a ∈ values)
    (h : (lowest n values).Nodup) :
    (lowest n (a :: values)).Nodup ↔ n ≤ values.countP (fun x => decide (x < a)) + 1 := by
  rw [nodup_lowest_iff] at h ⊢
  have hself : (a :: values).countP (fun x => decide (x < a))
      = values.countP (fun x => decide (x < a)) :=
    List.countP_cons_of_neg (by simp)
  constructor
  · intro hall
    have hcount := List.count_pos_iff.mpr ha
    have hroom := hall a (by rw [List.count_cons_self]; omega)
    rwa [hself] at hroom
  · intro hroom b hb
    by_cases hab : b = a
    · subst hab
      rwa [hself]
    · rw [List.count_cons_of_ne (Ne.symm hab)] at hb
      have hmore : values.countP (fun x => decide (x < b))
          ≤ (a :: values).countP (fun x => decide (x < b)) :=
        (List.sublist_cons_self a values).countP_le
      exact (h b hb).trans (by omega)

/-! ## By a key -/

section ByKey

variable {β : Type*} (key : β → α)

/-- **The values that are lowest by a key**, so many of them at most. -/
def lowestBy (n : ℕ) (values : List β) : List β :=
  (values.insertionSort fun a b => key a ≤ key b).take n

/-- The values that are left out of them. -/
def othersBy (n : ℕ) (values : List β) : List β :=
  (values.insertionSort fun a b => key a ≤ key b).drop n

theorem length_lowestBy (n : ℕ) (values : List β) :
    (lowestBy key n values).length = min n values.length := by
  unfold lowestBy
  rw [List.length_take, List.length_insertionSort]

/-- What is listed and what is left out is all there is. -/
theorem lowestBy_append_othersBy_perm (n : ℕ) (values : List β) :
    (lowestBy key n values ++ othersBy key n values).Perm values := by
  unfold lowestBy othersBy
  rw [List.take_append_drop]
  exact List.perm_insertionSort _ values

/-- **What is left out comes after what is listed.** -/
theorem le_of_mem_othersBy {n : ℕ} {values : List β} {a b : β} (ha : a ∈ lowestBy key n values)
    (hb : b ∈ othersBy key n values) : key a ≤ key b := by
  have : Std.Total fun a b : β => key a ≤ key b := ⟨fun a b => le_total (key a) (key b)⟩
  have : IsTrans β fun a b => key a ≤ key b := ⟨fun _ _ _ => le_trans⟩
  have hsorted := List.pairwise_insertionSort (fun a b : β => key a ≤ key b) values
  rw [← List.take_append_drop n (values.insertionSort _), List.pairwise_append] at hsorted
  exact hsorted.2.2 a ha b hb

/-- **Nothing is left out** exactly if there is room for all. -/
theorem perm_lowestBy_iff {n : ℕ} {values : List β} :
    (lowestBy key n values).Perm values ↔ values.length ≤ n := by
  constructor
  · intro h
    have hlength := h.length_eq
    rw [length_lowestBy] at hlength
    omega
  · intro h
    have hall : lowestBy key n values = values.insertionSort fun a b => key a ≤ key b := by
      unfold lowestBy
      exact List.take_of_length_le (by rwa [List.length_insertionSort])
    rw [hall]
    exact List.perm_insertionSort _ values

/-- Of what is in order already, the beginning is listed. -/
theorem lowestBy_of_pairwise {n : ℕ} {values : List β}
    (h : values.Pairwise fun a b => key a ≤ key b) : lowestBy key n values = values.take n := by
  unfold lowestBy
  rw [List.Pairwise.insertionSort_eq h]

end ByKey

end Ranking
