import Mathlib.Data.List.Basic
import Mathlib.Data.List.Nodup
import Mathlib.Order.Defs.PartialOrder

/-!
# What a loop over the rows of a catalogue leaves

A catalogue lists named things, and of each its parts: a row for each part,
numbered within its thing. A loop reads the rows and enters each under the name
it has, where a thing that is not there yet is entered without parts.

The rows come in any order as long as those of one thing come by their number.
If no two things have one name, the rows of a name are the parts of the thing
that has it, in their order, whatever comes between them (`filter_eq_parts`).
-/

namespace Catalogue

variable {α β κ ρ : Type*}

/-! ## Maps -/

section Entry

variable [DecidableEq κ]

/-- `entry(k).or_insert(…)`, changed. -/
def entry (m : κ → Option β) (k : κ) (absent : β) (f : β → β) : κ → Option β :=
  Function.update m k (some (f ((m k).getD absent)))

theorem entry_apply (m : κ → Option β) (k : κ) (absent : β) (f : β → β) (k' : κ) :
    entry m k absent f k' = if k' = k then some (f ((m k').getD absent)) else m k' := by
  unfold entry
  rw [Function.update_apply]
  split
  · next h => rw [h]
  · rfl

theorem isSome_entry (m : κ → Option β) (k : κ) (absent : β) (f : β → β) (k' : κ) :
    (entry m k absent f k').isSome = (decide (k' = k) || (m k').isSome) := by
  rw [entry_apply]
  by_cases h : k' = k
  · rw [if_pos h, decide_eq_true h, Bool.true_or]
    rfl
  · rw [if_neg h, decide_eq_false h, Bool.false_or]

/-- **What is seen of an entry that is changed**, where nothing is seen of one
that is new. -/
theorem bind_entry {γ : Type*} {view : β → Option γ} {absent : β} (habsent : view absent = none)
    {f : β → β} {g : Option γ → Option γ} (h : ∀ b, view (f b) = g (view b)) (m : κ → Option β)
    (k k' : κ) :
    (entry m k absent f k').bind view
      = if k' = k then g ((m k').bind view) else (m k').bind view := by
  rw [entry_apply]
  split
  · rw [Option.bind_some, h]
    cases m k' with
    | none => exact congrArg g habsent
    | some b => rfl
  · rfl

end Entry

/-! ## Rows -/

section Rows

variable {ι : Type*} [PartialOrder ι]

/-- **Rows of one thing are its parts in their order**, if they are listed by
their numbers and these go up. -/
theorem eq_of_perm_of_numbered {parts listed : List ρ} {number : ρ → ι}
    (hperm : listed.Perm parts) (hparts : parts.Pairwise fun a b => number a < number b)
    (hlisted : listed.Pairwise fun a b => number a ≤ number b) : listed = parts := by
  have hnodup : (parts.map number).Nodup := by
    rw [List.Nodup, List.pairwise_map]
    exact hparts.imp fun h => ne_of_lt h
  refine hperm.eq_of_pairwise (fun a b ha hb hab hba => ?_) hlisted
    (hparts.imp fun h => le_of_lt h)
  exact List.inj_on_of_nodup_map hnodup (hperm.mem_iff.mp ha) hb (le_antisymm hab hba)

/-- The parts of a thing are found among those of all. -/
theorem filter_flatMap_of_mem {l : List α} {name : α → κ} (hnames : (l.map name).Nodup)
    {parts : α → List ρ} {p : ρ → Bool} {a : α} (ha : a ∈ l)
    (h : ∀ b ∈ l, ∀ r ∈ parts b, p r = true → name b = name a) :
    (l.flatMap parts).filter p = (parts a).filter p := by
  have hnone : ∀ b ∈ l, b ≠ a → (parts b).filter p = [] := by
    intro b hb hne
    rw [List.filter_eq_nil_iff]
    exact fun r hr hp => hne (List.inj_on_of_nodup_map hnames hb ha (h b hb r hr hp))
  have hl : l.Nodup := hnames.of_map
  clear h hnames
  induction l with
  | nil => exact absurd ha List.not_mem_nil
  | cons b rest ih =>
    obtain ⟨hb, hrest⟩ := List.nodup_cons.mp hl
    rw [List.flatMap_cons, List.filter_append]
    rcases List.mem_cons.mp ha with rfl | hmem
    · have htail : (rest.flatMap parts).filter p = [] := by
        rw [List.filter_flatMap, List.flatMap_eq_nil_iff]
        exact fun c hc => hnone c (List.mem_cons_of_mem a hc) fun he => hb (he ▸ hc)
      rw [htail, List.append_nil]
    · rw [hnone b List.mem_cons_self fun he => hb (he ▸ hmem), List.nil_append]
      exact ih hmem (fun c hc => hnone c (List.mem_cons_of_mem b hc)) hrest

/-- **A catalogue**: things of distinct names, each with numbered parts that
bear its name. -/
structure Lists (l : List α) (name : α → κ) (parts : α → List ρ) (nameOf : ρ → κ)
    (number : ρ → ι) : Prop where
  names : (l.map name).Nodup
  named : ∀ a ∈ l, ∀ r ∈ parts a, nameOf r = name a
  numbered : ∀ a ∈ l, (parts a).Pairwise fun r r' => number r < number r'

/-- **The rows that are read of it**: all there are, those of a thing by their
numbers. -/
structure Reads (l : List α) (parts : α → List ρ) (nameOf : ρ → κ) (number : ρ → ι)
    (rows : List ρ) : Prop where
  perm : rows.Perm (l.flatMap parts)
  sorted : rows.Pairwise fun r r' => nameOf r = nameOf r' → number r ≤ number r'

variable {l : List α} {name : α → κ} {parts : α → List ρ} {nameOf : ρ → κ} {number : ρ → ι}
  {rows : List ρ}

/-- A row is of a thing that is there. -/
theorem exists_of_mem (h : Lists l name parts nameOf number)
    (hrows : Reads l parts nameOf number rows) {r : ρ} (hr : r ∈ rows) :
    ∃ a ∈ l, r ∈ parts a ∧ nameOf r = name a := by
  obtain ⟨a, ha, hpart⟩ := List.mem_flatMap.mp (hrows.perm.mem_iff.mp hr)
  exact ⟨a, ha, hpart, h.named a ha r hpart⟩

variable [DecidableEq κ]

/-- **The rows of a name are the parts of the thing that has it.** -/
theorem filter_eq_parts (h : Lists l name parts nameOf number)
    (hrows : Reads l parts nameOf number rows) {a : α} (ha : a ∈ l) :
    rows.filter (fun r => nameOf r = name a) = parts a := by
  have hall : (parts a).filter (fun r => nameOf r = name a) = parts a :=
    List.filter_eq_self.mpr fun r hr => decide_eq_true (h.named a ha r hr)
  have hperm : (rows.filter fun r => nameOf r = name a).Perm (parts a) := by
    refine (hrows.perm.filter _).trans ?_
    rw [filter_flatMap_of_mem h.names ha, hall]
    intro b hb r hr hname
    exact (h.named b hb r hr).symm.trans (of_decide_eq_true hname)
  refine eq_of_perm_of_numbered hperm (h.numbered a ha) ?_
  refine List.Pairwise.imp_of_mem (fun hr hr' hle => ?_) (hrows.sorted.filter _)
  rw [List.mem_filter, decide_eq_true_eq] at hr hr'
  exact hle (hr.2.trans hr'.2.symm)

/-- **What a loop makes of the rows of a name**, if it starts with nothing and
makes something of every row: it is there just if a thing has the name, and is
made of its parts. -/
theorem foldl_filter_eq_some_iff (h : Lists l name parts nameOf number)
    (hrows : Reads l parts nameOf number rows) {push : Option β → ρ → Option β} {made : α → β}
    (hmade : ∀ a ∈ l, (parts a).foldl push none = some (made a)) {k : κ} {b : β} :
    (rows.filter fun r => nameOf r = k).foldl push none = some b
      ↔ ∃ a ∈ l, name a = k ∧ made a = b := by
  constructor
  · intro hfold
    cases hfilter : rows.filter fun r => nameOf r = k with
    | nil =>
      rw [hfilter] at hfold
      exact absurd hfold (by simp)
    | cons r rest =>
      have hr : r ∈ rows.filter fun r => nameOf r = k := hfilter ▸ List.mem_cons_self
      rw [List.mem_filter, decide_eq_true_eq] at hr
      obtain ⟨a, ha, -, hname⟩ := exists_of_mem h hrows hr.1
      obtain rfl : name a = k := hname.symm.trans hr.2
      rw [filter_eq_parts h hrows ha, hmade a ha] at hfold
      exact ⟨a, ha, rfl, Option.some.inj hfold⟩
  · rintro ⟨a, ha, rfl, rfl⟩
    rw [filter_eq_parts h hrows ha]
    exact hmade a ha

end Rows

end Catalogue
