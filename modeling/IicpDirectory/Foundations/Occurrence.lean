import IicpDirectory.Foundations.Delimited

/-!
# Where a word can occur

A word occurs in a text that was put together from parts. If the symbols
between the parts are none of the word's, it occurs in one of the parts
(`infix_append_cons_iff`, `exists_infix_of_row`). If the parts are written
with some symbols escaped, and neither the mark of an escape nor what comes
behind it can be in or start the word, it occurs in the part as it was before
(`infix_of_flatMap`).
-/

namespace Occurrence

variable {α χ : Type*} {w : List χ}

/-- What starts with a symbol that is not in it is empty. -/
theorem eq_nil_of_prefix_cons {c : χ} {ys : List χ} (hc : c ∉ w) (h : w <+: c :: ys) : w = [] := by
  cases w with
  | nil => rfl
  | cons d w =>
    obtain ⟨rfl, _⟩ := List.cons_prefix_cons.mp h
    exact absurd List.mem_cons_self hc

/-- **A word without a symbol occurs on one side of it.** -/
theorem infix_append_cons_iff {c : χ} {xs ys : List χ} (hc : c ∉ w) :
    w <:+: xs ++ c :: ys ↔ w <:+: xs ∨ w <:+: ys := by
  constructor
  · intro h
    rcases List.infix_append_iff.mp h with hleft | hright | ⟨l, r, hlr, hl, hr⟩
    · exact Or.inl hleft
    · rcases List.infix_cons_iff.mp hright with hstart | hrest
      · rw [eq_nil_of_prefix_cons hc hstart]
        exact Or.inl (List.nil_infix)
      · exact Or.inr hrest
    · have hnil : r = [] :=
        eq_nil_of_prefix_cons (fun hmem => hc (hlr ▸ List.mem_append_right _ hmem)) hr
      rw [hlr, hnil, List.append_nil]
      exact Or.inl hl.isInfix
  · rintro (hleft | hright)
    · exact List.infix_append_of_infix_left hleft
    · exact List.infix_append_of_infix_right (List.infix_cons hright)

/-- The same of a symbol a text starts with. -/
theorem infix_cons_iff_of_notMem {c : χ} {ys : List χ} (hc : c ∉ w) :
    w <:+: c :: ys ↔ w <:+: ys := by
  have hsides : w <:+: [] ++ c :: ys ↔ w <:+: [] ∨ w <:+: ys := infix_append_cons_iff hc
  refine hsides.trans (or_iff_right_of_imp fun h => ?_)
  rw [List.infix_nil.mp h]
  exact List.nil_infix

/-! ## Rows -/

section Rows

variable {sep close : χ} {print : α → List χ}

/-- What is printed occurs in the row. -/
theorem infix_row (print : α → List χ) {a : α} {as : List α} (ha : a ∈ as) :
    print a <:+: Delimited.row sep close print as := by
  have hrest : ∀ bs : List α, a ∈ bs → print a <:+: Delimited.afterFirst sep close print bs := by
    intro bs hbs
    induction bs with
    | nil => exact absurd hbs List.not_mem_nil
    | cons b bs ih =>
      rcases List.mem_cons.mp hbs with rfl | hmem
      · exact List.infix_cons List.infix_append_left
      · exact List.infix_cons (List.infix_append_of_infix_right (ih hmem))
  cases as with
  | nil => exact absurd ha List.not_mem_nil
  | cons b bs =>
    rcases List.mem_cons.mp ha with rfl | hmem
    · exact List.infix_append_left
    · exact List.infix_append_of_infix_right (hrest bs hmem)

/-- **What occurs in a row occurs in one value of it**, if the word is not empty
and has neither the separator nor the closing symbol. -/
theorem exists_infix_of_row (hne : w ≠ []) (hsep : sep ∉ w) (hclose : close ∉ w) {as : List α}
    (h : w <:+: Delimited.row sep close print as) : ∃ a ∈ as, w <:+: print a := by
  have hend : ¬ w <:+: [close] := fun hin =>
    hne (List.infix_nil.mp ((infix_cons_iff_of_notMem hclose).mp hin))
  have hrest : ∀ (bs : List α) (xs : List χ),
      w <:+: xs ++ Delimited.afterFirst sep close print bs →
      w <:+: xs ∨ ∃ b ∈ bs, w <:+: print b := by
    intro bs
    induction bs with
    | nil =>
      intro xs hin
      rcases (infix_append_cons_iff hclose).mp hin with hleft | hnil
      · exact Or.inl hleft
      · exact absurd (List.infix_nil.mp hnil) hne
    | cons b bs ih =>
      intro xs hin
      rcases (infix_append_cons_iff hsep).mp hin with hleft | hright
      · exact Or.inl hleft
      · rcases ih (print b) hright with hb | ⟨b', hb', hin'⟩
        · exact Or.inr ⟨b, List.mem_cons_self, hb⟩
        · exact Or.inr ⟨b', List.mem_cons_of_mem _ hb', hin'⟩
  cases as with
  | nil => exact absurd h hend
  | cons a as =>
    rcases hrest as (print a) h with ha | ⟨b, hb, hin⟩
    · exact ⟨a, List.mem_cons_self, ha⟩
    · exact ⟨b, List.mem_cons_of_mem _ hb, hin⟩

end Rows

/-! ## Escapes -/

section Escapes

variable {esc : χ → List χ} {mark : χ}

/-- What starts an escaped text, and has no mark, starts the text. -/
theorem prefix_of_flatMap (hesc : ∀ c, esc c = [c] ∨ ∃ d, esc c = mark :: d) (hmark : mark ∉ w)
    {xs : List χ} (h : w <+: xs.flatMap esc) : w <+: xs := by
  induction xs generalizing w with
  | nil => exact h
  | cons c xs ih =>
    rw [List.flatMap_cons] at h
    rcases hesc c with hplain | ⟨d, hd⟩
    · rw [hplain] at h
      cases w with
      | nil => exact List.nil_prefix
      | cons x w =>
        obtain ⟨rfl, hrest⟩ := List.cons_prefix_cons.mp h
        exact List.cons_prefix_cons.mpr
          ⟨rfl, ih (fun hmem => hmark (List.mem_cons_of_mem _ hmem)) hrest⟩
    · rw [hd, List.cons_append] at h
      rw [eq_nil_of_prefix_cons hmark h]
      exact List.nil_prefix

/-- **What occurs in an escaped text occurs in the text**, if the word has no
mark and starts with nothing that stands behind one. -/
theorem infix_of_flatMap {first : χ} (hfirst : w.head? = some first)
    (hesc : ∀ c, esc c = [c] ∨ ∃ d, esc c = mark :: d ∧ first ∉ d) (hmark : mark ∉ w)
    {xs : List χ} (h : w <:+: xs.flatMap esc) : w <:+: xs := by
  have hesc' : ∀ c, esc c = [c] ∨ ∃ d, esc c = mark :: d := fun c =>
    (hesc c).imp_right fun ⟨d, hd, _⟩ => ⟨d, hd⟩
  induction xs with
  | nil => exact h
  | cons c xs ih =>
    rw [List.flatMap_cons] at h
    rcases hesc c with hplain | ⟨d, hd, hd'⟩
    · rw [hplain] at h
      rcases List.infix_cons_iff.mp h with hstart | hin
      · have hwhole : w <+: (c :: xs).flatMap esc := by
          rw [List.flatMap_cons, hplain]
          exact hstart
        exact (prefix_of_flatMap hesc' hmark hwhole).isInfix
      · exact List.infix_cons (ih hin)
    · -- behind the mark the word can start only where the escape has ended
      rw [hd, List.cons_append, infix_cons_iff_of_notMem hmark] at h
      refine List.infix_cons (ih ?_)
      rcases List.infix_append_iff.mp h with hin | hin | ⟨l, r, hlr, hl, hr⟩
      · exact absurd (hin.subset (List.mem_of_mem_head? hfirst)) hd'
      · exact hin
      · cases l with
        | nil =>
          rw [hlr, List.nil_append]
          exact hr.isInfix
        | cons x l =>
          rw [hlr] at hfirst
          obtain rfl := Option.some.inj hfirst
          exact absurd (hl.subset List.mem_cons_self) hd'

/-- A word that needs no escape occurs in the escaped text. -/
theorem infix_flatMap (hplain : ∀ c ∈ w, esc c = [c]) {xs : List χ} (h : w <:+: xs) :
    w <:+: xs.flatMap esc := by
  have hself : w.flatMap esc = w := by
    refine (List.flatMap_congr hplain).trans ?_
    exact List.flatMap_singleton' w
  obtain ⟨l, r, rfl⟩ := h
  rw [List.flatMap_append, List.flatMap_append, hself]
  exact List.infix_append _ _ _

end Escapes

end Occurrence
