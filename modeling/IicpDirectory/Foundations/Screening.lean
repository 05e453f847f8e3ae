import Mathlib.Data.List.Infix

/-!
# Screening a text by fragments

A rule has fragments and meets a text that one of them occurs in; of a list of
rules the first that meets a text is its verdict. What a rule meets it meets in
every longer text (`Rule.meets_of_infix`), and blanks around a text do not
count where no fragment begins or ends with one (`infix_trim_iff`).

A list is often split by what its rules are for. If those for one purpose come
before all others, the verdict is of that purpose just if some rule of it meets
the text (`any_verdict_iff`); which one is found then depends on the order,
that one is found does not.
-/

namespace Screening

variable {α ρ : Type*}

/-! ## Blanks around a text -/

section Trim

variable (blank : α → Bool)

/-- The text without the blanks at its ends. -/
def trim (text : List α) : List α :=
  ((text.dropWhile blank).reverse.dropWhile blank).reverse

variable {blank}

/-- A fragment without blanks that occurs in a text occurs behind the blanks it
begins with. -/
theorem infix_dropWhile_iff {fragment text : List α} (h : ∀ c ∈ fragment, blank c = false) :
    fragment <:+: text.dropWhile blank ↔ fragment <:+: text := by
  refine ⟨fun hinfix => hinfix.trans (List.dropWhile_suffix blank).isInfix, ?_⟩
  rintro ⟨before, behind, rfl⟩
  have hkept : (fragment ++ behind).dropWhile blank = fragment ++ behind
      ∨ fragment = [] := by
    cases fragment with
    | nil => exact Or.inr rfl
    | cons c rest =>
      exact Or.inl (List.dropWhile_cons_of_neg (by simp [h c List.mem_cons_self]))
  rcases hkept with hkept | rfl
  · rw [List.append_assoc, List.dropWhile_append]
    split
    · rw [hkept]
      exact (List.prefix_append _ _).isInfix
    · exact (List.prefix_append _ _).isInfix.trans (List.suffix_append _ _).isInfix
  · exact List.nil_infix

/-- **Blanks around a text hide no fragment.** -/
theorem infix_trim_iff {fragment text : List α} (h : ∀ c ∈ fragment, blank c = false) :
    fragment <:+: trim blank text ↔ fragment <:+: text := by
  have hback : ∀ c ∈ fragment.reverse, blank c = false :=
    fun c hc => h c (List.mem_reverse.mp hc)
  unfold trim
  rw [← List.reverse_infix, List.reverse_reverse, infix_dropWhile_iff hback, List.reverse_infix,
    infix_dropWhile_iff h]

/-- A text that is renamed symbol by symbol is trimmed to the same place, if
blanks stay blanks and become none. -/
theorem map_trim {β : Type*} {blank' : β → Bool} {rename : α → β}
    (h : ∀ c, blank' (rename c) = blank c) (text : List α) :
    (trim blank text).map rename = trim blank' (text.map rename) := by
  have hdrop : ∀ l : List α, (l.dropWhile blank).map rename = (l.map rename).dropWhile blank' := by
    intro l
    induction l with
    | nil => rfl
    | cons c rest ih =>
      rw [List.map_cons, List.dropWhile_cons, List.dropWhile_cons, h]
      split
      · exact ih
      · rfl
  unfold trim
  rw [List.map_reverse, hdrop, List.map_reverse, hdrop]

end Trim

/-! ## Rules -/

section Rules

variable [DecidableEq α] (fragments : ρ → List (List α))

/-- A rule meets a text. -/
def meets (text : List α) (rule : ρ) : Bool :=
  (fragments rule).any fun fragment => decide (fragment <:+: text)

/-- **The verdict on a text**: the first rule that meets it. -/
def verdict (rules : List ρ) (text : List α) : Option ρ := rules.find? (meets fragments text)

variable {fragments}

theorem meets_iff {text : List α} {rule : ρ} :
    meets fragments text rule = true ↔ ∃ fragment ∈ fragments rule, fragment <:+: text := by
  unfold meets
  rw [List.any_eq_true]
  simp only [decide_eq_true_eq]

/-- **What a rule meets it meets in every longer text.** -/
theorem meets_of_infix {text longer : List α} (h : text <:+: longer) {rule : ρ}
    (hmeets : meets fragments text rule = true) : meets fragments longer rule = true := by
  obtain ⟨fragment, hfragment, hinfix⟩ := meets_iff.mp hmeets
  exact meets_iff.mpr ⟨fragment, hfragment, hinfix.trans h⟩

/-- **The verdict is for a purpose just if some rule for it meets the text**,
where the rules for it come first. -/
theorem any_verdict_iff {rules : List ρ} {purpose : ρ → Bool}
    (hfirst : rules.Pairwise fun a b => purpose b = true → purpose a = true) {text : List α} :
    (verdict fragments rules text).any purpose = true
      ↔ ∃ rule ∈ rules, purpose rule = true ∧ meets fragments text rule = true := by
  unfold verdict
  induction rules with
  | nil => simp
  | cons a rest ih =>
    rw [List.pairwise_cons] at hfirst
    rw [List.find?_cons]
    cases hmeets : meets fragments text a with
    | true =>
      refine ⟨fun h => ⟨a, List.mem_cons_self, h, hmeets⟩, ?_⟩
      rintro ⟨rule, hrule, hpurpose, -⟩
      rcases List.mem_cons.mp hrule with rfl | hrest
      · exact hpurpose
      · exact hfirst.1 rule hrest hpurpose
    | false =>
      rw [ih hfirst.2]
      refine ⟨fun ⟨rule, hrest, h⟩ => ⟨rule, List.mem_cons_of_mem a hrest, h⟩, ?_⟩
      rintro ⟨rule, hrule, hpurpose, hrule'⟩
      rcases List.mem_cons.mp hrule with rfl | hrest
      · exact absurd (hmeets.symm.trans hrule') Bool.false_ne_true
      · exact ⟨rule, hrest, hpurpose, hrule'⟩

end Rules

end Screening
