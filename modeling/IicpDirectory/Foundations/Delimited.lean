import Mathlib.Data.List.Basic

/-!
# Printing what can be read back

A printer writes a value as a list of symbols, and what follows the value
is written right behind it. A value is *delimited* if whoever reads the
text knows where it ends and what it is: no other value, with whatever else
behind it, gives the same text (`Delimits`). What follows matters – a number
is delimited by a comma but not by a digit – and so does what is looked at of
a value; both are parameters.

Delimited values can be put in a row with a separator between them and a
closing symbol behind (`row_inj`), and a text over one class of symbols is
delimited by every symbol of another (`append_inj_of_class`), as is one whose
separators are counted (`append_cons_inj_of_count`). The parts of a text
between separators are what they are whichever way the text was put together
(`splitOn_append_cons`).
-/

namespace Delimited

variable {α β χ : Type*}

/-- **A value is delimited**: among the admissible values those that look like
it are the only ones that give its text, whatever admissible text follows
either. -/
def Delimits (ok : α → Prop) (print : α → List χ) (stop : List χ → Prop) (view : α → β)
    (a : α) : Prop :=
  ∀ ⦃b : α⦄ ⦃r s : List χ⦄, ok b → stop r → stop s → print a ++ r = print b ++ s →
    view a = view b ∧ r = s

/-! ## Symbols of a class -/

/-- Two texts over a class of symbols, each up to where a symbol of another
class follows or nothing does, are told apart. -/
theorem append_inj_of_class {p : χ → Prop} {xs ys r s : List χ} (hx : ∀ c ∈ xs, p c)
    (hy : ∀ c ∈ ys, p c) (hr : ∀ c ∈ r.head?, ¬ p c) (hs : ∀ c ∈ s.head?, ¬ p c)
    (h : xs ++ r = ys ++ s) : xs = ys ∧ r = s := by
  induction xs generalizing ys with
  | nil =>
    cases ys with
    | nil => exact ⟨rfl, h⟩
    | cons d ys =>
      refine absurd (hy d List.mem_cons_self) (hr d ?_)
      rw [List.nil_append] at h
      rw [h]
      rfl
  | cons c xs ih =>
    cases ys with
    | nil =>
      refine absurd (hx c List.mem_cons_self) (hs c ?_)
      rw [List.nil_append] at h
      rw [← h]
      rfl
    | cons d ys =>
      obtain ⟨rfl, htail⟩ := List.cons.inj h
      obtain ⟨rfl, hrest⟩ := ih (fun c hc => hx c (List.mem_cons_of_mem _ hc))
        (fun c hc => hy c (List.mem_cons_of_mem _ hc)) htail
      exact ⟨rfl, hrest⟩

/-- Two texts with as many separators, each up to a further one, are told
apart. -/
theorem append_cons_inj_of_count [BEq χ] [LawfulBEq χ] {sep : χ} {xs ys r s : List χ}
    (hcount : xs.count sep = ys.count sep) (h : xs ++ sep :: r = ys ++ sep :: s) :
    xs = ys ∧ r = s := by
  induction xs generalizing ys with
  | nil =>
    cases ys with
    | nil => exact ⟨rfl, (List.cons.inj h).2⟩
    | cons d ys =>
      obtain ⟨rfl, _⟩ := List.cons.inj h
      rw [List.count_cons_self, List.count_nil] at hcount
      exact absurd hcount.symm (Nat.succ_ne_zero _)
  | cons c xs ih =>
    cases ys with
    | nil =>
      obtain ⟨rfl, _⟩ := List.cons.inj h
      rw [List.count_cons_self, List.count_nil] at hcount
      exact absurd hcount (Nat.succ_ne_zero _)
    | cons d ys =>
      obtain ⟨rfl, htail⟩ := List.cons.inj h
      rw [List.count_cons, List.count_cons] at hcount
      obtain ⟨rfl, hrest⟩ := ih (Nat.add_right_cancel hcount) htail
      exact ⟨rfl, hrest⟩

/-! ## Rows -/

section Rows

variable (sep close : χ) (print : α → List χ)

/-- What follows the first value of a row: each other one behind a
separator, the closing symbol at the end. -/
def afterFirst : List α → List χ
  | [] => [close]
  | a :: rest => sep :: (print a ++ afterFirst rest)

/-- **A row of values**, closed. -/
def row : List α → List χ
  | [] => [close]
  | a :: rest => print a ++ afterFirst sep close print rest

theorem afterFirst_eq_append (as : List α) (r : List χ) :
    ∃ c t, (c = sep ∨ c = close) ∧ afterFirst sep close print as ++ r = c :: t := by
  cases as with
  | nil => exact ⟨close, r, Or.inr rfl, rfl⟩
  | cons a rest => exact ⟨sep, _, Or.inl rfl, rfl⟩

variable {sep close print} {ok : α → Prop} {stop : List χ → Prop} {view : α → β}

/-- A row of images, printed through the map. -/
theorem row_map {γ : Type*} (f : γ → α) (cs : List γ) :
    row sep close print (cs.map f) = row sep close (fun c => print (f c)) cs := by
  have hrest : ∀ ds : List γ, afterFirst sep close print (ds.map f)
      = afterFirst sep close (fun c => print (f c)) ds := by
    intro ds
    induction ds with
    | nil => rfl
    | cons d ds ih => rw [List.map_cons, afterFirst, afterFirst, ih]
  cases cs with
  | nil => rfl
  | cons c cs => rw [List.map_cons, row, row, hrest]

/-- Delimited values behind separators are told apart. -/
theorem afterFirst_inj (hne : sep ≠ close) (hstop : ∀ c t, c = sep ∨ c = close → stop (c :: t))
    {as : List α} (has : ∀ a ∈ as, Delimits ok print stop view a) {bs : List α} (hbs : ∀ b ∈ bs, ok b)
    {r s : List χ}
    (h : afterFirst sep close print as ++ r = afterFirst sep close print bs ++ s) :
    as.map view = bs.map view ∧ r = s := by
  induction as generalizing bs with
  | nil =>
    cases bs with
    | nil => exact ⟨rfl, (List.cons.inj h).2⟩
    | cons b bs => exact absurd (List.cons.inj h).1.symm hne
  | cons a as ih =>
    cases bs with
    | nil => exact absurd (List.cons.inj h).1 hne
    | cons b bs =>
      have htail : print a ++ (afterFirst sep close print as ++ r)
          = print b ++ (afterFirst sep close print bs ++ s) := by
        rw [← List.append_assoc, ← List.append_assoc]
        exact (List.cons.inj h).2
      obtain ⟨c, t, hc, heq⟩ := afterFirst_eq_append sep close print as r
      obtain ⟨c', t', hc', heq'⟩ := afterFirst_eq_append sep close print bs s
      obtain ⟨hview, hrest⟩ := has a List.mem_cons_self (hbs b List.mem_cons_self)
        (heq ▸ hstop c t hc) (heq' ▸ hstop c' t' hc') htail
      obtain ⟨hviews, hrs⟩ := ih (fun a ha => has a (List.mem_cons_of_mem _ ha))
        (fun b hb => hbs b (List.mem_cons_of_mem _ hb)) hrest
      exact ⟨by rw [List.map_cons, List.map_cons, hview, hviews], hrs⟩

/-- **Rows of delimited values are told apart**, whatever follows, if no value
starts with the closing symbol. -/
theorem row_inj (hne : sep ≠ close) (hstop : ∀ c t, c = sep ∨ c = close → stop (c :: t))
    (hopen : ∀ a r t, print a ++ r ≠ close :: t)
    {as : List α} (has : ∀ a ∈ as, Delimits ok print stop view a) {bs : List α} (hbs : ∀ b ∈ bs, ok b)
    {r s : List χ} (h : row sep close print as ++ r = row sep close print bs ++ s) :
    as.map view = bs.map view ∧ r = s := by
  cases as with
  | nil =>
    cases bs with
    | nil => exact ⟨rfl, (List.cons.inj h).2⟩
    | cons b bs =>
      rw [row, row, List.append_assoc] at h
      exact absurd h.symm (hopen b _ _)
  | cons a as =>
    cases bs with
    | nil =>
      rw [row, row, List.append_assoc] at h
      exact absurd h (hopen a _ _)
    | cons b bs =>
      -- behind a separator the two rows are the two texts of `afterFirst_inj`
      refine afterFirst_inj hne hstop has hbs (r := r) (s := s) ?_
      exact congrArg (sep :: ·) h

end Rows

/-! ## Parts -/

variable [BEq χ] [LawfulBEq χ]

/-- The parts of two texts put together with a separator. -/
theorem splitOn_append_cons (sep : χ) (xs ys : List χ) :
    (xs ++ sep :: ys).splitOn sep = xs.splitOn sep ++ ys.splitOn sep :=
  List.splitOnP_append_cons xs ys (beq_self_eq_true sep)

/-- A text without the separator is its one part. -/
theorem splitOn_of_notMem {sep : χ} {xs : List χ} (h : sep ∉ xs) : xs.splitOn sep = [xs] :=
  List.splitOnP_eq_singleton fun _ hc => beq_eq_false_iff_ne.mpr fun heq => h (heq ▸ hc)

/-- The parts determine the text. -/
theorem splitOn_inj {sep : χ} {xs ys : List χ} (h : xs.splitOn sep = ys.splitOn sep) : xs = ys := by
  rw [← @List.intercalate_splitOn _ xs _ _ sep, h, List.intercalate_splitOn]

/-- A text of one part is that part. -/
theorem eq_of_splitOn_eq_singleton {sep : χ} {xs part : List χ} (h : xs.splitOn sep = [part]) :
    xs = part := by
  rw [← @List.intercalate_splitOn _ xs _ _ sep, h, List.intercalate_singleton]

omit [BEq χ] [LawfulBEq χ] in
/-- Putting together two rows of parts. -/
theorem intercalate_append (sep : χ) {as bs : List (List χ)} (has : as ≠ []) (hbs : bs ≠ []) :
    [sep].intercalate (as ++ bs) = [sep].intercalate as ++ sep :: [sep].intercalate bs := by
  induction as with
  | nil => exact absurd rfl has
  | cons a as ih =>
    cases as with
    | nil =>
      rw [List.singleton_append, List.intercalate_cons_of_ne_nil hbs, List.intercalate_singleton,
        List.append_assoc, List.singleton_append]
    | cons a' as =>
      have hcons : [sep].intercalate (a :: a' :: as) = a ++ [sep] ++ [sep].intercalate (a' :: as) :=
        List.intercalate_cons_of_ne_nil (List.cons_ne_nil a' as)
      rw [List.cons_append, List.intercalate_cons_of_ne_nil (by simp), ih (List.cons_ne_nil a' as),
        hcons]
      simp only [List.append_assoc]

omit [BEq χ] [LawfulBEq χ] in
/-- What is in a row of parts put together separates them, or is in one. -/
theorem eq_or_mem_of_mem_intercalate {sep c : χ} {parts : List (List χ)}
    (h : c ∈ [sep].intercalate parts) : c = sep ∨ ∃ part ∈ parts, c ∈ part := by
  induction parts with
  | nil => exact absurd h List.not_mem_nil
  | cons part rest ih =>
    by_cases hrest : rest = []
    · rw [hrest, List.intercalate_singleton] at h
      exact Or.inr ⟨part, List.mem_cons_self, h⟩
    · rw [List.intercalate_cons_of_ne_nil hrest, List.mem_append, List.mem_append,
        List.mem_singleton] at h
      rcases h with (hpart | hsep) | hlater
      · exact Or.inr ⟨part, List.mem_cons_self, hpart⟩
      · exact Or.inl hsep
      · rcases ih hlater with hsep | ⟨other, hother, hc⟩
        · exact Or.inl hsep
        · exact Or.inr ⟨other, List.mem_cons_of_mem _ hother, hc⟩

/-- What is in a text separates its parts, or is in one. -/
theorem eq_or_mem_of_mem {sep c : χ} {xs : List χ} (h : c ∈ xs) :
    c = sep ∨ ∃ part ∈ xs.splitOn sep, c ∈ part := by
  rw [← @List.intercalate_splitOn _ xs _ _ sep] at h
  exact eq_or_mem_of_mem_intercalate h

end Delimited
