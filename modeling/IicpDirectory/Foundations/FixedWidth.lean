import Mathlib.Algebra.Ring.Nat
import Mathlib.Data.List.Basic

/-!
# Texts of numbers in fields of fixed width

A number is written in so many decimal digits, with zeros before it
(`FixedWidth.digits`), and a text is such numbers, each with a character behind
it (`FixedWidth.render`). Padding with zeros what is printed is writing it so,
where it fits (`FixedWidth.leftpad_toDigits`), and the texts are in the order of
their numbers (`FixedWidth.render_lt_render`).
-/

/-- Of lists of one length, what follows does not change the order. -/
theorem List.append_lt_append_of_length {α : Type*} [LT α] {as bs : List α}
    (hlength : as.length = bs.length) (h : as < bs) (cs ds : List α) : as ++ cs < bs ++ ds := by
  induction as generalizing bs with
  | nil =>
    obtain rfl := List.length_eq_zero_iff.mp hlength.symm
    exact absurd h (List.not_lt_nil _)
  | cons a as ih =>
    cases bs with
    | nil => exact absurd h (List.not_lt_nil _)
    | cons b bs =>
      rw [List.cons_append, List.cons_append, List.cons_lt_cons_iff]
      rcases List.cons_lt_cons_iff.mp h with hlt | ⟨heq, hlt⟩
      · exact .inl hlt
      · exact .inr ⟨heq, ih (Nat.succ.inj hlength) hlt⟩

namespace FixedWidth

/-! ## One number -/

/-- The last digits of a number, so many. -/
def digits : ℕ → ℕ → List Char
  | 0, _ => []
  | width + 1, n => digits width (n / 10) ++ [Nat.digitChar (n % 10)]

@[simp] theorem length_digits (width n : ℕ) : (digits width n).length = width := by
  induction width generalizing n with
  | zero => rfl
  | succ width ih => rw [digits, List.length_append, ih]; rfl

theorem digits_zero (width : ℕ) : digits width 0 = List.replicate width '0' := by
  induction width with
  | zero => rfl
  | succ width ih => rw [digits, Nat.zero_div, ih, List.replicate_succ']; rfl

/-- **Printed and padded with zeros** a number has its last digits, if it fits. -/
theorem leftpad_toDigits {width n : ℕ} (hwidth : 0 < width) (h : n < 10 ^ width) :
    (Nat.toDigits 10 n).leftpad width '0' = digits width n := by
  induction width generalizing n with
  | zero => exact absurd hwidth (lt_irrefl 0)
  | succ width ih =>
    rw [Nat.toDigits_eq_if (by decide), digits]
    split_ifs with hsmall
    · rw [Nat.div_eq_of_lt hsmall, Nat.mod_eq_of_lt hsmall, digits_zero]
      rfl
    · have hdiv : n / 10 < 10 ^ width := by
        rw [pow_succ] at h
        omega
      have hpos : 0 < width := by
        refine Nat.pos_of_ne_zero ?_
        rintro rfl
        omega
      rw [← ih hpos hdiv]
      unfold List.leftpad
      rw [List.length_append, List.length_singleton, Nat.add_sub_add_right, List.append_assoc]

/-- The digits are in the order of their values. -/
theorem digitChar_lt_digitChar {a b : ℕ} (h : a < b) (hb : b < 10) :
    Nat.digitChar a < Nat.digitChar b := by
  have hall : ∀ b < 10, ∀ a < b, Nat.digitChar a < Nat.digitChar b := by decide
  exact hall b hb a h

/-- **Numbers in one width are in the order of their digits.** -/
theorem digits_lt_digits {width a b : ℕ} (h : a < b) (hb : b < 10 ^ width) :
    digits width a < digits width b := by
  induction width generalizing a b with
  | zero => omega
  | succ width ih =>
    rw [digits, digits]
    by_cases htens : a / 10 = b / 10
    · rw [htens]
      refine List.append_left_lt (List.cons_lt_cons_iff.mpr (.inl ?_))
      exact digitChar_lt_digitChar (by omega) (Nat.mod_lt b (by decide))
    · have hdiv : b / 10 < 10 ^ width := by
        rw [pow_succ] at hb
        omega
      exact List.append_lt_append_of_length (by simp) (ih (by omega) hdiv) _ _

/-! ## A text of numbers -/

/-- The numbers in their widths, each with the character behind it. -/
def render : List (ℕ × Char) → List ℕ → List Char
  | (width, mark) :: shape, n :: values => digits width n ++ mark :: render shape values
  | _, _ => []

/-- **The values fit in the widths**, one in each. -/
def Fits : List (ℕ × Char) → List ℕ → Prop
  | (width, _) :: shape, n :: values => n < 10 ^ width ∧ Fits shape values
  | [], [] => True
  | _, _ => False

/-- **Texts of one shape are in the order of their numbers.** -/
theorem render_lt_render {shape : List (ℕ × Char)} {values values' : List ℕ}
    (hfits : Fits shape values) (hfits' : Fits shape values') (h : values < values') :
    render shape values < render shape values' := by
  induction shape generalizing values values' with
  | nil =>
    cases values' with
    | nil => exact absurd h (List.not_lt_nil _)
    | cons => exact absurd hfits' not_false
  | cons field shape ih =>
    cases values with
    | nil => exact absurd hfits not_false
    | cons n values =>
      cases values' with
      | nil => exact absurd h (List.not_lt_nil _)
      | cons n' values' =>
        rw [render, render]
        rcases List.cons_lt_cons_iff.mp h with hlt | ⟨rfl, hlt⟩
        · exact List.append_lt_append_of_length (by simp) (digits_lt_digits hlt hfits'.1) _ _
        · exact List.append_left_lt
            (List.cons_lt_cons_iff.mpr (.inr ⟨rfl, ih hfits.2 hfits'.2 hlt⟩))

end FixedWidth
