import Mathlib.Data.Set.Function
import Mathlib.Logic.Function.Basic

/-!
# Handles that one holder has

Some keys hold a handle, each at most one, and no two hold the same. A
handle may be given up, or passed on to a key that then has it instead, and
nothing comes of that; a handle that is taken is the one case to look at, and
it is right exactly where no other key holds it (`Exclusive.take_iff`).
-/

variable {K N : Type*}

/-- **No handle is held twice.** -/
def Exclusive (held : K → Option N) : Prop := Set.InjOn held {k | held k ≠ none}

namespace Exclusive

variable {held : K → Option N}

theorem eq (h : Exclusive held) {k k' : K} {n : N} (hk : held k = some n)
    (hk' : held k' = some n) : k = k' :=
  h (by simp [hk]) (by simp [hk']) (hk.trans hk'.symm)

theorem of_eq (h : ∀ k k' n, held k = some n → held k' = some n → k = k') : Exclusive held := by
  intro k hk k' hk' heq
  obtain ⟨n, hn⟩ := Option.ne_none_iff_exists'.mp hk
  exact h k k' n hn (heq ▸ hn)

variable [DecidableEq K]

/-- A handle that is given up is held by none. -/
theorem release (h : Exclusive held) (k : K) : Exclusive (Function.update held k none) := by
  refine of_eq fun a b n ha hb => ?_
  have hstill : ∀ c, Function.update held k none c = some n → held c = some n := by
    intro c hc
    by_cases hck : c = k
    · rw [hck, Function.update_self] at hc
      exact absurd hc (by simp)
    · rwa [Function.update_of_ne hck] at hc
  exact h.eq (hstill a ha) (hstill b hb)

/-- **A handle may be taken exactly where no other key holds it.** -/
theorem take_iff (h : Exclusive held) (k : K) (n : N) :
    Exclusive (Function.update held k (some n)) ↔ ∀ k' ≠ k, held k' ≠ some n := by
  constructor
  · intro hafter k' hne hheld
    refine hne (hafter.eq ?_ (Function.update_self k (some n) held))
    rw [Function.update_of_ne hne]
    exact hheld
  · intro hfree
    refine of_eq fun a b m ha hb => ?_
    have hcase : ∀ c, Function.update held k (some n) c = some m →
        c = k ∧ n = m ∨ c ≠ k ∧ held c = some m := by
      intro c hc
      by_cases hck : c = k
      · rw [hck, Function.update_self] at hc
        exact Or.inl ⟨hck, Option.some.inj hc⟩
      · rw [Function.update_of_ne hck] at hc
        exact Or.inr ⟨hck, hc⟩
    rcases hcase a ha with ⟨hak, hm⟩ | ⟨hak, hheld⟩
    · rcases hcase b hb with ⟨hbk, -⟩ | ⟨hbk, hheld⟩
      · exact hak.trans hbk.symm
      · exact absurd (hm ▸ hheld) (hfree b hbk)
    · rcases hcase b hb with ⟨hbk, hm⟩ | ⟨-, hheld'⟩
      · exact absurd (hm ▸ hheld) (hfree a hak)
      · exact h.eq hheld hheld'

/-- **What a key holds may be passed on.** -/
theorem pass (h : Exclusive held) {k k' : K} (hne : k' ≠ k) :
    Exclusive (Function.update (Function.update held k' (held k)) k none) := by
  rw [Function.update_comm hne]
  cases hheld : held k with
  | none => exact (h.release k).release k'
  | some n =>
    refine ((h.release k).take_iff k' n).mpr fun a _ ha => ?_
    by_cases hak : a = k
    · rw [hak, Function.update_self] at ha
      exact absurd ha (by simp)
    · rw [Function.update_of_ne hak] at ha
      exact hak (h.eq ha hheld)

end Exclusive
