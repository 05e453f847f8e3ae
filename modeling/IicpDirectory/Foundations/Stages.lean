import Mathlib.Data.List.Basic

/-!
# Filtering in stages

Candidates pass stage after stage, and each keeps those that meet its
condition. The first stage that leaves none refuses with its code. What is
left in the end are the candidates that meet every condition, in the order
they came in (`sieve_eq_ok_iff`), and the code that is reported is the one of
the stage at which the candidates run out (`sieve_eq_error_iff`).
-/

namespace Stages

variable {A C : Type*}

/-- The candidates that stage after stage leaves. -/
def sieve : List (C × (A → Bool)) → List A → Except C (List A)
  | [], candidates => .ok candidates
  | (code, keep) :: rest, candidates =>
    match candidates.filter keep with
    | [] => .error code
    | c :: kept => sieve rest (c :: kept)

/-- What a candidate has to meet in all. -/
def passes (stages : List (C × (A → Bool))) (a : A) : Bool := stages.all fun s => s.2 a

theorem filter_passes_nil (candidates : List A) :
    candidates.filter (passes ([] : List (C × (A → Bool)))) = candidates :=
  List.filter_eq_self.mpr fun _ _ => rfl

theorem filter_passes_cons (code : C) (keep : A → Bool) (rest : List (C × (A → Bool)))
    (candidates : List A) :
    candidates.filter (passes ((code, keep) :: rest))
      = (candidates.filter keep).filter (passes rest) := by
  rw [List.filter_filter]
  refine List.filter_congr fun a _ => ?_
  exact Bool.and_comm _ _

/-- Candidates that are there pass if and only if some meet every condition,
and these are left. -/
theorem sieve_eq_ok_iff_of_ne_nil {stages : List (C × (A → Bool))} {candidates kept : List A}
    (h : candidates ≠ []) :
    sieve stages candidates = .ok kept
      ↔ candidates.filter (passes stages) = kept ∧ kept ≠ [] := by
  induction stages generalizing candidates with
  | nil =>
    rw [filter_passes_nil, sieve, Except.ok.injEq]
    exact ⟨fun heq => ⟨heq, heq ▸ h⟩, And.left⟩
  | cons stage rest ih =>
    obtain ⟨code, keep⟩ := stage
    rw [filter_passes_cons, sieve]
    cases hkept : candidates.filter keep with
    | nil =>
      refine ⟨fun h => (nomatch h), fun ⟨h, hne⟩ => ?_⟩
      exact absurd h.symm hne
    | cons c others => exact ih (List.cons_ne_nil c others)

/-- **What is left are the candidates that meet every condition.** -/
theorem sieve_eq_ok_iff {stages : List (C × (A → Bool))} (hstages : stages ≠ [])
    {candidates kept : List A} :
    sieve stages candidates = .ok kept
      ↔ candidates.filter (passes stages) = kept ∧ kept ≠ [] := by
  cases candidates with
  | cons c others => exact sieve_eq_ok_iff_of_ne_nil (List.cons_ne_nil c others)
  | nil =>
    cases stages with
    | nil => exact absurd rfl hstages
    | cons stage rest =>
      refine ⟨fun h => (nomatch h), fun ⟨h, hne⟩ => ?_⟩
      exact absurd h.symm hne

/-- **If the stages refuse, no candidate meets every condition.** -/
theorem filter_passes_of_error {stages : List (C × (A → Bool))} {candidates : List A} {code : C}
    (h : sieve stages candidates = .error code) : candidates.filter (passes stages) = [] := by
  by_contra hne
  have hcandidates : candidates ≠ [] := by
    rintro rfl
    exact hne rfl
  rw [(sieve_eq_ok_iff_of_ne_nil hcandidates).mpr ⟨rfl, hne⟩] at h
  exact nomatch h

/-- **The code is that of the stage at which the candidates run out.** -/
theorem sieve_eq_error_iff {stages : List (C × (A → Bool))} {candidates : List A} {code : C} :
    sieve stages candidates = .error code
      ↔ ∃ n keep, stages[n]? = some (code, keep)
        ∧ (n ≠ 0 → candidates.filter (passes (stages.take n)) ≠ [])
        ∧ candidates.filter (passes (stages.take (n + 1))) = [] := by
  induction stages generalizing candidates with
  | nil => simp [sieve]
  | cons stage rest ih =>
    obtain ⟨first, keep⟩ := stage
    rw [sieve]
    cases hkept : candidates.filter keep with
    | nil =>
      constructor
      · intro h
        cases h
        refine ⟨0, keep, rfl, fun h => absurd rfl h, ?_⟩
        rw [List.take_succ_cons, filter_passes_cons, hkept, List.filter_nil]
      · rintro ⟨n, keep', hstage, hsome, -⟩
        cases n with
        | zero =>
          cases hstage
          rfl
        | succ n =>
          -- nothing is left after the first stage
          refine absurd ?_ (hsome (Nat.succ_ne_zero n))
          rw [List.take_succ_cons, filter_passes_cons, hkept, List.filter_nil]
    | cons c others =>
      dsimp only
      rw [ih]
      constructor
      · rintro ⟨n, keep', hstage, hsome, hnone⟩
        refine ⟨n + 1, keep', hstage, fun _ => ?_, ?_⟩
        · rw [List.take_succ_cons, filter_passes_cons, hkept]
          cases n with
          | zero =>
            rw [List.take_zero, filter_passes_nil]
            exact List.cons_ne_nil c others
          | succ n => exact hsome (Nat.succ_ne_zero n)
        · rw [List.take_succ_cons, filter_passes_cons, hkept]
          exact hnone
      · rintro ⟨n, keep', hstage, hsome, hnone⟩
        rw [List.take_succ_cons, filter_passes_cons, hkept] at hnone
        cases n with
        | zero =>
          rw [List.take_zero, filter_passes_nil] at hnone
          exact absurd hnone (List.cons_ne_nil c others)
        | succ n =>
          refine ⟨n, keep', hstage, fun _ => ?_, hnone⟩
          have hleft := hsome (Nat.succ_ne_zero n)
          rwa [List.take_succ_cons, filter_passes_cons, hkept] at hleft

end Stages
