import IicpDirectory.MySqlRepo

/-!
# What failures cost

A heartbeat says how many tasks succeeded and how many failed. A success is
worth a hundredth and a failure costs a twentieth, and what a heartbeat can
gain is capped at a tenth, so that nobody reports itself to the top.

The cap is meant for the successes: failures are to cost what they cost. What is
capped is the difference of the two. So a heartbeat with enough successes gains
the tenth however many failures it has. `netCapped_le_iff` has where that makes
no difference, for any cap; the scores of the directory are its case.
-/

namespace Outcomes

section Capped

variable {α : Type*} [Field α] [LinearOrder α]

/-- A score, kept in the unit interval. -/
def clamped (score : α) : α := max 0 (min score 1)

/-- **What is meant**: the gain is capped, and the loss is not. -/
def gainCapped (cap gain loss : α) : α := min cap gain - loss

/-- What is done: their difference is. -/
def netCapped (cap gain loss : α) : α := min cap (gain - loss)

theorem le_clamped {score : α} (h : score ≤ 1) : score ≤ clamped score :=
  (le_min le_rfl h).trans (le_max_right _ _)

theorem clamped_nonneg (score : α) : 0 ≤ clamped score := le_max_left _ _

theorem clamped_le {score bound : α} (h : score ≤ bound) (hbound : 0 ≤ bound) :
    clamped score ≤ bound :=
  max_le hbound ((min_le_left _ _).trans h)

variable [IsStrictOrderedRing α]

theorem clamped_le_one (score : α) : clamped score ≤ 1 := max_le zero_le_one (min_le_right _ _)

/-- **Where the gain alone is capped failures always cost.** -/
theorem gainCapped_le {score cap gain loss : α} (hscore : score ≤ 1) (hcap : 0 ≤ cap)
    (hloss : 0 ≤ loss) :
    clamped (score + gainCapped cap gain loss) ≤ clamped (score - loss) + cap := by
  have hfloor : score - loss ≤ clamped (score - loss) :=
    le_clamped (by linarith)
  have hcapped : gainCapped cap gain loss ≤ cap - loss :=
    sub_le_sub_right (min_le_left _ _) loss
  exact clamped_le (by linarith) (add_nonneg (clamped_nonneg _) hcap)

/-- **Where the difference is capped failures cost exactly if** there are none,
the gain needs no cap, there is no score to lose, the loss leaves a score that
the cap takes to the top, or the gain does not make up for the loss. -/
theorem netCapped_le_iff {score cap gain loss : α} (hzero : 0 ≤ score) (hone : score ≤ 1)
    (hcap : 0 ≤ cap) (htop : cap < 1) (hloss : 0 ≤ loss) :
    clamped (score + netCapped cap gain loss) ≤ clamped (score - loss) + cap
      ↔ loss = 0 ∨ gain ≤ cap ∨ score = 0 ∨ 1 - cap ≤ score - loss
        ∨ score + gain ≤ cap + loss := by
  have hfloor : score - loss ≤ clamped (score - loss) := le_clamped (by linarith)
  have hleft := clamped_nonneg (score - loss)
  constructor
  · intro hle
    by_contra hnone
    simp only [not_or, not_le] at hnone
    obtain ⟨hsome, hgain, hscore, hroom, hmakes⟩ := hnone
    have hlost : 0 < loss := lt_of_le_of_ne hloss (Ne.symm hsome)
    have hpos : 0 < score := lt_of_le_of_ne hzero (Ne.symm hscore)
    -- what the failures leave, and what is left with the successes
    have hbound : clamped (score - loss) + cap < clamped (score + netCapped cap gain loss) := by
      rcases le_total score loss with hall | hrest
      · have hnothing : clamped (score - loss) = 0 :=
          le_antisymm (clamped_le (by linarith) le_rfl) hleft
        rw [hnothing, zero_add]
        refine lt_max_of_lt_right (lt_min ?_ htop)
        have hnet : cap - score < netCapped cap gain loss := lt_min (by linarith) (by linarith)
        linarith
      · have hkept : clamped (score - loss) = score - loss :=
          le_antisymm (clamped_le le_rfl (by linarith)) hfloor
        rw [hkept]
        refine lt_max_of_lt_right (lt_min ?_ (by linarith))
        have hnet : cap - loss < netCapped cap gain loss := lt_min (by linarith) (by linarith)
        linarith
    exact absurd hle (not_le.mpr hbound)
  · have hnet : netCapped cap gain loss ≤ cap := min_le_left _ _
    have hdiff : netCapped cap gain loss ≤ gain - loss := min_le_right _ _
    rintro (rfl | hgain | rfl | htop | hmakes)
    · exact clamped_le (by linarith) (by linarith)
    · exact clamped_le (by linarith) (by linarith)
    · exact clamped_le (by linarith) (by linarith)
    · exact (clamped_le_one _).trans (by linarith)
    · exact clamped_le (by linarith) (by linarith)

end Capped

/-! ## The scores of the directory -/

/-- A change of the score is the difference of gain and loss, capped. -/
theorem computeDelta_eq (tasksSuccess tasksFailed : ℕ) :
    MySqlRepo.computeDelta tasksSuccess tasksFailed
      = netCapped (1 / 10 : ℚ) (tasksSuccess / 100) (tasksFailed / 20) := by
  have hdelta : (tasksSuccess : ℚ) * (1 / 100) + (tasksFailed : ℚ) * (-1 / 20)
      = tasksSuccess / 100 - tasksFailed / 20 := by ring
  unfold MySqlRepo.computeDelta netCapped
  dsimp only
  rw [hdelta, min_def]
  split
  · next hlt => rw [if_pos hlt.le]
  · next hle =>
    split
    · next hge => exact le_antisymm (not_lt.mp hle) hge
    · rfl

/-- Failures alone are not capped. -/
theorem computeDelta_zero (tasksFailed : ℕ) :
    MySqlRepo.computeDelta 0 tasksFailed = -(tasksFailed / 20 : ℚ) := by
  rw [computeDelta_eq, Nat.cast_zero, zero_div]
  unfold netCapped
  rw [zero_sub]
  exact min_eq_right ((neg_nonpos.mpr (by positivity)).trans (by norm_num))

/-- **What it takes for failures to cost** a node of a score: there are none, at
most ten successes are reported with them, the score is zero, they leave nine
tenths of it, or the successes do not make up for them and a tenth more. -/
def FailuresCost (score : ℚ) (tasksSuccess tasksFailed : ℕ) : Prop :=
  tasksFailed = 0 ∨ tasksSuccess ≤ 10 ∨ score = 0 ∨ 9 / 10 ≤ score - tasksFailed / 20
    ∨ score + tasksSuccess / 100 ≤ 1 / 10 + tasksFailed / 20

/-- **Failures cost**: a heartbeat is at most a tenth better than the same
failures without successes exactly if one of these is so. -/
theorem failures_cost_iff {score : ℚ} (hzero : 0 ≤ score) (hone : score ≤ 1)
    (tasksSuccess tasksFailed : ℕ) :
    MySqlRepo.applyDelta score (MySqlRepo.computeDelta tasksSuccess tasksFailed)
        ≤ MySqlRepo.applyDelta score (MySqlRepo.computeDelta 0 tasksFailed) + 1 / 10
      ↔ FailuresCost score tasksSuccess tasksFailed := by
  have hcapped := @netCapped_le_iff ℚ _ _ _ score (1 / 10) (tasksSuccess / 100) (tasksFailed / 20) hzero
    hone (by norm_num) (by norm_num) (by positivity)
  have happly : ∀ delta : ℚ, MySqlRepo.applyDelta score delta = clamped (score + delta) :=
    fun _ => rfl
  rw [computeDelta_zero, computeDelta_eq, happly, happly, ← sub_eq_add_neg, hcapped]
  have hnone : (tasksFailed / 20 : ℚ) = 0 ↔ tasksFailed = 0 := by
    rw [div_eq_zero_iff, Nat.cast_eq_zero]
    exact or_iff_left (by norm_num)
  have hfew : (tasksSuccess / 100 : ℚ) ≤ 1 / 10 ↔ tasksSuccess ≤ 10 := by
    rw [div_le_div_iff₀ (by norm_num) (by norm_num)]
    constructor
    · intro h
      have hcast : (tasksSuccess : ℚ) ≤ (10 : ℕ) := by
        push_cast
        linarith
      exact Nat.cast_le.mp hcast
    · intro h
      have hcast : (tasksSuccess : ℚ) ≤ (10 : ℕ) := Nat.cast_le.mpr h
      push_cast at hcast
      linarith
  have hnine : (1 - 1 / 10 : ℚ) = 9 / 10 := by norm_num
  rw [hnone, hfew, hnine]
  rfl

/-- **Sixty successes hide ten failures**: they take a score of one half to six
tenths, and it would have gone to nothing. -/
theorem failures_hidden :
    ¬ ∀ (score : ℚ) (tasksSuccess tasksFailed : ℕ), 0 ≤ score → score ≤ 1 →
      MySqlRepo.applyDelta score (MySqlRepo.computeDelta tasksSuccess tasksFailed)
        ≤ MySqlRepo.applyDelta score (MySqlRepo.computeDelta 0 tasksFailed) + 1 / 10 := by
  intro h
  exact absurd (h (1 / 2) 60 10 (by norm_num) (by norm_num)) (by decide +kernel)

/-- Twenty of them do not. -/
theorem failures_cost_iff_sample :
    MySqlRepo.applyDelta (1 / 2) (MySqlRepo.computeDelta 20 10)
        ≤ MySqlRepo.applyDelta (1 / 2) (MySqlRepo.computeDelta 0 10) + 1 / 10
      ↔ FailuresCost (1 / 2) 20 10 :=
  failures_cost_iff (by norm_num) (by norm_num) 20 10

end Outcomes
