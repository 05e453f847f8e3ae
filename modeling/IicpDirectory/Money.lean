import IicpDirectory.MySqlRepo
import Mathlib.Tactic.Linarith

/-!
# Amounts of four decimals

Money columns keep four decimals, and what is stored is rounded, ties away
from zero (`round4`). A whole amount is one that a column keeps as it is.

The balances of a ledger are whole, the amounts that come and go need not
be. Rounding the new balance and rounding the amount come to the same except
at a tie: where the amount lies half-way between two whole ones and the
balance before and after it have different signs to the rounding
(`round4_whole_sub`, `round4_whole_add`).
-/

/-! ## Ties -/

/-- Half-way between two integers. -/
def IsTie (q : ℚ) : Prop := ∃ k : ℤ, q = k + 1 / 2

theorem ne_zero_of_isTie {q : ℚ} (h : IsTie q) : q ≠ 0 := by
  obtain ⟨k, rfl⟩ := h
  intro hzero
  have hodd : (2 * k + 1 : ℤ) = 0 := by
    have : (2 : ℚ) * k + 1 = 0 := by linarith
    exact_mod_cast this
  omega

theorem isTie_neg {q : ℚ} : IsTie (-q) ↔ IsTie q := by
  constructor
  · rintro ⟨k, hk⟩
    exact ⟨-k - 1, by push_cast; linarith⟩
  · rintro ⟨k, rfl⟩
    exact ⟨-k - 1, by push_cast; ring⟩

theorem isTie_intCast_add {n : ℤ} {q : ℚ} : IsTie (n + q) ↔ IsTie q := by
  constructor
  · rintro ⟨k, hk⟩
    exact ⟨k - n, by push_cast; linarith⟩
  · rintro ⟨k, rfl⟩
    exact ⟨n + k, by push_cast; ring⟩

/-- Away from ties both halves of the rounding are one. -/
theorem roundHalfAway_of_not_isTie {q : ℚ} (h : ¬ IsTie q) : roundHalfAway q = ⌊q + 1 / 2⌋ := by
  unfold roundHalfAway
  split
  · rfl
  · have hle := Int.floor_le (q + 1 / 2)
    have hlt := Int.lt_floor_add_one (q + 1 / 2)
    have hne : (⌊q + 1 / 2⌋ : ℚ) ≠ q + 1 / 2 := fun he =>
      h ⟨⌊q + 1 / 2⌋ - 1, by push_cast; linarith⟩
    rw [Int.ceil_eq_iff]
    have hlt' := lt_of_le_of_ne hle hne
    constructor <;> linarith

/-- **An integer comes out of the rounding**, unless it takes a tie across
zero. -/
theorem roundHalfAway_intCast_add {n : ℤ} {q : ℚ} (h : IsTie q → (0 ≤ q ↔ 0 ≤ n + q)) :
    roundHalfAway (n + q) = n + roundHalfAway q := by
  by_cases htie : IsTie q
  · have hsign := h htie
    unfold roundHalfAway
    by_cases hq : 0 ≤ q
    · rw [if_pos hq, if_pos (hsign.mp hq), add_assoc, Int.floor_intCast_add]
    · rw [if_neg hq, if_neg (mt hsign.mpr hq), add_sub_assoc, Int.ceil_intCast_add]
  · rw [roundHalfAway_of_not_isTie htie, roundHalfAway_of_not_isTie (mt isTie_intCast_add.mp htie),
      add_assoc, Int.floor_intCast_add]

theorem roundHalfAway_neg (q : ℚ) : roundHalfAway (-q) = -roundHalfAway q := by
  unfold roundHalfAway
  rcases lt_trichotomy q 0 with hq | rfl | hq
  · rw [if_pos (by linarith), if_neg (by linarith), ← Int.floor_neg]
    congr 1
    ring
  · norm_num
  · rw [if_neg (by linarith), if_pos hq.le, ← Int.ceil_neg]
    congr 1
    ring

theorem roundHalfAway_intCast (n : ℤ) : roundHalfAway (n : ℚ) = n := by
  have h := roundHalfAway_intCast_add (n := n) (q := 0)
    fun htie => absurd rfl (ne_zero_of_isTie htie)
  have hzero : roundHalfAway 0 = 0 := by
    unfold roundHalfAway
    norm_num
  rwa [add_zero, hzero, add_zero] at h

theorem roundHalfAway_mono {p q : ℚ} (h : p ≤ q) : roundHalfAway p ≤ roundHalfAway q := by
  unfold roundHalfAway
  split
  · next hp =>
    rw [if_pos (hp.trans h)]
    exact Int.floor_mono (by linarith)
  · next hp =>
    split
    · have hleft : ⌈p - 1 / 2⌉ ≤ 0 := Int.ceil_le.mpr (by push_cast; linarith)
      exact hleft.trans (Int.floor_nonneg.mpr (by linarith))
    · exact Int.ceil_mono (by linarith)

/-! ## Whole amounts -/

/-- An amount of four decimals. -/
def Whole (q : ℚ) : Prop := ∃ n : ℤ, q = n / 10000

/-- **A tie of the fourth decimal.** -/
def HalfUnit (q : ℚ) : Prop := IsTie (q * 10000)

theorem whole_zero : Whole 0 := ⟨0, by norm_num⟩

theorem whole_round4 (q : ℚ) : Whole (round4 q) := ⟨roundHalfAway (q * 10000), rfl⟩

theorem round4_of_whole {q : ℚ} (h : Whole q) : round4 q = q := by
  obtain ⟨n, rfl⟩ := h
  unfold round4
  rw [div_mul_cancel₀ _ (by norm_num), roundHalfAway_intCast]

theorem Whole.sub {p q : ℚ} (hp : Whole p) (hq : Whole q) : Whole (p - q) := by
  obtain ⟨m, rfl⟩ := hp
  obtain ⟨n, rfl⟩ := hq
  exact ⟨m - n, by push_cast; ring⟩

theorem Whole.add {p q : ℚ} (hp : Whole p) (hq : Whole q) : Whole (p + q) := by
  obtain ⟨m, rfl⟩ := hp
  obtain ⟨n, rfl⟩ := hq
  exact ⟨m + n, by push_cast; ring⟩

theorem round4_mono {p q : ℚ} (h : p ≤ q) : round4 p ≤ round4 q := by
  unfold round4
  have hle := roundHalfAway_mono (p := p * 10000) (q := q * 10000) (by linarith)
  have hcast : ((roundHalfAway (p * 10000) : ℤ) : ℚ) ≤ (roundHalfAway (q * 10000) : ℤ) := by
    exact_mod_cast hle
  linarith

/-- **A whole balance less an amount** is rounded as the amount is, unless the
amount is a tie and the balance more. -/
theorem round4_whole_sub {balance amount : ℚ} (hb : Whole balance) (ha : 0 ≤ amount)
    (htie : HalfUnit amount → balance < amount) :
    round4 (balance - amount) = balance - round4 amount := by
  obtain ⟨n, rfl⟩ := hb
  have hround : roundHalfAway (n + -(amount * 10000)) = n + roundHalfAway (-(amount * 10000)) := by
    refine roundHalfAway_intCast_add fun h => ?_
    have hhalf : HalfUnit amount := isTie_neg.mp h
    have hlt := htie hhalf
    have hpos : 0 < amount := lt_of_le_of_ne ha fun hzero =>
      ne_zero_of_isTie hhalf (by rw [← hzero, zero_mul])
    constructor <;> intro h0 <;> linarith
  unfold round4
  rw [show ((n : ℚ) / 10000 - amount) * 10000 = n + -(amount * 10000) by ring, hround,
    roundHalfAway_neg]
  push_cast
  ring

/-- **A whole balance and an amount** are rounded as the amount is, unless the
amount is a tie and the sum negative. -/
theorem round4_whole_add {balance amount : ℚ} (hb : Whole balance) (ha : 0 ≤ amount)
    (htie : HalfUnit amount → 0 ≤ balance + amount) :
    round4 (balance + amount) = balance + round4 amount := by
  obtain ⟨n, rfl⟩ := hb
  have hround : roundHalfAway (n + amount * 10000) = n + roundHalfAway (amount * 10000) := by
    refine roundHalfAway_intCast_add fun h => ?_
    have hsum := htie h
    constructor <;> intro h0 <;> linarith
  unfold round4
  rw [show ((n : ℚ) / 10000 + amount) * 10000 = n + amount * 10000 by ring, hround]
  push_cast
  ring

/-- **Rounding is not negative** from above minus half a unit on. -/
theorem round4_nonneg_iff {q : ℚ} : 0 ≤ round4 q ↔ -(1 / 20000) < q := by
  have hsign : 0 ≤ round4 q ↔ 0 ≤ roundHalfAway (q * 10000) := by
    unfold round4
    rw [le_div_iff₀ (by norm_num : (0 : ℚ) < 10000), zero_mul]
    exact Int.cast_nonneg_iff
  rw [hsign]
  unfold roundHalfAway
  split
  · next hq =>
    exact iff_of_true (Int.floor_nonneg.mpr (by linarith)) (by linarith)
  · rw [show 0 ≤ ⌈q * 10000 - 1 / 2⌉ ↔ -1 < ⌈q * 10000 - 1 / 2⌉ by omega, Int.lt_ceil]
    push_cast
    constructor <;> intro h <;> linarith
