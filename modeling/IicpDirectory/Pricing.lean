import IicpDirectory.MySqlRepo

/-!
# The bound on a declared price

A node may ask for more than the base price, up to three times a weight
that its largest model earns it. The size of a model is read from its name:
whatever number stands before a letter `b` counts, wherever it stands, and
a model whose name has none says nothing.

A number in a name is read as the nearest double. The arithmetic is exact,
as everywhere here.
-/

/-- The nearest double: 53 significant bits. Of the numbers out of its range
this keeps on which side of any size they are. -/
def toF64 (q : ℚ) : ℚ :=
  if q = 0 then 0
  else
    -- the exponent of the last place
    let e := Int.log 2 |q| - 52
    (roundHalfEven (q / 2 ^ e) : ℚ) * 2 ^ e

theorem roundHalfEven_le {q : ℚ} {n : ℤ} (h : q ≤ n) : roundHalfEven q ≤ n := by
  have hfloor : ⌊q⌋ ≤ n := Int.floor_le_iff.mpr (h.trans_lt (lt_add_one _))
  rcases hfloor.eq_or_lt with heq | hlt
  · have hq : q = n := le_antisymm h (heq ▸ Int.floor_le q)
    rw [hq, roundHalfEven_intCast]
  · unfold roundHalfEven
    split_ifs <;> omega

/-- Rounding does not lift a number over an integer of 24 bits. -/
theorem toF32_le {q : ℚ} {n : ℕ} (hn : n < 2 ^ 24) (hq : 0 ≤ q) (h : q ≤ n) : toF32 q ≤ n := by
  rcases hq.eq_or_lt with rfl | hpos
  · rw [toF32, if_pos rfl]
    exact Nat.cast_nonneg n
  · -- the last place of the number is not above the units
    obtain ⟨k, hk⟩ : ∃ k : ℕ, max (Int.log 2 |q| - 23) (-149) = -(k : ℤ) := by
      have hlog : Int.log 2 q ≤ Int.log 2 (n : ℚ) := Int.log_mono_right hpos h
      have hnat : Nat.log 2 n < 24 := Nat.log_lt_of_lt_pow (by
        rintro rfl
        exact absurd h (not_le.mpr (by simpa using hpos))) hn
      rw [Int.log_natCast] at hlog
      rw [abs_of_pos hpos]
      exact ⟨(-(max (Int.log 2 q - 23) (-149))).toNat, by omega⟩
    have hplace : (0 : ℚ) < 2 ^ (-(k : ℤ)) := zpow_pos two_pos _
    have hpower : (2 : ℚ) ^ k ≠ 0 := pow_ne_zero k two_ne_zero
    have hunits : q / 2 ^ (-(k : ℤ)) ≤ ((n * 2 ^ k : ℕ) : ℤ) := by
      rw [div_le_iff₀ hplace, zpow_neg, zpow_natCast]
      push_cast
      rwa [mul_assoc, mul_inv_cancel₀ hpower, mul_one]
    have hround := roundHalfEven_le hunits
    unfold toF32
    rw [if_neg hpos.ne', hk]
    dsimp only
    calc ((roundHalfEven (q / 2 ^ (-(k : ℤ))) : ℤ) : ℚ) * 2 ^ (-(k : ℤ))
        ≤ (((n * 2 ^ k : ℕ) : ℤ) : ℚ) * 2 ^ (-(k : ℤ)) :=
          mul_le_mul_of_nonneg_right (Int.cast_le.mpr hround) hplace.le
      _ = n := by
          rw [zpow_neg, zpow_natCast]
          push_cast
          rw [mul_assoc, mul_inv_cancel₀ hpower, mul_one]

namespace Pricing

/-- The number some digits write. -/
def digitsValue (digits : List Char) : ℕ :=
  digits.foldl (fun n c => n * 10 + (c.toNat - '0'.toNat)) 0

/-- A text of digits and points read as a double: at most one point, and a
digit somewhere. -/
def parseF64 (text : List Char) : Option ℚ :=
  match text.splitOn '.' with
  | [whole] => if whole.isEmpty then none else some (toF64 (digitsValue whole))
  | [whole, fraction] =>
    if whole.isEmpty && fraction.isEmpty then none
    else some (toF64 (digitsValue (whole ++ fraction) / 10 ^ fraction.length))
  | _ => none

/-- The digits and points a text ends with. -/
def numberBefore (before : List Char) : List Char :=
  (before.reverse.takeWhile (fun c => c.isDigit || c == '.')).reverse

/-- The sizes a model's name holds, from a point of it on. -/
def sizesFrom (before : List Char) : List Char → List ℚ
  | [] => []
  | c :: rest =>
    (if c == 'b' || c == 'B' then (parseF64 (numberBefore before)).toList else [])
      ++ sizesFrom (before ++ [c]) rest

/-- The largest size the names of the models hold. -/
def largestSize (models : List String) : Option ℚ :=
  (models.flatMap (fun model => sizesFrom [] model.toList)).max?

/-- **The weight of a size**, in steps. -/
def sizeWeight : Option ℚ → ℚ
  | none => 1
  | some size =>
    if size < 1 then 1 / 20
    else if size < 10 then 1
    else if size < 20 then 2
    else if size < 50 then 13 / 2
    else if size < 85 then 32
    else 75

/-- `pricing_multiplier`. -/
def pricingMultiplier (models : List String) (declared : ℚ) : ℚ :=
  min declared (sizeWeight (largestSize models) * 3)

/-- `PRICING_MODELS`. -/
def pricingModels : List String := ["per_token", "per_request", "flat"]

/-- `valid_pricing`. -/
def validPricing (multiplier : ℚ) (model : String) : Bool :=
  decide (0 ≤ multiplier ∧ multiplier ≤ 1000) && pricingModels.contains model

/-- `bounded_pricing`: what is not declared is the base price. -/
def boundedPricing (models : List String) (declared : Option ℚ) : ℚ :=
  declared.elim 1 (pricingMultiplier models)

/-- **The most a node may ask for**, of the models it advertises. -/
def ceiling (models : List String) : ℚ := sizeWeight (largestSize models) * 3

/-- A model is of full weight when no size is known of it, or one of at
least one billion. -/
def FullSized (models : List String) : Prop := ∀ size ∈ largestSize models, 1 ≤ size

theorem one_le_sizeWeight_iff (size : Option ℚ) :
    1 ≤ sizeWeight size ↔ ∀ s ∈ size, 1 ≤ s := by
  cases size with
  | none => exact ⟨fun _ s hs => absurd hs (by simp), fun _ => le_refl 1⟩
  | some s =>
    simp only [Option.mem_some_iff, forall_eq']
    simp only [sizeWeight]
    by_cases hs : s < 1
    · rw [if_pos hs]
      constructor
      · intro h
        norm_num at h
      · intro h
        exact absurd hs (not_lt.mpr h)
    · rw [if_neg hs]
      refine ⟨fun _ => not_lt.mp hs, fun _ => ?_⟩
      split_ifs <;> norm_num

/-- The weight of a small model is below a third. -/
theorem sizeWeight_of_lt {size : Option ℚ} (h : sizeWeight size < 1) :
    sizeWeight size = 1 / 20 := by
  cases size with
  | none => exact absurd h (lt_irrefl 1)
  | some s =>
    simp only [sizeWeight] at h ⊢
    split_ifs at h ⊢ with hs
    · rfl
    all_goals norm_num at h

/-- The largest size is that of the models, in whatever order. -/
theorem largestSize_perm {models models' : List String} (h : models.Perm models') :
    largestSize models = largestSize models' := by
  unfold largestSize
  have hperm := h.flatMap_right (fun model => sizesFrom [] model.toList)
  generalize models.flatMap (fun model => sizesFrom [] model.toList) = sizes at hperm
  generalize models'.flatMap (fun model => sizesFrom [] model.toList) = sizes' at hperm
  cases hmax : sizes.max? with
  | none =>
    obtain rfl := List.max?_eq_none_iff.mp hmax
    obtain rfl := hperm.nil_eq
    rfl
  | some size =>
    obtain ⟨hmem, hle⟩ := List.max?_eq_some_iff.mp hmax
    exact (List.max?_eq_some_iff.mpr
      ⟨hperm.mem_iff.mp hmem, fun other hother => hle other (hperm.mem_iff.mpr hother)⟩).symm

theorem boundedPricing_perm {models models' : List String} (h : models.Perm models')
    (declared : Option ℚ) : boundedPricing models declared = boundedPricing models' declared := by
  cases declared with
  | none => rfl
  | some d =>
    show min d (sizeWeight (largestSize models) * 3) = min d (sizeWeight (largestSize models') * 3)
    rw [largestSize_perm h]

/-- **When the price of a registration is within the ceiling**: one was
declared, or the models are of full weight. -/
theorem boundedPricing_le_ceiling_iff (models : List String) (declared : Option ℚ) :
    boundedPricing models declared ≤ ceiling models ↔ declared.isSome ∨ FullSized models := by
  cases declared with
  | some d => exact ⟨fun _ => Or.inl rfl, fun _ => min_le_right _ _⟩
  | none =>
    show 1 ≤ sizeWeight (largestSize models) * 3 ↔ _
    rw [Option.isSome_none, or_iff_right Bool.false_ne_true]
    constructor
    · intro hle
      by_contra hsmall
      have hweight := sizeWeight_of_lt
        (not_le.mp fun h => hsmall ((one_le_sizeWeight_iff _).mp h))
      rw [hweight] at hle
      norm_num at hle
    · intro hfull
      have hweight := (one_le_sizeWeight_iff (largestSize models)).mpr hfull
      linarith

/-- **When a price is the base price**: none was declared, or the base price
itself, for models of full weight. -/
theorem boundedPricing_eq_one_iff (models : List String) (declared : Option ℚ) :
    boundedPricing models declared = 1 ↔ ∀ d ∈ declared, d = 1 ∧ FullSized models := by
  cases declared with
  | none => exact ⟨fun _ d hd => absurd hd (by simp), fun _ => rfl⟩
  | some d =>
    simp only [Option.mem_some_iff, forall_eq']
    show min d (sizeWeight (largestSize models) * 3) = 1 ↔ _
    by_cases hfull : FullSized models
    · have hweight := (one_le_sizeWeight_iff (largestSize models)).mpr hfull
      have hthree : 1 < sizeWeight (largestSize models) * 3 := by linarith
      constructor
      · intro hmin
        rcases min_choice d (sizeWeight (largestSize models) * 3) with h | h
        · exact ⟨h.symm.trans hmin, hfull⟩
        · exact absurd (h.symm.trans hmin) hthree.ne'
      · rintro ⟨rfl, _⟩
        exact min_eq_left hthree.le
    · refine ⟨fun hmin => ?_, fun h => absurd h.2 hfull⟩
      have hsmall : sizeWeight (largestSize models) < 1 :=
        not_le.mp fun h => hfull ((one_le_sizeWeight_iff _).mp h)
      have hle := min_le_right d (sizeWeight (largestSize models) * 3)
      rw [hmin, sizeWeight_of_lt hsmall] at hle
      norm_num at hle

example : largestSize ["qwen2.5-0.5b", "llama-3.1-8B"] = some 8 := by decide +kernel

end Pricing
