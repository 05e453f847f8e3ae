import IicpDirectory.Foundations.Brackets
import IicpDirectory.Foundations.Run
import Mathlib.Algebra.Order.Group.Unbundled.Int

/-!
# Founders

An operator that has run for thirty days and is healthy is locked in as a
founder: it gets the next ordinal, and with it a tier, which takes an ordinal
under the cap of the tier and a lock-in within its window after the genesis.
The badge is the tier, or inside the first tier the finest bracket of the
ordinal.

The ordinal counts the lock-ins before it, so what is assigned hangs on all
earlier decisions. If the clock never runs back, ordinals and times rise
together, and from that everything about a run follows (`LockedInOrder`,
`lockedInOrder_lockins`).
-/

/-- `i64::saturating_sub`. -/
def saturatingSub (a b : ℤ) : ℤ := max (-9223372036854775808) (min 9223372036854775807 (a - b))

/-- `MONTH_MS`: a month has thirty days. -/
def monthMs : ℤ := 30 * 24 * 60 * 60 * 1000

/-- `LOCKIN_MIN_AGE_MS`. -/
def Recognition.lockinMinAgeMs : ℤ := 30 * 24 * 60 * 60 * 1000

/-- A row of `TIERS`: the cap of the ordinal, the window of the lock-in, the
tier. -/
structure FounderTier where
  cap : ℕ
  window : ℤ
  tier : String

/-- `TIERS`, each within the next. -/
def founderTiers : List FounderTier :=
  [⟨50, 3 * monthMs, "genesis_50"⟩,
   ⟨500, 6 * monthMs, "founders_500"⟩,
   ⟨1000, 12 * monthMs, "founders_1000"⟩]

/-- A row of `INNER`. -/
structure InnerBracket where
  thresh : ℕ
  badge : String

/-- `INNER`: the brackets inside the first tier, the finest first. -/
def innerBrackets : List InnerBracket :=
  [⟨10, "first_10"⟩, ⟨20, "first_20"⟩, ⟨30, "first_30"⟩, ⟨50, "first_50"⟩]

/-- `LockinAssignment`. -/
structure LockinAssignment where
  ordinal : ℕ
  tier : String
  badge : String
  lockedAtMs : ℤ
  deriving DecidableEq

namespace FounderTier

/-- A tier takes both: the ordinal under the cap, and the lock-in within the
window. The pair is the ordinal and the time since the genesis. -/
def admits (x : ℕ × ℤ) (row : FounderTier) : Bool :=
  decide (x.1 ≤ row.cap) && decide (x.2 ≤ row.window)

end FounderTier

/-- `founder_tier`. -/
def founderTier (ordinal : ℕ) (lockedAtMs genesisMs : ℤ) : Option String :=
  if ordinal = 0 then none
  else
    (Brackets.first FounderTier.admits founderTiers
      (ordinal, saturatingSub lockedAtMs genesisMs)).map FounderTier.tier

/-- `founder_badge`. -/
def founderBadge (ordinal : ℕ) (lockedAtMs genesisMs : ℤ) : Option String := do
  let tier ← founderTier ordinal lockedAtMs genesisMs
  if tier = "genesis_50" then
    match Brackets.first (fun (o : ℕ) (row : InnerBracket) => decide (o ≤ row.thresh))
        innerBrackets ordinal with
    | some row => return row.badge
    | none => return tier
  else return tier

/-- `assign_ordinal`. -/
def assignOrdinal (priorLockinCount : ℕ) : ℕ := priorLockinCount + 1

/-- `is_lockin_eligible`. -/
def isLockinEligible (firstSeenMs nowMs : ℤ) (healthy : Bool) : Bool :=
  healthy && decide (Recognition.lockinMinAgeMs ≤ saturatingSub nowMs firstSeenMs)

/-- `decide_lockin`. -/
def decideLockin (firstSeenMs nowMs : ℤ) (healthy : Bool) (priorLockinCount : ℕ)
    (genesisMs : ℤ) : Option LockinAssignment := do
  guard (isLockinEligible firstSeenMs nowMs healthy)
  let ordinal := assignOrdinal priorLockinCount
  let tier ← founderTier ordinal nowMs genesisMs
  return {
    ordinal
    tier
    badge := (founderBadge ordinal nowMs genesisMs).getD tier
    lockedAtMs := nowMs }

/-! ## The tiers of one ordinal and one time -/

/-- How good a tier is: 0 is the best. -/
def tierRank (tier : String) : ℕ := Brackets.rank FounderTier.tier founderTiers tier

theorem le_of_saturatingSub_le {a b w : ℤ} (hw : w < 9223372036854775807)
    (h : saturatingSub a b ≤ w) : a - b ≤ w := by
  unfold saturatingSub at h
  omega

theorem saturatingSub_le_saturatingSub {a a' : ℤ} (b : ℤ) (h : a ≤ a') :
    saturatingSub a b ≤ saturatingSub a' b := by
  unfold saturatingSub
  omega

/-- What a tier says of the ordinal and of the time. -/
theorem of_founderTier {ordinal : ℕ} {lockedAtMs genesisMs : ℤ} {tier : String}
    (h : founderTier ordinal lockedAtMs genesisMs = some tier) :
    ∃ row ∈ founderTiers, row.tier = tier ∧ ordinal ≤ row.cap
      ∧ lockedAtMs - genesisMs ≤ row.window := by
  unfold founderTier at h
  split at h
  · contradiction
  · obtain ⟨row, hrow, rfl⟩ := Option.map_eq_some_iff.mp h
    obtain ⟨hmem, hadmits⟩ := Brackets.admits_of_first hrow
    unfold FounderTier.admits at hadmits
    rw [Bool.and_eq_true, decide_eq_true_eq, decide_eq_true_eq] at hadmits
    refine ⟨row, hmem, rfl, hadmits.1, le_of_saturatingSub_le ?_ hadmits.2⟩
    simp only [founderTiers, List.mem_cons, List.not_mem_nil, or_false] at hmem
    rcases hmem with rfl | rfl | rfl <;> decide

/-- **A lower ordinal at an earlier time has no worse a tier.** -/
theorem tierRank_le_tierRank {ordinal ordinal' : ℕ} {lockedAtMs lockedAtMs' genesisMs : ℤ}
    {tier tier' : String} (hordinal : ordinal ≤ ordinal') (htime : lockedAtMs ≤ lockedAtMs')
    (h : founderTier ordinal lockedAtMs genesisMs = some tier)
    (h' : founderTier ordinal' lockedAtMs' genesisMs = some tier') :
    tierRank tier ≤ tierRank tier' := by
  unfold founderTier at h h'
  split at h
  · contradiction
  split at h'
  · contradiction
  obtain ⟨row, hrow, rfl⟩ := Option.map_eq_some_iff.mp h
  obtain ⟨row', hrow', rfl⟩ := Option.map_eq_some_iff.mp h'
  refine Brackets.rank_le_rank (by decide) (fun d _ hd => ?_) hrow hrow'
  have helapsed := saturatingSub_le_saturatingSub genesisMs htime
  unfold FounderTier.admits at hd ⊢
  rw [Bool.and_eq_true, decide_eq_true_eq, decide_eq_true_eq] at hd ⊢
  exact ⟨hordinal.trans hd.1, helapsed.trans hd.2⟩

/-- A badge refines a tier: in the first tier it is the bracket with the least
threshold that covers the ordinal, elsewhere it is the tier. -/
def Refines (ordinal : ℕ) (badge tier : String) : Prop :=
  if tier = "genesis_50" then
    ∃ row ∈ innerBrackets, row.badge = badge ∧ ordinal ≤ row.thresh
      ∧ ∀ other ∈ innerBrackets, ordinal ≤ other.thresh → row.thresh ≤ other.thresh
  else badge = tier

theorem cap_genesis_50 {row : FounderTier} (hrow : row ∈ founderTiers)
    (h : row.tier = "genesis_50") : row.cap = 50 := by
  simp only [founderTiers, List.mem_cons, List.not_mem_nil, or_false] at hrow
  rcases hrow with rfl | rfl | rfl
  · rfl
  · exact absurd h (by decide)
  · exact absurd h (by decide)

theorem cap_founders_500 {row : FounderTier} (hrow : row ∈ founderTiers)
    (h : row.tier = "genesis_50" ∨ row.tier = "founders_500") : row.cap ≤ 500 := by
  simp only [founderTiers, List.mem_cons, List.not_mem_nil, or_false] at hrow
  rcases hrow with rfl | rfl | rfl
  · decide
  · decide
  · exact absurd h (by decide)

/-- Nothing is beyond the last tier. -/
theorem within_last_tier {row : FounderTier} (hrow : row ∈ founderTiers) :
    row.cap ≤ 1000 ∧ row.window ≤ 12 * monthMs := by
  simp only [founderTiers, List.mem_cons, List.not_mem_nil, or_false] at hrow
  rcases hrow with rfl | rfl | rfl <;> decide

theorem sorted_innerBrackets :
    innerBrackets.Pairwise fun row row' => row.thresh ≤ row'.thresh := by
  decide

/-- **The badge refines the tier.** -/
theorem refines_founderBadge {ordinal : ℕ} {lockedAtMs genesisMs : ℤ} {tier : String}
    (h : founderTier ordinal lockedAtMs genesisMs = some tier) :
    Refines ordinal ((founderBadge ordinal lockedAtMs genesisMs).getD tier) tier := by
  unfold Refines founderBadge
  rw [h]
  by_cases htier : tier = "genesis_50"
  · obtain ⟨row, hrow, hname, hcap, -⟩ := of_founderTier h
    have hlast : ordinal ≤ 50 := cap_genesis_50 hrow (hname.trans htier) ▸ hcap
    simp only [if_pos htier, Option.bind_eq_bind, Option.bind_some]
    cases hinner : Brackets.first (fun (o : ℕ) (row : InnerBracket) => decide (o ≤ row.thresh))
        innerBrackets ordinal with
    | none =>
      have hall := List.find?_eq_none.mp hinner ⟨50, "first_50"⟩ (by simp [innerBrackets])
      exact absurd (decide_eq_true hlast) hall
    | some row =>
      obtain ⟨hmem, hadmits⟩ := Brackets.admits_of_first hinner
      refine ⟨row, hmem, rfl, of_decide_eq_true hadmits, fun other hother hle => ?_⟩
      exact Brackets.threshold_le_of_first sorted_innerBrackets hinner hother (decide_eq_true hle)
  · simp only [if_neg htier, Option.bind_eq_bind, Option.bind_some]
    rfl

/-- What an assignment is. -/
theorem of_decideLockin {firstSeenMs nowMs genesisMs : ℤ} {healthy : Bool} {prior : ℕ}
    {a : LockinAssignment} (h : decideLockin firstSeenMs nowMs healthy prior genesisMs = some a) :
    a.ordinal = prior + 1 ∧ a.lockedAtMs = nowMs
      ∧ founderTier a.ordinal a.lockedAtMs genesisMs = some a.tier
      ∧ Refines a.ordinal a.badge a.tier := by
  unfold decideLockin at h
  simp only [Option.bind_eq_bind, Option.bind_eq_some_iff] at h
  obtain ⟨-, -, tier, htier, h⟩ := h
  cases h
  exact ⟨rfl, rfl, htier, refines_founderBadge htier⟩

/-! ## Runs of decisions -/

/-- What a call of `decide_lockin` is given, next to the count of the lock-ins
before it and the genesis. -/
structure LockinCall where
  firstSeenMs : ℤ
  nowMs : ℤ
  healthy : Bool

/-- A call, after so many assignments. -/
def lockinStep (genesisMs : ℤ) (assigned : List LockinAssignment) (call : LockinCall) :
    List LockinAssignment :=
  assigned ++ (decideLockin call.firstSeenMs call.nowMs call.healthy assigned.length
    genesisMs).toList

/-- The assignments of a run, in order. -/
def lockins (genesisMs : ℤ) (calls : List LockinCall) : List LockinAssignment :=
  Run.after (lockinStep genesisMs) [] calls

/-- **Assignments in order**: the ordinals count from 1, the times never run
back and are not after the latest, and every one is what its ordinal and its
time make of it. -/
structure LockedInOrder (genesisMs latest : ℤ) (assigned : List LockinAssignment) : Prop where
  ordinals : assigned.map LockinAssignment.ordinal = List.range' 1 assigned.length
  times : assigned.Pairwise fun a b => a.lockedAtMs ≤ b.lockedAtMs
  latest : ∀ a ∈ assigned, a.lockedAtMs ≤ latest
  tiers : ∀ a ∈ assigned, founderTier a.ordinal a.lockedAtMs genesisMs = some a.tier
  badges : ∀ a ∈ assigned, Refines a.ordinal a.badge a.tier

namespace LockedInOrder

variable {genesisMs latest : ℤ} {assigned : List LockinAssignment}

theorem nil : LockedInOrder genesisMs latest [] where
  ordinals := rfl
  times := List.Pairwise.nil
  latest _ h := absurd h List.not_mem_nil
  tiers _ h := absurd h List.not_mem_nil
  badges _ h := absurd h List.not_mem_nil

/-- **One call keeps the order**, if its clock is not before the latest. -/
theorem step (h : LockedInOrder genesisMs latest assigned) {call : LockinCall}
    (hclock : latest ≤ call.nowMs) :
    LockedInOrder genesisMs call.nowMs (lockinStep genesisMs assigned call) := by
  have hbefore : ∀ a ∈ assigned, a.lockedAtMs ≤ call.nowMs := fun a ha =>
    (h.latest a ha).trans hclock
  unfold lockinStep
  cases hdecided : decideLockin call.firstSeenMs call.nowMs call.healthy assigned.length
      genesisMs with
  | none =>
    rw [Option.toList_none, List.append_nil]
    exact { h with latest := hbefore }
  | some b =>
    obtain ⟨hordinal, htime, htier, hbadge⟩ := of_decideLockin hdecided
    rw [Option.toList_some]
    refine ⟨?_, ?_, ?_, ?_, ?_⟩
    · rw [List.map_append, h.ordinals, List.length_append, List.length_singleton,
        List.range'_concat, List.map_singleton, hordinal, Nat.one_mul, Nat.add_comm 1]
    · rw [List.pairwise_append]
      refine ⟨h.times, List.pairwise_singleton _ b, fun a ha c hc => ?_⟩
      rw [List.mem_singleton.mp hc, htime]
      exact hbefore a ha
    · rw [List.forall_mem_append, List.forall_mem_singleton]
      exact ⟨hbefore, htime.le⟩
    · rw [List.forall_mem_append, List.forall_mem_singleton]
      exact ⟨h.tiers, htier⟩
    · rw [List.forall_mem_append, List.forall_mem_singleton]
      exact ⟨h.badges, hbadge⟩

/-- **An assignment has a tier no worse than a later one.** -/
theorem tierRank_le (h : LockedInOrder genesisMs latest assigned) :
    assigned.Pairwise fun a b => tierRank a.tier ≤ tierRank b.tier := by
  have hboth := (Brackets.pairwise_lt_of_numbered h.ordinals).and h.times
  refine hboth.imp_of_mem fun {a b} ha hb hab => ?_
  exact tierRank_le_tierRank hab.1.le hab.2 (h.tiers a ha) (h.tiers b hb)

/-- **So many have a tier of a kind as its widest cap admits.** -/
theorem countP_le (h : LockedInOrder genesisMs latest assigned) (kind : String → Bool) (cap : ℕ)
    (hcap : ∀ row ∈ founderTiers, kind row.tier = true → row.cap ≤ cap) :
    assigned.countP (fun a => kind a.tier) ≤ cap := by
  refine Brackets.countP_le_of_numbered h.ordinals fun a ha hkind => ?_
  obtain ⟨row, hrow, hname, hordinal, -⟩ := of_founderTier (h.tiers a ha)
  rw [← hname] at hkind
  exact hordinal.trans (hcap row hrow hkind)

end LockedInOrder

/-- **A run in which the clock never runs back assigns in order.** -/
theorem lockedInOrder_after {genesisMs latest : ℤ} {assigned : List LockinAssignment}
    (h : LockedInOrder genesisMs latest assigned) {calls : List LockinCall}
    (hlatest : ∀ call ∈ calls, latest ≤ call.nowMs)
    (hclock : calls.Pairwise fun c d => c.nowMs ≤ d.nowMs) :
    ∃ last, LockedInOrder genesisMs last (Run.after (lockinStep genesisMs) assigned calls) := by
  induction calls generalizing assigned latest with
  | nil => exact ⟨latest, h⟩
  | cons call rest ih =>
    rw [List.pairwise_cons] at hclock
    exact ih (h.step (hlatest call List.mem_cons_self)) hclock.1 hclock.2

theorem lockedInOrder_lockins (genesisMs : ℤ) {calls : List LockinCall}
    (hclock : calls.Pairwise fun c d => c.nowMs ≤ d.nowMs) :
    ∃ last, LockedInOrder genesisMs last (lockins genesisMs calls) := by
  cases calls with
  | nil => exact ⟨0, LockedInOrder.nil⟩
  | cons call rest =>
    have hfirst : ∀ c ∈ call :: rest, call.nowMs ≤ c.nowMs :=
      List.forall_mem_cons.mpr ⟨le_rfl, (List.pairwise_cons.mp hclock).1⟩
    exact lockedInOrder_after LockedInOrder.nil hfirst hclock

/-- **The founders are locked in fairly.** In a run of decisions whose clock
never runs back the ordinals are 1, 2, 3, …, nothing is assigned after the
thousandth or after the twelve months, the caps of the tiers hold, no
assignment has a worse tier than a later one, and the badges refine the
tiers. -/
theorem lockins_fair (genesisMs : ℤ) (calls : List LockinCall)
    (hclock : calls.Pairwise fun c d => c.nowMs ≤ d.nowMs) :
    (lockins genesisMs calls).map LockinAssignment.ordinal
        = List.range' 1 (lockins genesisMs calls).length
      ∧ (∀ a ∈ lockins genesisMs calls,
        a.ordinal ≤ 1000 ∧ a.lockedAtMs - genesisMs ≤ 12 * monthMs)
      ∧ (lockins genesisMs calls).countP (fun a => a.tier == "genesis_50") ≤ 50
      ∧ (lockins genesisMs calls).countP
          (fun a => a.tier == "genesis_50" || a.tier == "founders_500") ≤ 500
      ∧ (lockins genesisMs calls).length ≤ 1000
      ∧ (lockins genesisMs calls).Pairwise (fun a b => tierRank a.tier ≤ tierRank b.tier)
      ∧ ∀ a ∈ lockins genesisMs calls, Refines a.ordinal a.badge a.tier := by
  obtain ⟨last, h⟩ := lockedInOrder_lockins genesisMs hclock
  refine ⟨h.ordinals, fun a ha => ?_, ?_, ?_, ?_, h.tierRank_le, h.badges⟩
  · obtain ⟨row, hrow, -, hordinal, helapsed⟩ := of_founderTier (h.tiers a ha)
    obtain ⟨hcap, hwindow⟩ := within_last_tier hrow
    exact ⟨hordinal.trans hcap, helapsed.trans hwindow⟩
  · have hcap := h.countP_le (fun t => t == "genesis_50") 50 fun row hrow hkind =>
      (cap_genesis_50 hrow (eq_of_beq hkind)).le
    exact hcap
  · have hcap := h.countP_le (fun t => t == "genesis_50" || t == "founders_500") 500
      fun row hrow hkind => by
        rw [Bool.or_eq_true, beq_iff_eq, beq_iff_eq] at hkind
        exact cap_founders_500 hrow hkind
    exact hcap
  · have hcap := h.countP_le (fun _ => true) 1000 fun row hrow _ =>
      (within_last_tier hrow).1
    rwa [List.countP_true] at hcap

theorem lockins_fair_run :
    (lockins 0 [⟨0, Recognition.lockinMinAgeMs, true⟩, ⟨0, 4 * monthMs, true⟩, ⟨0, 13 * monthMs, true⟩]).length
        = 2
      ∧ (lockins 0 [⟨0, Recognition.lockinMinAgeMs, true⟩, ⟨0, 4 * monthMs, true⟩,
          ⟨0, 13 * monthMs, true⟩]).Pairwise
        (fun a b => tierRank a.tier ≤ tierRank b.tier) :=
  ⟨by decide, (lockins_fair 0 _ (by decide)).2.2.2.2.2.1⟩
