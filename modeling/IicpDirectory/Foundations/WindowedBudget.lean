import Mathlib.Algebra.Order.Group.Defs
import Mathlib.Algebra.Order.Group.Int
import Mathlib.Order.Lattice

/-!
# A budget a window

Amounts are granted out of a budget that is renewed with every window. A
window opens with the first amount that is asked for when there is none, or
when the one there is has lasted its length; it remembers when it opened,
and what was granted in it. An opening is stamped with a coarser clock than
the one that is read.

Within a window no more than the budget is granted. An interval as long as
a window can meet three windows, but only two of them grant anything in it:
no more than two budgets are granted in an interval
(`Sliding.total_le`). The invariant behind it is `Sliding`.
-/

namespace WindowedBudget

/-- **The state of a window**: what was granted in it, and when it opened. -/
structure State (α : Type*) where
  spent : α
  start : Option ℤ

/-- **A clock that stamps**: a stamp lags by less than a window, and a window
that is over when the clock is read is over when it is stamped. -/
structure Stamps (stamp : ℤ → ℤ) (length : ℤ) : Prop where
  lt_stamp_add : ∀ t, t < stamp t + length
  le_stamp : ∀ u t, stamp u + length ≤ t → stamp u + length ≤ stamp t

variable {α : Type*} [AddCommGroup α] [LinearOrder α]
variable (budget : α) (stamp : ℤ → ℤ) (length : ℤ)

namespace State

variable (s : State α) (asked : α) (now : ℤ)

/-- The window is over, or there is none. -/
def expired : Bool := s.start.all (fun start => decide (start + length ≤ now))

/-- What was granted before, in the window an amount falls into. -/
def before : α := if s.expired length now then 0 else s.spent

/-- What is granted of an amount asked for. -/
def granted : α := if 0 < asked then min asked (max (budget - s.before length now) 0) else 0

/-- Whether a new window opens. -/
def opens : Bool := decide (0 < asked) && s.expired length now

/-- The window after an amount was asked for. -/
def next : State α :=
  if 0 < asked then
    ⟨s.before length now + s.granted budget length asked now,
      if s.expired length now then some (stamp now) else s.start⟩
  else s

end State

/-- **What is true of a window**: no more than the budget was granted, and
its opening was stamped. -/
structure Sound (s : State α) : Prop where
  nonneg : 0 ≤ s.spent
  spent_le : s.spent ≤ budget
  stamped : ∀ start ∈ s.start, ∃ t, start = stamp t

variable {budget stamp length} {s : State α} {asked : α} {now : ℤ}

theorem granted_nonneg : 0 ≤ s.granted budget length asked now := by
  unfold State.granted
  split
  · rename_i hasked
    exact le_min hasked.le (le_max_right _ _)
  · exact le_refl 0

theorem granted_le (hasked : 0 < asked) : s.granted budget length asked now ≤ asked := by
  unfold State.granted
  rw [if_pos hasked]
  exact min_le_left _ _

omit [AddCommGroup α] [LinearOrder α] in
/-- A window is over once it has lasted its length. -/
theorem expired_iff {start : ℤ} (hstart : s.start = some start) :
    s.expired length now = true ↔ start + length ≤ now := by
  unfold State.expired
  rw [hstart]
  exact decide_eq_true_iff

theorem before_le (h : Sound budget stamp s) (hbudget : 0 ≤ budget) :
    0 ≤ s.before length now ∧ s.before length now ≤ budget := by
  unfold State.before
  split
  · exact ⟨le_refl 0, hbudget⟩
  · exact ⟨h.nonneg, h.spent_le⟩

/-- **Within a window** what is granted adds up to what the window says. -/
theorem spent_next (hopens : s.opens length asked now = false) :
    (s.next budget stamp length asked now).spent
      = s.spent + s.granted budget length asked now := by
  unfold State.next
  split
  · rename_i hasked
    have hover : s.expired length now = false := by
      unfold State.opens at hopens
      rw [decide_eq_true hasked] at hopens
      exact hopens
    show s.before length now + _ = _
    unfold State.before
    rw [hover]
    rfl
  · rename_i hasked
    unfold State.granted
    rw [if_neg hasked, add_zero]

variable [IsOrderedAddMonoid α]

/-- What was granted before and what is granted now are within the budget. -/
theorem before_add_granted_le (h : Sound budget stamp s) (hbudget : 0 ≤ budget) :
    s.before length now + s.granted budget length asked now ≤ budget := by
  have hbefore : s.before length now ≤ budget := (before_le h hbudget).2
  unfold State.granted
  split
  · have hmin := min_le_right asked (max (budget - s.before length now) 0)
    rw [max_eq_left (sub_nonneg.mpr hbefore)] at hmin ⊢
    calc s.before length now + min asked (budget - s.before length now)
        ≤ s.before length now + (budget - s.before length now) := add_le_add_right hmin _
      _ = budget := add_sub_cancel _ _
  · rw [add_zero]
    exact hbefore

/-- **A window stays sound.** -/
theorem sound_next (h : Sound budget stamp s) (hbudget : 0 ≤ budget) :
    Sound budget stamp (s.next budget stamp length asked now) := by
  unfold State.next
  split
  · refine ⟨add_nonneg (before_le h hbudget).1 granted_nonneg,
      before_add_granted_le h hbudget, fun start hstart => ?_⟩
    show ∃ t, start = stamp t
    have hstart : start ∈ (if s.expired length now then some (stamp now) else s.start) := hstart
    split at hstart
    · exact ⟨now, (Option.some.inj hstart).symm⟩
    · exact h.stamped start hstart
  · exact h

/-- What is granted is part of what the window says afterwards. -/
theorem granted_le_spent (h : Sound budget stamp s) (hbudget : 0 ≤ budget) :
    s.granted budget length asked now ≤ (s.next budget stamp length asked now).spent := by
  unfold State.next
  split
  · exact le_add_of_nonneg_left (before_le h hbudget).1
  · rename_i hasked
    unfold State.granted
    rw [if_neg hasked]
    exact h.nonneg

/-! ## Intervals -/

/-- **What an interval was granted so far.** The interval begins at `from`
and is as long as a window. What is not of the window there is now was
carried from the one before; if anything was, the window opened within the
interval and outlasts it. And if anything was granted at all, there is a
window that goes on after the beginning of the interval. -/
def Sliding (budget : α) (length : ℤ) (begins : ℤ) (total : α) (s : State α) : Prop :=
  ∃ carried, 0 ≤ carried ∧ carried ≤ budget ∧ total ≤ carried + s.spent
    ∧ (carried = 0 ∨ ∃ start ∈ s.start, begins < start)
    ∧ (total ≤ 0 ∨ ∃ start ∈ s.start, begins < start + length)

omit [IsOrderedAddMonoid α] in
/-- At its beginning an interval was granted nothing. -/
theorem sliding_begin (h : Sound budget stamp s) (hbudget : 0 ≤ budget) (begins : ℤ) :
    Sliding budget length begins 0 s :=
  ⟨0, le_refl 0, hbudget, by rw [zero_add]; exact h.nonneg, Or.inl rfl, Or.inl (le_refl 0)⟩

/-- **An interval is granted two budgets at most.** -/
theorem Sliding.total_le {begins : ℤ} {total : α} (h : Sound budget stamp s)
    (hsliding : Sliding budget length begins total s) : total ≤ budget + budget := by
  obtain ⟨carried, _, hcarried, htotal, _⟩ := hsliding
  exact htotal.trans (add_le_add hcarried h.spent_le)

/-- A window opens within the interval. -/
theorem Sliding.open_window (hstamps : Stamps stamp length) {begins : ℤ} {total : α}
    (h : Sound budget stamp s) (hsliding : Sliding budget length begins total s)
    (hfrom : begins ≤ now) (hto : now ≤ begins + length) (hover : s.expired length now = true)
    (amount : α) : Sliding budget length begins (total + amount) ⟨amount, some (stamp now)⟩ := by
  obtain ⟨carried, _, _, htotal, hopened, hgoes⟩ := hsliding
  -- what is carried was carried into a window that outlasts the interval
  have hnone : carried = 0 := by
    rcases hopened with hzero | ⟨start, hstart, hbegins⟩
    · exact hzero
    · have := (expired_iff hstart).mp hover
      omega
  subst hnone
  rw [zero_add] at htotal
  have hlasts : begins < stamp now + length := by
    have := hstamps.lt_stamp_add now
    omega
  rcases hgoes with hzero | ⟨start, hstart, hbegins⟩
  · exact ⟨0, le_refl 0, h.nonneg.trans h.spent_le, add_le_add_left hzero amount, Or.inl rfl,
      Or.inr ⟨stamp now, rfl, hlasts⟩⟩
  · obtain ⟨t, rfl⟩ := h.stamped start hstart
    have hstamp := hstamps.le_stamp t now ((expired_iff hstart).mp hover)
    exact ⟨s.spent, h.nonneg, h.spent_le, add_le_add_left htotal amount,
      Or.inr ⟨stamp now, rfl, hbegins.trans_le hstamp⟩, Or.inr ⟨stamp now, rfl, hlasts⟩⟩

/-- **An amount asked for within the interval keeps the invariant.** -/
theorem Sliding.next (hstamps : Stamps stamp length) {begins : ℤ} {total : α}
    (h : Sound budget stamp s) (hsliding : Sliding budget length begins total s)
    (hfrom : begins ≤ now) (hto : now ≤ begins + length) (asked : α) :
    Sliding budget length begins (total + s.granted budget length asked now)
      (s.next budget stamp length asked now) := by
  by_cases hasked : 0 < asked
  · cases hover : s.expired length now with
    | true =>
      have hnext : s.next budget stamp length asked now
          = ⟨s.granted budget length asked now, some (stamp now)⟩ := by
        unfold State.next State.before
        rw [if_pos hasked, hover, if_pos rfl, if_pos rfl, zero_add]
      rw [hnext]
      exact hsliding.open_window hstamps h hfrom hto hover _
    | false =>
      have hnext : s.next budget stamp length asked now
          = ⟨s.spent + s.granted budget length asked now, s.start⟩ := by
        unfold State.next State.before
        rw [if_pos hasked, hover]
        rfl
      obtain ⟨carried, hnonneg, hcarried, htotal, hopened, _⟩ := hsliding
      rw [hnext]
      refine ⟨carried, hnonneg, hcarried, ?_, hopened, Or.inr ?_⟩
      · rw [← add_assoc]
        exact add_le_add_left htotal _
      · cases hstart : s.start with
        | none =>
          unfold State.expired at hover
          rw [hstart] at hover
          exact absurd hover (by simp)
        | some start =>
          have hlate : ¬ start + length ≤ now := fun hle =>
            absurd ((expired_iff hstart).mpr hle) (by rw [hover]; simp)
          exact ⟨start, rfl, by omega⟩
  · unfold State.next State.granted
    rw [if_neg hasked, if_neg hasked, add_zero]
    exact hsliding

/-! ## Runs -/

/-- What a run of askings, each with its time, is granted in an interval. -/
def grantedIn (budget : α) (stamp : ℤ → ℤ) (length begins : ℤ) : State α → List (α × ℤ) → α
  | _, [] => 0
  | s, (asked, now) :: rest =>
    (if begins ≤ now ∧ now ≤ begins + length then s.granted budget length asked now else 0)
      + grantedIn budget stamp length begins (s.next budget stamp length asked now) rest

omit [IsOrderedAddMonoid α] in
/-- After the interval nothing is granted in it. -/
theorem grantedIn_of_over {begins : ℤ} {asks : List (α × ℤ)}
    (hover : ∀ ask ∈ asks, begins + length < ask.2) :
    grantedIn budget stamp length begins s asks = 0 := by
  induction asks generalizing s with
  | nil => rfl
  | cons ask rest ih =>
    have hlate := hover ask List.mem_cons_self
    rw [grantedIn, if_neg (fun h => absurd h.2 (not_le.mpr hlate)), zero_add]
    exact ih fun a ha => hover a (List.mem_cons_of_mem ask ha)

/-- Within the interval the invariant bounds what is still to come. -/
theorem Sliding.add_grantedIn_le (hstamps : Stamps stamp length) (hbudget : 0 ≤ budget)
    {begins : ℤ} {total : α} {asks : List (α × ℤ)} (h : Sound budget stamp s)
    (hsliding : Sliding budget length begins total s) (hbegun : ∀ ask ∈ asks, begins ≤ ask.2)
    (hclock : asks.Pairwise fun a b => a.2 ≤ b.2) :
    total + grantedIn budget stamp length begins s asks ≤ budget + budget := by
  induction asks generalizing s total with
  | nil =>
    rw [grantedIn, add_zero]
    exact hsliding.total_le h
  | cons ask rest ih =>
    obtain ⟨asked, now⟩ := ask
    rw [List.pairwise_cons] at hclock
    by_cases hto : now ≤ begins + length
    · have hfrom : begins ≤ now := hbegun (asked, now) List.mem_cons_self
      rw [grantedIn, if_pos ⟨hfrom, hto⟩, ← add_assoc]
      exact ih (sound_next h hbudget) (hsliding.next hstamps h hfrom hto asked)
        (fun a ha => hbegun a (List.mem_cons_of_mem _ ha)) hclock.2
    · -- the interval is over, and the clock does not run back
      rw [grantedIn_of_over, add_zero]
      · exact hsliding.total_le h
      · intro a ha
        cases ha with
        | head => exact not_le.mp hto
        | tail _ ha => exact (not_le.mp hto).trans_le (hclock.1 a ha)

/-- **A run is granted two budgets at most in an interval as long as a
window**, if its clock never runs back. -/
theorem grantedIn_le (hstamps : Stamps stamp length) (hbudget : 0 ≤ budget) (begins : ℤ)
    {asks : List (α × ℤ)} (h : Sound budget stamp s)
    (hclock : asks.Pairwise fun a b => a.2 ≤ b.2) :
    grantedIn budget stamp length begins s asks ≤ budget + budget := by
  induction asks generalizing s with
  | nil => exact add_nonneg hbudget hbudget
  | cons ask rest ih =>
    obtain ⟨asked, now⟩ := ask
    by_cases hfrom : begins ≤ now
    · have hbegun : ∀ a ∈ (asked, now) :: rest, begins ≤ a.2 :=
        List.forall_mem_cons.mpr ⟨hfrom, fun a ha =>
          hfrom.trans ((List.pairwise_cons.mp hclock).1 a ha)⟩
      have hle := (sliding_begin h hbudget begins).add_grantedIn_le hstamps hbudget h hbegun hclock
      rwa [zero_add] at hle
    · rw [grantedIn, if_neg (fun h => hfrom h.1), zero_add]
      exact ih (sound_next h hbudget) (List.pairwise_cons.mp hclock).2

end WindowedBudget
