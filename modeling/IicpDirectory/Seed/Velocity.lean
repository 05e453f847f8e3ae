import IicpDirectory.Foundations.WindowedBudget
import IicpDirectory.Seed.Heartbeats

/-!
# How fast a reputation rises

A heartbeat asks for a change of the reputation, a gain of a tenth at most,
and over MySQL it is granted as much as the hour still has room for: a fifth
in a window of an hour, which opens with a gain and is forgotten with the
first gain after its end. So in an interval of an hour a reputation rises by
two fifths at most (`reputation_bounds`).

The arithmetic is exact here. What the columns keep is what it comes to,
rounded (`heartbeatRow_eq`). A heartbeat has the row locked from the reading
of the clock to its commit, and takes no time.
-/

namespace MySqlRepo

open WindowedBudget

/-- The hourly window of a row. -/
def windowOf (row : NodeRow) : State ℚ := ⟨row.repHourlyGain, row.repHourlyWindowStartMs⟩

/-- What a heartbeat asks of a row: nothing, where its metrics were counted
before. -/
def asked (row : NodeRow) (req : HeartbeatRequest) : ℚ :=
  if metricsApplied row req then req.delta else 0

/-- The change a heartbeat makes of the reputation, before it is clamped. -/
def effectiveDelta (row : NodeRow) (req : HeartbeatRequest) (nowMs : ℤ) : ℚ :=
  (hourlyCapped row (asked row req) nowMs).1

/-- Whether a heartbeat resets the window of a row. -/
def resetsWindow (row : NodeRow) (req : HeartbeatRequest) (nowMs : ℤ) : Bool :=
  (hourlyCapped row (asked row req) nowMs).2.2

/-- **The row a heartbeat leaves, in exact arithmetic**: its score and its
gain of the hour are not rounded. -/
def exactRow (row : NodeRow) (req : HeartbeatRequest) (nowMs : ℤ) : NodeRow :=
  { heartbeatRow row req nowMs with
    reputationScore := newScore row req nowMs
    repHourlyGain := (hourlyCapped row (asked row req) nowMs).2.1 }

/-- **The tables keep the exact row, rounded.** -/
theorem heartbeatRow_eq (row : NodeRow) (req : HeartbeatRequest) (nowMs : ℤ) :
    heartbeatRow row req nowMs
      = { exactRow row req nowMs with
          reputationScore := toF32 (exactRow row req nowMs).reputationScore
          repHourlyGain := round4 (toF32 (exactRow row req nowMs).repHourlyGain) } := rfl

/-- A heartbeat, in exact arithmetic. -/
def exactHeartbeat {fold : String → String} (repo : MySqlRepo fold) (req : HeartbeatRequest)
    (nowMs : ℤ) : MySqlRepo fold :=
  { repo with
    nodes := repo.nodes.update (fold req.nodeId) (fun r => exactRow r req nowMs) (fun _ => rfl) }

theorem find_exactHeartbeat {fold : String → String} (repo : MySqlRepo fold)
    (req : HeartbeatRequest) (nowMs : ℤ) (nodeId : String) :
    (repo.exactHeartbeat req nowMs).find nodeId
      = if fold nodeId = fold req.nodeId then
          (repo.find nodeId).map (fun r => exactRow r req nowMs)
        else repo.find nodeId := by
  have hkey : ∀ r : NodeRow, fold (exactRow r req nowMs).id = fold r.id := fun _ => rfl
  exact Table.find_update repo.nodes (fold req.nodeId) (fold nodeId) hkey

/-- **What the tables keep of a heartbeat** is the exact row, rounded. -/
theorem find_heartbeatOnce_exact {fold : String → String} {repo repo' : MySqlRepo fold}
    {req : HeartbeatRequest} {nowMs : ℤ} {row : NodeRow}
    (h : repo.heartbeatOnce req nowMs = some (row, repo')) (nodeId : String) :
    repo'.find nodeId
      = if fold nodeId = fold req.nodeId then
          ((repo.exactHeartbeat req nowMs).find nodeId).map (fun r =>
            { r with
              reputationScore := toF32 r.reputationScore
              repHourlyGain := round4 (toF32 r.repHourlyGain) })
        else (repo.exactHeartbeat req nowMs).find nodeId := by
  rw [(find_heartbeatOnce h nodeId).2, find_exactHeartbeat]
  split
  · rw [Option.map_map]
    rfl
  · rfl

/-! ## The cap is a budget a window -/

/-- An hour, in milliseconds. -/
def hourMs : ℤ := 3600000

theorem stamps_wholeSeconds : Stamps wholeSeconds hourMs where
  lt_stamp_add := by
    intro t
    unfold wholeSeconds hourMs
    omega
  le_stamp := by
    intro u t h
    unfold wholeSeconds hourMs at *
    omega

/-- **The hourly cap is a budget of a fifth a window.** -/
theorem hourlyCapped_eq (row : NodeRow) (delta : ℚ) (nowMs : ℤ) :
    hourlyCapped row delta nowMs
      = (if 0 < delta then (windowOf row).granted (1 / 5) hourMs delta nowMs else delta,
          ((windowOf row).next (1 / 5) wholeSeconds hourMs delta nowMs).spent,
          (windowOf row).opens hourMs delta nowMs) := by
  have hover : row.repHourlyWindowStartMs.all (fun start => 3600 ≤ (nowMs - start) / 1000)
      = (windowOf row).expired hourMs nowMs := by
    unfold State.expired windowOf
    refine congrArg (fun p => Option.all p row.repHourlyWindowStartMs) (funext fun start => ?_)
    refine decide_eq_decide.mpr ?_
    unfold hourMs
    omega
  have hnone : row.repHourlyWindowStartMs.isNone = true →
      (windowOf row).expired hourMs nowMs = true := by
    intro h
    unfold State.expired windowOf
    rw [Option.isNone_iff_eq_none.mp h]
    rfl
  have hopens : ((windowOf row).expired hourMs nowMs || row.repHourlyWindowStartMs.isNone)
      = (windowOf row).expired hourMs nowMs := by
    cases hstart : row.repHourlyWindowStartMs.isNone with
    | false => exact Bool.or_false _
    | true => rw [hnone hstart, Bool.or_true]
  unfold hourlyCapped
  rw [hover]
  by_cases hdelta : 0 < delta
  · unfold State.next State.opens State.granted State.before
    rw [if_pos hdelta, if_pos hdelta, if_pos hdelta, if_pos hdelta, decide_eq_true hdelta,
      Bool.true_and]
    dsimp only
    rw [hopens]
    rfl
  · unfold State.next State.opens
    rw [if_neg hdelta, if_neg hdelta, if_neg hdelta, decide_eq_false hdelta, Bool.false_and]
    rfl

/-- The window of the row a heartbeat leaves. -/
theorem windowOf_exactRow (row : NodeRow) (req : HeartbeatRequest) (nowMs : ℤ) :
    windowOf (exactRow row req nowMs)
      = (windowOf row).next (1 / 5) wholeSeconds hourMs (asked row req) nowMs := by
  show (⟨(hourlyCapped row (asked row req) nowMs).2.1,
    if (hourlyCapped row (asked row req) nowMs).2.2 then some (wholeSeconds nowMs)
      else row.repHourlyWindowStartMs⟩ : State ℚ) = _
  rw [hourlyCapped_eq]
  unfold State.next State.opens
  by_cases hasked : 0 < asked row req
  · simp only [if_pos hasked, decide_eq_true hasked, Bool.true_and]
    rfl
  · simp only [if_neg hasked, decide_eq_false hasked, Bool.false_and]
    rfl

/-- The gain that is granted to a heartbeat. -/
def granted (row : NodeRow) (req : HeartbeatRequest) (nowMs : ℤ) : ℚ :=
  max (effectiveDelta row req nowMs) 0

theorem granted_eq (row : NodeRow) (req : HeartbeatRequest) (nowMs : ℤ) :
    granted row req nowMs = (windowOf row).granted (1 / 5) hourMs (asked row req) nowMs := by
  unfold granted effectiveDelta
  rw [hourlyCapped_eq]
  by_cases hasked : 0 < asked row req
  · show max (if 0 < asked row req then _ else _) 0 = _
    rw [if_pos hasked, max_eq_left granted_nonneg]
  · show max (if 0 < asked row req then _ else _) 0 = _
    rw [if_neg hasked, max_eq_right (not_lt.mp hasked), State.granted, if_neg hasked]

/-- A heartbeat asks for a gain of a tenth at most. -/
theorem asked_le (row : NodeRow) (req : HeartbeatRequest) : asked row req ≤ 1 / 10 := by
  unfold asked HeartbeatRequest.delta computeDelta
  split
  · dsimp only
    split
    · exact le_refl _
    · exact not_lt.mp ‹_›
  · norm_num

theorem granted_le_tenth (row : NodeRow) (req : HeartbeatRequest) (nowMs : ℤ) :
    granted row req nowMs ≤ 1 / 10 := by
  rw [granted_eq]
  by_cases hasked : 0 < asked row req
  · exact (granted_le hasked).trans (asked_le row req)
  · rw [State.granted, if_neg hasked]
    norm_num

/-- **The score a heartbeat leaves** is in the unit interval, and has risen by
what was granted at most. -/
theorem newScore_bounds {row : NodeRow} (h : 0 ≤ row.reputationScore) (req : HeartbeatRequest)
    (nowMs : ℤ) :
    (0 ≤ newScore row req nowMs ∧ newScore row req nowMs ≤ 1)
      ∧ newScore row req nowMs ≤ row.reputationScore + granted row req nowMs := by
  have hgranted : effectiveDelta row req nowMs ≤ granted row req nowMs := le_max_left _ _
  have hnonneg : 0 ≤ granted row req nowMs := le_max_right _ _
  show (0 ≤ max 0 (min (row.reputationScore + effectiveDelta row req nowMs) 1)
    ∧ max 0 (min (row.reputationScore + effectiveDelta row req nowMs) 1) ≤ 1)
      ∧ max 0 (min (row.reputationScore + effectiveDelta row req nowMs) 1) ≤ _
  refine ⟨⟨le_max_left _ _, max_le zero_le_one (min_le_right _ _)⟩, max_le ?_ ?_⟩
  · exact add_nonneg h hnonneg
  · exact (min_le_left _ _).trans (by linarith)

/-! ## What is true of a row -/

/-- **The reputation of a row is sound**: its score is in the unit interval
and its window is sound. -/
structure SoundReputation (row : NodeRow) : Prop where
  nonneg : 0 ≤ row.reputationScore
  le_one : row.reputationScore ≤ 1
  window : Sound (1 / 5) wholeSeconds (windowOf row)

theorem soundReputation_newRow (rec : NodeRecord) (model : String) :
    SoundReputation (newRow rec model) where
  nonneg := by
    show 0 ≤ toF32 (1 / 2)
    rw [toF32_half]
    norm_num
  le_one := by
    show toF32 (1 / 2) ≤ 1
    rw [toF32_half]
    norm_num
  window := ⟨le_refl 0, by show (0 : ℚ) ≤ 1 / 5; norm_num, fun _ h => absurd h (by simp [windowOf, newRow])⟩

theorem soundReputation_exactRow {row : NodeRow} (h : SoundReputation row)
    (req : HeartbeatRequest) (nowMs : ℤ) : SoundReputation (exactRow row req nowMs) where
  nonneg := (newScore_bounds h.nonneg req nowMs).1.1
  le_one := (newScore_bounds h.nonneg req nowMs).1.2
  window := by
    rw [windowOf_exactRow]
    exact sound_next h.window (by norm_num)

end MySqlRepo

/-! ## Runs -/

namespace Velocity

open MySqlRepo WindowedBudget Heartbeats

/-- The tables, and the time. -/
structure Clocked (fold : String → String) where
  repo : MySqlRepo fold
  nowMs : ℤ

/-- What is done to the rows of the nodes. -/
inductive Operation
  | register (p : PendingRegistration)
  | deregister (nodeId : String)
  | heartbeat (req : HeartbeatRequest)

/-- An operation, and how long after the one before it comes. -/
structure Action where
  advanceMs : ℕ
  operation : Operation

/-- A heartbeat, and how long after the operation before it comes. -/
structure Beat where
  advanceMs : ℕ
  req : HeartbeatRequest

variable {fold : String → String}

/-- What an operation leaves. -/
def perform (repo : MySqlRepo fold) (nowMs : ℤ) : Operation → MySqlRepo fold
  | .register p => repo.registered p
  | .deregister nodeId => (repo.deregister nodeId).2
  | .heartbeat req => repo.exactHeartbeat req nowMs

/-- **The clock advances, and an operation is performed.** -/
def step (s : Clocked fold) (a : Action) : Clocked fold :=
  ⟨perform s.repo (s.nowMs + a.advanceMs) a.operation, s.nowMs + a.advanceMs⟩

/-- A heartbeat. -/
def beat (s : Clocked fold) (b : Beat) : Clocked fold := step s ⟨b.advanceMs, .heartbeat b.req⟩

/-- The gain a heartbeat is granted for a node. -/
def gainOf (nodeId : String) (s : Clocked fold) (b : Beat) : ℚ :=
  if named fold nodeId b.req.nodeId then
    (s.repo.find nodeId).elim 0 (fun row => granted row b.req (s.nowMs + b.advanceMs))
  else 0

/-- Whether a heartbeat resets the window of a node. -/
def resets (nodeId : String) (s : Clocked fold) (b : Beat) : Bool :=
  named fold nodeId b.req.nodeId
    && (s.repo.find nodeId).any (fun row => resetsWindow row b.req (s.nowMs + b.advanceMs))

/-- **The gains a node is granted in a run of heartbeats**, together. -/
def gains (nodeId : String) : Clocked fold → List Beat → ℚ
  | _, [] => 0
  | s, b :: rest => gainOf nodeId s b + gains nodeId (beat s b) rest

/-- The tables in which every reputation is sound. -/
def Inv (s : Clocked fold) : Prop :=
  ∀ nodeId row, s.repo.find nodeId = some row → SoundReputation row

/-- **What a heartbeat does to the row of a node**: it leaves the exact row,
or it is of another node and leaves the row. -/
theorem beat_cases {s : Clocked fold} {nodeId : String} {row : NodeRow}
    (hrow : s.repo.find nodeId = some row) (b : Beat) :
    (beat s b).repo.find nodeId = some (exactRow row b.req (s.nowMs + b.advanceMs))
        ∧ gainOf nodeId s b = granted row b.req (s.nowMs + b.advanceMs)
        ∧ resets nodeId s b = resetsWindow row b.req (s.nowMs + b.advanceMs)
      ∨ (beat s b).repo.find nodeId = some row
        ∧ gainOf nodeId s b = 0 ∧ resets nodeId s b = false := by
  have hfind : (beat s b).repo.find nodeId = _ := find_exactHeartbeat s.repo b.req _ nodeId
  unfold gainOf resets
  rw [hfind, hrow]
  by_cases hnode : fold nodeId = fold b.req.nodeId
  · left
    have hnamed : named fold nodeId b.req.nodeId = true := decide_eq_true hnode
    rw [if_pos hnode, hnamed]
    exact ⟨rfl, rfl, rfl⟩
  · right
    have hnamed : named fold nodeId b.req.nodeId = false := decide_eq_false hnode
    rw [if_neg hnode, hnamed]
    exact ⟨rfl, rfl, rfl⟩

/-- **Every operation keeps the reputations sound.** -/
theorem inv_step (s : Clocked fold) (a : Action) (h : Inv s) : Inv (step s a) := by
  intro nodeId row hrow
  obtain ⟨advanceMs, operation⟩ := a
  cases operation with
  | register p =>
    replace hrow : (s.repo.registered p).find nodeId = some row := hrow
    rw [find_registered] at hrow
    split at hrow
    · -- the row is new, or the one that was there with its reputation
      cases hold : s.repo.find p.nodeId with
      | none =>
        rw [hold] at hrow
        obtain rfl := Option.some.inj hrow
        exact soundReputation_newRow p.record _
      | some old =>
        rw [hold] at hrow
        obtain rfl := Option.some.inj hrow
        have hsound := h p.nodeId old hold
        exact ⟨hsound.nonneg, hsound.le_one, hsound.window⟩
    · exact h nodeId row hrow
  | deregister removed =>
    replace hrow : (s.repo.deregister removed).2.find nodeId = some row := hrow
    rw [find_deregister] at hrow
    split at hrow
    · exact absurd hrow (by simp)
    · exact h nodeId row hrow
  | heartbeat req =>
    replace hrow : (s.repo.exactHeartbeat req (s.nowMs + advanceMs)).find nodeId = some row := hrow
    rw [find_exactHeartbeat] at hrow
    split at hrow
    · obtain ⟨old, hold, rfl⟩ := Option.map_eq_some_iff.mp hrow
      exact soundReputation_exactRow (h nodeId old hold) req _
    · exact h nodeId row hrow

theorem inv_empty (startMs : ℤ) : Inv (⟨.empty fold, startMs⟩ : Clocked fold) := by
  intro nodeId row hrow
  exact absurd hrow (by simp [MySqlRepo.find, MySqlRepo.empty])

/-- A run starts with empty tables. -/
abbrev reached (fold : String → String) (startMs : ℤ) (before : List Action) : Clocked fold :=
  Run.after step ⟨.empty fold, startMs⟩ before

theorem inv_reached (startMs : ℤ) (before : List Action) : Inv (reached fold startMs before) :=
  Run.invariant inv_step (inv_empty startMs) before

theorem nowMs_le_after (s : Clocked fold) (beats : List Beat) :
    s.nowMs ≤ (Run.after beat s beats).nowMs := by
  induction beats generalizing s with
  | nil => exact le_refl _
  | cons b rest ih =>
    have hstep : s.nowMs ≤ (beat s b).nowMs := by
      show s.nowMs ≤ s.nowMs + b.advanceMs
      omega
    exact hstep.trans (ih (beat s b))

/-! ### One heartbeat -/

section OneBeat

variable {s : Clocked fold} {nodeId : String} {row row' : NodeRow}

/-- **One heartbeat** raises a score by what it is granted, a tenth at
most. -/
theorem score_beat_le (h : SoundReputation row) (hrow : s.repo.find nodeId = some row) (b : Beat)
    (hrow' : (beat s b).repo.find nodeId = some row') :
    row'.reputationScore ≤ row.reputationScore + gainOf nodeId s b
      ∧ gainOf nodeId s b ≤ 1 / 10 := by
  rcases beat_cases hrow b with ⟨hfind, hgain, _⟩ | ⟨hfind, hgain, _⟩
  · obtain rfl := Option.some.inj (hfind.symm.trans hrow')
    rw [hgain]
    exact ⟨(newScore_bounds h.nonneg b.req _).2, granted_le_tenth row b.req _⟩
  · obtain rfl := Option.some.inj (hfind.symm.trans hrow')
    rw [hgain]
    exact ⟨by rw [add_zero], by norm_num⟩

/-- **A window is reset when it has lasted an hour.** -/
theorem hour_le_of_resets (hrow : s.repo.find nodeId = some row) {b : Beat} {start : ℤ}
    (hstart : row.repHourlyWindowStartMs = some start) (hresets : resets nodeId s b = true) :
    start + hourMs ≤ s.nowMs + b.advanceMs := by
  rcases beat_cases hrow b with ⟨_, _, hreset⟩ | ⟨_, _, hreset⟩
  · rw [hreset] at hresets
    unfold resetsWindow at hresets
    rw [hourlyCapped_eq] at hresets
    have hopens : (windowOf row).opens hourMs (asked row b.req) (s.nowMs + b.advanceMs) = true :=
      hresets
    unfold State.opens at hopens
    rw [Bool.and_eq_true] at hopens
    exact (expired_iff (show (windowOf row).start = some start from hstart)).mp hopens.2
  · exact absurd hresets (by rw [hreset]; exact Bool.false_ne_true)

end OneBeat

/-! ### A window -/

/-- What a heartbeat is granted is part of the gain of the window then. -/
theorem gainOf_le_spent {s : Clocked fold} {nodeId : String} {row row' : NodeRow}
    (h : SoundReputation row) (hrow : s.repo.find nodeId = some row) (b : Beat)
    (hrow' : (beat s b).repo.find nodeId = some row') :
    gainOf nodeId s b ≤ row'.repHourlyGain := by
  rcases beat_cases hrow b with ⟨hfind, hgain, _⟩ | ⟨hfind, hgain, _⟩
  · obtain rfl := Option.some.inj (hfind.symm.trans hrow')
    rw [hgain, granted_eq]
    show _ ≤ (windowOf (exactRow row b.req _)).spent
    rw [windowOf_exactRow]
    exact granted_le_spent h.window (by norm_num)
  · obtain rfl := Option.some.inj (hfind.symm.trans hrow')
    rw [hgain]
    exact h.window.nonneg

/-- **While no window is reset**, the gains of a run add to the gain of the
window. -/
theorem gains_of_not_resets {s : Clocked fold} {nodeId : String} {row : NodeRow}
    (hinv : Inv s) (hrow : s.repo.find nodeId = some row) {beats : List Beat}
    (hkept : Run.Along beat (fun s b => resets nodeId s b = false) s beats) :
    row.repHourlyGain + gains nodeId s beats ≤ 1 / 5 := by
  induction beats generalizing s row with
  | nil =>
    rw [gains, add_zero]
    exact (hinv nodeId row hrow).window.spent_le
  | cons b rest ih =>
    have hnext := inv_step s ⟨b.advanceMs, .heartbeat b.req⟩ hinv
    rw [gains, ← add_assoc]
    rcases beat_cases hrow b with ⟨hfind, hgain, hreset⟩ | ⟨hfind, hgain, _⟩
    · have hspent : (exactRow row b.req (s.nowMs + b.advanceMs)).repHourlyGain
          = row.repHourlyGain + gainOf nodeId s b := by
        have hopens : (windowOf row).opens hourMs (asked row b.req) (s.nowMs + b.advanceMs)
            = false := by
          have hnot := hreset.symm.trans hkept.1
          unfold resetsWindow at hnot
          rw [hourlyCapped_eq] at hnot
          exact hnot
        show (windowOf (exactRow row b.req _)).spent = _
        rw [windowOf_exactRow, spent_next hopens, hgain, granted_eq]
        rfl
      rw [← hspent]
      exact ih hnext hfind hkept.2
    · rw [hgain, add_zero]
      exact ih hnext hfind hkept.2

/-! ### An interval -/

/-- **A heartbeat within an interval keeps what is known of its gains.** -/
theorem sliding_beat {s : Clocked fold} {nodeId : String} {row : NodeRow} (hinv : Inv s)
    (hrow : s.repo.find nodeId = some row) {begins : ℤ} {total : ℚ}
    (hsliding : Sliding (1 / 5) hourMs begins total (windowOf row)) (b : Beat)
    (hfrom : begins ≤ (beat s b).nowMs) (hto : (beat s b).nowMs ≤ begins + hourMs) :
    ∃ row', (beat s b).repo.find nodeId = some row'
      ∧ row'.reputationScore ≤ row.reputationScore + gainOf nodeId s b
      ∧ Sliding (1 / 5) hourMs begins (total + gainOf nodeId s b) (windowOf row') := by
  have hsound := hinv nodeId row hrow
  rcases beat_cases hrow b with ⟨hfind, hgain, _⟩ | ⟨hfind, hgain, _⟩
  · refine ⟨_, hfind, (score_beat_le hsound hrow b hfind).1, ?_⟩
    rw [hgain, granted_eq, windowOf_exactRow]
    exact hsliding.next stamps_wholeSeconds hsound.window hfrom hto (asked row b.req)
  · refine ⟨row, hfind, (score_beat_le hsound hrow b hfind).1, ?_⟩
    rw [hgain, add_zero]
    exact hsliding

theorem sliding_after {s : Clocked fold} {nodeId : String} {row : NodeRow} (hinv : Inv s)
    (hrow : s.repo.find nodeId = some row) {begins : ℤ} {total : ℚ}
    (hsliding : Sliding (1 / 5) hourMs begins total (windowOf row)) {beats : List Beat}
    (hfrom : begins ≤ s.nowMs) (hto : (Run.after beat s beats).nowMs ≤ begins + hourMs) :
    ∃ row', (Run.after beat s beats).repo.find nodeId = some row'
      ∧ row'.reputationScore ≤ row.reputationScore + gains nodeId s beats
      ∧ Sliding (1 / 5) hourMs begins (total + gains nodeId s beats) (windowOf row') := by
  induction beats generalizing s row total with
  | nil => exact ⟨row, hrow, by rw [gains, add_zero], by rw [gains, add_zero]; exact hsliding⟩
  | cons b rest ih =>
    have hnow : s.nowMs ≤ (beat s b).nowMs := nowMs_le_after s [b]
    have hlast := nowMs_le_after (beat s b) rest
    obtain ⟨mid, hmid, hscore, hslid⟩ :=
      sliding_beat hinv hrow hsliding b (hfrom.trans hnow) (hlast.trans hto)
    obtain ⟨row', hrow', hscore', hslid'⟩ :=
      ih (inv_step s ⟨b.advanceMs, .heartbeat b.req⟩ hinv) hmid hslid (hfrom.trans hnow) hto
    refine ⟨row', hrow', ?_, ?_⟩
    · rw [gains, ← add_assoc]
      exact hscore'.trans (add_le_add_left hscore _)
    · rw [gains, ← add_assoc]
      exact hslid'

/-- **The bounds on a reputation**, in every run of heartbeats over tables
that came about in any way. The score is in the unit interval. One heartbeat
raises it by a tenth at most. A window is not reset before it has lasted an
hour, and from one reset to the next – from a heartbeat on, as long as no
later one resets the window – the gains are a fifth at most. So in an
interval of an hour, wherever it begins, the score rises by two fifths at
most. -/
theorem reputation_bounds (fold : String → String) (startMs : ℤ) (before : List Action)
    (nodeId : String) (row : NodeRow)
    (hrow : (reached fold startMs before).repo.find nodeId = some row) :
    (0 ≤ row.reputationScore ∧ row.reputationScore ≤ 1)
      ∧ (∀ b row', (beat (reached fold startMs before) b).repo.find nodeId = some row' →
        row'.reputationScore ≤ row.reputationScore + 1 / 10)
      ∧ (∀ b start, row.repHourlyWindowStartMs = some start →
        resets nodeId (reached fold startMs before) b = true →
          start + hourMs ≤ (beat (reached fold startMs before) b).nowMs)
      ∧ (∀ b rest, Run.Along beat (fun s b => resets nodeId s b = false)
          (beat (reached fold startMs before) b) rest →
        gains nodeId (reached fold startMs before) (b :: rest) ≤ 1 / 5)
      ∧ ∀ b rest begins row',
        (Run.after beat (reached fold startMs before) (b :: rest)).repo.find nodeId = some row' →
          begins ≤ (beat (reached fold startMs before) b).nowMs →
          (Run.after beat (reached fold startMs before) (b :: rest)).nowMs ≤ begins + hourMs →
            row'.reputationScore - row.reputationScore ≤ 2 / 5 := by
  have hinv : Inv (reached fold startMs before) := inv_reached startMs before
  have hsound := hinv nodeId row hrow
  refine ⟨⟨hsound.nonneg, hsound.le_one⟩, fun b row' hrow' => ?_, fun b start hstart hresets => ?_,
    fun b rest hkept => ?_, fun b rest begins row' hrow' hfrom hto => ?_⟩
  · obtain ⟨hscore, hgain⟩ := score_beat_le hsound hrow b hrow'
    exact hscore.trans (by linarith)
  · exact hour_le_of_resets hrow hstart hresets
  · have hnext : Inv (beat (reached fold startMs before) b) :=
      inv_step _ ⟨b.advanceMs, .heartbeat b.req⟩ hinv
    obtain ⟨mid, hmid⟩ : ∃ mid, (beat (reached fold startMs before) b).repo.find nodeId
        = some mid := by
      rcases beat_cases hrow b with ⟨hfind, _⟩ | ⟨hfind, _⟩ <;> exact ⟨_, hfind⟩
    have hgain := gainOf_le_spent hsound hrow b hmid
    have hrest := gains_of_not_resets hnext hmid hkept
    rw [gains]
    linarith
  · have hlast := nowMs_le_after (beat (reached fold startMs before) b) rest
    obtain ⟨mid, hmid, hscore, hslid⟩ := sliding_beat hinv hrow
      (sliding_begin hsound.window (by norm_num) begins) b hfrom (hlast.trans hto)
    obtain ⟨last, hlast, hscore', hslid'⟩ :=
      sliding_after (inv_step _ ⟨b.advanceMs, .heartbeat b.req⟩ hinv) hmid hslid hfrom hto
    obtain rfl := Option.some.inj (hlast.symm.trans hrow')
    have hinv' : Inv (Run.after beat (reached fold startMs before) (b :: rest)) :=
      Run.invariant (fun s b h => inv_step s ⟨b.advanceMs, .heartbeat b.req⟩ h) hinv _
    have htotal := hslid'.total_le (hinv' nodeId last hrow').window
    rw [zero_add] at htotal
    linarith

end Velocity

namespace Sample

/-- A node registers. -/
def justRegistered : List Velocity.Action :=
  [⟨0, .register (registration "n1" "https://n1.test")⟩]

/-- Twenty minutes later it reports a hundred tasks. -/
def busyBeat : Velocity.Beat := ⟨1200000, { nodeId := "n1", tasksSuccess := 100 }⟩

end Sample

namespace Velocity

/-- Three reports within an hour raise the node by two fifths at most. -/
theorem reputation_bounds_sample :
    ∃ row row', (reached Sample.lowercase 0 Sample.justRegistered).repo.find "n1" = some row
      ∧ (Run.after beat (reached Sample.lowercase 0 Sample.justRegistered)
          [Sample.busyBeat, Sample.busyBeat, Sample.busyBeat]).repo.find "n1" = some row'
      ∧ row'.reputationScore - row.reputationScore ≤ 2 / 5 :=
  ⟨_, _, rfl, rfl, (reputation_bounds Sample.lowercase 0 Sample.justRegistered "n1" _ rfl).2.2.2.2
    Sample.busyBeat [Sample.busyBeat, Sample.busyBeat] 1200000 _ rfl (by decide) (by decide)⟩

end Velocity
