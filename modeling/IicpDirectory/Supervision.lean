import IicpDirectory.Foundations.Run
import IicpDirectory.RuntimeHealth

/-!
# What the service manager is told

A task of the process, the notifier, takes a snapshot at each tick and sends
datagrams to the service manager. What they say is the truth about the process,
and about the process only: it is told once that it is ready, and its watchdog
is fed at exactly the ticks at which the process runs and lives, until the
scheduler stands still (`pulses_of_run`); and nothing the process was told of
its parts or of the world changes any of it (`pulses_unseen`).

This module is `systemd_notify.rs`.
-/

open RuntimeHealth

namespace Supervision

/-! ## The notifier -/

/-- A part of a datagram to the service manager. -/
inductive NotifyState
  | ready
  | stopping
  | watchdog
  | status (text : String)
  deriving DecidableEq

def NotifyState.isStatus : NotifyState → Bool
  | .status _ => true
  | _ => false

structure NotificationDecision where
  ready : Bool
  watchdog : Bool
  deriving DecidableEq

/-- `decision`: readiness is not asked for. -/
def decision (lifecycle : Lifecycle) (liveness : Liveness) (_readiness : Readiness)
    (readySent watchdogConfigured : Bool) : NotificationDecision :=
  let liveRunning := lifecycle == .running && liveness == .live
  ⟨liveRunning && !readySent, liveRunning && watchdogConfigured⟩

/-- The lower-case names in a status. -/
def livenessName : Liveness → String
  | .starting => "starting"
  | .live => "live"
  | .notLive => "notlive"
  | .indeterminate => "indeterminate"

def readinessName : Readiness → String
  | .ready => "ready"
  | .degraded => "degraded"
  | .notReady => "notready"

def statusText (snapshot : HealthSnapshot) : String :=
  "liveness=" ++ livenessName snapshot.liveness ++ "; readiness="
    ++ readinessName snapshot.readiness

/-- **A process and its notifier**: its health and the clock, whether it has said
that it is ready, and the datagrams it has sent. -/
structure Notified where
  state : State
  now : ℕ
  readySent : Bool
  sent : List (List NotifyState)

/-- What may happen. The notifier reads the clock before it has the lock, so the
instant of a tick may have passed. -/
inductive NotifierEvent
  | pass (nanos : ℕ)
  | markRunning
  | markStopping
  | advanceRuntime
  | advanceSupervisor
  | setSupervisorRequired (required : Bool)
  | setSubsystem (name : String) (value : SubsystemState)
  | setExternal (name : String) (value : SubsystemState)
  | snapshot
  | tick (lag : ℕ)
  | notifyStopping

/-- It tells of other things than the progress of the process. -/
def NotifierEvent.isTelling : NotifierEvent → Bool
  | .setSubsystem _ _ | .setExternal _ _ | .snapshot => true
  | _ => false

namespace Notified

def start (supervisorRequired : Bool) (now : ℕ) : Notified :=
  ⟨State.new supervisorRequired now, now, false, []⟩

section Notifier

variable (epoch : String) (pid : ℕ) (watchdogConfigured : Bool)

/-- One turn of the notifier's loop. -/
def tick (n : Notified) (lag : ℕ) : Notified :=
  let (snapshot, state) := n.state.snapshot epoch pid "" (n.now - lag)
  let action := decision snapshot.lifecycle snapshot.liveness snapshot.readiness n.readySent
    watchdogConfigured
  { n with
    state := state
    readySent := n.readySent || action.ready
    sent := n.sent
      ++ [if action.ready then [.ready, .status (statusText snapshot)]
          else [.status (statusText snapshot)]]
      ++ if action.watchdog then [[.watchdog]] else [] }

/-- One event. -/
def step (n : Notified) : NotifierEvent → Notified
  | .pass nanos => { n with now := n.now + nanos }
  | .markRunning => { n with state := n.state.markRunning }
  | .markStopping => { n with state := n.state.markStopping }
  | .advanceRuntime => { n with state := n.state.advanceRuntime n.now }
  | .advanceSupervisor => { n with state := n.state.advanceSupervisor n.now }
  | .setSupervisorRequired required => { n with state := n.state.setSupervisorRequired required }
  | .setSubsystem name value => { n with state := n.state.setSubsystem name value }
  | .setExternal name value => { n with state := n.state.setExternal name value }
  | .snapshot => { n with state := (n.state.snapshot epoch pid "" n.now).2 }
  | .tick lag => n.tick epoch pid watchdogConfigured lag
  | .notifyStopping => { n with sent := n.sent ++ [[.stopping, .status "Stopping"]] }

end Notifier

/-- **A tick of a process that runs and lives.** -/
def LiveTick (n : Notified) : NotifierEvent → Prop
  | .tick lag => n.state.lifecycle = .running ∧ n.state.Lives (n.now - lag)
  | _ => False

instance (n : Notified) (e : NotifierEvent) : Decidable (n.LiveTick e) := by
  cases e <;> unfold LiveTick <;> infer_instance

/-- How many of the ticks of a run are. -/
def liveTicks (step : Notified → NotifierEvent → Notified) : Notified → List NotifierEvent → ℕ
  | _, [] => 0
  | n, e :: rest => (if n.LiveTick e then 1 else 0) + liveTicks step (step n e) rest

/-- How many of the datagrams have a part. -/
def count (n : Notified) (part : NotifyState) : ℕ := n.sent.countP (part ∈ ·)

section Counting

variable (epoch : String) (pid : ℕ) (watchdogConfigured : Bool)

/-- A decision to feed the watchdog, and to report, is that the process runs and
lives. -/
theorem decision_snapshot (n : Notified) (lag : ℕ) :
    decision (n.state.snapshot epoch pid "" (n.now - lag)).1.lifecycle
        (n.state.snapshot epoch pid "" (n.now - lag)).1.liveness
        (n.state.snapshot epoch pid "" (n.now - lag)).1.readiness n.readySent watchdogConfigured
      = ⟨decide (n.LiveTick (.tick lag)) && !n.readySent,
          decide (n.LiveTick (.tick lag)) && watchdogConfigured⟩ := by
  have hlive : ((n.state.snapshot epoch pid "" (n.now - lag)).1.lifecycle == Lifecycle.running
      && (n.state.snapshot epoch pid "" (n.now - lag)).1.liveness == Liveness.live)
      = decide (n.LiveTick (.tick lag)) := by
    rw [Bool.eq_iff_iff, Bool.and_eq_true, beq_iff_eq, beq_iff_eq, decide_eq_true_eq,
      State.liveness_snapshot_iff]
    rfl
  unfold decision
  dsimp only
  rw [hlive]

/-- **What a tick sends.** -/
theorem tick_eq (n : Notified) (lag : ℕ) : ∃ text, n.tick epoch pid watchdogConfigured lag
    = { n with
        state := (n.state.snapshot epoch pid "" (n.now - lag)).2
        readySent := n.readySent || decide (n.LiveTick (.tick lag))
        sent := n.sent
          ++ [if n.LiveTick (.tick lag) ∧ n.readySent = false then [.ready, .status text]
              else [.status text]]
          ++ if n.LiveTick (.tick lag) ∧ watchdogConfigured = true then [[.watchdog]] else [] } := by
  refine ⟨statusText (n.state.snapshot epoch pid "" (n.now - lag)).1, ?_⟩
  unfold tick
  dsimp only
  rw [decision_snapshot]
  by_cases hlive : n.LiveTick (.tick lag)
  · cases hsent : n.readySent <;> simp [hlive]
  · simp [hlive]

/-- **What an event adds to what was sent.** -/
theorem count_step (n : Notified) (e : NotifierEvent) :
    (n.step epoch pid watchdogConfigured e).count .ready
        = n.count .ready + (if n.LiveTick e ∧ n.readySent = false then 1 else 0)
      ∧ (n.step epoch pid watchdogConfigured e).count .watchdog
        = n.count .watchdog + (if n.LiveTick e ∧ watchdogConfigured = true then 1 else 0)
      ∧ (n.step epoch pid watchdogConfigured e).readySent
        = (n.readySent || decide (n.LiveTick e)) := by
  cases e with
  | tick lag =>
    obtain ⟨text, htick⟩ := tick_eq epoch pid watchdogConfigured n lag
    show (n.tick epoch pid watchdogConfigured lag).count .ready = _
      ∧ (n.tick epoch pid watchdogConfigured lag).count .watchdog = _
      ∧ (n.tick epoch pid watchdogConfigured lag).readySent = _
    rw [htick]
    unfold count
    dsimp only
    rw [List.countP_append, List.countP_append, List.countP_append, List.countP_append]
    refine ⟨?_, ?_, rfl⟩
    · split <;> split <;> simp
    · split <;> split <;> simp
  | notifyStopping =>
    refine ⟨?_, ?_, (Bool.or_false _).symm⟩
    · show (n.sent ++ [[NotifyState.stopping, NotifyState.status "Stopping"]]).countP _ = n.sent.countP _ + _
      rw [List.countP_append]
      rfl
    · show (n.sent ++ [[NotifyState.stopping, NotifyState.status "Stopping"]]).countP _ = n.sent.countP _ + _
      rw [List.countP_append]
      rfl
  | _ => exact ⟨rfl, rfl, (Bool.or_false _).symm⟩

/-- Over a run. -/
theorem count_after (n : Notified) (events : List NotifierEvent) :
    (Run.after (step epoch pid watchdogConfigured) n events).count .ready
        = n.count .ready
          + (if n.readySent then 0 else min 1 (liveTicks (step epoch pid watchdogConfigured) n events))
      ∧ (Run.after (step epoch pid watchdogConfigured) n events).count .watchdog
        = n.count .watchdog
          + (if watchdogConfigured then liveTicks (step epoch pid watchdogConfigured) n events
              else 0) := by
  induction events generalizing n with
  | nil =>
    refine ⟨?_, ?_⟩
    · show n.count .ready = n.count .ready + if n.readySent = true then 0 else min 1 0
      split <;> rfl
    · show n.count .watchdog = n.count .watchdog + if watchdogConfigured = true then 0 else 0
      split <;> rfl
  | cons e rest ih =>
    obtain ⟨hready, hwatchdog, hsent⟩ := count_step epoch pid watchdogConfigured n e
    obtain ⟨ihready, ihwatchdog⟩ := ih (n.step epoch pid watchdogConfigured e)
    rw [Run.after_cons]
    refine ⟨?_, ?_⟩
    · rw [ihready, hready, hsent, liveTicks]
      by_cases hlive : n.LiveTick e
      · cases n.readySent
        · simp only [hlive]
          simp
        · simp
      · simp [hlive]
    · rw [ihwatchdog, hwatchdog, liveTicks]
      cases watchdogConfigured
      · simp
      · by_cases hlive : n.LiveTick e
        · simp [hlive, Nat.add_assoc]
        · simp [hlive]

end Counting

/-! ### A scheduler that stands still -/

section Stall

variable (epoch : String) (pid : ℕ) (watchdogConfigured : Bool)

/-- Only its own move moves the scheduler's last. -/
theorem lastRuntime_step (n : Notified) {e : NotifierEvent} (h : e ≠ .advanceRuntime) :
    (n.step epoch pid watchdogConfigured e).state.lastRuntime = n.state.lastRuntime := by
  cases e with
  | advanceRuntime => exact absurd rfl h
  | _ => rfl

/-- A tick that reads an instant more than thirty seconds after the scheduler's
last move is not one of a process that lives. -/
theorem not_liveTick (n : Notified) {lag : ℕ}
    (h : n.state.lastRuntime + 30001 * 1000000 ≤ n.now - lag) : ¬ n.LiveTick (.tick lag) := by
  rintro ⟨_, _, hfresh, _⟩
  unfold ms runtimeStaleAfter at hfresh
  omega

/-- A run in which the scheduler stands still, every tick of which reads such an
instant. -/
def Stalled (last : ℕ) (n : Notified) (events : List NotifierEvent) : Prop :=
  Run.Along (step epoch pid watchdogConfigured)
    (fun n e => e ≠ .advanceRuntime
      ∧ ∀ lag, e = .tick lag → last + 30001 * 1000000 ≤ n.now - lag) n events

theorem liveTicks_of_stalled {last : ℕ} {n : Notified} (hlast : n.state.lastRuntime = last)
    {events : List NotifierEvent} (h : Stalled epoch pid watchdogConfigured last n events) :
    liveTicks (step epoch pid watchdogConfigured) n events = 0 := by
  induction events generalizing n with
  | nil => rfl
  | cons e rest ih =>
    obtain ⟨⟨hmove, hlate⟩, hrest⟩ := h
    have hnot : ¬ n.LiveTick e := by
      cases e with
      | tick lag => exact not_liveTick n (by rw [hlast]; exact hlate lag rfl)
      | _ => exact not_false
    rw [liveTicks, if_neg hnot, Nat.zero_add]
    exact ih ((lastRuntime_step epoch pid watchdogConfigured n hmove).trans hlast) hrest

end Stall

/-! ### What the process was told -/

/-- The progress of the process, and what was sent but for the statuses. -/
def pulses (n : Notified) :
    (Lifecycle × ℕ × ℕ × Bool) × (ℕ × Bool) × List (List NotifyState) :=
  ((n.state.lifecycle, n.state.lastRuntime, n.state.lastSupervisor, n.state.supervisorRequired),
    (n.now, n.readySent), n.sent.map (List.filter fun part => !part.isStatus))

section Told

variable (epoch : String) (pid : ℕ) (watchdogConfigured : Bool)

/-- What the process is told is not seen. -/
theorem pulses_step_of_telling (n : Notified) {e : NotifierEvent} (h : e.isTelling = true) :
    (n.step epoch pid watchdogConfigured e).pulses = n.pulses := by
  cases e with
  | setSubsystem name value => rfl
  | setExternal name value => rfl
  | snapshot => rfl
  | _ => exact absurd h Bool.false_ne_true

/-- Whether a tick is one of a process that runs and lives is seen. -/
theorem liveTick_congr {n m : Notified} (h : n.pulses = m.pulses) (e : NotifierEvent) :
    n.LiveTick e ↔ m.LiveTick e := by
  simp only [pulses, Prod.mk.injEq] at h
  obtain ⟨⟨hlife, hruntime, hsupervisor, hrequired⟩, ⟨hnow, _⟩, _⟩ := h
  cases e with
  | tick lag =>
    unfold LiveTick State.Lives
    dsimp only
    rw [hlife, hruntime, hsupervisor, hrequired, hnow]
  | _ => rfl

/-- What is seen after an event is seen of what was seen before it. -/
theorem pulses_step_congr {n m : Notified} (h : n.pulses = m.pulses) (e : NotifierEvent) :
    (n.step epoch pid watchdogConfigured e).pulses
      = (m.step epoch pid watchdogConfigured e).pulses := by
  have hlive := liveTick_congr h e
  have hall := h
  simp only [pulses, Prod.mk.injEq] at h
  obtain ⟨⟨hlife, hruntime, hsupervisor, hrequired⟩, ⟨hnow, hready⟩, hsent⟩ := h
  cases e with
  | tick lag =>
    obtain ⟨text, htick⟩ := tick_eq epoch pid watchdogConfigured n lag
    obtain ⟨text', htick'⟩ := tick_eq epoch pid watchdogConfigured m lag
    show (n.tick epoch pid watchdogConfigured lag).pulses
      = (m.tick epoch pid watchdogConfigured lag).pulses
    rw [htick, htick']
    simp only [pulses, Prod.mk.injEq, List.map_append, hlive, hready, hsent, hnow]
    refine ⟨⟨hlife, hruntime, hsupervisor, hrequired⟩, trivial, ?_⟩
    -- the texts of the statuses may differ, and are not seen
    congr 2
    split <;> rfl
  | pass nanos =>
    simp only [pulses, step, Prod.mk.injEq]
    exact ⟨⟨hlife, hruntime, hsupervisor, hrequired⟩, ⟨by rw [hnow], hready⟩, hsent⟩
  | markRunning =>
    simp only [pulses, step, State.markRunning, Prod.mk.injEq]
    exact ⟨⟨trivial, hruntime, hsupervisor, hrequired⟩, ⟨hnow, hready⟩, hsent⟩
  | markStopping =>
    simp only [pulses, step, State.markStopping, Prod.mk.injEq]
    exact ⟨⟨trivial, hruntime, hsupervisor, hrequired⟩, ⟨hnow, hready⟩, hsent⟩
  | advanceRuntime =>
    simp only [pulses, step, State.advanceRuntime, Prod.mk.injEq]
    exact ⟨⟨hlife, hnow, hsupervisor, hrequired⟩, ⟨hnow, hready⟩, hsent⟩
  | advanceSupervisor =>
    simp only [pulses, step, State.advanceSupervisor, Prod.mk.injEq]
    exact ⟨⟨hlife, hruntime, hnow, hrequired⟩, ⟨hnow, hready⟩, hsent⟩
  | setSupervisorRequired required =>
    simp only [pulses, step, State.setSupervisorRequired, Prod.mk.injEq]
    exact ⟨⟨hlife, hruntime, hsupervisor, trivial⟩, ⟨hnow, hready⟩, hsent⟩
  | notifyStopping =>
    simp only [pulses, step, Prod.mk.injEq, List.map_append]
    exact ⟨⟨hlife, hruntime, hsupervisor, hrequired⟩, ⟨hnow, hready⟩, by rw [hsent]⟩
  | _ => exact hall

end Told

end Notified

section Laws

variable (epoch : String) (pid : ℕ) (watchdogConfigured : Bool)

/-- **The service manager is told the truth**: in every run the process reports
that it is ready once, if it lived and ran at some tick, and never else; and its
watchdog is fed as often as there were such ticks. Once the scheduler stands
still, and the ticks read instants more than thirty seconds after its last
move, neither is sent any more. -/
theorem pulses_of_run (supervisorRequired : Bool) (now : ℕ) (events rest : List NotifierEvent)
    (hstalled : Notified.Stalled epoch pid watchdogConfigured
      (Run.after (Notified.step epoch pid watchdogConfigured) (.start supervisorRequired now)
        events).state.lastRuntime
      (Run.after (Notified.step epoch pid watchdogConfigured) (.start supervisorRequired now) events)
      rest) :
    (Run.after (Notified.step epoch pid watchdogConfigured) (.start supervisorRequired now)
        (events ++ rest)).count .ready
      = min 1 (Notified.liveTicks (Notified.step epoch pid watchdogConfigured)
          (.start supervisorRequired now) events)
      ∧ (Run.after (Notified.step epoch pid watchdogConfigured) (.start supervisorRequired now)
          (events ++ rest)).count .watchdog
        = if watchdogConfigured then Notified.liveTicks
            (Notified.step epoch pid watchdogConfigured) (.start supervisorRequired now) events
          else 0 := by
  have hsilent := Notified.liveTicks_of_stalled epoch pid watchdogConfigured rfl hstalled
  obtain ⟨hready, hwatchdog⟩ := Notified.count_after epoch pid watchdogConfigured
    (.start supervisorRequired now) events
  obtain ⟨hready', hwatchdog'⟩ := Notified.count_after epoch pid watchdogConfigured
    (Run.after (Notified.step epoch pid watchdogConfigured) (.start supervisorRequired now) events)
    rest
  rw [Run.after_append]
  refine ⟨?_, ?_⟩
  · rw [hready', hready, hsilent]
    show 0 + (if false = true then 0 else _) + (if _ then 0 else min 1 0) = _
    simp
  · rw [hwatchdog', hwatchdog, hsilent]
    show 0 + _ + (if watchdogConfigured = true then 0 else 0) = _
    simp

/-- A process that runs is ready once and feeds its watchdog twice; then its
scheduler stands still. -/
theorem pulses_of_run_sample :
    (Run.after (Notified.step "epoch" 1 true) (.start true 0)
        ([.markRunning, .tick 0, .pass 1000000000, .tick 7] ++ [.pass 31000000000, .tick 0])).count
        .watchdog = 2 := by
  have hstalled : Notified.Stalled "epoch" 1 true 0
      (Run.after (Notified.step "epoch" 1 true) (.start true 0)
        [.markRunning, .tick 0, .pass 1000000000, .tick 7]) [.pass 31000000000, .tick 0] := by
    refine ⟨⟨nofun, nofun⟩, ⟨nofun, fun lag h => ?_⟩, trivial⟩
    cases h
    show 0 + 30001 * 1000000 ≤ 0 + 1000000000 + 31000000000 - 0
    decide
  exact (pulses_of_run "epoch" 1 true true 0 [.markRunning, .tick 0, .pass 1000000000, .tick 7]
    [.pass 31000000000, .tick 0] hstalled).2

/-- **Nothing the process was told is seen**: of its parts, of the world outside or
of the snapshots that were taken. With all of it left out of a run, the same
datagrams are sent, but for their statuses. -/
theorem pulses_unseen (supervisorRequired : Bool) (now : ℕ) (events : List NotifierEvent) :
    (Run.after (Notified.step epoch pid watchdogConfigured) (.start supervisorRequired now)
        events).pulses
      = (Run.after (Notified.step epoch pid watchdogConfigured) (.start supervisorRequired now)
          (events.filter fun e => !e.isTelling)).pulses :=
  Run.unwinding (fun e => !e.isTelling)
    (fun n e h => Notified.pulses_step_of_telling epoch pid watchdogConfigured n (by simpa using h))
    (fun _ _ e h => Notified.pulses_step_congr epoch pid watchdogConfigured h e) rfl events

end Laws

end Supervision
