import Mathlib.Data.List.Basic

/-!
# What a directory process says of its health

A process holds its progress under one lock: when its scheduler and its
stale-node supervisor last moved, where it is in its life, and what it was
told of its parts and of the world outside. A snapshot is the classification
of that, and the classification is in two halves. Whether the process is live
is read off its own progress alone (`liveness_eq_live_iff`); what it was told
decides only whether a live, running process is ready, and why not
(`readiness_eq_ready_iff`, `reasonCodes_ascending`).

This module is `runtime_health.rs` but for the file, which
`IicpDirectory.Supervision` has. Instants are nanoseconds of the monotonic
clock.
-/

namespace RuntimeHealth

inductive Lifecycle
  | starting | running | stopping
  deriving DecidableEq

inductive Liveness
  | starting | live | notLive | indeterminate
  deriving DecidableEq

inductive Readiness
  | ready | degraded | notReady
  deriving DecidableEq

inductive SubsystemState
  | healthy | degraded | recovering | unavailable | notApplicable | unknown
  deriving DecidableEq

/-- Why a process is not ready, in the order of the enumeration. -/
inductive ReasonCode
  | starting
  | stopping
  | runtimeProgressStale
  | supervisorProgressStale
  | providerUnavailable
  | noCapacity
  | routingUnavailable
  | tunnelRecovering
  | directoryUnavailable
  | dnsUnavailable
  | internetUnavailable
  | stateUnknown
  deriving DecidableEq

/-! ## The classification -/

structure ClassificationInput where
  lifecycle : Lifecycle
  runtimeAgeMs : ℕ
  runtimeStaleAfterMs : ℕ
  supervisorRequired : Bool
  supervisorAgeMs : ℕ
  supervisorStaleAfterMs : ℕ
  provider : SubsystemState
  capacityAvailable : Bool
  routing : SubsystemState
  directory : SubsystemState
  dns : SubsystemState
  internet : SubsystemState
  tunnel : SubsystemState

structure ClassificationOutput where
  liveness : Liveness
  readiness : Readiness
  reasonCodes : List ReasonCode
  deriving DecidableEq

/-- What a live, running process is asked about, in turn, and the reason each
answer pushes. -/
def checks (i : ClassificationInput) : List (Bool × ReasonCode) :=
  [(i.provider = .unavailable, .providerUnavailable),
   (!i.capacityAvailable, .noCapacity),
   (i.routing = .unavailable, .routingUnavailable),
   (i.tunnel = .recovering, .tunnelRecovering),
   (i.directory = .unavailable, .directoryUnavailable),
   (i.dns = .unavailable, .dnsUnavailable),
   (i.internet = .unavailable, .internetUnavailable)]

/-- The reasons that are pushed. -/
def reasonsOf (i : ClassificationInput) : List ReasonCode :=
  ((checks i).filter Prod.fst).map Prod.snd

/-- A reason that takes the process out of service, and not only degrades it. -/
def ReasonCode.blocks : ReasonCode → Bool
  | .providerUnavailable | .noCapacity | .routingUnavailable => true
  | _ => false

/-- **`classify_input`**: a process that starts, whose progress is stale or
that stops has the one reason for it; another has what the checks push. -/
def classifyInput (i : ClassificationInput) : ClassificationOutput :=
  if i.lifecycle = .starting then ⟨.starting, .notReady, [.starting]⟩
  else if i.runtimeAgeMs > i.runtimeStaleAfterMs then ⟨.notLive, .notReady, [.runtimeProgressStale]⟩
  else if i.supervisorRequired && i.supervisorAgeMs > i.supervisorStaleAfterMs then
    ⟨.notLive, .notReady, [.supervisorProgressStale]⟩
  else if i.lifecycle = .stopping then ⟨.live, .notReady, [.stopping]⟩
  else
    ⟨.live,
     if (reasonsOf i).any ReasonCode.blocks then .notReady
     else if (reasonsOf i).isEmpty then .ready else .degraded,
     reasonsOf i⟩

/-- The progress the classification asks for. -/
def ClassificationInput.Progressing (i : ClassificationInput) : Prop :=
  i.runtimeAgeMs ≤ i.runtimeStaleAfterMs
    ∧ (i.supervisorRequired = true → i.supervisorAgeMs ≤ i.supervisorStaleAfterMs)

/-- **The cases of the classification**: starting, without progress, stopping,
and the checks. -/
theorem classifyInput_cases (i : ClassificationInput) :
    (i.lifecycle = .starting ∧ classifyInput i = ⟨.starting, .notReady, [.starting]⟩)
      ∨ (i.lifecycle ≠ .starting ∧ ¬ i.Progressing ∧ ∃ reason,
          classifyInput i = ⟨.notLive, .notReady, [reason]⟩)
      ∨ (i.lifecycle = .stopping ∧ i.Progressing
          ∧ classifyInput i = ⟨.live, .notReady, [.stopping]⟩)
      ∨ (i.lifecycle = .running ∧ i.Progressing ∧ classifyInput i
          = ⟨.live, if (reasonsOf i).any ReasonCode.blocks then .notReady
              else if (reasonsOf i).isEmpty then .ready else .degraded, reasonsOf i⟩) := by
  unfold classifyInput
  by_cases hstarting : i.lifecycle = .starting
  · exact Or.inl ⟨hstarting, if_pos hstarting⟩
  rw [if_neg hstarting]
  refine Or.inr ?_
  by_cases hruntime : i.runtimeAgeMs > i.runtimeStaleAfterMs
  · rw [if_pos hruntime]
    exact Or.inl ⟨hstarting, fun h => absurd h.1 (by omega), _, rfl⟩
  rw [if_neg hruntime]
  by_cases hsupervisor :
      (i.supervisorRequired && decide (i.supervisorAgeMs > i.supervisorStaleAfterMs)) = true
  · rw [if_pos hsupervisor]
    obtain ⟨hrequired, hage⟩ := Bool.and_eq_true_iff.mp hsupervisor
    have hlate := of_decide_eq_true hage
    exact Or.inl ⟨hstarting, fun h => absurd (h.2 hrequired) (by omega), _, rfl⟩
  rw [if_neg hsupervisor]
  have hprogress : i.Progressing := by
    refine ⟨Nat.not_lt.mp hruntime, fun hrequired => ?_⟩
    rw [hrequired, Bool.true_and, decide_eq_true_eq] at hsupervisor
    exact Nat.not_lt.mp hsupervisor
  refine Or.inr ?_
  by_cases hstopping : i.lifecycle = .stopping
  · rw [if_pos hstopping]
    exact Or.inl ⟨hstopping, hprogress, rfl⟩
  · rw [if_neg hstopping]
    have hrunning : i.lifecycle = .running := by
      cases hl : i.lifecycle with
      | starting => exact absurd hl hstarting
      | running => rfl
      | stopping => exact absurd hl hstopping
    exact Or.inr ⟨hrunning, hprogress, rfl⟩

/-- **A process is live by its own progress alone.** -/
theorem liveness_eq_live_iff (i : ClassificationInput) :
    (classifyInput i).liveness = .live ↔ i.lifecycle ≠ .starting ∧ i.Progressing := by
  rcases classifyInput_cases i with ⟨hl, h⟩ | ⟨hl, hstale, _, h⟩ | ⟨hl, hfresh, h⟩ | ⟨hl, hfresh, h⟩
  · rw [h, hl]
    simp
  · rw [h]
    simp [hstale]
  · rw [h, hl]
    simp [hfresh]
  · rw [h, hl]
    simp [hfresh]

/-- **A process is ready exactly if it has no reason not to be.** -/
theorem readiness_eq_ready_iff (i : ClassificationInput) :
    (classifyInput i).readiness = .ready ↔ (classifyInput i).reasonCodes = [] := by
  rcases classifyInput_cases i with ⟨_, h⟩ | ⟨_, _, _, h⟩ | ⟨_, _, h⟩ | ⟨_, _, h⟩
  · simp [h]
  · simp [h]
  · simp [h]
  · rw [h]
    dsimp only
    cases hreasons : reasonsOf i with
    | nil => simp
    | cons reason rest =>
      simp only [List.isEmpty_cons, Bool.false_eq_true, if_false, reduceCtorEq, iff_false]
      split <;> simp

/-- A process that is ready is live, and runs. -/
theorem live_of_ready {i : ClassificationInput} (h : (classifyInput i).readiness = .ready) :
    (classifyInput i).liveness = .live ∧ i.lifecycle = .running := by
  rcases classifyInput_cases i with ⟨_, hc⟩ | ⟨_, _, _, hc⟩ | ⟨_, _, hc⟩ | ⟨hl, _, hc⟩
  · simp [hc] at h
  · simp [hc] at h
  · simp [hc] at h
  · exact ⟨by rw [hc], hl⟩

/-- **The reasons come in the order of the enumeration**, each once. -/
theorem reasonCodes_ascending (i : ClassificationInput) :
    (classifyInput i).reasonCodes.Pairwise fun a b => a.ctorIdx < b.ctorIdx := by
  rcases classifyInput_cases i with ⟨_, h⟩ | ⟨_, _, _, h⟩ | ⟨_, _, h⟩ | ⟨_, _, h⟩
  · rw [h]
    exact List.pairwise_singleton _ _
  · rw [h]
    exact List.pairwise_singleton _ _
  · rw [h]
    exact List.pairwise_singleton _ _
  · rw [h]
    have hall : ((checks i).map Prod.snd).Pairwise fun a b => a.ctorIdx < b.ctorIdx := by
      have hcodes : (checks i).map Prod.snd = [.providerUnavailable, .noCapacity,
          .routingUnavailable, .tunnelRecovering, .directoryUnavailable, .dnsUnavailable,
          .internetUnavailable] := rfl
      rw [hcodes]
      decide
    exact hall.sublist (List.filter_sublist.map Prod.snd)

/-! ## The state behind the lock -/

/-- `RUNTIME_STALE_AFTER` and `SUPERVISOR_STALE_AFTER`, in milliseconds. -/
def runtimeStaleAfter : ℕ := 30000
def supervisorStaleAfter : ℕ := 120000

/-- The milliseconds of a duration, as far as 64 bits go. -/
def ms (nanos : ℕ) : ℕ := min (nanos / 1000000) 18446744073709551615

/-- A map of names to states, in the order of the names. -/
abbrev Subsystems := List (String × SubsystemState)

/-- What the lock guards. -/
structure State where
  lifecycle : Lifecycle
  runtimeSequence : ℕ
  supervisorSequence : ℕ
  lastRuntime : ℕ
  lastSupervisor : ℕ
  supervisorRequired : Bool
  capacityAvailable : Bool
  subsystems : Subsystems
  external : Subsystems
  snapshotSequence : ℕ

structure ProgressSnapshot where
  sequence : ℕ
  ageMs : ℕ
  staleAfterMs : ℕ
  required : Bool
  deriving DecidableEq

structure ProgressSet where
  runtime : ProgressSnapshot
  supervisor : ProgressSnapshot
  deriving DecidableEq

structure HealthSnapshot where
  healthSchemaVersion : ℕ
  processEpoch : String
  pid : ℕ
  sequence : ℕ
  emittedAt : String
  lifecycle : Lifecycle
  liveness : Liveness
  readiness : Readiness
  progress : ProgressSet
  subsystems : Subsystems
  externalConnectivity : Subsystems
  reasonCodes : List ReasonCode
  deriving DecidableEq

namespace State

/-- A map with a name at a value, in its place. -/
def put (value : SubsystemState) (m : Subsystems) (name : String) : Subsystems :=
  m.takeWhile (·.1 < name) ++ (name, value) :: m.dropWhile (·.1 ≤ name)

/-- A map with some names at one value. -/
def tell (m : Subsystems) (names : List String) (value : SubsystemState) : Subsystems :=
  names.foldl (put value) m

/-- `RuntimeHealth::new`. -/
def new (supervisorRequired : Bool) (now : ℕ) : State where
  lifecycle := .starting
  runtimeSequence := 0
  supervisorSequence := 0
  lastRuntime := now
  lastSupervisor := now
  supervisorRequired := supervisorRequired
  capacityAvailable := false
  subsystems := tell [] ["provider", "routing", "tunnel"] .unknown
  external := tell [] ["directory", "dns", "internet"] .unknown
  snapshotSequence := 0

def markRunning (s : State) : State :=
  { s with
    lifecycle := .running
    capacityAvailable := true
    subsystems := tell s.subsystems ["provider", "routing"] .healthy }

def markStopping (s : State) : State := { s with lifecycle := .stopping }

def advanceRuntime (now : ℕ) (s : State) : State :=
  { s with runtimeSequence := s.runtimeSequence + 1, lastRuntime := now }

def advanceSupervisor (now : ℕ) (s : State) : State :=
  { s with supervisorSequence := s.supervisorSequence + 1, lastSupervisor := now }

def setSupervisorRequired (required : Bool) (s : State) : State :=
  { s with supervisorRequired := required }

def setSubsystem (name : String) (value : SubsystemState) (s : State) : State :=
  { s with subsystems := tell s.subsystems [name] value }

def setExternal (name : String) (value : SubsystemState) (s : State) : State :=
  { s with external := tell s.external [name] value }

/-- What a snapshot classifies. Time runs only forward: an instant read before
the last progress is no age. -/
def input (now : ℕ) (s : State) : ClassificationInput where
  lifecycle := s.lifecycle
  runtimeAgeMs := ms (now - s.lastRuntime)
  runtimeStaleAfterMs := runtimeStaleAfter
  supervisorRequired := s.supervisorRequired
  supervisorAgeMs := ms (now - s.lastSupervisor)
  supervisorStaleAfterMs := supervisorStaleAfter
  provider := (s.subsystems.lookup "provider").getD .unknown
  capacityAvailable := s.capacityAvailable
  routing := (s.subsystems.lookup "routing").getD .unknown
  directory := (s.external.lookup "directory").getD .unknown
  dns := (s.external.lookup "dns").getD .unknown
  internet := (s.external.lookup "internet").getD .unknown
  tunnel := (s.subsystems.lookup "tunnel").getD .unknown

/-- **`RuntimeHealth::snapshot`**, with the instant it read before it had the
lock: each has a number of its own. -/
def snapshot (epoch : String) (pid : ℕ) (emittedAt : String) (now : ℕ) (s : State) :
    HealthSnapshot × State :=
  let result := classifyInput (s.input now)
  ({ healthSchemaVersion := 1
     processEpoch := epoch
     pid := pid
     sequence := s.snapshotSequence + 1
     emittedAt := emittedAt
     lifecycle := s.lifecycle
     liveness := result.liveness
     readiness := result.readiness
     progress :=
       ⟨⟨s.runtimeSequence, ms (now - s.lastRuntime), runtimeStaleAfter, true⟩,
        ⟨s.supervisorSequence, ms (now - s.lastSupervisor), supervisorStaleAfter,
          s.supervisorRequired⟩⟩
     subsystems := s.subsystems
     externalConnectivity := s.external
     reasonCodes := result.reasonCodes },
   { s with snapshotSequence := s.snapshotSequence + 1 })

/-- **The process lives**: it is past its start, its scheduler has moved in the
last thirty seconds and its supervisor, if there has to be one, in the last two
minutes. -/
def Lives (now : ℕ) (s : State) : Prop :=
  s.lifecycle ≠ .starting ∧ ms (now - s.lastRuntime) ≤ runtimeStaleAfter
    ∧ (s.supervisorRequired = true → ms (now - s.lastSupervisor) ≤ supervisorStaleAfter)

instance (now : ℕ) (s : State) : Decidable (s.Lives now) := by
  unfold Lives
  infer_instance

/-- **A snapshot says live exactly of a process that lives.** -/
theorem liveness_snapshot_iff (epoch : String) (pid : ℕ) (emittedAt : String) (now : ℕ) (s : State) :
    (s.snapshot epoch pid emittedAt now).1.liveness = .live ↔ s.Lives now :=
  liveness_eq_live_iff (s.input now)

end State

end RuntimeHealth
