import IicpDirectory.MySqlRepo
import IicpDirectory.Seed.Handlers

/-!
# Reputation and reachability, replayed

A seed changes the reputation of a node at its heartbeats and withdraws a
node from discovery when a probe fails, and it logs both:
`REPUTATION_UPDATE`, `REACHABILITY_DEMOTE`, `REACHABILITY_RESTORE`. A
replica knows none of these types. The one it knows for a reputation,
`REPUTATION_DECAY`, no seed emits. So at a replica every node keeps the
reputation it registered with and stays discoverable, and the two directories
agree on a node just as long as its heartbeats change nothing and no probe
demotes it (`reputation_agrees`); `heartbeat_lost` has the runs where they
part.

The replica is one in memory: the tables take no registration without a
reputation model, and the event of a registration names none.
-/

namespace Reputation

open Replica FederationHandlers MySqlRepo

/-- **The seed**: its tables and its log. -/
structure State (fold : String → String) where
  repo : MySqlRepo fold
  log : List EventRow

/-- A seed that starts. -/
def State.empty (fold : String → String) : State fold := ⟨.empty fold, []⟩

/-- The operations on a node. Those that write an event after their
transaction say what was drawn for it, or that it was not appended; those
that write one in their transaction always append it. A request that is
refused, or whose transaction fails, changes nothing and is no step. -/
inductive Action
  | register (p : PendingRegistration) (draw : Option Draw)
  | deregister (nodeId : String) (draw : Option Draw)
  | heartbeat (req : HeartbeatRequest) (nowMs : ℤ) (reactivated : Draw) (logged : Option Draw)
  | probe (nodeId : String) (passed : Bool) (nowMs : ℤ) (draw : Draw)

variable {fold : String → String}

/-- **What an operation does**: the tables it leaves, and the events it
appends, in order. -/
def effect (repo : MySqlRepo fold) : Action → MySqlRepo fold × List (NewEvent × Draw)
  | .register p draw =>
    match repo.register p.record with
    | .error _ => (repo, [])
    | .ok repo' => (repo', (draw.map (fun d => (p.event, d))).toList)
  | .deregister nodeId draw =>
    if (repo.deregister nodeId).1 then
      ((repo.deregister nodeId).2, (draw.map (fun d => (deregisterEvent nodeId, d))).toList)
    else (repo, [])
  | .heartbeat req nowMs reactivated logged =>
    match repo.heartbeatOnce req nowMs with
    | none => (repo, [])
    | some (row, repo') =>
      (repo', ((reactivation row req nowMs).map (fun ev => (ev, reactivated))).toList
        ++ (logged.bind (fun d =>
            (reputationUpdate row req nowMs).map (fun ev => (ev, d)))).toList)
  | .probe nodeId passed nowMs draw =>
    match repo.applyProbeRouteState nodeId passed nowMs with
    | none => (repo, [])
    | some (row, repo') =>
      (repo', ((MySql.routeEvent nodeId row.publicReachable row.endpointVerifiedDeadAtMs
        (transitionOf row passed)).map (fun ev => (ev, draw))).toList)

/-- The log after an event. -/
def appended (L : Libs) (key : String) (log : List EventRow) (e : NewEvent × Draw) :
    List EventRow :=
  log ++ [rowAfter L key (headOf log) e.1 e.2]

/-- **One operation.** -/
def step (L : Libs) (key : String) (s : State fold) (a : Action) : State fold :=
  ⟨(effect s.repo a).1, (effect s.repo a).2.foldl (appended L key) s.log⟩

/-- **The condition on an operation about a node**: the event of a
registration is appended, a heartbeat asks nothing of the reputation or its
metrics were counted before, and a probe does not fail on a route that was
reachable. -/
def Quiet (nodeId : String) (s : State fold) : Action → Prop
  | .register p draw => fold p.nodeId = fold nodeId → draw.isSome = true
  | .deregister _ _ => True
  | .heartbeat req _ _ _ => fold req.nodeId = fold nodeId →
      ∀ row, s.repo.find req.nodeId = some row →
        req.delta = 0 ∨ (req.metricsBatchId.isSome ∧ req.metricsBatchId = row.lastMetricsBatchId)
  | .probe probed passed _ _ => fold probed = fold nodeId →
      ∀ row, s.repo.find probed = some row → row.publicReachable = true → passed = true

/-- Whether an event leaves its node demoted. -/
def demotedAfter (was : Bool) (ev : NewEvent) : Bool :=
  if ev.eventType = "REACHABILITY_DEMOTE" then true
  else if ev.eventType = "REACHABILITY_RESTORE" then false
  else was

/-- **A node was demoted and not restored**, by the log. -/
def demoted (nodeId : String) (events : List NewEvent) : Bool :=
  Outbox.value NewEvent.nodeId demotedAfter false nodeId events

/-! ## The events -/

/-- What a log says of the standing of a node. -/
def replicated (nodeId : String) (events : List NewEvent) : Option Standing :=
  Outbox.value NewEvent.nodeId (fun was ev => standingAfter was ev.eventType ev.payload) none
    nodeId events

/-- A type of events that changes no standing. -/
def PassedOver (eventType : String) : Prop :=
  eventType ≠ "REGISTER" ∧ eventType ≠ "DEREGISTER" ∧ eventType ≠ "REPUTATION_DECAY"
  deriving Decidable

/-- The types a heartbeat and a probe log are passed over. -/
theorem passedOver_logged :
    ∀ eventType ∈ ["REACTIVATE", "REPUTATION_UPDATE", "REACHABILITY_RESTORE", "REACHABILITY_DEMOTE"],
      PassedOver eventType := by
  decide

theorem log_foldl_appended (L : Libs) (key : String) (log : List EventRow)
    (events : List (NewEvent × Draw)) :
    (events.foldl (appended L key) log).map EventRow.newEvent
      = log.map EventRow.newEvent ++ events.map Prod.fst := by
  induction events generalizing log with
  | nil => simp
  | cons e rest ih =>
    rw [List.foldl_cons, ih]
    simp [appended]

/-- A replica that replays the log has the standings the log says. -/
theorem standing_replay_eq_replicated (L : Libs) (did : String) (log : List EventRow)
    (nodeId : String) :
    standing (replay L InMemoryRepo.empty (log.map (federatedEvent did))) nodeId
      = replicated nodeId (log.map EventRow.newEvent) :=
  standing_replay_rows L InMemoryRepo.empty did log nodeId

theorem standingAfter_of_passedOver {eventType : String} (h : PassedOver eventType)
    (was : Option Standing) (payload : Json) : standingAfter was eventType payload = was := by
  unfold standingAfter
  rw [if_neg h.1, if_neg h.2.1, if_neg h.2.2]

theorem replicated_snoc (nodeId : String) (events : List NewEvent) (ev : NewEvent) :
    replicated nodeId (events ++ [ev])
      = if ev.nodeId = nodeId then
          standingAfter (replicated nodeId events) ev.eventType ev.payload
        else replicated nodeId events :=
  Outbox.value_snoc _ _ _

theorem replicated_append_of_passedOver {more : List NewEvent}
    (h : ∀ ev ∈ more, PassedOver ev.eventType) (events : List NewEvent) (nodeId : String) :
    replicated nodeId (events ++ more) = replicated nodeId events := by
  induction more generalizing events with
  | nil => rw [List.append_nil]
  | cons ev rest ih =>
    have hsplit : events ++ ev :: rest = (events ++ [ev]) ++ rest := by simp
    rw [hsplit, ih (fun e he => h e (List.mem_cons_of_mem _ he)), replicated_snoc,
      standingAfter_of_passedOver (h ev List.mem_cons_self), ite_self]

/-- The types of the events a heartbeat appends. -/
theorem events_heartbeat (repo : MySqlRepo fold) (req : HeartbeatRequest) (nowMs : ℤ)
    (reactivated : Draw) (logged : Option Draw) {ev : NewEvent}
    (h : ev ∈ (effect repo (.heartbeat req nowMs reactivated logged)).2.map Prod.fst) :
    ev.eventType = "REACTIVATE" ∨ ev.eventType = "REPUTATION_UPDATE" := by
  unfold effect at h
  dsimp only at h
  split at h
  · exact absurd h List.not_mem_nil
  · rename_i row repo' _
    rw [List.map_append, List.mem_append] at h
    rcases h with h | h
    · left
      unfold reactivation at h
      split at h
      · obtain rfl := List.mem_singleton.mp h
        rfl
      · exact absurd h List.not_mem_nil
    · right
      unfold reputationUpdate at h
      cases logged with
      | none => exact absurd h List.not_mem_nil
      | some d =>
        split at h
        · obtain rfl := List.mem_singleton.mp h
          rfl
        · exact absurd h List.not_mem_nil

/-- The types of the events a probe appends: it demotes only a route that was
reachable, and only when it fails. -/
theorem events_probe (repo : MySqlRepo fold) (probed : String) (passed : Bool) (nowMs : ℤ)
    (draw : Draw) {ev : NewEvent}
    (h : ev ∈ (effect repo (.probe probed passed nowMs draw)).2.map Prod.fst) :
    ev.nodeId = probed ∧ (ev.eventType = "REACHABILITY_RESTORE"
      ∨ ev.eventType = "REACHABILITY_DEMOTE" ∧ passed = false
        ∧ ∃ row, repo.find probed = some row ∧ row.publicReachable = true) := by
  unfold effect at h
  dsimp only at h
  split at h
  · exact absurd h List.not_mem_nil
  · rename_i row repo' hprobe
    have hfound := (find_applyProbeRouteState hprobe probed).1
    cases ht : transitionOf row passed with
    | unchanged => simp [ht, MySql.routeEvent] at h
    | restored =>
      simp only [ht, MySql.routeEvent, Option.map_some, Option.toList_some, List.map_cons,
        List.map_nil, List.mem_singleton] at h
      subst h
      exact ⟨rfl, Or.inl rfl⟩
    | demoted =>
      simp only [ht, MySql.routeEvent, Option.map_some, Option.toList_some, List.map_cons,
        List.map_nil, List.mem_singleton] at h
      subst h
      obtain ⟨hfailed, hreachable⟩ := transitionOf_eq_demoted ht
      exact ⟨rfl, Or.inr ⟨rfl, hfailed, row, hfound, hreachable⟩⟩

/-! ## The invariant -/

/-- No log moves a reputation. -/
def Level (events : List NewEvent) : Prop :=
  ∀ nodeId st, replicated nodeId events = some st → st.reputation = 1 / 2

theorem level_snoc {events : List NewEvent} (h : Level events) {ev : NewEvent}
    (hne : ev.eventType ≠ "REPUTATION_DECAY") : Level (events ++ [ev]) := by
  intro nodeId st hst
  rw [replicated_snoc] at hst
  split at hst
  · unfold standingAfter at hst
    split at hst
    · split at hst
      · exact h nodeId st hst
      · -- a registration keeps the reputation on record, or starts it at one half
        rw [← Option.some.inj hst]
        cases hwas : replicated nodeId events with
        | none => rfl
        | some was => exact h nodeId was hwas
    · split at hst
      · exact absurd hst (by simp)
      · exact h nodeId st hst
  · exact h nodeId st hst

/-- **The invariant, for a node**: the tables and every replica have it at
the reputation it registered with, and it was never demoted. -/
structure Inv (nodeId : String) (s : State fold) : Prop where
  level : Level (s.log.map EventRow.newEvent)
  listed : ∀ row, s.repo.find nodeId = some row → row.reputationScore = 1 / 2
    ∧ (replicated row.id (s.log.map EventRow.newEvent)).isSome = true
  kept : ∀ ev ∈ s.log.map EventRow.newEvent, fold ev.nodeId = fold nodeId →
    ev.eventType ≠ "REACHABILITY_DEMOTE"

theorem inv_empty (nodeId : String) : Inv nodeId (State.empty fold) where
  level := fun _ _ h => absurd h (by simp [State.empty, replicated, Outbox.value, Outbox.concerning])
  listed := fun _ h => absurd h (by simp [State.empty, MySqlRepo.find, MySqlRepo.empty])
  kept := fun _ h => absurd h List.not_mem_nil

variable {L : Libs} {key : String} {nodeId : String} {s : State fold}

/-- **Events that are passed over keep the invariant**, if the tables keep
the node at its reputation. -/
theorem inv_of_passedOver (h : Inv nodeId s) {repo : MySqlRepo fold}
    {events : List (NewEvent × Draw)}
    (hpassed : ∀ ev ∈ events.map Prod.fst, PassedOver ev.eventType)
    (hkept : ∀ ev ∈ events.map Prod.fst, fold ev.nodeId = fold nodeId →
      ev.eventType ≠ "REACHABILITY_DEMOTE")
    (hrow : ∀ row, repo.find nodeId = some row → ∃ old, s.repo.find nodeId = some old
      ∧ row.id = old.id ∧ (old.reputationScore = 1 / 2 → row.reputationScore = 1 / 2)) :
    Inv nodeId ⟨repo, events.foldl (appended L key) s.log⟩ where
  level := by
    intro other st hst
    rw [log_foldl_appended, replicated_append_of_passedOver hpassed] at hst
    exact h.level other st hst
  listed := by
    intro row hfind
    obtain ⟨old, hold, hid, hhalf⟩ := hrow row hfind
    obtain ⟨hrep, hsome⟩ := h.listed old hold
    rw [log_foldl_appended, replicated_append_of_passedOver hpassed, hid]
    exact ⟨hhalf hrep, hsome⟩
  kept := by
    intro ev hev
    rw [log_foldl_appended] at hev
    rcases List.mem_append.mp hev with hold | hnew
    · exact h.kept ev hold
    · exact hkept ev hnew

/-- A row that an operation on a node leaves comes from the row before. -/
theorem row_of_update {repo : MySqlRepo fold} {concerned : String} {f : NodeRow → NodeRow}
    (hfind : repo.find nodeId = if fold nodeId = fold concerned then (s.repo.find nodeId).map f
      else s.repo.find nodeId)
    (hid : ∀ r, (f r).id = r.id)
    (hrep : fold concerned = fold nodeId → ∀ r, s.repo.find nodeId = some r →
      r.reputationScore = 1 / 2 → (f r).reputationScore = 1 / 2)
    (row : NodeRow) (hrow : repo.find nodeId = some row) :
    ∃ old, s.repo.find nodeId = some old ∧ row.id = old.id
      ∧ (old.reputationScore = 1 / 2 → row.reputationScore = 1 / 2) := by
  rw [hfind] at hrow
  split at hrow
  · rename_i hfold
    obtain ⟨old, hold, rfl⟩ := Option.map_eq_some_iff.mp hrow
    exact ⟨old, hold, hid old, hrep hfold.symm old hold⟩
  · exact ⟨row, hrow, rfl, fun hhalf => hhalf⟩

/-- **An event about a registration or a removal keeps the invariant**, if
the node stays listed at the replica where it stays in the tables. -/
theorem inv_snoc (h : Inv nodeId s) {repo : MySqlRepo fold} {ev : NewEvent} (draw : Draw)
    (hdecay : ev.eventType ≠ "REPUTATION_DECAY") (hdemote : ev.eventType ≠ "REACHABILITY_DEMOTE")
    (hlisted : ∀ row, repo.find nodeId = some row → row.reputationScore = 1 / 2
      ∧ (replicated row.id (s.log.map EventRow.newEvent ++ [ev])).isSome = true) :
    Inv nodeId ⟨repo, appended L key s.log (ev, draw)⟩ := by
  have hlog : (appended L key s.log (ev, draw)).map EventRow.newEvent
      = s.log.map EventRow.newEvent ++ [ev] := log_foldl_appended L key s.log [(ev, draw)]
  refine ⟨?_, ?_, ?_⟩
  · show Level ((appended L key s.log (ev, draw)).map EventRow.newEvent)
    rw [hlog]
    exact level_snoc h.level hdecay
  · intro row hrow
    show _ ∧ (replicated row.id ((appended L key s.log (ev, draw)).map _)).isSome = true
    rw [hlog]
    exact hlisted row hrow
  · intro e he hfold
    replace he : e ∈ (appended L key s.log (ev, draw)).map EventRow.newEvent := he
    rw [hlog] at he
    rcases List.mem_append.mp he with hold | hnew
    · exact h.kept e hold hfold
    · obtain rfl := List.mem_singleton.mp hnew
      exact hdemote

/-- The replica lists a node whose registration it replayed. -/
theorem isSome_replicated_register {events : List NewEvent} (p : PendingRegistration)
    {other : String} (h : p.nodeId = other ∨ (replicated other events).isSome = true) :
    (replicated other (events ++ [p.event])).isSome = true := by
  rw [replicated_snoc]
  by_cases hid : p.event.nodeId = other
  · rw [if_pos hid]
    rfl
  · rw [if_neg hid]
    exact h.resolve_left hid

/-- **A registration keeps the invariant**, if its event is appended: a row
that was there keeps its identity and its reputation. -/
theorem inv_register (h : Inv nodeId s) (p : PendingRegistration) (draw : Option Draw)
    (ha : fold p.nodeId = fold nodeId → draw.isSome = true) :
    Inv nodeId (step L key s (.register p draw)) := by
  have hfind := s.repo.find_registered p nodeId
  cases draw with
  | none =>
    -- without its event it is the registration of another node
    have hfold : fold nodeId ≠ fold p.nodeId := fun he => absurd (ha he.symm) Bool.false_ne_true
    rw [if_neg hfold] at hfind
    refine inv_of_passedOver h (fun _ hev => absurd hev List.not_mem_nil)
      (fun _ hev => absurd hev List.not_mem_nil) (fun row hrow => ?_)
    exact ⟨row, hfind.symm.trans hrow, rfl, fun hhalf => hhalf⟩
  | some d =>
    refine inv_snoc h d (show "REGISTER" ≠ "REPUTATION_DECAY" by decide)
      (show "REGISTER" ≠ "REACHABILITY_DEMOTE" by decide) (fun row hrow => ?_)
    replace hrow := hfind.symm.trans hrow
    split at hrow
    · rename_i hfold
      have hsame : s.repo.find p.nodeId = s.repo.find nodeId := s.repo.find_congr hfold.symm
      rw [hsame] at hrow
      -- the row is new, or the one that was there with its identity kept
      cases hold : s.repo.find nodeId with
      | none =>
        rw [hold] at hrow
        obtain rfl := Option.some.inj hrow
        exact ⟨toF32_half, isSome_replicated_register p (Or.inl rfl)⟩
      | some old =>
        rw [hold] at hrow
        obtain rfl := Option.some.inj hrow
        obtain ⟨hhalf, hsome⟩ := h.listed old hold
        exact ⟨hhalf, isSome_replicated_register p (Or.inr hsome)⟩
    · obtain ⟨hhalf, hsome⟩ := h.listed row hrow
      exact ⟨hhalf, isSome_replicated_register p (Or.inr hsome)⟩

/-- **A removal keeps the invariant**: the row it leaves a node is not of the
node it removes. -/
theorem inv_deregister (h : Inv nodeId s) (removed : String) (draw : Option Draw) :
    Inv nodeId (step L key s (.deregister removed draw)) := by
  have hleft : ∀ row, (s.repo.deregister removed).2.find nodeId = some row →
      s.repo.find nodeId = some row ∧ removed ≠ row.id := by
    intro row hrow
    rw [MySqlRepo.find_deregister] at hrow
    split at hrow
    · exact absurd hrow (by simp)
    · -- a row found under another key has another identity
      rename_i hfold
      refine ⟨hrow, ?_⟩
      rintro rfl
      exact hfold (Table.key_of_find hrow).symm
  unfold step effect
  dsimp only
  split
  · cases draw with
    | none =>
      refine inv_of_passedOver h (fun _ hev => absurd hev List.not_mem_nil)
        (fun _ hev => absurd hev List.not_mem_nil) (fun row hrow => ?_)
      exact ⟨row, (hleft row hrow).1, rfl, fun hhalf => hhalf⟩
    | some d =>
      refine inv_snoc h d (show "DEREGISTER" ≠ "REPUTATION_DECAY" by decide)
        (show "DEREGISTER" ≠ "REACHABILITY_DEMOTE" by decide) (fun row hrow => ?_)
      obtain ⟨hold, hne⟩ := hleft row hrow
      obtain ⟨hhalf, hsome⟩ := h.listed row hold
      have hother : (deregisterEvent removed).nodeId ≠ row.id := hne
      rw [replicated_snoc, if_neg hother]
      exact ⟨hhalf, hsome⟩
  · exact h

/-- **A heartbeat that meets the condition keeps the invariant.** -/
theorem inv_heartbeat (h : Inv nodeId s) (req : HeartbeatRequest) (nowMs : ℤ) (reactivated : Draw)
    (logged : Option Draw) (ha : Quiet nodeId s (.heartbeat req nowMs reactivated logged)) :
    Inv nodeId (step L key s (.heartbeat req nowMs reactivated logged)) := by
  have htypes := fun ev => @events_heartbeat fold s.repo req nowMs reactivated logged ev
  refine inv_of_passedOver h (fun ev hev => ?_) (fun ev hev _ => ?_) ?_
  · rcases htypes ev hev with ht | ht
    · rw [ht]
      exact passedOver_logged _ (by simp)
    · rw [ht]
      exact passedOver_logged _ (by simp)
  · rcases htypes ev hev with ht | ht
    · rw [ht]
      decide
    · rw [ht]
      decide
  · unfold effect
    dsimp only
    split
    · exact fun row hrow => ⟨row, hrow, rfl, fun hhalf => hhalf⟩
    · rename_i found repo' hbeat
      obtain ⟨hfound, hfind⟩ := find_heartbeatOnce hbeat nodeId
      refine row_of_update hfind (fun _ => rfl) (fun hfold r hr hhalf => ?_)
      have hrow : s.repo.find req.nodeId = some r := (s.repo.find_congr hfold).trans hr
      exact reputation_heartbeatRow (ha hfold r hrow) hhalf nowMs

/-- **A probe that meets the condition keeps the invariant.** -/
theorem inv_probe (h : Inv nodeId s) (probed : String) (passed : Bool) (nowMs : ℤ) (draw : Draw)
    (ha : Quiet nodeId s (.probe probed passed nowMs draw)) :
    Inv nodeId (step L key s (.probe probed passed nowMs draw)) := by
  have htypes := fun ev => @events_probe fold s.repo probed passed nowMs draw ev
  refine inv_of_passedOver h (fun ev hev => ?_) (fun ev hev hfold => ?_) ?_
  · rcases (htypes ev hev).2 with ht | ⟨ht, _⟩
    · rw [ht]
      exact passedOver_logged _ (by simp)
    · rw [ht]
      exact passedOver_logged _ (by simp)
  · obtain ⟨hid, ht | ⟨_, hfailed, row, hrow, hreachable⟩⟩ := htypes ev hev
    · rw [ht]
      decide
    · rw [hid] at hfold
      exact absurd (ha hfold row hrow hreachable) (by simp [hfailed])
  · unfold effect
    dsimp only
    split
    · exact fun row hrow => ⟨row, hrow, rfl, fun hhalf => hhalf⟩
    · rename_i found repo' hprobe
      obtain ⟨_, hfind⟩ := find_applyProbeRouteState hprobe nodeId
      refine row_of_update hfind (fun r => id_routeRow nowMs r _) (fun _ r _ hhalf => ?_)
      cases transitionOf r passed with
      -- a transition writes the route alone
      | restored => exact hhalf
      | demoted => exact hhalf
      | unchanged => exact hhalf

/-- **Every operation that meets the condition keeps the invariant.** -/
theorem inv_step (s : State fold) (a : Action) (h : Inv nodeId s) (ha : Quiet nodeId s a) :
    Inv nodeId (step L key s a) := by
  cases a with
  | register p draw => exact inv_register h p draw ha
  | deregister removed draw => exact inv_deregister h removed draw
  | heartbeat req nowMs reactivated logged => exact inv_heartbeat h req nowMs reactivated logged ha
  | probe probed passed nowMs draw => exact inv_probe h probed passed nowMs draw ha

/-! ## The law -/

/-- A node no event demotes is not demoted. -/
theorem demoted_eq_false {events : List NewEvent}
    (h : ∀ ev ∈ events, ev.nodeId = nodeId → ev.eventType ≠ "REACHABILITY_DEMOTE") :
    demoted nodeId events = false := by
  have hfold : ∀ evs : List NewEvent, (∀ ev ∈ evs, ev.eventType ≠ "REACHABILITY_DEMOTE") →
      evs.foldl demotedAfter false = false := by
    intro evs hevs
    induction evs with
    | nil => rfl
    | cons ev rest ih =>
      have hnot : demotedAfter false ev = false := by
        unfold demotedAfter
        rw [if_neg (hevs ev List.mem_cons_self), ite_self]
      rw [List.foldl_cons, hnot]
      exact ih (fun e he => hevs e (List.mem_cons_of_mem _ he))
  refine hfold _ (fun ev hev => ?_)
  obtain ⟨hmem, hid⟩ := List.mem_filter.mp hev
  exact h ev hmem (by simpa using hid)

/-- **Reputation and reachability agree**, for a node, in the runs whose
operations on it all meet the condition: a replica that replays the log
gives it the reputation of the tables, and if it is demoted then a replica
discovers it only where the seed does. -/
theorem reputation_agrees (L : Libs) (key did : String) (fold : String → String)
    (actions : List Action) (nodeId : String)
    (hrun : Run.Along (step L key) (Quiet nodeId) (State.empty fold) actions) :
    (∀ row, (Run.after (step L key) (State.empty fold) actions).repo.find nodeId = some row →
      ((replay L InMemoryRepo.empty ((Run.after (step L key) (State.empty fold) actions).log.map
        (federatedEvent did))).find row.id).map (fun r => r.node.reputationScore)
        = some row.reputationScore)
    ∧ (demoted nodeId ((Run.after (step L key) (State.empty fold) actions).log.map
          EventRow.newEvent) = true →
      ∀ q nowMs,
        nodeId ∉ ((Run.after (step L key) (State.empty fold) actions).repo.discover q nowMs).map
          (fun row => row.id) →
        nodeId ∉ ((replay L InMemoryRepo.empty
          ((Run.after (step L key) (State.empty fold) actions).log.map
            (federatedEvent did))).discover q).map (fun n => n.nodeId)) := by
  have hinv : Inv nodeId (Run.after (step L key) (State.empty fold) actions) :=
    Run.invariant_along inv_step (inv_empty nodeId) hrun
  revert hinv
  generalize Run.after (step L key) (State.empty fold) actions = s
  intro hinv
  refine ⟨fun row hrow => ?_, fun hdemoted => ?_⟩
  · obtain ⟨hhalf, hsome⟩ := hinv.listed row hrow
    obtain ⟨st, hst⟩ := Option.isSome_iff_exists.mp hsome
    have hstanding := (standing_replay_eq_replicated L did s.log row.id).trans hst
    obtain ⟨r, hr, hofRecord⟩ := Option.map_eq_some_iff.mp hstanding
    rw [hr, Option.map_some, hhalf, ← hinv.level row.id st hst, ← hofRecord]
    rfl
  · have hkept := demoted_eq_false (fun ev hev hid => hinv.kept ev hev (congrArg fold hid))
    rw [hkept] at hdemoted
    exact absurd hdemoted Bool.false_ne_true

end Reputation

namespace Sample

open Reputation

/-- The query for the intent of the sample. -/
def chatQuery : DiscoverQuery := { intent := "urn:iicp:intent:llm:chat:v1" }

/-- `n1` registers, reports five tasks done for one that failed, and answers
a probe. -/
def steadyNode : List Action :=
  [.register (registration "n1" "https://n1.test") (some ⟨"evt-1", 1⟩),
   .heartbeat { nodeId := "n1", tasksSuccess := 5, tasksFailed := 1 } 2 ⟨"evt-0", 2⟩
     (some ⟨"evt-2", 2⟩),
   .probe "n1" true 3 ⟨"evt-3", 3⟩]

/-- `n1` registers and reports ten tasks that failed. -/
def failingNode : List Action :=
  [.register (registration "n1" "https://n1.test") (some ⟨"evt-1", 1⟩),
   .heartbeat { nodeId := "n1", tasksFailed := 10 } 2 ⟨"evt-0", 2⟩ (some ⟨"evt-2", 2⟩)]

/-- `n1` registers, answers a probe and fails the next one. -/
def demotedNode : List Action :=
  [.register (registration "n1" "https://n1.test") (some ⟨"evt-1", 1⟩),
   .probe "n1" true 2 ⟨"evt-2", 2⟩, .probe "n1" false 3 ⟨"evt-3", 3⟩]

end Sample

namespace Reputation

open Replica FederationHandlers MySqlRepo

/-- In the sample the replica gives the node the reputation of the seed. -/
theorem reputation_agrees_sample :
    ∃ row, (Run.after (step Sample.libs Sample.secretKeyHex) (State.empty Sample.lowercase)
        Sample.steadyNode).repo.find "n1" = some row
      ∧ ((replay Sample.libs InMemoryRepo.empty
          ((Run.after (step Sample.libs Sample.secretKeyHex) (State.empty Sample.lowercase)
            Sample.steadyNode).log.map (federatedEvent Sample.directoryDid))).find row.id).map
          (fun r => r.node.reputationScore) = some row.reputationScore := by
  have hrun : Run.Along (step Sample.libs Sample.secretKeyHex) (Quiet "n1")
      (State.empty Sample.lowercase) Sample.steadyNode := by
    refine ⟨fun _ => rfl, fun _ row _ => Or.inl ?_, fun _ _ _ _ => rfl, trivial⟩
    decide +kernel
  have hsome : ((Run.after (step Sample.libs Sample.secretKeyHex) (State.empty Sample.lowercase)
      Sample.steadyNode).repo.find "n1").isSome = true := by decide
  obtain ⟨row, hrow⟩ := Option.isSome_iff_exists.mp hsome
  exact ⟨row, hrow, (reputation_agrees Sample.libs Sample.secretKeyHex Sample.directoryDid
    Sample.lowercase Sample.steadyNode "n1" hrun).1 row hrow⟩

/-- **A replica misses what moves a reputation, and a demotion**: after ten
failures the seed has the node at nothing and the replica at one half, and
a node that failed a probe is discovered at the replica only. -/
theorem heartbeat_lost :
    ((Run.after (step Sample.libs Sample.secretKeyHex) (State.empty Sample.lowercase)
        Sample.failingNode).repo.find "n1").map (fun row => row.reputationScore) = some 0
    ∧ ((replay Sample.libs InMemoryRepo.empty
        ((Run.after (step Sample.libs Sample.secretKeyHex) (State.empty Sample.lowercase)
          Sample.failingNode).log.map (federatedEvent Sample.directoryDid))).find "n1").map
        (fun r => r.node.reputationScore) = some (1 / 2)
    ∧ demoted "n1" ((Run.after (step Sample.libs Sample.secretKeyHex)
        (State.empty Sample.lowercase) Sample.demotedNode).log.map EventRow.newEvent) = true
    ∧ ((Run.after (step Sample.libs Sample.secretKeyHex) (State.empty Sample.lowercase)
        Sample.demotedNode).repo.discover Sample.chatQuery 4).map (fun row => row.id) = []
    ∧ ((replay Sample.libs InMemoryRepo.empty
        ((Run.after (step Sample.libs Sample.secretKeyHex) (State.empty Sample.lowercase)
          Sample.demotedNode).log.map (federatedEvent Sample.directoryDid))).discover
          Sample.chatQuery).map (fun n => n.nodeId) = ["n1"] := by
  refine ⟨?_, ?_, ?_, ?_, ?_⟩
  · decide +kernel
  · decide +kernel
  · decide
  · decide
  · decide +kernel

end Reputation
