import IicpDirectory.MySqlRepo
import IicpDirectory.Replica.Effects
import IicpDirectory.Seed.Handlers
import Mathlib.Data.Set.Function

/-!
# The order of the log and the order of the tables

The handlers of the production seed commit a transaction and then emit an
event, under no common lock. Between the two other handlers come and go, and
the log may have two events of a node in an order the tables never saw:
an award carries the balance it left, not the amount it added, so the last
one of the log wins over the last one of the tables. The event may also be
missing, when its append fails or the handler is dropped before it.

Replaying the log gives the state of the tables where neither happens
(`replay_agrees`). A deregistration that overtakes a registration is the run
where it does not (`registration_outlives_removal`).

Identities enter twice. The tables compare them under the collation, the log
and a replica in memory letter by letter; the identities in use are taken
from a set that the collation does not identify, which a single identity
always is.

A replica in memory keeps no balances, and a replica over the tables takes
no registration from the log (`register_replicated`). The balance of a
replay is read off the log: `accountAfter` is what the appliers of a
repository with balances do to a node.
-/

open Federation

/-- The event `credits_award` emits for an award that names no consumer, and
so debits nobody. -/
def creditAwardEvent (nodeId : String) (amount newBalance : ℚ) (taskId : String) : NewEvent :=
  ⟨"CREDIT_AWARD", nodeId, .object
    [("amount", .number (.float amount)), ("new_balance", .number (.float newBalance)),
     ("task_id", .string taskId), ("querying_node_id", .null),
     ("attribution", .string "legacy_unattributed"), ("trust_weight", .number (.float 0)),
     ("spent", .number (.float 0)), ("spend_scope", .null), ("debit_count", .null)]⟩

namespace Ledger

open Replica FederationHandlers

/-- **The seed**: its tables, its log, and the events its handlers have
still to emit, in the order of their transactions. -/
structure State (fold : String → String) where
  repo : MySqlRepo fold
  log : List EventRow
  pending : List NewEvent

/-- A seed that starts. -/
def State.empty (fold : String → String) : State fold := ⟨.empty fold, [], []⟩

/-- The steps of the handlers: a transaction, committed or not, and the
append of an event. An append that fails, or that its handler does not
live to make, leaves the log as it was. -/
inductive Action
  | register (p : PendingRegistration) (committed : Bool)
  | deregister (nodeId : String) (committed : Bool)
  | award (nodeId : String) (amount : ℚ) (taskId nonce : String) (committed : Bool)
  | emit (i : ℕ) (draw : Draw) (appended : Bool)

variable {fold : String → String}

/-- **One step of a handler.** A handler whose transaction fails, or finds
nothing to do, answers and emits nothing. -/
def step (L : Libs) (key : String) (s : State fold) : Action → State fold
  | .register p committed =>
    if committed then
      match s.repo.register p.record with
      | .error _ => s
      | .ok repo => { s with repo := repo, pending := s.pending ++ [p.event] }
    else s
  | .deregister nodeId committed =>
    if committed && (s.repo.deregister nodeId).1 then
      { s with
        repo := (s.repo.deregister nodeId).2
        pending := s.pending ++ [deregisterEvent nodeId] }
    else s
  | .award nodeId amount taskId nonce committed =>
    if committed then
      match s.repo.recordCreditAward nodeId amount nonce with
      | .error _ => s
      | .ok (newBalance, repo) =>
        { s with
          repo := repo
          pending := s.pending ++ [creditAwardEvent nodeId amount newBalance taskId] }
    else s
  | .emit i draw appended =>
    match s.pending[i]? with
    | none => s
    | some ev =>
      { s with
        -- the handler does not look at the outcome of the append
        log := if appended then s.log ++ [rowAfter L key (headOf s.log) ev draw] else s.log
        pending := s.pending.eraseIdx i }

/-- **The condition on a step**: the identities are in use, every event is
appended, and the events of a node in the order of its transactions. -/
def Orderly (ids : Set String) (s : State fold) : Action → Prop
  | .register p _ => p.nodeId ∈ ids
  | .deregister nodeId _ => nodeId ∈ ids
  | .award nodeId _ _ _ _ => nodeId ∈ ids
  | .emit i _ appended => appended = true ∧ Outbox.InOrder NewEvent.nodeId s.pending i

/-- **The tables take no registration from the log**: its event names no
reputation model. -/
theorem register_replicated (repo : MySqlRepo fold) (p : PendingRegistration) {node : Node}
    (h : nodeFromRegister p.nodeId p.payload = some node) :
    repo.register (replicatedRecord node p.payload) = .error .persistence := by
  obtain ⟨_, _, rfl⟩ := Option.map_eq_some_iff.mp h
  rfl

/-! ## Accounts -/

/-- **What the tables and a replay agree on**, for a node on record: where it
is reached, and its balance. -/
structure Account where
  endpoint : String
  balance : ℚ

/-- The account a row keeps. -/
def Account.ofRow (r : NodeRow) : Account := ⟨r.endpoint, r.creditBalance⟩

/-- The account of a node after an event about it: a registration keeps the
balance of a node on record, an award sets it. -/
def accountAfter (was : Option Account) (ev : NewEvent) : Option Account :=
  if ev.eventType = "REGISTER" then
    match ev.payload.getStr "endpoint" with
    | none => was
    | some endpoint => some ⟨endpoint, (was.map (fun a => a.balance)).getD 0⟩
  else if ev.eventType = "DEREGISTER" then none
  else if ev.eventType = "CREDIT_AWARD" then
    match (ev.payload.get "new_balance").bind Json.asF64 with
    | none => was
    | some balance => was.map (fun a => { a with balance := balance })
  else was

/-- What a log says of the account of a node. -/
def replayedAccount (nodeId : String) (events : List NewEvent) : Option Account :=
  Outbox.value NewEvent.nodeId accountAfter none nodeId events

theorem accountAfter_event (was : Option Account) (p : PendingRegistration) :
    accountAfter was p.event
      = some ⟨p.request.endpoint, (was.map (fun a => a.balance)).getD 0⟩ := rfl

theorem accountAfter_deregisterEvent (was : Option Account) (nodeId : String) :
    accountAfter was (deregisterEvent nodeId) = none := rfl

theorem accountAfter_creditAwardEvent (was : Option Account) (nodeId : String)
    (amount newBalance : ℚ) (taskId : String) :
    accountAfter was (creditAwardEvent nodeId amount newBalance taskId)
      = was.map (fun a => { a with balance := newBalance }) := rfl

/-- A replica reaches a node where its account says. -/
theorem endpoint_accountAfter {was : Option Account} {standing : Option Standing}
    (h : was.map (fun a => a.endpoint) = standing.map (fun s => s.endpoint)) (ev : NewEvent) :
    (accountAfter was ev).map (fun a => a.endpoint)
      = (standingAfter standing ev.eventType ev.payload).map (fun s => s.endpoint) := by
  unfold accountAfter standingAfter
  by_cases hreg : ev.eventType = "REGISTER"
  · rw [if_pos hreg, if_pos hreg]
    cases ev.payload.getStr "endpoint" with
    | none => exact h
    | some endpoint => rfl
  rw [if_neg hreg, if_neg hreg]
  by_cases hdereg : ev.eventType = "DEREGISTER"
  · rw [if_pos hdereg, if_pos hdereg]
    rfl
  rw [if_neg hdereg, if_neg hdereg]
  -- an award moves no endpoint, and neither does a reputation
  have haward : (if ev.eventType = "CREDIT_AWARD" then
        match (ev.payload.get "new_balance").bind Json.asF64 with
        | none => was
        | some balance => was.map (fun a => { a with balance := balance })
      else was).map (fun a => a.endpoint) = was.map (fun a => a.endpoint) := by
    split
    · split
      · rfl
      · rw [Option.map_map]
        rfl
    · rfl
  have hdecay : (if ev.eventType = "REPUTATION_DECAY" then
        match (ev.payload.get "new_score").bind Json.asF64 with
        | none => standing
        | some score => standing.map (fun s => { s with reputation := max 0 (min score 1) })
      else standing).map (fun s => s.endpoint) = standing.map (fun s => s.endpoint) := by
    split
    · split
      · rfl
      · rw [Option.map_map]
        rfl
    · rfl
  exact haward.trans (h.trans hdecay.symm)

theorem endpoint_foldl_accountAfter {was : Option Account} {standing : Option Standing}
    (h : was.map (fun a => a.endpoint) = standing.map (fun s => s.endpoint))
    (events : List NewEvent) :
    (events.foldl accountAfter was).map (fun a => a.endpoint)
      = (events.foldl (fun s ev => standingAfter s ev.eventType ev.payload) standing).map
          (fun s => s.endpoint) := by
  induction events generalizing was standing with
  | nil => exact h
  | cons ev rest ih => exact ih (endpoint_accountAfter h ev)

/-! ## The invariant -/

/-- **The invariant**: at the identities in use the tables are ahead of the
log by what is pending. -/
structure Inv (ids : Set String) (s : State fold) : Prop where
  store : ∀ nodeId ∈ ids, (s.repo.find nodeId).map Account.ofRow
    = replayedAccount nodeId (s.log.map EventRow.newEvent ++ s.pending)

theorem inv_empty (ids : Set String) : Inv ids (State.empty fold) where
  store := fun _ _ => rfl

variable {ids : Set String} {s : State fold}

/-- **A transaction that its event describes keeps the invariant.** -/
theorem inv_transaction (h : Inv ids s) {repo : MySqlRepo fold} {ev : NewEvent}
    (hstore : ∀ nodeId ∈ ids, (repo.find nodeId).map Account.ofRow
      = if ev.nodeId = nodeId then accountAfter ((s.repo.find nodeId).map Account.ofRow) ev
        else (s.repo.find nodeId).map Account.ofRow) :
    Inv ids ⟨repo, s.log, s.pending ++ [ev]⟩ where
  store := by
    intro nodeId hid
    refine (hstore nodeId hid).trans ?_
    rw [h.store nodeId hid, ← List.append_assoc]
    exact (Outbox.value_snoc _ _ _).symm

/-- **An event appended in order keeps the invariant.** -/
theorem inv_emit {L : Libs} {key : String} (h : Inv ids s) {i : ℕ} {ev : NewEvent}
    (hev : s.pending[i]? = some ev) (draw : Draw)
    (hord : Outbox.InOrder NewEvent.nodeId s.pending i) :
    Inv ids ⟨s.repo, s.log ++ [rowAfter L key (headOf s.log) ev draw], s.pending.eraseIdx i⟩ where
  store := by
    intro nodeId hid
    rw [List.map_append]
    exact (h.store nodeId hid).trans (Outbox.value_move hev hord _ _).symm

section Identities

variable (hids : Set.InjOn fold ids)
include hids

/-- At the identities in use the tables tell two of them apart. -/
theorem fold_eq_iff {nodeId other : String} (hid : nodeId ∈ ids) (hother : other ∈ ids) :
    fold nodeId = fold other ↔ other = nodeId :=
  ⟨fun he => (hids hid hother he).symm, fun he => he ▸ rfl⟩

/-- A registration changes the account of its node as its event says. -/
theorem account_registered (repo : MySqlRepo fold) {p : PendingRegistration} (hp : p.nodeId ∈ ids)
    {nodeId : String} (hid : nodeId ∈ ids) :
    ((repo.registered p).find nodeId).map Account.ofRow
      = if p.event.nodeId = nodeId then
          accountAfter ((repo.find nodeId).map Account.ofRow) p.event
        else (repo.find nodeId).map Account.ofRow := by
  rw [MySqlRepo.find_registered]
  simp only [fold_eq_iff hids hid hp]
  show _ = if p.nodeId = nodeId then _ else _
  by_cases he : p.nodeId = nodeId
  · rw [if_pos he, if_pos he, he, accountAfter_event]
    cases repo.find nodeId with
    | none => rfl
    | some row => rfl
  · rw [if_neg he, if_neg he]

/-- A removal, likewise. -/
theorem account_deregister (repo : MySqlRepo fold) {removed nodeId : String}
    (hremoved : removed ∈ ids) (hid : nodeId ∈ ids) :
    ((repo.deregister removed).2.find nodeId).map Account.ofRow
      = if (deregisterEvent removed).nodeId = nodeId then
          accountAfter ((repo.find nodeId).map Account.ofRow) (deregisterEvent removed)
        else (repo.find nodeId).map Account.ofRow := by
  rw [MySqlRepo.find_deregister]
  simp only [fold_eq_iff hids hid hremoved]
  show _ = if removed = nodeId then _ else _
  by_cases he : removed = nodeId
  · rw [if_pos he, if_pos he, accountAfter_deregisterEvent]
    rfl
  · rw [if_neg he, if_neg he]

/-- An award, likewise. -/
theorem account_recordCreditAward {repo repo' : MySqlRepo fold} {awarded : String}
    {amount newBalance : ℚ} {nonce : String}
    (h : repo.recordCreditAward awarded amount nonce = .ok (newBalance, repo')) (taskId : String)
    (hawarded : awarded ∈ ids) {nodeId : String} (hid : nodeId ∈ ids) :
    (repo'.find nodeId).map Account.ofRow
      = if (creditAwardEvent awarded amount newBalance taskId).nodeId = nodeId then
          accountAfter ((repo.find nodeId).map Account.ofRow)
            (creditAwardEvent awarded amount newBalance taskId)
        else (repo.find nodeId).map Account.ofRow := by
  rw [MySqlRepo.find_recordCreditAward h]
  simp only [fold_eq_iff hids hid hawarded]
  show _ = if awarded = nodeId then _ else _
  by_cases he : awarded = nodeId
  · rw [if_pos he, if_pos he, accountAfter_creditAwardEvent, Option.map_map, Option.map_map]
    rfl
  · rw [if_neg he, if_neg he]

/-- **Every step that meets the condition keeps the invariant.** -/
theorem inv_step {L : Libs} {key : String} (s : State fold) (a : Action) (h : Inv ids s)
    (ha : Orderly ids s a) : Inv ids (step L key s a) := by
  cases a with
  | register p committed =>
    unfold step
    dsimp only
    split
    · -- the record of an admitted registration is never refused
      rw [MySqlRepo.register_record]
      exact inv_transaction h (fun nodeId hid => account_registered hids s.repo ha hid)
    · exact h
  | deregister nodeId committed =>
    unfold step
    dsimp only
    split
    · exact inv_transaction h (fun other hid => account_deregister hids s.repo ha hid)
    · exact h
  | award nodeId amount taskId nonce committed =>
    unfold step
    dsimp only
    split
    · split
      · exact h
      · rename_i newBalance repo' haward
        exact inv_transaction h
          (fun other hid => account_recordCreditAward hids haward taskId ha hid)
    · exact h
  | emit i draw appended =>
    obtain ⟨rfl, hord⟩ := ha
    unfold step
    dsimp only
    split
    · exact h
    · rename_i ev hev
      exact inv_emit h hev draw hord

/-- **The log agrees with the tables**, in the runs whose steps all meet the
condition: once no handler for a node is between its steps, a replay of the
log has the node on record exactly where the tables do, reaches it where
they do, and leaves it the balance they keep. -/
theorem replay_agrees (L : Libs) (key did : String) (actions : List Action)
    (hrun : Run.Along (step L key) (Orderly ids) (State.empty fold) actions) {nodeId : String}
    (hid : nodeId ∈ ids)
    (hquiet : ∀ ev ∈ (Run.after (step L key) (State.empty fold) actions).pending,
      ev.nodeId ≠ nodeId) :
    ((replay L InMemoryRepo.empty ((Run.after (step L key) (State.empty fold) actions).log.map
        (federatedEvent did))).find nodeId).map (fun r => r.node.endpoint)
      = ((Run.after (step L key) (State.empty fold) actions).repo.find nodeId).map
          (fun row => row.endpoint)
    ∧ (replayedAccount nodeId ((Run.after (step L key) (State.empty fold) actions).log.map
        EventRow.newEvent)).map (fun a => a.balance)
      = ((Run.after (step L key) (State.empty fold) actions).repo.find nodeId).map
          (fun row => row.creditBalance) := by
  have hinv : Inv ids (Run.after (step L key) (State.empty fold) actions) :=
    Run.invariant_along (inv_step hids) (inv_empty ids) hrun
  revert hinv hquiet
  generalize Run.after (step L key) (State.empty fold) actions = s
  intro hquiet hinv
  -- nothing pending is about the node, so the log alone says what the tables hold
  have hstore : (s.repo.find nodeId).map Account.ofRow
      = replayedAccount nodeId (s.log.map EventRow.newEvent) :=
    (hinv.store nodeId hid).trans (Outbox.value_append_of_forall_ne hquiet _)
  refine ⟨?_, ?_⟩
  · have hstanding := standing_replay_rows L InMemoryRepo.empty did s.log nodeId
    have hendpoint := @endpoint_foldl_accountAfter none none rfl
      (Outbox.concerning NewEvent.nodeId nodeId (s.log.map EventRow.newEvent))
    calc ((replay L InMemoryRepo.empty (s.log.map (federatedEvent did))).find nodeId).map
          (fun r => r.node.endpoint)
        = (standing (replay L InMemoryRepo.empty (s.log.map (federatedEvent did))) nodeId).map
            (fun t => t.endpoint) := by
          unfold standing
          rw [Option.map_map]
          rfl
      _ = (replayedAccount nodeId (s.log.map EventRow.newEvent)).map (fun a => a.endpoint) := by
          rw [hstanding]
          exact hendpoint.symm
      _ = (s.repo.find nodeId).map (fun row => row.endpoint) := by
          rw [← hstore, Option.map_map]
          rfl
  · rw [← hstore, Option.map_map]
    rfl

end Identities

end Ledger

namespace Sample

open Ledger

/-- `n1` registers and is awarded twice; each event is appended in turn. -/
def awardedTwice : List Action :=
  [.register (registration "n1" "https://n1.test") true, .emit 0 ⟨"evt-1", 1⟩ true,
   .award "n1" 1 "task-1" "nonce-1" true, .award "n1" 2 "task-2" "nonce-2" true,
   .emit 0 ⟨"evt-2", 2⟩ true, .emit 0 ⟨"evt-3", 3⟩ true]

/-- The same, the event of the second award first. -/
def awardsSwapped : List Action :=
  [.register (registration "n1" "https://n1.test") true, .emit 0 ⟨"evt-1", 1⟩ true,
   .award "n1" 1 "task-1" "nonce-1" true, .award "n1" 2 "task-2" "nonce-2" true,
   .emit 1 ⟨"evt-2", 2⟩ true, .emit 0 ⟨"evt-3", 3⟩ true]

/-- `n1` registers, registers again and is removed; the event of the removal
overtakes that of the second registration. -/
def removalOvertakes : List Action :=
  [.register (registration "n1" "https://n1.test") true, .emit 0 ⟨"evt-1", 1⟩ true,
   .register (registration "n1" "https://n1.test") true, .deregister "n1" true,
   .emit 1 ⟨"evt-2", 2⟩ true, .emit 0 ⟨"evt-3", 3⟩ true]

end Sample

namespace Ledger

open Replica FederationHandlers

/-- In the sample the replay ends with the balance of the second award. -/
theorem replay_agrees_sample :
    ((replay Sample.libs InMemoryRepo.empty
        ((Run.after (step Sample.libs Sample.secretKeyHex) (State.empty Sample.lowercase)
          Sample.awardedTwice).log.map (federatedEvent Sample.directoryDid))).find "n1").map
        (fun r => r.node.endpoint) = some "https://n1.test"
    ∧ (replayedAccount "n1"
        ((Run.after (step Sample.libs Sample.secretKeyHex) (State.empty Sample.lowercase)
          Sample.awardedTwice).log.map EventRow.newEvent)).map (fun a => a.balance) = some 3 := by
  have hrun : Run.Along (step Sample.libs Sample.secretKeyHex) (Orderly {"n1"})
      (State.empty Sample.lowercase) Sample.awardedTwice := by
    refine ⟨rfl, ⟨rfl, ?_⟩, rfl, rfl, ⟨rfl, ?_⟩, ⟨rfl, ?_⟩, trivial⟩
    · exact Seed.inOrder_zero _
    · exact Seed.inOrder_zero _
    · exact Seed.inOrder_zero _
  have hquiet : (Run.after (step Sample.libs Sample.secretKeyHex) (State.empty Sample.lowercase)
      Sample.awardedTwice).pending.length = 0 := by decide +kernel
  obtain ⟨hendpoint, hbalance⟩ := replay_agrees (Set.injOn_singleton Sample.lowercase "n1")
    Sample.libs Sample.secretKeyHex Sample.directoryDid Sample.awardedTwice hrun rfl
    (fun ev hev => by rw [List.length_eq_zero_iff.mp hquiet] at hev; exact absurd hev List.not_mem_nil)
  refine ⟨hendpoint.trans ?_, hbalance.trans ?_⟩
  · decide +kernel
  · decide +kernel

/-- **The log may order what the tables did not**: a removal that overtakes
a registration leaves the node on record at every replica, and an award
that overtakes another leaves its balance to the one before. -/
theorem registration_outlives_removal :
    ((Run.after (step Sample.libs Sample.secretKeyHex) (State.empty Sample.lowercase)
          Sample.removalOvertakes).pending.length = 0
      ∧ ((Run.after (step Sample.libs Sample.secretKeyHex) (State.empty Sample.lowercase)
          Sample.removalOvertakes).repo.find "n1").isNone
      ∧ ((replay Sample.libs InMemoryRepo.empty
          ((Run.after (step Sample.libs Sample.secretKeyHex) (State.empty Sample.lowercase)
            Sample.removalOvertakes).log.map (federatedEvent Sample.directoryDid))).find
              "n1").isSome)
    ∧ ((Run.after (step Sample.libs Sample.secretKeyHex) (State.empty Sample.lowercase)
          Sample.awardsSwapped).pending.length = 0
      ∧ ((Run.after (step Sample.libs Sample.secretKeyHex) (State.empty Sample.lowercase)
          Sample.awardsSwapped).repo.find "n1").map (fun row => row.creditBalance) = some 3
      ∧ (replayedAccount "n1"
          ((Run.after (step Sample.libs Sample.secretKeyHex) (State.empty Sample.lowercase)
            Sample.awardsSwapped).log.map EventRow.newEvent)).map (fun a => a.balance)
          = some 1) := by
  refine ⟨⟨?_, ?_, ?_⟩, ⟨?_, ?_, ?_⟩⟩ <;> decide +kernel

end Ledger
