import IicpDirectory.Foundations.Outbox
import IicpDirectory.Replica.Replay
import IicpDirectory.Seed.Log

/-!
# What a replayed event does to a node

Seen at one node, an event is an update of what is known of that node, and
events about other nodes leave it alone. What is known is the node's
*standing*: whether it is on record, where it is reached, and its
reputation. `standingAfter` is the update, and `standing_replay` reads a
whole replay through it; `standing_replay_rows` does so for the log of a
seed.

Only three types of events change a standing. The others are about health,
credit or replicas, or the replica passes them over.
-/

namespace Replica

/-- **What a replica says of a node it has on record.** -/
structure Standing where
  endpoint : String
  reputation : ℚ

/-- The standing a record gives its node. -/
def Standing.ofRecord (r : NodeRecord) : Standing := ⟨r.node.endpoint, r.node.reputationScore⟩

/-- The standing of a node. -/
def standing (repo : InMemoryRepo) (nodeId : String) : Option Standing :=
  (repo.find nodeId).map Standing.ofRecord

/-- The standing of a node after an event about it. A registration keeps the
reputation of a node that is on record. -/
def standingAfter (was : Option Standing) (eventType : String) (payload : Json) :
    Option Standing :=
  if eventType = "REGISTER" then
    match payload.getStr "endpoint" with
    | none => was
    | some endpoint => some ⟨endpoint, (was.map (fun s => s.reputation)).getD (1 / 2)⟩
  else if eventType = "DEREGISTER" then none
  else if eventType = "REPUTATION_DECAY" then
    match (payload.get "new_score").bind Json.asF64 with
    | none => was
    | some score => was.map (fun s => { s with reputation := max 0 (min score 1) })
  else was

/-- Whether a node is on record after an event about it. -/
def listedAfter (listed : Bool) (eventType : String) (payload : Json) : Bool :=
  if eventType = "REGISTER" then listed || (payload.getStr "endpoint").isSome
  else if eventType = "DEREGISTER" then false
  else listed

theorem standingAfter_reputationDecay (was : Option Standing) (payload : Json) :
    standingAfter was "REPUTATION_DECAY" payload
      = match (payload.get "new_score").bind Json.asF64 with
        | none => was
        | some score => was.map (fun s => { s with reputation := max 0 (min score 1) }) := by
  unfold standingAfter
  rw [if_neg (by decide), if_neg (by decide), if_pos rfl]

theorem isSome_standing (repo : InMemoryRepo) (nodeId : String) :
    (standing repo nodeId).isSome = (repo.find nodeId).isSome :=
  Option.isSome_map

theorem isSome_standingAfter (was : Option Standing) (eventType : String) (payload : Json) :
    (standingAfter was eventType payload).isSome = listedAfter was.isSome eventType payload := by
  unfold standingAfter listedAfter
  split
  · cases payload.getStr "endpoint" with
    | none => simp
    | some endpoint => simp
  · split
    · rfl
    · split
      · cases (payload.get "new_score").bind Json.asF64 with
        | none => rfl
        | some score => exact Option.isSome_map
      · rfl

section InMemory

variable (L : Libs)

theorem standing_applyRegister (repo : InMemoryRepo) (ev : FederatedEvent) (nodeId : String) :
    standing (applyRegister repo ev).2 nodeId
      = if ev.nodeId = some nodeId then standingAfter (standing repo nodeId) "REGISTER" ev.payload
        else standing repo nodeId := by
  unfold applyRegister
  cases hid : ev.nodeId with
  | none => simp
  | some id =>
    cases hendpoint : ev.payload.getStr "endpoint" with
    | none =>
      have hnode : nodeFromRegister id ev.payload = none := by
        simp [nodeFromRegister, hendpoint]
      simp [hnode, standingAfter, hendpoint]
    | some endpoint =>
      obtain ⟨node, hnode⟩ : ∃ node, nodeFromRegister id ev.payload = some node := by
        simp [nodeFromRegister, hendpoint]
      have hid' : (replicatedRecord node ev.payload).id = id := nodeId_of_nodeFromRegister hnode
      have hend : node.endpoint = endpoint :=
        Option.some.inj ((endpoint_of_nodeFromRegister hnode).symm.trans hendpoint)
      have hrep : node.reputationScore = 1 / 2 := by
        obtain ⟨_, _, rfl⟩ := Option.map_eq_some_iff.mp hnode
        rfl
      simp only [hnode]
      show standing (repo.register (replicatedRecord node ev.payload)) nodeId = _
      unfold standing
      rw [InMemoryRepo.find_register, hid']
      by_cases h : nodeId = id
      · subst h
        rw [if_pos rfl, if_pos rfl]
        cases hold : repo.find nodeId with
        | none =>
          simp [standingAfter, hendpoint, Standing.ofRecord, replicatedRecord, hend, hrep]
        | some old =>
          simp [standingAfter, hendpoint, Standing.ofRecord, replicatedRecord, hend,
            NodeRecord.withReputation]
      · rw [if_neg h, if_neg (fun he => h (Option.some.inj he).symm)]

theorem standing_applyDeregister (repo : InMemoryRepo) (ev : FederatedEvent) (nodeId : String) :
    standing (applyDeregister repo ev).2 nodeId
      = if ev.nodeId = some nodeId then none else standing repo nodeId := by
  unfold applyDeregister
  cases hid : ev.nodeId with
  | none => simp
  | some id =>
    show ((repo.deregister id).2.find nodeId).map Standing.ofRecord = _
    rw [InMemoryRepo.find_deregister]
    by_cases h : nodeId = id
    · subst h
      simp
    · rw [if_neg h, if_neg (fun he => h (Option.some.inj he).symm)]
      rfl

theorem standing_applyReputationDecay (repo : InMemoryRepo) (ev : FederatedEvent)
    (nodeId : String) :
    standing (applyReputationDecay repo ev).2 nodeId
      = if ev.nodeId = some nodeId then
          standingAfter (standing repo nodeId) "REPUTATION_DECAY" ev.payload
        else standing repo nodeId := by
  rw [standingAfter_reputationDecay]
  unfold applyReputationDecay applyNodeNumber
  cases hid : ev.nodeId with
  | none => simp
  | some id =>
    cases (ev.payload.get "new_score").bind Json.asF64 with
    | none => simp
    | some score =>
      show ((repo.setReputationScore id score).2.find nodeId).map Standing.ofRecord = _
      rw [InMemoryRepo.find_setReputationScore]
      by_cases h : nodeId = id
      · subst h
        rw [if_pos rfl, if_pos rfl]
        unfold standing
        cases repo.find nodeId with
        | none => rfl
        | some r => rfl
      · rw [if_neg h, if_neg (fun he => h (Option.some.inj he).symm)]
        rfl

/-- The events about health, credit and replicas touch no record. -/
theorem records_applyEvent_of_other {repo : InMemoryRepo} {ev : FederatedEvent}
    (hreg : ev.eventType ≠ "REGISTER") (hdereg : ev.eventType ≠ "DEREGISTER")
    (hdecay : ev.eventType ≠ "REPUTATION_DECAY") :
    (applyEvent L repo ev).2.records = repo.records := by
  unfold applyEvent
  rw [if_neg hreg, if_neg hdereg]
  split
  · unfold applyHealth
    split
    · rfl
    · split
      · rfl
      · split <;> rfl
  split
  · unfold applyCreditAward applyNodeNumber
    split
    · rfl
    · split <;> rfl
  split
  · unfold applyReplicaRegistered
    split <;> rfl
  split
  · unfold applyReplicaDeregistered
    split
    · rfl
    · show (repo.decommissionReplica _).2.records = _
      unfold InMemoryRepo.decommissionReplica
      split <;> rfl
  · rfl

/-- **An event, seen at a node**: the events about it update its standing,
the others do not. -/
theorem standing_applyEvent (repo : InMemoryRepo) (ev : FederatedEvent) (nodeId : String) :
    standing (applyEvent L repo ev).2 nodeId
      = if ev.nodeId = some nodeId then
          standingAfter (standing repo nodeId) ev.eventType ev.payload
        else standing repo nodeId := by
  by_cases hreg : ev.eventType = "REGISTER"
  · rw [hreg]
    unfold applyEvent
    rw [if_pos hreg]
    exact standing_applyRegister repo ev nodeId
  by_cases hdereg : ev.eventType = "DEREGISTER"
  · unfold applyEvent standingAfter
    rw [if_neg hreg, if_pos hdereg, if_neg hreg, if_pos hdereg]
    exact standing_applyDeregister repo ev nodeId
  by_cases hdecay : ev.eventType = "REPUTATION_DECAY"
  · have happly : applyEvent L repo ev = applyReputationDecay repo ev := by
      unfold applyEvent
      rw [if_neg hreg, if_neg hdereg, if_neg (by rw [hdecay]; decide), if_pos hdecay]
    rw [happly, hdecay]
    exact standing_applyReputationDecay repo ev nodeId
  · -- every other type leaves the records as they are
    have hsame : standingAfter (standing repo nodeId) ev.eventType ev.payload
        = standing repo nodeId := by
      unfold standingAfter
      rw [if_neg hreg, if_neg hdereg, if_neg hdecay]
    rw [hsame, ite_self]
    unfold standing InMemoryRepo.find
    rw [records_applyEvent_of_other L hreg hdereg hdecay]

/-- **A replay, seen at a node**: the fold of the events about it. -/
theorem standing_replay (repo : InMemoryRepo) (events : List FederatedEvent) (nodeId : String) :
    standing (replay L repo events) nodeId
      = (events.filter (fun ev => ev.nodeId = some nodeId)).foldl
          (fun was ev => standingAfter was ev.eventType ev.payload) (standing repo nodeId) := by
  have hstep : ∀ (r : InMemoryRepo) (ev : FederatedEvent) k,
      standing (applyEvent L r ev).2 k
        = if decide (ev.nodeId = some k) then
            standingAfter (standing r k) ev.eventType ev.payload
          else standing r k := by
    intro r ev k
    simp only [decide_eq_true_eq]
    exact standing_applyEvent L r ev k
  exact Keyed.view_foldl standing (fun ev k => decide (ev.nodeId = some k))
    (fun _ was ev => standingAfter was ev.eventType ev.payload) hstep repo events nodeId

/-- **The log of a seed, replayed and seen at a node.** -/
theorem standing_replay_rows (repo : InMemoryRepo) (did : String) (rows : List EventRow)
    (nodeId : String) :
    standing (replay L repo (rows.map (FederationHandlers.federatedEvent did))) nodeId
      = (Outbox.concerning NewEvent.nodeId nodeId (rows.map EventRow.newEvent)).foldl
          (fun was ev => standingAfter was ev.eventType ev.payload) (standing repo nodeId) := by
  rw [standing_replay, Outbox.concerning, List.filter_map, List.filter_map, List.foldl_map,
    List.foldl_map]
  have hfilter : rows.filter ((fun ev => decide (ev.nodeId = some nodeId))
        ∘ FederationHandlers.federatedEvent did)
      = rows.filter ((fun e => decide (e.nodeId = nodeId)) ∘ EventRow.newEvent) := by
    refine List.filter_congr fun row _ => decide_eq_decide.mpr ?_
    exact Option.some_inj
  rw [hfilter]
  rfl

/-- The nodes the log of a seed puts on record. -/
theorem isSome_find_replay_rows (repo : InMemoryRepo) (did : String) (rows : List EventRow)
    (nodeId : String) :
    ((replay L repo (rows.map (FederationHandlers.federatedEvent did))).find nodeId).isSome
      = (Outbox.concerning NewEvent.nodeId nodeId (rows.map EventRow.newEvent)).foldl
          (fun was ev => listedAfter was ev.eventType ev.payload) (repo.find nodeId).isSome := by
  rw [← isSome_standing, ← isSome_standing, standing_replay_rows]
  exact (List.foldl_hom Option.isSome (fun _ _ => (isSome_standingAfter _ _ _).symm)).symm

end InMemory

end Replica
