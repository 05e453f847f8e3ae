import IicpDirectory.Federation
import IicpDirectory.Repo

/-!
# Applying a replicated event

A replica consumes the seed's log one event at a time:
`Replica.verifyAndApply` checks the event's service identity, its sequence
number, its link to the predecessor and its signature, and then hands it to
`Replica.applyEvent`, which changes the repository. The functions are those
of `replica.rs`, with the texts of their refusals.

What an applier refuses is settled by two readings of the event.
`malformed` is the refusal its own content earns it, and `persists` asks
the repository about the one thing it can refuse, a registration.
-/

namespace Replica

open Federation

/-- One entry of the seed's event stream. -/
structure FederatedEvent where
  eventId : String
  eventType : String
  serviceId : Option String
  seq : ℤ
  tsMs : ℤ
  nodeId : Option String
  payload : Json
  prevHash : Option String
  sig : Option String
  signerDid : Option String

namespace FederatedEvent

/-- The derived deserializer of an event. -/
def ofJson (v : Json) : Option FederatedEvent := do
  guard (v.isStruct 10)
  let eventId ← v.fieldReq 0 "event_id" Json.asStr
  let eventType ← v.fieldReq 1 "event_type" Json.asStr
  let serviceId ← v.fieldOr 2 "service_id" none (Json.optional Json.asStr)
  let seq ← v.fieldReq 3 "seq" Json.asI64
  let tsMs ← v.fieldReq 4 "ts_ms" Json.asI64
  let nodeId ← v.fieldOr 5 "node_id" none (Json.optional Json.asStr)
  let payload ← v.fieldOr 6 "payload" Json.null some
  let prevHash ← v.fieldOr 7 "prev_hash" none (Json.optional Json.asStr)
  let sig ← v.fieldOr 8 "sig" none (Json.optional Json.asStr)
  let signerDid ← v.fieldOr 9 "signer_did" none (Json.optional Json.asStr)
  return { eventId, eventType, serviceId, seq, tsMs, nodeId, payload, prevHash, sig,
           signerDid }

/-- The link the event claims: its `prev_hash`, or the genesis root. -/
def link (ev : FederatedEvent) : String := ev.prevHash.getD genesisRoot

end FederatedEvent

/-- The fate of an event. A refusal carries its reason, and changes
nothing. -/
inductive ApplyOutcome
  | applied
  | skipped
  | rejected (reason : String)
  deriving DecidableEq

namespace ApplyOutcome

/-- The event counts as seen: it was applied, or there was nothing to
do. -/
def accepted : ApplyOutcome → Bool
  | .rejected _ => false
  | _ => true

/-- The two refusals that make the replica fetch the seed's key again. -/
def refreshesKey (o : ApplyOutcome) : Bool :=
  o == .rejected "bad signature" || o == .rejected "missing signature"

@[simp] theorem accepted_applied : accepted .applied = true := rfl

@[simp] theorem accepted_skipped : accepted .skipped = true := rfl

@[simp] theorem accepted_rejected (reason : String) :
    accepted (.rejected reason) = false := rfl

theorem refreshesKey_of_accepted {o : ApplyOutcome} (h : o.accepted = true) :
    o.refreshesKey = false := by
  cases o with
  | applied => rfl
  | skipped => rfl
  | rejected reason => exact absurd h Bool.false_ne_true

end ApplyOutcome

/-! ## Reading a REGISTER payload -/

/-- The intents a payload advertises. -/
def intentsFromPayload (payload : Json) : List String :=
  ((payload.getArray "capabilities").getD []).filterMap (·.getStr "intent")

/-- The profiles of one capability. -/
def profilesOf (capability : Json) : List String :=
  Json.strings ((capability.getArray "supported_profiles").getD [])

/-- The profiles a payload advertises, by intent. -/
def capabilityProfilesFromPayload (payload : Json) : List (String × List String) :=
  assocOfList (((payload.getArray "capabilities").getD []).filterMap
    (fun c => (c.getStr "intent").map (fun intent => (intent, profilesOf c))))

/-- The capability variants a payload advertises; what does not parse is
passed over. -/
def capabilitiesFromPayload (payload : Json) : List EffectiveCapability :=
  ((payload.getArray "capabilities").getD []).filterMap EffectiveCapability.ofJson

/-- The exposure modes a relay can reach. -/
def relayReachable : List String :=
  ["ipv4_public_direct", "ipv6_direct_pinhole_available", "ipv6_direct_firewall_required",
   "ipv4_cgnat_blocked", "relay_required", "tunnel_required", "dual_stack_available",
   "outbound_only"]

/-- The reachability health signal a payload declares. -/
def reachabilitySignal (payload : Json) : ℚ :=
  if ((payload.get "public_reachable").bind Json.asBool).getD false then 1
  else if (payload.getStr "exposure_mode").any (fun m => m ∈ relayReachable) then 1 / 2
  else 0

/-- **The node a REGISTER payload describes.** What the event carries is
taken from it, the rest gets the federation's defaults; without an endpoint
there is no node. -/
def nodeFromRegister (nodeId : String) (payload : Json) : Option Node :=
  (payload.getStr "endpoint").map (fun endpoint =>
    let pricing := payload.get "pricing"
    { nodeId := nodeId
      endpoint := endpoint
      region := (payload.getStr "region").getD ""
      score := 1 / 2
      available := true
      load := 0
      activeJobs := 0
      maxConcurrent := 4
      reputationScore := 1 / 2
      reputationModel := payload.getStr "reputation_model"
      reputationEpoch := payload.getStr "reputation_epoch"
      latencyEstimateMs := none
      completedTasksCount := 0
      tasksFailed := 0
      healthLabel := none
      exposureMode := payload.getStr "exposure_mode"
      reputationTier := none
      transportEndpoint := none
      cipConformanceLevel := (payload.getStr "cip_conformance_level").or (some "CIP-None")
      models := Json.strings
        (((payload.getArray "capabilities").getD []).filterMap (·.getArray "models")).flatten
      supportedProfiles := []
      capabilities := capabilitiesFromPayload payload
      pricing := pricing
      natType := none
      transportMethod := none
      relayCapable := none
      sdkLanguage := none
      implementationName := none
      implementationVersion := none
      sdkCompatibilityVersion := none
      sdkVersion := none
      consumerCosignatureReady :=
        ((payload.getArray "supported_receipt_profiles").getD []).any
          (fun p => p.asStr == some "consumer_cosignature_v1")
      backend := payload.getStr "backend"
      addressFamily := none
      cipPolicy := payload.get "cip_policy"
      publicKey := none
      transportMetadata := none
      quantization := []
      inferenceEngine := []
      creditCostMultiplier :=
        ((pricing.bind (·.get "credit_cost_multiplier")).bind Json.asF64).getD 1
      pricingModel := (pricing.bind (·.getStr "pricing_model")).or (some "per_token")
      attested := ((pricing.bind (·.get "attested")).bind Json.asBool).getD false
      transport := []
      reachabilitySignal := reachabilitySignal payload
      operatorPubkey := none
      operatorDisplayName := none
      operatorFingerprint := none
      publicListing := false
      operatorUrl := none
      policyManifest := payload.get "policy_manifest"
      operatorVerified := false
      operatorTrustTier := none
      healthModels := none
      routingPolicy := RoutingPolicyState.default })

theorem nodeId_of_nodeFromRegister {nodeId : String} {payload : Json} {node : Node}
    (h : nodeFromRegister nodeId payload = some node) : node.nodeId = nodeId := by
  obtain ⟨_, _, rfl⟩ := Option.map_eq_some_iff.mp h
  rfl

theorem endpoint_of_nodeFromRegister {nodeId : String} {payload : Json} {node : Node}
    (h : nodeFromRegister nodeId payload = some node) :
    payload.getStr "endpoint" = some node.endpoint := by
  obtain ⟨_, he, rfl⟩ := Option.map_eq_some_iff.mp h
  exact he

theorem nodeFromRegister_isSome (nodeId : String) (payload : Json) :
    (nodeFromRegister nodeId payload).isSome = (payload.getStr "endpoint").isSome := by
  unfold nodeFromRegister
  rw [Option.isSome_map]

/-! ## The appliers -/

section Appliers

variable (L : Libs) {σ : Type} [NodeRepository σ]

/-- The record a replica stores for a node: no tokens, no windows. -/
def replicatedRecord (node : Node) (payload : Json) : NodeRecord where
  node := node
  intents := intentsFromPayload payload
  capabilities := capabilitiesFromPayload payload
  capabilityProfiles := capabilityProfilesFromPayload payload
  availability := []
  nodeToken := none
  nodeHmacKey := none
  proxyToken := none

/-- Applied if the repository acted, skipped if not. -/
def outcomeOf (r : Bool × σ) : ApplyOutcome × σ :=
  (if r.1 then .applied else .skipped, r.2)

/-- REGISTER: mirror the node and its capabilities. -/
def applyRegister (repo : σ) (ev : FederatedEvent) : ApplyOutcome × σ :=
  match ev.nodeId with
  | none => (.rejected "REGISTER missing node_id", repo)
  | some nodeId =>
    match nodeFromRegister nodeId ev.payload with
    | none => (.rejected "REGISTER missing endpoint", repo)
    | some node =>
      match NodeRepository.register repo (replicatedRecord node ev.payload) with
      | .ok repo' => (.applied, repo')
      | .error _ => (.rejected "REGISTER persistence failed", repo)

/-- DEREGISTER: remove the node. -/
def applyDeregister (repo : σ) (ev : FederatedEvent) : ApplyOutcome × σ :=
  match ev.nodeId with
  | none => (.rejected "DEREGISTER missing node_id", repo)
  | some nodeId => outcomeOf (NodeRepository.deregister repo nodeId)

/-- The evaluation time of a HEALTH payload: explicit milliseconds, else a
date, else the oldest. -/
def healthEvaluatedAtMs (payload : Json) : ℤ :=
  match (payload.get "evaluated_at_ms").bind Json.asI64 with
  | some ms => ms
  | none => ((payload.getStr "evaluated_at").bind L.parseRfc3339Ms).getD 0

/-- HEALTH: store the evaluator's observation of the node. -/
def applyHealth (repo : σ) (ev : FederatedEvent) : ApplyOutcome × σ :=
  match ev.nodeId with
  | none => (.rejected "HEALTH missing node_id", repo)
  | some nodeId =>
    match ev.payload.getStr "evaluator_did" with
    | none => (.rejected "HEALTH missing evaluator_did", repo)
    | some evaluator =>
      match (ev.payload.get "score").bind Json.asF64 with
      | none => (.rejected "HEALTH missing score", repo)
      | some score =>
        outcomeOf (NodeRepository.upsertHealthObservation repo nodeId evaluator score
          (healthEvaluatedAtMs L ev.payload))

/-- An event that sets one number of a node: the field of the payload it
reads, the texts of its refusals and the operation it calls. -/
def applyNodeNumber (eventType fieldName : String) (set : σ → String → ℚ → Bool × σ)
    (repo : σ) (ev : FederatedEvent) : ApplyOutcome × σ :=
  match ev.nodeId with
  | none => (.rejected (eventType ++ " missing node_id"), repo)
  | some nodeId =>
    match (ev.payload.get fieldName).bind Json.asF64 with
    | none => (.rejected (eventType ++ " missing " ++ fieldName), repo)
    | some x => outcomeOf (set repo nodeId x)

/-- REPUTATION_DECAY: set the node's reputation. -/
def applyReputationDecay (repo : σ) (ev : FederatedEvent) : ApplyOutcome × σ :=
  applyNodeNumber "REPUTATION_DECAY" "new_score" NodeRepository.setReputationScore repo ev

/-- CREDIT_AWARD: set the node's balance. -/
def applyCreditAward (repo : σ) (ev : FederatedEvent) : ApplyOutcome × σ :=
  applyNodeNumber "CREDIT_AWARD" "new_balance" NodeRepository.setCreditBalance repo ev

/-- REPLICA_REGISTERED: record the replica; the event's `node_id` carries
its identity. -/
def applyReplicaRegistered (repo : σ) (ev : FederatedEvent) : ApplyOutcome × σ :=
  match ev.nodeId, ev.payload.getStr "did", ev.payload.getStr "endpoint" with
  | some replicaId, some did, some endpoint =>
    outcomeOf (NodeRepository.upsertReplica repo replicaId did endpoint
      ((ev.payload.getStr "trust_tier").getD "unverified"))
  | _, _, _ => (.rejected "REPLICA_REGISTERED missing replica_id/did/endpoint", repo)

/-- REPLICA_DEREGISTERED: retire the replica. -/
def applyReplicaDeregistered (repo : σ) (ev : FederatedEvent) : ApplyOutcome × σ :=
  match ev.nodeId with
  | none => (.rejected "REPLICA_DEREGISTERED missing replica_id", repo)
  | some replicaId => outcomeOf (NodeRepository.decommissionReplica repo replicaId)

/-- **Apply one verified event.** Types with no applier – `EVICT`,
`REACTIVATE` and whatever is unknown – are skipped. -/
def applyEvent (repo : σ) (ev : FederatedEvent) : ApplyOutcome × σ :=
  if ev.eventType = "REGISTER" then applyRegister repo ev
  else if ev.eventType = "DEREGISTER" then applyDeregister repo ev
  else if ev.eventType = "HEALTH" then applyHealth L repo ev
  else if ev.eventType = "REPUTATION_DECAY" then applyReputationDecay repo ev
  else if ev.eventType = "CREDIT_AWARD" then applyCreditAward repo ev
  else if ev.eventType = "REPLICA_REGISTERED" then applyReplicaRegistered repo ev
  else if ev.eventType = "REPLICA_DEREGISTERED" then applyReplicaDeregistered repo ev
  else (.skipped, repo)

/-! ## Verification -/

/-- The message an event's signature must cover: the service identity
selects the transcript. -/
def signingMessage (ev : FederatedEvent) : Option Bytes :=
  match ev.serviceId with
  | some serviceId =>
    eventMessageWithServiceId L serviceId ev.eventId ev.eventType ev.seq ev.tsMs ev.payload
      ev.link
  | none => some (eventMessage L ev.eventId ev.eventType ev.seq ev.tsMs ev.payload ev.link)

/-- Why an event fails verification under a key, if it does: no signature,
a link that is not the expected one, no transcript, a signature that does
not verify – in this order. Without a key nothing is checked. -/
def verificationRefusal (ev : FederatedEvent) (seedPubkeyHex : Option String)
    (expectedPrevHash : Option String) : Option String :=
  match seedPubkeyHex with
  | none => none
  | some pk =>
    match ev.sig with
    | none => some "missing signature"
    | some sig =>
      if expectedPrevHash.any (fun expected => ev.link ≠ expected) then
        some "broken hash-chain"
      else
        match signingMessage L ev with
        | none => some "invalid service_id"
        | some msg => if verifyEvent L pk sig msg then none else some "bad signature"

/-- **Verify, enforce the sequence, apply.** Returns the outcome and the new
high-water mark, which moves only when the event was accepted. -/
def verifyAndApply (repo : σ) (ev : FederatedEvent) (seedPubkeyHex : Option String)
    (lastAppliedSeq : ℤ) (expectedPrevHash : Option String) :
    (ApplyOutcome × ℤ) × σ :=
  if ev.serviceId.any (fun s => !validServiceId s) then
    ((.rejected "invalid service_id", lastAppliedSeq), repo)
  else if ev.seq ≤ lastAppliedSeq then ((.skipped, lastAppliedSeq), repo)
  else
    match verificationRefusal L ev seedPubkeyHex expectedPrevHash with
    | some reason => ((.rejected reason, lastAppliedSeq), repo)
    | none =>
      let (outcome, repo') := applyEvent L repo ev
      ((outcome, if outcome.accepted then ev.seq else lastAppliedSeq), repo')

end Appliers

/-! ## What an applier refuses -/

/-- The refusal an event's own content earns it, before the repository is
asked: each applier's missing fields, in the order it looks for them. -/
def malformed (ev : FederatedEvent) : Option String :=
  if ev.eventType = "REGISTER" then
    if ev.nodeId.isNone then some "REGISTER missing node_id"
    else if (ev.payload.getStr "endpoint").isNone then some "REGISTER missing endpoint"
    else none
  else if ev.eventType = "DEREGISTER" then
    if ev.nodeId.isNone then some "DEREGISTER missing node_id" else none
  else if ev.eventType = "HEALTH" then
    if ev.nodeId.isNone then some "HEALTH missing node_id"
    else if (ev.payload.getStr "evaluator_did").isNone then some "HEALTH missing evaluator_did"
    else if ((ev.payload.get "score").bind Json.asF64).isNone then some "HEALTH missing score"
    else none
  else if ev.eventType = "REPUTATION_DECAY" then
    if ev.nodeId.isNone then some "REPUTATION_DECAY missing node_id"
    else if ((ev.payload.get "new_score").bind Json.asF64).isNone then
      some "REPUTATION_DECAY missing new_score"
    else none
  else if ev.eventType = "CREDIT_AWARD" then
    if ev.nodeId.isNone then some "CREDIT_AWARD missing node_id"
    else if ((ev.payload.get "new_balance").bind Json.asF64).isNone then
      some "CREDIT_AWARD missing new_balance"
    else none
  else if ev.eventType = "REPLICA_REGISTERED" then
    if ev.nodeId.isNone || (ev.payload.getStr "did").isNone
        || (ev.payload.getStr "endpoint").isNone then
      some "REPLICA_REGISTERED missing replica_id/did/endpoint"
    else none
  else if ev.eventType = "REPLICA_DEREGISTERED" then
    if ev.nodeId.isNone then some "REPLICA_DEREGISTERED missing replica_id" else none
  else none

/-- The repository persists the registration an event asks for; any other
event asks for none. -/
def persists {σ : Type} [NodeRepository σ] (repo : σ) (ev : FederatedEvent) : Bool :=
  if ev.eventType = "REGISTER" then
    match ev.nodeId.bind (fun nodeId => nodeFromRegister nodeId ev.payload) with
    | none => true
    | some node =>
      match NodeRepository.register repo (replicatedRecord node ev.payload) with
      | .ok _ => true
      | .error _ => false
  else true

/-- In memory every registration is persisted. -/
theorem persists_inMemory (repo : InMemoryRepo) (ev : FederatedEvent) :
    persists repo ev = true := by
  unfold persists
  split
  · split <;> rfl
  · rfl

end Replica
