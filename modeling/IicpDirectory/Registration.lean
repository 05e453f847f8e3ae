import IicpDirectory.Repo
import IicpDirectory.Seed.Log

/-!
# A registration, once it is admitted

What `register` makes of a request that passed its checks: the node it will
list, the record it persists, and the payload of the REGISTER event it
emits afterwards. The two last are made from the same request, one after
the other, and the record and the event name the same node and the same
endpoint (`PendingRegistration.endpoint_payload`).

The checks themselves, the delegation that yields the operator and the
bound on the declared price are made before; their outcomes are fields
here.
-/

/-- An operator's choice to be listed. -/
structure ListingInput where
  publicListing : Bool
  operatorUrl : Option String

/-- A declared price. -/
structure RegistrationPricing where
  creditCostMultiplier : ℚ
  pricingModel : String

/-- A registration request, as far as what is made of it reads it. -/
structure RegisterRequest where
  endpoint : String
  region : Option String := none
  capabilities : List EffectiveCapability
  natType : Option String := none
  transportMethod : Option String := none
  exposureMode : Option String := none
  relayCapable : Option Bool := none
  transportEndpoint : Option String := none
  sdkLanguage : Option String := none
  implementationName : Option String := none
  implementationVersion : Option String := none
  sdkCompatibilityVersion : Option String := none
  sdkVersion : Option String := none
  supportedReceiptProfiles : List String := []
  backend : Option String := none
  cxPublicKey : Option Json := none
  transportMetadata : Option Json := none
  policyManifest : Option Json := none
  listing : Option ListingInput := none
  availability : List AvailabilityWindow := []
  pricing : Option RegistrationPricing := none

/-- **A registration that was admitted**: the request, the identity resolved
for the node, the operator its delegation binds, the price within its bound
and the tokens drawn for it. -/
structure PendingRegistration where
  request : RegisterRequest
  nodeId : String
  operatorPubkey : Option String := none
  operatorVerified : Bool := false
  operatorTrustTier : Option String := none
  pricingMultiplier : ℚ := 1
  nodeToken : String
  proxyToken : String
  nodeHmacKey : String

namespace PendingRegistration

/-- The reachability of a node that was never probed. -/
def reachabilityFromFlags (publicReachable relayCapable : Bool) : ℚ :=
  if publicReachable then 1 else if relayCapable then 1 / 2 else 0

/-- The score a node starts with. -/
def startingScore : ℚ := 1 / 2

/-- **The node a registration lists.** -/
def node (p : PendingRegistration) : Node where
  nodeId := p.nodeId
  endpoint := p.request.endpoint
  region := p.request.region.getD ""
  score := startingScore
  available := true
  load := 0
  activeJobs := 0
  maxConcurrent := 0
  reputationScore := startingScore
  reputationModel := some "outcome-v2"
  reputationEpoch := some "outcome-v2-initial"
  latencyEstimateMs := none
  completedTasksCount := 0
  tasksFailed := 0
  healthLabel := none
  exposureMode := p.request.exposureMode
  reputationTier := some "bronze"
  transportEndpoint := p.request.transportEndpoint
  cipConformanceLevel := some "CIP-None"
  models := (p.request.capabilities.flatMap (fun c => c.models)).dedup
  supportedProfiles := []
  capabilities := p.request.capabilities
  pricing := none
  natType := p.request.natType
  transportMethod := p.request.transportMethod
  relayCapable := p.request.relayCapable
  sdkLanguage := p.request.sdkLanguage
  implementationName := p.request.implementationName
  implementationVersion := p.request.implementationVersion
  sdkCompatibilityVersion := p.request.sdkCompatibilityVersion.or p.request.sdkVersion
  sdkVersion := p.request.sdkCompatibilityVersion.or p.request.sdkVersion
  consumerCosignatureReady := p.request.supportedReceiptProfiles.any (· == "consumer_cosignature_v1")
  backend := p.request.backend
  addressFamily := none
  cipPolicy := some (.object
    [("allow_remote_inference", .bool false), ("allow_tool_execution", .bool false),
     ("allow_file_access", .bool false), ("pricing_credits_per_1000", .null)])
  publicKey := p.request.cxPublicKey
  transportMetadata := p.request.transportMetadata
  quantization := (p.request.capabilities.filterMap (fun c => c.quantization)).dedup
  inferenceEngine := (p.request.capabilities.filterMap (fun c => c.inferenceEngine)).dedup
  creditCostMultiplier := p.pricingMultiplier
  pricingModel := some ((p.request.pricing.map (fun x => x.pricingModel)).getD "per_token")
  attested := false
  transport := []
  reachabilitySignal := reachabilityFromFlags false (p.request.relayCapable.getD false)
  operatorPubkey := p.operatorPubkey
  operatorDisplayName := none
  operatorFingerprint := none
  publicListing := (p.request.listing.map (fun l => l.publicListing)).getD false
  operatorUrl := p.request.listing.bind (fun l => l.operatorUrl)
  policyManifest := p.request.policyManifest
  operatorVerified := p.operatorVerified
  operatorTrustTier := p.operatorTrustTier
  healthModels := none
  routingPolicy := RoutingPolicyState.default

/-- The record `commit_registration` persists. -/
def record (p : PendingRegistration) : NodeRecord where
  node := p.node
  intents := p.request.capabilities.map (fun c => c.intent)
  capabilities := p.request.capabilities
  capabilityProfiles := assocOfList
    (p.request.capabilities.map (fun c => (c.intent, c.supportedProfiles)))
  availability := p.request.availability
  nodeToken := some p.nodeToken
  nodeHmacKey := some p.nodeHmacKey
  proxyToken := some p.proxyToken

/-- A capability variant, as the event carries it: every field, absent ones
as `null`. -/
def capabilityJson (c : EffectiveCapability) : Json :=
  .object
    [("intent", .string c.intent), ("version", Json.ofOptionStr c.version),
     ("phase", Json.ofOption (c.phase.map (fun n => .number (.posInt n)))),
     ("variant_id", Json.ofOptionStr c.variantId), ("models", Json.ofStrings c.models),
     ("max_tokens", Json.ofOption (c.maxTokens.map (fun n => .number (.posInt n)))),
     ("quantization", Json.ofOptionStr c.quantization),
     ("inference_engine", Json.ofOptionStr c.inferenceEngine),
     ("input_modalities", Json.ofStrings c.inputModalities),
     ("output_modalities", Json.ofStrings c.outputModalities),
     ("features", Json.ofStrings c.features),
     ("execution_capabilities", Json.ofStrings c.executionCapabilities),
     ("limits", .object (c.limits.map (fun e => (e.1, e.2.toJson)))),
     ("supported_profiles", Json.ofStrings c.supportedProfiles),
     ("claim_provenance", Json.ofOption (c.claimProvenance.map (fun x => x.toJson))),
     ("extensions", .object (c.extensions.map (fun e => (e.1, e.2.toJson))))]

/-- **The payload of the REGISTER event.** -/
def payload (p : PendingRegistration) : Json :=
  .object
    [("endpoint", .string p.request.endpoint), ("region", Json.ofOptionStr p.request.region),
     ("backend", Json.ofOptionStr p.request.backend),
     ("supported_receipt_profiles", Json.ofStrings p.request.supportedReceiptProfiles),
     ("capabilities", .array (p.request.capabilities.map capabilityJson))]

/-- The event `commit_registration` emits once the record is persisted. -/
def event (p : PendingRegistration) : NewEvent := ⟨"REGISTER", p.nodeId, p.payload⟩

@[simp] theorem id_record (p : PendingRegistration) : p.record.id = p.nodeId := rfl

end PendingRegistration

/-- The event `deregister` emits once the node is removed. -/
def deregisterEvent (nodeId : String) : NewEvent := ⟨"DEREGISTER", nodeId, .object []⟩
