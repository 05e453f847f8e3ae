import IicpDirectory.Json

/-!
# The wire types of the directory

The node a directory lists and the capability variants it advertises, as
`types.rs` declares them. The deserializer of a capability is the derived
one: every field but the intent has a default, an absent field takes it,
and a field that is present with the wrong type refuses the whole variant.
The serializer leaves out what is empty.

A double is a rational number, as in `Json`.
-/

/-- A typed quantitative limit attached to one capability variant. -/
structure CapabilityLimit where
  value : ℚ
  unit : String
  deriving DecidableEq

/-- Provenance for a capability claim: evidence metadata, never
authority. -/
structure CapabilityClaimProvenance where
  source : String
  observedAt : Option String
  validUntil : Option String
  evidenceRef : Option String
  deriving DecidableEq

/-- An accepted namespaced extension. -/
structure CapabilityExtension where
  required : Bool
  value : Json

/-- **One complete service variant for an intent.** Matchers never combine
fields of different variants. -/
structure EffectiveCapability where
  intent : String
  version : Option String
  phase : Option ℕ
  variantId : Option String
  models : List String
  maxTokens : Option ℕ
  quantization : Option String
  inferenceEngine : Option String
  inputModalities : List String
  outputModalities : List String
  features : List String
  executionCapabilities : List String
  limits : List (String × CapabilityLimit)
  supportedProfiles : List String
  claimProvenance : Option CapabilityClaimProvenance
  extensions : List (String × CapabilityExtension)

namespace CapabilityLimit

/-- The derived deserializer of a limit. -/
def ofJson (v : Json) : Option CapabilityLimit := do
  guard (v.isStruct 2)
  let value ← v.fieldReq 0 "value" Json.asF64
  let unit ← v.fieldReq 1 "unit" Json.asStr
  return { value, unit }

/-- The derived serializer of a limit. -/
def toJson (l : CapabilityLimit) : Json :=
  .object [("value", .number (.float l.value)), ("unit", .string l.unit)]

theorem ofJson_toJson (l : CapabilityLimit) : ofJson l.toJson = some l := rfl

end CapabilityLimit

namespace CapabilityClaimProvenance

/-- The derived deserializer of a provenance record. -/
def ofJson (v : Json) : Option CapabilityClaimProvenance := do
  guard (v.isStruct 4)
  let source ← v.fieldReq 0 "source" Json.asStr
  let observedAt ← v.fieldOr 1 "observed_at" none (Json.optional Json.asStr)
  let validUntil ← v.fieldOr 2 "valid_until" none (Json.optional Json.asStr)
  let evidenceRef ← v.fieldOr 3 "evidence_ref" none (Json.optional Json.asStr)
  return { source, observedAt, validUntil, evidenceRef }

/-- The derived serializer of a provenance record: what is absent is left
out. -/
def toJson (p : CapabilityClaimProvenance) : Json :=
  .object ([("source", .string p.source)]
    ++ (p.observedAt.toList.map (fun s => ("observed_at", Json.string s)))
    ++ (p.validUntil.toList.map (fun s => ("valid_until", Json.string s)))
    ++ (p.evidenceRef.toList.map (fun s => ("evidence_ref", Json.string s))))

theorem ofJson_toJson (p : CapabilityClaimProvenance) : ofJson p.toJson = some p := by
  obtain ⟨source, observedAt, validUntil, evidenceRef⟩ := p
  cases observedAt <;> cases validUntil <;> cases evidenceRef <;> rfl

end CapabilityClaimProvenance

namespace CapabilityExtension

/-- The derived deserializer of an extension. -/
def ofJson (v : Json) : Option CapabilityExtension := do
  guard (v.isStruct 2)
  let required ← v.fieldReq 0 "required" Json.asBool
  let value ← v.fieldReq 1 "value" some
  return { required, value }

/-- The derived serializer of an extension. -/
def toJson (e : CapabilityExtension) : Json :=
  .object [("required", .bool e.required), ("value", e.value)]

theorem ofJson_toJson (e : CapabilityExtension) : ofJson e.toJson = some e := rfl

end CapabilityExtension

namespace EffectiveCapability

/-- **The derived deserializer of a capability variant.** Fields it does not
know, such as the `node_id` a snapshot adds, are passed over. -/
def ofJson (v : Json) : Option EffectiveCapability := do
  guard (v.isStruct 16)
  let intent ← v.fieldReq 0 "intent" Json.asStr
  let version ← v.fieldOr 1 "version" none (Json.optional Json.asStr)
  let phase ← v.fieldOr 2 "phase" none (Json.optional Json.asU32)
  let variantId ← v.fieldOr 3 "variant_id" none (Json.optional Json.asStr)
  let models ← v.fieldOr 4 "models" [] (Json.asVec Json.asStr)
  let maxTokens ← v.fieldOr 5 "max_tokens" none (Json.optional Json.asU32)
  let quantization ← v.fieldOr 6 "quantization" none (Json.optional Json.asStr)
  let inferenceEngine ← v.fieldOr 7 "inference_engine" none (Json.optional Json.asStr)
  let inputModalities ← v.fieldOr 8 "input_modalities" [] (Json.asVec Json.asStr)
  let outputModalities ← v.fieldOr 9 "output_modalities" [] (Json.asVec Json.asStr)
  let features ← v.fieldOr 10 "features" [] (Json.asVec Json.asStr)
  let executionCapabilities ←
    v.fieldOr 11 "execution_capabilities" [] (Json.asVec Json.asStr)
  let limits ← v.fieldOr 12 "limits" [] (Json.asMap CapabilityLimit.ofJson)
  let supportedProfiles ← v.fieldOr 13 "supported_profiles" [] (Json.asVec Json.asStr)
  let claimProvenance ←
    v.fieldOr 14 "claim_provenance" none (Json.optional CapabilityClaimProvenance.ofJson)
  let extensions ← v.fieldOr 15 "extensions" [] (Json.asMap CapabilityExtension.ofJson)
  return { intent, version, phase, variantId, models, maxTokens, quantization,
           inferenceEngine, inputModalities, outputModalities, features,
           executionCapabilities, limits, supportedProfiles, claimProvenance,
           extensions }

/-- **The fields of 32 bits fit** in a variant that was read. -/
theorem lt_of_ofJson {v : Json} {c : EffectiveCapability} (h : ofJson v = some c) :
    (∀ n ∈ c.phase, n < 2 ^ 32) ∧ ∀ n ∈ c.maxTokens, n < 2 ^ 32 := by
  have hfield : ∀ {i : ℕ} {name : String} {o : Option ℕ},
      v.fieldOr i name none (Json.optional Json.asU32) = some o → ∀ n ∈ o, n < 2 ^ 32 := by
    intro i name o ho n hn
    unfold Json.fieldOr at ho
    cases hf : v.field i name with
    | none =>
      rw [hf] at ho
      obtain rfl := Option.some.inj ho
      exact absurd hn (by simp)
    | some x =>
      rw [hf] at ho
      obtain rfl : o = some n := hn
      exact Json.lt_of_asU32 (Json.of_optional ho)
  unfold ofJson at h
  obtain ⟨_, _, h⟩ := Option.bind_eq_some_iff.mp h
  obtain ⟨_, _, h⟩ := Option.bind_eq_some_iff.mp h
  obtain ⟨_, _, h⟩ := Option.bind_eq_some_iff.mp h
  obtain ⟨phase, hphase, h⟩ := Option.bind_eq_some_iff.mp h
  obtain ⟨_, _, h⟩ := Option.bind_eq_some_iff.mp h
  obtain ⟨_, _, h⟩ := Option.bind_eq_some_iff.mp h
  obtain ⟨maxTokens, htokens, h⟩ := Option.bind_eq_some_iff.mp h
  have heq : c.phase = phase ∧ c.maxTokens = maxTokens := by
    iterate 10 obtain ⟨_, _, h⟩ := Option.bind_eq_some_iff.mp h
    obtain rfl := Option.some.inj h
    exact ⟨rfl, rfl⟩
  rw [heq.1, heq.2]
  exact ⟨hfield hphase, hfield htokens⟩

/-- A member that is written only when there is something to write. -/
def optMember {α : Type} (key : String) (write : α → Json) :
    Option α → List (String × Json)
  | none => []
  | some a => [(key, write a)]

/-- A list member that is written only when it is not empty. -/
def listMember (key : String) (items : List String) : List (String × Json) :=
  if items.isEmpty then [] else [(key, Json.ofStrings items)]

/-- A map member that is written only when it is not empty. -/
def mapMember {α : Type} (key : String) (write : α → Json)
    (entries : List (String × α)) : List (String × Json) :=
  if entries.isEmpty then []
  else [(key, .object (entries.map (fun e => (e.1, write e.2))))]

/-- The derived serializer of a capability variant: the intent, and then
what is not empty. -/
def members (c : EffectiveCapability) : List (String × Json) :=
  [("intent", Json.string c.intent)]
    ++ optMember "version" Json.string c.version
    ++ optMember "phase" (fun n => .number (.posInt n)) c.phase
    ++ optMember "variant_id" Json.string c.variantId
    ++ listMember "models" c.models
    ++ optMember "max_tokens" (fun n => .number (.posInt n)) c.maxTokens
    ++ optMember "quantization" Json.string c.quantization
    ++ optMember "inference_engine" Json.string c.inferenceEngine
    ++ listMember "input_modalities" c.inputModalities
    ++ listMember "output_modalities" c.outputModalities
    ++ listMember "features" c.features
    ++ listMember "execution_capabilities" c.executionCapabilities
    ++ mapMember "limits" CapabilityLimit.toJson c.limits
    ++ listMember "supported_profiles" c.supportedProfiles
    ++ optMember "claim_provenance" CapabilityClaimProvenance.toJson c.claimProvenance
    ++ mapMember "extensions" CapabilityExtension.toJson c.extensions

end EffectiveCapability

/-- Internal routing inputs, never serialized. -/
structure RoutingPolicyState where
  availabilityScore : ℚ
  backendState : Option String
  pricingCreditsPer1000 : Option ℚ
  deriving DecidableEq

namespace RoutingPolicyState

/-- The default state: fully available, nothing known of the backend. -/
def default : RoutingPolicyState where
  availabilityScore := 1
  backendState := none
  pricingCreditsPer1000 := none

end RoutingPolicyState

/-- **A node as the directory lists it**, field for field. -/
structure Node where
  nodeId : String
  endpoint : String
  region : String
  score : ℚ
  available : Bool
  load : ℚ
  activeJobs : ℕ
  maxConcurrent : ℕ
  reputationScore : ℚ
  reputationModel : Option String
  reputationEpoch : Option String
  latencyEstimateMs : Option ℕ
  completedTasksCount : ℕ
  tasksFailed : ℕ
  healthLabel : Option String
  exposureMode : Option String
  reputationTier : Option String
  transportEndpoint : Option String
  cipConformanceLevel : Option String
  models : List String
  supportedProfiles : List String
  capabilities : List EffectiveCapability
  pricing : Option Json
  natType : Option String
  transportMethod : Option String
  relayCapable : Option Bool
  sdkLanguage : Option String
  implementationName : Option String
  implementationVersion : Option String
  sdkCompatibilityVersion : Option String
  sdkVersion : Option String
  consumerCosignatureReady : Bool
  backend : Option String
  addressFamily : Option String
  cipPolicy : Option Json
  publicKey : Option Json
  transportMetadata : Option Json
  quantization : List String
  inferenceEngine : List String
  creditCostMultiplier : ℚ
  pricingModel : Option String
  attested : Bool
  transport : List String
  reachabilitySignal : ℚ
  operatorPubkey : Option String
  operatorDisplayName : Option String
  operatorFingerprint : Option String
  publicListing : Bool
  operatorUrl : Option String
  policyManifest : Option Json
  operatorVerified : Bool
  operatorTrustTier : Option String
  healthModels : Option (List String)
  routingPolicy : RoutingPolicyState
