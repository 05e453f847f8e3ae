import IicpDirectory.Pricing
import IicpDirectory.Replica.Apply
import IicpDirectory.Seed.Handlers

/-!
# A registration read back by a replica

The seed lists a node and announces it, and a replica lists what it reads
in the announcement. The payload is a literal with five members; the
reading looks for more, and takes a default where it finds nothing. So the
two nodes agree where the seed lists the defaults, and only there.

What the payload does carry is read back as it was: the five members, and
in the last of them every variant with its sixteen fields
(`ofJson_capabilityJson`).
-/

open Replica

namespace PendingRegistration

/-! ## What the payload carries -/

/-- **A variant is read back from the event** as it was declared. -/
theorem ofJson_capabilityJson {c : EffectiveCapability} (hphase : ∀ n ∈ c.phase, n < 2 ^ 32)
    (htokens : ∀ n ∈ c.maxTokens, n < 2 ^ 32) :
    EffectiveCapability.ofJson (capabilityJson c) = some c := by
  have hread : ∀ {o : Option ℕ}, (∀ n ∈ o, n < 2 ^ 32) →
      Json.optional Json.asU32 (Json.ofOption (o.map (fun n => .number (.posInt n)))) = some o :=
    fun h => Json.optional_ofOption (fun n hn => Json.asU32_posInt (h n hn)) (by simp)
  have hclaim : Json.optional CapabilityClaimProvenance.ofJson
      (Json.ofOption (c.claimProvenance.map (fun x => x.toJson))) = some c.claimProvenance :=
    Json.optional_ofOption (fun p _ => CapabilityClaimProvenance.ofJson_toJson p)
      (by simp [CapabilityClaimProvenance.toJson])
  simp [EffectiveCapability.ofJson, capabilityJson, Json.isStruct, Json.fieldReq, Json.fieldOr,
    Json.field, guard, hread hphase, hread htokens, hclaim,
    Json.asMap_object CapabilityLimit.ofJson_toJson,
    Json.asMap_object CapabilityExtension.ofJson_toJson]

theorem getArray_capabilities (p : PendingRegistration) :
    p.payload.getArray "capabilities" = some (p.request.capabilities.map capabilityJson) := rfl

/-- The intents are those of the record. -/
theorem intentsFromPayload_payload (p : PendingRegistration) :
    intentsFromPayload p.payload = p.record.intents := by
  show ((p.payload.getArray "capabilities").getD []).filterMap _ = p.request.capabilities.map _
  rw [getArray_capabilities, Option.getD_some, List.filterMap_map]
  have hintent : ((fun v : Json => v.getStr "intent") ∘ capabilityJson)
      = fun c => some c.intent := by
    funext c
    rfl
  rw [hintent, List.filterMap_eq_map']

/-- **The variants are those of the record**, each as it was declared. -/
theorem capabilitiesFromPayload_payload {p : PendingRegistration}
    (hread : ∀ c ∈ p.request.capabilities, ∃ v, EffectiveCapability.ofJson v = some c) :
    capabilitiesFromPayload p.payload = p.record.node.capabilities := by
  show ((p.payload.getArray "capabilities").getD []).filterMap _ = p.request.capabilities
  rw [getArray_capabilities, Option.getD_some, List.filterMap_map]
  have hback : ∀ c ∈ p.request.capabilities,
      (EffectiveCapability.ofJson ∘ capabilityJson) c = some c := by
    intro c hc
    obtain ⟨v, hv⟩ := hread c hc
    obtain ⟨hphase, htokens⟩ := EffectiveCapability.lt_of_ofJson hv
    exact ofJson_capabilityJson hphase htokens
  rw [List.filterMap_congr hback]
  exact List.filterMap_some

/-- The models are those of the variants, one after the other. -/
theorem models_payload (p : PendingRegistration) :
    Json.strings (((p.payload.getArray "capabilities").getD []).filterMap
        (·.getArray "models")).flatten
      = p.request.capabilities.flatMap (fun c => c.models) := by
  rw [getArray_capabilities, Option.getD_some, List.filterMap_map]
  have hmodels : ((fun v : Json => v.getArray "models") ∘ capabilityJson)
      = fun c => some (c.models.map Json.string) := by
    funext c
    rfl
  rw [hmodels, List.filterMap_eq_map']
  show (p.request.capabilities.map _).flatten.filterMap Json.asStr = _
  rw [List.filterMap_flatten, List.map_map, List.flatMap_def]
  congr 1
  refine List.map_congr_left fun c _ => ?_
  exact Json.strings_ofStrings c.models

/-- A receipt profile is declared when it is read. -/
theorem consumerCosignatureReady_payload (p : PendingRegistration) :
    ((p.payload.getArray "supported_receipt_profiles").getD []).any
        (fun v => v.asStr == some "consumer_cosignature_v1")
      = p.record.node.consumerCosignatureReady := by
  show (p.request.supportedReceiptProfiles.map Json.string).any _
    = p.request.supportedReceiptProfiles.any _
  rw [List.any_map]
  rfl

end PendingRegistration

/-! ## Two records of one registration -/

/-- **Two records agree** on what the reading of a payload takes from it: the
models as sets, the intents and the variants in their order. -/
structure SameRegistration (stored rebuilt : NodeRecord) : Prop where
  endpoint : rebuilt.node.endpoint = stored.node.endpoint
  region : rebuilt.node.region = stored.node.region
  backend : rebuilt.node.backend = stored.node.backend
  exposureMode : rebuilt.node.exposureMode = stored.node.exposureMode
  creditCostMultiplier : rebuilt.node.creditCostMultiplier = stored.node.creditCostMultiplier
  pricingModel : rebuilt.node.pricingModel = stored.node.pricingModel
  policyManifest : rebuilt.node.policyManifest = stored.node.policyManifest
  consumerCosignatureReady :
    rebuilt.node.consumerCosignatureReady = stored.node.consumerCosignatureReady
  models : ∀ model, model ∈ rebuilt.node.models ↔ model ∈ stored.node.models
  intents : rebuilt.intents = stored.intents
  capabilities : rebuilt.node.capabilities = stored.node.capabilities

namespace PendingRegistration

/-- **What `register` admits**: variants that were read off the wire, a
price that is valid, and the multiplier it is bounded to. -/
structure Admitted (p : PendingRegistration) : Prop where
  read : ∀ c ∈ p.request.capabilities, ∃ v, EffectiveCapability.ofJson v = some c
  validPricing : ∀ pricing ∈ p.request.pricing,
    Pricing.validPricing pricing.creditCostMultiplier pricing.pricingModel = true
  bounded : p.pricingMultiplier
    = Pricing.boundedPricing p.node.models (p.request.pricing.map (fun x => x.creditCostMultiplier))

/-- **What a repository keeps** of a registration: its record, with the
reputation of the one it replaces. -/
def Kept (p : PendingRegistration) (stored : NodeRecord) : Prop :=
  stored = p.record ∨ ∃ score, stored = p.record.withReputation score

/-- **A request that says nothing the event leaves out**: no exposure mode,
no policy manifest, and no price but the base price. -/
structure DeclaresDefaults (request : RegisterRequest) : Prop where
  exposureMode : request.exposureMode = none
  policyManifest : request.policyManifest = none
  price : ∀ pricing ∈ request.pricing, pricing.pricingModel = "per_token"
    ∧ pricing.creditCostMultiplier = 1
    ∧ Pricing.FullSized (request.capabilities.flatMap (fun c => c.models)).dedup

variable {p : PendingRegistration} {stored : NodeRecord}

/-- What the in-memory repository finds after a registration. -/
theorem kept_of_find_register {repo : InMemoryRepo}
    (h : (repo.register p.record).find p.nodeId = some stored) : p.Kept stored := by
  rw [InMemoryRepo.find_register, if_pos (id_record p).symm] at h
  obtain rfl := Option.some.inj h
  cases repo.find p.record.id with
  | none => exact Or.inl rfl
  | some old => exact Or.inr ⟨old.node.reputationScore, rfl⟩

/-- **When the price is what the replica assumes.** -/
theorem price_eq_default_iff (h : p.Admitted) :
    (p.node.creditCostMultiplier = 1 ∧ p.node.pricingModel = some "per_token")
      ↔ ∀ pricing ∈ p.request.pricing, pricing.pricingModel = "per_token"
        ∧ pricing.creditCostMultiplier = 1 ∧ Pricing.FullSized p.node.models := by
  have hmultiplier : p.node.creditCostMultiplier = 1
      ↔ ∀ d ∈ p.request.pricing.map (fun x => x.creditCostMultiplier),
        d = 1 ∧ Pricing.FullSized p.node.models := by
    rw [← Pricing.boundedPricing_eq_one_iff, ← h.bounded]
    rfl
  have hmodel : p.node.pricingModel = some "per_token"
      ↔ (p.request.pricing.map (fun x => x.pricingModel)).getD "per_token" = "per_token" :=
    Option.some_inj
  rw [hmultiplier, hmodel]
  cases p.request.pricing with
  | none => simp
  | some pricing =>
    simp only [Option.map_some, Option.getD_some, Option.mem_some_iff, forall_eq']
    tauto

/-- The record itself is rebuilt when the defaults are declared, and when it
is, they are. -/
theorem sameRegistration_record_iff (h : p.Admitted) :
    (∃ node, nodeFromRegister p.nodeId p.payload = some node
        ∧ SameRegistration p.record (replicatedRecord node p.payload))
      ↔ DeclaresDefaults p.request := by
  constructor
  · rintro ⟨node, hnode, hsame⟩
    obtain rfl := Option.some.inj hnode
    exact
      { exposureMode := hsame.exposureMode.symm
        policyManifest := hsame.policyManifest.symm
        price := (price_eq_default_iff h).mp
          ⟨hsame.creditCostMultiplier.symm, hsame.pricingModel.symm⟩ }
  · intro hdefaults
    obtain ⟨hmultiplier, hmodel⟩ := (price_eq_default_iff h).mpr hdefaults.price
    refine ⟨_, rfl, ?_⟩
    exact
      { endpoint := rfl
        region := by
          show ((Json.ofOptionStr p.request.region).asStr).getD "" = p.request.region.getD ""
          cases p.request.region <;> rfl
        backend := by
          show (Json.ofOptionStr p.request.backend).asStr = p.request.backend
          cases p.request.backend <;> rfl
        exposureMode := hdefaults.exposureMode.symm
        creditCostMultiplier := hmultiplier.symm
        pricingModel := hmodel.symm
        policyManifest := hdefaults.policyManifest.symm
        consumerCosignatureReady := consumerCosignatureReady_payload p
        models := fun model => by
          show model ∈ Json.strings _ ↔ model ∈ (p.request.capabilities.flatMap _).dedup
          rw [models_payload, List.mem_dedup]
        intents := intentsFromPayload_payload p
        capabilities := capabilitiesFromPayload_payload h.read }

/-- The reputation is not among what is compared. -/
theorem sameRegistration_withReputation_iff (score : ℚ) {r rebuilt : NodeRecord} :
    SameRegistration (r.withReputation score) rebuilt ↔ SameRegistration r rebuilt :=
  ⟨fun h => { h with }, fun h => { h with }⟩

/-- **The registration a replica reads back is the one the seed keeps if and
only if it declares the defaults.** -/
theorem payload_rebuilds_iff (h : p.Admitted) (hkept : p.Kept stored) :
    (∃ node, nodeFromRegister p.nodeId p.payload = some node
        ∧ SameRegistration stored (replicatedRecord node p.payload))
      ↔ DeclaresDefaults p.request := by
  rw [← sameRegistration_record_iff h]
  rcases hkept with rfl | ⟨score, rfl⟩
  · rfl
  · simp only [sameRegistration_withReputation_iff]

end PendingRegistration

/-! ## A registration that is rebuilt, and one that is not -/

namespace Sample

/-- A registration with a price of its own. -/
def pricedRegistration : PendingRegistration where
  request :=
    { endpoint := "https://n1.test"
      capabilities := [chat]
      pricing := some ⟨2, "per_request"⟩ }
  nodeId := "n1"
  pricingMultiplier := 2
  nodeToken := "node-token"
  proxyToken := "proxy-token"
  nodeHmacKey := "hmac-key"

theorem chat_read : ∃ v, EffectiveCapability.ofJson v = some chat :=
  ⟨_, PendingRegistration.ofJson_capabilityJson (by simp [chat]) (by simp [chat])⟩

theorem registration_admitted (nodeId endpoint : String) :
    (registration nodeId endpoint).Admitted where
  read := fun c hc => List.mem_singleton.mp hc ▸ chat_read
  validPricing := fun _ h => absurd h (by simp [registration])
  bounded := rfl

theorem pricedRegistration_admitted : pricedRegistration.Admitted where
  read := fun c hc => List.mem_singleton.mp hc ▸ chat_read
  validPricing := fun pricing h => by
    obtain rfl : (⟨2, "per_request"⟩ : RegistrationPricing) = pricing := Option.some.inj h
    decide
  bounded := by decide +kernel

end Sample

namespace PendingRegistration

/-- A replica rebuilds the registration of the sample as an empty seed keeps
it. -/
theorem payload_rebuilds_sample :
    ∃ node, nodeFromRegister "n1" (Sample.registration "n1" "https://n1.test").payload = some node
      ∧ SameRegistration (Sample.registration "n1" "https://n1.test").record
        (replicatedRecord node (Sample.registration "n1" "https://n1.test").payload) :=
  (payload_rebuilds_iff (Sample.registration_admitted "n1" "https://n1.test")
    (kept_of_find_register (show (InMemoryRepo.empty.register _).find "n1" = some _ from rfl))).mpr
    { exposureMode := rfl
      policyManifest := rfl
      price := fun _ h => absurd h (by simp [Sample.registration]) }

/-- **A declared price does not reach the replica**: the seed keeps two
credits for a request, the replica lists one for a token. -/
theorem declared_price_lost :
    Sample.pricedRegistration.Admitted
      ∧ ((InMemoryRepo.empty.register Sample.pricedRegistration.record).find "n1").map
          (fun r => (r.node.creditCostMultiplier, r.node.pricingModel))
        = some (2, some "per_request")
      ∧ (nodeFromRegister "n1" Sample.pricedRegistration.payload).map
          (fun node => (node.creditCostMultiplier, node.pricingModel))
        = some (1, some "per_token")
      ∧ ¬ ∃ node, nodeFromRegister "n1" Sample.pricedRegistration.payload = some node
          ∧ SameRegistration Sample.pricedRegistration.record
            (replicatedRecord node Sample.pricedRegistration.payload) := by
  refine ⟨Sample.pricedRegistration_admitted, rfl, rfl, ?_⟩
  rintro ⟨node, hnode, hsame⟩
  obtain rfl := Option.some.inj hnode
  have hprice : (1 : ℚ) = 2 := hsame.creditCostMultiplier
  norm_num at hprice

end PendingRegistration
