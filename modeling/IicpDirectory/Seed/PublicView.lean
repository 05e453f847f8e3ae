import IicpDirectory.DiscoveryPolicy
import IicpDirectory.Endpoints
import IicpDirectory.PolicyManifest
import IicpDirectory.Replica.Apply
import IicpDirectory.Seed.Redaction
import IicpDirectory.Versions

/-!
# The public view of a node

Discovery shows a node twice over. To one that dispatches it shows all of it; to
everyone else it shows what is on a list, and of the identity the first eight
bytes. What is on the list is partly computed of what is not: whether a browser
can use the endpoint, what kind of route it is, whether there is a key.

Of the endpoint these read the scheme, the address family and whether the host is
a loopback name, and of the key whether it is there and its features. So nodes
that agree in these, and in all else but the route, look the same
(`agree_liveMembers`). The bytes of the identity are cut out of a text, though,
and where the eighth is inside a character the call panics
(`public_view_hides_route_iff`).
-/

open Federation Validate

/-! ## The text of an endpoint -/

namespace Discovery

/-- What is before the first `://` of a text, and what is behind it. -/
def splitScheme : List Char → Option (List Char × List Char)
  | [] => none
  | c :: rest =>
    if "://".toList.isPrefixOf (c :: rest) then some ([], rest.drop 2)
    else (splitScheme rest).map fun (before, behind) => (c :: before, behind)

/-- `split("://").nth(1)`. -/
def afterScheme (url : List Char) : Option (List Char) :=
  (splitScheme url).map fun (_, behind) => (splitScheme behind).elim behind Prod.fst

/-- `split(d).next()`. -/
def beforeFirst (d : Char) (text : List Char) : List Char := text.takeWhile (· != d)

/-- `url_host_family`. -/
def urlHostFamily (url : List Char) : String :=
  let host := beforeFirst '/' ((afterScheme url).getD url)
  if host.head? = some '[' then "ipv6"
  else
    let bare := match (host.splitOn ':').reverse with
      | _ :: bare :: _ => bare
      | _ => host
    if bare.all (fun c => c.isDigit || c == '.') && bare.contains '.' then "ipv4"
    else if bare.contains ':' then "ipv6"
    else if bare.isEmpty || bare == "unknown".toList then "unknown"
    else "hostname"

/-- The host that `browser_usable_endpoint` reads. -/
def browserHost (endpoint : List Char) : List Char :=
  let host := beforeFirst '/' ((afterScheme endpoint).getD [])
  let host := match stripPrefix ['['] host with
    | some rest => beforeFirst ']' rest
    | none => beforeFirst ':' host
  host.map Char.toLower

/-- The hosts that are the browser's own machine. -/
def isLoopbackHost (host : List Char) : Bool :=
  ["localhost".toList, "127.0.0.1".toList, "::1".toList].contains host

/-- `browser_usable_endpoint`. -/
def browserUsableEndpoint (endpoint : List Char) : Bool :=
  let lower := endpoint.map Char.toLower
  if "https://".toList.isPrefixOf lower then true
  else if !"http://".toList.isPrefixOf lower then false
  else isLoopbackHost (browserHost endpoint)

/-- `self_attests_route`. -/
def selfAttestsRoute (n : Node) : Bool :=
  decide (1 ≤ n.reachabilitySignal) || n.relayCapable.getD false || n.exposureMode.isSome

/-- `routing_hint`. -/
def routingHint (n : Node) : String :=
  if n.relayCapable.getD false then "relay_service"
  else
    let lower := n.endpoint.toList.map Char.toLower
    if "https://".toList.isPrefixOf lower then "https_direct"
    else if "http://".toList.isPrefixOf lower then
      if urlHostFamily n.endpoint.toList = "ipv6" then "http_ipv6" else "http_direct"
    else "unknown"

end Discovery

/-! ## A node as it is serialized -/

namespace Node

open EffectiveCapability (optMember listMember)

/-- The derived serializer of a node: what is absent or empty is left out, and so
are the fields that are never served. -/
def members (n : Node) : List (String × Json) :=
  [("node_id", .string n.nodeId), ("endpoint", .string n.endpoint)]
    ++ ([("region", .string n.region), ("score", .number (.float n.score)),
        ("available", .bool n.available), ("load", .number (.float n.load)),
        ("active_jobs", .number (.posInt n.activeJobs)),
        ("max_concurrent", .number (.posInt n.maxConcurrent)),
        ("reputation_score", .number (.float n.reputationScore))]
      ++ optMember "reputation_model" .string n.reputationModel
      ++ optMember "reputation_epoch" .string n.reputationEpoch
      ++ optMember "latency_estimate_ms" (fun ms => .number (.posInt ms)) n.latencyEstimateMs
      ++ [("completed_tasks_count", .number (.posInt n.completedTasksCount)),
        ("tasks_failed", .number (.posInt n.tasksFailed))]
      ++ optMember "health_label" .string n.healthLabel
      ++ optMember "exposure_mode" .string n.exposureMode
      ++ optMember "reputation_tier" .string n.reputationTier)
    ++ optMember "transport_endpoint" .string n.transportEndpoint
    ++ (optMember "cip_conformance_level" .string n.cipConformanceLevel
      ++ listMember "models" n.models
      ++ listMember "supported_profiles" n.supportedProfiles
      ++ (if n.capabilities.isEmpty then []
        else [("capabilities", .array (n.capabilities.map fun c => .object c.members))])
      ++ optMember "pricing" id n.pricing
      ++ optMember "nat_type" .string n.natType
      ++ optMember "transport_method" .string n.transportMethod
      ++ optMember "relay_capable" .bool n.relayCapable
      ++ optMember "sdk_language" .string n.sdkLanguage
      ++ optMember "implementation_name" .string n.implementationName
      ++ optMember "implementation_version" .string n.implementationVersion
      ++ optMember "sdk_compatibility_version" .string n.sdkCompatibilityVersion
      ++ optMember "sdk_version" .string n.sdkVersion
      ++ [("consumer_cosignature_ready", .bool n.consumerCosignatureReady)]
      ++ optMember "backend" .string n.backend
      ++ optMember "address_family" .string n.addressFamily
      ++ optMember "cip_policy" id n.cipPolicy)
    ++ (optMember "public_key" id n.publicKey
      ++ optMember "transport_metadata" id n.transportMetadata)
    ++ (listMember "quantization" n.quantization
      ++ listMember "inference_engine" n.inferenceEngine
      ++ [("credit_cost_multiplier", .number (.float n.creditCostMultiplier))]
      ++ optMember "pricing_model" .string n.pricingModel
      ++ [("attested", .bool n.attested)]
      ++ listMember "transport" n.transport
      ++ optMember "operator_display_name" .string n.operatorDisplayName
      ++ optMember "operator_fingerprint" .string n.operatorFingerprint
      ++ [("operator_verified", .bool n.operatorVerified),
        ("operator_trust_tier", Json.ofOptionStr n.operatorTrustTier)]
      ++ optMember "health_models" Json.ofStrings n.healthModels)

end Node

namespace Discovery

open Dsr

/-- `SDK_LATEST_KNOWN_VERSION`. -/
def sdkLatestKnownVersion : String := "0.7.109"

/-- A number that may be missing. -/
def ofOptionNat (n : Option ℕ) : Json := Json.ofOption (n.map fun n => .number (.posInt n))

/-! ## What is computed of a node -/

section Live

variable {T : Type} [LT T] [DecidableLT T] (P : PolicyLibs T) (clock : ℕ → T)

/-- `public_policy_manifest`. -/
def publicPolicyManifest (manifest : Option Json) : Json :=
  match manifest with
  | some (.object (e :: rest)) =>
    let manifest : Json := .object (e :: rest)
    let verification := PolicyManifest.verify P clock manifest
    .object
      [("version", Json.ofOption (manifest.get "version")),
       ("jurisdiction", Json.ofOption (manifest.get "jurisdiction")),
       ("policy_url", Json.ofOption (manifest.get "policy_url")),
       ("contact_url", Json.ofOption (manifest.get "contact_url")),
       ("remote_executor_can_read_prompt",
         .bool (((manifest.get "remote_executor_can_read_prompt").bind Json.asBool).getD true)),
       ("training_use", .string ((manifest.getStr "training_use").getD "provider_defined")),
       ("retention", .object
         [("task_payload", .string
            (((manifest.get "retention").bind (·.getStr "task_payload")).getD "provider_defined")),
          ("logs_days", Json.ofOption ((manifest.get "retention").bind (·.get "logs_days")))]),
       ("subprocessors", .array ((manifest.getArray "subprocessors").getD [])),
       ("unsupported_intents", .array ((manifest.getArray "unsupported_intents").getD [])),
       ("signed_statement", Json.ofOption (manifest.get "signed_statement")),
       ("manifest_identity_level", .string verification.manifestIdentityLevel),
       ("operator_fingerprint", .null),
       ("policy_key_fingerprint", Json.ofOptionStr verification.policyKeyFingerprint),
       ("revoked_at", Json.ofOptionStr verification.revokedAt),
       ("rotation_epoch", ofOptionNat verification.rotationEpoch),
       ("revocation_reason_class", Json.ofOptionStr verification.revocationReasonClass),
       ("operator_governance", .object
         [("accepted", .bool false), ("terms_version", .null), ("dpa_version", .null),
          ("legal_certification", .bool false)]),
       ("verification", .object
         [("status", .string verification.status.text),
          ("algorithm", Json.ofOptionStr verification.algorithm),
          ("key_id", Json.ofOptionStr verification.keyId),
          ("signed_at", Json.ofOptionStr verification.signedAt),
          ("expires_at", Json.ofOptionStr verification.expiresAt),
          ("canonical_sha256", .string verification.canonicalSha256),
          ("public_key_sha256", Json.ofOptionStr verification.publicKeySha256),
          ("error", Json.ofOptionStr verification.error)]),
       ("evidence", .string verification.evidence)]
  | _ => .null

/-- The key a node has, or `null`. -/
def publicKeyOf (n : Node) : Json := n.publicKey.getD .null

/-- Whether a key says that responses can be encrypted. -/
def responseEncryptionReady (publicKey : Json) : Bool :=
  (publicKey.getArray "features").any fun features =>
    features.any fun feature => feature.asStr == some "response_encryption_v1"

/-- Of the key. -/
def keyMembers (n : Node) : List (String × Json) :=
  [("cx_public_key", publicKeyOf n), ("public_key", publicKeyOf n),
   ("key_ready", .bool !(publicKeyOf n).isNull),
   ("response_encryption_ready", .bool (responseEncryptionReady (publicKeyOf n))),
   ("privacy_routing_status",
     .string (if !(publicKeyOf n).isNull then "key_ready" else "transitional"))]

/-- How the version of a node is to the latest one. -/
def sdkRelation (version : Option String) : String :=
  match version with
  | none => "unknown"
  | some version =>
    if versionParts version = versionParts sdkLatestKnownVersion then "latest_known"
    else if versionAtLeast version sdkLatestKnownVersion then "ahead_of_known"
    else "behind_known"

/-- Of the version. -/
def sdkMembers (n : Node) : List (String × Json) :=
  let status := sdkStatus n.effectiveSdkCompatibilityVersion
  [("sdk_status", .string status),
   ("sdk_baseline_version", .string sdkBaselineVersion),
   ("upgrade_required", .bool (status != "current")),
   ("sdk_release", .object
     [("compatibility", .string status),
      ("relation", .string (sdkRelation n.effectiveSdkCompatibilityVersion)),
      ("latest_known_version", .string sdkLatestKnownVersion),
      ("latest_known_source", .string "directory_release_manifest")]),
   ("auto_update", .object
     [("enabled", .null), ("interval_s", .null),
      ("latest_seen", Json.ofOptionStr n.effectiveSdkCompatibilityVersion),
      ("last_checked_at", .null), ("error_class", .null), ("evidence", .string "unknown")])]

/-- Of the tasks and the reputation. -/
def progressMembers (n : Node) : List (String × Json) :=
  let completed := n.completedTasksCount
  [("probation", .bool (decide (completed < 100))),
   ("trust_progress", .object
     [("completed_tasks", .number (.posInt completed)),
      ("gold_min_tasks", .number (.posInt 100)),
      ("platinum_min_tasks", .number (.posInt 1000)),
      ("tasks_until_gold", .number (.posInt (100 - completed))),
      ("tasks_until_platinum", .number (.posInt (1000 - completed))),
      ("gold_task_threshold_met", .bool (decide (100 ≤ completed))),
      ("gold_reputation_threshold_met", .bool (decide (13 / 20 ≤ n.reputationScore))),
      ("remaining_gold_requirements", Json.ofStrings
        ((if completed < 100 then ["completed_tasks"] else [])
          ++ (if n.reputationScore < 13 / 20 then ["reputation_score"] else []))),
      ("probation", .bool (decide (completed < 100)))])]

/-- Of the route. -/
def routeMembers (n : Node) : List (String × Json) :=
  let observed := decide (1 ≤ n.reachabilitySignal)
  [("directory_observed_reachable", if observed then .bool true else .null),
   ("route_evidence", .string
     (if observed then "directory_observed"
      else if selfAttestsRoute n then "self_attested" else "missing")),
   ("routing_hint", .string (routingHint n)),
   ("browser_usable", .bool (browserUsableEndpoint n.endpoint.toList)),
   ("reachability_tier", .string
     (if observed then "direct"
      else if n.relayCapable.getD false || n.exposureMode.isSome then "relay" else "limited"))]

/-- Of the backend, and of the models. -/
def backendMembers (n : Node) : List (String × Json) :=
  [("backend", .string (n.backend.getD "unknown")),
   ("backend_stability", .object
     [("backend_state", .string "unknown"), ("reason_class", .string "not_reported"),
      ("routing_guard", .string "none"), ("evidence", .string "not_reported"),
      ("retry_after_s", .null), ("drain_until", .null),
      ("summary", .string "Backend stability has not been reported yet.")]),
   ("capability_summary", .object
     [("registered_model_count", .number (.posInt n.models.length)),
      ("live_model_count", .number (.posInt n.liveModels.length)),
      ("modalities", Json.ofStrings ["text"])]),
   ("input_modalities", Json.ofStrings ["text"])]

/-- The price, where none is given. -/
def withPricing (n : Node) (obj : List (String × Json)) : List (String × Json) :=
  if ((Json.object obj).get "pricing").all Json.isNull then
    insertMember obj ("pricing", .object
      [("credit_cost_multiplier", .number (.float n.creditCostMultiplier)),
       ("pricing_model", .string (n.pricingModel.getD "per_token")),
       ("attested", .bool n.attested)])
  else obj

/-- Of the latency. -/
def latencyMembers (n : Node) : List (String × Json) :=
  [("performance", .object
     [("task_latency_ms", ofOptionNat n.latencyEstimateMs),
      ("task_latency_ms_basis",
        .string (if n.latencyEstimateMs.isSome then "proxy_observed_task" else "none")),
      ("proxy_observed_latency_ms", ofOptionNat n.latencyEstimateMs),
      ("self_reported_recent_latency_ms", .null), ("self_reported_lifetime_latency_ms", .null),
      ("health_impact", .string "separate_from_operational_health"),
      ("summary", .string
        "Task/inference latency is a performance signal, not a reachability-health input.")]),
   ("latency_evidence", .object
     [("estimate_ms", ofOptionNat n.latencyEstimateMs),
      ("basis", .string (if n.latencyEstimateMs.isSome then "multi_proxy_ema" else "none"))])]

/-- One of the reasons of a health. -/
def healthReason (dimension state reason evidence : String) : Json :=
  .object
    [("dimension", .string dimension), ("state", .string state), ("reason", .string reason),
     ("evidence", .string evidence)]

/-- The reasons, of a node and its policy as it is shown. -/
def healthReasons (n : Node) (policy : Json) : Json :=
  let observed := decide (1 ≤ n.reachabilitySignal)
  let pending := decide (n.completedTasksCount < 100)
  let policyStatus := (policy.get "verification").bind (·.getStr "status")
  .array
    [healthReason "reachability" (if observed then "reachable" else "unknown")
       (if observed then "directory_observation" else "not_directory_observed")
       (if observed then "directory_observed" else "none"),
     healthReason "backend" "unknown" "not_reported" "not_reported",
     healthReason "trust" (if pending then "probation" else "established")
       (if pending then "task_threshold_pending" else "task_threshold_met")
       "directory_accounting",
     healthReason "policy"
       (if policy.isNull then "missing"
        else if policyStatus = some "verified" then "verified" else "unverified")
       (if policy.isNull then "manifest_not_provided"
        else policyStatus.getD "signature_not_verified")
       (if policy.isNull then "none" else "manifest_projection")]

/-- The confidence in a health, where none is given. -/
def withHealthConfidence (n : Node) (obj : List (String × Json)) : List (String × Json) :=
  if ((Json.object obj).get "health_confidence").isSome then obj
  else insertMember obj
    ("health_confidence", .string (if n.healthLabel = some "healthy" then "medium" else "low"))

/-- The fields that are kept inside. -/
def internalFields : List String :=
  ["completed_tasks_count", "tasks_failed", "credit_cost_multiplier", "pricing_model", "attested",
    "operator_verified", "operator_trust_tier", "health_models"]

/-- The members of what `live_node_value` makes of a node. -/
def liveMembers (n : Node) : List (String × Json) :=
  let obj := insertMember n.members
    ("node_policy_manifest", publicPolicyManifest P clock n.policyManifest)
  let obj := (keyMembers n).foldl insertMember obj
  let obj := (sdkMembers n ++ progressMembers n ++ routeMembers n ++ backendMembers n).foldl
    insertMember obj
  let obj := withPricing n obj
  let obj := (latencyMembers n).foldl insertMember obj
  let policy := ((Json.object obj).get "node_policy_manifest").getD .null
  let obj := insertMember obj ("health_reasons", healthReasons n policy)
  let obj := withHealthConfidence n obj
  internalFields.foldl (fun obj field => obj.filter fun e => e.1 != field) obj

/-- **`live_node_value`.** -/
def liveNodeValue (n : Node) : Json := .object (liveMembers P clock n)

end Live

/-! ## What is shown to everyone -/

/-- The fields that are shown. -/
def allowedFields : List String :=
  ["region", "score", "available", "relay_capable", "transport_method", "nat_type",
    "address_family", "transport", "reachability_tier", "directory_observed_reachable",
    "route_evidence", "routing_hint", "browser_usable", "exposure_mode", "key_ready",
    "response_encryption_ready", "privacy_routing_status", "sdk_language", "implementation_name",
    "implementation_version", "sdk_compatibility_version", "sdk_version",
    "consumer_cosignature_ready", "sdk_status", "sdk_baseline_version", "upgrade_required",
    "health_label", "health_confidence", "performance", "backend_stability", "reputation_score",
    "reputation_tier", "trust_progress", "probation", "models", "capability_summary",
    "input_modalities", "quantization", "inference_engine", "supported_profiles", "capabilities",
    "backend", "cip_policy", "cip_conformance_level", "pricing", "operator_display_name",
    "operator_fingerprint", "node_policy_manifest"]

/-- A field is shown if it is there, and is not `null`. -/
def showField (source : Json) (shown : List (String × Json)) (field : String) :
    List (String × Json) :=
  match (source.get field).filter (fun value => !value.isNull) with
  | some value => insertMember shown (field, value)
  | none => shown

/-- The prefix of the identity. A text that cannot be cut behind its eighth byte
ends the call. -/
def nodeIdPrefix (source : Json) : Option (List (String × Json)) :=
  match source.getStr "node_id" with
  | some nodeId => (CreditDb.bytePrefix 8 nodeId.toList).map fun cs =>
      [("node_id_prefix", .string (String.ofList cs))]
  | none => some []

/-- **`public_discover_node`**; `none` where the call panics. -/
def publicDiscoverNode (value : Json) : Option Json :=
  match value with
  | .object _ => (nodeIdPrefix value).map fun shown =>
      .object (allowedFields.foldl (showField value) shown)
  | _ => some (.object [])

end Discovery

/-! ## Nodes that agree but for the route -/

/-- **The scheme of a URL**: what is before `://`, in small letters; a text without
it has none. -/
def urlScheme (url : List Char) : Option (List Char) :=
  (Discovery.splitScheme url).map fun p => p.1.map Char.toLower

/-- Endpoints of one scheme and one address family, both with a loopback host or
neither. -/
structure SameRouteClass (endpoint endpoint' : List Char) : Prop where
  scheme : urlScheme endpoint = urlScheme endpoint'
  family : Discovery.urlHostFamily endpoint = Discovery.urlHostFamily endpoint'
  loopback : Discovery.isLoopbackHost (Discovery.browserHost endpoint)
    = Discovery.isLoopbackHost (Discovery.browserHost endpoint')

/-- Keys that are both there or both not, and have the same features. -/
structure SameKeyClass (key key' : Json) : Prop where
  presence : key.isNull = key'.isNull
  features : key.get "features" = key'.get "features"

/-- **What of a node is its route**: where it is reached, under what identity, and
with what keys. -/
structure Route where
  nodeId : String
  endpoint : String
  transportEndpoint : Option String
  publicKey : Option Json
  operatorPubkey : Option String
  operatorUrl : Option String
  transportMetadata : Option Json

namespace Node

/-- The route of a node. -/
def route (n : Node) : Route where
  nodeId := n.nodeId
  endpoint := n.endpoint
  transportEndpoint := n.transportEndpoint
  publicKey := n.publicKey
  operatorPubkey := n.operatorPubkey
  operatorUrl := n.operatorUrl
  transportMetadata := n.transportMetadata

/-- The same node with another route. -/
def withRoute (n : Node) (r : Route) : Node :=
  { n with
    nodeId := r.nodeId
    endpoint := r.endpoint
    transportEndpoint := r.transportEndpoint
    publicKey := r.publicKey
    operatorPubkey := r.operatorPubkey
    operatorUrl := r.operatorUrl
    transportMetadata := r.transportMetadata }

/-- **Nodes that differ in the route alone**: of the identity the first eight
characters are the same, the endpoint is of the same class, and so is the key. -/
structure SameButRoute (n n' : Node) : Prop where
  rest : n' = n.withRoute n'.route
  nodeId : n.nodeId.toList.take 8 = n'.nodeId.toList.take 8
  endpoint : SameRouteClass n.endpoint.toList n'.endpoint.toList
  publicKey : SameKeyClass (Discovery.publicKeyOf n) (Discovery.publicKeyOf n')

theorem SameButRoute.refl (n : Node) : n.SameButRoute n where
  rest := rfl
  nodeId := rfl
  endpoint := ⟨rfl, rfl, rfl⟩
  publicKey := ⟨rfl, rfl⟩

end Node

/-! ## What is read of an endpoint -/

namespace Discovery

/-- A text that starts with a scheme has it. -/
theorem splitScheme_append {scheme : List Char} (h : ':' ∉ scheme) (rest : List Char) :
    splitScheme (scheme ++ "://".toList ++ rest) = some (scheme, rest) := by
  induction scheme with
  | nil => rfl
  | cons c scheme ih =>
    rw [List.mem_cons, not_or] at h
    have hnot : "://".toList.isPrefixOf (c :: (scheme ++ "://".toList ++ rest)) = false := by
      show ((':' == c) && _) = false
      rw [beq_eq_false_iff_ne.mpr h.1, Bool.false_and]
    rw [List.cons_append, List.cons_append, splitScheme, if_neg (by rw [hnot]; decide),
      ih h.2]
    rfl

/-- What is split is put together again. -/
theorem append_of_splitScheme {url before behind : List Char}
    (h : splitScheme url = some (before, behind)) : url = before ++ "://".toList ++ behind := by
  induction url generalizing before with
  | nil => cases h
  | cons c rest ih =>
    rw [splitScheme] at h
    split at h
    · rename_i hprefix
      obtain ⟨rfl, rfl⟩ := Prod.mk.inj (Option.some.inj h)
      obtain ⟨tail, htail⟩ := List.isPrefixOf_iff_prefix.mp hprefix
      obtain ⟨rfl, rfl⟩ := List.cons.inj htail
      rfl
    · obtain ⟨⟨before', behind'⟩, hsplit, heq⟩ := Option.map_eq_some_iff.mp h
      obtain ⟨rfl, rfl⟩ := Prod.mk.inj heq
      rw [ih hsplit]
      rfl

/-- **An endpoint starts with a scheme, in whatever letters, if that is its
scheme.** -/
theorem isPrefixOf_toLower_iff {scheme : List Char} (h : ':' ∉ scheme) (url : List Char) :
    (scheme ++ "://".toList).isPrefixOf (url.map Char.toLower) = true
      ↔ urlScheme url = some scheme := by
  have hcaseless : ∀ d ∈ "://".toList, Addresses.Caseless d := by
    have hboth : Addresses.Caseless ':' ∧ Addresses.Caseless '/' := ⟨by decide, by decide⟩
    show ∀ d ∈ [':', '/', '/'], Addresses.Caseless d
    simp only [List.forall_mem_cons, List.not_mem_nil, false_imp_iff, implies_true, and_true]
    exact ⟨hboth.1, hboth.2, hboth.2⟩
  have hcolon : ∀ {text : List Char}, ':' ∉ text.map Char.toLower → ':' ∉ text := by
    intro text hnot hmem
    exact hnot (List.mem_map.mpr ⟨':', hmem, rfl⟩)
  rw [List.isPrefixOf_iff_prefix, urlScheme, Option.map_eq_some_iff]
  constructor
  · rintro ⟨rest, hrest⟩
    obtain ⟨front, behind, rfl, hfront, -⟩ := List.map_eq_append_iff.mp hrest.symm
    obtain ⟨before, separator, rfl, rfl, hseparator⟩ := List.map_eq_append_iff.mp hfront
    rw [(Addresses.map_toLower_eq_iff hcaseless).mp hseparator]
    exact ⟨(before, behind), splitScheme_append (hcolon h) behind, rfl⟩
  · rintro ⟨⟨before, behind⟩, hsplit, rfl⟩
    rw [append_of_splitScheme hsplit, List.map_append, List.map_append]
    exact ⟨behind.map Char.toLower, rfl⟩

/-- Endpoints of one scheme start alike. -/
theorem isPrefixOf_congr {endpoint endpoint' : List Char}
    (h : urlScheme endpoint = urlScheme endpoint') :
    "https://".toList.isPrefixOf (endpoint.map Char.toLower)
        = "https://".toList.isPrefixOf (endpoint'.map Char.toLower)
      ∧ "http://".toList.isPrefixOf (endpoint.map Char.toLower)
        = "http://".toList.isPrefixOf (endpoint'.map Char.toLower) := by
  have hscheme : ∀ scheme : List Char, ':' ∉ scheme →
      (scheme ++ "://".toList).isPrefixOf (endpoint.map Char.toLower)
        = (scheme ++ "://".toList).isPrefixOf (endpoint'.map Char.toLower) := by
    intro scheme hcolon
    rw [Bool.eq_iff_iff, isPrefixOf_toLower_iff hcolon, isPrefixOf_toLower_iff hcolon, h]
  exact ⟨hscheme "https".toList (by decide), hscheme "http".toList (by decide)⟩

/-- **A browser can use both endpoints of a class**, or neither. -/
theorem browserUsableEndpoint_congr {endpoint endpoint' : List Char}
    (h : SameRouteClass endpoint endpoint') :
    browserUsableEndpoint endpoint = browserUsableEndpoint endpoint' := by
  obtain ⟨hhttps, hhttp⟩ := isPrefixOf_congr h.scheme
  unfold browserUsableEndpoint
  simp only
  rw [hhttps, hhttp, h.loopback]

/-- Nodes that differ in the route have one hint. -/
theorem routingHint_withRoute {n : Node} {r : Route}
    (h : SameRouteClass n.endpoint.toList r.endpoint.toList) :
    routingHint (n.withRoute r) = routingHint n := by
  obtain ⟨hhttps, hhttp⟩ := isPrefixOf_congr h.scheme
  unfold routingHint
  simp only
  rw [hhttps, hhttp, h.family]
  rfl

/-! ## Objects that agree but for some members -/

/-- **Objects that agree but for some members**: they have the same under every
other key. -/
def AgreeBut (hidden : List String) (entries entries' : List (String × Json)) : Prop :=
  ∀ key ∉ hidden, (Json.object entries).get key = (Json.object entries').get key

namespace AgreeBut

variable {hidden : List String} {entries entries' others others' : List (String × Json)}

theorem refl (entries : List (String × Json)) : AgreeBut hidden entries entries := fun _ _ => rfl

/-- Members under hidden keys do not count. -/
theorem of_hidden (h : ∀ e ∈ entries, e.1 ∈ hidden) (h' : ∀ e ∈ entries', e.1 ∈ hidden) :
    AgreeBut hidden entries entries' := by
  have hnone : ∀ {entries : List (String × Json)}, (∀ e ∈ entries, e.1 ∈ hidden) →
      ∀ key ∉ hidden, (Json.object entries).get key = none := by
    intro entries hentries key hkey
    rw [Json.get_object, Option.map_eq_none_iff, List.find?_eq_none]
    intro e he heq
    have hname : e.1 = key := eq_of_beq heq
    exact hkey (hname ▸ hentries e he)
  intro key hkey
  rw [hnone h key hkey, hnone h' key hkey]

theorem append (h : AgreeBut hidden entries entries') (hothers : AgreeBut hidden others others') :
    AgreeBut hidden (entries ++ others) (entries' ++ others') := by
  intro key hkey
  have hentries := h key hkey
  have hothers := hothers key hkey
  rw [Json.get_object, Json.get_object] at hentries hothers
  rw [Json.get_object, Json.get_object, List.find?_append, List.find?_append, Option.map_or,
    Option.map_or, hentries, hothers]

/-- **A member that is inserted in both** keeps them so, if it is the same or
hidden. -/
theorem insertMember (h : AgreeBut hidden entries entries') {key : String} {v v' : Json}
    (hv : key ∉ hidden → v = v') :
    AgreeBut hidden (Dsr.insertMember entries (key, v)) (Dsr.insertMember entries' (key, v')) := by
  intro name hname
  rw [Dsr.get_insertMember, Dsr.get_insertMember, h name hname]
  by_cases hkey : key = name
  · rw [if_pos hkey, if_pos hkey, hv (hkey ▸ hname)]
  · rw [if_neg hkey, if_neg hkey]

/-- So do members that are the same. -/
theorem foldl_insertMember (h : AgreeBut hidden entries entries')
    (members : List (String × Json)) :
    AgreeBut hidden (members.foldl Dsr.insertMember entries)
      (members.foldl Dsr.insertMember entries') := by
  induction members generalizing entries entries' with
  | nil => exact h
  | cons e rest ih => exact ih (h.insertMember fun _ => rfl)

/-- And fields that are taken out of both. -/
theorem foldl_filter (h : AgreeBut hidden entries entries') (fields : List String) :
    AgreeBut hidden (fields.foldl (fun obj field => obj.filter fun e => e.1 != field) entries)
      (fields.foldl (fun obj field => obj.filter fun e => e.1 != field) entries') := by
  induction fields generalizing entries entries' with
  | nil => exact h
  | cons field rest ih =>
    refine ih fun key hkey => ?_
    by_cases hfield : key = field
    · rw [hfield]
      exact (Json.get_remove_self entries field).trans (Json.get_remove_self entries' field).symm
    · exact (Json.get_remove_of_ne entries hfield).trans
        ((h key hkey).trans (Json.get_remove_of_ne entries' hfield).symm)

end AgreeBut

/-! ## What is computed of a node, and its route -/

/-- The members that tell the route. -/
def hiddenKeys : List String :=
  ["node_id", "endpoint", "transport_endpoint", "cx_public_key", "public_key",
    "transport_metadata"]

theorem mem_hidden_of_optMember {α : Type} {key : String} (write : α → Json) (value : Option α)
    (h : key ∈ hiddenKeys) : ∀ e ∈ EffectiveCapability.optMember key write value,
      e.1 ∈ hiddenKeys := by
  intro e he
  cases value with
  | none => exact absurd he List.not_mem_nil
  | some a =>
    obtain rfl := List.mem_singleton.mp he
    exact h

/-- **A node is serialized the same** but for its route. -/
theorem agree_members (n : Node) (r : Route) :
    AgreeBut hiddenKeys n.members (n.withRoute r).members := by
  have hidden : ∀ {α : Type} {key : String} (write : α → Json) (value value' : Option α),
      key ∈ hiddenKeys → AgreeBut hiddenKeys (EffectiveCapability.optMember key write value)
        (EffectiveCapability.optMember key write value') :=
    fun write value value' h => AgreeBut.of_hidden (mem_hidden_of_optMember write value h)
      (mem_hidden_of_optMember write value' h)
  have hroute : ∀ nodeId endpoint : String,
      ∀ e ∈ [("node_id", Json.string nodeId), ("endpoint", Json.string endpoint)],
        e.1 ∈ hiddenKeys := by
    intro nodeId endpoint e he
    rw [List.mem_cons, List.mem_singleton] at he
    rcases he with rfl | rfl
    · show "node_id" ∈ hiddenKeys
      decide
    · show "endpoint" ∈ hiddenKeys
      decide
  unfold Node.members
  refine AgreeBut.append (AgreeBut.append (AgreeBut.append (AgreeBut.append (AgreeBut.append
    ?_ (AgreeBut.refl _)) ?_) (AgreeBut.refl _)) (AgreeBut.append ?_ ?_)) (AgreeBut.refl _)
  · exact AgreeBut.of_hidden (hroute _ _) (hroute _ _)
  · exact hidden _ _ _ (by decide)
  · exact hidden _ _ _ (by decide)
  · exact hidden _ _ _ (by decide)

theorem responseEncryptionReady_congr {key key' : Json}
    (h : key.get "features" = key'.get "features") :
    responseEncryptionReady key = responseEncryptionReady key' := by
  unfold responseEncryptionReady Json.getArray
  rw [h]

/-- What is said of the keys is the same, but for the keys themselves. -/
theorem AgreeBut.keyMembers {entries entries' : List (String × Json)}
    (h : AgreeBut hiddenKeys entries entries') {n n' : Node}
    (hkey : SameKeyClass (publicKeyOf n) (publicKeyOf n')) :
    AgreeBut hiddenKeys ((keyMembers n).foldl Dsr.insertMember entries)
      ((keyMembers n').foldl Dsr.insertMember entries') := by
  have hready := responseEncryptionReady_congr hkey.features
  unfold Discovery.keyMembers
  rw [hkey.presence, hready]
  exact AgreeBut.foldl_insertMember
    ((h.insertMember fun hnot => absurd (by decide) hnot).insertMember
      fun hnot => absurd (by decide) hnot) _

theorem AgreeBut.withPricing {entries entries' : List (String × Json)}
    (h : AgreeBut hiddenKeys entries entries') (n : Node) :
    AgreeBut hiddenKeys (withPricing n entries) (withPricing n entries') := by
  unfold Discovery.withPricing
  rw [h "pricing" (by decide)]
  split
  · exact h.insertMember fun _ => rfl
  · exact h

theorem AgreeBut.withHealthConfidence {entries entries' : List (String × Json)}
    (h : AgreeBut hiddenKeys entries entries') (n : Node) :
    AgreeBut hiddenKeys (withHealthConfidence n entries) (withHealthConfidence n entries') := by
  unfold Discovery.withHealthConfidence
  rw [h "health_confidence" (by decide)]
  split
  · exact h
  · exact h.insertMember fun _ => rfl

section Live

variable {T : Type} [LT T] [DecidableLT T] (P : PolicyLibs T) (clock : ℕ → T)

/-- **What is computed of nodes that differ in the route is the same**, but for
the members that tell the route. -/
theorem agree_liveMembers {n : Node} {r : Route}
    (hendpoint : SameRouteClass n.endpoint.toList r.endpoint.toList)
    (hkey : SameKeyClass (publicKeyOf n) (publicKeyOf (n.withRoute r))) :
    AgreeBut hiddenKeys (liveMembers P clock n) (liveMembers P clock (n.withRoute r)) := by
  have hroute : routeMembers (n.withRoute r) = routeMembers n := by
    have husable := browserUsableEndpoint_congr hendpoint
    unfold routeMembers
    rw [routingHint_withRoute hendpoint, husable]
    rfl
  have hcomputed : sdkMembers (n.withRoute r) ++ progressMembers (n.withRoute r)
        ++ routeMembers (n.withRoute r) ++ backendMembers (n.withRoute r)
      = sdkMembers n ++ progressMembers n ++ routeMembers n ++ backendMembers n := by
    rw [hroute]
    rfl
  have hmanifest : AgreeBut hiddenKeys
      (Dsr.insertMember n.members
        ("node_policy_manifest", publicPolicyManifest P clock n.policyManifest))
      (Dsr.insertMember (n.withRoute r).members
        ("node_policy_manifest", publicPolicyManifest P clock (n.withRoute r).policyManifest)) :=
    (agree_members n r).insertMember fun _ => rfl
  have hlatency := ((((hmanifest.keyMembers hkey).foldl_insertMember
    (sdkMembers n ++ progressMembers n ++ routeMembers n ++ backendMembers n)).withPricing
      n).foldl_insertMember (latencyMembers n))
  have hpricing : withPricing (n.withRoute r) = withPricing n := rfl
  have hlatencies : latencyMembers (n.withRoute r) = latencyMembers n := rfl
  have hreasons : healthReasons (n.withRoute r) = healthReasons n := rfl
  have hconfidence : withHealthConfidence (n.withRoute r) = withHealthConfidence n := rfl
  unfold liveMembers
  simp only
  rw [hcomputed, hpricing, hlatencies, hreasons, hconfidence]
  refine AgreeBut.foldl_filter
    (AgreeBut.withHealthConfidence (hlatency.insertMember fun _ => ?_) n) _
  exact congrArg (fun policy => healthReasons n (Option.getD policy .null))
    (hlatency "node_policy_manifest" (by decide))

/-! ## The prefix of the identity -/

/-- What is inserted under other keys leaves a member. -/
theorem get_foldl_insertMember_of_notMem {members : List (String × Json)} {name : String}
    (h : name ∉ members.map Prod.fst) (entries : List (String × Json)) :
    (Json.object (members.foldl Dsr.insertMember entries)).get name
      = (Json.object entries).get name := by
  induction members generalizing entries with
  | nil => rfl
  | cons e rest ih =>
    rw [List.map_cons, List.mem_cons, not_or] at h
    rw [List.foldl_cons, ih h.2, Dsr.get_insertMember, if_neg (Ne.symm h.1)]

/-- So does what is taken out. -/
theorem get_foldl_filter_of_notMem {fields : List String} {name : String} (h : name ∉ fields)
    (entries : List (String × Json)) :
    (Json.object (fields.foldl (fun obj field => obj.filter fun e => e.1 != field) entries)).get
      name = (Json.object entries).get name := by
  induction fields generalizing entries with
  | nil => rfl
  | cons field rest ih =>
    rw [List.mem_cons, not_or] at h
    rw [List.foldl_cons, ih h.2]
    exact Json.get_remove_of_ne entries h.1

theorem get_nodeId_members (n : Node) :
    (Json.object n.members).get "node_id" = some (.string n.nodeId) := by
  simp [Node.members]

/-- **The identity is that of the node.** -/
theorem getStr_nodeId_liveNodeValue (n : Node) :
    (liveNodeValue P clock n).getStr "node_id" = some n.nodeId := by
  have hpricing : ∀ entries, (Json.object (withPricing n entries)).get "node_id"
      = (Json.object entries).get "node_id" := by
    intro entries
    unfold withPricing
    split
    · rw [Dsr.get_insertMember, if_neg (show "pricing" ≠ "node_id" by decide)]
    · rfl
  have hconfidence : ∀ entries, (Json.object (withHealthConfidence n entries)).get "node_id"
      = (Json.object entries).get "node_id" := by
    intro entries
    unfold withHealthConfidence
    split
    · rfl
    · rw [Dsr.get_insertMember, if_neg (show "health_confidence" ≠ "node_id" by decide)]
  have hget : (liveNodeValue P clock n).get "node_id" = some (.string n.nodeId) := by
    unfold liveNodeValue liveMembers
    simp only
    rw [get_foldl_filter_of_notMem (by decide), hconfidence, Dsr.get_insertMember,
      if_neg (show "health_reasons" ≠ "node_id" by decide),
      get_foldl_insertMember_of_notMem (show "node_id" ∉ ["performance", "latency_evidence"] by
        decide),
      hpricing,
      get_foldl_insertMember_of_notMem (show "node_id" ∉ ["sdk_status", "sdk_baseline_version",
        "upgrade_required", "sdk_release", "auto_update", "probation", "trust_progress",
        "directory_observed_reachable", "route_evidence", "routing_hint", "browser_usable",
        "reachability_tier", "backend", "backend_stability", "capability_summary",
        "input_modalities"] by decide),
      get_foldl_insertMember_of_notMem (show "node_id" ∉ ["cx_public_key", "public_key",
        "key_ready", "response_encryption_ready", "privacy_routing_status"] by decide),
      Dsr.get_insertMember, if_neg (show "node_policy_manifest" ≠ "node_id" by decide),
      get_nodeId_members]
  unfold Json.getStr
  rw [hget]
  rfl

/-- **What everyone sees of a node.** -/
theorem publicDiscoverNode_liveNodeValue (n : Node) :
    publicDiscoverNode (liveNodeValue P clock n)
      = (CreditDb.bytePrefix 8 n.nodeId.toList).map fun cs =>
        .object (allowedFields.foldl (showField (liveNodeValue P clock n))
          [("node_id_prefix", .string (String.ofList cs))]) := by
  have hprefix : nodeIdPrefix (liveNodeValue P clock n)
      = (CreditDb.bytePrefix 8 n.nodeId.toList).map fun cs =>
        [("node_id_prefix", .string (String.ofList cs))] := by
    unfold nodeIdPrefix
    rw [getStr_nodeId_liveNodeValue]
  have hobject : publicDiscoverNode (liveNodeValue P clock n)
      = (nodeIdPrefix (liveNodeValue P clock n)).map fun shown =>
        .object (allowedFields.foldl (showField (liveNodeValue P clock n)) shown) := rfl
  rw [hobject, hprefix, Option.map_map]
  exact congrArg (fun f => Option.map f _) (funext fun _ => rfl)

end Live

/-- Objects that have the same in the fields that are shown look the same. -/
theorem foldl_showField_congr {source source' : Json} {fields : List String}
    (h : ∀ field ∈ fields, source.get field = source'.get field) (shown : List (String × Json)) :
    fields.foldl (showField source) shown = fields.foldl (showField source') shown := by
  induction fields generalizing shown with
  | nil => rfl
  | cons field rest ih =>
    have hfield : showField source shown field = showField source' shown field := by
      unfold showField
      rw [h field List.mem_cons_self]
    rw [List.foldl_cons, List.foldl_cons, hfield,
      ih fun other hmem => h other (List.mem_cons_of_mem _ hmem)]

/-! ## Where a text is cut -/

theorem bytePrefix_zero (cs : List Char) : CreditDb.bytePrefix 0 cs = some [] := by
  cases cs <;> rfl

/-- The bytes of a text that begin it are those of its first characters. -/
theorem bytePrefix_congr {n : ℕ} {cs cs' : List Char} (h : cs.take n = cs'.take n) :
    CreditDb.bytePrefix n cs = CreditDb.bytePrefix n cs' := by
  induction cs generalizing n cs' with
  | nil =>
    cases n with
    | zero => rw [bytePrefix_zero, bytePrefix_zero]
    | succ n =>
      cases cs' with
      | nil => rfl
      | cons c rest => exact absurd h (by simp)
  | cons c rest ih =>
    cases n with
    | zero => rw [bytePrefix_zero, bytePrefix_zero]
    | succ n =>
      cases cs' with
      | nil => exact absurd h (by simp)
      | cons c' rest' =>
        rw [List.take_succ_cons, List.take_succ_cons, List.cons.injEq] at h
        obtain ⟨rfl, htail⟩ := h
        have hpos := c.utf8Size_pos
        have hrest := congrArg (List.take (n + 1 - c.utf8Size)) htail
        rw [List.take_take, List.take_take, Nat.min_eq_left (by omega)] at hrest
        rw [CreditDb.bytePrefix, CreditDb.bytePrefix, ih hrest]

/-- **A text can be cut behind some bytes** if it has no more of them, or some of
its first characters have as many. -/
theorem bytePrefix_isSome_iff (n : ℕ) (cs : List Char) :
    (CreditDb.bytePrefix n cs).isSome = true
      ↔ (cs.map Char.utf8Size).sum ≤ n ∨ ∃ k, ((cs.take k).map Char.utf8Size).sum = n := by
  induction cs generalizing n with
  | nil => cases n <;> simp [CreditDb.bytePrefix]
  | cons c rest ih =>
    have hpos := c.utf8Size_pos
    cases n with
    | zero => exact iff_of_true rfl (.inr ⟨0, rfl⟩)
    | succ n =>
      have htake : (∃ k, (((c :: rest).take k).map Char.utf8Size).sum = n + 1)
          ↔ ∃ k, c.utf8Size + ((rest.take k).map Char.utf8Size).sum = n + 1 := by
        constructor
        · rintro ⟨k, hk⟩
          cases k with
          | zero => exact absurd hk (by simp)
          | succ k => exact ⟨k, by simpa using hk⟩
        · rintro ⟨k, hk⟩
          exact ⟨k + 1, by simpa using hk⟩
      rw [htake, List.map_cons, List.sum_cons, CreditDb.bytePrefix]
      split
      · rw [Option.isSome_map, ih]
        refine or_congr (by omega) (exists_congr fun k => ?_)
        omega
      · refine iff_of_false (by simp) ?_
        rintro (hall | ⟨k, hk⟩) <;> omega

end Discovery

open Discovery

/-- The eighth byte of a text is behind it, or the last of a character. -/
def CutsAtCharacter (text : String) : Prop :=
  (text.toList.map Char.utf8Size).sum ≤ 8
    ∨ ∃ k, ((text.toList.take k).map Char.utf8Size).sum = 8

/-- **Nodes that differ in the route look the same to everyone**, unless their
identity cannot be cut behind its eighth byte. -/
theorem public_view_hides_route_iff {T : Type} [LT T] [DecidableLT T] (P : PolicyLibs T)
    (clock : ℕ → T) {n n' : Node} (h : n.SameButRoute n') :
    (∃ view, publicDiscoverNode (liveNodeValue P clock n) = some view
        ∧ publicDiscoverNode (liveNodeValue P clock n') = some view)
      ↔ CutsAtCharacter n.nodeId := by
  have hagree : AgreeBut hiddenKeys (liveMembers P clock n) (liveMembers P clock n') := by
    have hkey := h.publicKey
    rw [h.rest] at hkey ⊢
    exact agree_liveMembers P clock h.endpoint hkey
  have hshown : ∀ shown, allowedFields.foldl (showField (liveNodeValue P clock n)) shown
      = allowedFields.foldl (showField (liveNodeValue P clock n')) shown := by
    have hdisjoint : ∀ field ∈ allowedFields, field ∉ hiddenKeys := by decide
    exact foldl_showField_congr fun field hmem => hagree field (hdisjoint field hmem)
  have hsame : publicDiscoverNode (liveNodeValue P clock n')
      = publicDiscoverNode (liveNodeValue P clock n) := by
    rw [publicDiscoverNode_liveNodeValue, publicDiscoverNode_liveNodeValue,
      bytePrefix_congr h.nodeId]
    simp only [hshown]
  have hcut : (publicDiscoverNode (liveNodeValue P clock n)).isSome = true
      ↔ CutsAtCharacter n.nodeId := by
    rw [publicDiscoverNode_liveNodeValue, Option.isSome_map]
    exact bytePrefix_isSome_iff 8 n.nodeId.toList
  rw [hsame, ← hcut, Option.isSome_iff_exists]
  simp only [and_self]

namespace Sample

/-- What a node registers with. -/
def routedPayload : Json := .object [("endpoint", .string "https://n1.test/v1")]

/-- The node a replica makes of it, under an identity. -/
def routedNode (nodeId : String) : Node :=
  ((Replica.nodeFromRegister nodeId routedPayload).get (by
    rw [Replica.nodeFromRegister_isSome]
    rfl))

/-- Another route, of one class with that of the node. -/
def otherRoute : Route where
  nodeId := "worker-b2"
  endpoint := "HTTPS://other.test:8443"
  transportEndpoint := some "iicp://other.test:9"
  publicKey := none
  operatorPubkey := some "operator"
  operatorUrl := some "https://operator.test"
  transportMetadata := some (.object [("stun", .string "10.0.0.1")])

theorem sameButRoute_otherRoute :
    (routedNode "worker-b1").SameButRoute ((routedNode "worker-b1").withRoute otherRoute) where
  rest := rfl
  nodeId := by decide +kernel
  endpoint := ⟨by decide +kernel, by decide +kernel, by decide +kernel⟩
  publicKey := ⟨rfl, rfl⟩

end Sample

open Sample in
theorem public_view_hides_route_iff_sample :
    ∃ view, publicDiscoverNode (liveNodeValue policyLibs (fun _ => 0) (routedNode "worker-b1"))
        = some view
      ∧ publicDiscoverNode (liveNodeValue policyLibs (fun _ => 0)
        ((routedNode "worker-b1").withRoute otherRoute)) = some view :=
  (public_view_hides_route_iff policyLibs (fun _ => 0) sameButRoute_otherRoute).mpr
    (.inr ⟨8, by decide +kernel⟩)

open Sample in
/-- **An identity is cut inside a character.** A replica takes any text for an
identity; of this one the eighth byte is the first of two. -/
theorem public_view_panics :
    Replica.nodeFromRegister "worker-é" routedPayload = some (routedNode "worker-é")
      ∧ (routedNode "worker-é").SameButRoute (routedNode "worker-é")
      ∧ ¬ ∃ view,
        publicDiscoverNode (liveNodeValue policyLibs (fun _ => 0) (routedNode "worker-é"))
          = some view := by
  refine ⟨rfl, .refl _, ?_⟩
  rintro ⟨view, hview⟩
  rw [publicDiscoverNode_liveNodeValue] at hview
  have hcut : CreditDb.bytePrefix 8 (routedNode "worker-é").nodeId.toList = none := by
    decide +kernel
  obtain ⟨cs, hcs, -⟩ := Option.map_eq_some_iff.mp hview
  exact absurd (hcut.symm.trans hcs) (by simp)
