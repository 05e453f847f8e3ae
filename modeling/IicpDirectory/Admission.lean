import IicpDirectory.Evidence
import IicpDirectory.Foundations.Delimited
import IicpDirectory.Pricing
import IicpDirectory.Registration

/-!
# What a registration must be to be admitted

The checks `register` makes of a request before it looks at anything else,
in their order and with their messages: the shape of the request, its
capability variants one after the other, its policy manifest. They are
predicates on texts and numbers. The length of a text is that of its UTF-8
bytes, as everywhere in the source.

Two of the checks are parameters: the guard that refuses an intent for what
it is, and the verification of a policy manifest. Both only take requests
away. The padded Base64 of a delegation is one too, with the length it has
(`PaddedBase64`).
-/

/-- A request that is refused as it stands. -/
structure Reject where
  code : String
  message : String
  deriving DecidableEq

namespace Admission

/-- A request that does not validate. -/
def validationError (message : String) : Reject := ⟨"validation_error", message⟩

/-- The number of bytes of a text. -/
def byteLength (text : String) : ℕ := (text.toList.map Char.utf8Size).sum

theorem length_le_byteLength (text : String) : text.length ≤ byteLength text := by
  have hchars : ∀ chars : List Char, chars.length ≤ (chars.map Char.utf8Size).sum := by
    intro chars
    induction chars with
    | nil => exact le_refl 0
    | cons c rest ih =>
      have hpos := c.utf8Size_pos
      simp only [List.length_cons, List.map_cons, List.sum_cons]
      omega
  rw [← String.length_toList]
  exact hchars text.toList

/-! ## Texts -/

/-- `valid_implementation_name`. -/
def validImplementationName (value : String) : Bool :=
  value.toList.head?.any (fun c => c.isAlphanum || c == '@') && decide (byteLength value ≤ 64)
    && value.toList.all (fun c => c.isAlphanum || ['.', '_', '/', '@', '+', '-'].contains c)

/-- `valid_version_axis`. -/
def validVersionAxis (value : String) : Bool :=
  value.toList.head?.any Char.isAlphanum && decide (byteLength value ≤ 32)
    && value.toList.all (fun c => c.isAlphanum || ['.', '_', '+', '-'].contains c)

/-- `valid_capability_identifier`. -/
def validCapabilityIdentifier (value : String) (maxLen : ℕ) : Bool :=
  value.toList.head?.any Char.isAlphanum && decide (byteLength value ≤ maxLen)
    && value.toList.all (fun c => c.isAlphanum || ['.', '_', ':', '-'].contains c)

/-- `valid_capability_string_set`. -/
def validCapabilityStringSet (values : List String) : Bool :=
  decide (values.length ≤ 64)
    && values.all (fun value => !value.isEmpty && decide (byteLength value ≤ 255))
    && decide values.Nodup

/-- `valid_limit_name`. -/
def validLimitName (value : String) : Bool :=
  value.toList.head?.any Char.isLower && decide (byteLength value ≤ 64)
    && value.toList.all (fun c => c.isLower || c.isDigit || c == '_')

/-- A label of an intent. -/
def validLabel (label : List Char) : Bool :=
  !label.isEmpty && label.all (fun c => c.isLower || c.isDigit || c == '_' || c == '-')

/-- The version of an intent. -/
def validIntentVersion : List Char → Bool
  | 'v' :: digits => !digits.isEmpty && digits.all Char.isDigit
  | _ => false

/-- What intents begin with. -/
def intentPrefix : List Char := "urn:iicp:intent:".toList

/-- `validate_intent`: labels and a version behind the prefix, three segments
at least. -/
def validIntent (urn : String) : Bool :=
  let segments := (urn.toList.drop intentPrefix.length).splitOn ':'
  intentPrefix.isPrefixOf urn.toList && decide (3 ≤ segments.length)
    && segments.getLast?.any validIntentVersion && segments.dropLast.all validLabel

/-- A label has no space in it. -/
theorem space_notMem_of_validLabel {label : List Char} (h : validLabel label = true) :
    ' ' ∉ label := by
  intro hmem
  rw [validLabel, Bool.and_eq_true] at h
  exact absurd (List.all_eq_true.mp h.2 ' ' hmem) (by decide)

/-- Nor has a version. -/
theorem space_notMem_of_validIntentVersion {version : List Char}
    (h : validIntentVersion version = true) : ' ' ∉ version := by
  intro hmem
  unfold validIntentVersion at h
  split at h
  · rcases List.mem_cons.mp hmem with hv | hdigit
    · exact absurd hv (by decide)
    · rw [Bool.and_eq_true] at h
      exact absurd (List.all_eq_true.mp h.2 ' ' hdigit) (by decide)
  · exact absurd h Bool.false_ne_true

/-- **An intent that was accepted has no space in it.** -/
theorem space_notMem_of_validIntent {urn : String} (h : validIntent urn = true) :
    ' ' ∉ urn.toList := by
  simp only [validIntent, Bool.and_eq_true] at h
  obtain ⟨⟨⟨hstart, _⟩, hversion⟩, hlabels⟩ := h
  rw [← List.prefix_iff_eq_append.mp (List.isPrefixOf_iff_prefix.mp hstart), List.mem_append]
  rintro (hmem | hmem)
  · exact absurd hmem (by decide)
  have hpart : ' ' = ':' ∨ _ := Delimited.eq_or_mem_of_mem hmem
  rcases hpart with hsep | ⟨segment, hsegment, hc⟩
  · exact absurd hsep (by decide)
  -- the part is the version or a label
  cases hlast : ((urn.toList.drop intentPrefix.length).splitOn ':').getLast? with
  | none =>
    rw [hlast] at hversion
    exact absurd hversion Bool.false_ne_true
  | some version =>
    rw [hlast] at hversion
    rw [← List.dropLast_append_getLast? version hlast, List.mem_append, List.mem_singleton]
      at hsegment
    rcases hsegment with hlabel | rfl
    · exact space_notMem_of_validLabel (List.all_eq_true.mp hlabels segment hlabel) hc
    · exact space_notMem_of_validIntentVersion hversion hc

/-- The namespaced name of an extension. -/
def validExtensionName (name : String) : Bool :=
  decide (3 ≤ byteLength name ∧ byteLength name ≤ 128) && name.toList.contains '.'
    && name.toList.head?.any Char.isLower
    && name.toList.all (fun c => c.isLower || c.isDigit || ['.', '_', ':', '-'].contains c)

/-- What profiles begin with. -/
def profilePrefix : List Char := "urn:iicp:profile:".toList

/-- A supported profile. -/
def validProfile (profile : String) : Bool :=
  let rest := profile.toList.drop profilePrefix.length
  decide (byteLength profile ≤ 160) && profilePrefix.isPrefixOf profile.toList
    && rest.head?.any (fun c => c.isLower || c.isDigit)
    && rest.all (fun c => c.isLower || c.isDigit || ['.', '_', ':', '-'].contains c)

/-! ## Variants -/

variable (L : Libs)

/-- The identifiers and the lists of a variant. -/
def validVariant (c : EffectiveCapability) : Bool :=
  c.variantId.all (fun value => validCapabilityIdentifier value 64)
    && c.version.all (fun value => !value.isEmpty && decide (byteLength value ≤ 32))
    && c.phase != some 0 && c.maxTokens != some 0
    && validCapabilityStringSet c.models && validCapabilityStringSet c.inputModalities
    && validCapabilityStringSet c.outputModalities && validCapabilityStringSet c.features
    && validCapabilityStringSet c.executionCapabilities

/-- The modalities of a variant. -/
def validModalities (c : EffectiveCapability) : Bool :=
  c.inputModalities.all ["text", "image", "audio", "video"].contains
    && c.outputModalities.all ["text", "image", "audio", "video"].contains

/-- The limits of a variant. -/
def validLimits (c : EffectiveCapability) : Bool :=
  decide (c.limits.length ≤ 32) && c.limits.all (fun e => validLimitName e.1
    && decide (0 ≤ e.2.value)
    && ["tokens", "items", "bytes", "milliseconds", "dimensions"].contains e.2.unit)

/-- Where a claim of a variant comes from. -/
def validProvenance (c : EffectiveCapability) : Bool :=
  c.claimProvenance.all (fun claim =>
    ["heuristic_fallback", "operator_assertion", "provider_metadata", "runtime_introspection",
        "conformance_probe"].contains claim.source
      && claim.observedAt.all (fun value => (L.parseRfc3339Ms value).isSome)
      && claim.validUntil.all (fun value => (L.parseRfc3339Ms value).isSome)
      && claim.evidenceRef.all (fun value => !value.isEmpty && decide (byteLength value ≤ 255)))

/-- The extensions of a variant. -/
def validExtensions (c : EffectiveCapability) : Bool :=
  decide (c.extensions.length ≤ 32) && c.extensions.all (fun e => validExtensionName e.1)

/-- The profiles of a variant. -/
def validProfiles (c : EffectiveCapability) : Bool :=
  decide (c.supportedProfiles.length ≤ 16) && c.supportedProfiles.all validProfile
    && decide c.supportedProfiles.Nodup

/-- A variant as it is serialized; the order of its members does not tell two
variants apart. -/
def variantText (c : EffectiveCapability) : String :=
  Federation.canonicalJson L (.object c.members)

/-- A variant was listed before: the same one, or another of its intent under
its identifier. -/
def isDuplicate (earlier : List EffectiveCapability) (c : EffectiveCapability) : Bool :=
  earlier.any (fun e => variantText L e == variantText L c
    || (c.variantId.isSome && e.intent == c.intent && e.variantId == c.variantId))

/-- **The checks of one variant**, after those that were listed earlier. -/
def rejectCapability (refused : String → Option Reject) (earlier : List EffectiveCapability)
    (c : EffectiveCapability) : Option Reject :=
  if !validIntent c.intent then some (validationError ("invalid intent URN: " ++ c.intent))
  else if (refused c.intent).isSome then refused c.intent
  else if isDuplicate L earlier c then some (validationError "duplicate capability variant")
  else if !validVariant c then some (validationError "invalid capability variant")
  else if !validModalities c then some (validationError "invalid capability modality")
  else if !validLimits c then some (validationError "invalid capability limit")
  else if !validProvenance L c then some (validationError "invalid capability claim provenance")
  else if !validExtensions c then
    some (validationError "invalid namespaced capability extension")
  else if !validProfiles c then
    some (validationError "invalid capability supported_profiles")
  else none

/-- `validate_registration_capabilities`. -/
def validateCapabilities (refused : String → Option Reject) (earlier : List EffectiveCapability) :
    List EffectiveCapability → Option Reject
  | [] => none
  | c :: rest => (rejectCapability L refused earlier c).or
      (validateCapabilities refused (earlier ++ [c]) rest)

/-- **A variant that was accepted.** -/
structure Accepted (c : EffectiveCapability) : Prop where
  intent : validIntent c.intent = true
  variant : validVariant c = true
  limits : validLimits c = true
  extensions : validExtensions c = true

namespace Accepted

variable {c : EffectiveCapability}

/-- The parts of a variant that was accepted. -/
theorem parts (h : Accepted c) :
    c.variantId.all (fun value => validCapabilityIdentifier value 64) = true
      ∧ c.version.all (fun value => !value.isEmpty && decide (byteLength value ≤ 32)) = true
      ∧ c.maxTokens ≠ some 0 := by
  have hvariant := h.variant
  simp only [validVariant, Bool.and_eq_true, bne_iff_ne] at hvariant
  obtain ⟨⟨⟨⟨⟨⟨⟨⟨hid, hversion⟩, _⟩, htokens⟩, _⟩, _⟩, _⟩, _⟩, _⟩ := hvariant
  exact ⟨hid, hversion, htokens⟩

theorem length_variantId (h : Accepted c) : ∀ value ∈ c.variantId, value.length ≤ 64 := by
  intro value hvalue
  have hid := (Option.all_eq_true _ _).mp h.parts.1 value hvalue
  simp only [validCapabilityIdentifier, Bool.and_eq_true, decide_eq_true_eq] at hid
  exact (length_le_byteLength value).trans hid.1.2

theorem length_version (h : Accepted c) : ∀ value ∈ c.version, value.length ≤ 32 := by
  intro value hvalue
  have hversion := (Option.all_eq_true _ _).mp h.parts.2.1 value hvalue
  rw [Bool.and_eq_true, decide_eq_true_eq] at hversion
  exact (length_le_byteLength value).trans hversion.2

end Accepted

theorem accepted_of_rejectCapability {refused : String → Option Reject}
    {earlier : List EffectiveCapability} {c : EffectiveCapability}
    (h : rejectCapability L refused earlier c = none) : Accepted c := by
  unfold rejectCapability at h
  split at h
  · exact absurd h (by simp)
  rename_i hintent
  split at h
  · rename_i hrefused
    rw [h] at hrefused
    exact absurd hrefused Bool.false_ne_true
  split at h
  · exact absurd h (by simp)
  split at h
  · exact absurd h (by simp)
  rename_i hvariant
  split at h
  · exact absurd h (by simp)
  split at h
  · exact absurd h (by simp)
  rename_i hlimits
  split at h
  · exact absurd h (by simp)
  split at h
  · exact absurd h (by simp)
  rename_i hextensions
  split at h
  · exact absurd h (by simp)
  exact ⟨by simpa using hintent, by simpa using hvariant, by simpa using hlimits,
    by simpa using hextensions⟩

/-- **Every variant of an accepted list was.** -/
theorem accepted_of_validateCapabilities {refused : String → Option Reject}
    {earlier capabilities : List EffectiveCapability}
    (h : validateCapabilities L refused earlier capabilities = none) :
    ∀ c ∈ capabilities, Accepted c := by
  induction capabilities generalizing earlier with
  | nil => exact fun _ hc => absurd hc List.not_mem_nil
  | cons c rest ih =>
    rw [validateCapabilities, Option.or_eq_none_iff] at h
    exact List.forall_mem_cons.mpr ⟨accepted_of_rejectCapability L h.1, ih h.2⟩

/-! ## The request -/

/-- The backends a node may name. -/
def backends : List String :=
  ["ollama", "lmstudio", "vllm", "llamacpp", "meshllm", "anthropic", "custom"]

/-- The pricing models a node may name. -/
def pricingModels : List String := ["per_token", "per_request", "flat"]

/-- The exposure modes a node may name. -/
def exposureModes : List String :=
  ["outbound_only", "ipv4_public_direct", "ipv4_cgnat_blocked", "ipv6_direct_firewall_required",
    "ipv6_direct_pinhole_available", "relay_required", "tunnel_required", "dual_stack_available"]

/-- `validate_registration_profiles_and_exposure`. -/
def validateProfilesAndExposure (r : RegisterRequest) : Option Reject :=
  if decide (4 < r.supportedReceiptProfiles.length)
      || r.supportedReceiptProfiles.any (· != "consumer_cosignature_v1") then
    some (validationError "unsupported receipt profile")
  else if r.exposureMode.any (fun mode => !exposureModes.contains mode) then
    some (validationError ("invalid exposure_mode: " ++ r.exposureMode.getD ""))
  else none

/-- The implementation a node names. -/
def validImplementation (r : RegisterRequest) : Bool :=
  r.implementationName.all validImplementationName
    && r.implementationVersion.all validVersionAxis
    && r.sdkCompatibilityVersion.all validVersionAxis && r.sdkVersion.all validVersionAxis

/-- `validate_registration_shape`. -/
def validateShape (r : RegisterRequest) : Option Reject :=
  if r.capabilities.isEmpty then some (validationError "at least one capability is required")
  else if r.backend.any (fun backend => !backends.contains backend) then
    some (validationError ("invalid backend: " ++ r.backend.getD ""))
  else if !validImplementation r then
    some (validationError "invalid implementation metadata")
  else if r.sdkCompatibilityVersion.isSome && r.sdkVersion.isSome
      && r.sdkCompatibilityVersion != r.sdkVersion then
    some (validationError
      "sdk_compatibility_version must match sdk_version when both are supplied")
  else validateProfilesAndExposure r

/-- **`validate_registration_request`**: the shape, the variants, the
manifest. -/
def validateRegistrationRequest (refused : String → Option Reject)
    (refusedManifest : Json → Option Reject) (r : RegisterRequest) : Option Reject :=
  (validateShape r).or
    ((validateCapabilities L refused [] r.capabilities).or (r.policyManifest.bind refusedManifest))

/-- **A request that was accepted**, as far as the tables see it. -/
structure AcceptedRequest (r : RegisterRequest) : Prop where
  nonempty : r.capabilities.isEmpty = false
  capabilities : ∀ c ∈ r.capabilities, Accepted c
  backend : ∀ backend ∈ r.backend, backend ∈ backends
  implementation : validImplementation r = true

theorem accepted_of_validateRegistrationRequest {refused : String → Option Reject}
    {refusedManifest : Json → Option Reject} {r : RegisterRequest}
    (h : validateRegistrationRequest L refused refusedManifest r = none) : AcceptedRequest r := by
  rw [validateRegistrationRequest, Option.or_eq_none_iff, Option.or_eq_none_iff] at h
  obtain ⟨hshape, hcapabilities, _⟩ := h
  unfold validateShape at hshape
  split at hshape
  · exact absurd hshape (by simp)
  rename_i hnonempty
  split at hshape
  · exact absurd hshape (by simp)
  rename_i hbackend
  split at hshape
  · exact absurd hshape (by simp)
  rename_i himplementation
  refine ⟨by simpa using hnonempty, accepted_of_validateCapabilities L hcapabilities, ?_,
    by simpa using himplementation⟩
  intro backend hb
  rw [Option.mem_def] at hb
  rw [hb] at hbackend
  simpa using hbackend

/-! ## Identity, availability and price -/

/-- The characters of an identity. -/
def isNodeIdChar (c : Char) : Bool := c.isAlphanum || ['.', '_', ':', '-'].contains c

/-- `resolve_node_id`: the identity asked for, or the one that was drawn. -/
def resolveNodeId (drawn : String) (requested : Option String) : Except String String :=
  match requested.filter (fun value => !value.isEmpty) with
  | none => .ok drawn
  | some customId =>
    if decide (byteLength customId ≤ 36) && customId.toList.head?.any Char.isAlphanum
        && customId.toList.all isNodeIdChar then .ok customId
    else .error
      "node_id must start with [a-zA-Z0-9] and contain only [a-zA-Z0-9._:-], max 36 chars"

/-- A number of eight bits, as it is parsed: a sign is let pass. -/
def parseU8 (text : List Char) : Option ℕ :=
  let digits := match text with
    | '+' :: rest => rest
    | _ => text
  if digits.isEmpty || !digits.all Char.isDigit then none
  else (some (Nat.ofDigitChars 10 digits 0)).filter (· < 256)

/-- `valid_hhmm`. -/
def validHhmm (value : String) : Bool :=
  match value.toList.splitOn ':' with
  | [hours, minutes] => (parseU8 hours).any (· ≤ 23) && (parseU8 minutes).any (· ≤ 59)
  | _ => false

/-- `valid_availability`. -/
def validAvailability (windows : List AvailabilityWindow) : Bool :=
  windows.all (fun w => validHhmm w.start && validHhmm w.stop && decide (0 ≤ w.share ∧ w.share ≤ 1))

/-- `valid_pricing`. -/
def validPricing (multiplier : ℚ) (model : String) : Bool :=
  decide (0 ≤ multiplier ∧ multiplier ≤ 1000) && pricingModels.contains model

/-- An identity has 36 characters at most. -/
theorem length_resolveNodeId {drawn nodeId : String} {requested : Option String}
    (hdrawn : drawn.length ≤ 36) (h : resolveNodeId drawn requested = .ok nodeId) :
    nodeId.length ≤ 36 := by
  unfold resolveNodeId at h
  split at h
  · rw [← Except.ok.inj h]
    exact hdrawn
  · split at h
    · rename_i hvalid
      rw [Bool.and_eq_true, Bool.and_eq_true, decide_eq_true_eq] at hvalid
      rw [← Except.ok.inj h]
      exact (length_le_byteLength _).trans hvalid.1.1
    · exact absurd h (by simp)

/-! ## The operator -/

/-- An operator's delegation to a node. -/
structure OperatorDelegation where
  nodeId : String
  operatorPub : String
  notAfter : ℕ
  sig : String

/-- **What a padded Base64 decoder accepts**: four characters for every three
bytes begun. -/
def PaddedBase64 (decode : String → Option Bytes) : Prop :=
  ∀ text bytes, decode text = some bytes → text.length = 4 * ((bytes.length + 2) / 3)

variable (base64Decode : String → Option Bytes)

/-- `delegation::verify`, for an operator that is trusted and a node that is
not revoked. -/
def verifyDelegation (d : OperatorDelegation) (claimedNodeId : String) (now : ℕ) : Bool :=
  d.nodeId == claimedNodeId && decide (now < d.notAfter)
    && (match base64Decode d.operatorPub, base64Decode d.sig with
      | some key, some sig => key.length == 32 && sig.length == 64
          && L.verify key (utf8 (Federation.canonicalJson L (.object
            [("node_id", .string d.nodeId), ("not_after", .number (.posInt d.notAfter)),
             ("operator_pub", .string d.operatorPub)]))) sig
      | _, _ => false)

/-- **`delegation::evaluate`**: the key of the operator, whether it is
verified, and its tier. -/
def evaluate (delegation : Option OperatorDelegation) (claimedNodeId : String) (now : ℕ) :
    Option String × Bool × Option String :=
  match delegation with
  | none => (none, false, none)
  | some d =>
    if verifyDelegation L base64Decode d claimedNodeId now then
      (some d.operatorPub, true, some "did_key")
    else (none, false, none)

/-- **An operator that was verified has a key of 44 characters.** -/
theorem length_evaluate (hbase64 : PaddedBase64 base64Decode)
    (delegation : Option OperatorDelegation) (claimedNodeId : String) (now : ℕ) :
    (∀ key ∈ (evaluate L base64Decode delegation claimedNodeId now).1, key.length = 44)
      ∧ ∀ tier ∈ (evaluate L base64Decode delegation claimedNodeId now).2.2, tier = "did_key" := by
  unfold evaluate
  split
  · exact ⟨fun _ h => absurd h (by simp), fun _ h => absurd h (by simp)⟩
  · rename_i d
    split
    · rename_i hverified
      refine ⟨fun key hkey => ?_, fun tier htier => (Option.some.inj htier).symm⟩
      obtain rfl := Option.some.inj hkey
      unfold verifyDelegation at hverified
      rw [Bool.and_eq_true] at hverified
      have hdecoded := hverified.2
      split at hdecoded
      · rename_i bytes _ hbytes _
        rw [Bool.and_eq_true, Bool.and_eq_true, beq_iff_eq] at hdecoded
        rw [hbase64 _ _ hbytes, hdecoded.1.1]
      · exact absurd hdecoded Bool.false_ne_true
    · exact ⟨fun _ h => absurd h (by simp), fun _ h => absurd h (by simp)⟩

end Admission
