import IicpDirectory.Relations
import IicpDirectory.Seed.Handlers

/-!
# What validation admits and the tables refuse

A registration is described twice: by the checks of the request and by the
columns it is stored in. The two do not agree. The checks bound every text of
a variant but three – its intent, its quantization and its inference engine –
and none of the texts of the request but the version axes; they look into no
document; they tell variants apart letter by letter, where the unique key
does not; and they parse the ends of a window as numbers, where the column
takes literals. A request that passes them and does not fit is refused by the
database, after the node was probed.

`persisted_iff` is the difference, exactly: an admitted registration is
persisted by a server that does what it is asked if and only if the request
meets `Fits`. All the rest – identity, tokens, operator, price, the lists and
the limits of a variant – fits because it was checked.
-/

namespace Acceptance

open Column Admission

/-- **A registration that was admitted**: its request passed the checks, its
identity, operator and keys are as `register` makes them. -/
structure Admitted (L : Libs) (base64Decode : String → Option Bytes)
    (refused : String → Option Reject) (refusedManifest : Json → Option Reject)
    (p : PendingRegistration) : Prop where
  request : validateRegistrationRequest L refused refusedManifest p.request = none
  nodeId : ∃ drawn requested, drawn.length = 36 ∧ resolveNodeId drawn requested = .ok p.nodeId
  availability : validAvailability p.request.availability = true
  pricing : ∀ x ∈ p.request.pricing, validPricing x.creditCostMultiplier x.pricingModel = true
  operator : ∃ delegation now, evaluate L base64Decode delegation p.nodeId now
    = (p.operatorPubkey, p.operatorVerified, p.operatorTrustTier)
  hmacKey : ∃ bytes : Bytes, bytes.length = 16 ∧ p.nodeHmacKey = Hex.encode bytes

/-- **What the tables ask of a request beyond what is checked.** -/
structure Fits (fold : String → String) (time : String → Option ℕ) (r : RegisterRequest) :
    Prop where
  endpoint : takesText 255 r.endpoint = true
  region : takesText 64 (r.region.getD "") = true
  sdkLanguage : r.sdkLanguage.all (takesText 32) = true
  operatorUrl : (r.listing.bind (fun l => l.operatorUrl)).all (takesText 256) = true
  policyManifest : r.policyManifest.all takesJson = true
  cxPublicKey : r.cxPublicKey.all takesJson = true
  intents : ∀ c ∈ r.capabilities, c.intent.length ≤ 255
  quantization : ∀ c ∈ r.capabilities, c.quantization.all (takesText 32) = true
  inferenceEngine : ∀ c ∈ r.capabilities, c.inferenceEngine.all (takesText 32) = true
  /-- A value lies two levels deep in its document. -/
  extensions : ∀ c ∈ r.capabilities, ∀ e ∈ c.extensions, takesLevels 98 e.2.value = true
  apart : r.capabilities.Pairwise (fun a b =>
    ¬ (fold a.intent = fold b.intent
      ∧ CapabilityRow.sameVariant fold a.variantId b.variantId = true))
  windows : ∀ w ∈ r.availability, (time w.start).isSome = true ∧ (time w.stop).isSome = true

/-! ## What was checked fits -/

/-- An optional text that is no longer than its column. -/
theorem all_takesText {width : ℕ} {text : Option String}
    (h : ∀ value ∈ text, value.length ≤ width) : text.all (takesText width) = true :=
  (Option.all_eq_true _ _).mpr fun value hvalue => takesText_of_length_le (h value hvalue)

theorem length_backend {backend : String} (h : backend ∈ backends) : backend.length ≤ 32 := by
  have hall : ∀ b ∈ backends, b.length ≤ 32 := by decide
  exact hall backend h

theorem length_pricingModel {model : String} (h : model ∈ pricingModels) : model.length ≤ 32 := by
  have hall : ∀ m ∈ pricingModels, m.length ≤ 32 := by decide
  exact hall model h

theorem length_implementationName {value : String} (h : validImplementationName value = true) :
    value.length ≤ 64 := by
  simp only [validImplementationName, Bool.and_eq_true, decide_eq_true_eq] at h
  exact (length_le_byteLength value).trans h.1.2

theorem length_versionAxis {value : String} (h : validVersionAxis value = true) :
    value.length ≤ 32 := by
  simp only [validVersionAxis, Bool.and_eq_true, decide_eq_true_eq] at h
  exact (length_le_byteLength value).trans h.1.2

/-- The names of the fields of what a variant carries. -/
def fieldNames : List String :=
  ["value", "unit", "required", "source", "observed_at", "valid_until", "evidence_ref"]

theorem byteLength_fieldName {name : String} (h : name ∈ fieldNames) :
    byteLength name ≤ 65535 := by
  have hall : ∀ n ∈ fieldNames, byteLength n ≤ 65535 := by decide
  exact hall name h

/-- A limit is a document of one level. -/
theorem takesLevels_limit (levels : ℕ) (limit : CapabilityLimit) :
    takesLevels (levels + 1) limit.toJson = true := by
  have hvalue := @byteLength_fieldName "value" (by decide)
  have hunit := @byteLength_fieldName "unit" (by decide)
  simp [CapabilityLimit.toJson, takesLevels, hvalue, hunit]

/-- Where a claim comes from is a document of one level. -/
theorem takesJson_provenance (claim : CapabilityClaimProvenance) :
    takesJson claim.toJson = true := by
  have hsource := @byteLength_fieldName "source" (by decide)
  have hobserved := @byteLength_fieldName "observed_at" (by decide)
  have hvalid := @byteLength_fieldName "valid_until" (by decide)
  have hevidence := @byteLength_fieldName "evidence_ref" (by decide)
  unfold takesJson CapabilityClaimProvenance.toJson
  simp only [takesLevels, List.all_append, List.all_map, Bool.and_eq_true, List.all_eq_true]
  refine ⟨⟨⟨?_, ?_⟩, ?_⟩, ?_⟩
  · simp [hsource, takesLevels]
  · simp [hobserved, takesLevels]
  · simp [hvalid, takesLevels]
  · simp [hevidence, takesLevels]

/-- An extension is one level above its value. -/
theorem takesLevels_extension (levels : ℕ) (extension : CapabilityExtension) :
    takesLevels (levels + 1) extension.toJson = takesLevels levels extension.value := by
  have hrequired := @byteLength_fieldName "required" (by decide)
  have hvalue := @byteLength_fieldName "value" (by decide)
  simp [CapabilityExtension.toJson, takesLevels, hrequired, hvalue]

/-- The limits of a variant that was accepted. -/
theorem takesJson_limits {c : EffectiveCapability} (h : Accepted c) :
    takesJson (.object (c.limits.map (fun e => (e.1, e.2.toJson)))) = true := by
  have hlimits := h.limits
  simp only [validLimits, Bool.and_eq_true, List.all_eq_true] at hlimits
  unfold takesJson
  rw [takesLevels, List.all_map]
  refine List.all_eq_true.mpr fun e he => ?_
  have hname := (hlimits.2 e he).1.1
  simp only [validLimitName, Bool.and_eq_true, decide_eq_true_eq] at hname
  have hbytes : byteLength e.1 ≤ 65535 := hname.1.2.trans (by decide)
  rw [Function.comp_apply, takesLevels_limit, decide_eq_true hbytes]
  rfl

/-- **The extensions of a variant that was accepted** fit where their values
do. -/
theorem takesJson_extensions_iff {c : EffectiveCapability} (h : Accepted c) :
    takesJson (.object (c.extensions.map (fun e => (e.1, e.2.toJson)))) = true
      ↔ ∀ e ∈ c.extensions, takesLevels 98 e.2.value = true := by
  have hextensions := h.extensions
  simp only [validExtensions, Bool.and_eq_true, List.all_eq_true] at hextensions
  unfold takesJson
  rw [takesLevels, List.all_map, List.all_eq_true]
  refine forall₂_congr fun e he => ?_
  have hname := hextensions.2 e he
  simp only [validExtensionName, Bool.and_eq_true, decide_eq_true_eq] at hname
  have hbytes : byteLength e.1 ≤ 65535 := hname.1.1.1.2.trans (by decide)
  rw [Function.comp_apply, takesLevels_extension, decide_eq_true hbytes, Bool.true_and]

/-- **The row of a variant that was accepted** fits where the three texts and
the extensions do. -/
theorem fits_ofVariant_iff {c : EffectiveCapability} (h : Accepted c) {nodeId : String}
    (hid : nodeId.length ≤ 36) :
    (CapabilityRow.ofVariant nodeId c).fits = true
      ↔ c.intent.length ≤ 255 ∧ c.quantization.all (takesText 32) = true
        ∧ c.inferenceEngine.all (takesText 32) = true
        ∧ ∀ e ∈ c.extensions, takesLevels 98 e.2.value = true := by
  have hintent : takesText 255 c.intent = true ↔ c.intent.length ≤ 255 :=
    ⟨fun htaken => length_le_of_takesText htaken (space_notMem_of_validIntent h.intent),
      takesText_of_length_le⟩
  have hprovenance : (c.claimProvenance.map (fun claim => claim.toJson)).all takesJson = true := by
    cases c.claimProvenance with
    | none => rfl
    | some claim => exact takesJson_provenance claim
  unfold CapabilityRow.fits CapabilityRow.ofVariant
  simp only [takesText_of_length_le hid, all_takesText h.length_version,
    all_takesText h.length_variantId, Option.all_some, takesJson_ofStrings, takesJson_limits h,
    hprovenance, Bool.and_true, Bool.true_and, Bool.and_eq_true, hintent,
    takesJson_extensions_iff h, and_assoc]

/-! ## The tables and the checks -/

section Admitted

variable {L : Libs} {base64Decode : String → Option Bytes} {refused : String → Option Reject}
  {refusedManifest : Json → Option Reject} {p : PendingRegistration}

/-- The columns of `nodes` that were checked fit. -/
structure CheckedColumns (p : PendingRegistration) : Prop where
  nodeId : p.nodeId.length ≤ 36
  hmacKey : p.nodeHmacKey.length ≤ 64
  operatorPubkey : ∀ key ∈ p.operatorPubkey, key.length ≤ 80
  operatorTrustTier : ∀ tier ∈ p.operatorTrustTier, tier.length ≤ 16
  backend : ∀ backend ∈ p.request.backend, backend.length ≤ 32
  implementationName : ∀ name ∈ p.request.implementationName, name.length ≤ 64
  implementationVersion : ∀ version ∈ p.request.implementationVersion, version.length ≤ 32
  sdkVersion : ∀ version ∈ p.request.sdkCompatibilityVersion.or p.request.sdkVersion,
    version.length ≤ 32
  pricingModel :
    ((p.request.pricing.map (fun x => x.pricingModel)).getD "per_token").length ≤ 32

theorem checkedColumns (hbase64 : PaddedBase64 base64Decode)
    (h : Admitted L base64Decode refused refusedManifest p) : CheckedColumns p := by
  have haccepted := accepted_of_validateRegistrationRequest L h.request
  have himplementation := haccepted.implementation
  simp only [validImplementation, Bool.and_eq_true, Option.all_eq_true] at himplementation
  obtain ⟨⟨⟨hname, hversion⟩, hcompatibility⟩, hsdk⟩ := himplementation
  obtain ⟨delegation, now, hoperator⟩ := h.operator
  have hlengths := length_evaluate L base64Decode hbase64 delegation p.nodeId now
  rw [hoperator] at hlengths
  refine
    { nodeId := ?_, hmacKey := ?_, operatorPubkey := ?_, operatorTrustTier := ?_, backend := ?_,
      implementationName := fun name hmem => length_implementationName (hname name hmem)
      implementationVersion := fun version hmem => length_versionAxis (hversion version hmem)
      sdkVersion := ?_, pricingModel := ?_ }
  · obtain ⟨drawn, requested, hdrawn, hresolved⟩ := h.nodeId
    exact length_resolveNodeId hdrawn.le hresolved
  · obtain ⟨bytes, hbytes, hkey⟩ := h.hmacKey
    rw [hkey, ← String.length_toList, Hex.length_encode, hbytes]
    decide
  · intro key hkey
    rw [hlengths.1 key hkey]
    decide
  · intro tier htier
    rw [hlengths.2 tier htier]
    decide
  · exact fun backend hbackend => length_backend (haccepted.backend backend hbackend)
  · intro version hmem
    rcases Option.or_eq_some_iff.mp hmem with hfirst | ⟨_, hsecond⟩
    · exact length_versionAxis (hcompatibility version hfirst)
    · exact length_versionAxis (hsdk version hsecond)
  · cases hpricing : p.request.pricing with
    | none => decide
    | some x =>
      have hvalid := h.pricing x hpricing
      rw [validPricing, Bool.and_eq_true] at hvalid
      exact length_pricingModel (by simpa using hvalid.2)

/-- **The row of a node that was admitted** fits where the unchecked columns
do. -/
theorem takesNode_iff (h : CheckedColumns p) :
    NodeTables.takesNode p.record = true
      ↔ takesText 255 p.request.endpoint = true ∧ takesText 64 (p.request.region.getD "") = true
        ∧ p.request.sdkLanguage.all (takesText 32) = true
        ∧ (p.request.listing.bind (fun l => l.operatorUrl)).all (takesText 256) = true
        ∧ p.request.policyManifest.all takesJson = true
        ∧ p.request.cxPublicKey.all takesJson = true := by
  have hmodel : takesText 32 "outcome-v2" = true := by decide
  have hepoch : takesText 36 "outcome-v2-initial" = true := by decide
  unfold NodeTables.takesNode PendingRegistration.record PendingRegistration.node
  simp only [takesText_of_length_le h.nodeId, takesText_of_length_le h.hmacKey,
    takesText_of_length_le h.pricingModel, all_takesText h.operatorPubkey,
    all_takesText h.operatorTrustTier, all_takesText h.backend,
    all_takesText h.implementationName, all_takesText h.implementationVersion,
    all_takesText h.sdkVersion, hmodel, hepoch, Option.getD_some, Option.any_some,
    Option.all_some, Bool.and_true, Bool.true_and, Bool.and_eq_true, and_assoc]

/-- The rows of a registration that was admitted are those of its variants. -/
theorem rowsOf_record (h : p.request.capabilities.isEmpty = false) :
    NodeTables.rowsOf p.record
      = p.request.capabilities.map (CapabilityRow.ofVariant p.nodeId) := by
  unfold NodeTables.rowsOf
  exact if_neg (by simpa [PendingRegistration.record] using h)

/-- **Two rows clash where the collation tells neither their intents nor their
identifiers apart.** -/
theorem clash_ofVariant {fold : String → String} {nodeId : String} {a b : EffectiveCapability}
    (ha : Accepted a) (hb : Accepted b) (hlengtha : a.intent.length ≤ 255)
    (hlengthb : b.intent.length ≤ 255) :
    CapabilityRow.clash fold (CapabilityRow.ofVariant nodeId a).kept
        (CapabilityRow.ofVariant nodeId b).kept = false
      ↔ ¬ (fold a.intent = fold b.intent
        ∧ CapabilityRow.sameVariant fold a.variantId b.variantId = true) := by
  unfold CapabilityRow.clash CapabilityRow.kept CapabilityRow.ofVariant
  simp only [cutText_of_length_le hlengtha, cutText_of_length_le hlengthb,
    map_cutText_of_length_le ha.length_variantId, map_cutText_of_length_le hb.length_variantId,
    beq_self_eq_true, Bool.true_and]
  rw [← Bool.not_eq_true, Bool.and_eq_true, beq_iff_eq]

/-- A window is stored where both its ends are literals of a time. -/
theorem isSome_windowRow_iff {time : String → Option ℕ} {nodeId : String}
    {w : AvailabilityWindow} :
    (NodeTables.windowRow time nodeId w).isSome = true
      ↔ (time w.start).isSome = true ∧ (time w.stop).isSome = true := by
  unfold NodeTables.windowRow
  cases time w.start with
  | none => simp
  | some startTime => cases time w.stop <;> simp

/-- The tables take a registration that was admitted where its request fits. -/
theorem storable_iff {fold : String → String} {time : String → Option ℕ}
    (hbase64 : PaddedBase64 base64Decode)
    (h : Admitted L base64Decode refused refusedManifest p) :
    NodeTables.Storable fold time p.record ↔ Fits fold time p.request := by
  have hcolumns := checkedColumns hbase64 h
  have hrequest := accepted_of_validateRegistrationRequest L h.request
  have hrows := rowsOf_record hrequest.nonempty
  constructor
  · intro hs
    obtain ⟨hendpoint, hregion, hlanguage, hurl, hmanifest, hkey⟩ :=
      (takesNode_iff hcolumns).mp hs.node
    have hrow := fun c (hc : c ∈ p.request.capabilities) =>
      (fits_ofVariant_iff (hrequest.capabilities c hc) hcolumns.nodeId).mp
        (hs.rows _ (hrows ▸ List.mem_map_of_mem hc))
    have hapart := hs.apart
    rw [hrows, List.map_map, List.pairwise_map] at hapart
    exact
      { endpoint := hendpoint, region := hregion, sdkLanguage := hlanguage, operatorUrl := hurl
        policyManifest := hmanifest, cxPublicKey := hkey
        intents := fun c hc => (hrow c hc).1
        quantization := fun c hc => (hrow c hc).2.1
        inferenceEngine := fun c hc => (hrow c hc).2.2.1
        extensions := fun c hc => (hrow c hc).2.2.2
        apart := hapart.imp_of_mem fun {a b} ha hb hab =>
          (clash_ofVariant (hrequest.capabilities a ha) (hrequest.capabilities b hb)
            (hrow a ha).1 (hrow b hb).1).mp hab
        windows := fun w hw => isSome_windowRow_iff.mp (hs.windows w hw) }
  · intro hf
    refine
      { node := (takesNode_iff hcolumns).mpr ⟨hf.endpoint, hf.region, hf.sdkLanguage,
          hf.operatorUrl, hf.policyManifest, hf.cxPublicKey⟩
        rows := ?_, apart := ?_
        windows := fun w hw => isSome_windowRow_iff.mpr (hf.windows w hw) }
    · intro r hr
      rw [hrows] at hr
      obtain ⟨c, hc, rfl⟩ := List.mem_map.mp hr
      exact (fits_ofVariant_iff (hrequest.capabilities c hc) hcolumns.nodeId).mpr
        ⟨hf.intents c hc, hf.quantization c hc, hf.inferenceEngine c hc, hf.extensions c hc⟩
    · rw [hrows, List.map_map, List.pairwise_map]
      exact hf.apart.imp_of_mem fun {a b} ha hb hab =>
        (clash_ofVariant (hrequest.capabilities a ha) (hrequest.capabilities b hb)
          (hf.intents a ha) (hf.intents b hb)).mpr hab

/-- **What validation admits is persisted where it fits**, and nowhere else:
whatever the collation and the literals of the database, an admitted
registration goes into its tables if and only if its request meets `Fits`. -/
theorem persisted_iff {fold : String → String} {time : String → Option ℕ}
    (hbase64 : PaddedBase64 base64Decode)
    (h : Admitted L base64Decode refused refusedManifest p) :
    ((NodeTables.empty fold).register time true Server.willing p.record).1 = true
      ↔ Fits fold time p.request :=
  NodeTables.register_willing_iff.trans (storable_iff hbase64 h)

end Admitted

end Acceptance

namespace Sample

/-- The literals of a time the sample needs: two digits and two digits. -/
def plainTime (text : String) : Option ℕ :=
  match text.toList with
  | [a, b, ':', c, d] =>
    if [a, b, c, d].all Char.isDigit then
      some (Nat.ofDigitChars 10 [a, b] 0 * 60 + Nat.ofDigitChars 10 [c, d] 0)
    else none
  | _ => none

/-- A request of the node `n1`, once its keys are drawn. -/
def pendingFor (request : RegisterRequest) : PendingRegistration where
  request := request
  nodeId := "n1"
  nodeToken := "node-token"
  proxyToken := "proxy-token"
  nodeHmacKey := Hex.encode (List.replicate 16 7)

/-- A node that is there from eight to eight. -/
def officeHours : RegisterRequest where
  endpoint := "https://n1.test"
  capabilities := [chat]
  availability := [⟨"08:00", "20:00", 1⟩]

/-- The same, with a sign before the hour. -/
def signedHours : RegisterRequest := { officeHours with availability := [⟨"+8:00", "20:00", 1⟩] }

/-- The same, in a region of 65 letters. -/
def longRegion : RegisterRequest :=
  { officeHours with region := some (String.ofList (List.replicate 65 'x')) }

/-- Two variants whose identifiers differ in case. -/
def caseVariants : RegisterRequest :=
  { officeHours with
    capabilities := [{ chat with variantId := some "A" }, { chat with variantId := some "a" }] }

end Sample

namespace Acceptance

open Admission

/-- A request of the sample is admitted when its checks are passed. -/
theorem admitted_pendingFor {r : RegisterRequest}
    (hrequest : validateRegistrationRequest Sample.libs (fun _ => none) (fun _ => none) r = none)
    (havailability : validAvailability r.availability = true) (hpricing : r.pricing = none) :
    Admitted Sample.libs (fun _ => none) (fun _ => none) (fun _ => none)
      (Sample.pendingFor r) where
  request := hrequest
  nodeId := by
    refine ⟨"00000000-0000-4000-8000-000000000000", some "n1", by decide, ?_⟩
    show resolveNodeId _ (some "n1") = .ok "n1"
    decide
  availability := havailability
  pricing x hx := by
    have hsome : r.pricing = some x := hx
    rw [hpricing] at hsome
    exact absurd hsome (by simp)
  operator := ⟨none, 0, rfl⟩
  hmacKey := ⟨List.replicate 16 7, rfl, rfl⟩

/-- The request of the sample fits. -/
theorem fits_officeHours : Fits Sample.lowercase Sample.plainTime Sample.officeHours where
  endpoint := by decide
  region := by decide
  sdkLanguage := by decide
  operatorUrl := by decide
  policyManifest := by decide
  cxPublicKey := by decide
  intents := by decide
  quantization := by decide
  inferenceEngine := by decide
  extensions := by decide
  apart := by decide
  windows := by decide

/-- A node of the sample is persisted with its hours. -/
theorem persisted_iff_sample :
    ((NodeTables.empty Sample.lowercase).register Sample.plainTime true Server.willing
      (Sample.pendingFor Sample.officeHours).record).1 = true := by
  have hbase64 : PaddedBase64 (fun _ => none) := fun _ _ h => absurd h (by simp)
  have hadmitted := admitted_pendingFor (r := Sample.officeHours) (by decide)
    (by decide) rfl
  exact (persisted_iff hbase64 hadmitted).mpr fits_officeHours

/-- A request of the sample that is admitted and not persisted. -/
def Unstorable (r : RegisterRequest) : Prop :=
  Admitted Sample.libs (fun _ => none) (fun _ => none) (fun _ => none) (Sample.pendingFor r)
    ∧ ((NodeTables.empty Sample.lowercase).register Sample.plainTime true Server.willing
      (Sample.pendingFor r).record).1 = false

/-- **Three requests are admitted and not persisted**: the collation takes two
identifiers for one, a region is a letter too long, an hour has a sign. -/
theorem admitted_not_persisted :
    Unstorable Sample.caseVariants ∧ Unstorable Sample.longRegion
      ∧ Unstorable Sample.signedHours := by
  refine ⟨⟨?_, ?_⟩, ⟨?_, ?_⟩, ?_, ?_⟩
  · exact admitted_pendingFor (by decide) (by decide) rfl
  · decide
  · exact admitted_pendingFor (by decide) (by decide) rfl
  · decide
  · exact admitted_pendingFor (by decide) (by decide) rfl
  · decide

end Acceptance
