import IicpDirectory.Foundations.Stages
import IicpDirectory.Types
import Mathlib.Order.Basic

/-!
# Matching the variants of a capability

A request names an intent, what it requires in one of five classes, and
limits. Every requirement has to be of the vocabulary and not be denied;
then the variants are filtered by the intent and the requirements, by the
time their claim is valid until, and by the limits. A variant counts for
itself: it has everything that is required, in the list of its class.

How an instant is read from a text is a parameter, and the instants are a
linear order.
-/

/-- `Requirement`. -/
structure Requirement where
  className : String
  id : String
  deriving DecidableEq

/-- `LimitRequirement`. -/
structure LimitRequirement where
  id : String
  operator : String
  value : ℚ
  unit : String
  deriving DecidableEq

/-- `Requirements`. -/
structure Requirements where
  intent : String
  requires : List Requirement
  prefers : List Requirement
  limits : List LimitRequirement

/-- `MatchResult`. -/
structure MatchResult where
  eligible : Bool
  variantIds : List (Option String)
  preferenceUnavailable : Bool
  refusal : Option String
  deriving DecidableEq

namespace MatchResult

/-- `refusal`. -/
def refused (code : String) : MatchResult where
  eligible := false
  variantIds := []
  preferenceUnavailable := false
  refusal := some code

end MatchResult

/-- A vocabulary: the identifiers of every class. -/
abbrev Vocabulary := List (String × List String)

/-- `known`. -/
def Requirement.known (vocabulary : Vocabulary) (requirement : Requirement) : Bool :=
  requirement.className != "extension"
    && (vocabulary.lookup requirement.className).any fun values =>
      values.contains requirement.id

namespace EffectiveCapability

variable {Instant : Type} [LinearOrder Instant] (parseRfc3339 : String → Option Instant)

/-- `values`. -/
def values (candidate : EffectiveCapability) : String → Option (List String)
  | "input_modality" => some candidate.inputModalities
  | "output_modality" => some candidate.outputModalities
  | "feature" => some candidate.features
  | "execution_capability" => some candidate.executionCapabilities
  | "profile" => some candidate.supportedProfiles
  | _ => none

/-- `has_every`. -/
def hasEvery (candidate : EffectiveCapability) (requirements : List Requirement) : Bool :=
  requirements.all fun requirement =>
    (candidate.values requirement.className).any fun items => items.contains requirement.id

/-- The instant the claim of a variant is valid until, if it says one. -/
def validUntil (candidate : EffectiveCapability) : Option Instant := do
  let claim ← candidate.claimProvenance
  let value ← claim.validUntil
  parseRfc3339 value

/-- `fresh`. -/
def fresh (candidate : EffectiveCapability) (evaluatedAt : Instant) : Bool :=
  match candidate.validUntil parseRfc3339 with
  | none => true
  | some until_ => decide (evaluatedAt ≤ until_)

/-- What the operator of a limit compares. -/
def limitHolds (operator : String) (actual required : ℚ) : Bool :=
  match operator with
  | "gte" => decide (required ≤ actual)
  | "lte" => decide (actual ≤ required)
  | "eq" => decide (actual = required)
  | _ => false

/-- `limits_match`. -/
def limitsMatch (candidate : EffectiveCapability) (requirements : List LimitRequirement) : Bool :=
  requirements.all fun required =>
    (candidate.limits.lookup required.id).any fun actual =>
      actual.unit == required.unit && limitHolds required.operator actual.value required.value

end EffectiveCapability

/-- What the loop over the requirements refuses one with. -/
def Requirement.refusal (vocabulary : Vocabulary) (policyDenials : List Requirement)
    (requirement : Requirement) : Option String :=
  if !requirement.known vocabulary then some "required_capability_unknown"
  else if policyDenials.contains requirement then some "capability_policy_denied"
  else none

section Matching

variable {Instant : Type} [LinearOrder Instant] (parseRfc3339 : String → Option Instant)

/-- `match_capabilities`. -/
def matchCapabilities (capabilities : List EffectiveCapability) (request : Requirements)
    (vocabulary : Vocabulary) (evaluatedAt : Instant) (policyDenials : List Requirement) :
    MatchResult :=
  match request.requires.findSome? (Requirement.refusal vocabulary policyDenials) with
  | some code => .refused code
  | none =>
    let candidates := capabilities.filter fun candidate =>
      candidate.intent == request.intent && candidate.hasEvery request.requires
    if candidates.isEmpty then .refused "required_capability_unsupported"
    else
      let candidates := candidates.filter fun candidate =>
        candidate.fresh parseRfc3339 evaluatedAt
      if candidates.isEmpty then .refused "required_capability_stale"
      else
        let candidates := candidates.filter fun candidate =>
          candidate.limitsMatch request.limits
        if candidates.isEmpty then .refused "capability_limit_unsatisfied"
        else
          { eligible := true
            variantIds := candidates.map EffectiveCapability.variantId
            preferenceUnavailable := request.prefers.any fun preference =>
              !preference.known vocabulary
            refusal := none }

/-! ## What a variant has to meet -/

/-- A variant has a requirement: it is in the list of its class. -/
def EffectiveCapability.Has (candidate : EffectiveCapability) (requirement : Requirement) : Prop :=
  ∃ items, candidate.values requirement.className = some items ∧ requirement.id ∈ items

/-- A variant meets a limit: it has a value for it, in its unit, and the
comparison holds. -/
def EffectiveCapability.Meets (candidate : EffectiveCapability) (required : LimitRequirement) :
    Prop :=
  ∃ actual, candidate.limits.lookup required.id = some actual ∧ actual.unit = required.unit
    ∧ (required.operator = "gte" ∧ required.value ≤ actual.value
      ∨ required.operator = "lte" ∧ actual.value ≤ required.value
      ∨ required.operator = "eq" ∧ actual.value = required.value)

/-- A variant serves a request at an instant: it has the intent and all that
is required, its claim is not over, and it meets every limit. -/
structure EffectiveCapability.Serves (candidate : EffectiveCapability) (request : Requirements)
    (evaluatedAt : Instant) : Prop where
  intent : candidate.intent = request.intent
  requires : ∀ requirement ∈ request.requires, candidate.Has requirement
  fresh : ∀ until_ ∈ candidate.validUntil parseRfc3339, evaluatedAt ≤ until_
  limits : ∀ required ∈ request.limits, candidate.Meets required

/-- A request is admitted: all it requires is of the vocabulary and not
denied. -/
def Requirements.Admitted (request : Requirements) (vocabulary : Vocabulary)
    (policyDenials : List Requirement) : Prop :=
  ∀ requirement ∈ request.requires,
    requirement.known vocabulary = true ∧ requirement ∉ policyDenials

theorem EffectiveCapability.hasEvery_iff {candidate : EffectiveCapability}
    {requirements : List Requirement} :
    candidate.hasEvery requirements = true
      ↔ ∀ requirement ∈ requirements, candidate.Has requirement := by
  unfold hasEvery Has
  rw [List.all_eq_true]
  refine forall₂_congr fun requirement _ => ?_
  rw [Option.any_eq_true]
  simp

theorem EffectiveCapability.fresh_iff {candidate : EffectiveCapability} {evaluatedAt : Instant} :
    candidate.fresh parseRfc3339 evaluatedAt = true
      ↔ ∀ until_ ∈ candidate.validUntil parseRfc3339, evaluatedAt ≤ until_ := by
  unfold fresh
  cases candidate.validUntil parseRfc3339 with
  | none => simp
  | some until_ => simp

theorem EffectiveCapability.limitHolds_iff {operator : String} {actual required : ℚ} :
    limitHolds operator actual required = true
      ↔ operator = "gte" ∧ required ≤ actual ∨ operator = "lte" ∧ actual ≤ required
        ∨ operator = "eq" ∧ actual = required := by
  unfold limitHolds
  split
  · simp
  · simp
  · simp
  · next hgte hlte heq =>
    refine iff_of_false Bool.false_ne_true ?_
    rintro (h | h | h)
    · exact hgte h.1
    · exact hlte h.1
    · exact heq h.1

theorem EffectiveCapability.limitsMatch_iff {candidate : EffectiveCapability}
    {requirements : List LimitRequirement} :
    candidate.limitsMatch requirements = true
      ↔ ∀ required ∈ requirements, candidate.Meets required := by
  unfold limitsMatch Meets
  rw [List.all_eq_true]
  refine forall₂_congr fun required _ => ?_
  rw [Option.any_eq_true]
  simp only [Bool.and_eq_true, beq_iff_eq, limitHolds_iff]

/-- What all stages ask of a variant. -/
def EffectiveCapability.serves (candidate : EffectiveCapability) (request : Requirements)
    (evaluatedAt : Instant) : Bool :=
  ((candidate.intent == request.intent && candidate.hasEvery request.requires)
    && candidate.fresh parseRfc3339 evaluatedAt) && candidate.limitsMatch request.limits

theorem EffectiveCapability.serves_iff {candidate : EffectiveCapability} {request : Requirements}
    {evaluatedAt : Instant} :
    candidate.serves parseRfc3339 request evaluatedAt = true
      ↔ candidate.Serves parseRfc3339 request evaluatedAt := by
  unfold serves
  rw [Bool.and_eq_true, Bool.and_eq_true, Bool.and_eq_true, beq_iff_eq, hasEvery_iff, fresh_iff,
    limitsMatch_iff]
  constructor
  · rintro ⟨⟨⟨hintent, hrequires⟩, hfresh⟩, hlimits⟩
    exact ⟨hintent, hrequires, hfresh, hlimits⟩
  · intro h
    exact ⟨⟨⟨h.intent, h.requires⟩, h.fresh⟩, h.limits⟩

/-- It is decided by the checks of the stages. -/
instance EffectiveCapability.decidableServes (candidate : EffectiveCapability)
    (request : Requirements) (evaluatedAt : Instant) :
    Decidable (candidate.Serves parseRfc3339 request evaluatedAt) :=
  decidable_of_iff (candidate.serves parseRfc3339 request evaluatedAt = true)
    (candidate.serves_iff parseRfc3339)

/-- **More that is asked for is met by fewer.** -/
theorem EffectiveCapability.Serves.mono {candidate : EffectiveCapability}
    {request request' : Requirements} {evaluatedAt : Instant}
    (h : candidate.Serves parseRfc3339 request' evaluatedAt)
    (hintent : request.intent = request'.intent) (hrequires : request.requires ⊆ request'.requires)
    (hlimits : request.limits ⊆ request'.limits) :
    candidate.Serves parseRfc3339 request evaluatedAt where
  intent := h.intent.trans hintent.symm
  requires r hr := h.requires r (hrequires hr)
  fresh := h.fresh
  limits l hl := h.limits l (hlimits hl)

/-! ## The stages -/

/-- The stages of a matching, with the codes they refuse with. -/
def matchStages (request : Requirements) (evaluatedAt : Instant) :
    List (String × (EffectiveCapability → Bool)) :=
  [("required_capability_unsupported", fun candidate =>
      candidate.intent == request.intent && candidate.hasEvery request.requires),
   ("required_capability_stale", fun candidate => candidate.fresh parseRfc3339 evaluatedAt),
   ("capability_limit_unsatisfied", fun candidate => candidate.limitsMatch request.limits)]

theorem matchStages_ne_nil (request : Requirements) (evaluatedAt : Instant) :
    matchStages parseRfc3339 request evaluatedAt ≠ [] := List.cons_ne_nil _ _

theorem Requirement.refusal_eq_none_iff {vocabulary : Vocabulary}
    {policyDenials : List Requirement} {requirement : Requirement} :
    requirement.refusal vocabulary policyDenials = none
      ↔ requirement.known vocabulary = true ∧ requirement ∉ policyDenials := by
  unfold refusal
  split
  · next h => simp_all
  · next h =>
    split
    · next hdenied => simp_all
    · next hdenied => simp_all

/-- The loop over the requirements passes exactly the admitted requests. -/
theorem findSome_refusal_eq_none_iff {request : Requirements} {vocabulary : Vocabulary}
    {policyDenials : List Requirement} :
    request.requires.findSome? (Requirement.refusal vocabulary policyDenials) = none
      ↔ request.Admitted vocabulary policyDenials := by
  rw [List.findSome?_eq_none_iff]
  exact forall₂_congr fun _ _ => Requirement.refusal_eq_none_iff

variable {capabilities : List EffectiveCapability} {request : Requirements}
  {vocabulary : Vocabulary} {evaluatedAt : Instant} {policyDenials : List Requirement}

/-- A request that is not admitted is refused for a requirement. -/
theorem exists_refusal_of_not_admitted (h : ¬ request.Admitted vocabulary policyDenials) :
    ∃ code, request.requires.findSome? (Requirement.refusal vocabulary policyDenials)
      = some code := by
  rw [← findSome_refusal_eq_none_iff] at h
  exact Option.ne_none_iff_exists'.mp h

/-- A requirement that is refused refuses the request. -/
theorem matchCapabilities_of_refusal {code : String}
    (h : request.requires.findSome? (Requirement.refusal vocabulary policyDenials) = some code) :
    matchCapabilities parseRfc3339 capabilities request vocabulary evaluatedAt policyDenials
      = .refused code := by
  unfold matchCapabilities
  rw [h]

/-- The result of what the stages leave. -/
def MatchResult.ofStages (preferenceUnavailable : Bool) :
    Except String (List EffectiveCapability) → MatchResult
  | .error code => .refused code
  | .ok candidates =>
    { eligible := true
      variantIds := candidates.map EffectiveCapability.variantId
      preferenceUnavailable
      refusal := none }

/-- **After the loop a matching is its stages.** -/
theorem matchCapabilities_of_admitted (h : request.Admitted vocabulary policyDenials) :
    matchCapabilities parseRfc3339 capabilities request vocabulary evaluatedAt policyDenials
      = .ofStages (request.prefers.any fun preference => !preference.known vocabulary)
        (Stages.sieve (matchStages parseRfc3339 request evaluatedAt) capabilities) := by
  unfold matchCapabilities matchStages
  rw [findSome_refusal_eq_none_iff.mpr h]
  dsimp only
  generalize hsupported : capabilities.filter (fun candidate =>
    candidate.intent == request.intent && candidate.hasEvery request.requires) = supported
  rw [Stages.sieve, hsupported]
  cases supported with
  | nil => rfl
  | cons c others =>
    dsimp only
    rw [List.isEmpty_cons, if_neg Bool.false_ne_true, Stages.sieve]
    generalize (c :: others).filter (fun candidate =>
      candidate.fresh parseRfc3339 evaluatedAt) = current
    cases current with
    | nil => rfl
    | cons c others =>
      dsimp only
      rw [List.isEmpty_cons, if_neg Bool.false_ne_true, Stages.sieve]
      generalize (c :: others).filter (fun candidate =>
        candidate.limitsMatch request.limits) = within
      cases within with
      | nil => rfl
      | cons c others => rfl

/-- What passes every stage serves the request. -/
theorem filter_passes_matchStages :
    capabilities.filter (Stages.passes (matchStages parseRfc3339 request evaluatedAt))
      = capabilities.filter fun c => c.Serves parseRfc3339 request evaluatedAt := by
  refine List.filter_congr fun c _ => ?_
  have hpasses : Stages.passes (matchStages parseRfc3339 request evaluatedAt) c
      = c.serves parseRfc3339 request evaluatedAt := by
    unfold Stages.passes matchStages EffectiveCapability.serves
    simp only [List.all_cons, List.all_nil, Bool.and_true, Bool.and_assoc]
  rw [hpasses, Bool.eq_iff_iff, decide_eq_true_eq]
  exact c.serves_iff parseRfc3339

/-- **A refused requirement**: the first that is not known, or is denied. -/
theorem findSome_refusal_eq_some_iff {code : String} :
    request.requires.findSome? (Requirement.refusal vocabulary policyDenials) = some code
      ↔ ∃ before r after, request.requires = before ++ r :: after
        ∧ (∀ x ∈ before, x.known vocabulary = true ∧ x ∉ policyDenials)
        ∧ r.refusal vocabulary policyDenials = some code := by
  rw [List.findSome?_eq_some_iff]
  constructor
  · rintro ⟨before, r, after, hsplit, hr, hbefore⟩
    exact ⟨before, r, after, hsplit, fun x hx =>
      Requirement.refusal_eq_none_iff.mp (hbefore x hx), hr⟩
  · rintro ⟨before, r, after, hsplit, hbefore, hr⟩
    exact ⟨before, r, after, hsplit, hr, fun x hx =>
      Requirement.refusal_eq_none_iff.mpr (hbefore x hx)⟩

theorem eligible_matchCapabilities_iff :
    (matchCapabilities parseRfc3339 capabilities request vocabulary evaluatedAt
        policyDenials).eligible = true
      ↔ request.Admitted vocabulary policyDenials
        ∧ ∃ c ∈ capabilities, c.Serves parseRfc3339 request evaluatedAt := by
  by_cases hadmitted : request.Admitted vocabulary policyDenials
  · rw [matchCapabilities_of_admitted parseRfc3339 hadmitted, and_iff_right hadmitted]
    cases hstages : Stages.sieve (matchStages parseRfc3339 request evaluatedAt) capabilities with
    | error code =>
      have hnone := Stages.filter_passes_of_error hstages
      rw [filter_passes_matchStages, List.filter_eq_nil_iff] at hnone
      refine iff_of_false Bool.false_ne_true ?_
      rintro ⟨c, hc, hserves⟩
      exact hnone c hc (decide_eq_true hserves)
    | ok kept =>
      obtain ⟨hkept, hne⟩ := (Stages.sieve_eq_ok_iff (matchStages_ne_nil parseRfc3339 _ _)).mp hstages
      rw [filter_passes_matchStages] at hkept
      obtain ⟨c, hc⟩ := List.exists_mem_of_ne_nil kept hne
      rw [← hkept, List.mem_filter, decide_eq_true_eq] at hc
      exact iff_of_true rfl ⟨c, hc⟩
  · refine iff_of_false ?_ fun h => hadmitted h.1
    obtain ⟨code, hcode⟩ := exists_refusal_of_not_admitted hadmitted
    rw [matchCapabilities_of_refusal parseRfc3339 hcode]
    exact Bool.false_ne_true

/-- What is not eligible is refused. -/
theorem refusal_eq_none_iff :
    (matchCapabilities parseRfc3339 capabilities request vocabulary evaluatedAt
        policyDenials).refusal = none
      ↔ (matchCapabilities parseRfc3339 capabilities request vocabulary evaluatedAt
        policyDenials).eligible = true := by
  by_cases hadmitted : request.Admitted vocabulary policyDenials
  · rw [matchCapabilities_of_admitted parseRfc3339 hadmitted]
    cases Stages.sieve (matchStages parseRfc3339 request evaluatedAt) capabilities with
    | error code => exact iff_of_false (fun h => nomatch h) Bool.false_ne_true
    | ok kept => exact iff_of_true rfl rfl
  · obtain ⟨code, hcode⟩ := exists_refusal_of_not_admitted hadmitted
    rw [matchCapabilities_of_refusal parseRfc3339 hcode]
    exact iff_of_false (fun h => nomatch h) Bool.false_ne_true

/-- The variants that are returned for a request that is admitted are those
that serve it. -/
theorem variantIds_of_admitted (h : request.Admitted vocabulary policyDenials) :
    (matchCapabilities parseRfc3339 capabilities request vocabulary evaluatedAt
        policyDenials).variantIds
      = (capabilities.filter fun c => c.Serves parseRfc3339 request evaluatedAt).map
        EffectiveCapability.variantId := by
  rw [matchCapabilities_of_admitted parseRfc3339 h, ← filter_passes_matchStages]
  cases hstages : Stages.sieve (matchStages parseRfc3339 request evaluatedAt) capabilities with
  | error code =>
    rw [Stages.filter_passes_of_error hstages]
    rfl
  | ok kept =>
    rw [((Stages.sieve_eq_ok_iff (matchStages_ne_nil parseRfc3339 _ _)).mp hstages).1]
    rfl

theorem variantIds_of_not_admitted (h : ¬ request.Admitted vocabulary policyDenials) :
    (matchCapabilities parseRfc3339 capabilities request vocabulary evaluatedAt
        policyDenials).variantIds = [] := by
  obtain ⟨code, hcode⟩ := exists_refusal_of_not_admitted h
  rw [matchCapabilities_of_refusal parseRfc3339 hcode]
  rfl

/-- The variants that are returned for two lists in a row. -/
theorem variantIds_append (others : List EffectiveCapability) :
    (matchCapabilities parseRfc3339 (capabilities ++ others) request vocabulary evaluatedAt
        policyDenials).variantIds
      = (matchCapabilities parseRfc3339 capabilities request vocabulary evaluatedAt
          policyDenials).variantIds
        ++ (matchCapabilities parseRfc3339 others request vocabulary evaluatedAt
          policyDenials).variantIds := by
  by_cases hadmitted : request.Admitted vocabulary policyDenials
  · rw [variantIds_of_admitted parseRfc3339 hadmitted, variantIds_of_admitted parseRfc3339 hadmitted,
      variantIds_of_admitted parseRfc3339 hadmitted, List.filter_append, List.map_append]
  · rw [variantIds_of_not_admitted parseRfc3339 hadmitted,
      variantIds_of_not_admitted parseRfc3339 hadmitted,
      variantIds_of_not_admitted parseRfc3339 hadmitted, List.append_nil]

/-- **More that is asked for adds no variant.** -/
theorem variantIds_sublist {request' : Requirements} (hintent : request.intent = request'.intent)
    (hrequires : request.requires ⊆ request'.requires)
    (hlimits : request.limits ⊆ request'.limits) :
    (matchCapabilities parseRfc3339 capabilities request' vocabulary evaluatedAt
        policyDenials).variantIds.Sublist
      (matchCapabilities parseRfc3339 capabilities request vocabulary evaluatedAt
        policyDenials).variantIds := by
  by_cases hadmitted' : request'.Admitted vocabulary policyDenials
  · have hadmitted : request.Admitted vocabulary policyDenials := fun r hr =>
      hadmitted' r (hrequires hr)
    rw [variantIds_of_admitted parseRfc3339 hadmitted,
      variantIds_of_admitted parseRfc3339 hadmitted']
    refine (List.monotone_filter_right capabilities fun c hc => ?_).map _
    rw [decide_eq_true_eq] at hc ⊢
    exact hc.mono parseRfc3339 hintent hrequires hlimits
  · rw [variantIds_of_not_admitted parseRfc3339 hadmitted']
    exact List.nil_sublist _

/-! ## The refusals -/

/-- **The first stage that leaves no candidate**, by its code. A requirement
that is not known, or is denied, ends the matching where it stands; then the
variants run out at the requirements, at the time, or at the limits. -/
inductive RunsOut (capabilities : List EffectiveCapability) (request : Requirements)
    (vocabulary : Vocabulary) (evaluatedAt : Instant) (policyDenials : List Requirement) :
    String → Prop
  | unknown {before after : List Requirement} {r : Requirement}
      (hsplit : request.requires = before ++ r :: after)
      (hbefore : ∀ x ∈ before, x.known vocabulary = true ∧ x ∉ policyDenials)
      (hr : r.known vocabulary = false) :
      RunsOut capabilities request vocabulary evaluatedAt policyDenials
        "required_capability_unknown"
  | denied {before after : List Requirement} {r : Requirement}
      (hsplit : request.requires = before ++ r :: after)
      (hbefore : ∀ x ∈ before, x.known vocabulary = true ∧ x ∉ policyDenials)
      (hknown : r.known vocabulary = true) (hr : r ∈ policyDenials) :
      RunsOut capabilities request vocabulary evaluatedAt policyDenials
        "capability_policy_denied"
  | unsupported (hadmitted : request.Admitted vocabulary policyDenials)
      (hnone : ∀ c ∈ capabilities,
        ¬ (c.intent = request.intent ∧ ∀ r ∈ request.requires, c.Has r)) :
      RunsOut capabilities request vocabulary evaluatedAt policyDenials
        "required_capability_unsupported"
  | stale (hadmitted : request.Admitted vocabulary policyDenials)
      (hsome : ∃ c ∈ capabilities,
        c.intent = request.intent ∧ ∀ r ∈ request.requires, c.Has r)
      (hnone : ∀ c ∈ capabilities,
        ¬ ((c.intent = request.intent ∧ ∀ r ∈ request.requires, c.Has r)
          ∧ ∀ until_ ∈ c.validUntil parseRfc3339, evaluatedAt ≤ until_)) :
      RunsOut capabilities request vocabulary evaluatedAt policyDenials
        "required_capability_stale"
  | limit (hadmitted : request.Admitted vocabulary policyDenials)
      (hsome : ∃ c ∈ capabilities,
        (c.intent = request.intent ∧ ∀ r ∈ request.requires, c.Has r)
          ∧ ∀ until_ ∈ c.validUntil parseRfc3339, evaluatedAt ≤ until_)
      (hnone : ∀ c ∈ capabilities, ¬ c.Serves parseRfc3339 request evaluatedAt) :
      RunsOut capabilities request vocabulary evaluatedAt policyDenials
        "capability_limit_unsatisfied"

/-- The first stages keep what has the intent and all that is required. -/
theorem supported_iff {c : EffectiveCapability} :
    Stages.passes ((matchStages parseRfc3339 request evaluatedAt).take 1) c = true
      ↔ c.intent = request.intent ∧ ∀ r ∈ request.requires, c.Has r := by
  rw [← c.hasEvery_iff]
  simp [Stages.passes, matchStages]

/-- And what of it is not over. -/
theorem current_iff {c : EffectiveCapability} :
    Stages.passes ((matchStages parseRfc3339 request evaluatedAt).take 2) c = true
      ↔ (c.intent = request.intent ∧ ∀ r ∈ request.requires, c.Has r)
        ∧ ∀ until_ ∈ c.validUntil parseRfc3339, evaluatedAt ≤ until_ := by
  rw [← c.hasEvery_iff, ← c.fresh_iff parseRfc3339]
  simp [Stages.passes, matchStages, and_assoc]

theorem serves_iff_passes {c : EffectiveCapability} :
    Stages.passes ((matchStages parseRfc3339 request evaluatedAt).take 3) c = true
      ↔ c.Serves parseRfc3339 request evaluatedAt := by
  rw [← c.serves_iff parseRfc3339]
  simp [Stages.passes, matchStages, EffectiveCapability.serves, and_assoc]

theorem filter_passes_eq_nil_iff {stages : List (String × (EffectiveCapability → Bool))} :
    capabilities.filter (Stages.passes stages) = []
      ↔ ∀ c ∈ capabilities, ¬ Stages.passes stages c = true := List.filter_eq_nil_iff

theorem filter_passes_ne_nil_iff {stages : List (String × (EffectiveCapability → Bool))} :
    capabilities.filter (Stages.passes stages) ≠ []
      ↔ ∃ c ∈ capabilities, Stages.passes stages c = true := by
  rw [Ne, filter_passes_eq_nil_iff]
  push Not
  rfl

/-- A requirement is refused for the one reason or for the other. -/
theorem Requirement.refusal_eq_some_iff {requirement : Requirement} {code : String} :
    requirement.refusal vocabulary policyDenials = some code
      ↔ requirement.known vocabulary = false ∧ code = "required_capability_unknown"
        ∨ requirement.known vocabulary = true ∧ requirement ∈ policyDenials
          ∧ code = "capability_policy_denied" := by
  unfold refusal
  cases requirement.known vocabulary with
  | false => simp [eq_comm]
  | true =>
    by_cases hdenied : requirement ∈ policyDenials
    · simp [hdenied, eq_comm]
    · simp [hdenied]

/-- **The code of a refusal names where the candidates run out.** -/
theorem refusal_matchCapabilities_iff {code : String} :
    (matchCapabilities parseRfc3339 capabilities request vocabulary evaluatedAt
        policyDenials).refusal = some code
      ↔ RunsOut parseRfc3339 capabilities request vocabulary evaluatedAt policyDenials code := by
  by_cases hadmitted : request.Admitted vocabulary policyDenials
  · -- the loop passes, and the stages refuse
    have hstages : (matchCapabilities parseRfc3339 capabilities request vocabulary evaluatedAt
        policyDenials).refusal = some code
        ↔ Stages.sieve (matchStages parseRfc3339 request evaluatedAt) capabilities
          = .error code := by
      rw [matchCapabilities_of_admitted parseRfc3339 hadmitted]
      cases Stages.sieve (matchStages parseRfc3339 request evaluatedAt) capabilities with
      | ok kept => exact iff_of_false (fun h => nomatch h) (fun h => nomatch h)
      | error code' =>
        rw [Except.error.injEq]
        exact Option.some_inj
    rw [hstages, Stages.sieve_eq_error_iff]
    constructor
    · rintro ⟨n, keep, hstage, hsome, hnone⟩
      match n with
      | 0 =>
        cases hstage
        refine .unsupported hadmitted fun c hc h => ?_
        exact filter_passes_eq_nil_iff.mp hnone c hc ((supported_iff parseRfc3339).mpr h)
      | 1 =>
        cases hstage
        obtain ⟨c, hc, hpasses⟩ := filter_passes_ne_nil_iff.mp (hsome one_ne_zero)
        refine .stale hadmitted ⟨c, hc, (supported_iff parseRfc3339).mp hpasses⟩ fun c hc h => ?_
        exact filter_passes_eq_nil_iff.mp hnone c hc ((current_iff parseRfc3339).mpr h)
      | 2 =>
        cases hstage
        obtain ⟨c, hc, hpasses⟩ := filter_passes_ne_nil_iff.mp (hsome two_ne_zero)
        refine .limit hadmitted ⟨c, hc, (current_iff parseRfc3339).mp hpasses⟩ fun c hc h => ?_
        exact filter_passes_eq_nil_iff.mp hnone c hc ((serves_iff_passes parseRfc3339).mpr h)
      | n + 3 => exact nomatch hstage
    · intro h
      cases h with
      | unknown hsplit _ hr =>
        have hknown := (hadmitted _ (hsplit ▸ List.mem_append_right _ List.mem_cons_self)).1
        exact absurd (hr.symm.trans hknown) Bool.false_ne_true
      | denied hsplit _ _ hr =>
        exact absurd hr (hadmitted _ (hsplit ▸ List.mem_append_right _ List.mem_cons_self)).2
      | unsupported _ hnone =>
        refine ⟨0, _, rfl, fun h => absurd rfl h, filter_passes_eq_nil_iff.mpr fun c hc h => ?_⟩
        exact hnone c hc ((supported_iff parseRfc3339).mp h)
      | stale _ hsome hnone =>
        obtain ⟨c, hc, hsupported⟩ := hsome
        refine ⟨1, _, rfl, fun _ => filter_passes_ne_nil_iff.mpr ⟨c, hc, ?_⟩,
          filter_passes_eq_nil_iff.mpr fun c hc h => ?_⟩
        · exact (supported_iff parseRfc3339).mpr hsupported
        · exact hnone c hc ((current_iff parseRfc3339).mp h)
      | limit _ hsome hnone =>
        obtain ⟨c, hc, hcurrent⟩ := hsome
        refine ⟨2, _, rfl, fun _ => filter_passes_ne_nil_iff.mpr ⟨c, hc, ?_⟩,
          filter_passes_eq_nil_iff.mpr fun c hc h => ?_⟩
        · exact (current_iff parseRfc3339).mpr hcurrent
        · exact hnone c hc ((serves_iff_passes parseRfc3339).mp h)
  · -- the loop ends at a requirement
    obtain ⟨code', hcode⟩ := exists_refusal_of_not_admitted hadmitted
    rw [matchCapabilities_of_refusal parseRfc3339 hcode]
    have hsame : (MatchResult.refused code').refusal = some code ↔ request.requires.findSome?
        (Requirement.refusal vocabulary policyDenials) = some code := by rw [hcode]; rfl
    rw [hsame, findSome_refusal_eq_some_iff]
    constructor
    · rintro ⟨before, r, after, hsplit, hbefore, hr⟩
      obtain ⟨hknown, rfl⟩ | ⟨hknown, hdenied, rfl⟩ := Requirement.refusal_eq_some_iff.mp hr
      · exact .unknown hsplit hbefore hknown
      · exact .denied hsplit hbefore hknown hdenied
    · intro h
      cases h with
      | unknown hsplit hbefore hr =>
        exact ⟨_, _, _, hsplit, hbefore, Requirement.refusal_eq_some_iff.mpr (.inl ⟨hr, rfl⟩)⟩
      | denied hsplit hbefore hknown hr =>
        exact ⟨_, _, _, hsplit, hbefore,
          Requirement.refusal_eq_some_iff.mpr (.inr ⟨hknown, hr, rfl⟩)⟩
      | unsupported h _ => exact absurd h hadmitted
      | stale h _ _ => exact absurd h hadmitted
      | limit h _ _ => exact absurd h hadmitted

/-- **A matching is exact, and never joins variants.** It is eligible if and
only if all that is required is of the vocabulary and not denied and a single
variant serves the request; it returns the variants that do, in order, so
that the results for two lists in a row are joined; what asks for more gets
no variant more; and a refusal names where the candidates run out. -/
theorem matchCapabilities_exact (capabilities : List EffectiveCapability) (request : Requirements)
    (vocabulary : Vocabulary) (evaluatedAt : Instant) (policyDenials : List Requirement) :
    ((matchCapabilities parseRfc3339 capabilities request vocabulary evaluatedAt
          policyDenials).eligible = true
        ↔ request.Admitted vocabulary policyDenials
          ∧ ∃ c ∈ capabilities, c.Serves parseRfc3339 request evaluatedAt)
      ∧ (request.Admitted vocabulary policyDenials →
        (matchCapabilities parseRfc3339 capabilities request vocabulary evaluatedAt
            policyDenials).variantIds
          = (capabilities.filter fun c => c.Serves parseRfc3339 request evaluatedAt).map
            EffectiveCapability.variantId)
      ∧ (¬ request.Admitted vocabulary policyDenials →
        (matchCapabilities parseRfc3339 capabilities request vocabulary evaluatedAt
          policyDenials).variantIds = [])
      ∧ (∀ others : List EffectiveCapability,
        (matchCapabilities parseRfc3339 (capabilities ++ others) request vocabulary evaluatedAt
            policyDenials).variantIds
          = (matchCapabilities parseRfc3339 capabilities request vocabulary evaluatedAt
              policyDenials).variantIds
            ++ (matchCapabilities parseRfc3339 others request vocabulary evaluatedAt
              policyDenials).variantIds)
      ∧ (∀ request' : Requirements, request.intent = request'.intent →
        request.requires ⊆ request'.requires → request.limits ⊆ request'.limits →
        (matchCapabilities parseRfc3339 capabilities request' vocabulary evaluatedAt
            policyDenials).variantIds.Sublist
          (matchCapabilities parseRfc3339 capabilities request vocabulary evaluatedAt
            policyDenials).variantIds)
      ∧ ((matchCapabilities parseRfc3339 capabilities request vocabulary evaluatedAt
            policyDenials).refusal = none
          ↔ (matchCapabilities parseRfc3339 capabilities request vocabulary evaluatedAt
            policyDenials).eligible = true)
      ∧ ∀ code, (matchCapabilities parseRfc3339 capabilities request vocabulary evaluatedAt
            policyDenials).refusal = some code
          ↔ RunsOut parseRfc3339 capabilities request vocabulary evaluatedAt policyDenials
            code := by
  refine ⟨eligible_matchCapabilities_iff parseRfc3339, variantIds_of_admitted parseRfc3339,
    variantIds_of_not_admitted parseRfc3339, variantIds_append parseRfc3339, ?_,
    refusal_eq_none_iff parseRfc3339, ?_⟩
  · intro request' hintent hrequires hlimits
    exact variantIds_sublist parseRfc3339 hintent hrequires hlimits
  · intro code
    exact refusal_matchCapabilities_iff parseRfc3339

end Matching
