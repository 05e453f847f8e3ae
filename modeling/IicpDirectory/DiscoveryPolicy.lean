import IicpDirectory.Admission
import IicpDirectory.Quotes
import IicpDirectory.Repo

/-!
# Which nodes a discovery lists, and which one a ticket names

The repository answers a query with candidates, and the directory chooses
among them: `selectAndRank` for `discover`, `selectDispatchTicketNode` for a
dispatch ticket. The two choose by different rules. A discovery leaves out what
is not eligible, scores what is left and lists it by descending score; a ticket
takes the one candidate that was named, or the only one of a beginning, or the
first.

Whether the SDK of a node is current is a parameter, as it is in the source.
-/

/-! ## Eligibility and score -/

namespace BehaviorContract

/-- `RankingInput`. -/
structure RankingInput where
  availability : ℚ
  load : ℚ
  activeJobs : ℕ
  maxConcurrent : ℕ
  region : String
  reputation : Option ℚ
  models : List String
  pricing : Option ℚ
  sdkCurrent : Bool
  cxKey : Bool

/-- One, or nothing. -/
def indicator (p : Bool) : ℚ := if p then 1 else 0

/-- `ranking_score`. -/
def rankingScore (node : RankingInput) (requestedRegion requestedModel : Option String) : ℚ :=
  let load := 1 - min node.load 1
  let capacity :=
    if 0 < node.maxConcurrent then max (1 - (node.activeJobs : ℚ) / node.maxConcurrent) 0 else 0
  let region := requestedRegion.elim (1 / 2) fun wanted => indicator (wanted == node.region)
  let reputation := node.reputation.getD (1 / 2)
  let score := requestedModel.elim
    (35 / 100 * node.availability + 28 / 100 * load + 18 / 100 * capacity + 9 / 100 * region
      + 10 / 100 * reputation)
    fun model =>
      let modelMatch := indicator (node.models.contains model)
      let price := node.pricing.elim (1 / 2) fun price => max (1 - price / 10) 0
      25 / 100 * node.availability + 20 / 100 * load + 15 / 100 * capacity + 10 / 100 * region
        + 10 / 100 * reputation + 10 / 100 * price + 10 / 100 * modelMatch
  let readiness :=
    max (1 - (if node.sdkCurrent then 0 else 8 / 100) - (if node.cxKey then 0 else 7 / 100)) (3 / 4)
  score * readiness

/-- `EligibilityInput`. -/
structure EligibilityInput where
  healthModels : Option (List String)
  models : List String
  backendState : Option String
  reputation : ℚ
  tasks : ℕ

/-- `eligible`. -/
def eligible (node : EligibilityInput) (model qos : Option String) (minReputation : ℚ) : Bool :=
  !(node.healthModels == some [] || node.backendState == some "draining"
      || node.backendState == some "unavailable")
    && model.all (node.healthModels.getD node.models).contains
    && !(qos == some "realtime" && (decide (node.tasks < 1000) || decide (node.reputation < 4 / 5)))
    && !(qos == some "interactive" && decide (node.tasks < 100))
    && (decide (minReputation ≤ 0) || decide (minReputation ≤ node.reputation))

end BehaviorContract

/-- `effective_sdk_compatibility_version`. -/
def Node.effectiveSdkCompatibilityVersion (n : Node) : Option String :=
  n.sdkCompatibilityVersion.or n.sdkVersion

/-- The models a node serves: the ones it has reported last, or declared. -/
def Node.liveModels (n : Node) : List String := n.healthModels.getD n.models

namespace DiscoveryPolicy

open BehaviorContract

/-- `SelectionRequest`. -/
structure SelectionRequest where
  model : Option String
  qos : Option String
  region : Option String
  minReputation : ℚ
  limit : ℕ
  cipCapable : Bool

/-- `validate_qos`. -/
def validateQos (qos : Option String) : Except String Unit :=
  if qos.all ["realtime", "interactive", "batch", "best-effort"].contains then .ok ()
  else .error "qos must be realtime, interactive, batch, or best-effort"

/-- `validate_min_reputation`. -/
def validateMinReputation (value : Option ℚ) : Except String Unit :=
  if value.all fun score => decide (0 ≤ score) && decide (score ≤ 1) then .ok ()
  else .error "min_reputation must be in [0, 1]"

/-- The node is let into the selection. -/
def selected (request : SelectionRequest) (n : Node) : Bool :=
  (!request.cipCapable || n.cipConformanceLevel == some "CIP-Provider")
    && n.healthModels.all (fun models => !models.isEmpty)
    && eligible
      { healthModels := n.healthModels
        models := n.models
        backendState := n.routingPolicy.backendState
        reputation := n.reputationScore
        tasks := n.completedTasksCount }
      request.model request.qos request.minReputation

/-- The node with its score for a request. -/
def scored (sdkCurrent : Option String → Bool) (request : SelectionRequest) (n : Node) : Node :=
  { n with
    score := rankingScore
      { availability := n.routingPolicy.availabilityScore
        load := n.load
        activeJobs := n.activeJobs
        maxConcurrent := n.maxConcurrent
        region := n.region
        reputation := some n.reputationScore
        models := n.liveModels
        pricing := n.routingPolicy.pricingCreditsPer1000
        sdkCurrent := sdkCurrent n.effectiveSdkCompatibilityVersion
        cxKey := n.publicKey.isSome }
      request.region request.model }

/-- By descending score, and then by identity. -/
def before (a b : Node) : Prop := b.score < a.score ∨ (a.score = b.score ∧ a.nodeId ≤ b.nodeId)

instance (a b : Node) : Decidable (before a b) :=
  inferInstanceAs (Decidable (_ ∨ _))

/-- **`select_and_rank`.** -/
def selectAndRank (sdkCurrent : Option String → Bool) (request : SelectionRequest)
    (nodes : List Node) : List Node :=
  (((nodes.filter (selected request)).map (scored sdkCurrent request)).insertionSort before).take
    request.limit

/-- **What is listed was a candidate**, let in and scored. -/
theorem of_mem_selectAndRank {sdkCurrent : Option String → Bool} {request : SelectionRequest}
    {nodes : List Node} {n : Node} (h : n ∈ selectAndRank sdkCurrent request nodes) :
    ∃ candidate ∈ nodes, selected request candidate = true
      ∧ n = scored sdkCurrent request candidate := by
  have hmem := (List.mem_insertionSort _).mp (List.mem_of_mem_take h)
  obtain ⟨candidate, hcandidate, rfl⟩ := List.mem_map.mp hmem
  obtain ⟨hnodes, hselected⟩ := List.mem_filter.mp hcandidate
  exact ⟨candidate, hnodes, hselected, rfl⟩

end DiscoveryPolicy

/-! ## Discovery -/

namespace Discovery

/-- `DiscoverParams`. -/
structure DiscoverParams where
  intent : Option String := none
  region : Option String := none
  limit : Option ℕ := none
  minReputation : Option ℚ := none
  cipCapable : Option String := none
  model : Option String := none
  qos : Option String := none
  profileId : Option String := none
  profileVersion : Option String := none
  profileFixtureSha256 : Option String := none
  profileRequired : Option Bool := none
  view : Option String := none

/-- The profiles there are: each a version and the digest of its fixture. -/
def profiles : List (String × String) :=
  [("0.4.0-draft", "d039eaf52afca6866832779261db7bdd2ffd818a36bc8ba9aea1db0c9c115012"),
   ("0.3.0-draft", "4137ecf91b4748a2b368cf4428b4604c6947f8879d77402cc7937d11d24b2aaf")]

/-- `profile_negotiation`: the dispatch is not allowed where a profile that is
required is none of these. -/
def dispatchAllowed (p : DiscoverParams) : Bool :=
  p.profileId.all fun profileId =>
    (profileId == "iicp.profile.compatibility.v0"
        && profiles.any fun known =>
          p.profileVersion == some known.1 && p.profileFixtureSha256 == some known.2)
      || !p.profileRequired.getD false

/-- What a request is selected by. -/
def DiscoverParams.selection (p : DiscoverParams) : DiscoveryPolicy.SelectionRequest where
  model := p.model
  qos := p.qos
  region := p.region
  minReputation := p.minReputation.getD 0
  limit := max 1 (min (p.limit.getD 10) 50)
  cipCapable := p.cipCapable == some "1" || p.cipCapable == some "true"

/-- A request that does not validate. -/
def unprocessable (code message : String) : Rejection := ⟨422, code, message⟩

/-- **What is wrong with a request** for nodes, or the query for its
candidates. -/
def discoverQuery (refused : String → Option Reject) (p : DiscoverParams) :
    Except Rejection DiscoverQuery :=
  if !dispatchAllowed p then
    .error (unprocessable "unsupported_pre_normative_profile"
      "The requested pre-normative profile is not supported by this directory.")
  else
    match p.intent.filter (· ≠ "") with
    | none => .error (unprocessable "validation_error" "intent is required")
    | some intent =>
      match refused intent with
      | some reject => .error (unprocessable reject.code reject.message)
      | none =>
        match DiscoveryPolicy.validateMinReputation p.minReputation with
        | .error message => .error (unprocessable "validation_error" message)
        | .ok () =>
          match DiscoveryPolicy.validateQos p.qos with
          | .error message => .error (unprocessable "validation_error" message)
          | .ok () => .ok ⟨intent, 50, p.minReputation⟩

/-! ## Dispatch tickets -/

/-- `DispatchTicketRequest`; `carriesTask` says that it has a member for a
prompt, messages, a payload, an input, a chat, a content or a response. -/
structure DispatchTicketRequest where
  intent : String
  region : Option String := none
  model : Option String := none
  minReputation : Option ℚ := none
  limit : Option ℕ := none
  relayCapable : Option Bool := none
  nodeId : Option String := none
  nodeIdPrefix : Option String := none
  excludeNodeIdPrefixes : List String := []
  carriesTask : Bool := false

/-- A text begins with another. -/
def startsWith (text start : String) : Bool := start.toList.isPrefixOf text.toList

/-- `dispatch_ticket_selector_error`. -/
def selectorError (req : DispatchTicketRequest) : Option String :=
  let badPrefix := fun text : String =>
    decide (Admission.byteLength text < 4) || decide (36 < Admission.byteLength text)
  if req.nodeId.any (fun id => decide (64 < Admission.byteLength id))
      || req.nodeIdPrefix.any badPrefix || decide (10 < req.excludeNodeIdPrefixes.length)
      || req.excludeNodeIdPrefixes.any badPrefix then
    some "invalid node selector or exclusion prefix"
  else if req.nodeId.isSome && req.nodeIdPrefix.isSome then
    some "Use node_id or node_id_prefix, not both."
  else if req.minReputation.any fun score => decide (score < 0) || decide (1 < score) then
    some "min_reputation must be in [0, 1]"
  else none

/-- **What is wrong with a request** for a ticket, or the query for its
candidates. -/
def ticketQuery (refused : String → Option Reject) (req : DispatchTicketRequest) :
    Except Rejection DiscoverQuery :=
  if req.carriesTask then
    .error (unprocessable "validation_error"
      "Dispatch ticket issuance is control-plane only; send task payloads directly to the selected node.")
  else if !Admission.validIntent req.intent then
    .error (unprocessable "validation_error" "invalid intent URN")
  else
    match refused req.intent with
    | some reject => .error (unprocessable reject.code reject.message)
    | none =>
      match selectorError req with
      | some message => .error (unprocessable "validation_error" message)
      | none =>
        .ok
          { intent := req.intent
            limit :=
              if req.nodeId.isSome || req.nodeIdPrefix.isSome then 50
              else max 1 (min (req.limit.getD 10) 50)
            minReputation := req.minReputation }

/-- The candidate is kept: it has models, the one that is asked for, is a relay or
not as is asked, and is not excluded. -/
def DispatchTicketRequest.keeps (req : DispatchTicketRequest) (n : Node) : Bool :=
  n.healthModels.all (fun models => !models.isEmpty) && req.model.all n.liveModels.contains
    && req.relayCapable.all (fun required => n.relayCapable.getD false == required)
    && !req.excludeNodeIdPrefixes.any (startsWith n.nodeId)

/-- No candidate is left. -/
def noRoute : Rejection :=
  ⟨404, "no_route_available", "No eligible route matched the requested intent and filters."⟩

/-- More than one is. -/
def ambiguousPrefix : Rejection :=
  ⟨409, "ambiguous_node_prefix",
    "The node_id_prefix matches more than one eligible node; provide a longer prefix."⟩

/-- **`select_dispatch_ticket_node`.** -/
def selectDispatchTicketNode (req : DispatchTicketRequest) (nodes : List Node) :
    Except Rejection Node :=
  match req.nodeId with
  | some nodeId => (nodes.find? fun n => n.nodeId == nodeId).elim (.error noRoute) .ok
  | none =>
    match req.nodeIdPrefix with
    | some start =>
      match nodes.filter fun n => startsWith n.nodeId start with
      | [] => .error noRoute
      | [n] => .ok n
      | _ => .error ambiguousPrefix
    | none => nodes.head?.elim (.error noRoute) .ok

/-- A candidate is the one a request is for: the first that was named, the only
one of its beginning, or the first of all. -/
def DispatchTicketRequest.IsFor (req : DispatchTicketRequest) (nodes : List Node) (n : Node) :
    Prop :=
  (∃ nodeId, req.nodeId = some nodeId ∧ nodes.find? (fun n => n.nodeId == nodeId) = some n)
    ∨ (∃ start, req.nodeId = none ∧ req.nodeIdPrefix = some start
        ∧ nodes.filter (fun n => startsWith n.nodeId start) = [n])
    ∨ (req.nodeId = none ∧ req.nodeIdPrefix = none ∧ nodes.head? = some n)

/-- **The node a ticket names.** -/
theorem selectDispatchTicketNode_eq_ok_iff {req : DispatchTicketRequest} {nodes : List Node}
    {n : Node} : selectDispatchTicketNode req nodes = .ok n ↔ req.IsFor nodes n := by
  have helim : ∀ o : Option Node, o.elim (.error noRoute) Except.ok = .ok n ↔ o = some n := by
    intro o
    cases o <;> simp
  unfold selectDispatchTicketNode DispatchTicketRequest.IsFor
  cases req.nodeId with
  | some nodeId =>
    dsimp only
    rw [helim]
    simp
  | none =>
    cases req.nodeIdPrefix with
    | none =>
      dsimp only
      rw [helim]
      simp
    | some start =>
      dsimp only
      split
      · next hnone => simp [hnone]
      · next only hone => simp [hone]
      · next hmany hother =>
        simp only [reduceCtorEq, false_iff]
        rintro (⟨_, h, _⟩ | ⟨_, _, h, hone⟩ | ⟨_, h, _⟩)
        · exact absurd h (by simp)
        · obtain rfl := Option.some.inj h
          exact hother n hone
        · exact absurd h (by simp)

end Discovery
