import IicpDirectory.DiscoveryPolicy
import IicpDirectory.Seed.ActingSubjects
import IicpDirectory.Seed.Ownership
import IicpDirectory.Seed.Restriction
import IicpDirectory.Signing.Documents

/-!
# Which providers a member is told of

Whoever is let into a restricted domain is told of nodes to work with: by a
discovery, a bootstrap, a list of peers, a ticket to a node or a token for one.
A node stays registered when its membership ends, so that each of these has to
look at the memberships again. A discovery does, and a bootstrap does, which
tells only of nodes that have an envelope to show. The other three tell of what
the repository finds.

`handed_out_members_iff` has what that means: the first two tell of members
alone, and the others do where what they find is.
-/

/-! ## What the repository answers -/

/-- **What the handlers ask of a repository.** -/
structure NodeListing where
  discover : DiscoverQuery → List Node
  bootstrap : ℕ → List Node
  peersExcluding : List String → ℕ → List Node
  get : String → Option Node
  verifyNodeToken : String → String → Bool

/-- A repository in memory answers. -/
def TokenMemory.listing (m : TokenMemory) : NodeListing where
  discover := m.repo.discover
  bootstrap := m.repo.bootstrap
  peersExcluding := m.repo.peersExcluding
  get nodeId := (m.repo.find nodeId).map NodeRecord.node
  verifyNodeToken := m.verifyNodeToken

/-- The tables answer, at a time; a row is read into a node. -/
def OwnedTables.listing {B : Bcrypt} {fold : String → String} (toNode : NodeRow → Node)
    (t : OwnedTables B fold) (nowMs : ℤ) : NodeListing where
  discover q := (t.repo.discover q nowMs).map toNode
  bootstrap limit := (t.repo.bootstrap limit nowMs).map toNode
  peersExcluding knownIds limit := (t.repo.peersExcluding knownIds limit nowMs).map toNode
  get nodeId := (t.repo.find nodeId).map toNode
  verifyNodeToken := t.verifyNodeToken

namespace RestrictedDomain

open Discovery

/-! ## The handlers -/

/-- `PeersRequest`. -/
structure PeersRequest where
  nodeId : String
  knownPeers : List String := []
  limit : Option ℕ := none

/-- `ConsumerTokenRequest`. -/
structure ConsumerTokenRequest where
  targetNodeId : String
  intent : String

/-- **A request for providers.** -/
inductive ProviderCall
  | discover (p : DiscoverParams)
  | bootstrap
  | peers (req : PeersRequest)
  | dispatchTicket (req : DispatchTicketRequest)
  | consumerToken (req : ConsumerTokenRequest)

/-- What a directory has beside the repository: the policy of its intents, which
SDK is current, the check of a signed token, the signature of its own, what it
draws, and the time. -/
structure DirectoryContext where
  refused : String → Option Reject
  sdkCurrent : Option String → Bool
  verifyJwt : String → Option String
  signDomainToken : String → Json → Option String
  ticketId : String
  now : ℤ

variable {fold : String → String} (C : DirectoryContext) (L : NodeListing)
  (D : RestrictedDomainService) (nowS : ℤ) (t : Memberships fold) (r : GatedRequest)

/-- The candidates that are members. -/
def keepMembers (nodes : List Node) : List Node :=
  nodes.filter fun n =>
    (currentNodeMembers D nowS t (nodes.map Node.nodeId)).contains n.nodeId

/-- **`discover`**: the nodes it lists. -/
def discover (p : DiscoverParams) : Except Rejection (List Node) :=
  (discoverQuery C.refused p).map fun q =>
    DiscoveryPolicy.selectAndRank C.sdkCurrent p.selection
      (if D.enabled then keepMembers D nowS t (L.discover q) else L.discover q)

/-- **`bootstrap`**: the nodes it tells of, in restricted mode those with an
envelope. -/
def bootstrap : List Node :=
  let raw := L.bootstrap 5
  let memberships := bootstrapMemberships D nowS t (raw.map Node.nodeId)
  raw.filter fun n => !D.enabled || memberships.any fun p => p.1 == n.nodeId

/-- The refusal of a request without a token. -/
def missingToken : Rejection := ⟨401, "unauthorized", "missing node_token"⟩

/-- The refusal of a token. -/
def invalidToken : Rejection := ⟨401, "unauthorized", "invalid node_token"⟩

/-- **`peers`.** -/
def peers (req : PeersRequest) : Except Rejection (List Node) :=
  match bearerToken r.authorization with
  | none => .error missingToken
  | some token =>
    if !L.verifyNodeToken req.nodeId token then .error invalidToken
    else .ok (L.peersExcluding (req.knownPeers.take 20) (req.limit.getD 10))

/-- **`dispatch_ticket_issue`**: the node a ticket is for, and the ticket. -/
def dispatchTicketIssue (req : DispatchTicketRequest) : Except Rejection (Node × String) :=
  match ticketQuery C.refused req with
  | .error rejection => .error rejection
  | .ok q =>
    match selectDispatchTicketNode req ((L.discover q).filter req.keeps) with
    | .error rejection => .error rejection
    | .ok n =>
      match C.signDomainToken dispatchTicketDomain
          (dispatchTicketClaims C.ticketId n.nodeId req.intent C.now) with
      | some ticket => .ok (n, ticket)
      | none => .error ⟨503, "not_configured",
          "Dispatch route ticket signing key not configured on this directory."⟩

/-- **`consumer_token_issue`**: the target of a token, and the token. -/
def consumerTokenIssue (req : ConsumerTokenRequest) : Except Rejection (String × String) :=
  if isBlank req.targetNodeId || isBlank req.intent then
    .error ⟨422, "validation_error", "target_node_id and intent are required"⟩
  else
    match bearerToken r.authorization with
    | none => .error missingToken
    | some token =>
      match nodeIdFromAuth C.verifyJwt r.xNodeId token with
      | none => .error ⟨422, "validation_error", "X-Node-Id header required (or use JWT)"⟩
      | some callerNodeId =>
        if !L.verifyNodeToken callerNodeId token then .error invalidToken
        else if (L.get req.targetNodeId).isNone then
          .error ⟨404, "not_found", "Target node not found."⟩
        else
          match C.signDomainToken TokenIssuance.consumerTokenDomain
              (TokenIssuance.consumerTokenClaims callerNodeId req.targetNodeId req.intent C.now) with
          | some issued => .ok (req.targetNodeId, issued)
          | none => .error ⟨503, "not_configured",
              "Consumer token signing key not configured on this directory."⟩

/-- **The providers a handler names** to whoever asked. -/
def named : ProviderCall → List String
  | .discover p => ((discover C L D nowS t p).toOption.getD []).map Node.nodeId
  | .bootstrap => (bootstrap L D nowS t).map Node.nodeId
  | .peers req => ((peers L r req).toOption.getD []).map Node.nodeId
  | .dispatchTicket req => (dispatchTicketIssue C L req).toOption.toList.map fun p => p.1.nodeId
  | .consumerToken req => (consumerTokenIssue C L r req).toOption.toList.map Prod.fst

/-- **What whoever asks is told of**: the gate lets the request through to its
handler, or not. -/
def handedOut (E : EvidenceLibs) (answers : Bool) (call : ProviderCall) : List String :=
  if (restrictedDomainGate E D nowS t answers r).reaches then named C L D nowS t r call else []

/-! ## Who of them is a member -/

/-- The node is a member, at a time. -/
def IsCurrentMember (nodeId : String) : Prop := nodeId ∈ currentNodeMembers D nowS t [nodeId]

/-- **What a handler finds are members.** -/
def FindsMembers : ProviderCall → Prop
  | .discover _ | .bootstrap => True
  | .peers req =>
    (∃ token, bearerToken r.authorization = some token
      ∧ L.verifyNodeToken req.nodeId token = true) →
      ∀ n ∈ L.peersExcluding (req.knownPeers.take 20) (req.limit.getD 10),
        IsCurrentMember D nowS t n.nodeId
  | .dispatchTicket req =>
    ∀ q, ticketQuery C.refused req = .ok q → ∀ n, req.IsFor ((L.discover q).filter req.keeps) n →
      (C.signDomainToken dispatchTicketDomain
        (dispatchTicketClaims C.ticketId n.nodeId req.intent C.now)).isSome = true →
      IsCurrentMember D nowS t n.nodeId
  | .consumerToken req =>
    isBlank req.targetNodeId = false → isBlank req.intent = false →
      (∃ token callerNodeId, bearerToken r.authorization = some token
        ∧ nodeIdFromAuth C.verifyJwt r.xNodeId token = some callerNodeId
        ∧ L.verifyNodeToken callerNodeId token = true
        ∧ (C.signDomainToken TokenIssuance.consumerTokenDomain
          (TokenIssuance.consumerTokenClaims callerNodeId req.targetNodeId req.intent
            C.now)).isSome = true) →
      (L.get req.targetNodeId).isSome = true → IsCurrentMember D nowS t req.targetNodeId

section Members

variable {C : DirectoryContext} {L : NodeListing} {D : RestrictedDomainService} {nowS : ℤ}
  {t : Memberships fold} {r : GatedRequest}

/-- **Who is a member**: a node of the list that has a current row. -/
theorem mem_currentNodeMembers_iff (hD : D.enabled = true) {nodeIds : List String}
    {nodeId : String} : nodeId ∈ currentNodeMembers D nowS t nodeIds
      ↔ nodeId ∈ nodeIds ∧ ∃ r ∈ t.rows, fold r.subjectKind = fold "node"
        ∧ r.current fold D nowS = true ∧ r.subjectId = nodeId := by
  unfold currentNodeMembers
  split
  · next hnone =>
    rw [hD, D.persisted hD] at hnone
    have hempty : nodeIds = [] := by simpa using hnone
    simp [hempty]
  · simp only [List.mem_filter, List.mem_map, Bool.and_eq_true, beq_iff_eq, List.contains_iff_mem]
    constructor
    · rintro ⟨⟨row, ⟨hrow, hkind, hcurrent⟩, rfl⟩, hlisted⟩
      exact ⟨hlisted, row, hrow, hkind, hcurrent, rfl⟩
    · rintro ⟨hlisted, row, hrow, hkind, hcurrent, rfl⟩
      exact ⟨⟨row, ⟨hrow, hkind, hcurrent⟩, rfl⟩, hlisted⟩

theorem isCurrentMember_iff (hD : D.enabled = true) {nodeId : String} :
    IsCurrentMember D nowS t nodeId ↔ ∃ r ∈ t.rows, fold r.subjectKind = fold "node"
      ∧ r.current fold D nowS = true ∧ r.subjectId = nodeId := by
  unfold IsCurrentMember
  rw [mem_currentNodeMembers_iff hD]
  exact and_iff_right (List.mem_singleton_self _)

/-- **A discovery lists members.** -/
theorem members_of_discover (hD : D.enabled = true) (p : DiscoverParams) {nodeId : String}
    (h : nodeId ∈ named C L D nowS t r (.discover p)) : IsCurrentMember D nowS t nodeId := by
  obtain ⟨n, hn, rfl⟩ := List.mem_map.mp h
  unfold discover at hn
  cases hq : discoverQuery C.refused p with
  | error rejection =>
    rw [hq] at hn
    exact absurd hn List.not_mem_nil
  | ok q =>
    have hn' : n ∈ DiscoveryPolicy.selectAndRank C.sdkCurrent p.selection
        (if D.enabled then keepMembers D nowS t (L.discover q) else L.discover q) := by
      rw [hq] at hn
      exact hn
    rw [if_pos hD] at hn'
    obtain ⟨candidate, hcandidate, -, rfl⟩ := DiscoveryPolicy.of_mem_selectAndRank hn'
    obtain ⟨-, hmember⟩ := List.mem_filter.mp hcandidate
    have hrow := (mem_currentNodeMembers_iff hD).mp (List.contains_iff_mem.mp hmember)
    exact (isCurrentMember_iff hD).mpr hrow.2

/-- **A bootstrap tells of members**: what has an envelope to show has a current
row. -/
theorem members_of_bootstrap (hD : D.enabled = true) {nodeId : String}
    (h : nodeId ∈ named C L D nowS t r .bootstrap) : IsCurrentMember D nowS t nodeId := by
  obtain ⟨n, hn, rfl⟩ := List.mem_map.mp h
  obtain ⟨-, hshown⟩ := List.mem_filter.mp hn
  rw [hD, Bool.not_true, Bool.false_or, List.any_eq_true] at hshown
  obtain ⟨p, hp, hname⟩ := hshown
  unfold bootstrapMemberships at hp
  split at hp
  · exact absurd hp List.not_mem_nil
  obtain ⟨row, hrow, hserved⟩ := List.mem_filterMap.mp hp
  obtain ⟨hmem, hcurrent⟩ := List.mem_filter.mp hrow
  rw [Bool.and_eq_true, beq_iff_eq] at hcurrent
  have hsubject : row.subjectId = p.1 := by
    unfold served at hserved
    split at hserved
    · obtain ⟨envelope, -, rfl⟩ := Option.map_eq_some_iff.mp hserved
      rfl
    · exact absurd hserved (by simp)
  exact (isCurrentMember_iff hD).mpr
    ⟨row, hmem, hcurrent.1, hcurrent.2, hsubject.trans (beq_iff_eq.mp hname)⟩

/-- What a handler names is what it answers. -/
theorem forall_mem_answer_iff {α : Type} {answer : Except Rejection α} {name : α → String}
    {P : String → Prop} :
    (∀ nodeId ∈ answer.toOption.toList.map name, P nodeId)
      ↔ ∀ a, answer = .ok a → P (name a) := by
  cases answer with
  | error rejection => simp [Except.toOption]
  | ok a => simp [Except.toOption]

/-- What a handler lists is what it answers. -/
theorem forall_mem_listed_iff {answer : Except Rejection (List Node)} {P : String → Prop} :
    (∀ nodeId ∈ (answer.toOption.getD []).map Node.nodeId, P nodeId)
      ↔ ∀ nodes, answer = .ok nodes → ∀ n ∈ nodes, P n.nodeId := by
  cases answer with
  | error rejection => simp [Except.toOption]
  | ok nodes => simp [Except.toOption]

/-- Peers are answered to a token that authenticates. -/
theorem peers_eq_ok_iff {req : PeersRequest} {nodes : List Node} :
    peers L r req = .ok nodes
      ↔ (∃ token, bearerToken r.authorization = some token
          ∧ L.verifyNodeToken req.nodeId token = true)
        ∧ L.peersExcluding (req.knownPeers.take 20) (req.limit.getD 10) = nodes := by
  unfold peers
  cases hbearer : bearerToken r.authorization with
  | none => simp
  | some token => cases hverify : L.verifyNodeToken req.nodeId token <;> simp [hverify]

/-- **Peers are members** where the repository has only members for them. -/
theorem members_of_peers_iff (req : PeersRequest) :
    (∀ nodeId ∈ named C L D nowS t r (.peers req), IsCurrentMember D nowS t nodeId)
      ↔ FindsMembers C L D nowS t r (.peers req) := by
  refine forall_mem_listed_iff.trans ?_
  simp only [peers_eq_ok_iff]
  constructor
  · intro h hauth
    exact h _ ⟨hauth, rfl⟩
  · rintro h nodes ⟨hauth, rfl⟩
    exact h hauth

/-- A ticket is for the node the request is for. -/
theorem dispatchTicketIssue_eq_ok_iff {req : DispatchTicketRequest} {p : Node × String} :
    dispatchTicketIssue C L req = .ok p
      ↔ ∃ q, ticketQuery C.refused req = .ok q
        ∧ req.IsFor ((L.discover q).filter req.keeps) p.1
        ∧ C.signDomainToken dispatchTicketDomain
          (dispatchTicketClaims C.ticketId p.1.nodeId req.intent C.now) = some p.2 := by
  simp only [← selectDispatchTicketNode_eq_ok_iff]
  unfold dispatchTicketIssue
  cases ticketQuery C.refused req with
  | error rejection => simp
  | ok q =>
    dsimp only
    cases hn : selectDispatchTicketNode req ((L.discover q).filter req.keeps) with
    | error rejection => simp [hn]
    | ok n =>
      dsimp only
      cases hsign : C.signDomainToken dispatchTicketDomain
          (dispatchTicketClaims C.ticketId n.nodeId req.intent C.now) with
      | none =>
        simp only [reduceCtorEq, false_iff]
        rintro ⟨q', hq, hp, hticket⟩
        obtain rfl := Except.ok.inj hq
        obtain rfl := Except.ok.inj (hn.symm.trans hp)
        exact absurd (hsign.symm.trans hticket) (by simp)
      | some ticket =>
        constructor
        · intro h
          obtain rfl := Except.ok.inj h
          exact ⟨q, rfl, hn, hsign⟩
        · rintro ⟨q', hq, hp, hticket⟩
          obtain rfl := Except.ok.inj hq
          obtain rfl := Except.ok.inj (hn.symm.trans hp)
          rw [Option.some.inj (hsign.symm.trans hticket)]

/-- **A ticket is for a member** where the node the request is for is one. -/
theorem member_of_ticket_iff (req : DispatchTicketRequest) :
    (∀ nodeId ∈ named C L D nowS t r (.dispatchTicket req), IsCurrentMember D nowS t nodeId)
      ↔ FindsMembers C L D nowS t r (.dispatchTicket req) := by
  refine forall_mem_answer_iff.trans ?_
  simp only [dispatchTicketIssue_eq_ok_iff]
  constructor
  · intro h q hq n hn hsign
    obtain ⟨ticket, hticket⟩ := Option.isSome_iff_exists.mp hsign
    exact h (n, ticket) ⟨q, hq, hn, hticket⟩
  · rintro h p ⟨q, hq, hn, hticket⟩
    exact h q hq p.1 hn (Option.isSome_of_eq_some hticket)

/-- A token is for the target that was asked for. -/
theorem consumerTokenIssue_eq_ok_iff {req : ConsumerTokenRequest} {p : String × String} :
    consumerTokenIssue C L r req = .ok p
      ↔ isBlank req.targetNodeId = false ∧ isBlank req.intent = false
        ∧ (L.get req.targetNodeId).isSome = true ∧ p.1 = req.targetNodeId
        ∧ ∃ token callerNodeId, bearerToken r.authorization = some token
          ∧ nodeIdFromAuth C.verifyJwt r.xNodeId token = some callerNodeId
          ∧ L.verifyNodeToken callerNodeId token = true
          ∧ C.signDomainToken TokenIssuance.consumerTokenDomain
            (TokenIssuance.consumerTokenClaims callerNodeId req.targetNodeId req.intent C.now)
            = some p.2 := by
  unfold consumerTokenIssue
  split
  · next hblank =>
    simp only [reduceCtorEq, false_iff]
    rintro ⟨htarget, hintent, -⟩
    rw [htarget, hintent] at hblank
    exact absurd hblank (by simp)
  next hblank =>
  have hblank' : isBlank req.targetNodeId = false ∧ isBlank req.intent = false :=
    Bool.or_eq_false_iff.mp (Bool.eq_false_iff.mpr hblank)
  cases hbearer : bearerToken r.authorization with
  | none => simp
  | some token =>
    dsimp only
    cases hcaller : nodeIdFromAuth C.verifyJwt r.xNodeId token with
    | none => simp [hcaller]
    | some callerNodeId =>
      dsimp only
      cases hverify : L.verifyNodeToken callerNodeId token with
      | false => simp [hcaller, hverify]
      | true =>
        cases htarget : L.get req.targetNodeId with
        | none => simp
        | some n =>
          cases hsign : C.signDomainToken TokenIssuance.consumerTokenDomain
              (TokenIssuance.consumerTokenClaims callerNodeId req.targetNodeId req.intent C.now) with
          | none => simp [hcaller, hsign]
          | some issued =>
            constructor
            · intro h
              obtain rfl := Except.ok.inj h
              exact ⟨hblank'.1, hblank'.2, rfl, rfl, token, callerNodeId, rfl, hcaller, hverify,
                hsign⟩
            · rintro ⟨-, -, -, htarget, token', callerNodeId', htoken, hcaller', -, hissued⟩
              obtain rfl := Option.some.inj htoken
              obtain rfl := Option.some.inj (hcaller.symm.trans hcaller')
              exact congrArg Except.ok
                (Prod.ext htarget.symm (Option.some.inj (hsign.symm.trans hissued)))

/-- **A token is for a member** where its target is one. -/
theorem member_of_token_iff (req : ConsumerTokenRequest) :
    (∀ nodeId ∈ named C L D nowS t r (.consumerToken req), IsCurrentMember D nowS t nodeId)
      ↔ FindsMembers C L D nowS t r (.consumerToken req) := by
  refine forall_mem_answer_iff.trans ?_
  simp only [consumerTokenIssue_eq_ok_iff]
  constructor
  · rintro h htarget hintent ⟨token, callerNodeId, hbearer, hcaller, hverify, hsign⟩ hget
    obtain ⟨issued, hissued⟩ := Option.isSome_iff_exists.mp hsign
    exact h (req.targetNodeId, issued)
      ⟨htarget, hintent, hget, rfl, token, callerNodeId, hbearer, hcaller, hverify, hissued⟩
  · rintro h p ⟨htarget, hintent, hget, hp, token, callerNodeId, hbearer, hcaller, hverify, hsign⟩
    rw [hp]
    exact h htarget hintent
      ⟨token, callerNodeId, hbearer, hcaller, hverify, Option.isSome_of_eq_some hsign⟩ hget

/-- **What a directory in restricted mode tells of are members** exactly where
what the handler finds are members; a discovery and a bootstrap tell of members
alone. -/
theorem handed_out_members_iff {E : EvidenceLibs} {answers : Bool} {call : ProviderCall}
    (hD : D.enabled = true)
    (hreaches : (restrictedDomainGate E D nowS t answers r).reaches = true) :
    (∀ nodeId ∈ handedOut C L D nowS t r E answers call, IsCurrentMember D nowS t nodeId)
      ↔ FindsMembers C L D nowS t r call := by
  unfold handedOut
  rw [if_pos hreaches]
  cases call with
  | discover p => exact iff_of_true (fun _ => members_of_discover hD p) trivial
  | bootstrap => exact iff_of_true (fun _ => members_of_bootstrap hD) trivial
  | peers req => exact members_of_peers_iff req
  | dispatchTicket req => exact member_of_ticket_iff req
  | consumerToken req => exact member_of_token_iff req

end Members

namespace Sample

/-- A node whose membership was revoked. -/
def lapsedRow : MembershipRow :=
  { memberRow with subjectId := "node-b", tokenHash := digest membershipLibs "iicp_mem_1"
                   revokedAt := some 0 }

/-- A member, and a node that was one. -/
def memberAndLapsed : Memberships id := ⟨[memberRow, lapsedRow], by decide +kernel⟩

/-- Both of them are registered. -/
def bothRegistered : OwnedTables Sample.bcrypt id :=
  ((OwnedTables.empty Sample.bcrypt id).register
    (Sample.registration "node-a" "https://a.test") "").register
      (Sample.registration "node-b" "https://b.test") ""

/-- The rows of the repository, read into nodes. -/
def toNode (row : NodeRow) : Node := (Sample.registration row.id row.endpoint).node

/-- What it answers. -/
def bothListed : NodeListing := bothRegistered.listing toNode 0

/-- A directory without a policy or a key. -/
def plainDirectory : DirectoryContext where
  refused _ := none
  sdkCurrent _ := false
  verifyJwt _ := none
  signDomainToken _ _ := none
  ticketId := ""
  now := 0

/-- The member asks for peers. -/
def asking : GatedRequest :=
  { peersRequest "node_id" "node-a" with authorization := header "Bearer node-token" }

/-- It knows some nodes already. -/
def knowing (knownPeers : List String) : ProviderCall := .peers ⟨"node-a", knownPeers, none⟩

end Sample

/-- **A node whose membership was revoked is handed out**, to a member that asks for
peers. -/
theorem lapsed_node_handed_out :
    ¬ ∀ (t : Memberships id) (L : NodeListing) (r : GatedRequest) (call : ProviderCall),
      (restrictedDomainGate Sample.membershipLibs Sample.domain 0 t true r).reaches = true →
      ∀ nodeId ∈ handedOut Sample.plainDirectory L Sample.domain 0 t r Sample.membershipLibs true
        call, IsCurrentMember Sample.domain 0 t nodeId := by
  intro h
  have hnamed : "node-b" ∈ handedOut Sample.plainDirectory Sample.bothListed Sample.domain 0
      Sample.memberAndLapsed Sample.asking Sample.membershipLibs true (Sample.knowing ["node-a"]) := by
    decide +kernel
  have hlapsed : "node-b" ∉ currentNodeMembers Sample.domain 0 Sample.memberAndLapsed ["node-b"] := by
    decide +kernel
  exact hlapsed (h Sample.memberAndLapsed Sample.bothListed Sample.asking
    (Sample.knowing ["node-a"]) (by decide +kernel) "node-b" hnamed)

/-- One that knows the node is told of no one else. -/
theorem handed_out_members_iff_sample :
    (∀ nodeId ∈ handedOut Sample.plainDirectory Sample.bothListed Sample.domain 0
        Sample.memberAndLapsed Sample.asking Sample.membershipLibs true (Sample.knowing ["node-b"]),
      IsCurrentMember Sample.domain 0 Sample.memberAndLapsed nodeId)
      ↔ FindsMembers Sample.plainDirectory Sample.bothListed Sample.domain 0 Sample.memberAndLapsed
        Sample.asking (Sample.knowing ["node-b"]) :=
  handed_out_members_iff rfl (by decide +kernel)

end RestrictedDomain
