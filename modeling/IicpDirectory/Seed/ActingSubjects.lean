import IicpDirectory.Admission
import IicpDirectory.Seed.Memberships
import IicpDirectory.Seed.NodeAuth
import IicpDirectory.Seed.RestrictedGate

/-!
# Who is admitted, and who acts

Five of the protected routes act for a node: it registers, sends a heartbeat,
asks for peers, for a token towards another node or for a ticket of a relay.
The gate has admitted a subject before, but does not tell the handler; the
handler reads for itself which node the request is of. The two readings agree
where the gate finds a `node_id` in the body and the handler looks for it
there. They are independent everywhere else: under the alias `sender_id`, by
position, in a body that is not a value in whole, for an identity that is
drawn, and for the subject of a signed token or the header `X-Node-Id`
(`acting_subject_iff`).
-/

namespace RestrictedDomain

/-- **The protected routes that act for a node.** -/
inductive NodeRoute
  | register
  | heartbeat
  | peers
  | consumerToken
  | relayTicket
  deriving DecidableEq

/-- What a handler has beside the request: the check of a signed token, an
identity it draws, and the rest of what it wants of a request. -/
structure HandlerContext where
  verifyJwt : String → Option String
  drawn : String
  takes : GatedRequest → Bool

namespace NodeRoute

/-- All of them. -/
def all : List NodeRoute := [register, heartbeat, peers, consumerToken, relayTicket]

/-- The operation the membership has to have. -/
def operation : NodeRoute → String
  | register => "registration"
  | heartbeat => "heartbeat"
  | peers => "peers"
  | consumerToken => "consumer_token"
  | relayTicket => "relay"

/-- Where the router has the handler. -/
def paths : NodeRoute → List String
  | register => ["/v1/register", "/api/v1/register"]
  | heartbeat => ["/v1/heartbeat", "/api/v1/heartbeat"]
  | peers => ["/v1/peers", "/api/v1/peers"]
  | consumerToken => ["/v1/consumer-token", "/api/v1/consumer-token"]
  | relayTicket => ["/v1/relay/ticket", "/api/v1/relay/ticket"]

/-- The handler the router finds. -/
def ofRequest (r : GatedRequest) : Option NodeRoute :=
  if r.method = "POST" then all.find? fun route => route.paths.contains r.path else none

/-- **Each of the routes is protected**, under both of its paths. -/
theorem protectedOperation_of {r : GatedRequest} {route : NodeRoute}
    (h : ofRequest r = some route) :
    protectedOperation r.method r.path = some route.operation := by
  have hpaths : ∀ route : NodeRoute, ∀ path ∈ route.paths,
      protectedOperation "POST" path = some route.operation := by
    intro route
    cases route <;> decide
  unfold ofRequest at h
  split at h
  · next hmethod =>
    have hpath := List.find?_some h
    rw [hmethod]
    exact hpaths route r.path (List.contains_iff_mem.mp hpath)
  · exact absurd h (by simp)

/-- An optional identity. -/
def requestedId : Option Json → Option (Option String)
  | none => some none
  | some v => Json.optional Json.asStr v

/-- **The node the handler takes the request to be of**: the one it registers, or
asks the repository to authenticate. -/
def actor (C : HandlerContext) (r : GatedRequest) (route : NodeRoute) : Option String :=
  if !C.takes r then none
  else
    match route with
    | register =>
      (r.body.named ["node_id"]).bind fun v =>
        (requestedId v).bind fun requested => (Admission.resolveNodeId C.drawn requested).toOption
    | heartbeat =>
      (bearerToken r.authorization).bind fun _ =>
        (r.body.named ["node_id"]).bind fun v => v.bind Json.asStr
    | peers =>
      (bearerToken r.authorization).bind fun _ =>
        (r.body.named ["node_id", "sender_id"]).bind fun v => v.bind Json.asStr
    | consumerToken | relayTicket =>
      (bearerToken r.authorization).bind (nodeIdFromAuth C.verifyJwt r.xNodeId)

/-- The body names a text under one of the names, or in its first place. -/
def Names (r : GatedRequest) (names : List String) (text : String) : Prop :=
  r.body.named names = some (some (.string text))

/-- The body of a registration names no one. -/
def NamesNobody (r : GatedRequest) : Prop :=
  r.body.named ["node_id"] = some none ∨ r.body.named ["node_id"] = some (some .null)
    ∨ Names r ["node_id"] ""

/-- **The request is of the subject of the gate.** -/
def Agrees (C : HandlerContext) (r : GatedRequest) : NodeRoute → Prop
  | register =>
    r.body.nodeId.isSome = true ∨ Names r ["node_id"] r.claimed
      ∨ NamesNobody r ∧ C.drawn = r.claimed
  | heartbeat => r.body.nodeId.isSome = true ∨ Names r ["node_id"] r.claimed
  | peers => r.body.nodeId.isSome = true ∨ Names r ["node_id", "sender_id"] r.claimed
  | consumerToken | relayTicket =>
    ∀ token, bearerToken r.authorization = some token →
      (C.verifyJwt token).getD (headerOrEmpty r.xNodeId) = r.body.nodeId.getD r.claimed

/-- A body the gate reads an identity in names that one, to the handlers too. -/
theorem names_of_nodeId {r : GatedRequest} {names : List String} {subject id : String}
    (hsubject : r.body.nodeId = some subject) (hnames : "node_id" ∈ names) {v : Option Json}
    (hv : r.body.named names = some v) (hid : v.bind Json.asStr = some id) : id = subject := by
  rw [Body.named_of_nodeId hsubject hnames hv] at hid
  exact (Option.some.inj hid).symm

/-- **A handler that reads the body for a text agrees** with the gate where the
gate reads it too, or the header says the same. -/
theorem text_agrees_iff {r : GatedRequest} {names : List String} (hnames : "node_id" ∈ names)
    {v : Option Json} (hv : r.body.named names = some v) {id : String}
    (hid : v.bind Json.asStr = some id) :
    id = r.subject ↔ r.body.nodeId.isSome = true ∨ Names r names r.claimed := by
  have hname : Names r names id := by
    obtain ⟨w, rfl, hw⟩ := Option.bind_eq_some_iff.mp hid
    cases w with
    | string s =>
      rw [← Option.some.inj hw]
      exact hv
    | _ => exact absurd hw (by simp [Json.asStr])
  unfold GatedRequest.subject
  cases hsubject : r.body.nodeId with
  | some subject =>
    exact iff_of_true (names_of_nodeId hsubject hnames hv hid) (Or.inl rfl)
  | none =>
    constructor
    · rintro rfl
      exact Or.inr hname
    · rintro (h | h)
      · exact absurd h (by simp)
      · have heq := hname.symm.trans h
        simpa using heq

/-- An identity is resolved to the one that was asked for, or drawn for none. -/
theorem of_resolveNodeId {drawn id : String} {requested : Option String}
    (h : (Admission.resolveNodeId drawn requested).toOption = some id) :
    (requested = some id ∧ id ≠ "")
      ∨ ((requested = none ∨ requested = some "") ∧ id = drawn) := by
  unfold Admission.resolveNodeId at h
  split at h
  · next hnone =>
    refine Or.inr ⟨?_, (Option.some.inj h).symm⟩
    cases requested with
    | none => exact Or.inl rfl
    | some asked =>
      by_cases hasked : asked = ""
      · exact Or.inr (congrArg some hasked)
      · exact absurd hnone (by simp [hasked])
  · next asked hsome =>
    obtain ⟨hrequested, hasked⟩ := Option.filter_eq_some_iff.mp hsome
    split at h
    · obtain rfl : asked = id := Option.some.inj h
      exact Or.inl ⟨hrequested, by simpa using hasked⟩
    · exact absurd h (by simp [Except.toOption])

/-- What a registration asks for, of a member. -/
theorem of_requestedId {v : Option Json} {requested : Option String}
    (h : requestedId v = some requested) :
    (∃ id, requested = some id ∧ v = some (.string id))
      ∨ requested = none ∧ (v = none ∨ v = some .null) := by
  cases v with
  | none => exact Or.inr ⟨(Option.some.inj h).symm, Or.inl rfl⟩
  | some w =>
    cases w with
    | null => exact Or.inr ⟨(Option.some.inj h).symm, Or.inr rfl⟩
    | string id => exact Or.inl ⟨id, (Option.some.inj h).symm, rfl⟩
    | _ => exact absurd h (by simp [requestedId, Json.optional, Json.asStr])

/-- **A registration agrees** where it asks for the identity the gate reads, or
the header says what it asks for, or what is drawn for it. -/
theorem register_agrees_iff {C : HandlerContext} {r : GatedRequest} (hnamed : r.subject ≠ "")
    {v : Option Json} (hv : r.body.named ["node_id"] = some v) {requested : Option String}
    (hrequested : requestedId v = some requested) {id : String}
    (hid : (Admission.resolveNodeId C.drawn requested).toOption = some id) :
    id = r.subject ↔ Agrees C r register := by
  have hnode : "node_id" ∈ ["node_id"] := List.mem_singleton_self _
  rcases of_resolveNodeId hid with ⟨hasked, hne⟩ | ⟨hnobody, rfl⟩
  · -- An identity was asked for, so the body names it, and names somebody.
    obtain ⟨asked, heq, rfl⟩ | ⟨hnone, -⟩ := of_requestedId hrequested
    · obtain rfl : id = asked := Option.some.inj (hasked.symm.trans heq)
      rw [@text_agrees_iff r _ hnode _ hv id rfl]
      unfold Agrees
      refine or_congr_right (Iff.symm (or_iff_left ?_))
      rintro ⟨hnobody, -⟩
      unfold NamesNobody Names at hnobody
      rw [hv] at hnobody
      simp [hne] at hnobody
    · exact absurd (hasked.symm.trans hnone) (by simp)
  · -- None was, so the gate has the subject from the header.
    have hnobody' : NamesNobody r := by
      unfold NamesNobody Names
      obtain ⟨asked, rfl, rfl⟩ | ⟨-, hv' | hv'⟩ := of_requestedId hrequested
      · rw [hv, Option.some.inj (hnobody.resolve_left (by simp))]
        exact Or.inr (Or.inr rfl)
      · rw [hv, hv']
        exact Or.inl rfl
      · rw [hv, hv']
        exact Or.inr (Or.inl rfl)
    have hempty : ∀ {text}, Names r ["node_id"] text → text = "" := by
      intro text htext
      unfold NamesNobody Names at hnobody'
      unfold Names at htext
      rw [htext] at hnobody'
      simpa using hnobody'
    have hheader : r.body.nodeId = none := by
      cases hsubject : r.body.nodeId with
      | none => rfl
      | some subject =>
        have hname : Names r ["node_id"] subject := by
          unfold Names
          rw [hv, Body.named_of_nodeId hsubject hnode hv]
        have hsubject' : r.subject = subject := by
          unfold GatedRequest.subject
          rw [hsubject, Option.getD_some]
        exact absurd (hsubject'.trans (hempty hname)) hnamed
    have hclaimed : r.subject = r.claimed := by
      unfold GatedRequest.subject
      rw [hheader, Option.getD_none]
    unfold Agrees
    rw [hheader, hclaimed]
    constructor
    · intro hdrawn
      exact Or.inr (Or.inr ⟨hnobody', hdrawn⟩)
    · rintro (h | h | ⟨-, h⟩)
      · exact absurd h (by simp)
      · exact absurd (hclaimed.trans (hempty h)) hnamed
      · exact h

end NodeRoute

open NodeRoute

variable {E : EvidenceLibs} {fold : String → String}

/-- **A request of one of the routes reaches its handler only if its subject is
admitted.** -/
theorem admitted_of_reaches {D : RestrictedDomainService} {nowS : ℤ} {t : Memberships fold}
    {answers : Bool} {r : GatedRequest} {route : NodeRoute} (hD : D.enabled = true)
    (hroute : NodeRoute.ofRequest r = some route)
    (hreaches : (restrictedDomainGate E D nowS t answers r).reaches = true) :
    ∃ membership, restrictedDomainGate E D nowS t answers r = .admitted r.subject membership := by
  cases hgate : restrictedDomainGate E D nowS t answers r with
  | admitted subject membership =>
    obtain ⟨-, rfl, -⟩ := of_admitted E hgate
    exact ⟨membership, rfl⟩
  | passed =>
    have hprotected := protectedOperation_of hroute
    unfold restrictedDomainGate at hgate
    rw [hD, hprotected, Bool.not_true, if_neg Bool.false_ne_true] at hgate
    dsimp only at hgate
    split_ifs at hgate
    split at hgate
    · exact absurd hgate (by simp)
    · exact absurd hgate (by simp)
  | _ =>
    rw [hgate] at hreaches
    exact absurd hreaches (by simp [GateAnswer.reaches])

/-- The node that a signed token or a header names is the subject of the request
exactly where they say the same. -/
theorem token_agrees_iff {C : HandlerContext} {r : GatedRequest} {id : String}
    (hid : (bearerToken r.authorization).bind (nodeIdFromAuth C.verifyJwt r.xNodeId) = some id) :
    id = r.subject ↔ Agrees C r consumerToken := by
  obtain ⟨token, hbearer, hfrom⟩ := Option.bind_eq_some_iff.mp hid
  have hread : (C.verifyJwt token).getD (headerOrEmpty r.xNodeId) = id := by
    unfold nodeIdFromAuth at hfrom
    unfold headerOrEmpty
    cases hjwt : C.verifyJwt token with
    | some sub =>
      rw [hjwt, Option.some_or] at hfrom
      exact Option.some.inj hfrom
    | none =>
      rw [hjwt, Option.none_or] at hfrom
      obtain ⟨hheader, -⟩ := Option.filter_eq_some_iff.mp hfrom
      rw [Option.getD_none, hheader, Option.getD_some]
  constructor
  · rintro rfl token' htoken'
    obtain rfl : token = token' := Option.some.inj (hbearer.symm.trans htoken')
    exact hread
  · intro h
    exact hread.symm.trans (h token hbearer)

/-- **The node a handler acts for is the subject the gate admitted** exactly where
the two readings of the request agree. -/
theorem acting_subject_iff {D : RestrictedDomainService} {nowS : ℤ} {t : Memberships fold}
    {answers : Bool} {C : HandlerContext} {r : GatedRequest} {route : NodeRoute} {id : String}
    (hD : D.enabled = true) (hroute : NodeRoute.ofRequest r = some route)
    (hreaches : (restrictedDomainGate E D nowS t answers r).reaches = true)
    (hid : route.actor C r = some id) :
    (∃ membership, restrictedDomainGate E D nowS t answers r = .admitted id membership)
      ↔ Agrees C r route := by
  obtain ⟨membership, hadmitted⟩ := admitted_of_reaches hD hroute hreaches
  obtain ⟨-, -, hnamed, -⟩ := of_admitted E hadmitted
  have hagrees : id = r.subject ↔ Agrees C r route := by
    unfold actor at hid
    split at hid
    · exact absurd hid (by simp)
    cases route with
    | register =>
      obtain ⟨v, hv, hrest⟩ := Option.bind_eq_some_iff.mp hid
      obtain ⟨requested, hrequested, hresolved⟩ := Option.bind_eq_some_iff.mp hrest
      exact register_agrees_iff hnamed hv hrequested hresolved
    | heartbeat =>
      obtain ⟨-, -, hbody⟩ := Option.bind_eq_some_iff.mp hid
      obtain ⟨v, hv, htext⟩ := Option.bind_eq_some_iff.mp hbody
      exact text_agrees_iff (List.mem_singleton_self _) hv htext
    | peers =>
      obtain ⟨-, -, hbody⟩ := Option.bind_eq_some_iff.mp hid
      obtain ⟨v, hv, htext⟩ := Option.bind_eq_some_iff.mp hbody
      exact text_agrees_iff List.mem_cons_self hv htext
    | consumerToken => exact token_agrees_iff hid
    | relayTicket => exact token_agrees_iff hid
  rw [← hagrees]
  constructor
  · rintro ⟨_, h⟩
    exact (GateAnswer.admitted.inj (h.symm.trans hadmitted)).1
  · rintro rfl
    exact ⟨membership, hadmitted⟩

namespace Sample

/-- The characters of a header. -/
def header (text : String) : Option Bytes :=
  some (text.toList.map fun c => .ofNat c.toNat)

/-- A node that is a member. -/
def memberRow : MembershipRow where
  domainId := "iicp.test"
  issuerId := "did:iicp:a"
  subjectKind := "node"
  subjectId := "node-a"
  tokenHash := digest membershipLibs "iicp_mem_0"
  scopes := ["*"]
  generation := 1
  expiresAt := 3600

/-- It alone. -/
def loneMember : Memberships id := ⟨[memberRow], List.pairwise_singleton _ _⟩

/-- A request for peers, by the member, under the token of another node. -/
def peersRequest (name : String) (nodeId : String) : GatedRequest where
  method := "POST"
  path := "/v1/peers"
  membership := header "iicp_mem_0"
  subjectId := header "node-a"
  authorization := header "Bearer token-of-the-node"
  body := ⟨0, .object [(name, .string nodeId)], true⟩

/-- A handler without signed tokens. -/
def plainHandler : HandlerContext := ⟨fun _ => none, "drawn", fun _ => true⟩

end Sample

/-- **Another node acts.** Its name stands under the alias, where the gate does not
look. -/
theorem acting_subject_differs :
    ¬ ∀ (nowS : ℤ) (t : Memberships id) (C : HandlerContext) (r : GatedRequest) (route : NodeRoute)
      (nodeId : String), NodeRoute.ofRequest r = some route →
      (restrictedDomainGate Sample.membershipLibs Sample.domain nowS t true r).reaches = true →
      route.actor C r = some nodeId →
        ∃ membership, restrictedDomainGate Sample.membershipLibs Sample.domain nowS t true r
          = .admitted nodeId membership := by
  intro h
  have hgate : restrictedDomainGate Sample.membershipLibs Sample.domain 0 Sample.loneMember true
      (Sample.peersRequest "sender_id" "node-b") = .admitted "node-a" ⟨"node", 1, 3600⟩ := by
    decide +kernel
  obtain ⟨membership, hadmitted⟩ := h 0 Sample.loneMember Sample.plainHandler
    (Sample.peersRequest "sender_id" "node-b") .peers "node-b" (by decide +kernel)
    (by rw [hgate]; rfl) (by decide +kernel)
  exact absurd (GateAnswer.admitted.inj (hadmitted.symm.trans hgate)).1 (by decide)

/-- The member itself, by the name the gate reads. -/
theorem acting_subject_iff_sample :
    (∃ membership, restrictedDomainGate Sample.membershipLibs Sample.domain 0 Sample.loneMember true
        (Sample.peersRequest "node_id" "node-a") = .admitted "node-a" membership)
      ↔ Agrees Sample.plainHandler (Sample.peersRequest "node_id" "node-a") .peers :=
  acting_subject_iff rfl (by decide +kernel) (by decide +kernel) (by decide +kernel)

end RestrictedDomain
