import IicpDirectory.Quotes
import IicpDirectory.RestrictedDomain

/-!
# The gate of a restricted domain

In restricted mode a request to a protected route passes a gate before its
handler sees it. The gate takes the token of a membership from a header, and
the subject from the `node_id` of the body, where there is one, or else from
another header. It reads the body as a value, for which the whole of it has to
be one that `serde_json` can hold; of a member that is there twice the last one
counts.

What a handler reads of the same body is up to its own type
(`Body.named`): an array stands for an object, by position, a member that is
there twice is an error, and what the type does not name is passed over without
being read.
-/

/-! ## Bodies -/

/-- **The body of a request**: how long it is, the value it begins with, its
members as often as they are written, and whether all of it is a value that
`serde_json` can hold. -/
structure Body where
  size : ℕ
  content : Json
  whole : Bool

namespace Body

/-- The last member of that name. -/
def lastMember (b : Body) (name : String) : Option Json :=
  match b.content with
  | .object members => (members.reverse.find? fun e => e.1 == name).map Prod.snd
  | _ => none

/-- `serde_json::from_slice::<Value>`, and the text under `node_id`. -/
def nodeId (b : Body) : Option String :=
  if b.whole then (b.lastMember "node_id").bind Json.asStr else none

/-- **What a derived reading takes for its first field**, of one name or the
other: nothing, or a value; two of them are an error. -/
def named (names : List String) (b : Body) : Option (Option Json) :=
  match b.content with
  | .object members =>
    match members.filter fun e => names.contains e.1 with
    | [] => some none
    | [e] => some (some e.2)
    | _ => none
  | .array items => some items.head?
  | _ => none

/-- **Where the gate reads an identity, the derived reading reads the same**, if
it reads one. -/
theorem named_of_nodeId {b : Body} {subject : String} (h : b.nodeId = some subject)
    {names : List String} (hnames : "node_id" ∈ names) {v : Option Json}
    (hv : b.named names = some v) : v = some (.string subject) := by
  unfold nodeId lastMember at h
  unfold named at hv
  split at h
  case isFalse => exact absurd h (by simp)
  cases hcontent : b.content with
  | object members =>
    rw [hcontent] at h hv
    obtain ⟨w, hw, hstr⟩ := Option.bind_eq_some_iff.mp h
    obtain ⟨e, he, rfl⟩ := Option.map_eq_some_iff.mp hw
    have hname : e.1 = "node_id" := by simpa using List.find?_some he
    have hmem : e ∈ members.filter fun e => names.contains e.1 :=
      List.mem_filter.mpr ⟨List.mem_reverse.mp (List.mem_of_find?_eq_some he), by
        rw [hname]
        exact List.contains_iff_mem.mpr hnames⟩
    dsimp only at hv
    split at hv
    · next hnil => exact absurd (hnil ▸ hmem) List.not_mem_nil
    · next e' hone =>
      obtain rfl : e = e' := List.mem_singleton.mp (hone ▸ hmem)
      cases hval : e.2 with
      | string s =>
        rw [hval] at hstr hv
        rw [← Option.some.inj hv, Option.some.inj hstr]
      | _ =>
        rw [hval] at hstr
        exact absurd hstr (by simp [Json.asStr])
    · exact absurd hv (by simp)
  | _ =>
    rw [hcontent] at h
    exact absurd h (by simp)

end Body

/-! ## The gate -/

namespace RestrictedDomain

/-- The protected routes, and the operation each of them is. -/
def protectedRoutes : List ((String × String) × String) :=
  [(("POST", "/v1/register"), "registration"),
   (("GET", "/v1/discover"), "discovery"),
   (("GET", "/v1/bootstrap"), "bootstrap"),
   (("POST", "/v1/heartbeat"), "heartbeat"),
   (("POST", "/v1/peers"), "peers"),
   (("POST", "/v1/consumer-token"), "consumer_token"),
   (("POST", "/v1/dispatch/ticket"), "dispatch"),
   (("POST", "/v1/relay/ticket"), "relay")]

/-- `protected_operation`. -/
def protectedOperation (method path : String) : Option String :=
  protectedRoutes.lookup (method,
    if "/api".toList.isPrefixOf path.toList then String.ofList (path.toList.drop 4) else path)

/-- `MAX_BODY_BYTES`. -/
def maxBodyBytes : ℕ := 16 * 1024 * 1024

/-- A request, with the first header of each name. -/
structure GatedRequest where
  method : String
  path : String
  membership : Option Bytes := none
  subjectId : Option Bytes := none
  authorization : Option Bytes := none
  xNodeId : Option Bytes := none
  body : Body

/-- The text of a header, or none. -/
def headerOrEmpty (value : Option Bytes) : String := (value.bind headerText).getD ""

/-- The subject the header claims. -/
def GatedRequest.claimed (r : GatedRequest) : String := headerOrEmpty r.subjectId

/-- **The subject of a request**, to the gate. -/
def GatedRequest.subject (r : GatedRequest) : String := r.body.nodeId.getD r.claimed

/-- What the gate does with a request. -/
inductive GateAnswer
  | passed
  | admitted (subject : String) (membership : AuthorizedMembership)
  | denied
  | unavailable
  deriving DecidableEq

/-- The request reaches its handler. -/
def GateAnswer.reaches : GateAnswer → Bool
  | passed | admitted _ _ => true
  | denied | unavailable => false

variable (E : EvidenceLibs) {fold : String → String}

/-- **`restricted_domain_gate`**, up to the handler; the database answers the one
query, or fails it. -/
def restrictedDomainGate (D : RestrictedDomainService) (nowS : ℤ) (t : Memberships fold)
    (answers : Bool) (r : GatedRequest) : GateAnswer :=
  if !D.enabled then .passed
  else
    match protectedOperation r.method r.path with
    | none => .passed
    | some operation =>
      if decide (maxBodyBytes < r.body.size) then .denied
      else if r.claimed != "" && r.body.nodeId.any (· != r.claimed) then .denied
      else
        let token := headerOrEmpty r.membership
        if token != "" && r.subject != "" && D.pool && !answers then .unavailable
        else
          match authorize E D nowS t token r.subject operation with
          | some membership => .admitted r.subject membership
          | none => .denied

/-- **Who is admitted** is the subject of the request; it is named, and has a
membership for the operation. -/
theorem of_admitted {D : RestrictedDomainService} {nowS : ℤ} {t : Memberships fold}
    {answers : Bool} {r : GatedRequest} {subject : String} {membership : AuthorizedMembership}
    (h : restrictedDomainGate E D nowS t answers r = .admitted subject membership) :
    D.enabled = true ∧ subject = r.subject ∧ subject ≠ ""
      ∧ ∃ operation, protectedOperation r.method r.path = some operation
        ∧ authorize E D nowS t (headerOrEmpty r.membership) subject operation
          = some membership := by
  unfold restrictedDomainGate at h
  split at h
  · exact absurd h (by simp)
  next henabled =>
  split at h
  · exact absurd h (by simp)
  next operation hop =>
  split at h
  · exact absurd h (by simp)
  split at h
  · exact absurd h (by simp)
  dsimp only at h
  split at h
  · exact absurd h (by simp)
  split at h
  · next m hm =>
    obtain ⟨rfl, rfl⟩ := GateAnswer.admitted.inj h
    refine ⟨by simpa using henabled, rfl, ?_, operation, hop, hm⟩
    intro hempty
    rw [hempty] at hm
    exact absurd hm (by simp [authorize])
  · exact absurd h (by simp)

end RestrictedDomain
