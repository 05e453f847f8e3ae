import IicpDirectory.Foundations.Run
import IicpDirectory.OperatorSignatures
import IicpDirectory.Operators
import IicpDirectory.Replica.Transcript
import IicpDirectory.Seed.NodeAuth

/-!
# What an operator asks of the directory for itself

An operator accepts the terms, asks for its data or for their erasure, passes
its identity to another key or revokes it. For each of these it draws a
challenge first, signs the request with it, and sends both. The directory keeps
the challenges in one map, under the digest of the operator and the nonce, with
the time they expire: a request takes its challenge out of the map, and after
that the signature is checked.

The map is the only thing two requests share before they get to the repository,
and it is behind a lock; a request is one step, with what the repository said
of the operator before, and with the clock as it was read each time. Of each
challenge it is kept beside the time which one it is (`Challenge.serial`).

What is carried out has taken a challenge of that operator of its own, before it
expired, and the operator has signed the action and what the request says of
it (`self_service_authorised`). What the request leaves out is not signed: the
reason is a constant then, and the tracking identity is drawn.
-/

/-! ## Requests -/

/-- `OperatorKeyRequest`. -/
structure OperatorKeyRequest where
  operatorPub : String
  nonce : String
  ts : Int64
  sig : String
  newOperatorPub : Option String := none
  newKeySig : Option String := none
  rotationEpoch : Option UInt32 := none
  reasonClass : Option String := none
  confirm : Option Bool := none
  termsVersion : Option String := none
  dpaVersion : Option String := none
  trackingId : Option String := none
  deriving DecidableEq

/-- The routes of self-service. -/
inductive SelfServiceRoute
  | accept
  | dsr (action : DsrAction)
  | rotate
  | revoke
  deriving DecidableEq

namespace SelfServiceRoute

/-- The action that is signed. -/
def action : SelfServiceRoute → String
  | .accept => "accept"
  | .dsr .export => "dsr_export"
  | .dsr .restrict => "dsr_restrict"
  | .dsr .anonymize => "dsr_anonymize"
  | .rotate => "key_rotate"
  | .revoke => "key_revoke"

/-- `include_successor`. -/
def includeSuccessor (route : SelfServiceRoute) : Bool := route == .rotate

end SelfServiceRoute

/-- `valid_reason_class`. -/
def validReasonClass (value : String) : Bool :=
  !value.isEmpty && decide (Admission.byteLength value ≤ 64)
    && value.toList.all fun c => c.isLower || c.isDigit || c == '_' || c == '-'

namespace OperatorKeyRequest

/-- `self_service_fields`. -/
def selfServiceFields (r : OperatorKeyRequest) (action : String) (includeSuccessor : Bool) :
    SelfServiceFields where
  operatorPub := r.operatorPub
  nonce := r.nonce
  ts := r.ts
  reasonClass := r.reasonClass
  rotationEpoch := r.rotationEpoch.map some
  newOperatorPub := if includeSuccessor then some (r.newOperatorPub.getD "") else none
  confirm := if includeSuccessor then none else r.confirm
  termsVersion := if action == "accept" then r.termsVersion else none
  dpaVersion := if action == "accept" then r.dpaVersion else none
  trackingId := if "dsr_".toList.isPrefixOf action.toList then r.trackingId else none

/-- The fields the successor signs; an epoch that is left out is `null`. -/
def successorFields (r : OperatorKeyRequest) (successor : String) : SelfServiceFields where
  operatorPub := r.operatorPub
  newOperatorPub := some successor
  nonce := r.nonce
  ts := r.ts
  rotationEpoch := some r.rotationEpoch

end OperatorKeyRequest

/-! ## Challenges -/

/-- The alphabet of URL-safe Base64. -/
def base64UrlAlphabet : List Char :=
  "ABCDEFGHIJKLMNOPQRSTUVWXYZabcdefghijklmnopqrstuvwxyz0123456789-_".toList

/-- The character of a sextet. -/
def base64UrlChar (n : ℕ) : Char := base64UrlAlphabet.getD (n % 64) 'A'

/-- `Base64UrlSafeNoPadding::encode_to_string`, as characters. -/
def base64UrlChars : Bytes → List Char
  | a :: b :: c :: rest =>
    let n := a.toNat * 2 ^ 16 + b.toNat * 2 ^ 8 + c.toNat
    base64UrlChar (n / 2 ^ 18) :: base64UrlChar (n / 2 ^ 12) :: base64UrlChar (n / 2 ^ 6)
      :: base64UrlChar n :: base64UrlChars rest
  | [a, b] =>
    let n := a.toNat * 2 ^ 16 + b.toNat * 2 ^ 8
    [base64UrlChar (n / 2 ^ 18), base64UrlChar (n / 2 ^ 12), base64UrlChar (n / 2 ^ 6)]
  | [a] => [base64UrlChar (a.toNat * 2 ^ 16 / 2 ^ 18), base64UrlChar (a.toNat * 2 ^ 16 / 2 ^ 12)]
  | [] => []

theorem base64UrlChar_ne (n : ℕ) : base64UrlChar n ≠ '\n' := by
  have hmem : base64UrlChar n ∈ base64UrlAlphabet := by
    have hlt : n % 64 < base64UrlAlphabet.length := Nat.mod_lt n (by decide)
    unfold base64UrlChar
    rw [List.getD_eq_getElem?_getD, List.getElem?_eq_getElem hlt]
    exact List.getElem_mem hlt
  have hall : (base64UrlAlphabet.all fun c => c != '\n') = true := by decide
  exact bne_iff_ne.mp (List.all_eq_true.mp hall _ hmem)

/-- A nonce has no line break in it. -/
theorem newline_notMem_base64UrlChars (bytes : Bytes) : '\n' ∉ base64UrlChars bytes := by
  fun_induction base64UrlChars bytes with
  | case1 a b c rest n ih => simp [(base64UrlChar_ne _).symm, ih]
  | case2 a b n => simp [(base64UrlChar_ne _).symm]
  | case3 a => simp [(base64UrlChar_ne _).symm]
  | case4 => simp

/-- **A challenge**: which one it is, whom it was issued for, and until when it
is good. -/
structure Challenge where
  serial : ℕ
  operatorPub : String
  nonce : String
  expires : UInt64
  deriving DecidableEq

/-- What is digested of a challenge. -/
def challengeText (operatorPub nonce : String) : String := operatorPub ++ "\n" ++ nonce

/-- A line break that is in neither part is where they meet. -/
theorem challengeText_inj {operatorPub operatorPub' nonce nonce' : String}
    (hoperator : '\n' ∉ operatorPub.toList) (hnonce : '\n' ∉ nonce.toList)
    (h : challengeText operatorPub nonce = challengeText operatorPub' nonce') :
    operatorPub = operatorPub' ∧ nonce = nonce' := by
  have hchars := congrArg String.toList h
  simp only [challengeText, String.toList_append, List.append_assoc] at hchars
  -- the break is one character
  have hparts : operatorPub.toList ++ '\n' :: nonce.toList
      = operatorPub'.toList ++ '\n' :: nonce'.toList := hchars
  obtain ⟨hpub, _, hnonce⟩ := (List.append_cons_inj_of_notMem hoperator hnonce).mp hparts
  exact ⟨String.toList_inj.mp hpub, String.toList_inj.mp hnonce⟩

variable (L : Libs) (base64Decode : String → Option Bytes)

/-- `operator_challenge_key`. -/
def operatorChallengeKey (operatorPub nonce : String) : String :=
  Hex.encode (L.sha256 (challengeText operatorPub nonce))

/-- `OPERATOR_CHALLENGE_TTL_SECS`. -/
def operatorChallengeTtlSecs : ℕ := 300

/-- `OPERATOR_TS_WINDOW_SECS`. -/
def operatorTsWindowSecs : Int64 := 300

/-- `consume_operator_challenge`: the challenge, if it is there and good, and
the map without it and without what has expired. -/
def consumeOperatorChallenge (challenges : String → Option Challenge) (now : UInt64)
    (operatorPub nonce : String) : Option Challenge × (String → Option Challenge) :=
  let retained := fun key => (challenges key).filter fun c => decide (now ≤ c.expires)
  let key := operatorChallengeKey L operatorPub nonce
  ((retained key).filter fun c => decide (now ≤ c.expires), Function.update retained key none)

/-! ## The handlers -/

/-- **A request as it is handled**: the route it came by, what the clock and the
repository said, the versions that are current, and the tracking identity that
would be drawn. -/
structure SelfServiceAttempt where
  route : SelfServiceRoute
  request : OperatorKeyRequest
  now : UInt64
  active : Option Bool
  consumedAt : UInt64
  currentTerms : String
  currentDpa : String
  drawn : String

namespace SelfServiceAttempt

/-- What a handler refuses before it validates the request. -/
def refusalBefore (a : SelfServiceAttempt) : Option Refusal :=
  match a.route with
  | .accept =>
    match a.request.termsVersion, a.request.dpaVersion with
    | some terms, some dpa =>
      if decide (64 < Admission.byteLength terms) || decide (64 < Admission.byteLength dpa) then
        some ⟨422, "validation_error", "governance version is invalid"⟩
      else if terms != a.currentTerms || dpa != a.currentDpa then
        some ⟨409, "IICP-E061", "terms or DPA version is not current"⟩
      else none
    | _, _ => some ⟨422, "validation_error", "terms_version and dpa_version are required"⟩
  | .dsr action =>
    if action != .export && a.request.confirm != some true then
      some ⟨422, "validation_error", "confirm=true is required"⟩
    else if a.request.trackingId.any
        (fun id => id.isEmpty || decide (64 < Admission.byteLength id)) then
      some ⟨422, "validation_error", "tracking_id is invalid"⟩
    else none
  | .rotate => none
  | .revoke =>
    if a.request.confirm != some true then
      some ⟨422, "validation_error", "confirm=true is required"⟩
    else if a.request.reasonClass.any (fun value => !validReasonClass value) then
      some ⟨422, "validation_error", "reason_class is invalid"⟩
    else none

/-- What `validate_operator_key_request` refuses before it takes the
challenge. -/
def refusalOfFields (a : SelfServiceAttempt) : Option Refusal :=
  if a.request.operatorPub.isEmpty || decide (64 < Admission.byteLength a.request.operatorPub)
      || decide (Admission.byteLength a.request.nonce < 16)
      || decide (64 < Admission.byteLength a.request.nonce)
      || decide (128 < Admission.byteLength a.request.sig) then
    some ⟨422, "validation_error", "operator request fields are invalid"⟩
  else if !withinWindow operatorTsWindowSecs a.now a.request.ts then
    some ⟨401, "IICP-E041", "stale or future-dated operator request"⟩
  else
    match a.active with
    | none => some ⟨404, "IICP-E044", "unknown operator"⟩
    | some false => some ⟨409, "IICP-E063", "operator identity is no longer active"⟩
    | some true => none

/-- The fields that are signed. -/
def fields (a : SelfServiceAttempt) : SelfServiceFields :=
  a.request.selfServiceFields a.route.action a.route.includeSuccessor

/-- What it refuses after that. -/
def refusalOfSignature (a : SelfServiceAttempt) : Option Refusal :=
  match Delegation.verifySelfService L base64Decode a.request.operatorPub a.request.sig
      a.route.action a.fields.members with
  | .ok => none
  | .malformed => some ⟨401, "IICP-E042", "operator signature verification failed"⟩
  | .badSignature => some ⟨401, "IICP-E043", "operator signature verification failed"⟩

/-- The rest of `operator_key_rotate`: the successor, which has signed too. -/
def successor (a : SelfServiceAttempt) : Except Refusal String :=
  match a.request.newOperatorPub, a.request.newKeySig with
  | none, _ => .error ⟨422, "validation_error", "new_operator_pub is required"⟩
  | some _, none => .error ⟨422, "validation_error", "new_key_sig is required"⟩
  | some successor, some sig =>
    if successor == a.request.operatorPub || decide (64 < Admission.byteLength successor)
        || decide (128 < Admission.byteLength sig)
        || a.request.reasonClass.any (fun value => !validReasonClass value) then
      .error ⟨401, "IICP-E064", "malformed successor operator key or signature"⟩
    else if Delegation.verifySelfService L base64Decode successor sig "key_rotate_successor"
        (a.request.successorFields successor).members = .ok then
      .ok successor
    else .error ⟨401, "IICP-E064", "successor operator signature verification failed"⟩

/-- **What the repository is asked**, in the end. -/
def call (a : SelfServiceAttempt) : Except Refusal OperatorCall :=
  match a.route with
  | .accept => .ok (.accept a.request.operatorPub (a.request.termsVersion.getD "")
      (a.request.dpaVersion.getD "") (Hex.encode (L.sha256 a.request.nonce)))
  | .dsr action => .ok (.dsr a.request.operatorPub action (a.request.trackingId.getD a.drawn))
  | .rotate => (a.successor L base64Decode).map fun successor =>
      .rotate a.request.operatorPub successor (a.request.rotationEpoch.map UInt32.toNat)
        (a.request.reasonClass.getD "operator_rotation")
  | .revoke => .ok (.revoke a.request.operatorPub
      (a.request.reasonClass.getD "operator_request"))

/-- **A request is handled**: the challenge that was taken and what the
repository is asked, or a refusal; and the map of challenges. -/
def handle (a : SelfServiceAttempt) (challenges : String → Option Challenge) :
    Except Refusal (Challenge × OperatorCall) × (String → Option Challenge) :=
  match (a.refusalBefore).or a.refusalOfFields with
  | some refusal => (.error refusal, challenges)
  | none =>
    let r := consumeOperatorChallenge L challenges a.consumedAt a.request.operatorPub
      a.request.nonce
    (match r.1, a.refusalOfSignature L base64Decode with
      | none, _ =>
        .error ⟨401, "IICP-E062", "challenge is missing, expired or already used"⟩
      | some _, some refusal => .error refusal
      | some challenge, none => (a.call L base64Decode).map fun call => (challenge, call),
     r.2)

end SelfServiceAttempt

/-- **A request for a challenge**: the clock, what the repository said, and the
bytes that were drawn. -/
structure ChallengeRequest where
  operatorPub : String
  now : UInt64
  active : Option Bool
  uuid : Bytes

namespace ChallengeRequest

/-- What `operator_challenge` refuses. -/
def refusal (r : ChallengeRequest) : Option Refusal :=
  if r.operatorPub.isEmpty || decide (64 < Admission.byteLength r.operatorPub) then
    some ⟨422, "validation_error", "operator_pub is invalid"⟩
  else
    match r.active with
    | none =>
      some ⟨404, "IICP-E044", "unknown operator (register a delegated node first)"⟩
    | some false => some ⟨409, "IICP-E063", "operator identity is no longer active"⟩
    | some true => none

/-- The nonce it draws. -/
def nonce (r : ChallengeRequest) : String := String.ofList (base64UrlChars r.uuid)

/-- When it expires: the sum saturates. -/
def expires (r : ChallengeRequest) : UInt64 :=
  UInt64.ofNat (min (r.now.toNat + operatorChallengeTtlSecs) (2 ^ 64 - 1))

/-- A challenge is issued to an operator that is active. -/
theorem active_of_refusal {r : ChallengeRequest} (h : r.refusal = none) : r.active = some true := by
  unfold refusal at h
  split at h
  · exact absurd h (by simp)
  · split at h
    · exact absurd h (by simp)
    · exact absurd h (by simp)
    · assumption

end ChallengeRequest

/-! ## Runs -/

/-- What was carried out: the request, the challenge it took, and what the
repository was asked. -/
structure SelfServiceEffect where
  attempt : SelfServiceAttempt
  challenge : Challenge
  call : OperatorCall

/-- **The challenges, and what came of them**: the map, all that were issued
and all that was carried out, the last one first, and the keys that an operator
was ever bound under. -/
structure SelfService where
  challenges : String → Option Challenge := fun _ => none
  issued : List Challenge := []
  performed : List SelfServiceEffect := []
  bound : List String := []

/-- What happens: a registration with a delegation, a request for a challenge,
a request that is signed with one; and the process starts anew. -/
inductive SelfServiceAction
  | bind (delegation : Admission.OperatorDelegation) (nodeId : String) (now : ℕ)
  | challenge (r : ChallengeRequest)
  | attempt (a : SelfServiceAttempt)
  | restart

namespace SelfService

/-- What the repository can say of an operator: that it is active only if it was
bound, under the collation. -/
def identityActive (fold : String → String) (s : SelfService) (operatorPub : String)
    (answer : Option Bool) : Option Bool :=
  answer.filter fun active => !active || s.bound.any fun key => fold key == fold operatorPub

/-- The keys that are bound by what the repository is asked. -/
def binds : OperatorCall → List String
  | .rotate _ new _ _ => [new]
  | _ => []

/-- **The step an action is.** -/
def step (fold : String → String) (s : SelfService) : SelfServiceAction → SelfService
  | .bind delegation nodeId now =>
    if Admission.verifyDelegation L base64Decode delegation nodeId now then
      { s with bound := delegation.operatorPub :: s.bound }
    else s
  | .challenge r =>
    match { r with active := s.identityActive fold r.operatorPub r.active }.refusal with
    | some _ => s
    | none =>
      let challenge : Challenge := ⟨s.issued.length, r.operatorPub, r.nonce, r.expires⟩
      { s with
        challenges := Function.update s.challenges
          (operatorChallengeKey L r.operatorPub r.nonce) (some challenge)
        issued := challenge :: s.issued }
  | .attempt a =>
    let seen := { a with active := s.identityActive fold a.request.operatorPub a.active }
    let r := seen.handle L base64Decode s.challenges
    match r.1 with
    | .ok done =>
      { s with
        challenges := r.2
        performed := ⟨seen, done.1, done.2⟩ :: s.performed
        bound := binds done.2 ++ s.bound }
    | .error _ => { s with challenges := r.2 }
  | .restart => { s with challenges := fun _ => none }

end SelfService

/-! ## What is asked of a run -/

namespace OperatorCall

/-- The route a call is of. -/
def selfServiceRoute : OperatorCall → Option SelfServiceRoute
  | .register _ => none
  | .rename _ _ => none
  | .rotate _ _ _ _ => some .rotate
  | .revoke _ _ => some .revoke
  | .accept _ _ _ _ => some .accept
  | .dsr _ action _ => some (.dsr action)

/-- What it uses of the request, beside the operator and the action, under the
names of the fields. -/
def parameters : OperatorCall → List (String × Json)
  | .register _ => []
  | .rename _ _ => []
  | .rotate _ new requestedEpoch reasonClass =>
    ("new_operator_pub", .string new) :: ("reason_class", .string reasonClass)
      :: requestedEpoch.toList.map fun epoch => ("rotation_epoch", .number (.posInt epoch))
  | .revoke _ reasonClass => [("reason_class", .string reasonClass)]
  | .accept _ termsVersion dpaVersion _ =>
    [("terms_version", .string termsVersion), ("dpa_version", .string dpaVersion)]
  | .dsr _ _ trackingId => [("tracking_id", .string trackingId)]

end OperatorCall

namespace SelfServiceEffect

/-- What the operator must have signed. -/
def statement (p : SelfServiceEffect) : SignedStatement :=
  .selfService p.attempt.route.action p.attempt.fields

/-- What is used where the request leaves it out. -/
def defaults (p : SelfServiceEffect) : List (String × Json) :=
  match p.attempt.route with
  | .accept => []
  | .dsr _ => [("tracking_id", .string p.attempt.drawn)]
  | .rotate => [("reason_class", .string "operator_rotation")]
  | .revoke => [("reason_class", .string "operator_request")]

/-- **All that is used is signed.** -/
def ParametersSigned (p : SelfServiceEffect) : Prop :=
  ∀ e ∈ p.call.parameters, e ∈ p.statement.members

/-- **All that is used is signed, or was left out** of what is signed. -/
def ParametersSignedOrLeftOut (p : SelfServiceEffect) : Prop :=
  ∀ e ∈ p.call.parameters, e ∈ p.statement.members
    ∨ e ∈ p.defaults ∧ ∀ v, (e.1, v) ∉ p.statement.members

end SelfServiceEffect

section Authorised

variable (signs : Bytes → Bytes → Prop)

/-- **What was carried out was authorised**: it took a challenge that was issued
for this operator and was good at that time, and the operator has signed this
action and these fields, and under these bytes nothing else. The successor of a
rotation has signed that it is one. -/
structure Authorises (issued : List Challenge) (p : SelfServiceEffect) : Prop where
  issued : p.challenge ∈ issued
  operator : p.challenge.operatorPub = p.attempt.request.operatorPub
  nonce : p.challenge.nonce = p.attempt.request.nonce
  unexpired : p.attempt.consumedAt ≤ p.challenge.expires
  about : p.call.operatorPubkey = p.attempt.request.operatorPub
  route : p.call.selfServiceRoute = some p.attempt.route
  signed : ∃ key, base64Decode p.attempt.request.operatorPub = some key
    ∧ signs key (p.statement.bytes L)
  nothingElse : ∀ st : SignedStatement, st.bytes L = p.statement.bytes L → st = p.statement
  successor : ∀ old new epoch reason, p.call = .rotate old new epoch reason →
    ∃ key, base64Decode new = some key ∧ signs key ((SignedStatement.selfService
      "key_rotate_successor" (p.attempt.request.successorFields new)).bytes L)

/-- More challenges do not take an authorisation away. -/
theorem Authorises.mono {L base64Decode signs} {issued issued' : List Challenge}
    {p : SelfServiceEffect} (h : Authorises L base64Decode signs issued p) (hsub : issued ⊆ issued') :
    Authorises L base64Decode signs issued' p :=
  { h with issued := hsub h.issued }

/-- **Every action is authorised, and by a challenge of its own.** -/
structure Authorised (s : SelfService) : Prop where
  serials : (s.issued.map Challenge.serial).Nodup
  each : ∀ p ∈ s.performed, Authorises L base64Decode signs s.issued p
  distinct : s.performed.Pairwise fun p q => p.challenge.serial ≠ q.challenge.serial

end Authorised

/-! ## One request -/

theorem Except.exists_of_map_eq_ok {ε α β : Type} {f : α → β} {x : Except ε α} {b : β}
    (h : x.map f = .ok b) : ∃ a, x = .ok a ∧ f a = b := by
  cases x with
  | error e => exact absurd h (by simp [Except.map])
  | ok a => exact ⟨a, rfl, Except.ok.inj h⟩

namespace SelfServiceAttempt

variable {L base64Decode} {a : SelfServiceAttempt}

/-- **A request that is carried out** was refused nowhere. -/
theorem of_handle {challenges : String → Option Challenge} {challenge : Challenge}
    {call : OperatorCall}
    (h : (a.handle L base64Decode challenges).1 = .ok (challenge, call)) :
    (a.refusalBefore = none ∧ a.refusalOfFields = none)
      ∧ (consumeOperatorChallenge L challenges a.consumedAt a.request.operatorPub
          a.request.nonce).1 = some challenge
      ∧ (a.handle L base64Decode challenges).2 = (consumeOperatorChallenge L challenges
          a.consumedAt a.request.operatorPub a.request.nonce).2
      ∧ a.refusalOfSignature L base64Decode = none ∧ a.call L base64Decode = .ok call := by
  unfold handle at h ⊢
  split at h
  · exact absurd h (by simp)
  · next hnone =>
    dsimp only at h
    split at h
    · exact absurd h (by simp)
    · exact absurd h (by simp)
    · next challenge' hconsumed hsignature =>
      obtain ⟨call', hcall, hpair⟩ := Except.exists_of_map_eq_ok h
      obtain ⟨rfl, rfl⟩ := Prod.mk.inj hpair
      exact ⟨Option.or_eq_none_iff.mp hnone, hconsumed, rfl, hsignature, hcall⟩

/-- **The challenge that is taken** was there under the operator and the nonce,
and good. -/
theorem of_consume {challenges : String → Option Challenge} {now : UInt64}
    {operatorPub nonce : String} {challenge : Challenge}
    (h : (consumeOperatorChallenge L challenges now operatorPub nonce).1 = some challenge) :
    challenges (operatorChallengeKey L operatorPub nonce) = some challenge
      ∧ now ≤ challenge.expires := by
  obtain ⟨hretained, hexpires⟩ := Option.filter_eq_some_iff.mp h
  exact ⟨(Option.filter_eq_some_iff.mp hretained).1, of_decide_eq_true hexpires⟩

/-- **What the signature is of.** -/
theorem verify_of_refusalOfSignature (h : a.refusalOfSignature L base64Decode = none) :
    ∃ key sig, base64Decode a.request.operatorPub = some key
      ∧ L.verify key ((SignedStatement.selfService a.route.action a.fields).bytes L) sig
        = true := by
  unfold refusalOfSignature at h
  split at h
  · next hok =>
    obtain ⟨key, sig, hkey, _, _, _, hverify⟩ := Delegation.verifySigned_eq_ok L base64Decode hok
    exact ⟨key, sig, hkey, hverify⟩
  · exact absurd h (by simp)
  · exact absurd h (by simp)

/-- The versions that are accepted are in the request. -/
theorem versions_of_refusalBefore (hroute : a.route = .accept) (h : a.refusalBefore = none) :
    ∃ terms dpa, a.request.termsVersion = some terms ∧ a.request.dpaVersion = some dpa := by
  unfold refusalBefore at h
  rw [hroute] at h
  dsimp only at h
  split at h
  · next terms dpa hterms hdpa => exact ⟨terms, dpa, hterms, hdpa⟩
  · exact absurd h (by simp)

/-- **The successor of a rotation has signed.** -/
theorem of_successor {successor : String} (h : a.successor L base64Decode = .ok successor) :
    a.request.newOperatorPub = some successor
      ∧ ∃ key sig, base64Decode successor = some key
        ∧ L.verify key ((SignedStatement.selfService "key_rotate_successor"
            (a.request.successorFields successor)).bytes L) sig = true := by
  unfold SelfServiceAttempt.successor at h
  split at h
  · exact absurd h (by simp)
  · exact absurd h (by simp)
  · next new sig hnew _ =>
    split at h
    · exact absurd h (by simp)
    · split at h
      · next hok =>
        obtain rfl := Except.ok.inj h
        obtain ⟨key, raw, hkey, _, _, _, hverify⟩ :=
          Delegation.verifySigned_eq_ok L base64Decode hok
        exact ⟨hnew, key, raw, hkey, hverify⟩
      · exact absurd h (by simp)

/-- A rotation is to the successor. -/
theorem successor_of_call {old new : String} {epoch : Option ℕ} {reason : String}
    (h : a.call L base64Decode = .ok (.rotate old new epoch reason)) :
    a.successor L base64Decode = .ok new := by
  unfold SelfServiceAttempt.call at h
  split at h
  · exact absurd h (by simp)
  · exact absurd h (by simp)
  · obtain ⟨successor, hsuccessor, heq⟩ := Except.exists_of_map_eq_ok h
    rw [hsuccessor, (OperatorCall.rotate.inj heq).2.1]
  · exact absurd h (by simp)

/-- A text that may be left out is signed, or it is left out. -/
theorem optional_signed {name text : String} {f : SelfServiceFields} {o : Option String}
    (hname : (name, o.map Json.string) ∈ f.entries) :
    (name, Json.string (o.getD text)) ∈ f.members
      ∨ o = none ∧ ∀ v, (name, v) ∉ f.members := by
  cases o with
  | some value => exact .inl (SelfServiceFields.mem_members.mpr hname)
  | none =>
    refine .inr ⟨rfl, fun v hv => ?_⟩
    have heq := SelfServiceFields.eq_of_mem_entries (SelfServiceFields.mem_members.mp hv) hname
    exact absurd heq (by simp)

end SelfServiceAttempt

namespace SelfServiceEffect

theorem mem_members_iff {p : SelfServiceEffect} {name : String} {v : Json} (h : name ≠ "action") :
    (name, v) ∈ p.statement.members ↔ (name, v) ∈ p.attempt.fields.members := by
  show (name, v) ∈ ("action", Json.string _) :: _ ↔ _
  rw [List.mem_cons, or_iff_right fun heq => h (Prod.mk.inj heq).1]

/-- **A text that is used** is signed, or left out and the one that is used
then. -/
theorem signed_or_leftOut {p : SelfServiceEffect} {name text : String} {o : Option String}
    (hname : (name, o.map Json.string) ∈ p.attempt.fields.entries) (hne : name ≠ "action")
    (hdefault : (name, Json.string text) ∈ p.defaults) :
    (name, Json.string (o.getD text)) ∈ p.statement.members
      ∨ (name, Json.string (o.getD text)) ∈ p.defaults
        ∧ ∀ v, (name, v) ∉ p.statement.members := by
  obtain hmem | ⟨rfl, hnone⟩ := @SelfServiceAttempt.optional_signed name text _ _ hname
  · exact .inl ((mem_members_iff hne).mpr hmem)
  · exact .inr ⟨hdefault, fun v hv => hnone v ((mem_members_iff hne).mp hv)⟩

/-- A text that is in the request is signed. -/
theorem signed_of_mem_entries {p : SelfServiceEffect} {name text : String}
    (hname : (name, some (Json.string text)) ∈ p.attempt.fields.entries) (hne : name ≠ "action") :
    (name, Json.string text) ∈ p.statement.members :=
  (mem_members_iff hne).mpr (SelfServiceFields.mem_members.mpr hname)

end SelfServiceEffect

namespace SelfServiceAttempt

variable {L base64Decode} {a : SelfServiceAttempt} {call : OperatorCall}

/-- **What the repository is asked** is about the operator of the request, of
the kind of its route, and with what it says. -/
theorem of_call (h : a.call L base64Decode = .ok call) (hbefore : a.refusalBefore = none)
    (challenge : Challenge) :
    call.operatorPubkey = a.request.operatorPub ∧ call.selfServiceRoute = some a.route
      ∧ (⟨a, challenge, call⟩ : SelfServiceEffect).ParametersSignedOrLeftOut := by
  unfold SelfServiceAttempt.call at h
  split at h
  · next hroute =>
    obtain rfl := Except.ok.inj h
    obtain ⟨terms, dpa, hterms, hdpa⟩ := versions_of_refusalBefore hroute hbefore
    have haction : (a.route.action == "accept") = true := by rw [hroute]; rfl
    have hterms' : a.fields.termsVersion = some terms := (if_pos haction).trans hterms
    have hdpa' : a.fields.dpaVersion = some dpa := (if_pos haction).trans hdpa
    rw [hterms, hdpa, Option.getD_some, Option.getD_some, hroute]
    refine ⟨rfl, rfl, List.forall_mem_cons.mpr ⟨.inl ?_, List.forall_mem_cons.mpr ⟨.inl ?_, ?_⟩⟩⟩
    · refine SelfServiceEffect.signed_of_mem_entries ?_ (by decide)
      simp [SelfServiceFields.entries, hterms']
    · refine SelfServiceEffect.signed_of_mem_entries ?_ (by decide)
      simp [SelfServiceFields.entries, hdpa']
    · exact fun _ he => absurd he List.not_mem_nil
  · next action hroute =>
    obtain rfl := Except.ok.inj h
    have hstart : "dsr_".toList.isPrefixOf a.route.action.toList = true := by
      rw [hroute]
      cases action <;> decide
    have htracking : a.fields.trackingId = a.request.trackingId := if_pos hstart
    rw [hroute]
    refine ⟨rfl, rfl, List.forall_mem_cons.mpr ⟨?_, fun _ he => absurd he List.not_mem_nil⟩⟩
    refine SelfServiceEffect.signed_or_leftOut ?_ (by decide) ?_
    · simp [SelfServiceFields.entries, htracking]
    · unfold SelfServiceEffect.defaults
      rw [hroute]
      exact List.mem_singleton_self _
  · next hroute =>
    obtain ⟨successor, hsuccessor, rfl⟩ := Except.exists_of_map_eq_ok h
    have hnew : a.fields.newOperatorPub = some successor := by
      have hincluded : a.route.includeSuccessor = true := by rw [hroute]; rfl
      rw [show a.fields.newOperatorPub = _ from if_pos hincluded, (of_successor hsuccessor).1]
      rfl
    have hreason : a.fields.reasonClass = a.request.reasonClass := rfl
    have hepoch : a.fields.rotationEpoch = a.request.rotationEpoch.map some := rfl
    rw [hroute]
    refine ⟨rfl, rfl, List.forall_mem_cons.mpr ⟨.inl ?_, List.forall_mem_cons.mpr ⟨?_, ?_⟩⟩⟩
    · refine SelfServiceEffect.signed_of_mem_entries ?_ (by decide)
      simp [SelfServiceFields.entries, hnew]
    · refine SelfServiceEffect.signed_or_leftOut ?_ (by decide) ?_
      · simp [SelfServiceFields.entries, hreason]
      · unfold SelfServiceEffect.defaults
        rw [hroute]
        exact List.mem_singleton_self _
    · intro e he
      obtain ⟨n, hn, rfl⟩ := List.mem_map.mp he
      obtain ⟨epoch, hsome, rfl⟩ := Option.map_eq_some_iff.mp (Option.mem_toList.mp hn)
      refine .inl ((SelfServiceEffect.mem_members_iff (by decide)).mpr
        (SelfServiceFields.mem_members.mpr ?_))
      simp [SelfServiceFields.entries, hepoch, hsome, SelfServiceFields.epochJson]
  · next hroute =>
    obtain rfl := Except.ok.inj h
    have hreason : a.fields.reasonClass = a.request.reasonClass := rfl
    rw [hroute]
    refine ⟨rfl, rfl, List.forall_mem_cons.mpr ⟨?_, fun _ he => absurd he List.not_mem_nil⟩⟩
    refine SelfServiceEffect.signed_or_leftOut ?_ (by decide) ?_
    · simp [SelfServiceFields.entries, hreason]
    · unfold SelfServiceEffect.defaults
      rw [hroute]
      exact List.mem_singleton_self _

end SelfServiceAttempt

/-! ## Runs -/

/-- What an action says of a challenge: the text that is digested. -/
def SelfServiceAction.text : SelfServiceAction → Option String
  | .bind _ _ _ => none
  | .challenge r => some (challengeText r.operatorPub r.nonce)
  | .attempt a => some (challengeText a.request.operatorPub a.request.nonce)
  | .restart => none

namespace SelfService

variable {L base64Decode} {signs : Bytes → Bytes → Prop} {texts : Set String}
  {fold : String → String}

/-- **What a step keeps**: every challenge in the map was issued, is under its
key, and was not taken yet; and everything that was carried out is in
order. -/
structure Kept (L : Libs) (base64Decode : String → Option Bytes) (signs : Bytes → Bytes → Prop)
    (texts : Set String) (s : SelfService) : Prop where
  serial_lt : ∀ c ∈ s.issued, c.serial < s.issued.length
  unbroken : ∀ c ∈ s.issued, '\n' ∉ c.operatorPub.toList ∧ '\n' ∉ c.nonce.toList
  digested : ∀ c ∈ s.issued, challengeText c.operatorPub c.nonce ∈ texts
  issued : ∀ key c, s.challenges key = some c → c ∈ s.issued
  key : ∀ key c, s.challenges key = some c →
    key = operatorChallengeKey L c.operatorPub c.nonce
  unused : ∀ key c, s.challenges key = some c → ∀ p ∈ s.performed,
    p.challenge.serial ≠ c.serial
  authorised : Authorised L base64Decode signs s
  parameters : ∀ p ∈ s.performed, p.ParametersSignedOrLeftOut
  bound : ∀ key ∈ s.bound, '\n' ∉ key.toList

/-- At the start there is nothing. -/
theorem kept_start : Kept L base64Decode signs texts {} where
  serial_lt := fun _ h => absurd h List.not_mem_nil
  unbroken := fun _ h => absurd h List.not_mem_nil
  digested := fun _ h => absurd h List.not_mem_nil
  issued := fun _ _ h => absurd h (by simp)
  key := fun _ _ h => absurd h (by simp)
  unused := fun _ _ h => absurd h (by simp)
  authorised := ⟨List.nodup_nil, fun _ h => absurd h List.not_mem_nil, .nil⟩
  parameters := fun _ h => absurd h List.not_mem_nil
  bound := fun _ h => absurd h List.not_mem_nil

/-- What is active was bound, and its key has no line break in it. -/
theorem Kept.unbroken_of_active (hfold : ∀ s t, fold s = fold t → '\n' ∈ s.toList → '\n' ∈ t.toList)
    {s : SelfService} (h : Kept L base64Decode signs texts s) {operatorPub : String}
    {answer : Option Bool} (hactive : s.identityActive fold operatorPub answer = some true) :
    '\n' ∉ operatorPub.toList := by
  obtain ⟨_, hbound⟩ := Option.filter_eq_some_iff.mp hactive
  obtain ⟨key, hkey, hsame⟩ := List.any_eq_true.mp hbound
  exact fun hbreak => h.bound key hkey (hfold _ _ (beq_iff_eq.mp hsame).symm hbreak)

/-- **A challenge that is issued** is a new one, under its key. -/
theorem Kept.challenge (hfold : ∀ s t, fold s = fold t → '\n' ∈ s.toList → '\n' ∈ t.toList)
    {s : SelfService} (h : Kept L base64Decode signs texts s) (r : ChallengeRequest)
    (htext : challengeText r.operatorPub r.nonce ∈ texts) :
    Kept L base64Decode signs texts (step L base64Decode fold s (.challenge r)) := by
  unfold step
  dsimp only
  split
  · exact h
  next hrefusal =>
    have hoperator : '\n' ∉ r.operatorPub.toList :=
      h.unbroken_of_active hfold (ChallengeRequest.active_of_refusal hrefusal)
    have hnonce : '\n' ∉ r.nonce.toList := by
      unfold ChallengeRequest.nonce
      rw [String.toList_ofList]
      exact newline_notMem_base64UrlChars r.uuid
    have hcases : ∀ key c, Function.update s.challenges
        (operatorChallengeKey L r.operatorPub r.nonce)
        (some ⟨s.issued.length, r.operatorPub, r.nonce, r.expires⟩) key = some c →
          (key = operatorChallengeKey L r.operatorPub r.nonce
            ∧ c = ⟨s.issued.length, r.operatorPub, r.nonce, r.expires⟩)
          ∨ s.challenges key = some c := by
      intro key c hc
      by_cases hsame : key = operatorChallengeKey L r.operatorPub r.nonce
      · subst hsame
        rw [Function.update_self] at hc
        exact .inl ⟨rfl, (Option.some.inj hc).symm⟩
      · rw [Function.update_of_ne hsame] at hc
        exact .inr hc
    exact
      { serial_lt := List.forall_mem_cons.mpr ⟨Nat.lt_succ_self _, fun c hc =>
          (h.serial_lt c hc).trans (Nat.lt_succ_self _)⟩
        unbroken := List.forall_mem_cons.mpr ⟨⟨hoperator, hnonce⟩, h.unbroken⟩
        digested := List.forall_mem_cons.mpr ⟨htext, h.digested⟩
        issued := fun key c hc => (hcases key c hc).elim (fun hnew => hnew.2 ▸ List.mem_cons_self)
          fun hold => List.mem_cons_of_mem _ (h.issued key c hold)
        key := fun key c hc => (hcases key c hc).elim (fun hnew => hnew.2 ▸ hnew.1) (h.key key c)
        unused := by
          intro key c hc p hp
          obtain ⟨_, rfl⟩ | hold := hcases key c hc
          · exact (h.serial_lt _ (h.authorised.each p hp).issued).ne
          · exact h.unused key c hold p hp
        authorised :=
          { serials := List.nodup_cons.mpr ⟨fun hmem => by
              obtain ⟨c, hc, heq⟩ := List.mem_map.mp hmem
              exact (h.serial_lt c hc).ne heq, h.authorised.serials⟩
            each := fun p hp => (h.authorised.each p hp).mono (List.subset_cons_self _ _)
            distinct := h.authorised.distinct }
        parameters := h.parameters
        bound := h.bound }

/-- What is left in the map was there, under another key. -/
theorem of_mem_consumed {challenges : String → Option Challenge} {now : UInt64}
    {operatorPub nonce key : String} {c : Challenge}
    (h : (consumeOperatorChallenge L challenges now operatorPub nonce).2 key = some c) :
    challenges key = some c ∧ key ≠ operatorChallengeKey L operatorPub nonce := by
  unfold consumeOperatorChallenge at h
  dsimp only at h
  by_cases hsame : key = operatorChallengeKey L operatorPub nonce
  · subst hsame
    rw [Function.update_self] at h
    exact absurd h (by simp)
  · rw [Function.update_of_ne hsame] at h
    exact ⟨(Option.filter_eq_some_iff.mp h).1, hsame⟩

/-- What is in the map after a request was in it before. -/
theorem of_mem_handled {a : SelfServiceAttempt} {challenges : String → Option Challenge}
    {key : String} {c : Challenge} (h : (a.handle L base64Decode challenges).2 key = some c) :
    challenges key = some c := by
  unfold SelfServiceAttempt.handle at h
  split at h
  · exact h
  · exact (of_mem_consumed h).1

/-- **A request that is carried out** takes its challenge out of the map, and is
authorised by it. -/
theorem Kept.attempt
    (hunforgeable : ∀ key message sig, L.verify key message sig = true → signs key message)
    (hL : L.PrintsNumbers) (hsha : Set.InjOn L.sha256 texts)
    (hbase64 : ∀ text bytes, base64Decode text = some bytes → '\n' ∉ text.toList)
    {s : SelfService} (h : Kept L base64Decode signs texts s) (a : SelfServiceAttempt)
    (htext : challengeText a.request.operatorPub a.request.nonce ∈ texts) :
    Kept L base64Decode signs texts (step L base64Decode fold s (.attempt a)) := by
  unfold step
  dsimp only
  -- what the repository says is all the request is changed in
  have htext' : challengeText
      { a with active := s.identityActive fold a.request.operatorPub a.active }.request.operatorPub
      { a with active := s.identityActive fold a.request.operatorPub a.active }.request.nonce
        ∈ texts := htext
  generalize ({ a with active := s.identityActive fold a.request.operatorPub a.active }
    : SelfServiceAttempt) = a at htext'
  clear htext
  have hheld : ∀ key c, (a.handle L base64Decode s.challenges).2 key = some c →
      s.challenges key = some c := fun key c => of_mem_handled
  cases hdone : (a.handle L base64Decode s.challenges).1 with
  | error refusal =>
    dsimp only
    exact
      { h with
        issued := fun key c hc => h.issued key c (hheld key c hc)
        key := fun key c hc => h.key key c (hheld key c hc)
        unused := fun key c hc => h.unused key c (hheld key c hc)
        authorised := { h.authorised with } }
  | ok done =>
    obtain ⟨challenge, call⟩ := done
    obtain ⟨⟨hbefore, _⟩, hconsumed, hmap, hsignature, hcall⟩ :=
      SelfServiceAttempt.of_handle hdone
    obtain ⟨hthere, hexpires⟩ := SelfServiceAttempt.of_consume hconsumed
    have hissued := h.issued _ _ hthere
    -- the digest tells the operator and the nonce
    have hsame : challenge.operatorPub = a.request.operatorPub
        ∧ challenge.nonce = a.request.nonce := by
      have hdigest : L.sha256 (challengeText challenge.operatorPub challenge.nonce)
          = L.sha256 (challengeText a.request.operatorPub a.request.nonce) :=
        Hex.encode_injective (h.key _ _ hthere).symm
      exact challengeText_inj (h.unbroken _ hissued).1 (h.unbroken _ hissued).2
        (hsha (h.digested _ hissued) htext' hdigest)
    obtain ⟨habout, hroute, hparameters⟩ := SelfServiceAttempt.of_call hcall hbefore challenge
    -- another challenge in the map has another serial
    have hother : ∀ key c, (a.handle L base64Decode s.challenges).2 key = some c →
        challenge.serial ≠ c.serial := by
      intro key c hc heq
      obtain rfl := List.inj_on_of_nodup_map h.authorised.serials hissued
        (h.issued key c (hheld key c hc)) heq
      have hkey := h.key key challenge (hheld key challenge hc)
      rw [hsame.1, hsame.2] at hkey
      rw [hmap] at hc
      exact (of_mem_consumed hc).2 hkey
    have hauthorises : Authorises L base64Decode signs s.issued ⟨a, challenge, call⟩ :=
      { issued := hissued
        operator := hsame.1
        nonce := hsame.2
        unexpired := hexpires
        about := habout
        route := hroute
        signed := by
          obtain ⟨key, sig, hkey, hverify⟩ :=
            SelfServiceAttempt.verify_of_refusalOfSignature hsignature
          exact ⟨key, hkey, hunforgeable _ _ _ hverify⟩
        nothingElse := fun st hst => SignedStatement.bytes_injective hL hst
        successor := by
          rintro old new epoch reason rfl
          obtain ⟨_, key, sig, hkey, hverify⟩ := SelfServiceAttempt.of_successor
            (SelfServiceAttempt.successor_of_call hcall)
          exact ⟨key, hkey, hunforgeable _ _ _ hverify⟩ }
    have hbinds : ∀ key ∈ binds call, '\n' ∉ key.toList := by
      intro key hkey
      cases call with
      | rotate old new epoch reason =>
        obtain rfl := List.mem_singleton.mp hkey
        obtain ⟨raw, hraw, _⟩ := hauthorises.successor old key epoch reason rfl
        exact hbase64 key raw hraw
      | _ => exact absurd hkey List.not_mem_nil
    dsimp only
    exact
      { serial_lt := h.serial_lt
        unbroken := h.unbroken
        digested := h.digested
        issued := fun key c hc => h.issued key c (hheld key c hc)
        key := fun key c hc => h.key key c (hheld key c hc)
        unused := fun key c hc => List.forall_mem_cons.mpr
          ⟨hother key c hc, h.unused key c (hheld key c hc)⟩
        authorised :=
          { serials := h.authorised.serials
            each := List.forall_mem_cons.mpr ⟨hauthorises, h.authorised.each⟩
            distinct := List.pairwise_cons.mpr ⟨fun p hp heq =>
              h.unused _ _ hthere p hp heq.symm, h.authorised.distinct⟩ }
        parameters := List.forall_mem_cons.mpr ⟨hparameters, h.parameters⟩
        bound := fun key hkey => (List.mem_append.mp hkey).elim (hbinds key) (h.bound key) }

/-- **What a step keeps.** -/
theorem Kept.step
    (hunforgeable : ∀ key message sig, L.verify key message sig = true → signs key message)
    (hL : L.PrintsNumbers) (hsha : Set.InjOn L.sha256 texts)
    (hbase64 : ∀ text bytes, base64Decode text = some bytes → '\n' ∉ text.toList)
    (hfold : ∀ s t, fold s = fold t → '\n' ∈ s.toList → '\n' ∈ t.toList) {s : SelfService}
    (h : Kept L base64Decode signs texts s) (action : SelfServiceAction)
    (htext : ∀ text ∈ action.text, text ∈ texts) :
    Kept L base64Decode signs texts (step L base64Decode fold s action) := by
  cases action with
  | bind delegation nodeId now =>
    unfold SelfService.step
    dsimp only
    split
    · next hverified =>
      obtain ⟨key, sig, hkey, _⟩ := Delegation.verifySigned_eq_ok L base64Decode
        (Admission.verifySigned_of_verifyDelegation hverified)
      exact
        { h with
          bound := List.forall_mem_cons.mpr ⟨hbase64 _ _ hkey, h.bound⟩
          authorised := { h.authorised with } }
    · exact h
  | challenge r => exact h.challenge hfold r (htext _ rfl)
  | attempt a => exact h.attempt hunforgeable hL hsha hbase64 a (htext _ rfl)
  | restart =>
    exact
      { h with
        issued := fun _ _ hc => absurd hc (by simp [SelfService.step])
        key := fun _ _ hc => absurd hc (by simp [SelfService.step])
        unused := fun _ _ hc => absurd hc (by simp [SelfService.step])
        authorised := { h.authorised with } }

end SelfService

/-- **Whatever an operator does for itself it has authorised.** In every run each
action that is carried out has taken a challenge of its own, which was issued for
that operator and had not expired; the operator has signed the action and the
fields of the request, and nothing else that it might sign has those bytes; and
what is used is among the fields, or the request leaves it out and a constant or
the identity that is drawn is used. -/
theorem self_service_authorised (L : Libs) (base64Decode : String → Option Bytes)
    (signs : Bytes → Bytes → Prop) (fold : String → String)
    (hunforgeable : ∀ key message sig, L.verify key message sig = true → signs key message)
    (hL : L.PrintsNumbers)
    (hbase64 : ∀ text bytes, base64Decode text = some bytes → '\n' ∉ text.toList)
    (hfold : ∀ s t, fold s = fold t → '\n' ∈ s.toList → '\n' ∈ t.toList)
    (actions : List SelfServiceAction)
    (hsha : Set.InjOn L.sha256 {text | ∃ action ∈ actions, action.text = some text}) :
    Authorised L base64Decode signs (Run.after (SelfService.step L base64Decode fold) {} actions)
      ∧ ∀ p ∈ (Run.after (SelfService.step L base64Decode fold) {} actions).performed,
          p.ParametersSignedOrLeftOut := by
  have hstep : ∀ (s : SelfService) (action : SelfServiceAction),
      SelfService.Kept L base64Decode signs
          {text | ∃ action ∈ actions, SelfServiceAction.text action = some text} s →
        action ∈ actions → SelfService.Kept L base64Decode signs
          {text | ∃ action ∈ actions, SelfServiceAction.text action = some text}
          (SelfService.step L base64Decode fold s action) :=
    fun s action h haction => h.step hunforgeable hL hsha hbase64 hfold action
      fun text htext => ⟨action, haction, htext⟩
  have hrun : Run.Along (SelfService.step L base64Decode fold)
      (fun _ action => action ∈ actions) {} actions :=
    Run.along_of_forall _ (fun action haction _ => haction) _
  have hkept := Run.invariant_along hstep SelfService.kept_start hrun
  exact ⟨hkept.authorised, hkept.parameters⟩

/-- A tracking identity that the request leaves out is not signed. -/
theorem SelfServiceEffect.not_parametersSigned {p : SelfServiceEffect} {action : DsrAction}
    (hroute : p.call.selfServiceRoute = some (.dsr action))
    (hnone : p.attempt.request.trackingId = none) : ¬ p.ParametersSigned := by
  intro h
  cases hcall : p.call with
  | dsr operatorPub action trackingId =>
    unfold ParametersSigned at h
    rw [hcall] at h
    have hmem := SelfServiceFields.mem_members.mp
      ((mem_members_iff (by decide)).mp (h _ (List.mem_singleton_self _)))
    have htracking : p.attempt.fields.trackingId = none := by
      show (if _ then p.attempt.request.trackingId else none) = none
      rw [hnone, ite_self]
    have hentry : ("tracking_id", none) ∈ p.attempt.fields.entries := by
      simp [SelfServiceFields.entries, htracking]
    exact absurd (SelfServiceFields.eq_of_mem_entries hmem hentry) (by simp)
  | _ =>
    rw [hcall] at hroute
    exact absurd hroute (by simp [OperatorCall.selfServiceRoute])

namespace Sample

/-- The key of an operator, in Base64. -/
def selfServicePub : String := "6kpsY+KcUgq+9VB7Ey7F+ZVHdq6+vnuSQh7qaRRG0iw="

/-- Its delegation of a node. -/
def selfServiceDelegation : Admission.OperatorDelegation where
  nodeId := "n1"
  operatorPub := selfServicePub
  notAfter := 1893456000
  sig := "5x9f4FhnJl15YZmHkGCjzDCiYnXhLaXD3QIxSN/vLxVigYPojrQByGoQ02pBsLWiUFgfOHZxkd8VETcxjh8IDg=="

/-- Its request for a challenge, and the bytes that are drawn. -/
def challengeRequest : ChallengeRequest where
  operatorPub := selfServicePub
  now := 1785240000
  active := some true
  uuid := bytes 16 0x9f1c2b3a4d5e4f608a7b1c2d3e4f5061

/-- Its request to be restricted, which names no tracking identity. -/
def restrictAttempt : SelfServiceAttempt where
  route := .dsr .restrict
  request :=
    { operatorPub := selfServicePub
      nonce := "nxwrOk1eT2CKexwtPk9QYQ"
      ts := 1785240010
      sig := "7XuwwnBDNU/+Pa6qxSsJecVH6hvbsPC209dMy7hxd3eTz0bKG341QG87OhgvYYd6aF66gmsFr1fenCUfOT9aCw=="
      confirm := some true }
  now := 1785240010
  active := some true
  consumedAt := 1785240010
  currentTerms := "2026-07-09"
  currentDpa := "2026-07-09"
  drawn := "dsr-3b0c1d2e-4f50-4a61-8b72-9c83ad94be05"

/-- What the texts stand for. -/
def selfServiceTexts : List (String × Bytes) :=
  [(selfServicePub, bytes 32 0xea4a6c63e29c520abef5507b132ec5f9954776aebebe7b92421eea691446d22c),
   (selfServiceDelegation.sig, bytes 64 0xe71f5fe05867265d796199879060a3cc30a26275e12da5c3dd023148dfef2f15628183e88eb401c86a10d36a41b0b5a250581f38767191df151137318e1f080e),
   (restrictAttempt.request.sig, bytes 64 0xed7bb0c27043354ffe3daeaac52b0979c547ea1bdbb0f0b6d3d74ccbb871777793cf46ca1b7e35406f3b3a182f61877a685eba826b05af57de9c251f393f5a0b)]

/-- Base64, of them. -/
def selfServiceBase64 (text : String) : Option Bytes :=
  (selfServiceTexts.find? fun e => e.1 == text).map Prod.snd

/-- The statements the key has signed. -/
def selfServiceSigned : List (SignedStatement × String) :=
  [(.delegation "n1" selfServicePub 1893456000, selfServiceDelegation.sig),
   (.selfService restrictAttempt.route.action restrictAttempt.fields, restrictAttempt.request.sig)]

/-- Numbers as they are printed, the digest of the challenge, and the
signatures of the key. -/
def selfServiceLibs : Libs :=
  { printingLibs with
    sha256 := fun text =>
      bytes 32 (if text = challengeText selfServicePub "nxwrOk1eT2CKexwtPk9QYQ" then
        0xfa6b2881c6a32ff225b030ac7315c7d94931106738386a79ea47e97ae322cc1a else 0)
    verify := fun key message sig =>
      selfServiceBase64 selfServicePub == some key && selfServiceSigned.any fun e =>
        e.1.bytes printingLibs == message && selfServiceBase64 e.2 == some sig }

/-- What the key has signed. -/
def selfServiceSigns (key message : Bytes) : Prop :=
  ∃ sig, selfServiceLibs.verify key message sig = true

/-- The operator binds a node, draws a challenge, and asks to be restricted. -/
def restrictRun : List SelfServiceAction :=
  [.bind selfServiceDelegation "n1" 1785239999, .challenge challengeRequest,
   .attempt restrictAttempt]

theorem selfServiceLibs_printsNumbers : selfServiceLibs.PrintsNumbers :=
  ⟨printingLibs_printsNumbers.printF64_inj, printingLibs_printsNumbers.printF64_chars,
    printingLibs_printsNumbers.printF64_float⟩

theorem newline_notMem_selfServiceTexts (text : String) (raw : Bytes)
    (h : selfServiceBase64 text = some raw) : '\n' ∉ text.toList := by
  obtain ⟨e, hfind, _⟩ := Option.map_eq_some_iff.mp h
  have hone : ∀ {chars : List Char}, '\n' ∉ chars → '\n' ∉ (String.ofList chars).toList := by
    intro chars hchars
    rwa [String.toList_ofList]
  have hall : ∀ e ∈ selfServiceTexts, '\n' ∉ e.1.toList :=
    List.forall_mem_cons.mpr ⟨hone (by decide +kernel),
      List.forall_mem_cons.mpr ⟨hone (by decide +kernel),
        List.forall_mem_cons.mpr ⟨hone (by decide +kernel), fun _ h => absurd h List.not_mem_nil⟩⟩⟩
  have htext := List.find?_some hfind
  rw [beq_iff_eq] at htext
  exact htext ▸ hall e (List.mem_of_find?_eq_some hfind)

theorem newline_mem_of_id_eq (s t : String) (h : id s = id t) (hbreak : '\n' ∈ s.toList) :
    '\n' ∈ t.toList := by
  obtain rfl : s = t := h
  exact hbreak

/-- There is one challenge in the run. -/
theorem restrictRun_injOn : Set.InjOn selfServiceLibs.sha256
    {text | ∃ action ∈ restrictRun, action.text = some text} := by
  have hall : ∀ action ∈ restrictRun, ∀ text ∈ SelfServiceAction.text action,
      text = challengeText selfServicePub "nxwrOk1eT2CKexwtPk9QYQ" := by decide
  rintro text ⟨action, haction, htext⟩ text' ⟨action', haction', htext'⟩ _
  rw [hall action haction text htext, hall action' haction' text' htext']

end Sample

/-- The run of the sample meets what the directory relies on. -/
theorem self_service_authorised_sample :
    Authorised Sample.selfServiceLibs Sample.selfServiceBase64 Sample.selfServiceSigns
        (Run.after (SelfService.step Sample.selfServiceLibs Sample.selfServiceBase64 id) {}
          Sample.restrictRun)
      ∧ ∀ p ∈ (Run.after (SelfService.step Sample.selfServiceLibs Sample.selfServiceBase64 id) {}
          Sample.restrictRun).performed, p.ParametersSignedOrLeftOut :=
  self_service_authorised Sample.selfServiceLibs Sample.selfServiceBase64 Sample.selfServiceSigns id
    (fun _ _ sig h => ⟨sig, h⟩) Sample.selfServiceLibs_printsNumbers
    Sample.newline_notMem_selfServiceTexts Sample.newline_mem_of_id_eq
    Sample.restrictRun Sample.restrictRun_injOn

/-- **A tracking identity that is not signed.** The operator asks to be
restricted and names no tracking identity: one is drawn, and used. -/
theorem drawn_tracking_id_used :
    ((∀ key message sig, Sample.selfServiceLibs.verify key message sig = true →
          Sample.selfServiceSigns key message)
        ∧ Sample.selfServiceLibs.PrintsNumbers
        ∧ (∀ text raw, Sample.selfServiceBase64 text = some raw → '\n' ∉ text.toList)
        ∧ Set.InjOn Sample.selfServiceLibs.sha256
          {text | ∃ action ∈ Sample.restrictRun, action.text = some text})
      ∧ ¬ ∀ p ∈ (Run.after
            (SelfService.step Sample.selfServiceLibs Sample.selfServiceBase64 id) {}
            Sample.restrictRun).performed, p.ParametersSigned := by
  refine ⟨⟨fun _ _ sig h => ⟨sig, h⟩, Sample.selfServiceLibs_printsNumbers,
    Sample.newline_notMem_selfServiceTexts, Sample.restrictRun_injOn⟩, fun h => ?_⟩
  have hperformed : ((Run.after
      (SelfService.step Sample.selfServiceLibs Sample.selfServiceBase64 id) {}
      Sample.restrictRun).performed.any fun p =>
        p.call.selfServiceRoute == some (.dsr .restrict) && p.attempt.request.trackingId.isNone)
      = true := by decide +kernel
  obtain ⟨p, hp, hseen⟩ := List.any_eq_true.mp hperformed
  rw [Bool.and_eq_true, beq_iff_eq, Option.isNone_iff_eq_none] at hseen
  exact SelfServiceEffect.not_parametersSigned hseen.1 hseen.2 (h p hp)
