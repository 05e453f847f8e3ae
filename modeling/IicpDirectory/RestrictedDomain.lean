import IicpDirectory.Foundations.Table
import IicpDirectory.Foundations.Transaction
import IicpDirectory.Operators
import IicpDirectory.Relations
import IicpDirectory.Repo
import IicpDirectory.Signing.Documents

/-!
# The members of a restricted domain

A directory in restricted mode lets in who is a member of its domain. A
membership is one row of a subject: the hash of the token it was given, the
scopes of it, a generation and an end. It is issued again over the row that
is there, and revoked in it; an envelope, which the directory signs for the
peers of the subject, is written into the row by a second statement.

The row is found by the collation of the database. Who presents a token is
compared byte by byte.

A database without the column of the envelope is a server that fails the
statements that name it.
-/

namespace RestrictedDomain

open RestrictedDomainMembership

/-! ## The service -/

/-- `ALLOWED_SCOPES`. -/
def allowedScopes : List String :=
  ["*", "registration", "discovery", "bootstrap", "heartbeat", "peers", "consumer_token",
    "dispatch", "relay"]

/-- `is_peer_scope`. -/
def isPeerScope (scope : String) : Bool :=
  ["bootstrap", "peers", "relay", "execution", "cip", "federation"].contains scope

/-- `RestrictedDomainConfig`. -/
structure RestrictedDomainConfig where
  enabled : Bool
  domainId : String
  authorityId : String
  authorityKeyId : String
  membershipEpoch : ℕ
  maxCredentialTtlSeconds : ℕ

/-- A text is blank. -/
def isBlank (text : String) : Bool := (trimChars text.toList).isEmpty

/-- `RestrictedDomainConfig::validate`. -/
def RestrictedDomainConfig.validate (config : RestrictedDomainConfig) (replicaMode : Bool) :
    Except String Unit :=
  if !config.enabled then .ok ()
  else if isBlank config.domainId || isBlank config.authorityId
      || decide (config.membershipEpoch < 1) || decide (config.maxCredentialTtlSeconds < 60) then
    .error "restricted trust-domain mode requires domain ID, authority ID, positive membership epoch and credential TTL of at least 60 seconds"
  else if replicaMode then
    .error "restricted trust-domain federation is not implemented; replica mode cannot be combined with restricted-domain mode"
  else .ok ()

/-- **`RestrictedDomainService`**: the configuration, and whether there is a
pool of connections, as there is where the mode is on. -/
structure RestrictedDomainService extends RestrictedDomainConfig where
  pool : Bool
  persisted : enabled = true → pool = true

/-- The service as a process has it that was started with another epoch. -/
def RestrictedDomainService.atEpoch (D : RestrictedDomainService) (epoch : ℕ) :
    RestrictedDomainService :=
  { D with membershipEpoch := epoch }

/-! ## The rows -/

/-- A row of `trust_domain_memberships`. -/
structure MembershipRow where
  domainId : String
  issuerId : String
  subjectKind : String
  subjectId : String
  tokenHash : String
  scopes : List String
  generation : ℕ
  expiresAt : ℤ
  revokedAt : Option ℤ := none
  membershipEnvelope : Option MembershipEnvelope := none

/-- `trust_domain_membership_subject_unique`, as the collation has it. -/
def subjectKey (fold : String → String) (domainId kind subject : String) :
    String × String × String :=
  (fold domainId, fold kind, fold subject)

namespace MembershipRow

/-- The key of a row. -/
def key (fold : String → String) (r : MembershipRow) : String × String × String :=
  subjectKey fold r.domainId r.subjectKind r.subjectId

/-- The columns take a row: the last time they know is in 2038. -/
def fits (r : MembershipRow) : Bool :=
  Column.takesText 191 r.domainId && Column.takesText 191 r.issuerId
    && Column.takesText 16 r.subjectKind && Column.takesText 191 r.subjectId
    && decide (r.generation < 2 ^ 64) && decide (r.expiresAt ≤ 2147483647)

/-- The row as the columns keep it. -/
def kept (r : MembershipRow) : MembershipRow :=
  { r with
    domainId := Column.cutText 191 r.domainId
    issuerId := Column.cutText 191 r.issuerId
    subjectKind := Column.cutText 16 r.subjectKind
    subjectId := Column.cutText 191 r.subjectId }

/-- `ON DUPLICATE KEY UPDATE`: what a new row leaves of an old one. -/
def supersede (new old : MembershipRow) : MembershipRow :=
  { old with
    issuerId := new.issuerId
    tokenHash := new.tokenHash
    scopes := new.scopes
    generation := new.generation
    expiresAt := new.expiresAt
    revokedAt := none }

/-- A row, revoked if it is not. -/
def revoke (nowS : ℤ) (r : MembershipRow) : MembershipRow :=
  { r with revokedAt := some (r.revokedAt.getD nowS) }

/-- A row with an envelope, if it still is of that generation. -/
def attach (generation : ℕ) (envelope : MembershipEnvelope) (r : MembershipRow) : MembershipRow :=
  if r.generation = generation then { r with membershipEnvelope := some envelope } else r

/-- **The membership is current**: of the domain, not revoked, not expired, of
the epoch or later. -/
def current (fold : String → String) (D : RestrictedDomainService) (nowS : ℤ) (r : MembershipRow) :
    Bool :=
  fold r.domainId == fold D.domainId && r.revokedAt.isNone && decide (nowS < r.expiresAt)
    && decide (D.membershipEpoch ≤ r.generation)

end MembershipRow

/-- **The memberships**, under a collation. -/
abbrev Memberships (fold : String → String) := Table (MembershipRow.key fold)

namespace Memberships

variable {fold : String → String}

/-- The row of a subject. -/
def row (t : Memberships fold) (domainId kind subject : String) : Option MembershipRow :=
  t.find (subjectKey fold domainId kind subject)

/-- Another row that has the hash of a row. -/
def sameToken (t : Memberships fold) (row : MembershipRow) : Option MembershipRow :=
  t.rows.find? fun r =>
    fold r.tokenHash == fold row.tokenHash && decide (r.key fold ≠ row.key fold)

/-- `INSERT … ON DUPLICATE KEY UPDATE`: the row of the subject is written, or
made; the hash of a token is unique. -/
def record (t : Memberships fold) (row : MembershipRow) : Option (Memberships fold) :=
  if row.fits then
    match t.sameToken row.kept with
    | none => some (t.upsert row.kept row.kept.supersede fun _ => rfl)
    | some other =>
      if (t.find (row.kept.key fold)).isSome then none
      else some (t.update (other.key fold) row.kept.supersede fun _ => rfl)
  else none

/-- `UPDATE … SET revoked_at = NOW()`: whether one row was revoked. -/
def revoke (t : Memberships fold) (domainId kind subject : String) (nowS : ℤ) :
    Bool × Memberships fold :=
  ((t.row domainId kind subject).any fun r => r.revokedAt.isNone,
    t.update (subjectKey fold domainId kind subject) (MembershipRow.revoke nowS) fun _ => rfl)

/-- `UPDATE … SET membership_envelope = ?`. -/
def attach (t : Memberships fold) (domainId kind subject : String) (generation : ℕ)
    (envelope : MembershipEnvelope) : Memberships fold :=
  t.update (subjectKey fold domainId kind subject) (MembershipRow.attach generation envelope)
    fun r => by
      unfold MembershipRow.attach
      split <;> rfl

end Memberships

/-! ## Who is let in -/

/-- `AuthorizedMembership`. -/
structure AuthorizedMembership where
  subjectKind : String
  generation : ℕ
  expiresAt : ℤ
  deriving DecidableEq

/-- A list of scopes has an operation. -/
def covers (scopes : List String) (operation : String) : Bool :=
  scopes.any fun s => s == "*" || s == operation

variable (E : EvidenceLibs) {fold : String → String}

/-- The hash of a token. -/
def digest (token : String) : String := Hex.encode (E.sha256 token)

/-- **`authorize`**: the row the token has, if it is current, is of that very
subject and has the operation among its scopes. -/
def authorize (D : RestrictedDomainService) (nowS : ℤ) (t : Memberships fold)
    (token subjectId operation : String) : Option AuthorizedMembership :=
  if !D.enabled || token.isEmpty || subjectId.isEmpty || !D.pool then none
  else
    (t.rows.find? fun r =>
      fold r.tokenHash == fold (digest E token) && r.current fold D nowS).bind fun r =>
        if r.subjectId = subjectId ∧ covers r.scopes operation then
          some ⟨r.subjectKind, r.generation, r.expiresAt⟩
        else none

/-- Who is let in has a current row, which the token, the subject and the
operation fit. -/
theorem row_of_authorize {D : RestrictedDomainService} {nowS : ℤ} {t : Memberships fold}
    {token subjectId operation : String} {m : AuthorizedMembership}
    (h : authorize E D nowS t token subjectId operation = some m) :
    ∃ r ∈ t.rows, fold r.tokenHash = fold (digest E token) ∧ r.current fold D nowS = true
      ∧ r.subjectId = subjectId ∧ covers r.scopes operation = true
      ∧ m = ⟨r.subjectKind, r.generation, r.expiresAt⟩ := by
  unfold authorize at h
  split at h
  · exact absurd h (by simp)
  obtain ⟨r, hfind, hr⟩ := Option.bind_eq_some_iff.mp h
  have hfound := List.find?_some hfind
  rw [Bool.and_eq_true, beq_iff_eq] at hfound
  split at hr
  · next hfits =>
    exact ⟨r, List.mem_of_find?_eq_some hfind, hfound.1, hfound.2, hfits.1, hfits.2,
      (Option.some.inj hr).symm⟩
  · exact absurd hr (by simp)

/-- **A row that alone has the hash of the token lets in.** -/
theorem authorize_of_row {D : RestrictedDomainService} {nowS : ℤ} {t : Memberships fold}
    {token operation : String} {r : MembershipRow} (hD : D.enabled = true) (htoken : token ≠ "")
    (hsubject : r.subjectId ≠ "") (hr : r ∈ t.rows)
    (hhash : fold r.tokenHash = fold (digest E token))
    (hunique : ∀ r' ∈ t.rows, fold r'.tokenHash = fold (digest E token) → r' = r)
    (hcurrent : r.current fold D nowS = true) (hcovers : covers r.scopes operation = true) :
    authorize E D nowS t token r.subjectId operation
      = some ⟨r.subjectKind, r.generation, r.expiresAt⟩ := by
  have hp : (fold r.tokenHash == fold (digest E token) && r.current fold D nowS) = true := by
    rw [hhash, hcurrent, Bool.and_true]
    exact beq_self_eq_true _
  have hfind : (t.rows.find? fun r =>
      fold r.tokenHash == fold (digest E token) && r.current fold D nowS) = some r := by
    cases hfound : t.rows.find? fun r =>
        fold r.tokenHash == fold (digest E token) && r.current fold D nowS with
    | none => exact absurd hp (List.find?_eq_none.mp hfound r hr)
    | some found =>
      have hfits := List.find?_some hfound
      rw [Bool.and_eq_true, beq_iff_eq] at hfits
      rw [hunique found (List.mem_of_find?_eq_some hfound) hfits.1]
  have hnotEmpty : ∀ {text : String}, text ≠ "" → text.isEmpty = false := by
    intro text hne
    exact Bool.eq_false_iff.mpr fun he => hne (String.isEmpty_iff.mp he)
  unfold authorize
  rw [hD, D.persisted hD, hnotEmpty htoken, hnotEmpty hsubject]
  show ((t.rows.find? _).bind _) = _
  rw [hfind]
  exact if_pos ⟨rfl, hcovers⟩

/-- **`current_node_members`**: which of these nodes are members. -/
def currentNodeMembers (D : RestrictedDomainService) (nowS : ℤ) (t : Memberships fold)
    (nodeIds : List String) : List String :=
  if !D.enabled || nodeIds.isEmpty || !D.pool then []
  else
    ((t.rows.filter fun r => fold r.subjectKind == fold "node" && r.current fold D nowS).map
      MembershipRow.subjectId).filter nodeIds.contains

/-- The envelope is shown to peers, and is of that subject. -/
def shows (subject : String) (envelope : MembershipEnvelope) : Bool :=
  envelope.assertion.scopes.any (fun scope => scope == "bootstrap" || scope == "peers")
    && envelope.assertion.subject.id == subject

/-- What a row of a node gives to a bootstrap. -/
def served (nodeIds : List String) (r : MembershipRow) : Option (String × MembershipEnvelope) :=
  if nodeIds.contains r.subjectId then
    (r.membershipEnvelope.filter (shows r.subjectId)).map fun envelope => (r.subjectId, envelope)
  else none

/-- **`bootstrap_memberships`**: the envelopes of the members among these
nodes. -/
def bootstrapMemberships (D : RestrictedDomainService) (nowS : ℤ) (t : Memberships fold)
    (nodeIds : List String) : List (String × MembershipEnvelope) :=
  if !D.enabled || nodeIds.isEmpty || !D.pool then []
  else
    (t.rows.filter fun r => fold r.subjectKind == fold "node" && r.current fold D nowS).filterMap
      (served nodeIds)

/-! ## What is issued -/

/-- What one call draws and is told: its token, the identity of its
assertion, the time of the process and the time of the database. -/
structure MembershipDraw where
  uuids : String
  assertionId : String
  issuedAt : ℤ
  nowS : ℤ

/-- The token of a call. -/
def MembershipDraw.token (draw : MembershipDraw) : String := "iicp_mem_" ++ draw.uuids

/-- What is asked for a subject. -/
structure MembershipRequest where
  kind : String
  subject : String
  scopes : List String
  ttl : ℕ

/-- `AssertionKeys`. -/
structure AssertionKeys where
  subjectKeyId : String
  subjectPublicKey : String
  signingKey : String

/-- `IssuedMembership`. -/
structure IssuedMembership where
  token : String
  generation : ℕ
  issuedAt : ℤ
  expiresAt : ℤ
  peerScopes : List String

/-- The scopes of a request that are known, each once. -/
def normalized (scopes : List String) : List String :=
  InMemoryRepo.sortDedup (scopes.filter allowedScopes.contains)

/-- How long a membership lasts. -/
def RestrictedDomainService.clampTtl (D : RestrictedDomainService) (ttl : ℕ) : ℕ :=
  max 60 (min ttl D.maxCredentialTtlSeconds)

/-- The generation behind that of the row, on 64 bits, or the epoch. -/
def RestrictedDomainService.nextGeneration (D : RestrictedDomainService)
    (existing : Option MembershipRow) : ℕ :=
  existing.elim D.membershipEpoch fun r => max ((r.generation + 1) % 2 ^ 64) D.membershipEpoch

section Issuing

variable (D : RestrictedDomainService)

/-- What is wrong with a request, before the database is asked. -/
def checkRequest (q : MembershipRequest) : Except String Unit :=
  if !D.enabled then .error "restricted trust-domain mode is not enabled"
  else if !(["node", "client"].contains q.kind) || isBlank q.subject then
    .error "subject kind must be node or client and subject ID must be non-empty"
  else if (normalized q.scopes).isEmpty then
    .error "at least one valid membership scope is required"
  else if !D.pool then .error "membership persistence unavailable"
  else .ok ()

/-- The row a request writes. -/
def grantedRow (q : MembershipRequest) (draw : MembershipDraw) (t : Memberships fold) :
    MembershipRow where
  domainId := D.domainId
  issuerId := D.authorityId
  subjectKind := q.kind
  subjectId := q.subject
  tokenHash := digest E draw.token
  scopes := normalized q.scopes
  generation := D.nextGeneration (t.row D.domainId q.kind q.subject)
  expiresAt := draw.nowS + D.clampTtl q.ttl

/-- The transaction of a request: the generation is read, the row written. -/
def recordStatements (q : MembershipRequest) (draw : MembershipDraw) :
    List (Memberships fold → Option (Memberships fold)) :=
  [some, fun t => t.record (grantedRow E D q draw t)]

/-- What a call has of the row it wrote. -/
def issuedMembership (q : MembershipRequest) (draw : MembershipDraw) (t : Memberships fold) :
    IssuedMembership where
  token := draw.token
  generation := D.nextGeneration (t.row D.domainId q.kind q.subject)
  issuedAt := draw.issuedAt
  expiresAt := draw.issuedAt + D.clampTtl q.ttl
  peerScopes := (normalized q.scopes).filter isPeerScope

/-- **`issue_record`.** -/
def issueRecord (server : Server) (q : MembershipRequest) (draw : MembershipDraw)
    (t : Memberships fold) : Except String IssuedMembership × Memberships fold :=
  match checkRequest D q with
  | .error e => (.error e, t)
  | .ok () =>
    let r := Transaction.run server (recordStatements E D q draw) t
    (if r.1 then .ok (issuedMembership D q draw t) else .error "membership persistence failed", r.2)

/-- The key the directory signs under, by name. -/
def RestrictedDomainService.keyId : String :=
  if isBlank D.authorityKeyId then D.authorityId ++ "#key-1" else D.authorityKeyId

/-- What the assertion of a membership says. -/
def membershipInput (q : MembershipRequest) (keys : AssertionKeys) (record : IssuedMembership) :
    MembershipInput where
  domainId := D.domainId
  authorityId := D.authorityId
  authorityKeyId := D.keyId
  subjectKind := q.kind
  subjectId := q.subject
  subjectKeyId := keys.subjectKeyId
  subjectPublicKey := keys.subjectPublicKey
  generation := record.generation
  issuedAt := record.issuedAt
  expiresAt := record.expiresAt
  scopes := record.peerScopes

end Issuing

end RestrictedDomain

namespace RestrictedDomainMembership

variable (E : EvidenceLibs)

/-- **`validate_signing_inputs`**: the seed to sign with, or the first thing
that is wrong. -/
def validateSigningInputs (subjectPublicKey secretKeyHex : String) (scopes : List String) :
    Except String Bytes :=
  if (decodePublicKey E subjectPublicKey).isNone then .error "invalid Ed25519 public key"
  else if scopes.isEmpty then
    .error "a peer-verifiable assertion requires at least one peer operation scope"
  else (signingKey secretKeyHex).elim (.error "invalid directory signing key") .ok

/-- A signature first validates its inputs. -/
theorem sign_eq (input : MembershipInput) (secretKeyHex assertionId : String) :
    sign E input secretKeyHex assertionId
      = (validateSigningInputs E input.subjectPublicKey secretKeyHex input.scopes).bind fun seed =>
          (signingInput E (assertion input assertionId)).elim
            (.error "membership canonicalization failed") fun message =>
              .ok ⟨assertion input assertionId, "Ed25519", E.base64UrlEncode (E.sign seed message)⟩ := by
  unfold sign validateSigningInputs
  split
  · rfl
  · split
    · rfl
    · cases signingKey secretKeyHex with
      | none => rfl
      | some seed =>
        cases signingInput E (assertion input assertionId) with
        | none => rfl
        | some message => rfl

end RestrictedDomainMembership

namespace RestrictedDomain

open RestrictedDomainMembership

section Issuing

variable (E : EvidenceLibs) {fold : String → String} (D : RestrictedDomainService)

/-- **`issue_with_assertion`, up to its last statement**: the keys are checked
against the scopes that were asked for, the row is written, and the scopes
that were granted are signed. -/
def issueSigned (server : Server) (q : MembershipRequest) (keys : AssertionKeys)
    (draw : MembershipDraw) (t : Memberships fold) :
    Except String (IssuedMembership × MembershipEnvelope) × Memberships fold :=
  if isBlank keys.subjectKeyId then (.error "subject key identifier is required", t)
  else
    match validateSigningInputs E keys.subjectPublicKey keys.signingKey
        (q.scopes.filter isPeerScope) with
    | .error e => (.error e, t)
    | .ok _ =>
      let r := issueRecord E D server q draw t
      (r.1.bind fun record =>
        (sign E (membershipInput D q keys record) keys.signingKey draw.assertionId).map
          fun envelope => (record, envelope), r.2)

/-- The last statement of it: the envelope is written into the row. -/
def attachEnvelope (server : Server) (q : MembershipRequest) (record : IssuedMembership)
    (envelope : MembershipEnvelope) (t : Memberships fold) :
    Except String (String × MembershipEnvelope) × Memberships fold :=
  let r := Transaction.single server
    (fun t => some (true, t.attach D.domainId q.kind q.subject record.generation envelope)) t
  (if r.1 then .ok (record.token, envelope) else .error "membership assertion persistence failed",
    r.2)

/-- **`issue`.** -/
def issue (server : Server) (q : MembershipRequest) (draw : MembershipDraw) (t : Memberships fold) :
    Except String String × Memberships fold :=
  let r := issueRecord E D server q draw t
  (r.1.map IssuedMembership.token, r.2)

/-- **`issue_with_assertion`.** -/
def issueWithAssertion (server server' : Server) (q : MembershipRequest) (keys : AssertionKeys)
    (draw : MembershipDraw) (t : Memberships fold) :
    Except String (String × MembershipEnvelope) × Memberships fold :=
  match issueSigned E D server q keys draw t with
  | (.error e, t') => (.error e, t')
  | (.ok (record, envelope), t') => attachEnvelope D server' q record envelope t'

/-- **`revoke`**, of whatever kind is named. -/
def revoke (server : Server) (kind subject : String) (nowS : ℤ) (t : Memberships fold) :
    Except String Bool × Memberships fold :=
  if !D.pool then (.error "membership persistence unavailable", t)
  else
    let r := Transaction.single server
      (fun t => some (true, (t.revoke D.domainId kind subject nowS).2)) t
    (if r.1 then .ok (t.revoke D.domainId kind subject nowS).1
      else .error "membership persistence failed", r.2)

end Issuing

end RestrictedDomain
