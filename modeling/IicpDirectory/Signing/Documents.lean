import IicpDirectory.Evidence
import IicpDirectory.Texts

/-!
# Everything the directory's key signs, and who verifies it

Beside its events and the evidence of its deployment and conformance, the
directory signs short-lived tokens, membership assertions of restricted
domains and the descriptor of a local directory – all with one key. Here
are the bytes each of them signs (`Document.message`) and the verifiers of
them that are part of this repository: the replica's, that of consumer
tokens, that of membership envelopes and that of deployment records.

Tokens, assertions, records and descriptors are signed as text that starts
with a domain of their kind (`Kind.domain`). Events and attestations are
signed as the SHA-256 digest of a text (`Document.digested`), and the digest
is all that is signed.
-/

open Federation DirectoryEvidence

/-- The libraries of the evidence, and the reading of JSON. -/
structure SigningLibs extends EvidenceLibs where
  /-- `serde_json::from_slice`. -/
  fromSlice : Bytes → Option Json

/-- **What the sizes of the formats are**: Base64 writes three bytes in four
characters, JSON writes each of its texts between quotation marks, a date is
short. -/
structure SigningLibs.Lawful (S : SigningLibs) : Prop extends
    evidence : S.toEvidenceLibs.Lawful where
  base64UrlDecode_length : ∀ {text bytes}, S.base64UrlDecode text = some bytes →
    4 * bytes.length ≤ 3 * text.toList.length
  fromSlice_texts : ∀ {bytes v s}, S.fromSlice bytes = some v → v.HasText s →
    s.toList.length + 2 ≤ bytes.length
  jcs_texts : ∀ {v bytes s}, S.jcs v = some bytes → v.HasText s →
    s.toList.length + 2 ≤ bytes.length
  toRfc3339_length : ∀ ns, (S.toRfc3339 ns).toList.length ≤ 40

/-- A text up to the first of a symbol, and behind it. -/
def splitOnce (c : Char) (s : String) : Option (String × String) :=
  if c ∈ s.toList then
    some (String.ofList (s.toList.takeWhile (· != c)),
      String.ofList (s.toList.dropWhile (· != c)).tail)
  else none

/-! ## Tokens -/

namespace TokenIssuance

/-- What a consumer token is signed under. -/
def consumerTokenDomain : String := "iicp:consumer-token:v1\n"

/-- The claims of `POST /v1/consumer-token`. -/
def consumerTokenClaims (callerNodeId targetNodeId intent : String) (now : ℤ) : Json :=
  .object
    [("v", .number (.posInt 1)), ("iss", .string "https://iicp.network"),
     ("sub", .string callerNodeId), ("aud", .string targetNodeId), ("intent", .string intent),
     ("iat", Json.ofInt now), ("exp", Json.ofInt (now + 300))]

/-- What a relay's ticket is signed under. -/
def relayTicketDomain : String := "iicp:relay-bind-ticket:v1\n"

/-- The claims of `POST /v1/relay/ticket`. -/
def relayTicketClaims (workerNodeId relayNodeId : String) (now : ℤ) : Json :=
  .object
    [("v", .number (.posInt 1)), ("typ", .string "relay-bind-ticket"),
     ("iss", .string "https://iicp.network"), ("sub", .string workerNodeId),
     ("aud", .string relayNodeId), ("iat", Json.ofInt now), ("exp", Json.ofInt (now + 120))]

end TokenIssuance

namespace Discovery

/-- `DISPATCH_TICKET_DOMAIN`. -/
def dispatchTicketDomain : String := "iicp:dispatch-route-ticket:v1\n"

/-- `DISPATCH_TICKET_AUDIENCE`. -/
def dispatchTicketAudience : String := "iicp.directory.dispatch"

/-- The claims of a dispatch ticket. -/
def dispatchTicketClaims (ticketId nodeId intent : String) (now : ℤ) : Json :=
  .object
    [("v", .number (.posInt 1)), ("typ", .string "dispatch-route-ticket"),
     ("iss", .string "https://iicp.network"), ("aud", .string dispatchTicketAudience),
     ("jti", .string ticketId), ("node_id", .string nodeId), ("intent", .string intent),
     ("iat", Json.ofInt now), ("exp", Json.ofInt (now + 120))]

end Discovery

namespace PolicyDetailDisclosure

variable (S : SigningLibs)

/-- The refusal of a consumer token. -/
def invalid : Json := .object [("status", .string "invalid")]

/-- The claims are those of a token for a target and an intent. -/
def claimsFit (claims : Json) (target intent : String) : Bool :=
  (claims.get "v").bind Json.asI64 == some 1 && claims.getStr "aud" == some target
    && claims.getStr "intent" == some intent && (claims.getStr "sub").isSome

/-- **Verification of a consumer token**: the signature first, the claims
behind it. -/
def verifyConsumerToken (token publicKeyHex target intent : String) (now : ℤ) : Json :=
  match splitOnce '.' token with
  | none => invalid
  | some (payload, signatureHex) =>
    if signatureHex.utf8ByteSize ≠ 128 then invalid
    else
      match Hex.decode publicKeyHex, Hex.decode signatureHex with
      | some key, some signature =>
        if DeploymentProvenance.verifyDetached S.toEvidenceLibs key
            (tokenMessage TokenIssuance.consumerTokenDomain payload) signature then
          match (S.base64UrlDecode payload).bind S.fromSlice with
          | none => invalid
          | some claims =>
            if claimsFit claims target intent then
              if ((claims.get "exp").bind Json.asI64).all (fun exp => exp ≤ now) then
                .object [("status", .string "expired"), ("claims", claims)]
              else .object [("status", .string "valid"), ("claims", claims)]
            else invalid
        else invalid
      | _, _ => invalid

end PolicyDetailDisclosure

/-! ## Membership of a restricted domain -/

namespace RestrictedDomainMembership

/-- `MEMBERSHIP_DOMAIN`. -/
def membershipDomain : String := "IICP-RTD-MEMBERSHIP-V0\n"

/-- Who a membership is of. -/
structure MembershipSubject where
  kind : String
  id : String
  keyId : String
  publicKeyEd25519 : String
  deriving DecidableEq

/-- Who asserts it. -/
structure MembershipIssuer where
  id : String
  keyId : String
  deriving DecidableEq

/-- **A membership assertion.** -/
structure MembershipAssertion where
  schema : String
  profile : String
  assertionId : String
  domainId : String
  subject : MembershipSubject
  issuer : MembershipIssuer
  issuedAt : ℤ
  expiresAt : ℤ
  generation : ℕ
  scopes : List String
  audience : List String
  deriving DecidableEq

/-- The signature on an assertion. -/
structure MembershipSignature where
  algorithm : String
  value : String
  deriving DecidableEq

/-- An assertion and its signature. -/
structure MembershipEnvelope where
  assertion : MembershipAssertion
  signature : MembershipSignature
  deriving DecidableEq

/-- What the authority is asked to assert. -/
structure MembershipInput where
  domainId : String
  authorityId : String
  authorityKeyId : String
  subjectKind : String
  subjectId : String
  subjectKeyId : String
  subjectPublicKey : String
  generation : ℕ
  issuedAt : ℤ
  expiresAt : ℤ
  scopes : List String
  deriving DecidableEq

/-- An assertion, as it is written. -/
def MembershipAssertion.toJson (assertion : MembershipAssertion) : Json :=
  .object
    [("schema", .string assertion.schema), ("profile", .string assertion.profile),
     ("assertion_id", .string assertion.assertionId), ("domain_id", .string assertion.domainId),
     ("subject", .object
       [("kind", .string assertion.subject.kind), ("id", .string assertion.subject.id),
        ("key_id", .string assertion.subject.keyId),
        ("public_key_ed25519", .string assertion.subject.publicKeyEd25519)]),
     ("issuer", .object
       [("id", .string assertion.issuer.id), ("key_id", .string assertion.issuer.keyId)]),
     ("issued_at", Json.ofInt assertion.issuedAt), ("expires_at", Json.ofInt assertion.expiresAt),
     ("generation", .number (.posInt assertion.generation)),
     ("scopes", Json.ofStrings assertion.scopes), ("audience", Json.ofStrings assertion.audience)]

/-- The assertion of an input, under an identity of its own. -/
def assertion (input : MembershipInput) (assertionId : String) : MembershipAssertion where
  schema := "iicp.restricted-trust-domain.membership-assertion.v0"
  profile := "urn:iicp:profile:restricted-trust-domain:v1"
  assertionId := assertionId
  domainId := input.domainId
  subject := ⟨input.subjectKind, input.subjectId, input.subjectKeyId, input.subjectPublicKey⟩
  issuer := ⟨input.authorityId, input.authorityKeyId⟩
  issuedAt := input.issuedAt
  expiresAt := input.expiresAt
  generation := input.generation
  scopes := input.scopes
  audience := [input.domainId]

variable (E : EvidenceLibs)

/-- The bytes an assertion signs. -/
def signingInput (assertion : MembershipAssertion) : Option Bytes :=
  (E.jcs assertion.toJson).map (utf8 membershipDomain ++ ·)

/-- The seed a secret key starts with, however long it is behind it. -/
def signingKey (secretKeyHex : String) : Option Bytes :=
  (Hex.decode secretKeyHex).bind
    (fun bytes => if 32 ≤ bytes.length then some (bytes.take 32) else none)

/-- A public key in Base64. -/
def decodePublicKey (value : String) : Option Bytes :=
  (E.base64UrlDecode value).filter (fun raw => raw.length == 32)

/-- **A signed assertion**, or the first thing that is wrong with the input. -/
def sign (input : MembershipInput) (secretKeyHex assertionId : String) :
    Except String MembershipEnvelope :=
  if (decodePublicKey E input.subjectPublicKey).isNone then .error "invalid Ed25519 public key"
  else if input.scopes.isEmpty then
    .error "a peer-verifiable assertion requires at least one peer operation scope"
  else
    match signingKey secretKeyHex with
    | none => .error "invalid directory signing key"
    | some seed =>
      match signingInput E (assertion input assertionId) with
      | none => .error "membership canonicalization failed"
      | some message =>
        .ok ⟨assertion input assertionId, "Ed25519", E.base64UrlEncode (E.sign seed message)⟩

/-- **Verification of an envelope** under the authority's key. -/
def verify (envelope : MembershipEnvelope) (authorityPublicKey : String) : Bool :=
  match decodePublicKey E authorityPublicKey, E.base64UrlDecode envelope.signature.value,
      signingInput E envelope.assertion with
  | some key, some raw, some message => DeploymentProvenance.verifyDetached E key message raw
  | _, _, _ => false

end RestrictedDomainMembership

/-! ## The descriptor of a local directory -/

namespace LocalDirectoryDiscovery

/-- `SIGNATURE_DOMAIN`. -/
def signatureDomain : String := "IICP-LOCAL-DIRECTORY-DESCRIPTOR-V0\n"

/-- The members of a descriptor before it is signed: it holds for five
minutes. -/
def descriptor (did endpoint role : String) (now : ℤ) : List (String × Json) :=
  [("schema", .string "iicp.local-directory-descriptor.v0"),
   ("profile", .string "urn:iicp:profile:local-directory-discovery:v1"),
   ("profile_version", .string "0"), ("directory_id", .string did),
   ("directory_did", .string did), ("role", .string role),
   ("api_endpoints", Json.ofStrings [endpoint]), ("issued_at", Json.ofInt now),
   ("expires_at", Json.ofInt (now + 300)), ("canonicalization", .string "RFC8785")]

variable (E : EvidenceLibs)

/-- The bytes a descriptor signs. -/
def descriptorMessage (members : List (String × Json)) : Option Bytes :=
  (E.jcs (.object members)).map (utf8 signatureDomain ++ ·)

/-- **A signed descriptor**, of a known role at an endpoint of HTTPS. -/
def signedDescriptor (did endpoint role secret : String) (now : ℤ) : Option Json := do
  guard (role = "seed" ∨ role = "replica" ∨ role = "standalone")
  guard ("https://".toList.isPrefixOf endpoint.toList)
  let message ← descriptorMessage E (descriptor did endpoint role now)
  let seed ← RestrictedDomainMembership.signingKey secret
  return .object (descriptor did endpoint role now ++
    [("signature", .object
      [("algorithm", .string "Ed25519"), ("key_id", .string (did ++ "#key-1")),
       ("value", .string (Hex.encode (E.sign seed message)))])])

end LocalDirectoryDiscovery

/-! ## Kinds of documents -/

/-- **What the directory's key signs.** -/
inductive Kind
  | event
  | attestation
  | consumerToken
  | relayTicket
  | dispatchTicket
  | membership
  | deployment
  | descriptor
  deriving DecidableEq

/-- What the signed bytes of a kind start with, where they are a text. -/
def Kind.domain : Kind → Option Bytes
  | .event | .attestation => none
  | .consumerToken => some (utf8 TokenIssuance.consumerTokenDomain)
  | .relayTicket => some (utf8 TokenIssuance.relayTicketDomain)
  | .dispatchTicket => some (utf8 Discovery.dispatchTicketDomain)
  | .membership => some (utf8 RestrictedDomainMembership.membershipDomain)
  | .deployment => some DeploymentProvenance.domain
  | .descriptor => some (utf8 LocalDirectoryDiscovery.signatureDomain)

/-- **An identity as the directory mints them**: thirty-six hexadecimal digits
and hyphens. -/
structure Uuid where
  text : String
  length : text.toList.length = 36
  chars : ∀ c ∈ text.toList, (Hex.value c).isSome = true ∨ c = '-'

/-- **A document of the directory**, with what its content depends on. -/
inductive Document
  | event (eventId : Uuid) (eventType : String) (seq tsMs : ℤ) (payload : Json) (prevHash : String)
  | attestation (run : ConformanceRun) (publicUrl : Option String) (nowNs : ℤ)
  | consumerToken (callerNodeId targetNodeId intent : String) (now : ℤ)
  | relayTicket (workerNodeId relayNodeId : String) (now : ℤ)
  | dispatchTicket (ticketId nodeId intent : String) (now : ℤ)
  | membership (input : RestrictedDomainMembership.MembershipInput) (assertionId : String)
  | deployment (config : DeploymentProvenance.DeploymentConfig)
  | descriptor (did endpoint role : String) (now : ℤ)

namespace Document

/-- The kind of a document. -/
def kind : Document → Kind
  | .event .. => .event
  | .attestation .. => .attestation
  | .consumerToken .. => .consumerToken
  | .relayTicket .. => .relayTicket
  | .dispatchTicket .. => .dispatchTicket
  | .membership .. => .membership
  | .deployment .. => .deployment
  | .descriptor .. => .descriptor

variable (E : EvidenceLibs)

/-- The text a document is signed as the digest of. -/
def digested : Document → Option String
  | .event eventId eventType seq tsMs payload prevHash =>
    some (eventId.text ++ ":" ++ eventType ++ ":" ++ toString seq ++ ":" ++ toString tsMs
      ++ ":" ++ payloadHash E.toLibs payload ++ ":" ++ prevHash)
  | .attestation run publicUrl nowNs =>
    some (canonicalJson E.toLibs (.object (attestationEntries E run publicUrl nowNs)))
  | _ => none

/-- **The bytes a document signs.** -/
def message : Document → Option Bytes
  | .event eventId eventType seq tsMs payload prevHash =>
    some (eventMessage E.toLibs eventId.text eventType seq tsMs payload prevHash)
  | .attestation run publicUrl nowNs =>
    some (attestationMessage E (.object (attestationEntries E run publicUrl nowNs)))
  | .consumerToken callerNodeId targetNodeId intent now =>
    some (tokenMessage TokenIssuance.consumerTokenDomain
      (b64urlJson E (TokenIssuance.consumerTokenClaims callerNodeId targetNodeId intent now)))
  | .relayTicket workerNodeId relayNodeId now =>
    some (tokenMessage TokenIssuance.relayTicketDomain
      (b64urlJson E (TokenIssuance.relayTicketClaims workerNodeId relayNodeId now)))
  | .dispatchTicket ticketId nodeId intent now =>
    some (tokenMessage Discovery.dispatchTicketDomain
      (b64urlJson E (Discovery.dispatchTicketClaims ticketId nodeId intent now)))
  | .membership input assertionId =>
    RestrictedDomainMembership.signingInput E
      (RestrictedDomainMembership.assertion input assertionId)
  | .deployment config => DeploymentProvenance.recordMessage E (.object config.unsignedRecord)
  | .descriptor did endpoint role now =>
    LocalDirectoryDiscovery.descriptorMessage E
      (LocalDirectoryDiscovery.descriptor did endpoint role now)

end Document
