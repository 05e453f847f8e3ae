import IicpDirectory.Replica.Sync

/-!
# The directory's key and the evidence it signs

A directory that has a signing key publishes the public half in its DID
document and signs with it: its events, tokens, attestations of its
conformance and records of its deployment. The configured text is that of
a libsodium secret key, thirty-two bytes of seed and thirty-two bytes of
public key. Whoever signs derives the key pair from the first half,
whoever publishes copies the second, and the configuration checks that
there are sixty-four bytes.

So what is published verifies what is signed exactly when the second half
is the public key of the first (`publishedKeyVerifies_iff`). That a key of
another seed verifies nothing of this one is a property of Ed25519
(`EvidenceLibs.Exclusive`).
-/

open Federation

/-- The UTF-8 bytes of a text. -/
def utf8 (s : String) : Bytes := s.toByteArray.data.toList

/-- A text is determined by its bytes. -/
theorem utf8_injective : Function.Injective utf8 := fun _ _ h =>
  String.toByteArray_inj.mp (ByteArray.ext (Array.toList_inj.mp h))

theorem utf8_append (s t : String) : utf8 (s ++ t) = utf8 s ++ utf8 t := by
  unfold utf8
  rw [String.toByteArray_append]
  simp

/-- A character is one byte at least. -/
theorem length_le_length_utf8 (s : String) : s.toList.length ≤ (utf8 s).length := by
  have hchars : ∀ cs : List Char, cs.length ≤ (String.ofList cs).utf8ByteSize := by
    intro cs
    induction cs with
    | nil => exact Nat.zero_le _
    | cons c cs ih =>
      rw [String.ofList_cons, String.utf8ByteSize_append, String.utf8ByteSize_singleton,
        List.length_cons]
      have hpos := c.utf8Size_pos
      omega
  have hlength := hchars s.toList
  rw [String.ofList_toList] at hlength
  exact hlength

/-- The libraries the evidence takes beside those of the event log. -/
structure EvidenceLibs extends Libs where
  /-- URL-safe Base64 without padding. -/
  base64UrlEncode : Bytes → String
  /-- `serde_jcs::to_vec`: the canonical form of RFC 8785. -/
  jcs : Json → Option Bytes
  /-- A time, in nanoseconds, as an RFC 3339 date. -/
  toRfc3339 : ℤ → String

/-- What the directory relies on: Base64 is undone by its decoder. -/
structure EvidenceLibs.Lawful (E : EvidenceLibs) : Prop extends E.toLibs.Lawful where
  base64UrlDecode_encode : ∀ bytes, E.base64UrlDecode (E.base64UrlEncode bytes) = some bytes

/-- **Exclusive ownership**: the one public key under which a signature
verifies is that of the seed it was made with. -/
def EvidenceLibs.Exclusive (E : EvidenceLibs) : Prop :=
  ∀ seed msg pk, pk.length = 32 → E.verify pk msg (E.sign seed msg) = true →
    pk = E.publicKey seed

/-- **A signature that is not forged**: under the key it verifies for what was
signed with it, and for nothing else. -/
def Libs.VerifiesOnly (L : Libs) (key detached : Bytes) (messages : Set Bytes) : Prop :=
  ∀ message, L.verify key message detached = true → message ∈ messages

/-! ## The configured key -/

namespace Config

/-- `APP_ENV`. -/
inductive Env
  | production
  | staging
  | local
  | testing
  deriving DecidableEq

/-- The refusal of a production start without a key. -/
def signingKeyRequired : String :=
  "IICP_GENESIS_ED25519_SECRET_KEY must be a valid 128-hex Ed25519 secret in production"

/-- **The signing key the configuration accepts**: 128 hexadecimal digits,
whatever they spell. Another text counts as none. -/
def signingKeyFromValue (env : Env) (value : Option String) : Except String (Option String) :=
  let key := value.filter (fun key => key.utf8ByteSize == 128 && (Hex.decode key).isSome)
  if env = .production ∧ key = none then .error signingKeyRequired else .ok key

end Config

/-! ## The published key -/

/-- What the handlers here read of the application's state. -/
structure DirectoryState where
  signingKey : Option String
  directoryDid : String
  directoryServiceEndpoint : String
  deriving DecidableEq

namespace DirectoryEvidence

variable (E : EvidenceLibs)

/-- The sixty-four bytes of a secret key. -/
def secretKeyBytes (secretKeyHex : String) : Option Bytes :=
  (Hex.decode secretKeyHex).filter (fun sk => sk.length == 64)

/-- The key of a DID document: the *second* half of the secret key. -/
def seedPubkeyJwk (secretKeyHex : String) : Option Json :=
  (secretKeyBytes secretKeyHex).map (fun sk => .object
    [("kty", .string "OKP"), ("crv", .string "Ed25519"),
     ("x", .string (E.base64UrlEncode (sk.drop 32)))])

/-- The key of `GET /v1/directory-key`. -/
def directoryPublicKeyHex (secretKeyHex : String) : Option String :=
  (secretKeyBytes secretKeyHex).map (fun sk => Hex.encode (sk.drop 32))

/-- The verification method under which a key is published. -/
def verificationMethod (directoryDid : String) (jwk : Json) : Json :=
  .object
    [("id", .string (directoryDid ++ "#key-1")), ("type", .string "JsonWebKey2020"),
     ("controller", .string directoryDid), ("publicKeyJwk", jwk)]

/-- **`GET /.well-known/did.json`.** -/
def didDocument (st : DirectoryState) : Json :=
  .object
    [("@context", Json.ofStrings ["https://www.w3.org/ns/did/v1"]),
     ("id", .string st.directoryDid), ("controller", .string st.directoryDid),
     ("verificationMethod",
       .array (((st.signingKey.bind (seedPubkeyJwk E)).map
         (verificationMethod st.directoryDid)).toList)),
     ("service", .array
       [.object
         [("id", .string (st.directoryDid ++ "#iicp-directory")),
          ("type", .string "IICPDirectory"),
          ("serviceEndpoint", .string st.directoryServiceEndpoint)]])]

/-! ## What is signed -/

/-- A signature with the *first* half of the secret key. -/
def ed25519SignHex (secretKeyHex : String) (message : Bytes) : Option String :=
  (seedOf secretKeyHex).map (fun seed => Hex.encode (E.sign seed message))

/-- The text a token carries its claims in. -/
def b64urlJson (payload : Json) : String :=
  E.base64UrlEncode (utf8 (canonicalJson E.toLibs payload))

/-- The bytes a token signs. -/
def tokenMessage (domain b64Payload : String) : Bytes := utf8 (domain ++ b64Payload)

/-- **A token of a domain**: the claims and the signature. -/
def signDomainToken (secretKeyHex domain : String) (payload : Json) : Option String :=
  let b64Payload := b64urlJson E payload
  (ed25519SignHex E secretKeyHex (tokenMessage domain b64Payload)).map
    (fun sig => b64Payload ++ "." ++ sig)

/-- An answer that is an error. -/
def errJson (status : ℕ) (code message : String) : ℕ × Json :=
  (status, .object [("error", .object [("code", .string code), ("message", .string message)])])

/-- What the probes of one conformance run came to. -/
structure ConformanceRun where
  runId : String
  probedAt : String
  passed : List String
  failed : List String
  deriving DecidableEq

/-- A text without the slashes it ends in. -/
def trimEndSlashes (s : String) : String :=
  String.ofList (s.toList.reverse.dropWhile (· == '/')).reverse

/-- What an attestation says: the run, and that it holds for a quarter of
an hour. -/
def attestationEntries (run : ConformanceRun) (publicUrl : Option String) (nowNs : ℤ) :
    List (String × Json) :=
  [("endpoint", .string (trimEndSlashes (publicUrl.getD "https://iicp.network"))),
   ("spec_version", .string "iicp-dir v1.1.0"),
   ("purpose", .string "compliance-attestation"),
   ("probe_run_id", .string run.runId),
   ("probe_run_at", .string run.probedAt),
   ("passed_probes", Json.ofStrings run.passed),
   ("failed_probes", Json.ofStrings run.failed),
   ("generated_at", .string (E.toRfc3339 nowNs)),
   ("valid_until", .string (E.toRfc3339 (nowNs + 900 * 10 ^ 9)))]

/-- The bytes an attestation signs: the digest of its canonical form. -/
def attestationMessage (document : Json) : Bytes := E.sha256 (canonicalJson E.toLibs document)

/-- **`GET /v1/compliance-attestation`**: the latest run, its digest and
the signature of the digest. -/
def complianceAttestation (st : DirectoryState) (latestRun : Option ConformanceRun)
    (publicUrl : Option String) (nowNs : ℤ) : ℕ × Json :=
  match st.signingKey with
  | none =>
    errJson 503 "attestation_unavailable" "Attestation signing key not configured on this directory"
  | some secret =>
    match latestRun with
    | none => errJson 503 "no_probe_data" "No conformance probe run recorded yet"
    | some run =>
      let document := attestationEntries E run publicUrl nowNs
      match ed25519SignHex E secret (attestationMessage E (.object document)) with
      | none =>
        errJson 503 "attestation_unavailable"
          "Attestation signing key not configured on this directory"
      | some signature =>
        (200, .object (document ++
          [("attestation_hash", .string (Hex.encode (attestationMessage E (.object document)))),
           ("signature", .string signature), ("signer_did", .string st.directoryDid)]))

/-- The document an attestation was signed as: without what signing adds. -/
def attestedDocument (out : Json) : Json :=
  ((out.remove "attestation_hash").remove "signature").remove "signer_did"

end DirectoryEvidence

/-! ## The deployment record -/

namespace DeploymentProvenance

/-- What a deployment record is signed under. -/
def domain : Bytes := utf8 "IICP-DEPLOYMENT-RECORD-V1" ++ [0]

/-- What it says it is signed for. -/
def purpose : String := "iicp-deployment-record-v1"

/-- What the environment says of a deployment. -/
structure DeploymentConfig where
  kind : String
  flavor : String
  runtimeVersion : String
  releaseTag : String
  sourceCommit : String
  buildDigest : String
  imageDigest : Option String
  sbomDigest : Option String
  openapiVersion : String
  protocolMin : String
  protocolMax : String
  deployedAt : String
  rootKeyId : String
  deriving DecidableEq

/-- A number of hexadecimal digits. -/
def isHex (value : String) (len : ℕ) : Bool :=
  value.utf8ByteSize == len && value.toList.all (fun c => (Hex.value c).isSome)

/-- A SHA-256 digest with its algorithm. -/
def isDigest (value : String) : Bool :=
  "sha256:".toList.isPrefixOf value.toList && isHex (String.ofList (value.toList.drop 7)) 64

/-- A deployment that can be recorded. -/
def DeploymentConfig.valid (config : DeploymentConfig) : Bool :=
  (config.kind == "shared_hosting" || config.kind == "container" || config.kind == "native"
      || config.kind == "other")
    && (config.flavor == "php" || config.flavor == "rust" || config.flavor == "other")
    && isHex config.sourceCommit 40 && isDigest config.buildDigest

/-- The members of a record before it is signed. -/
def DeploymentConfig.unsignedRecord (config : DeploymentConfig) : List (String × Json) :=
  [("schema", .string "iicp.deployment-record.v1"),
   ("deployment_kind", .string config.kind),
   ("directory", .object
     [("flavor", .string config.flavor), ("runtime_version", .string config.runtimeVersion),
      ("release_tag", .string config.releaseTag),
      ("source_commit", .string (config.sourceCommit.map Char.toLower))]),
   ("artifact", .object
     [("build_digest", .string config.buildDigest),
      ("image_digest", Json.ofOptionStr config.imageDigest),
      ("sbom_digest", Json.ofOptionStr config.sbomDigest)]),
   ("compatibility", .object
     [("openapi_version", .string config.openapiVersion),
      ("protocol_min", .string config.protocolMin),
      ("protocol_max", .string config.protocolMax)]),
   ("deployed_at", .string config.deployedAt),
   ("root_key_id", .string config.rootKeyId)]

variable (E : EvidenceLibs)

/-- The bytes a record signs: its canonical form under the domain. -/
def recordMessage (record : Json) : Option Bytes := (E.jcs record).map (domain ++ ·)

/-- **A signed record**: nothing of a deployment that is not valid, or under
a malformed key. -/
def sign (config : DeploymentConfig) (secretKeyHex : String) : Option Json := do
  guard config.valid
  let seed ← seedOf secretKeyHex
  let message ← recordMessage E (.object config.unsignedRecord)
  return .object (config.unsignedRecord ++
    [("signature", .object
      [("algorithm", .string "Ed25519"), ("purpose", .string purpose),
       ("key_id", .string config.rootKeyId),
       ("value", .string (E.base64UrlEncode (E.sign seed message)))])])

/-- What a signature says of itself fits the record it is on. -/
def describes (signature record : Json) : Bool :=
  signature.getStr "algorithm" == some "Ed25519" && signature.getStr "purpose" == some purpose
    && signature.get "key_id" == record.get "root_key_id"

/-- The age of a record is from nothing to a limit, if both the time and the
limit are given. -/
def freshEnough (record : Json) (observedAt maxAge : Option ℤ) : Bool :=
  match observedAt, maxAge with
  | some observed, some maxAge =>
    match (record.getStr "deployed_at").bind E.parseRfc3339Ms with
    | some deployedMs =>
      let age := observed - deployedMs / 1000
      decide (0 ≤ age) && decide (age ≤ maxAge)
    | none => false
  | _, _ => true

/-- Verification of a detached signature of any message. -/
def verifyDetached (publicKey message signature : Bytes) : Bool :=
  decide (publicKey.length = 32) && decide (signature.length = 64)
    && E.verify publicKey message signature

/-- **Verification of a record** under a public key, at a time. -/
def verify (record : Json) (publicKey : Bytes) (observedAt maxAge : Option ℤ) : Bool :=
  match record.get "signature" with
  | none => false
  | some signature =>
    describes signature record
      && (match (signature.getStr "value").bind E.base64UrlDecode,
            recordMessage E (record.remove "signature") with
          | some raw, some message => verifyDetached E publicKey message raw
          | _, _ => false)
      && freshEnough E (record.remove "signature") observedAt maxAge

end DeploymentProvenance

namespace DirectoryEvidence

variable (E : EvidenceLibs)

/-- **`GET /.well-known/iicp-deployment.json`**: the record of the deployment the
environment describes. -/
def deploymentRecord (st : DirectoryState)
    (config : Option DeploymentProvenance.DeploymentConfig) : ℕ × Json :=
  match config.bind (fun config =>
      st.signingKey.bind (DeploymentProvenance.sign E config)) with
  | some record => (200, record)
  | none => (503, .object [("error", .object [("code", .string "deployment_record_unavailable")])])

end DirectoryEvidence

/-! ## What the published key verifies -/

section PublishedKey

open DirectoryEvidence

variable (E : EvidenceLibs)

/-- The key a replica takes from the directory's own document. -/
def publishedKey (st : DirectoryState) : Option String :=
  Replica.seedPubkeyHexFromDid E.toLibs (didDocument E st)

/-- **The published key verifies what is signed**: every event signature made
with the configured text, every token, every attestation and every
deployment record the directory serves. -/
structure PublishedKeyVerifies (st : DirectoryState) (key : String) : Prop where
  event : ∀ {eventId eventType : String} {seq tsMs : ℤ} {payload : Json} {prevHash sig : String},
    signEvent E.toLibs key eventId eventType seq tsMs payload prevHash = some sig →
    ∃ pk, publishedKey E st = some pk ∧ verifyEvent E.toLibs pk sig
      (eventMessage E.toLibs eventId eventType seq tsMs payload prevHash) = true
  token : ∀ {domain : String} {payload : Json} {token : String},
    signDomainToken E key domain payload = some token →
    ∃ pk sig, publishedKey E st = some pk ∧ token = b64urlJson E payload ++ "." ++ sig
      ∧ verifyEvent E.toLibs pk sig (tokenMessage domain (b64urlJson E payload)) = true
  attestation : ∀ {latestRun : Option ConformanceRun} {publicUrl : Option String} {nowNs : ℤ}
      {out : Json}, complianceAttestation E st latestRun publicUrl nowNs = (200, out) →
    ∃ pk sig, publishedKey E st = some pk ∧ out.getStr "signature" = some sig
      ∧ verifyEvent E.toLibs pk sig (attestationMessage E (attestedDocument out)) = true
  deployment : ∀ {config : Option DeploymentProvenance.DeploymentConfig} {out : Json},
    deploymentRecord E st config = (200, out) →
    ∃ pk raw, publishedKey E st = some pk ∧ Hex.decode pk = some raw
      ∧ DeploymentProvenance.verify E out raw none none = true

/-- **The halves of a secret key match**: the second is the public key of the
first. -/
def HalvesMatch (L : Libs) (key : String) : Prop :=
  ∀ sk, Hex.decode key = some sk → sk.drop 32 = L.publicKey (sk.take 32)

/-- An accepted key is sixty-four bytes. -/
theorem bytes_of_accepted {env : Config.Env} {value : Option String} {key : String}
    (haccept : Config.signingKeyFromValue env value = .ok (some key)) :
    ∃ sk, Hex.decode key = some sk ∧ sk.length = 64 := by
  unfold Config.signingKeyFromValue at haccept
  simp only at haccept
  split at haccept
  · exact absurd haccept (by simp)
  · have hkey := (Option.filter_eq_some_iff.mp (Except.ok.inj haccept)).2
    rw [Bool.and_eq_true, beq_iff_eq, Option.isSome_iff_exists] at hkey
    obtain ⟨hsize, sk, hsk⟩ := hkey
    have hlength := Hex.utf8ByteSize_of_decode hsk
    exact ⟨sk, hsk, by omega⟩

/-- Every key of sixty-four bytes is accepted. -/
theorem accepted_of_bytes {key : String} {sk : Bytes} (hsk : Hex.decode key = some sk)
    (hlength : sk.length = 64) (env : Config.Env) :
    Config.signingKeyFromValue env (some key) = .ok (some key) := by
  have hsize : key.utf8ByteSize = 128 := by
    rw [Hex.utf8ByteSize_of_decode hsk, hlength]
  unfold Config.signingKeyFromValue
  simp [hsize, hsk]

variable {E}

/-- Whoever signs with a key of sixty-four bytes takes the first half. -/
theorem seedOf_of_decode {key : String} {sk : Bytes} (hsk : Hex.decode key = some sk)
    (hlength : sk.length = 64) : seedOf key = some (sk.take 32) := by
  unfold seedOf
  rw [hsk, Option.bind_some, if_pos hlength]

/-- **Whoever publishes it takes the second**, and a replica reads it back. -/
theorem publishedKey_of_decode (hE : E.Lawful) {key : String} {sk : Bytes}
    (hsk : Hex.decode key = some sk) (hlength : sk.length = 64) (did endpoint : String) :
    publishedKey E ⟨some key, did, endpoint⟩ = some (Hex.encode (sk.drop 32)) := by
  have hbytes : secretKeyBytes key = some sk := by
    unfold secretKeyBytes
    rw [hsk, Option.filter_some, if_pos (by simpa using hlength)]
  have hraw : (sk.drop 32).length = 32 := by rw [List.length_drop, hlength]
  unfold publishedKey didDocument seedPubkeyJwk
  simp [Replica.seedPubkeyHexFromDid, Replica.methodKey, hbytes, verificationMethod,
    Json.getArray, Json.getStr, hE.base64UrlDecode_encode, hraw, guard]

/-- The key `directory-key` answers is the one in the document. -/
theorem directoryPublicKeyHex_eq (hE : E.Lawful) {key : String} {sk : Bytes}
    (hsk : Hex.decode key = some sk) (hlength : sk.length = 64) (did endpoint : String) :
    directoryPublicKeyHex key = publishedKey E ⟨some key, did, endpoint⟩ := by
  rw [publishedKey_of_decode hE hsk hlength]
  unfold directoryPublicKeyHex secretKeyBytes
  rw [hsk, Option.filter_some, if_pos (by simpa using hlength), Option.map_some]

/-- A signature of a seed, in hexadecimal, verifies under the seed's key. -/
theorem verifyEvent_sign (hE : E.Lawful) (seed message : Bytes) :
    verifyEvent E.toLibs (Hex.encode (E.publicKey seed)) (Hex.encode (E.sign seed message)) message
      = true := by
  unfold verifyEvent
  simp only [Hex.decode_encode]
  rw [hE.publicKey_length, hE.sign_length, hE.verify_sign]
  rfl

/-- A verified signature is one of the key's owner. -/
theorem publicKey_of_verifyEvent (hx : E.Exclusive) {raw seed message : Bytes}
    (h : verifyEvent E.toLibs (Hex.encode raw) (Hex.encode (E.sign seed message)) message = true) :
    raw = E.publicKey seed := by
  unfold verifyEvent at h
  simp only [Hex.decode_encode, Bool.and_eq_true, decide_eq_true_eq] at h
  exact hx seed message raw h.1.1 h.2

/-- The members of an attestation before it is signed. -/
theorem attestationEntries_keys (run : ConformanceRun) (publicUrl : Option String) (nowNs : ℤ) :
    (attestationEntries E run publicUrl nowNs).map Prod.fst
      = ["endpoint", "spec_version", "purpose", "probe_run_id", "probe_run_at", "passed_probes",
         "failed_probes", "generated_at", "valid_until"] := rfl

/-- Signing adds to an attestation what verifying takes away. -/
theorem attestedDocument_append (run : ConformanceRun) (publicUrl : Option String) (nowNs : ℤ)
    (hash sig did : String) :
    attestedDocument (.object (attestationEntries E run publicUrl nowNs ++
        [("attestation_hash", .string hash), ("signature", .string sig),
         ("signer_did", .string did)]))
      = .object (attestationEntries E run publicUrl nowNs) := by
  have hkeys := attestationEntries_keys (E := E) run publicUrl nowNs
  have hhash : "attestation_hash" ∉ (attestationEntries E run publicUrl nowNs).map Prod.fst := by
    rw [hkeys]; decide
  have hsig : "signature" ∉ (attestationEntries E run publicUrl nowNs).map Prod.fst := by
    rw [hkeys]; decide
  have hdid : "signer_did" ∉ (attestationEntries E run publicUrl nowNs).map Prod.fst := by
    rw [hkeys]; decide
  unfold attestedDocument
  rw [Json.remove_object_append hhash]
  show ((Json.object (_ ++ [("signature", Json.string sig), ("signer_did", Json.string did)])).remove
    "signature").remove "signer_did" = _
  rw [Json.remove_object_append hsig]
  show (Json.object (_ ++ [("signer_did", Json.string did)])).remove "signer_did" = _
  rw [Json.remove_object_append hdid]
  exact congrArg Json.object (List.append_nil _)

/-- An attestation that is served carries the signature of its document. -/
theorem signature_of_attested {st : DirectoryState} {key : String} {seed : Bytes}
    (hkey : st.signingKey = some key) (hseed : seedOf key = some seed)
    {latestRun : Option ConformanceRun} {publicUrl : Option String} {nowNs : ℤ} {out : Json}
    (h : complianceAttestation E st latestRun publicUrl nowNs = (200, out)) :
    out.getStr "signature"
      = some (Hex.encode (E.sign seed (attestationMessage E (attestedDocument out)))) := by
  unfold complianceAttestation at h
  rw [hkey] at h
  cases latestRun with
  | none => exact absurd (congrArg Prod.fst h) (show (503 : ℕ) ≠ 200 by decide)
  | some run =>
    simp only [ed25519SignHex, hseed, Option.map_some, Prod.mk.injEq, true_and] at h
    obtain rfl := h
    have hsig : "signature" ∉ (attestationEntries E run publicUrl nowNs).map Prod.fst := by
      rw [attestationEntries_keys]; decide
    rw [attestedDocument_append]
    unfold Json.getStr
    rw [Json.get_object_append hsig]
    rfl

namespace DeploymentProvenance

/-- The members of a record before it is signed. -/
theorem unsignedRecord_keys (config : DeploymentConfig) :
    config.unsignedRecord.map Prod.fst
      = ["schema", "deployment_kind", "directory", "artifact", "compatibility", "deployed_at",
         "root_key_id"] := rfl

theorem signature_notMem_unsignedRecord (config : DeploymentConfig) :
    "signature" ∉ config.unsignedRecord.map Prod.fst := by
  rw [unsignedRecord_keys]; decide

/-- The signature of a record. -/
def signatureOf (config : DeploymentConfig) (value : String) : Json :=
  .object
    [("algorithm", .string "Ed25519"), ("purpose", .string purpose),
     ("key_id", .string config.rootKeyId), ("value", .string value)]

/-- What is signed, in the terms of whoever signs. -/
theorem sign_cases {config : DeploymentConfig} {key : String} {seed : Bytes} {out : Json}
    (hseed : seedOf key = some seed) (h : sign E config key = some out) :
    ∃ message, recordMessage E (.object config.unsignedRecord) = some message
      ∧ out = .object (config.unsignedRecord ++
          [("signature", signatureOf config (E.base64UrlEncode (E.sign seed message)))]) := by
  unfold sign at h
  simp only [hseed, Option.bind_eq_bind, Option.bind_some, Option.bind_eq_some_iff] at h
  obtain ⟨_, _, message, hmessage, hout⟩ := h
  exact ⟨message, hmessage, (Option.some.inj hout).symm⟩

/-- The signature of a record describes itself as the record's. -/
theorem describes_signatureOf (config : DeploymentConfig) (value : String) :
    describes (signatureOf config value)
      (.object (config.unsignedRecord ++ [("signature", signatureOf config value)])) = true := by
  have hkeyId : (signatureOf config value).get "key_id" = some (.string config.rootKeyId) := rfl
  have hroot : (Json.object (config.unsignedRecord ++
      [("signature", signatureOf config value)])).get "root_key_id"
        = some (.string config.rootKeyId) := rfl
  have hequal : (some (Json.string config.rootKeyId) == some (Json.string config.rootKeyId))
      = true := beq_self_eq_true config.rootKeyId
  unfold describes
  rw [hkeyId, hroot, hequal]
  rfl

/-- **A signed record verifies under the signer's key**, looked at without a
limit to its age. -/
theorem verify_sign (hE : E.Lawful) {config : DeploymentConfig} {key : String} {seed : Bytes}
    {out : Json} (hseed : seedOf key = some seed) (h : sign E config key = some out) :
    verify E out (E.publicKey seed) none none = true := by
  obtain ⟨message, hmessage, rfl⟩ := sign_cases hseed h
  have hnot := signature_notMem_unsignedRecord config
  have hvalue : (signatureOf config (E.base64UrlEncode (E.sign seed message))).getStr "value"
      = some (E.base64UrlEncode (E.sign seed message)) := rfl
  have hunsigned : (Json.object (config.unsignedRecord ++
      [("signature", signatureOf config (E.base64UrlEncode (E.sign seed message)))])).remove
        "signature" = .object config.unsignedRecord := by
    rw [Json.remove_object_append hnot]
    exact congrArg Json.object (List.append_nil _)
  have hverified : verifyDetached E (E.publicKey seed) message (E.sign seed message) = true := by
    unfold verifyDetached
    rw [hE.publicKey_length, hE.sign_length, hE.verify_sign]
    rfl
  unfold verify
  rw [Json.get_object_append hnot, hunsigned]
  show (describes _ _ && _ && _) = true
  rw [describes_signatureOf, hvalue, Option.bind_some, hE.base64UrlDecode_encode, hmessage]
  show (true && verifyDetached E (E.publicKey seed) message (E.sign seed message) && true) = true
  rw [hverified]
  rfl

end DeploymentProvenance

/-- **Matching halves are enough**: what the first half signs, the published
second half verifies. -/
theorem publishedKeyVerifies_of_halvesMatch (hE : E.Lawful) {key : String} {sk : Bytes}
    (hsk : Hex.decode key = some sk) (hlength : sk.length = 64)
    (hmatch : HalvesMatch E.toLibs key) (did endpoint : String) :
    PublishedKeyVerifies E ⟨some key, did, endpoint⟩ key := by
  have hseed := seedOf_of_decode hsk hlength
  have hpublished : publishedKey E ⟨some key, did, endpoint⟩
      = some (Hex.encode (E.publicKey (sk.take 32))) := by
    rw [publishedKey_of_decode hE hsk hlength, hmatch sk hsk]
  refine ⟨fun hsig => ⟨_, hpublished, ?_⟩, fun htoken => ?_, fun hout => ?_, fun hout => ?_⟩
  · rw [signEvent, hseed] at hsig
    obtain rfl := Option.some.inj hsig
    exact verifyEvent_sign hE _ _
  · rw [signDomainToken, ed25519SignHex, hseed] at htoken
    exact ⟨_, _, hpublished, (Option.some.inj htoken).symm, verifyEvent_sign hE _ _⟩
  · exact ⟨_, _, hpublished, signature_of_attested rfl hseed hout, verifyEvent_sign hE _ _⟩
  · refine ⟨_, _, hpublished, Hex.decode_encode _, ?_⟩
    unfold deploymentRecord at hout
    split at hout
    · rename_i record hrecord
      obtain rfl := (Prod.ext_iff.mp hout).2
      obtain ⟨config, _, hsign⟩ := Option.bind_eq_some_iff.mp hrecord
      exact DeploymentProvenance.verify_sign hE hseed hsign
    · exact absurd (congrArg Prod.fst hout) (show (503 : ℕ) ≠ 200 by decide)

/-- One verified event is enough: the published half is the public key of the
half that signs. -/
theorem halves_of_verified (hE : E.Lawful) (hx : E.Exclusive) {key : String} {sk : Bytes}
    (hsk : Hex.decode key = some sk) (hlength : sk.length = 64) {did endpoint : String}
    (hverifies : PublishedKeyVerifies E ⟨some key, did, endpoint⟩ key) :
    sk.drop 32 = E.publicKey (sk.take 32) := by
  have hsigned : signEvent E.toLibs key "" "" 0 0 .null "" = some (Hex.encode
      (E.sign (sk.take 32) (eventMessage E.toLibs "" "" 0 0 .null ""))) := by
    rw [signEvent, seedOf_of_decode hsk hlength]
    rfl
  obtain ⟨pk, hpublished, hverified⟩ := hverifies.event hsigned
  obtain rfl := Option.some.inj
    ((publishedKey_of_decode hE hsk hlength did endpoint).symm.trans hpublished)
  exact publicKey_of_verifyEvent hx hverified

/-- **The published key verifies what the directory signs if and only if the
halves of its secret key match**, for every text the configuration
accepts. -/
theorem publishedKeyVerifies_iff (hE : E.Lawful) (hx : E.Exclusive) {env : Config.Env}
    {value : Option String} {key : String}
    (haccept : Config.signingKeyFromValue env value = .ok (some key)) (did endpoint : String) :
    PublishedKeyVerifies E ⟨some key, did, endpoint⟩ key ↔ HalvesMatch E.toLibs key := by
  obtain ⟨sk, hsk, hlength⟩ := bytes_of_accepted haccept
  refine ⟨fun hverifies sk' hsk' => ?_,
    fun hmatch => publishedKeyVerifies_of_halvesMatch hE hsk hlength hmatch did endpoint⟩
  obtain rfl := Option.some.inj (hsk.symm.trans hsk')
  exact halves_of_verified hE hx hsk hlength hverifies

end PublishedKey

/-! ## Two keys

The libraries on the seeds of thirty-two bytes `0x11` and `0xab` and on the
first event of the sample log. Off the tables the text of thirty-two bytes
is their hexadecimal one and a signature repeats the public key, which
keeps signatures of different keys apart. -/

namespace Sample

/-- The secret key of 128 digits `ab`, in turn: its second half is its
first. -/
def repeatedKeyHex : String := String.ofList ((List.replicate 64 ['a', 'b']).flatten)

/-- The public keys of the two seeds. -/
def publicKeys : List (Bytes × ℕ) :=
  [(List.replicate 32 17, 0xd04ab232742bb4ab3a1368bd4615e4e6d0224ab71a016baf8520a332c9778737),
   (List.replicate 32 171, 0x248acbdbaf9e050196de704bea2d68770e519150d103b587dae2d9cad53dd930)]

/-- The public key of a seed. -/
def publicKeyFor (seed : Bytes) : Bytes := bytes 32 (tableValue publicKeys seed)

/-- The message of the first event. -/
def message1 : Bytes :=
  bytes 32 0x092c3d050fbf89e80b753309e5ab910b2f3cdd2d4143998b86fd457d5acc0fc2

/-- The signatures of the first event, by public key and message. -/
def signaturesFor : List ((Bytes × Bytes) × ℕ) :=
  [((publicKeyFor (List.replicate 32 17), message1),
     0x5bb52b458fbba56b0bccf5b238c844237433119c150f729d554fe1ec4cc16a2e9e95f100e404893c17e48c2c05e409677d52dd5a8c57d955fd7faecc713fff04),
   ((publicKeyFor (List.replicate 32 171), message1), 
     0x6c1ae3fdd054c8c8a233132fd58a7750ab6587dbbc85bb7fd0e31754fd46fc5f21767045cea2dea87725683e87a2d7bbf9abf3e7ac8ecefea7a551e42991ee0b)]

/-- The signature that verifies a message under a public key. -/
def signatureFor (pk msg : Bytes) : Bytes :=
  ((signaturesFor.lookup (pk, msg)).map (bytes 64)).getD (pk ++ pk)

/-- The public keys of the samples, in Base64. -/
def base64Texts : List (Bytes × String) :=
  [(publicKeyFor (List.replicate 32 17), "0EqyMnQrtKs6E2i9RhXk5tAiSrcaAWuvhSCjMsl3hzc"),
   (List.replicate 32 171, "q6urq6urq6urq6urq6urq6urq6urq6urq6urq6urq6s")]

/-- **The libraries on two keys.** -/
def evidenceLibs : EvidenceLibs where
  toLibs := { libs with
    publicKey := publicKeyFor
    sign := fun seed msg => signatureFor (publicKeyFor seed) msg
    verify := fun pk msg sig => sig == signatureFor pk msg
    base64UrlDecode := fun s =>
      match base64Texts.find? (fun e => e.2 == s) with
      | some e => some e.1
      | none => Hex.decode s }
  base64UrlEncode bytes := (base64Texts.lookup bytes).getD (Hex.encode bytes)
  jcs v := some (utf8 (canonicalJson libs v))
  toRfc3339 _ := "2026-07-29T15:16:51+00:00"

theorem length_publicKeyFor (seed : Bytes) : (publicKeyFor seed).length = 32 := length_bytes 32 _

theorem length_signatureFor {pk : Bytes} (h : pk.length = 32) (msg : Bytes) :
    (signatureFor pk msg).length = 64 := by
  unfold signatureFor
  cases signaturesFor.lookup (pk, msg) with
  | some n => exact length_bytes 64 n
  | none =>
    show (pk ++ pk).length = 64
    rw [List.length_append, h]

/-- A signature is either in the table or repeats its key. -/
theorem signatureFor_cases (pk msg : Bytes) :
    (∃ e ∈ signaturesFor, e.1.1 = pk ∧ signatureFor pk msg = bytes 64 e.2)
      ∨ signatureFor pk msg = pk ++ pk := by
  unfold signatureFor
  cases hlookup : signaturesFor.lookup (pk, msg) with
  | some n =>
    obtain ⟨l, r, hsplit, _⟩ := List.lookup_eq_some_iff.mp hlookup
    refine Or.inl ⟨((pk, msg), n), ?_, rfl, rfl⟩
    rw [hsplit]
    exact List.mem_append_right _ (List.mem_cons_self)
  | none => exact Or.inr rfl

/-- No signature of the table repeats its first half. -/
theorem take_ne_drop : ∀ e ∈ signaturesFor, (bytes 64 e.2).take 32 ≠ (bytes 64 e.2).drop 32 := by
  decide

/-- The signatures of the table are of different keys. -/
theorem signaturesFor_inj : ∀ e ∈ signaturesFor, ∀ e' ∈ signaturesFor,
    bytes 64 e.2 = bytes 64 e'.2 → e.1.1 = e'.1.1 := by
  decide

/-- A repeated key is no signature of the table. -/
theorem append_self_ne {pk : Bytes} (h : pk.length = 32) :
    ∀ e ∈ signaturesFor, bytes 64 e.2 ≠ pk ++ pk := by
  intro e he heq
  refine take_ne_drop e he ?_
  rw [heq, List.take_left' h, List.drop_left' h]

/-- **A signature is of one key.** -/
theorem signatureFor_inj {pk pk' msg : Bytes} (h : pk.length = 32) (h' : pk'.length = 32)
    (heq : signatureFor pk msg = signatureFor pk' msg) : pk = pk' := by
  rcases signatureFor_cases pk msg with ⟨e, he, hpk, hsig⟩ | hsig <;>
    rcases signatureFor_cases pk' msg with ⟨e', he', hpk', hsig'⟩ | hsig' <;>
    rw [hsig, hsig'] at heq
  · rw [← hpk, ← hpk', signaturesFor_inj e he e' he' heq]
  · exact absurd heq (append_self_ne h' e he)
  · exact absurd heq.symm (append_self_ne h e' he')
  · exact (List.append_inj heq (h.trans h'.symm)).1

/-- A text of the table is read as what it stands for. -/
theorem base64Texts_find : ∀ e ∈ base64Texts,
    (base64Texts.find? (fun e' => e'.2 == e.2)).map Prod.fst = some e.1 := by
  decide

/-- No text of the table is hexadecimal. -/
theorem base64Texts_notHex : ∀ e ∈ base64Texts, Hex.decode e.2 = none := by
  decide

/-- **Base64 as a table**, hexadecimal where it ends, is undone by its
decoder. -/
theorem decode_encode_of_table {texts : List (Bytes × String)}
    (hfind : ∀ e ∈ texts, (texts.find? (fun e' => e'.2 == e.2)).map Prod.fst = some e.1)
    (hnotHex : ∀ e ∈ texts, Hex.decode e.2 = none) (bytes : Bytes) :
    (match texts.find? (fun e => e.2 == (texts.lookup bytes).getD (Hex.encode bytes)) with
      | some e => some e.1
      | none => Hex.decode ((texts.lookup bytes).getD (Hex.encode bytes))) = some bytes := by
  cases hlookup : texts.lookup bytes with
  | some text =>
    obtain ⟨l, r, hsplit, _⟩ := List.lookup_eq_some_iff.mp hlookup
    have hmem : (bytes, text) ∈ texts := by
      rw [hsplit]
      exact List.mem_append_right _ List.mem_cons_self
    obtain ⟨e, hfound, he⟩ := Option.map_eq_some_iff.mp (hfind _ hmem)
    rw [Option.getD_some, hfound]
    exact congrArg some he
  | none =>
    rw [Option.getD_none]
    cases hfound : texts.find? (fun e => e.2 == Hex.encode bytes) with
    | some e =>
      have hbeq := List.find?_some hfound
      have htext : e.2 = Hex.encode bytes := beq_iff_eq.mp hbeq
      have hnone := hnotHex e (List.mem_of_find?_eq_some hfound)
      rw [htext, Hex.decode_encode] at hnone
      exact absurd hnone (by simp)
    | none => exact Hex.decode_encode bytes

/-- The two keys meet what the directory relies on. -/
theorem evidenceLibs_lawful : evidenceLibs.Lawful where
  sha256_length := libs_lawful.sha256_length
  publicKey_length := length_publicKeyFor
  sign_length _ _ := length_signatureFor (length_publicKeyFor _) _
  verify_sign _ _ := beq_self_eq_true _
  base64UrlDecode_encode := decode_encode_of_table base64Texts_find base64Texts_notHex

theorem evidenceLibs_exclusive : evidenceLibs.Exclusive := fun _ _ _ hlength hverify =>
  (signatureFor_inj (length_publicKeyFor _) hlength (beq_iff_eq.mp hverify)).symm

end Sample

/-- The bytes of the sample key: its halves match. -/
theorem Sample.decode_secretKeyHex : Hex.decode Sample.secretKeyHex
    = some (List.replicate 32 17 ++ Sample.publicKeyFor (List.replicate 32 17)) := by
  decide +kernel

/-- The bytes of the repeated key. -/
theorem Sample.decode_repeatedKeyHex :
    Hex.decode Sample.repeatedKeyHex = some (List.replicate 64 171) := by
  unfold Hex.decode Sample.repeatedKeyHex
  rw [String.toList_ofList]
  decide +kernel

/-- The document under the sample key verifies what is signed with it. -/
theorem publishedKeyVerifies_sample :
    PublishedKeyVerifies Sample.evidenceLibs
      ⟨some Sample.secretKeyHex, "did:web:seed.test", "https://seed.test/v1"⟩
      Sample.secretKeyHex :=
  (publishedKeyVerifies_iff Sample.evidenceLibs_lawful Sample.evidenceLibs_exclusive
      (accepted_of_bytes Sample.decode_secretKeyHex rfl .production) _ _).mpr (by
    intro sk hsk
    obtain rfl := Option.some.inj (Sample.decode_secretKeyHex.symm.trans hsk)
    rfl)

/-- **A production directory starts with a key whose halves do not match**, and
the key of its document does not verify its first event. -/
theorem unmatched_key_accepted :
    Config.signingKeyFromValue .production (some Sample.repeatedKeyHex)
        = .ok (some Sample.repeatedKeyHex)
      ∧ ¬ PublishedKeyVerifies Sample.evidenceLibs
          ⟨some Sample.repeatedKeyHex, "did:web:seed.test", "https://seed.test/v1"⟩
          Sample.repeatedKeyHex := by
  refine ⟨accepted_of_bytes Sample.decode_repeatedKeyHex rfl _, fun hverifies => ?_⟩
  have hsigned : signEvent Sample.evidenceLibs.toLibs Sample.repeatedKeyHex "evt-1" "REGISTER" 1 1
      (.object [("endpoint", .string "https://n1.test")]) genesisRoot
      = some (Hex.encode (Sample.evidenceLibs.sign (List.replicate 32 171)
          (eventMessage Sample.evidenceLibs.toLibs "evt-1" "REGISTER" 1 1
            (.object [("endpoint", .string "https://n1.test")]) genesisRoot))) := by
    rw [signEvent, seedOf_of_decode Sample.decode_repeatedKeyHex rfl]
    rfl
  obtain ⟨pk, hpublished, hverified⟩ := hverifies.event hsigned
  obtain rfl := Option.some.inj ((publishedKey_of_decode Sample.evidenceLibs_lawful
    Sample.decode_repeatedKeyHex rfl _ _).symm.trans hpublished)
  have hequal := publicKey_of_verifyEvent Sample.evidenceLibs_exclusive hverified
  exact absurd hequal (by decide)
