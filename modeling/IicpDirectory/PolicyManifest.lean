import IicpDirectory.OperatorSignatures
import IicpDirectory.Operators
import IicpDirectory.Replica.Payloads

/-!
# Policy manifests

A node may publish what it does with the tasks it is given: a manifest. It may
sign it, and then the manifest carries a signature block, an object with the
key, the detached signature and what the signature is said to be for. What is
signed is the manifest in canonical form, all but the detached signature
itself: the rest of the block is signed with it (`canonicalPayload`).

A manifest without a block attests itself. One whose block does not verify, or
is not an object, is invalid; one that verifies is revoked or expired by the
times it names itself, or valid.

Two manifests have one payload if they agree in every member but the block and
in every member of the block but the signature
(`SignedManifest.canonicalPayload_eq_iff`). So what is changed in a signed
manifest is seen (`signed_manifests_tamper_evident`), with the two exceptions
the format has: the signature itself may be written differently, and the block
may be taken away (`signature_rewritten`).
-/

open Federation

/-- The libraries a manifest is verified with; an instant is a `T`. -/
structure PolicyLibs (T : Type) extends Libs where
  /-- SHA-256 of bytes. -/
  sha256Bytes : Bytes → Bytes
  /-- Base64 with padding. -/
  base64Decode : String → Option Bytes
  /-- `DateTime::parse_from_rfc3339`. -/
  parseRfc3339 : String → Option T

namespace PolicyManifest

/-! ## What is found of a manifest -/

/-- The status of a manifest. -/
inductive Status
  | selfAttested
  | signedValid
  | signedInvalid
  | signedRevoked
  | signedExpired
  deriving DecidableEq

/-- Its name. -/
def Status.text : Status → String
  | .selfAttested => "self_attested"
  | .signedValid => "signed_valid"
  | .signedInvalid => "signed_invalid"
  | .signedRevoked => "signed_revoked"
  | .signedExpired => "signed_expired"

/-- **What is found of a manifest.** -/
structure Verification where
  status : Status
  evidence : String
  algorithm : Option String
  keyId : Option String
  signedAt : Option String
  expiresAt : Option String
  canonicalSha256 : String
  publicKeySha256 : Option String
  manifestIdentityLevel : String
  policyKeyFingerprint : Option String
  revokedAt : Option String
  rotationEpoch : Option ℕ
  revocationReasonClass : Option String
  error : Option String

/-- Whether a registration with the manifest goes on. -/
def Verification.accepted (result : Verification) : Bool :=
  result.status == .selfAttested || result.status == .signedValid

/-- `valid_reason_class`. -/
def validReasonClass (value : String) : Bool :=
  !value.isEmpty && decide (value.utf8ByteSize ≤ 64)
    && value.toList.all fun c => c.isLower || c.isDigit || c == '_' || c == '-'

/-- `invalid`. -/
def invalid (result : Verification) (message : String) : Verification :=
  { result with status := .signedInvalid, evidence := "signed_invalid", error := some message }

/-- What is signed of a manifest: all but the signature in its block; without
a block that is an object, all but that member. -/
def signedPart : Json → Json
  | .object entries =>
    match (Json.object entries).get "signature" with
    | some (.object _) => .object (entries.map fun e =>
        if e.1 == "signature" then (e.1, e.2.remove "signature") else e)
    | _ => (Json.object entries).remove "signature"
  | v => v

/-- `canonical_payload`. -/
def canonicalPayload (L : Libs) (manifest : Json) : Bytes :=
  utf8 (canonicalJson L (signedPart manifest).sortKeys)

section Verify

variable {T : Type} [LT T] [DecidableLT T] (P : PolicyLibs T)

/-- `decode_base64`. -/
def decodeBase64 (value : Option String) : Option Bytes :=
  value.bind fun text =>
    let trimmed := String.ofList (trimChars text.toList)
    (P.base64Decode trimmed).or (P.base64UrlDecode trimmed)

/-- `timestamp_is_past`, at what the clock shows. -/
def timestampIsPast (now : T) (value : Option String) : Option Bool :=
  (value.bind P.parseRfc3339).map fun t => decide (t < now)

/-- `base_verification`. -/
def baseVerification (canonical : Bytes) : Verification where
  status := .selfAttested
  evidence := "self_attested"
  algorithm := none
  keyId := none
  signedAt := none
  expiresAt := none
  canonicalSha256 := Hex.encode (P.sha256Bytes canonical)
  publicKeySha256 := none
  manifestIdentityLevel := "self_attested"
  policyKeyFingerprint := none
  revokedAt := none
  rotationEpoch := none
  revocationReasonClass := none
  error := none

/-- `with_signature_metadata`. -/
def withSignatureMetadata (result : Verification) (signature : Json) : Verification :=
  { result with
    algorithm := signature.getStr "algorithm"
    keyId := signature.getStr "key_id"
    signedAt := signature.getStr "signed_at"
    expiresAt := signature.getStr "expires_at"
    revokedAt := signature.getStr "revoked_at"
    rotationEpoch := (signature.get "rotation_epoch").bind Json.asU32
    revocationReasonClass :=
      (signature.getStr "revocation_reason_class").filter validReasonClass }

/-- `verify_detached`. That a key has 32 bytes and a signature 64 is all that
is asked of them before the signature is verified. -/
def verifyDetached (result : Verification) (signature : Json) (canonical : Bytes) :
    Except Verification Verification :=
  if result.algorithm ≠ some "Ed25519" then
    .error (invalid result "unsupported signature algorithm")
  else
    match decodeBase64 P (signature.getStr "public_key") with
    | none => .error (invalid result "invalid Ed25519 public key")
    | some publicKey =>
      match decodeBase64 P (signature.getStr "signature") with
      | none => .error (invalid result "invalid Ed25519 signature")
      | some detached =>
        if publicKey.length ≠ 32 ∨ detached.length ≠ 64 then
          .error (invalid result "invalid Ed25519 signature material")
        else
          let publicKeySha := Hex.encode (P.sha256Bytes publicKey)
          let result := { result with
            policyKeyFingerprint := some (String.ofList (publicKeySha.toList.take 12))
            publicKeySha256 := some publicKeySha }
          if P.verify publicKey canonical detached then .ok result
          else .error (invalid result "signature verification failed")

/-- `apply_signature_time`; the clock is read up to three times. -/
def applySignatureTime (clock : ℕ → T) (result : Verification) : Verification :=
  if timestampIsPast P (clock 0) result.revokedAt = some true then
    { result with
      status := .signedRevoked
      evidence := "signed_revoked"
      manifestIdentityLevel := "revoked"
      error := some "policy key revoked" }
  else if result.expiresAt.isSome
      ∧ timestampIsPast P (clock 1) result.expiresAt ≠ some false then
    let status := if timestampIsPast P (clock 2) result.expiresAt = some true then
      .signedExpired else .signedInvalid
    { result with
      status
      evidence := status.text
      error := some "signature expiry is invalid or elapsed" }
  else
    { result with
      status := .signedValid
      evidence := "signed_verified"
      manifestIdentityLevel := "signed_valid" }

/-- `verify`. -/
def verify (clock : ℕ → T) (manifest : Json) : Verification :=
  let canonical := canonicalPayload P.toLibs manifest
  let result := baseVerification P canonical
  match manifest.get "signature" with
  | none => result
  | some (.object fields) =>
    match verifyDetached P (withSignatureMetadata result (.object fields)) (.object fields)
        canonical with
    | .ok result => applySignatureTime P clock result
    | .error result => result
  | some _ => invalid result "signature block must be an object"

end Verify

/-! ## Manifests with a signature block -/

/-- **A manifest with a signature block that is an object**, with every key
once, as the keys of a map are. -/
structure SignedManifest where
  entries : List (String × Json)
  fields : List (String × Json)
  keys_nodup : (entries.map Prod.fst).Nodup
  fields_nodup : (fields.map Prod.fst).Nodup
  signature : ("signature", .object fields) ∈ entries
  proper : (Json.object entries).Proper

namespace SignedManifest

/-- The manifest. -/
def value (m : SignedManifest) : Json := .object m.entries

/-- Its signature block. -/
def block (m : SignedManifest) : Json := .object m.fields

/-- **Manifests that differ in the signature alone**: they have the same in
every other member, and the same in every other member of the block, up to the
order of members. -/
structure SameButSignature (m m' : SignedManifest) : Prop where
  members : ∀ key ≠ "signature",
    (m.value.get key).map Json.sortKeys = (m'.value.get key).map Json.sortKeys
  block : ∀ key ≠ "signature",
    (m.block.get key).map Json.sortKeys = (m'.block.get key).map Json.sortKeys

theorem get_signature (m : SignedManifest) : m.value.get "signature" = some m.block :=
  (Json.get_object_eq_some_iff m.keys_nodup).mpr m.signature

/-- What is done to a member of a manifest that is signed. -/
def signedMember (e : String × Json) : Json :=
  if e.1 == "signature" then e.2.remove "signature" else e.2

theorem signedPart_value (m : SignedManifest) :
    signedPart m.value = .object (m.entries.map fun e => (e.1, signedMember e)) := by
  have hget : (Json.object m.entries).get "signature" = some (.object m.fields) := m.get_signature
  unfold value
  rw [signedPart, hget]
  refine congrArg Json.object (List.map_congr_left fun e _ => ?_)
  unfold signedMember
  split <;> rfl

theorem signedPart_keys_nodup (m : SignedManifest) :
    ((m.entries.map fun e => (e.1, signedMember e)).map Prod.fst).Nodup := by
  rw [List.map_map]
  exact m.keys_nodup

/-- What is signed under a key other than that of the block. -/
theorem get_signedPart_of_ne (m : SignedManifest) {key : String} (h : key ≠ "signature") :
    (signedPart m.value).get key = m.value.get key := by
  have hmember : ∀ v, signedMember (key, v) = v := fun _ => if_neg (by simpa using h)
  rw [signedPart_value, Json.get_object_map]
  simp only [hmember, Option.map_id']
  rfl

/-- What is signed of the block. -/
theorem get_signedPart_signature (m : SignedManifest) :
    (signedPart m.value).get "signature" = some (m.block.remove "signature") := by
  rw [signedPart_value, Json.get_object_map]
  show (m.value.get "signature").map _ = _
  rw [get_signature]
  rfl

theorem remove_keys_nodup (m : SignedManifest) :
    ((m.fields.filter fun e => e.1 != "signature").map Prod.fst).Nodup :=
  m.fields_nodup.sublist (List.filter_sublist.map _)

/-- What is signed of two blocks is the same if they are, but for the
signature. -/
theorem remove_signature_same_iff (m m' : SignedManifest) :
    (m.block.remove "signature").SameUpToKeyOrder (m'.block.remove "signature")
      ↔ ∀ key ≠ "signature",
        (m.block.get key).map Json.sortKeys = (m'.block.get key).map Json.sortKeys := by
  refine (Json.sameUpToKeyOrder_object_iff_get m.remove_keys_nodup m'.remove_keys_nodup).trans ?_
  have hother : ∀ (m : SignedManifest) {key : String}, key ≠ "signature" →
      (Json.object (m.fields.filter fun e => e.1 != "signature")).get key = m.block.get key :=
    fun m _ hne => Json.get_remove_of_ne m.fields hne
  have hself : ∀ m : SignedManifest,
      (Json.object (m.fields.filter fun e => e.1 != "signature")).get "signature" = none :=
    fun m => Json.get_remove_self m.fields "signature"
  constructor
  · intro h key hne
    rw [← hother m hne, ← hother m' hne]
    exact h key
  · intro h key
    by_cases hkey : key = "signature"
    · rw [hkey, hself, hself]
    · rw [hother m hkey, hother m' hkey]
      exact h key hkey

/-- **What is signed is the same if the manifests differ in the signature
alone.** -/
theorem signedPart_same_iff (m m' : SignedManifest) :
    (signedPart m.value).SameUpToKeyOrder (signedPart m'.value) ↔ m.SameButSignature m' := by
  have hget := Json.sameUpToKeyOrder_object_iff_get m.signedPart_keys_nodup
    m'.signedPart_keys_nodup
  rw [← signedPart_value, ← signedPart_value] at hget
  rw [hget]
  constructor
  · intro h
    refine ⟨fun key hne => ?_, (remove_signature_same_iff m m').mp ?_⟩
    · rw [← m.get_signedPart_of_ne hne, ← m'.get_signedPart_of_ne hne]
      exact h key
    · have hblock := h "signature"
      rw [get_signedPart_signature, get_signedPart_signature] at hblock
      exact Option.some.inj hblock
  · intro h key
    by_cases hkey : key = "signature"
    · rw [hkey, get_signedPart_signature, get_signedPart_signature]
      exact congrArg some ((remove_signature_same_iff m m').mpr h.block)
    · rw [m.get_signedPart_of_ne hkey, m'.get_signedPart_of_ne hkey]
      exact h.members key hkey

theorem proper_remove {v : Json} (h : v.Proper) (key : String) : (v.remove key).Proper := by
  cases v with
  | object entries =>
    refine (Json.proper_object _).mpr fun e he => ?_
    exact (Json.proper_object entries).mp h e (List.mem_of_mem_filter he)
  | _ => exact h

theorem proper_signedPart (m : SignedManifest) : (signedPart m.value).Proper := by
  rw [signedPart_value]
  refine (Json.proper_object _).mpr fun signed hsigned => ?_
  obtain ⟨e, he, rfl⟩ := List.mem_map.mp hsigned
  have hproper : e.2.Proper := (Json.proper_object m.entries).mp m.proper e he
  show (signedMember e).Proper
  unfold signedMember
  split
  · exact proper_remove hproper "signature"
  · exact hproper

/-- **The payload of a signed manifest determines it** up to the signature and
the order of members. -/
theorem canonicalPayload_eq_iff {L : Libs} (hL : L.PrintsNumbers) (m m' : SignedManifest) :
    canonicalPayload L m.value = canonicalPayload L m'.value ↔ m.SameButSignature m' := by
  unfold canonicalPayload
  rw [utf8_injective.eq_iff, canonicalJson_sortKeys, canonicalJson_sortKeys,
    canonicalJson_eq_iff hL m.proper_signedPart m'.proper_signedPart, signedPart_same_iff]

namespace SameButSignature

variable {m m' : SignedManifest}

/-- They have the same in every other field of the block, as it is read. -/
theorem read_block {α : Type} {read : Json → Option α} (h : m.SameButSignature m')
    (hread : ∀ v : Json, read v.sortKeys = read v) {key : String} (hne : key ≠ "signature") :
    (m.block.get key).bind read = (m'.block.get key).bind read := by
  rw [← Json.bind_map_sortKeys hread, h.block key hne, Json.bind_map_sortKeys hread]

theorem getStr_block (h : m.SameButSignature m') {key : String} (hne : key ≠ "signature") :
    m.block.getStr key = m'.block.getStr key :=
  h.read_block Json.asStr_sortKeys hne

/-- **What they say of the signature is the same.** -/
theorem withSignatureMetadata_eq (h : m.SameButSignature m') (result : Verification) :
    withSignatureMetadata result m.block = withSignatureMetadata result m'.block := by
  have hstr : ∀ key, key ≠ "signature" → m.block.getStr key = m'.block.getStr key :=
    fun _ => h.getStr_block
  have hepoch : (m.block.get "rotation_epoch").bind Json.asU32
      = (m'.block.get "rotation_epoch").bind Json.asU32 :=
    h.read_block Json.asU32_sortKeys (by decide)
  unfold withSignatureMetadata
  rw [hstr "algorithm" (by decide), hstr "key_id" (by decide), hstr "signed_at" (by decide),
    hstr "expires_at" (by decide), hstr "revoked_at" (by decide), hepoch,
    hstr "revocation_reason_class" (by decide)]

end SameButSignature

end SignedManifest

/-! ## What a verification says -/

/-- The record says of the signature what the block does. -/
def Verification.Describes (result : Verification) (block : Json) : Prop :=
  withSignatureMetadata result block = result

section Verify

variable {T : Type} [LT T] [DecidableLT T] {P : PolicyLibs T}

omit [LT T] [DecidableLT T] in
/-- **What is found of a detached signature**: it is refused, or it verifies
under the key of the block. -/
theorem verifyDetached_cases (P : PolicyLibs T) (result : Verification) (signature : Json)
    (canonical : Bytes) :
    (∃ fingerprint keySha message, verifyDetached P result signature canonical
        = .error (invalid { result with
          policyKeyFingerprint := fingerprint, publicKeySha256 := keySha } message))
      ∨ ∃ key detached fingerprint keySha, result.algorithm = some "Ed25519"
        ∧ decodeBase64 P (signature.getStr "public_key") = some key
        ∧ decodeBase64 P (signature.getStr "signature") = some detached
        ∧ key.length = 32 ∧ detached.length = 64
        ∧ P.verify key canonical detached = true
        ∧ verifyDetached P result signature canonical = .ok { result with
          policyKeyFingerprint := fingerprint, publicKeySha256 := keySha } := by
  unfold verifyDetached
  split
  · exact .inl ⟨_, _, _, rfl⟩
  · next halgorithm =>
    split
    · exact .inl ⟨_, _, _, rfl⟩
    · next key hkey =>
      split
      · exact .inl ⟨_, _, _, rfl⟩
      · next detached hdetached =>
        split
        · exact .inl ⟨_, _, _, rfl⟩
        · next hlengths =>
          rw [not_or, not_not, not_not] at hlengths
          by_cases hverify : P.verify key canonical detached = true
          · exact .inr ⟨key, detached, _, _, not_not.mp halgorithm, hkey, hdetached, hlengths.1,
              hlengths.2, hverify, if_pos hverify⟩
          · exact .inl ⟨_, _, _, if_neg hverify⟩

/-- The times of a signature say whether it is valid still; the manifest does
not attest itself again. -/
theorem applySignatureTime_cases (P : PolicyLibs T) (clock : ℕ → T) (result : Verification) :
    ∃ status evidence level error, status ≠ .selfAttested
      ∧ applySignatureTime P clock result = { result with
        status, evidence, manifestIdentityLevel := level, error } := by
  unfold applySignatureTime
  split
  · exact ⟨_, _, _, _, by decide, rfl⟩
  · split
    · refine ⟨_, _, _, _, ?_, rfl⟩
      split <;> decide
    · exact ⟨_, _, _, _, by decide, rfl⟩

namespace SignedManifest

/-- The key in the block. -/
def policyKey (P : PolicyLibs T) (m : SignedManifest) : Option Bytes :=
  decodeBase64 P (m.block.getStr "public_key")

/-- The detached signature in the block. -/
def detached (P : PolicyLibs T) (m : SignedManifest) : Option Bytes :=
  decodeBase64 P (m.block.getStr "signature")

/-- **What is found of a signed manifest.** -/
theorem verify_cases (P : PolicyLibs T) (clock : ℕ → T) (m : SignedManifest) :
    (verify P clock m.value).Describes m.block
      ∧ ((verify P clock m.value).status = .signedInvalid
        ∨ (verify P clock m.value).status ≠ .selfAttested
          ∧ ∃ key detached, m.policyKey P = some key ∧ m.detached P = some detached
            ∧ P.verify key (canonicalPayload P.toLibs m.value) detached = true) := by
  have hsignature : m.value.get "signature" = some (.object m.fields) := m.get_signature
  unfold verify
  rw [hsignature]
  dsimp only
  rcases verifyDetached_cases P
      (withSignatureMetadata (baseVerification P (canonicalPayload P.toLibs m.value))
        (.object m.fields)) (.object m.fields) (canonicalPayload P.toLibs m.value) with
    ⟨_, _, _, hrefused⟩ | ⟨key, detached, _, _, _, hkey, hdetached, _, _, hverify, haccepted⟩
  · rw [hrefused]
    exact ⟨rfl, .inl rfl⟩
  · rw [haccepted]
    dsimp only
    obtain ⟨_, _, _, _, hstatus, hresult⟩ := applySignatureTime_cases P clock _
    rw [hresult]
    exact ⟨rfl, .inr ⟨hstatus, key, detached, hkey, hdetached, hverify⟩⟩

/-- **The signature of a manifest that is valid verifies** under the key it
names. -/
theorem verify_of_valid {clock : ℕ → T} {m : SignedManifest}
    (h : (verify P clock m.value).status = .signedValid) :
    ∃ key detached, m.policyKey P = some key ∧ m.detached P = some detached
      ∧ P.verify key (canonicalPayload P.toLibs m.value) detached = true := by
  rcases (m.verify_cases P clock).2 with hinvalid | ⟨_, key, detached, hkey, hdetached, hverify⟩
  · exact absurd (h.symm.trans hinvalid) (by decide)
  · exact ⟨key, detached, hkey, hdetached, hverify⟩

/-- A manifest with a signature block never attests itself. -/
theorem status_ne_selfAttested (clock : ℕ → T) (m : SignedManifest) :
    (verify P clock m.value).status ≠ .selfAttested := by
  rcases (m.verify_cases P clock).2 with hinvalid | ⟨hstatus, _⟩
  · rw [hinvalid]
    decide
  · exact hstatus

end SignedManifest

/-- What is signed of manifests. -/
def payloads (L : Libs) (originals : Set SignedManifest) : Set Bytes :=
  {message | ∃ original ∈ originals, message = canonicalPayload L original.value}

/-- **Signed manifests are tamper-evident.** Two have one payload if and only
if they differ in the signature alone, up to the order of members. If both are
valid under one key and one signature, which is of one message, they are such,
and what is said of the signature is the same of both. And one whose signature
was made of others, each of which differs from it in more than the signature,
is not valid, and does not attest itself. -/
theorem signed_manifests_tamper_evident (hL : P.PrintsNumbers) (m m' : SignedManifest) :
    (canonicalPayload P.toLibs m.value = canonicalPayload P.toLibs m'.value
        ↔ m.SameButSignature m')
      ∧ (∀ key detached message, P.VerifiesOnly key detached {message} →
          m.policyKey P = some key → m'.policyKey P = some key →
          m.detached P = some detached → m'.detached P = some detached →
          ∀ clock clock' : ℕ → T, (verify P clock m.value).status = .signedValid →
          (verify P clock' m'.value).status = .signedValid →
          m.SameButSignature m'
            ∧ (verify P clock m.value).keyId = (verify P clock' m'.value).keyId
            ∧ (verify P clock m.value).expiresAt = (verify P clock' m'.value).expiresAt
            ∧ (verify P clock m.value).revokedAt = (verify P clock' m'.value).revokedAt
            ∧ (verify P clock m.value).rotationEpoch = (verify P clock' m'.value).rotationEpoch)
      ∧ (∀ originals : Set SignedManifest,
          (∀ key ∈ m'.policyKey P, ∀ detached ∈ m'.detached P,
            P.VerifiesOnly key detached (payloads P.toLibs originals)) →
          (∀ original ∈ originals, ¬ original.SameButSignature m') →
          ∀ clock : ℕ → T, (verify P clock m'.value).status ≠ .signedValid
            ∧ (verify P clock m'.value).status ≠ .selfAttested) := by
  refine ⟨m.canonicalPayload_eq_iff hL m', ?_, ?_⟩
  · intro key detached message honly hkey hkey' hdetached hdetached' clock clock' hvalid hvalid'
    obtain ⟨k, d, hk, hd, hverify⟩ := SignedManifest.verify_of_valid hvalid
    obtain ⟨k', d', hk', hd', hverify'⟩ := SignedManifest.verify_of_valid hvalid'
    obtain rfl : key = k := Option.some.inj (hkey.symm.trans hk)
    obtain rfl : key = k' := Option.some.inj (hkey'.symm.trans hk')
    obtain rfl : detached = d := Option.some.inj (hdetached.symm.trans hd)
    obtain rfl : detached = d' := Option.some.inj (hdetached'.symm.trans hd')
    have hpayload : canonicalPayload P.toLibs m.value = canonicalPayload P.toLibs m'.value :=
      (honly _ hverify).trans (honly _ hverify').symm
    have hsame : m.SameButSignature m' := (m.canonicalPayload_eq_iff hL m').mp hpayload
    -- what a record says of the signature is what the block says
    have hsays : withSignatureMetadata (verify P clock m.value) m.block
        = verify P clock m.value := (m.verify_cases P clock).1
    have hsays' : withSignatureMetadata (verify P clock' m'.value) m'.block
        = verify P clock' m'.value := (m'.verify_cases P clock').1
    rw [← hsame.withSignatureMetadata_eq] at hsays'
    rw [← hsays, ← hsays']
    exact ⟨hsame, rfl, rfl, rfl, rfl⟩
  · intro originals honly hchanged clock
    refine ⟨fun hvalid => ?_, m'.status_ne_selfAttested clock⟩
    obtain ⟨key, detached, hkey, hdetached, hverify⟩ := SignedManifest.verify_of_valid hvalid
    obtain ⟨original, horiginal, hpayload⟩ := honly key hkey detached hdetached _ hverify
    exact hchanged original horiginal ((original.canonicalPayload_eq_iff hL m').mp hpayload.symm)

end Verify

end PolicyManifest

/-! ## A manifest that is signed -/

namespace Sample

open PolicyManifest

/-- The key of the seed of sevens, -/
def policyKey : Bytes := bytes 32 0xea4a6c63e29c520abef5507b132ec5f9954776aebebe7b92421eea691446d22c

/-- in Base64. -/
def policyKeyText : String := "6kpsY+KcUgq+9VB7Ey7F+ZVHdq6+vnuSQh7qaRRG0iw="

/-- What it signs, -/
def policyPayload : Bytes :=
  utf8 ("\x7b\"retention\":\x7b\"logs_days\":0\x7d,\"signature\":\x7b\"algorithm\":\"Ed25519\","
    ++ "\"public_key\":\"6kpsY+KcUgq+9VB7Ey7F+ZVHdq6+vnuSQh7qaRRG0iw=\"\x7d,\"version\":\"1\"\x7d")

/-- the signature, -/
def policySignature : Bytes :=
  bytes 64 0x938e58acb01ee68d567f5ff173b63ba6f464f66e9474a91bd1e9ec37bbbf768ba93037d49018da95426556b536c1b4b9520476d2a9b16a32ba56a49ab6d22107

/-- and that in Base64. -/
def policySignatureText : String :=
  "k45YrLAe5o1Wf1/xc7Y7pvRk9m6UdKkb0ensN7u/doupMDfUkBjalUJlVrU2wbS5UgR20qmxajK6VqSattIhBw=="

/-- The libraries on the manifest. -/
def policyLibs : PolicyLibs ℤ where
  toLibs := { printingLibs with
    verify := fun pk msg sig => pk == policyKey && msg == policyPayload && sig == policySignature }
  sha256Bytes message := (
    [(policyPayload,
        bytes 32 0x14dd0ac6dac3c100cbee670e68d94c9023fe0939fc7b1d6d1e14e092e83e9bc5),
     (policyKey,
        bytes 32 0xfe812c12f3ab4ce6ac5db69ac352f906cb1b11ef43fb33e252ef7ff552263889),
     (utf8 "\x7b\"retention\":\x7b\"logs_days\":0\x7d,\"version\":\"1\"\x7d",
        bytes 32 0x2f673a34771ac23835154e42b515e62388ba6d513e32f13d14bc5761ea6b3051)].lookup
      message).getD []
  base64Decode text :=
    [(policyKeyText, policyKey), (policySignatureText, policySignature)].lookup text
  parseRfc3339 _ := none

/-- The signature is of the manifest alone. -/
theorem policyLibs_verifiesOnly (key : Bytes) :
    policyLibs.VerifiesOnly key policySignature {policyPayload} := by
  intro message h
  change (key == policyKey && message == policyPayload
    && policySignature == policySignature) = true at h
  rw [Bool.and_eq_true, Bool.and_eq_true, beq_iff_eq, beq_iff_eq] at h
  exact h.1.2

theorem policyLibs_printsNumbers : policyLibs.PrintsNumbers where
  printF64_inj := printingLibs_printsNumbers.printF64_inj
  printF64_chars := printingLibs_printsNumbers.printF64_chars
  printF64_float := printingLibs_printsNumbers.printF64_float

/-- The manifest, in a version and with a text for its signature. -/
def manifestWith (version signature : String) : SignedManifest where
  entries :=
    [("version", .string version), ("retention", .object [("logs_days", .number (.posInt 0))]),
     ("signature", .object
      [("algorithm", .string "Ed25519"), ("public_key", .string policyKeyText),
       ("signature", .string signature)])]
  fields :=
    [("algorithm", .string "Ed25519"), ("public_key", .string policyKeyText),
     ("signature", .string signature)]
  keys_nodup := (by decide : ["version", "retention", "signature"].Nodup)
  fields_nodup := (by decide : ["algorithm", "public_key", "signature"].Nodup)
  signature := List.mem_cons_of_mem _ (List.mem_cons_of_mem _ List.mem_cons_self)
  proper := by
    simp [Json.Proper, Json.ProperMembers, JsonNumber.Proper]

/-- The manifest that is signed, -/
def signedManifest : SignedManifest := manifestWith "1" policySignatureText

/-- the next version, with the signature of the first, -/
def nextManifest : SignedManifest := manifestWith "2" policySignatureText

/-- and one with a blank before the signature. -/
def blankBefore : SignedManifest := manifestWith "1" (" " ++ policySignatureText)

/-- What is read of a manifest that carries the signature, in whatever spelling. -/
structure Carries (m : SignedManifest) : Prop where
  status : (verify policyLibs (fun _ => 0) m.value).status = .signedValid
  detached : m.detached policyLibs = some policySignature
  key : m.policyKey policyLibs = some policyKey

theorem carries_signedManifest : Carries signedManifest where
  status := by decide +kernel
  detached := by decide +kernel
  key := by decide +kernel

theorem carries_blankBefore : Carries blankBefore where
  status := by decide +kernel
  detached := by decide +kernel
  key := by decide +kernel

theorem canonicalPayload_signedManifest :
    canonicalPayload policyLibs.toLibs signedManifest.value = policyPayload := by
  decide +kernel

end Sample

open Sample in
/-- **What of a signed manifest can be changed.** A manifest is signed, and the
signature is of it alone. With a blank before its signature it is another, and
valid; without the signature block it attests itself. -/
theorem PolicyManifest.signature_rewritten :
    policyLibs.VerifiesOnly policyKey policySignature
        {canonicalPayload policyLibs.toLibs signedManifest.value}
      ∧ blankBefore.policyKey policyLibs = some policyKey
      ∧ blankBefore.detached policyLibs = some policySignature
      ∧ (verify policyLibs (fun _ => 0) signedManifest.value).status = .signedValid
      ∧ ¬ signedManifest.value.SameUpToKeyOrder blankBefore.value
      ∧ (verify policyLibs (fun _ => 0) blankBefore.value).status = .signedValid
      ∧ (verify policyLibs (fun _ => 0)
          (signedManifest.value.remove "signature")).status = .selfAttested := by
  refine ⟨?_, carries_blankBefore.key, carries_blankBefore.detached,
    carries_signedManifest.status, fun h => ?_, carries_blankBefore.status, by decide +kernel⟩
  · rw [canonicalPayload_signedManifest]
    exact policyLibs_verifiesOnly policyKey
  · have hblock := (Json.sameUpToKeyOrder_object_iff_get signedManifest.keys_nodup
      blankBefore.keys_nodup).mp h "signature"
    have hsame : signedManifest.block.SameUpToKeyOrder blankBefore.block := Option.some.inj hblock
    have hsignature := (Json.sameUpToKeyOrder_object_iff_get signedManifest.fields_nodup
      blankBefore.fields_nodup).mp hsame "signature"
    exact absurd (Json.string.inj (Option.some.inj hsignature)) (by decide)

open Sample in
theorem PolicyManifest.signed_manifests_tamper_evident_sample :
    policyLibs.PrintsNumbers
      ∧ (verify policyLibs (fun _ => 0) signedManifest.value).status = .signedValid
      ∧ signedManifest.SameButSignature blankBefore
      ∧ (verify policyLibs (fun _ => 0) nextManifest.value).status ≠ .signedValid := by
  have hblank := (PolicyManifest.signed_manifests_tamper_evident policyLibs_printsNumbers
    signedManifest blankBefore).2.1 policyKey policySignature policyPayload
    (policyLibs_verifiesOnly policyKey) carries_signedManifest.key carries_blankBefore.key
    carries_signedManifest.detached carries_blankBefore.detached (fun _ => 0) (fun _ => 0)
    carries_signedManifest.status carries_blankBefore.status
  have hnext := (PolicyManifest.signed_manifests_tamper_evident policyLibs_printsNumbers
    signedManifest nextManifest).2.2 {signedManifest}
  refine ⟨policyLibs_printsNumbers, carries_signedManifest.status, hblank.1, (hnext ?_ ?_ fun _ => 0).1⟩
  · intro key _ detached hdetached message hverify
    obtain rfl : policySignature = detached :=
      Option.some.inj (carries_signedManifest.detached.symm.trans hdetached)
    exact ⟨signedManifest, rfl, (policyLibs_verifiesOnly key message hverify).trans
      canonicalPayload_signedManifest.symm⟩
  · rintro original rfl hsame
    have hversion := hsame.members "version" (by decide)
    exact absurd (Json.string.inj (Option.some.inj hversion)) (by decide)
