import IicpDirectory.Replica.Transcript
import IicpDirectory.Signing.Conformance
import IicpDirectory.Signing.Documents

/-!
# One key, eight kinds of documents

A signature is of bytes, and the directory has one key. So what it signs for
one purpose is safe only if no verifier of another purpose takes the same
bytes for its own.

What starts with a domain is safe: no domain starts with another, and behind
its domain each document is longer than a digest. Events and attestations
have no domain. What they sign is a digest, and of two digests only the
texts they are of tell which is which. An event's text starts with the
identity the directory minted, so it is never an attestation. The other way
there is nothing: the text of an attestation is read as that of an event
where it holds what ends one, two numbers and a digest between colons, and a
probe may name its test so. `separated_iff` says that this is the only way.
-/

open Federation DirectoryEvidence Replica

namespace Signing

/-! ## What a verifier takes -/

section Verifiers

variable (S : SigningLibs)

/-- **The forms of what is verified elsewhere.** Clients verify attestations and
descriptors, relays and nodes their tickets: none of it is in this
repository, and nothing is relied on but the form each has there. -/
structure OutsideForms (outside : Kind → Bytes → Prop) : Prop where
  attestation : ∀ {m}, outside .attestation m →
    ∃ members, m = attestationMessage S.toEvidenceLibs (.object members)
  relayTicket : ∀ {m}, outside .relayTicket m → ∃ payload bytes claims,
    m = tokenMessage TokenIssuance.relayTicketDomain payload
      ∧ S.base64UrlDecode payload = some bytes ∧ S.fromSlice bytes = some claims
      ∧ claims.getStr "typ" = some "relay-bind-ticket"
  dispatchTicket : ∀ {m}, outside .dispatchTicket m → ∃ payload bytes claims,
    m = tokenMessage Discovery.dispatchTicketDomain payload
      ∧ S.base64UrlDecode payload = some bytes ∧ S.fromSlice bytes = some claims
      ∧ claims.getStr "typ" = some "dispatch-route-ticket"
  descriptor : ∀ {m}, outside .descriptor m → utf8 LocalDirectoryDiscovery.signatureDomain <+: m

variable (outside : Kind → Bytes → Prop) {σ : Type} [NodeRepository σ] (repo : σ) (seed : Bytes)

/-- **The verifier of a kind accepts bytes** under the directory's public key, with
the directory's signature of them: for an event, one is accepted whose
message they are. -/
def Accepts (kind : Kind) (m : Bytes) : Prop :=
  match kind with
  | .event => ∃ (ev : FederatedEvent) (last : ℤ) (expected : Option String), ev.OnWire
      ∧ last < ev.seq ∧ signingMessage S.toLibs ev = some m
      ∧ ev.sig = some (Hex.encode (S.sign seed m))
      ∧ (verifyAndApply S.toLibs repo ev (some (pubkeyHexOf S.toLibs seed)) last
          expected).1.1.accepted = true
  | .consumerToken => ∃ payload target intent now,
      splitOnce '.' (payload ++ "." ++ Hex.encode (S.sign seed m))
          = some (payload, Hex.encode (S.sign seed m))
        ∧ tokenMessage TokenIssuance.consumerTokenDomain payload = m
        ∧ PolicyDetailDisclosure.verifyConsumerToken S
            (payload ++ "." ++ Hex.encode (S.sign seed m)) (pubkeyHexOf S.toLibs seed) target
            intent now ≠ PolicyDetailDisclosure.invalid
  | .membership => ∃ assertion,
      RestrictedDomainMembership.signingInput S.toEvidenceLibs assertion = some m
        ∧ RestrictedDomainMembership.verify S.toEvidenceLibs
            ⟨assertion, "Ed25519", S.base64UrlEncode (S.sign seed m)⟩
            (S.base64UrlEncode (S.publicKey seed)) = true
  | .deployment => ∃ record observedAt maxAge,
      DeploymentProvenance.recordMessage S.toEvidenceLibs (record.remove "signature") = some m
        ∧ DeploymentProvenance.verify S.toEvidenceLibs record (S.publicKey seed) observedAt
            maxAge = true
  | kind => outside kind m

end Verifiers

/-! ## Domains -/

/-- **No domain starts with another.** -/
theorem domain_inj {k k' : Kind} {d d' : Bytes} (hd : k.domain = some d) (hd' : k'.domain = some d')
    (h : d <+: d') : k = k' := by
  have hall : ∀ k ∈ [Kind.event, .attestation, .consumerToken, .relayTicket, .dispatchTicket,
      .membership, .deployment, .descriptor], ∀ k' ∈ [Kind.event, .attestation, .consumerToken,
      .relayTicket, .dispatchTicket, .membership, .deployment, .descriptor],
      ∀ d ∈ k.domain, ∀ d' ∈ k'.domain, d <+: d' → k = k' := by
    decide
  have hmem : ∀ k : Kind, k ∈ [Kind.event, .attestation, .consumerToken, .relayTicket,
      .dispatchTicket, .membership, .deployment, .descriptor] := by
    intro k
    cases k <;> decide
  exact hall k (hmem k) k' (hmem k') d hd d' hd' h

/-- What starts with two domains has one. -/
theorem kind_eq_of_domains {k k' : Kind} {d d' m : Bytes} (hd : k.domain = some d)
    (hd' : k'.domain = some d') (hm : d <+: m) (hm' : d' <+: m) : k = k' := by
  rcases List.prefix_or_prefix_of_prefix hm hm' with h | h
  · exact domain_inj hd hd' h
  · exact (domain_inj hd' hd h).symm

section Sizes

variable {S : SigningLibs}

/-- The domain of a token starts its message. -/
theorem prefix_tokenMessage (domain payload : String) :
    utf8 domain <+: tokenMessage domain payload := by
  unfold tokenMessage
  rw [utf8_append]
  exact List.prefix_append _ _

/-- **The size of a token** with a text in its claims. -/
theorem length_tokenMessage (hS : S.Lawful) (domain : String) {payload : String} {bytes : Bytes}
    (hdecode : S.base64UrlDecode payload = some bytes) {n : ℕ} (hn : n ≤ bytes.length) :
    3 * (utf8 domain).length + 4 * n ≤ 3 * (tokenMessage domain payload).length := by
  have hpayload := hS.base64UrlDecode_length hdecode
  have hutf8 := length_le_length_utf8 payload
  unfold tokenMessage
  rw [utf8_append, List.length_append]
  omega

/-- A token issued is as long as a text in its claims makes it. -/
theorem length_issuedToken (hS : S.Lawful) (domain : String) {s : String} {claims : Json}
    (h : claims.HasText s) : 3 * (utf8 domain).length + 4 * (s.toList.length + 2)
      ≤ 3 * (tokenMessage domain (b64urlJson S.toEvidenceLibs claims)).length := by
  refine length_tokenMessage hS domain (hS.base64UrlDecode_encode _) ?_
  exact (length_le_of_hasText h).trans (length_le_length_utf8 _)

/-- What is signed behind a domain starts with it, and is as long as a text of
the value makes it. -/
theorem of_jcs (hS : S.Lawful) {domain m : Bytes} {v : Json}
    (hm : (S.jcs v).map (domain ++ ·) = some m) : domain <+: m
      ∧ ∀ s, v.HasText s → domain.length + s.toList.length + 2 ≤ m.length := by
  obtain ⟨bytes, hjcs, rfl⟩ := Option.map_eq_some_iff.mp hm
  refine ⟨List.prefix_append _ _, fun s hs => ?_⟩
  have htexts := hS.jcs_texts hjcs hs
  rw [List.length_append]
  omega

/-! ## Forms -/

/-- **The form of the bytes of a kind**: a digest, or a text under its domain. -/
def FormOf (kind : Kind) (m : Bytes) : Prop :=
  match kind.domain with
  | none => m.length = 32
  | some domain => domain <+: m

/-- What is under a domain is longer than a digest. -/
def LongUnderDomain (kind : Kind) (m : Bytes) : Prop := kind.domain.isSome → 32 < m.length

/-- The domain of a descriptor alone is longer than a digest. -/
theorem lt_length_of_descriptor {m : Bytes}
    (h : utf8 LocalDirectoryDiscovery.signatureDomain <+: m) : 32 < m.length :=
  lt_of_lt_of_le (by decide) h.length_le

/-- What is under a domain in canonical form, with a text of a size, is longer
than a digest. -/
theorem lt_length_of_jcs (hS : S.Lawful) {domain m : Bytes} {v : Json}
    (hm : (S.jcs v).map (domain ++ ·) = some m) {s : String} (hs : v.HasText s)
    (hlong : 32 < domain.length + s.toList.length + 2) : 32 < m.length :=
  hlong.trans_le ((of_jcs hS hm).2 s hs)

theorem hasText_assertion (assertion : RestrictedDomainMembership.MembershipAssertion) :
    assertion.toJson.HasText "assertion_id" := .of_get (w := .string assertion.assertionId) rfl

theorem lt_length_of_membership (hS : S.Lawful)
    {assertion : RestrictedDomainMembership.MembershipAssertion} {m : Bytes}
    (hm : RestrictedDomainMembership.signingInput S.toEvidenceLibs assertion = some m) :
    32 < m.length :=
  lt_length_of_jcs hS hm (hasText_assertion assertion) (by decide)

/-- **The form of what the directory signs.** -/
theorem form_of_message (hS : S.Lawful) {d : Document} {m : Bytes}
    (hm : d.message S.toEvidenceLibs = some m) : FormOf d.kind m ∧ LongUnderDomain d.kind m := by
  -- a token has the name of its issuer among its claims
  have htoken : ∀ {domain : String} {claims : Json}, claims.getStr "iss" = some "https://iicp.network" →
      12 ≤ (utf8 domain).length → utf8 domain <+: tokenMessage domain (b64urlJson S.toEvidenceLibs claims)
        ∧ 32 < (tokenMessage domain (b64urlJson S.toEvidenceLibs claims)).length := by
    intro domain claims hiss hdomain
    refine ⟨prefix_tokenMessage _ _, ?_⟩
    have hlength := length_issuedToken hS domain (Json.HasText.of_getStr _ hiss)
    have hsize : "https://iicp.network".toList.length = 20 := rfl
    omega
  cases d with
  | event =>
    obtain rfl := Option.some.inj hm
    exact ⟨hS.evidence.sha256_length _, fun h => absurd h Bool.false_ne_true⟩
  | attestation =>
    obtain rfl := Option.some.inj hm
    exact ⟨hS.evidence.sha256_length _, fun h => absurd h Bool.false_ne_true⟩
  | consumerToken =>
    obtain rfl := Option.some.inj hm
    exact (htoken rfl (by decide)).imp_right fun h _ => h
  | relayTicket =>
    obtain rfl := Option.some.inj hm
    exact (htoken rfl (by decide)).imp_right fun h _ => h
  | dispatchTicket =>
    obtain rfl := Option.some.inj hm
    exact (htoken rfl (by decide)).imp_right fun h _ => h
  | membership => exact ⟨(of_jcs hS hm).1, fun _ => lt_length_of_membership hS hm⟩
  | deployment config =>
    have hkind : (Json.object config.unsignedRecord).HasText "deployment_kind" :=
      .of_get (w := .string config.kind) rfl
    exact ⟨(of_jcs hS hm).1, fun _ => lt_length_of_jcs hS hm hkind (by decide)⟩
  | descriptor => exact ⟨(of_jcs hS hm).1, fun _ => lt_length_of_descriptor (of_jcs hS hm).1⟩

/-- A consumer token that is not refused has claims, and they name an intent. -/
theorem claims_of_verified {token payload sig pk target intent : String} {now : ℤ}
    (hsplit : splitOnce '.' token = some (payload, sig))
    (h : PolicyDetailDisclosure.verifyConsumerToken S token pk target intent now
      ≠ PolicyDetailDisclosure.invalid) :
    ∃ bytes claims, S.base64UrlDecode payload = some bytes ∧ S.fromSlice bytes = some claims
      ∧ claims.HasText "intent" := by
  unfold PolicyDetailDisclosure.verifyConsumerToken at h
  simp only [hsplit] at h
  split at h
  · exact absurd rfl h
  split at h
  · split at h
    · cases hclaims : (S.base64UrlDecode payload).bind S.fromSlice with
      | none =>
        rw [hclaims] at h
        exact absurd rfl h
      | some claims =>
        obtain ⟨bytes, hdecode, hparse⟩ := Option.bind_eq_some_iff.mp hclaims
        rw [hclaims] at h
        simp only at h
        split at h
        · rename_i hfit
          simp only [PolicyDetailDisclosure.claimsFit, Bool.and_eq_true, beq_iff_eq] at hfit
          obtain ⟨w, hw, _⟩ := Option.bind_eq_some_iff.mp hfit.1.2
          exact ⟨bytes, claims, hdecode, hparse, .of_get hw⟩
        · exact absurd rfl h
    · exact absurd rfl h
  · exact absurd rfl h

section Accepted

variable {outside : Kind → Bytes → Prop} {σ : Type} [NodeRepository σ] {repo : σ} {seed : Bytes}

/-- **The form of what a verifier accepts.** A deployment record may be as short
as its verifier lets it, which asks for a signature only. -/
theorem form_of_accepts (hS : S.Lawful) (hout : OutsideForms S outside) {k : Kind} {m : Bytes}
    (h : Accepts S outside repo seed k m) :
    FormOf k m ∧ (k ≠ .deployment → LongUnderDomain k m) := by
  -- a ticket has its type among its claims
  have hticket : ∀ {domain typ : String}, 32 < (utf8 domain).length + typ.toList.length + 2 →
      (∃ payload bytes claims, m = tokenMessage domain payload
        ∧ S.base64UrlDecode payload = some bytes ∧ S.fromSlice bytes = some claims
        ∧ claims.getStr "typ" = some typ) → utf8 domain <+: m ∧ 32 < m.length := by
    rintro domain typ hlong ⟨payload, bytes, claims, rfl, hdecode, hparse, htyp⟩
    refine ⟨prefix_tokenMessage _ _, ?_⟩
    have hlength := length_tokenMessage hS domain hdecode
      (hS.fromSlice_texts hparse (.of_getStr _ htyp))
    omega
  cases k with
  | event =>
    obtain ⟨ev, _, _, _, _, hm, _⟩ := h
    rw [signingMessage_eq S.toLibs (badServiceId_of_signingMessage S.toLibs hm)] at hm
    obtain rfl := Option.some.inj hm
    exact ⟨hS.evidence.sha256_length _, fun _ hdomain => absurd hdomain (by decide)⟩
  | attestation =>
    obtain ⟨members, rfl⟩ := hout.attestation h
    exact ⟨hS.evidence.sha256_length _, fun _ hdomain => absurd hdomain (by decide)⟩
  | consumerToken =>
    obtain ⟨payload, target, intent, now, hsplit, rfl, hverified⟩ := h
    obtain ⟨bytes, claims, hdecode, hparse, hintent⟩ := claims_of_verified hsplit hverified
    have hlength := length_tokenMessage hS TokenIssuance.consumerTokenDomain hdecode
      (hS.fromSlice_texts hparse hintent)
    have hdomain : (utf8 TokenIssuance.consumerTokenDomain).length = 23 := by decide
    have hname : "intent".toList.length = 6 := rfl
    exact ⟨prefix_tokenMessage _ _, fun _ _ => by omega⟩
  | relayTicket =>
    exact (hticket (by decide) (hout.relayTicket h)).imp_right fun hlong _ _ => hlong
  | dispatchTicket =>
    exact (hticket (by decide) (hout.dispatchTicket h)).imp_right fun hlong _ _ => hlong
  | membership =>
    obtain ⟨assertion, hm, _⟩ := h
    exact ⟨(of_jcs hS hm).1, fun _ _ => lt_length_of_membership hS hm⟩
  | deployment =>
    obtain ⟨record, _, _, hm, _⟩ := h
    exact ⟨(of_jcs hS hm).1, fun hne => absurd rfl hne⟩
  | descriptor =>
    exact ⟨hout.descriptor h, fun _ _ => lt_length_of_descriptor (hout.descriptor h)⟩

end Accepted

end Sizes

/-! ## What ends a transcript -/

section Tails

variable (L : Libs)

/-- **What ends the transcript of an event**, before its link: the two numbers and
the digest of the payload, each between colons. -/
def tailText (seq tsMs : ℤ) (payload : Json) : String :=
  ":" ++ toString seq ++ ":" ++ toString tsMs ++ ":" ++ payloadHash L payload ++ ":"

/-- **A text holds a tail**: somewhere in it stands what ends the transcript of an
event that can be received. -/
def HoldsTail (text : String) : Prop :=
  ∃ (seq tsMs : ℤ) (payload : Json), IsI64 seq ∧ IsI64 tsMs ∧ payload.Proper
    ∧ (tailText L seq tsMs payload).toList <:+: text.toList

/-- The characters of a tail. -/
def isTailChar (c : Char) : Bool := c == ':' || c == '-' || (Hex.value c).isSome

theorem isTailChar_of_mem {seq tsMs : ℤ} {payload : Json} {c : Char}
    (h : c ∈ (tailText L seq tsMs payload).toList) : isTailChar c = true := by
  have hint : ∀ i : ℤ, c ∈ (toString i).toList → isTailChar c = true := by
    intro i hmem
    rcases NumberText.isDigit_or_sign_of_mem hmem with hdigit | rfl
    · have hvalue : (Hex.value c).isSome = true := by
        simp only [Char.isDigit, Bool.and_eq_true, decide_eq_true_eq, ge_iff_le,
          UInt32.le_iff_toNat_le] at hdigit
        unfold Hex.value
        rw [if_pos ⟨hdigit.1, hdigit.2⟩]
        rfl
      unfold isTailChar
      rw [hvalue, Bool.or_true]
    · rfl
  have hcolon : c ∈ ":".toList → isTailChar c = true := by
    intro hmem
    obtain rfl := List.mem_singleton.mp hmem
    rfl
  unfold tailText at h
  simp only [String.toList_append, List.mem_append] at h
  rcases h with (((((h | h) | h) | h) | h) | h) | h
  · exact hcolon h
  · exact hint seq h
  · exact hcolon h
  · exact hint tsMs h
  · exact hcolon h
  · obtain ⟨n, hn, rfl⟩ := Hex.exists_digit_of_mem h
    unfold isTailChar
    rw [Hex.value_digit hn, Option.isSome_some, Bool.or_true]
  · exact hcolon h

/-- A tail is a word of texts. -/
theorem textWord_tailText (seq tsMs : ℤ) (payload : Json) :
    TextWord (tailText L seq tsMs payload).toList where
  head := by
    unfold tailText
    simp only [String.toList_append, List.append_assoc]
    rfl
  colons := by
    have hcolon : ":".toList.count ':' = 1 := by decide
    unfold tailText
    simp only [String.toList_append, List.count_append, hcolon]
    omega
  plain c hc hmem := by
    have hpunctuation : punctuation.all (fun c => !isTailChar c) = true := by decide
    have hnot : (!isTailChar c) = true := List.all_eq_true.mp hpunctuation c hc
    rw [isTailChar_of_mem L hmem] at hnot
    exact Bool.noConfusion hnot

/-- Its characters need no escape. -/
theorem escapeChar_of_isTailChar {c : Char} (h : isTailChar c = true) : escapeChar c = [c] := by
  have hcode : c.toNat = 45 ∨ 48 ≤ c.toNat ∧ c.toNat ≤ 70 ∨ 97 ≤ c.toNat ∧ c.toNat ≤ 102 := by
    unfold isTailChar Hex.value at h
    simp only [Bool.or_eq_true, beq_iff_eq] at h
    rcases h with (rfl | rfl) | h
    · exact Or.inr (Or.inl (by decide))
    · exact Or.inl rfl
    · split at h
      · omega
      · split at h
        · omega
        · split at h
          · omega
          · exact absurd h (by simp)
  unfold escapeChar
  split
  iterate 7 omega
  exact if_neg (by omega)

/-- **A tail is long**: of its digest alone there are sixty-four characters. -/
theorem length_of_holdsTail {L : Libs} (hL : L.Lawful) {text : String} (h : HoldsTail L text) :
    64 ≤ text.toList.length := by
  obtain ⟨seq, tsMs, payload, _, _, _, hin⟩ := h
  have hlength := hin.length_le
  have hdigest : (payloadHash L payload).toList.length = 64 := by
    rw [payloadHash, Hex.length_encode, hL.sha256_length]
  unfold tailText at hlength
  simp only [String.toList_append, List.length_append] at hlength
  omega

/-- The transcript of an event that can be received holds its tail. -/
theorem holdsTail_transcript {ev : FederatedEvent} (hev : ev.OnWire) :
    HoldsTail L (transcript L ev) := by
  refine ⟨ev.seq, ev.tsMs, ev.payload, hev.seq, hev.tsMs, hev.payload, ?_⟩
  refine ⟨(ev.serviceId.elim "" (fun serviceId => servicePrefix ++ ":" ++ serviceId ++ ":")
    ++ ev.eventId ++ ":" ++ ev.eventType).toList, ev.link.toList, ?_⟩
  unfold transcript tailText
  cases ev.serviceId with
  | none => simp only [Option.elim, ← String.toList_append, String.append_assoc]
  | some serviceId => simp only [Option.elim, ← String.toList_append, String.append_assoc]

end Tails

/-! ## The text of an attestation -/

section Attestations

/-- **The texts of an attestation that are its own**: the endpoint, and what the
run is told by its probes. -/
def attestationTexts (run : ConformanceRun) (publicUrl : Option String) : List String :=
  trimEndSlashes (publicUrl.getD "https://iicp.network") :: run.runId :: run.probedAt
    :: (run.passed ++ run.failed)

variable {S : SigningLibs} {run : ConformanceRun} {publicUrl : Option String} {nowNs : ℤ}

/-- The others are short: the keys, what is the same in each, the dates. -/
theorem mem_or_short_of_hasText (hS : S.Lawful) {s : String}
    (h : (Json.object (attestationEntries S.toEvidenceLibs run publicUrl nowNs)).HasText s) :
    s ∈ attestationTexts run publicUrl ∨ s.toList.length ≤ 40 := by
  have hdate := hS.toRfc3339_length
  cases h with
  | @key _ e he =>
    have hkeys : ∀ key ∈ ["endpoint", "spec_version", "purpose", "probe_run_id", "probe_run_at",
        "passed_probes", "failed_probes", "generated_at", "valid_until"],
        key.toList.length ≤ 40 := by decide
    refine Or.inr (hkeys _ ?_)
    rw [← attestationEntries_keys (E := S.toEvidenceLibs) run publicUrl nowNs]
    exact List.mem_map_of_mem he
  | member he hs =>
    simp only [attestationEntries, List.mem_cons, List.not_mem_nil, or_false] at he
    rcases he with rfl | rfl | rfl | rfl | rfl | rfl | rfl | rfl | rfl
    · rw [Json.hasText_string hs]
      exact Or.inl List.mem_cons_self
    · rw [Json.hasText_string hs]
      exact Or.inr (by decide)
    · rw [Json.hasText_string hs]
      exact Or.inr (by decide)
    · rw [Json.hasText_string hs]
      exact Or.inl (by simp [attestationTexts])
    · rw [Json.hasText_string hs]
      exact Or.inl (by simp [attestationTexts])
    · exact Or.inl (by simp [attestationTexts, Json.hasText_ofStrings hs])
    · exact Or.inl (by simp [attestationTexts, Json.hasText_ofStrings hs])
    · rw [Json.hasText_string hs]
      exact Or.inr (hdate _)
    · rw [Json.hasText_string hs]
      exact Or.inr (hdate _)

/-- Its own texts are held. -/
theorem hasText_of_mem (E : EvidenceLibs) (nowNs : ℤ) {s : String}
    (h : s ∈ attestationTexts run publicUrl) :
    (Json.object (attestationEntries E run publicUrl nowNs)).HasText s := by
  have hitem : ∀ {items : List String}, s ∈ items → (Json.ofStrings items).HasText s := fun hmem =>
    .item (List.mem_map_of_mem hmem) (.string s)
  simp only [attestationTexts, List.mem_cons, List.mem_append] at h
  rcases h with rfl | rfl | rfl | hpassed | hfailed
  · exact .of_getStr "endpoint" rfl
  · exact .of_getStr "probe_run_id" rfl
  · exact .of_getStr "probe_run_at" rfl
  · exact .member (e := ("passed_probes", Json.ofStrings run.passed)) (by simp [attestationEntries])
      (hitem hpassed)
  · exact .member (e := ("failed_probes", Json.ofStrings run.failed)) (by simp [attestationEntries])
      (hitem hfailed)

/-- **An attestation starts with its endpoint.** -/
theorem exists_toList_attestation (L : Libs) (E : EvidenceLibs) (run : ConformanceRun)
    (publicUrl : Option String) (nowNs : ℤ) :
    ∃ more, (canonicalJson L (.object (attestationEntries E run publicUrl nowNs))).toList
      = Char.ofNat 123 :: quoteMark :: ("endpoint".toList ++ quoteMark :: ':' :: quoteMark
        :: more) := by
  have hfirst : Json.sortMembers (attestationEntries E run publicUrl nowNs)
      = ("endpoint", .string (trimEndSlashes (publicUrl.getD "https://iicp.network")))
        :: Json.sortMembers (attestationEntries E run publicUrl nowNs).tail := by
    have hkeys : ∀ key ∈ ["spec_version", "purpose", "probe_run_id", "probe_run_at",
        "passed_probes", "failed_probes", "generated_at", "valid_until"], "endpoint" ≤ key := by
      decide
    exact List.insertionSort_cons_of_forall_rel (r := fun a b : String × Json => a.1 ≤ b.1)
      fun e he => hkeys e.1 (List.mem_map_of_mem (f := Prod.fst) he)
  have hname : "endpoint".toList.flatMap escapeChar = "endpoint".toList := by decide
  have htext : ∀ t : String, (canonicalJson L (.string t)).toList
      = quoteMark :: (t.toList.flatMap escapeChar ++ [quoteMark]) := toList_quote
  rw [toList_canonicalJson_object, hfirst, Delimited.row, memberText, toList_quote, hname, htext]
  simp only [List.cons_append, List.append_assoc, List.nil_append]
  exact ⟨_, rfl⟩

end Attestations

/-! ## Separation -/

section Separated

/-- **The digest of a text stands alone**: no other text has it, and it does not
start like a deployment record. A SHA-256 that is injective has the first of
every text; the second is of the 26 bytes of a domain. -/
structure DigestStandsAlone (S : SigningLibs) (text : String) : Prop where
  alone : ∀ other, S.sha256 other = S.sha256 text → other = text
  noRecord : ¬ DeploymentProvenance.domain <+: S.sha256 text

variable {S : SigningLibs} {outside : Kind → Bytes → Prop} {σ : Type} [NodeRepository σ] {repo : σ}
  {seed : Bytes}

/-- **An event of no known type is accepted** under a signature of its transcript:
it is skipped, and the replica's mark moves. -/
theorem accepts_event (hE : S.toEvidenceLibs.Lawful) {ev : FederatedEvent} (hev : ev.OnWire)
    (hservice : ev.serviceId = none) (htype : ev.eventType.toList.head? = some quoteMark)
    (hsig : ev.sig = some (Hex.encode (S.sign seed (S.sha256 (transcript S.toLibs ev))))) :
    Accepts S outside repo seed .event (S.sha256 (transcript S.toLibs ev)) := by
  have hbad : badServiceId ev = false := by
    unfold badServiceId
    rw [hservice]
    rfl
  have hunknown : ∀ name : String, name.toList.head? ≠ some quoteMark → ev.eventType ≠ name := by
    rintro name hname rfl
    exact hname htype
  have hmalformed : malformed ev = none := by
    unfold malformed
    rw [if_neg (hunknown _ (by decide)), if_neg (hunknown _ (by decide)),
      if_neg (hunknown _ (by decide)), if_neg (hunknown _ (by decide)),
      if_neg (hunknown _ (by decide)), if_neg (hunknown _ (by decide)),
      if_neg (hunknown _ (by decide))]
  have hpersists : persists repo ev = true := by
    unfold persists
    rw [if_neg (hunknown _ (by decide))]
  have hmessage := signingMessage_eq S.toLibs hbad
  refine ⟨ev, ev.seq - 1, none, hev, by omega, hmessage, hsig, ?_⟩
  refine (verifyAndApply_accepted_iff S.toLibs).mpr ?_
  unfold refusal
  rw [hbad, if_neg Bool.false_ne_true, if_neg (by omega), Option.or_eq_none_iff]
  refine ⟨verificationRefusal_eq_none_iff.mpr
    ⟨⟨_, _, hsig, hmessage, verifyEvent_sign hE seed _⟩, by simp⟩, ?_⟩
  unfold applyRefusal
  rw [hmalformed, hpersists]
  rfl

/-- **An event is no attestation**: its text starts with an identity, an
attestation's with a brace. -/
theorem not_accepts_attestation (hout : OutsideForms S outside) {eventId : Uuid}
    {eventType prevHash text : String} {seq tsMs : ℤ} {payload : Json}
    (htext : (Document.event eventId eventType seq tsMs payload prevHash).digested S.toEvidenceLibs
      = some text) (halone : DigestStandsAlone S text) :
    ¬ Accepts S outside repo seed .attestation (S.sha256 text) := by
  intro h
  obtain ⟨members, hm⟩ := hout.attestation h
  have hsame : canonicalJson S.toLibs (.object members) = text := halone.alone _ hm.symm
  obtain rfl := Option.some.inj htext
  obtain ⟨c, rest, hid⟩ := List.exists_cons_of_length_pos
    (by rw [eventId.length]; decide : 0 < eventId.text.toList.length)
  have hheads := congrArg (fun t => t.toList.head?) hsame
  simp only [toList_canonicalJson_object, String.toList_append, hid, List.cons_append,
    List.head?_cons, Option.some.injEq] at hheads
  rcases eventId.chars c (hid ▸ List.mem_cons_self) with hdigit | hhyphen
  · rw [← hheads] at hdigit
    exact absurd hdigit (by decide)
  · rw [← hheads] at hhyphen
    exact absurd hhyphen (by decide)

variable {run : ConformanceRun} {publicUrl : Option String} {nowNs : ℤ}

/-- **An attestation that is accepted as an event holds a tail** in one of its own
texts. -/
theorem holdsTail_of_accepts (hS : S.Lawful) (hP : S.toLibs.PrintsNumbers) {text : String}
    (htext : (Document.attestation run publicUrl nowNs).digested S.toEvidenceLibs = some text)
    (halone : DigestStandsAlone S text)
    (h : Accepts S outside repo seed .event (S.sha256 text)) :
    ∃ s ∈ attestationTexts run publicUrl, HoldsTail S.toLibs s := by
  obtain ⟨ev, _, _, hev, _, hm, _⟩ := h
  rw [signingMessage_eq S.toLibs (badServiceId_of_signingMessage S.toLibs hm)] at hm
  have hsame := halone.alone _ (Option.some.inj hm)
  obtain rfl := Option.some.inj htext
  obtain ⟨seq, tsMs, payload, hseq, hts, hpayload, hin⟩ := holdsTail_transcript S.toLibs hev
  rw [hsame] at hin
  obtain ⟨s, hs, hin⟩ := exists_hasText_of_infix hP (textWord_tailText S.toLibs seq tsMs payload) hin
  have htail : HoldsTail S.toLibs s := ⟨seq, tsMs, payload, hseq, hts, hpayload, hin⟩
  rcases mem_or_short_of_hasText hS hs with hmem | hshort
  · exact ⟨s, hmem, htail⟩
  · have hlong := length_of_holdsTail hS.evidence.toLawful htail
    omega

/-- **An attestation that holds a tail is accepted as an event**: the one whose
identity is the opening of its text, and whose type is what comes before the
tail. -/
theorem accepts_of_holdsTail (hS : S.Lawful) {text : String}
    (htext : (Document.attestation run publicUrl nowNs).digested S.toEvidenceLibs = some text)
    {s : String} (hs : s ∈ attestationTexts run publicUrl) (htail : HoldsTail S.toLibs s) :
    Accepts S outside repo seed .event (S.sha256 text) := by
  obtain ⟨seq, tsMs, payload, hseq, hts, hpayload, hin⟩ := htail
  have hw := textWord_tailText S.toLibs seq tsMs payload
  have hquote : quoteMark ∉ (tailText S.toLibs seq tsMs payload).toList := hw.plain _ (by decide)
  obtain rfl := Option.some.inj htext
  have hcanonical := infix_of_hasText (L := S.toLibs)
    (fun c hc => escapeChar_of_isTailChar (isTailChar_of_mem S.toLibs hc))
    (hasText_of_mem S.toEvidenceLibs nowNs hs) hin
  obtain ⟨more, hmore⟩ := exists_toList_attestation S.toLibs S.toEvidenceLibs run publicUrl nowNs
  -- the tail stands behind the opening of the first text
  rw [hmore, Occurrence.infix_cons_iff_of_notMem (hw.plain _ (by decide)),
    Occurrence.infix_cons_iff_of_notMem hquote, Occurrence.infix_append_cons_iff hquote] at hcanonical
  have hbehind : (tailText S.toLibs seq tsMs payload).toList <:+: more := by
    rcases hcanonical with hname | hvalue
    · exact absurd hname (hw.not_infix (by decide))
    · rcases List.infix_cons_iff.mp hvalue with hstart | hrest
      · obtain ⟨t, ht, hcolon⟩ := hw.exists_cons
        rw [ht] at hstart hquote
        have hnil := Occurrence.eq_nil_of_prefix_cons
          (fun hmem => hquote (List.mem_cons_of_mem _ hmem)) (List.cons_prefix_cons.mp hstart).2
        rw [hnil] at hcolon
        exact absurd hcolon List.not_mem_nil
      · exact (Occurrence.infix_cons_iff_of_notMem hquote).mp hrest
  obtain ⟨before, after, hsplit⟩ := hbehind
  let ev : FederatedEvent :=
    { eventId := String.ofList (Char.ofNat 123 :: quoteMark :: ("endpoint".toList ++ [quoteMark]))
      eventType := String.ofList (quoteMark :: before)
      serviceId := none
      seq := seq
      tsMs := tsMs
      nodeId := none
      payload := payload
      prevHash := some (String.ofList after)
      sig := some (Hex.encode (S.sign seed (S.sha256
        (canonicalJson S.toLibs (.object (attestationEntries S.toEvidenceLibs run publicUrl nowNs))))))
      signerDid := none }
  have htranscript : transcript S.toLibs ev
      = canonicalJson S.toLibs (.object (attestationEntries S.toEvidenceLibs run publicUrl nowNs)) := by
    refine String.toList_inj.mp ?_
    rw [hmore, ← hsplit]
    unfold transcript tailText
    simp only [ev, FederatedEvent.link, Option.getD_some, String.toList_append,
      String.toList_ofList, List.append_assoc, List.cons_append, List.nil_append]
    rfl
  rw [← htranscript]
  refine accepts_event hS.evidence ⟨hseq, hts, hpayload⟩ rfl ?_ ?_
  · show (String.ofList (quoteMark :: before)).toList.head? = some quoteMark
    rw [String.toList_ofList, List.head?_cons]
  · rw [htranscript]

/-- What has no domain is signed as the digest of its text. -/
theorem exists_digested {E : EvidenceLibs} {d : Document} (h : d.kind.domain = none) :
    ∃ text, d.digested E = some text ∧ d.message E = some (E.sha256 text) := by
  cases d with
  | event => exact ⟨_, rfl, rfl⟩
  | attestation => exact ⟨_, rfl, rfl⟩
  | _ => exact absurd h (by simp [Document.kind, Kind.domain])

/-- **When what is signed for one purpose is signed for no other**: the bytes of a
document are accepted by no verifier of another kind, if and only if it is
no attestation, or an attestation with no tail in its endpoint, its run, the
time of that or the names of the tests. -/
theorem separated_iff (hS : S.Lawful) (hP : S.toLibs.PrintsNumbers) (hout : OutsideForms S outside)
    {d : Document} {m : Bytes} (hm : d.message S.toEvidenceLibs = some m)
    (halone : ∀ text, d.digested S.toEvidenceLibs = some text → DigestStandsAlone S text) :
    (∀ k, k ≠ d.kind → ¬ Accepts S outside repo seed k m)
      ↔ ∀ run publicUrl nowNs, d = .attestation run publicUrl nowNs →
        ∀ s ∈ attestationTexts run publicUrl, ¬ HoldsTail S.toLibs s := by
  constructor
  · rintro h run publicUrl nowNs rfl s hs htail
    obtain rfl := Option.some.inj hm
    exact h .event Kind.noConfusion (accepts_of_holdsTail hS rfl hs htail)
  · intro h k hk haccepts
    obtain ⟨hform, hlong⟩ := form_of_message hS hm
    obtain ⟨hform', hlong'⟩ := form_of_accepts hS hout haccepts
    unfold FormOf at hform hform'
    unfold LongUnderDomain at hlong hlong'
    cases hdomain : d.kind.domain with
    | some domain =>
      rw [hdomain] at hform hlong
      have hsize := hlong rfl
      cases hdomain' : k.domain with
      | some domain' =>
        rw [hdomain'] at hform'
        exact hk (kind_eq_of_domains hdomain' hdomain hform' hform)
      | none =>
        rw [hdomain'] at hform'
        omega
    | none =>
      rw [hdomain] at hform
      obtain ⟨text, htext, hdigest⟩ := exists_digested (E := S.toEvidenceLibs) hdomain
      obtain rfl := Option.some.inj (hm.symm.trans hdigest)
      have hstands := halone text htext
      cases hdomain' : k.domain with
      | some domain' =>
        rw [hdomain'] at hform' hlong'
        by_cases hrecord : k = .deployment
        · subst hrecord
          obtain rfl := Option.some.inj hdomain'
          exact hstands.noRecord hform'
        · have hsize := hlong' hrecord rfl
          omega
      | none =>
        -- of the two kinds that are digests, one is the document's
        cases d with
        | event =>
          cases k with
          | event => exact hk rfl
          | attestation => exact not_accepts_attestation hout htext hstands haccepts
          | _ => exact absurd hdomain' (by simp [Kind.domain])
        | attestation run publicUrl nowNs =>
          cases k with
          | event =>
            obtain ⟨s, hs, htail⟩ := holdsTail_of_accepts hS hP htext hstands haccepts
            exact h run publicUrl nowNs rfl s hs htail
          | attestation => exact hk rfl
          | _ => exact absurd hdomain' (by simp [Kind.domain])
        | _ => exact absurd hdomain (by simp [Document.kind, Kind.domain])

end Separated

/-- **What a directory with a database attests of its probes holds no tail**: no
column of a probe is as long as one. -/
theorem not_holdsTail_of_latest {S : SigningLibs} (hS : S.Lawful)
    {collates : String → String → Bool} {dateFormat : ℕ → String}
    (hdate : ∀ second, (dateFormat second).toList.length ≤ 40)
    {rows : List MySqlProbes.ProbeRow} {run : ConformanceRun} {publicUrl : Option String}
    (h : MySqlProbes.latestConformanceRun collates dateFormat rows = some run) :
    ∀ s ∈ (attestationTexts run publicUrl).tail, ¬ HoldsTail S.toLibs s := by
  intro s hs htail
  obtain ⟨hrun, ⟨second, hsecond⟩, htests⟩ := MySqlProbes.short_of_latest h
  have hlong := length_of_holdsTail hS.evidence.toLawful htail
  simp only [attestationTexts, List.tail_cons, List.mem_cons] at hs
  rcases hs with rfl | rfl | htest
  · omega
  · rw [hsecond] at hlong
    have hshort := hdate second
    omega
  · have hshort := htests s htest
    omega

end Signing

/-! ## A test whose name registers a node -/

namespace Sample

open Signing

/-- The name of a test that holds the tail of a registration. -/
def forgedTest : String :=
  "x:REGISTER:9:9:d4a17de9eafe896b0ea3a8b3eb35c1e21a90c09f5a3e692125a1b61997282b43:"

/-- A conformance probe of a test. -/
def probeOf (testId : String) (passed : Bool) : ProbeResult where
  probeId := "p1"
  probeType := "conformance"
  testId := some testId
  level := "must"
  passed := passed
  latencyMs := none
  detail := none
  runId := "run-current"
  probedAt := some "2026-07-29T15:16:51Z"
  nodeId := none

/-- The run of some tests. -/
def runOf (passed failed : List String) : ConformanceRun where
  runId := "run-current"
  probedAt := "2026-07-29T15:16:51Z"
  passed := passed
  failed := failed

/-- When the samples are attested. -/
def attestedAtNs : ℤ := 1785338211 * 10 ^ 9

/-- The text of an attestation, of its tests. -/
def attestationText (failed passed : String) : String :=
  "\x7b\"endpoint\":\"https://iicp.network\",\"failed_probes\":[" ++ failed
    ++ "],\"generated_at\":\"2026-07-29T15:16:51+00:00\",\"passed_probes\":[" ++ passed
    ++ "],\"probe_run_at\":\"2026-07-29T15:16:51Z\",\"probe_run_id\":\"run-current\","
    ++ "\"purpose\":\"compliance-attestation\",\"spec_version\":\"iicp-dir v1.1.0\","
    ++ "\"valid_until\":\"2026-07-29T15:31:51+00:00\"\x7d"

/-- The text of an attestation of two tests. -/
def honestText : String := attestationText "\"DIR-TWO\"" "\"DIR-ONE\""

/-- The text of the attestation of the forged test. -/
def forgedText : String := attestationText "" ("\"" ++ forgedTest ++ "\"")

/-- The digests of the two texts and of the payload of the forged event. -/
def attestationDigests : List (String × ℕ) :=
  [(honestText, 0x1a92327723eb774067668bb32551364afe1f0cebe584e7a5ce8c3f16e4902731),
   (forgedText, 0x80f17a281b38e7e43104d6b3a26f945678c87212ae8971c5d2fcdf6cd2ced22c),
   ("\x7b\"endpoint\":\"https://evil.test\"\x7d",
     0xd4a17de9eafe896b0ea3a8b3eb35c1e21a90c09f5a3e692125a1b61997282b43)]

/-- The seed of the sample key. -/
def seed : Bytes := List.replicate 32 17

/-- The signatures of the samples, with that of the forged attestation. -/
def attestationSignature (pk msg : Bytes) : Bytes :=
  if pk = publicKeyFor seed
      ∧ msg = bytes 32 0x80f17a281b38e7e43104d6b3a26f945678c87212ae8971c5d2fcdf6cd2ced22c then
    bytes 64 0x92358bc365f2c48b02241ac839b75690c400c747d3fe546a29f10cb1d994ab2471f67bff75e82ce06283f73b9d5a2d276728c90b75e60931d6c366ada266fd0b
  else signatureFor pk msg

/-- **The libraries on the samples of attestations.** -/
def signingLibs : SigningLibs where
  toLibs := { printingLibs with
    sha256 := fun s => bytes 32 (tableValue attestationDigests s)
    publicKey := publicKeyFor
    sign := fun seed msg => attestationSignature (publicKeyFor seed) msg
    verify := fun pk msg sig => sig == attestationSignature pk msg
    base64UrlDecode := evidenceLibs.base64UrlDecode }
  base64UrlEncode := evidenceLibs.base64UrlEncode
  jcs v := some (utf8 (canonicalJson printingLibs v))
  toRfc3339 ns :=
    if ns = attestedAtNs then "2026-07-29T15:16:51+00:00" else "2026-07-29T15:31:51+00:00"
  fromSlice _ := none

/-- Two digits are one byte. -/
theorem length_of_decodeChars {cs : List Char} {raw : Bytes} (h : Hex.decodeChars cs = some raw) :
    cs.length = 2 * raw.length := by
  induction cs using Hex.decodeChars.induct generalizing raw with
  | case1 => obtain rfl := Option.some.inj h; rfl
  | case2 c => exact absurd h (by simp [Hex.decodeChars])
  | case3 a b rest ih =>
    simp only [Hex.decodeChars, Option.bind_eq_bind, Option.bind_eq_some_iff] at h
    obtain ⟨_, _, _, _, tail, htail, hraw⟩ := h
    obtain rfl := Option.some.inj hraw
    rw [List.length_cons, List.length_cons, ih htail, List.length_cons]
    omega

/-- The texts of the table are as long as Base64 makes them. -/
theorem base64Texts_length : ∀ e ∈ base64Texts, 4 * e.1.length ≤ 3 * e.2.toList.length := by
  decide

theorem signingLibs_lawful : signingLibs.Lawful where
  evidence :=
    { sha256_length := fun _ => length_bytes 32 _
      publicKey_length := length_publicKeyFor
      sign_length := fun seed msg => by
        show (attestationSignature (publicKeyFor seed) msg).length = 64
        unfold attestationSignature
        split
        · exact length_bytes 64 _
        · exact length_signatureFor (length_publicKeyFor _) _
      verify_sign := fun _ _ => beq_self_eq_true _
      base64UrlDecode_encode := evidenceLibs_lawful.base64UrlDecode_encode }
  base64UrlDecode_length {text raw} h := by
    dsimp only [signingLibs, evidenceLibs] at h
    cases hfind : base64Texts.find? (fun e => e.2 == text) with
    | some e =>
      rw [hfind] at h
      obtain rfl := Option.some.inj h
      obtain rfl : e.2 = text := by simpa using List.find?_some hfind
      exact base64Texts_length e (List.mem_of_find?_eq_some hfind)
    | none =>
      rw [hfind] at h
      have hlength := length_of_decodeChars h
      omega
  fromSlice_texts h := absurd h (by simp [signingLibs])
  jcs_texts h hs := by
    obtain rfl := Option.some.inj h
    exact (length_le_of_hasText hs).trans (length_le_length_utf8 _)
  toRfc3339_length ns := by
    show (if ns = attestedAtNs then _ else _ : String).toList.length ≤ 40
    split <;> decide

theorem signingLibs_printsNumbers : signingLibs.toLibs.PrintsNumbers :=
  ⟨printingLibs_printsNumbers.printF64_inj, printingLibs_printsNumbers.printF64_chars,
    printingLibs_printsNumbers.printF64_float⟩

/-- What is verified elsewhere, in the forms relied on. -/
def outside : Kind → Bytes → Prop
  | .attestation, m =>
    ∃ members, m = attestationMessage signingLibs.toEvidenceLibs (.object members)
  | .relayTicket, m => ∃ payload raw claims,
    m = tokenMessage TokenIssuance.relayTicketDomain payload
      ∧ signingLibs.base64UrlDecode payload = some raw ∧ signingLibs.fromSlice raw = some claims
      ∧ claims.getStr "typ" = some "relay-bind-ticket"
  | .dispatchTicket, m => ∃ payload raw claims,
    m = tokenMessage Discovery.dispatchTicketDomain payload
      ∧ signingLibs.base64UrlDecode payload = some raw ∧ signingLibs.fromSlice raw = some claims
      ∧ claims.getStr "typ" = some "dispatch-route-ticket"
  | .descriptor, m => utf8 LocalDirectoryDiscovery.signatureDomain <+: m
  | _, _ => False

theorem outside_forms : OutsideForms signingLibs outside := ⟨id, id, id, id⟩

theorem signingLibs_sha256 (s : String) : signingLibs.sha256 s
    = bytes 32 (tableValue attestationDigests s) := rfl

/-- The digest of the honest text. -/
def honestDigest : ℕ := 0x1a92327723eb774067668bb32551364afe1f0cebe584e7a5ce8c3f16e4902731

/-- The digest of the forged text. -/
def forgedDigest : ℕ := 0x80f17a281b38e7e43104d6b3a26f945678c87212ae8971c5d2fcdf6cd2ced22c

/-- The signature of the forged attestation. -/
def forgedSig : String :=
  "92358bc365f2c48b02241ac839b75690c400c747d3fe546a29f10cb1d994ab24"
    ++ "71f67bff75e82ce06283f73b9d5a2d276728c90b75e60931d6c366ada266fd0b"

/-- The event that the attestation of the forged test is read as. -/
def forgedEvent : FederatedEvent where
  eventId := "\x7b\"endpoint\":\"https://iicp.network\",\"failed_probes\":[],\"generated_at\":"
    ++ "\"2026-07-29T15:16:51+00:00\",\"passed_probes\":[\"x"
  eventType := "REGISTER"
  serviceId := none
  seq := 9
  tsMs := 9
  nodeId := some "n-evil"
  payload := endpointPayload "https://evil.test"
  prevHash := some ("\"],\"probe_run_at\":\"2026-07-29T15:16:51Z\",\"probe_run_id\":\"run-current\","
    ++ "\"purpose\":\"compliance-attestation\",\"spec_version\":\"iicp-dir v1.1.0\","
    ++ "\"valid_until\":\"2026-07-29T15:31:51+00:00\"\x7d")
  sig := some forgedSig
  signerDid := none

theorem forgedEvent_onWire : forgedEvent.OnWire where
  seq := ⟨by decide, by decide⟩
  tsMs := ⟨by decide, by decide⟩
  payload := (Json.proper_object _).mpr fun e he => by
    obtain rfl := List.mem_singleton.mp he
    trivial

theorem applyEvent_forged :
    (applyEvent signingLibs.toLibs InMemoryRepo.empty forgedEvent).1 = .applied
      ∧ (applyEvent signingLibs.toLibs InMemoryRepo.empty forgedEvent).2.nodeIds = ["n-evil"] := by
  decide

/-- What is evaluated of the samples: the digests of the two texts, that no other
text has the digest of the honest one, the canonical forms of the two
attestations, the transcript of the forged event, the signature of the forged
digest, and the public key. -/
structure Evaluated : Prop where
  digest_honest : tableValue attestationDigests honestText = honestDigest
  digest_forged : tableValue attestationDigests forgedText = forgedDigest
  once_honest : ∀ e ∈ attestationDigests, bytes 32 e.2 = bytes 32 honestDigest → e.1 = honestText
  text_honest : canonicalJson signingLibs.toLibs (.object (attestationEntries
    signingLibs.toEvidenceLibs (runOf ["DIR-ONE"] ["DIR-TWO"]) none attestedAtNs)) = honestText
  text_forged : canonicalJson signingLibs.toLibs (.object (attestationEntries
    signingLibs.toEvidenceLibs (runOf [forgedTest] []) none attestedAtNs)) = forgedText
  transcript_forged : transcript signingLibs.toLibs forgedEvent = forgedText
  sign_forged : Hex.encode (signingLibs.sign seed (bytes 32 forgedDigest)) = forgedSig
  pubkeyHex_seed : pubkeyHexOf signingLibs.toLibs seed = pubkeyHex

theorem evaluated : Evaluated where
  digest_honest := by decide +kernel
  digest_forged := by decide +kernel
  once_honest := by decide +kernel
  text_honest := by decide +kernel
  text_forged := by decide +kernel
  transcript_forged := by decide +kernel
  sign_forged := by decide +kernel
  pubkeyHex_seed := by decide +kernel

/-- The digest of the honest text stands alone. -/
theorem honestText_alone : DigestStandsAlone signingLibs honestText where
  alone other h := by
    rw [signingLibs_sha256, signingLibs_sha256] at h
    exact eq_of_tableValue (e := (honestText, honestDigest)) evaluated.digest_honest (by decide)
      evaluated.once_honest h
  noRecord := by
    rw [signingLibs_sha256, evaluated.digest_honest]
    decide

/-- The bytes the attestation of the forged test signs. -/
theorem attestationMessage_forged : attestationMessage signingLibs.toEvidenceLibs
    (.object (attestationEntries signingLibs.toEvidenceLibs (runOf [forgedTest] []) none
      attestedAtNs)) = bytes 32 forgedDigest := by
  show signingLibs.sha256 (canonicalJson signingLibs.toLibs _) = _
  rw [evaluated.text_forged, signingLibs_sha256, evaluated.digest_forged]

/-- Its message is what the attestation signs. -/
theorem signingMessage_forged :
    signingMessage signingLibs.toLibs forgedEvent = some (bytes 32 forgedDigest) := by
  rw [signingMessage_eq signingLibs.toLibs rfl, evaluated.transcript_forged]
  exact congrArg (fun n => some (bytes 32 n)) evaluated.digest_forged

/-- **The forged event is applied**, under the directory's key and a signature the
directory made. -/
theorem verifyAndApply_forged :
    verifyAndApply signingLibs.toLibs InMemoryRepo.empty forgedEvent (some pubkeyHex) 0 none
      = (((applyEvent signingLibs.toLibs InMemoryRepo.empty forgedEvent).1, 9),
          (applyEvent signingLibs.toLibs InMemoryRepo.empty forgedEvent).2) := by
  have hverify : verifyEvent signingLibs.toLibs pubkeyHex forgedSig (bytes 32 forgedDigest)
      = true := by
    rw [← evaluated.sign_forged, ← evaluated.pubkeyHex_seed]
    exact verifyEvent_sign signingLibs_lawful.evidence seed _
  have hsigned : SignedUnder signingLibs.toLibs pubkeyHex forgedEvent :=
    ⟨forgedSig, bytes 32 forgedDigest, rfl, signingMessage_forged, hverify⟩
  have hnone : refusal signingLibs.toLibs InMemoryRepo.empty forgedEvent (some pubkeyHex) 0 none
      = none :=
    refusal_eq_none hsigned (fun _ h => absurd h (by simp)) rfl (persists_inMemory _ _)
  exact (verifyAndApply_of_fresh signingLibs.toLibs hnone (by decide)).1

/-- The state of the directory the samples are signed by. -/
def signingState : DirectoryState := ⟨some secretKeyHex, "did:web:seed.test", "https://seed.test/v1"⟩

/-- **The attestation of the forged test carries the signature of the forged
event.** -/
theorem complianceAttestation_forged : ∃ out, complianceAttestation signingLibs.toEvidenceLibs
      signingState (some (runOf [forgedTest] [])) none attestedAtNs = (200, out)
    ∧ out.getStr "signature" = forgedEvent.sig := by
  have hsign : ed25519SignHex signingLibs.toEvidenceLibs secretKeyHex (bytes 32 forgedDigest)
      = some forgedSig := by
    rw [ed25519SignHex, seedOf_of_decode decode_secretKeyHex rfl]
    exact congrArg some evaluated.sign_forged
  refine ⟨.object (attestationEntries signingLibs.toEvidenceLibs (runOf [forgedTest] []) none
    attestedAtNs ++ [("attestation_hash", .string (Hex.encode (bytes 32 forgedDigest))),
      ("signature", .string forgedSig), ("signer_did", .string "did:web:seed.test")]), ?_, ?_⟩
  · unfold complianceAttestation signingState
    simp only [attestationMessage_forged, hsign]
  · rw [Json.getStr, Json.get_object_append (by simp [attestationEntries])]
    rfl

end Sample

namespace Signing

open Sample

/-- What is signed of two honest tests is accepted for nothing else. -/
theorem separated_sample : ¬ ∃ k, k ≠ Kind.attestation
    ∧ Accepts signingLibs outside InMemoryRepo.empty seed k (bytes 32 honestDigest) := by
  have hdigested : (Document.attestation (runOf ["DIR-ONE"] ["DIR-TWO"]) none
      attestedAtNs).digested signingLibs.toEvidenceLibs = some honestText :=
    congrArg some evaluated.text_honest
  have hmessage : (Document.attestation (runOf ["DIR-ONE"] ["DIR-TWO"]) none
      attestedAtNs).message signingLibs.toEvidenceLibs = some (bytes 32 honestDigest) := by
    show some (signingLibs.sha256 (canonicalJson signingLibs.toLibs _)) = _
    rw [evaluated.text_honest, signingLibs_sha256, evaluated.digest_honest]
  rintro ⟨k, hk, haccepts⟩
  refine (separated_iff signingLibs_lawful signingLibs_printsNumbers outside_forms hmessage
    fun text htext => ?_).mpr ?_ k hk haccepts
  · obtain rfl := Option.some.inj (hdigested.symm.trans htext)
    exact honestText_alone
  · rintro run publicUrl nowNs heq s hs htail
    obtain ⟨rfl, rfl, rfl⟩ := Document.attestation.inj heq
    have hshort : ∀ s ∈ attestationTexts (runOf ["DIR-ONE"] ["DIR-TWO"]) none,
        s.toList.length < 64 := by
      decide
    have hlong := length_of_holdsTail signingLibs_lawful.evidence.toLawful htail
    exact absurd (hshort s hs) (not_lt.mpr hlong)

/-- **A probe registers a node**: it names its test after a registration, the
directory attests the run, and a replica takes the signature for that of
the event. -/
theorem attestation_registers_node :
    (telemetryProbe (fun _ => true) InMemoryProbes.recordProbeBatch [] (some "probe-token")
        (some ⟨[probeOf forgedTest true], ""⟩)).2 = [probeOf forgedTest true]
      ∧ InMemoryProbes.latestConformanceRun [probeOf forgedTest true] ""
          = some (runOf [forgedTest] [])
      ∧ (∃ out, complianceAttestation signingLibs.toEvidenceLibs signingState
            (some (runOf [forgedTest] [])) none attestedAtNs = (200, out)
          ∧ out.getStr "signature" = forgedEvent.sig)
      ∧ (verifyAndApply signingLibs.toLibs InMemoryRepo.empty forgedEvent (some pubkeyHex) 0
          none).1 = (.applied, 9)
      ∧ (verifyAndApply signingLibs.toLibs InMemoryRepo.empty forgedEvent (some pubkeyHex) 0
          none).2.nodeIds = ["n-evil"]
      ∧ ¬ ∀ m, (Document.attestation (runOf [forgedTest] []) none attestedAtNs).message
            signingLibs.toEvidenceLibs = some m →
          ∀ k, k ≠ Kind.attestation →
            ¬ Accepts signingLibs outside InMemoryRepo.empty seed k m := by
  refine ⟨by decide, by decide, complianceAttestation_forged, ?_, ?_, fun h => ?_⟩
  · rw [verifyAndApply_forged, applyEvent_forged.1]
  · rw [verifyAndApply_forged]
    exact applyEvent_forged.2
  · refine h (bytes 32 forgedDigest) (congrArg some attestationMessage_forged) .event (by decide)
      ⟨forgedEvent, 0, none, forgedEvent_onWire, by decide, signingMessage_forged,
        congrArg some evaluated.sign_forged.symm, ?_⟩
    rw [evaluated.pubkeyHex_seed, verifyAndApply_forged, applyEvent_forged.1]
    rfl

end Signing
