import IicpDirectory.Replica.Payloads
import IicpDirectory.Seed.Eligibility
import IicpDirectory.Signing.Separation

/-!
# What a consumer token means

A consumer token lets a node send tasks of one intent to another node, for five
minutes. It is made of text: the claims in JSON and Base64, a point, and the
signature in hexadecimal; what is signed is the Base64 behind the domain of
such tokens. The verifier of the policy disclosure takes that apart again.

What was issued is what is found (`consumer_token_means_issued`): a token is
valid for its target and its intent until it expires, and for nothing else, and
the claims are those it was issued with. Tickets of relays and of dispatches
are made with the same key and in the same way, behind other domains, and are
never taken for tokens.
-/

open Federation DirectoryEvidence

/-- **What a claim holds**: a text or an integer. -/
def Json.IsClaim (v : Json) : Prop := (∃ s, v = .string s) ∨ ∃ i, IsI64 i ∧ v = Json.ofInt i

/-- **Claims round-trip**: in Base64 there is no point, and claims that are
written are read back, up to their order. -/
structure SigningLibs.RoundTrips (S : SigningLibs) : Prop where
  base64UrlEncode_chars : ∀ bytes, '.' ∉ (S.base64UrlEncode bytes).toList
  fromSlice_claims : ∀ entries : List (String × Json), (entries.map Prod.fst).Nodup →
    (∀ e ∈ entries, e.2.IsClaim) →
    ∃ claims, S.fromSlice (utf8 (canonicalJson S.toLibs (.object entries))) = some claims
      ∧ claims.SameUpToKeyOrder (.object entries)

/-- What is before the first of a symbol, and behind it. -/
theorem splitOnce_append {c : Char} {s : String} (h : c ∉ s.toList) (t : String) :
    splitOnce c (s ++ String.singleton c ++ t) = some (s, t) := by
  have htext : (s ++ String.singleton c ++ t).toList = s.toList ++ c :: t.toList := by
    rw [String.toList_append, String.toList_append, String.toList_singleton, List.append_assoc]
    rfl
  have hbefore : ∀ d ∈ s.toList, (d != c) = true := fun d hd =>
    bne_iff_ne.mpr fun heq => h (heq ▸ hd)
  have hstop : (c != c) = false := bne_self_eq_false c
  unfold splitOnce
  rw [htext, if_pos (List.mem_append_right _ List.mem_cons_self),
    List.takeWhile_append_of_pos hbefore, List.dropWhile_append_of_pos hbefore,
    List.takeWhile_cons_of_neg (by simp), List.dropWhile_cons_of_neg (by simp), List.append_nil,
    List.tail_cons, String.ofList_toList, String.ofList_toList]

namespace PolicyDetailDisclosure

variable {S : SigningLibs}

/-- **What is said of claims** that are signed. -/
def verdict (claims : Json) (target intent : String) (now : ℤ) : Json :=
  if claimsFit claims target intent then
    if ((claims.get "exp").bind Json.asI64).all (fun exp => exp ≤ now) then
      .object [("status", .string "expired"), ("claims", claims)]
    else .object [("status", .string "valid"), ("claims", claims)]
  else invalid

/-- **A text in the form of a token** is verified by its signature, and judged by
its claims. -/
theorem verifyConsumerToken_of_form {payload : String} (hpayload : '.' ∉ payload.toList)
    {key signature : Bytes} (hkey : key.length = 32) (hsignature : signature.length = 64)
    (target intent : String) (now : ℤ) :
    verifyConsumerToken S (payload ++ "." ++ Hex.encode signature) (Hex.encode key) target intent
        now
      = if S.verify key (tokenMessage TokenIssuance.consumerTokenDomain payload) signature then
          ((S.base64UrlDecode payload).bind S.fromSlice).elim invalid fun claims =>
            verdict claims target intent now
        else invalid := by
  have hsplit : splitOnce '.' (payload ++ "." ++ Hex.encode signature)
      = some (payload, Hex.encode signature) := splitOnce_append hpayload _
  have hsize : (Hex.encode signature).utf8ByteSize = 128 := by
    rw [Hex.utf8ByteSize_of_decode (Hex.decode_encode signature), hsignature]
  have hdetached : ∀ message, DeploymentProvenance.verifyDetached S.toEvidenceLibs key message
      signature = S.verify key message signature := by
    intro message
    unfold DeploymentProvenance.verifyDetached
    rw [hkey, hsignature]
    rfl
  unfold verifyConsumerToken
  rw [hsplit]
  dsimp only
  rw [if_neg (not_not.mpr hsize), Hex.decode_encode, Hex.decode_encode]
  dsimp only
  rw [hdetached]
  cases (S.base64UrlDecode payload).bind S.fromSlice <;> rfl

/-- **The claims say which verdict it is**: where they are for a target and an
intent until a time. -/
theorem status_verdict {claims : Json} {target intent : String} {exp : ℤ}
    (hfit : ∀ target' intent', claimsFit claims target' intent' = true
      ↔ target' = target ∧ intent' = intent)
    (hexp : (claims.get "exp").bind Json.asI64 = some exp) (target' intent' : String) (now : ℤ) :
    ((verdict claims target' intent' now).getStr "status" = some "valid"
        ↔ target' = target ∧ intent' = intent ∧ now < exp)
      ∧ ((verdict claims target' intent' now).getStr "status" = some "expired"
        ↔ target' = target ∧ intent' = intent ∧ exp ≤ now)
      ∧ (target' = target → intent' = intent →
        (verdict claims target' intent' now).get "claims" = some claims) := by
  have hpast : ((claims.get "exp").bind Json.asI64).all (fun exp => decide (exp ≤ now))
      = decide (exp ≤ now) := by
    rw [hexp]
    rfl
  have hstatus : ∀ status, (Json.object [("status", .string status), ("claims", claims)]).getStr
      "status" = some status := fun _ => rfl
  unfold verdict
  rw [hpast]
  by_cases hasked : target' = target ∧ intent' = intent
  · rw [if_pos ((hfit target' intent').mpr hasked)]
    obtain ⟨rfl, rfl⟩ := hasked
    by_cases hnow : exp ≤ now
    · rw [if_pos (decide_eq_true hnow)]
      refine ⟨iff_of_false (by rw [hstatus]; decide) fun h => absurd hnow (not_le.mpr h.2.2),
        iff_of_true rfl ⟨rfl, rfl, hnow⟩, fun _ _ => rfl⟩
    · rw [if_neg (by simpa using hnow)]
      exact ⟨iff_of_true rfl ⟨rfl, rfl, not_le.mp hnow⟩,
        iff_of_false (by rw [hstatus]; decide) fun h => hnow h.2.2, fun _ _ => rfl⟩
  · rw [if_neg fun h => hasked ((hfit target' intent').mp h)]
    exact ⟨iff_of_false (by decide) fun h => hasked ⟨h.1, h.2.1⟩,
      iff_of_false (by decide) fun h => hasked ⟨h.1, h.2.1⟩,
      fun htarget hintent => absurd ⟨htarget, hintent⟩ hasked⟩

end PolicyDetailDisclosure

/-! ## What is issued -/

section Issued

open TokenIssuance PolicyDetailDisclosure

variable {S : SigningLibs}

/-- The claims of a consumer token, each with its name. -/
def claimsOf (callerNodeId targetNodeId intent : String) (now : ℤ) : List (String × Json) :=
  [("v", .number (.posInt 1)), ("iss", .string "https://iicp.network"),
   ("sub", .string callerNodeId), ("aud", .string targetNodeId), ("intent", .string intent),
   ("iat", Json.ofInt now), ("exp", Json.ofInt (now + 300))]

theorem claimsOf_keys_nodup (callerNodeId targetNodeId intent : String) (now : ℤ) :
    ((claimsOf callerNodeId targetNodeId intent now).map Prod.fst).Nodup :=
  (by decide : ["v", "iss", "sub", "aud", "intent", "iat", "exp"].Nodup)

theorem isClaim_of_mem_claimsOf {callerNodeId targetNodeId intent : String} {now : ℤ}
    (hnow : IsI64 now) (hexp : IsI64 (now + 300)) {e : String × Json}
    (he : e ∈ claimsOf callerNodeId targetNodeId intent now) : e.2.IsClaim := by
  have hversion : IsI64 1 := ⟨by decide, by decide⟩
  simp only [claimsOf, List.mem_cons, List.not_mem_nil, or_false] at he
  rcases he with rfl | rfl | rfl | rfl | rfl | rfl | rfl
  · exact .inr ⟨1, hversion, rfl⟩
  · exact .inl ⟨_, rfl⟩
  · exact .inl ⟨_, rfl⟩
  · exact .inl ⟨_, rfl⟩
  · exact .inl ⟨_, rfl⟩
  · exact .inr ⟨now, hnow, rfl⟩
  · exact .inr ⟨now + 300, hexp, rfl⟩

section Claims

variable {claims : Json} {callerNodeId targetNodeId intent : String} {now : ℤ}
  (h : claims.SameUpToKeyOrder (consumerTokenClaims callerNodeId targetNodeId intent now))

include h

/-- Claims that are read back fit what they were issued for, and nothing
else. -/
theorem claimsFit_iff (target' intent' : String) :
    claimsFit claims target' intent' = true ↔ target' = targetNodeId ∧ intent' = intent := by
  have hkeys := claimsOf_keys_nodup callerNodeId targetNodeId intent now
  have hversion : (claims.get "v").bind Json.asI64 = some 1 :=
    (h.read_eq hkeys Json.asI64_sortKeys "v").trans rfl
  have haud : claims.getStr "aud" = some targetNodeId :=
    (h.read_eq hkeys Json.asStr_sortKeys "aud").trans rfl
  have hintent : claims.getStr "intent" = some intent :=
    (h.read_eq hkeys Json.asStr_sortKeys "intent").trans rfl
  have hsub : claims.getStr "sub" = some callerNodeId :=
    (h.read_eq hkeys Json.asStr_sortKeys "sub").trans rfl
  unfold claimsFit
  rw [hversion, haud, hintent, hsub]
  simp only [beq_self_eq_true, Bool.true_and, Option.isSome_some, Bool.and_true, Bool.and_eq_true,
    beq_iff_eq, Option.some.injEq]
  exact ⟨fun h => ⟨h.1.symm, h.2.symm⟩, fun h => ⟨h.1.symm, h.2.symm⟩⟩

/-- They expire after five minutes. -/
theorem exp_claims (hexp : IsI64 (now + 300)) :
    (claims.get "exp").bind Json.asI64 = some (now + 300) := by
  have hkeys := claimsOf_keys_nodup callerNodeId targetNodeId intent now
  have hread : (claims.get "exp").bind Json.asI64 = (Json.ofInt (now + 300)).asI64 :=
    (h.read_eq hkeys Json.asI64_sortKeys "exp").trans rfl
  rw [hread, Json.asI64_ofInt hexp.2]

end Claims

/-- **A token that is issued** has its payload, a point, and the signature of the
first half of the key. -/
theorem signDomainToken_eq {key : String} {sk : Bytes} (hsk : Hex.decode key = some sk)
    (hlength : sk.length = 64) (domain : String) (payload : Json) :
    signDomainToken S.toEvidenceLibs key domain payload
      = some (b64urlJson S.toEvidenceLibs payload ++ "." ++ Hex.encode (S.sign (sk.take 32)
          (tokenMessage domain (b64urlJson S.toEvidenceLibs payload)))) := by
  unfold signDomainToken ed25519SignHex
  rw [seedOf_of_decode hsk hlength]
  rfl

/-- The key that is published has the bytes of the second half. -/
theorem decode_of_directoryPublicKeyHex {key pk : String}
    (h : directoryPublicKeyHex key = some pk) :
    ∃ sk, Hex.decode key = some sk ∧ sk.length = 64 ∧ pk = Hex.encode (sk.drop 32) := by
  obtain ⟨sk, hsk, rfl⟩ := Option.map_eq_some_iff.mp h
  obtain ⟨hdecode, hlength⟩ := Option.filter_eq_some_iff.mp hsk
  exact ⟨sk, hdecode, by simpa using hlength, rfl⟩

section Verified

variable {sk : Bytes} (hS : S.toEvidenceLibs.Lawful) (hround : S.RoundTrips)
  (hlength : sk.length = 64)
  (hmatch : sk.drop 32 = S.publicKey (sk.take 32))

include hS hround hlength hmatch

/-- **What is issued under a domain** is judged as a consumer token if its
signature is one of the message of a consumer token. -/
theorem verifyConsumerToken_issued (domain : String) (payload : Json) (target intent : String)
    (now : ℤ) :
    verifyConsumerToken S
        (b64urlJson S.toEvidenceLibs payload ++ "." ++ Hex.encode (S.sign (sk.take 32)
          (tokenMessage domain (b64urlJson S.toEvidenceLibs payload))))
        (Hex.encode (sk.drop 32)) target intent now
      = if S.verify (S.publicKey (sk.take 32))
            (tokenMessage consumerTokenDomain (b64urlJson S.toEvidenceLibs payload))
            (S.sign (sk.take 32) (tokenMessage domain (b64urlJson S.toEvidenceLibs payload))) then
          (S.fromSlice (utf8 (canonicalJson S.toLibs payload))).elim invalid fun claims =>
            verdict claims target intent now
        else invalid := by
  have hkey : (sk.drop 32).length = 32 := by rw [List.length_drop, hlength]
  have hdecode : S.base64UrlDecode (b64urlJson S.toEvidenceLibs payload)
      = some (utf8 (canonicalJson S.toLibs payload)) := hS.base64UrlDecode_encode _
  have hpayload : '.' ∉ (b64urlJson S.toEvidenceLibs payload).toList :=
    hround.base64UrlEncode_chars _
  rw [verifyConsumerToken_of_form hpayload hkey (hS.sign_length _ _), hdecode, hmatch]
  rfl

/-- A consumer token is judged by the claims that are read back. -/
theorem verifyConsumerToken_token {payload claims : Json}
    (hclaims : S.fromSlice (utf8 (canonicalJson S.toLibs payload)) = some claims)
    (target intent : String) (now : ℤ) :
    verifyConsumerToken S
        (b64urlJson S.toEvidenceLibs payload ++ "." ++ Hex.encode (S.sign (sk.take 32)
          (tokenMessage consumerTokenDomain (b64urlJson S.toEvidenceLibs payload))))
        (Hex.encode (sk.drop 32)) target intent now = verdict claims target intent now := by
  rw [verifyConsumerToken_issued hS hround hlength hmatch, if_pos (hS.verify_sign _ _), hclaims]
  rfl

/-- **A ticket is no consumer token.** -/
theorem verifyConsumerToken_ticket {domain : String} {k : Kind} (hk : k ≠ .consumerToken)
    (hdomain : k.domain = some (utf8 domain)) {payload : Json}
    (honly : S.VerifiesOnly (S.publicKey (sk.take 32))
      (S.sign (sk.take 32) (tokenMessage domain (b64urlJson S.toEvidenceLibs payload)))
      {tokenMessage domain (b64urlJson S.toEvidenceLibs payload)})
    (target intent : String) (now : ℤ) :
    verifyConsumerToken S
        (b64urlJson S.toEvidenceLibs payload ++ "." ++ Hex.encode (S.sign (sk.take 32)
          (tokenMessage domain (b64urlJson S.toEvidenceLibs payload))))
        (Hex.encode (sk.drop 32)) target intent now = invalid := by
  rw [verifyConsumerToken_issued hS hround hlength hmatch]
  refine if_neg fun hverify => ?_
  have hmessage := honly _ hverify
  -- one message would be behind two domains
  have hprefix := Signing.prefix_tokenMessage consumerTokenDomain
    (b64urlJson S.toEvidenceLibs payload)
  rw [hmessage] at hprefix
  exact hk (Signing.kind_eq_of_domains hdomain rfl (Signing.prefix_tokenMessage _ _) hprefix)

end Verified

/-- **The signature of a payload under a domain is of that message alone.** -/
def SignsOnly (S : SigningLibs) (key domain : String) (payload : Json) : Prop :=
  ∀ seed, seedOf key = some seed → S.VerifiesOnly (S.publicKey seed)
    (S.sign seed (tokenMessage domain (b64urlJson S.toEvidenceLibs payload)))
    {tokenMessage domain (b64urlJson S.toEvidenceLibs payload)}

end Issued

open RestrictedDomain TokenIssuance PolicyDetailDisclosure in
/-- **A consumer token means what was issued.** With a key whose halves match, a
token is made for every caller, target, intent and time in 64 bits, those of
the handler among them. It is valid for its target and its intent until it expires, expired
from then on, and neither for any other; and the claims are those it was issued
with. No ticket of a relay or of a dispatch is found to be one, the signatures
of which are of their messages alone. -/
theorem consumer_token_means_issued {S : SigningLibs} (hS : S.toEvidenceLibs.Lawful)
    (hround : S.RoundTrips) {key pk : String} (hpk : directoryPublicKeyHex key = some pk)
    (hmatch : HalvesMatch S.toLibs key) :
    (∀ (callerNodeId targetNodeId intent : String) (now : ℤ), IsI64 now → IsI64 (now + 300) →
        ∃ token, signDomainToken S.toEvidenceLibs key consumerTokenDomain
            (consumerTokenClaims callerNodeId targetNodeId intent now) = some token
          ∧ ∀ (target intent' : String) (now' : ℤ),
            ((verifyConsumerToken S token pk target intent' now').getStr "status" = some "valid"
              ↔ target = targetNodeId ∧ intent' = intent ∧ now' < now + 300)
            ∧ ((verifyConsumerToken S token pk target intent' now').getStr "status"
                = some "expired"
              ↔ target = targetNodeId ∧ intent' = intent ∧ now + 300 ≤ now')
            ∧ (target = targetNodeId → intent' = intent →
              ∃ claims, (verifyConsumerToken S token pk target intent' now').get "claims"
                  = some claims
                ∧ claims.SameUpToKeyOrder
                  (consumerTokenClaims callerNodeId targetNodeId intent now)))
      ∧ (∀ (C : DirectoryContext) (L : NodeListing) (r : GatedRequest) (req : ConsumerTokenRequest)
          (issued : String × String), C.signDomainToken = signDomainToken S.toEvidenceLibs key →
          consumerTokenIssue C L r req = .ok issued →
          ∃ callerNodeId, signDomainToken S.toEvidenceLibs key consumerTokenDomain
            (consumerTokenClaims callerNodeId req.targetNodeId req.intent C.now) = some issued.2)
      ∧ (∀ (workerNodeId relayNodeId : String) (now : ℤ) (ticket : String),
          signDomainToken S.toEvidenceLibs key relayTicketDomain
            (relayTicketClaims workerNodeId relayNodeId now) = some ticket →
          SignsOnly S key relayTicketDomain (relayTicketClaims workerNodeId relayNodeId now) →
          ∀ (target intent : String) (now' : ℤ),
            verifyConsumerToken S ticket pk target intent now' = invalid)
      ∧ (∀ (ticketId nodeId intent : String) (now : ℤ) (ticket : String),
          signDomainToken S.toEvidenceLibs key Discovery.dispatchTicketDomain
            (Discovery.dispatchTicketClaims ticketId nodeId intent now) = some ticket →
          SignsOnly S key Discovery.dispatchTicketDomain
            (Discovery.dispatchTicketClaims ticketId nodeId intent now) →
          ∀ (target intent' : String) (now' : ℤ),
            verifyConsumerToken S ticket pk target intent' now' = invalid) := by
  obtain ⟨sk, hsk, hlength, rfl⟩ := decode_of_directoryPublicKeyHex hpk
  have hhalves : sk.drop 32 = S.publicKey (sk.take 32) := hmatch sk hsk
  have hseed : seedOf key = some (sk.take 32) := seedOf_of_decode hsk hlength
  refine ⟨fun callerNodeId targetNodeId intent now hnow hexp => ?_, ?_, ?_, ?_⟩
  · refine ⟨_, signDomainToken_eq hsk hlength _ _, fun target intent' now' => ?_⟩
    obtain ⟨claims, hclaims, hsame⟩ := hround.fromSlice_claims
      (claimsOf callerNodeId targetNodeId intent now) (claimsOf_keys_nodup _ _ _ _)
      fun e he => isClaim_of_mem_claimsOf hnow hexp he
    have hread : S.fromSlice (utf8 (canonicalJson S.toLibs
        (consumerTokenClaims callerNodeId targetNodeId intent now))) = some claims := hclaims
    rw [verifyConsumerToken_token hS hround hlength hhalves hread]
    obtain ⟨hvalid, hexpired, hfound⟩ := status_verdict (claimsFit_iff hsame)
      (exp_claims hsame hexp) target intent' now'
    exact ⟨hvalid, hexpired, fun htarget hintent => ⟨claims, hfound htarget hintent, hsame⟩⟩
  · intro C L r req issued hC hissued
    obtain ⟨-, -, -, -, token, callerNodeId, -, -, -, hsign⟩ :=
      consumerTokenIssue_eq_ok_iff.mp hissued
    rw [hC] at hsign
    exact ⟨callerNodeId, hsign⟩
  · intro workerNodeId relayNodeId now ticket hticket honly target intent now'
    rw [signDomainToken_eq hsk hlength] at hticket
    obtain rfl := Option.some.inj hticket
    exact verifyConsumerToken_ticket hS hround hlength hhalves (k := .relayTicket) (by decide) rfl
      (honly _ hseed) target intent now'
  · intro ticketId nodeId intent now ticket hticket honly target intent' now'
    rw [signDomainToken_eq hsk hlength] at hticket
    obtain rfl := Option.some.inj hticket
    exact verifyConsumerToken_ticket hS hround hlength hhalves (k := .dispatchTicket) (by decide) rfl
      (honly _ hseed) target intent' now'

/-! ## A token and a ticket -/

namespace Sample

open JsonText TokenIssuance

/-- The payloads of a token and of a ticket, in Base64. -/
def tokenTexts : List (Bytes × String) :=
  [(utf8 ("\x7b\"aud\":\"node-b\",\"exp\":1785338511,\"iat\":1785338211,"
      ++ "\"intent\":\"urn:iicp:intent:llm:chat:v1\",\"iss\":\"https://iicp.network\","
      ++ "\"sub\":\"node-a\",\"v\":1\x7d"),
    "eyJhdWQiOiJub2RlLWIiLCJleHAiOjE3ODUzMzg1MTEsImlhdCI6MTc4NTMzODIxMSwiaW50ZW50Ijoi"
      ++ "dXJuOmlpY3A6aW50ZW50OmxsbTpjaGF0OnYxIiwiaXNzIjoiaHR0cHM6Ly9paWNwLm5ldHdvcmsiLCJz"
      ++ "dWIiOiJub2RlLWEiLCJ2IjoxfQ"),
   (utf8 ("\x7b\"aud\":\"node-b\",\"exp\":1785338331,\"iat\":1785338211,"
      ++ "\"iss\":\"https://iicp.network\",\"sub\":\"node-a\",\"typ\":\"relay-bind-ticket\","
      ++ "\"v\":1\x7d"),
    "eyJhdWQiOiJub2RlLWIiLCJleHAiOjE3ODUzMzgzMzEsImlhdCI6MTc4NTMzODIxMSwiaXNzIjoiaHR0"
      ++ "cHM6Ly9paWNwLm5ldHdvcmsiLCJzdWIiOiJub2RlLWEiLCJ0eXAiOiJyZWxheS1iaW5kLXRpY2tldCIs"
      ++ "InYiOjF9")]

/-- Their signatures, by public key and message. -/
def tokenSignatures : List ((Bytes × Bytes) × ℕ) :=
  [((publicKeyFor (List.replicate 32 17), tokenMessage consumerTokenDomain tokenTexts[0].2),
     0x99bbd8f45a1877002743f0c58f2db6114d30646d160f285bc741fefac86ea3ce432c52dc124e557a4a5c159f3c21bbc8413215fc56aef719ce40bd26fca62b0d),
   ((publicKeyFor (List.replicate 32 17), tokenMessage relayTicketDomain tokenTexts[1].2),
     0xa14a291f70c5deaff94b326905a42ca7b30cb7b371825f856225cc69b6b858d1ba9cbbde8fccd602fd6d9d275f3ce996a087c36cb8d7270786b66bff98f09f09)]

/-- The signature that verifies a message under a public key. -/
def tokenSignature (pk msg : Bytes) : Bytes :=
  ((tokenSignatures.lookup (pk, msg)).map (bytes 64)).getD (pk ++ pk)

/-- **The libraries on a token and a ticket.** -/
def issuingLibs : SigningLibs where
  toLibs := { printingLibs with
    publicKey := publicKeyFor
    sign := fun seed msg => tokenSignature (publicKeyFor seed) msg
    verify := fun pk msg sig => sig == tokenSignature pk msg
    base64UrlDecode := fun s =>
      match tokenTexts.find? (fun e => e.2 == s) with
      | some e => some e.1
      | none => Hex.decode s }
  base64UrlEncode bytes := (tokenTexts.lookup bytes).getD (Hex.encode bytes)
  jcs v := some (utf8 (canonicalJson printingLibs v))
  toRfc3339 _ := "2026-07-29T15:16:51+00:00"
  fromSlice bytes := (String.fromUTF8? ⟨bytes.toArray⟩).bind (parse readFraction)

/-- The claims of the token, -/
def tokenClaims : Json :=
  consumerTokenClaims "node-a" "node-b" "urn:iicp:intent:llm:chat:v1" 1785338211

/-- and those of the ticket. -/
def ticketClaims : Json := relayTicketClaims "node-a" "node-b" 1785338211

/-- The characters of a text that is written out, one by one. -/
theorem all_ofList (p : Char → Bool) (chars : List Char) :
    (String.ofList chars).toList.all p = chars.all p := by
  rw [String.toList_ofList]

/-- The same of a text that goes on. -/
theorem all_ofList_append (p : Char → Bool) (chars : List Char) (text : String) :
    (String.ofList chars ++ text).toList.all p = (chars.all p && text.toList.all p) := by
  rw [String.toList_append, String.toList_ofList, List.all_append]

/-- A text whose second character is no digit is not hexadecimal. -/
theorem decode_ofList_append {first second : Char} {rest : List Char} (text : String)
    (h : Hex.value second = none) :
    Hex.decode (String.ofList (first :: second :: rest) ++ text) = none := by
  rw [Hex.decode, String.toList_append, String.toList_ofList, List.cons_append, List.cons_append,
    Hex.decodeChars, h]
  cases Hex.value first <;> rfl

/-- The texts of the table have no point. -/
theorem point_notMem_tokenTexts : ∀ e ∈ tokenTexts, e.2.toList.all (· != '.') = true := by
  intro e he
  simp only [tokenTexts, List.mem_cons, List.not_mem_nil, or_false] at he
  rcases he with rfl | rfl
  all_goals
    dsimp only
    rw [String.append_assoc]
    refine (all_ofList_append _ _ _).trans (Bool.and_eq_true_iff.mpr ⟨by decide, ?_⟩)
    refine (all_ofList_append _ _ _).trans (Bool.and_eq_true_iff.mpr ⟨by decide, ?_⟩)
    exact (all_ofList _ _).trans (by decide)

/-- They are not hexadecimal. -/
theorem decode_tokenTexts : ∀ e ∈ tokenTexts, Hex.decode e.2 = none := by
  intro e he
  simp only [tokenTexts, List.mem_cons, List.not_mem_nil, or_false] at he
  rcases he with rfl | rfl
  all_goals
    dsimp only
    rw [String.append_assoc]
    exact decode_ofList_append _ (by decide)

/-- What is evaluated of the tables: a text is found from its bytes; the second one
is that of the ticket, whose signature is of its message alone and repeats no key. -/
structure EvaluatedTables : Prop where
  found : ∀ e ∈ tokenTexts, (tokenTexts.find? (fun e' => e'.2 == e.2)).map Prod.fst = some e.1
  ticket : b64urlJson issuingLibs.toEvidenceLibs ticketClaims = tokenTexts[1].2
  signature : tokenSignature (publicKeyFor (List.replicate 32 17))
    (tokenMessage relayTicketDomain tokenTexts[1].2) = bytes 64 tokenSignatures[1].2
  distinct : ∀ e ∈ tokenSignatures,
    bytes 64 tokenSignatures[1].2 = bytes 64 e.2 → e.1 = tokenSignatures[1].1
  noKey : bytes 64 tokenSignatures[1].2
    ≠ publicKeyFor (List.replicate 32 17) ++ publicKeyFor (List.replicate 32 17)

theorem evaluatedTables : EvaluatedTables where
  found := by decide +kernel
  ticket := by decide +kernel
  signature := by decide +kernel
  distinct := by decide +kernel
  noKey := by decide +kernel

theorem issuingLibs_lawful : issuingLibs.toEvidenceLibs.Lawful where
  sha256_length := printingLibs_lawful.sha256_length
  publicKey_length := length_publicKeyFor
  sign_length seed msg := by
    show (tokenSignature (publicKeyFor seed) msg).length = 64
    unfold tokenSignature
    cases tokenSignatures.lookup (publicKeyFor seed, msg) with
    | some n => exact length_bytes 64 n
    | none =>
      show (publicKeyFor seed ++ publicKeyFor seed).length = 64
      rw [List.length_append, length_publicKeyFor]
  verify_sign _ _ := beq_self_eq_true _
  base64UrlDecode_encode := decode_encode_of_table evaluatedTables.found decode_tokenTexts

/-- A text is read back from its bytes. -/
theorem fromUTF8?_utf8 (s : String) : String.fromUTF8? ⟨(utf8 s).toArray⟩ = some s := by
  have hbytes : (⟨(utf8 s).toArray⟩ : ByteArray) = s.toByteArray := rfl
  rw [hbytes]
  exact dif_pos s.isValidUTF8

theorem point_notMem_base64 (bytes : Bytes) : '.' ∉ (issuingLibs.base64UrlEncode bytes).toList := by
  show '.' ∉ ((tokenTexts.lookup bytes).getD (Hex.encode bytes)).toList
  cases hlookup : tokenTexts.lookup bytes with
  | some text =>
    obtain ⟨l, r, hsplit, _⟩ := List.lookup_eq_some_iff.mp hlookup
    have hmem : (bytes, text) ∈ tokenTexts := by
      rw [hsplit]
      exact List.mem_append_right _ List.mem_cons_self
    intro hpoint
    exact absurd (List.all_eq_true.mp (point_notMem_tokenTexts _ hmem) '.' hpoint) (by decide)
  | none =>
    intro hpoint
    obtain ⟨n, hn, heq⟩ := Hex.exists_digit_of_mem hpoint
    have hdigits : ∀ n < 16, '.' ≠ Hex.digit n := by decide
    exact hdigits n hn heq

/-- Claims are proper values. -/
theorem proper_of_isClaim {v : Json} (h : v.IsClaim) : v.Proper := by
  rcases h with ⟨s, rfl⟩ | ⟨i, hi, rfl⟩
  · exact trivial
  · exact Json.proper_ofInt hi

theorem issuingLibs_printsNumbers : issuingLibs.PrintsNumbers where
  printF64_inj := printingLibs_printsNumbers.printF64_inj
  printF64_chars := printingLibs_printsNumbers.printF64_chars
  printF64_float := printingLibs_printsNumbers.printF64_float

theorem readsDoubles_issuingLibs : ReadsDoubles issuingLibs.toLibs readFraction :=
  fun x => readsDoubles_readFraction x

theorem fromSlice_utf8 (text : String) :
    issuingLibs.fromSlice (utf8 text) = parse readFraction text := by
  show (String.fromUTF8? ⟨(utf8 text).toArray⟩).bind (parse readFraction) = _
  rw [fromUTF8?_utf8, Option.bind_some]

theorem issuingLibs_roundTrips : issuingLibs.RoundTrips where
  base64UrlEncode_chars := point_notMem_base64
  fromSlice_claims entries _ hclaims := by
    have hproper : (Json.object entries).Proper :=
      (Json.proper_object entries).mpr fun e he => proper_of_isClaim (hclaims e he)
    refine ⟨(Json.object entries).sortKeys, ?_, Json.sortKeys_sortKeys _⟩
    rw [fromSlice_utf8]
    exact parse_canonicalJson issuingLibs_printsNumbers readsDoubles_issuingLibs hproper

theorem tokenSignature_of_verify {seed message message' : Bytes}
    (h : issuingLibs.verify (issuingLibs.publicKey seed) message (issuingLibs.sign seed message')
      = true) :
    tokenSignature (publicKeyFor seed) message' = tokenSignature (publicKeyFor seed) message :=
  eq_of_beq h

theorem signsOnly_ticketClaims :
    SignsOnly issuingLibs secretKeyHex relayTicketDomain ticketClaims := by
  intro seed hseed message hverify
  obtain rfl : List.replicate 32 17 = seed := by
    rw [seedOf_of_decode decode_secretKeyHex rfl] at hseed
    exact Option.some.inj hseed
  rw [evaluatedTables.ticket] at hverify ⊢
  have hsame : bytes 64 tokenSignatures[1].2
      = tokenSignature (publicKeyFor (List.replicate 32 17)) message := by
    rw [← evaluatedTables.signature]
    exact tokenSignature_of_verify hverify
  unfold tokenSignature at hsame
  cases hlookup : tokenSignatures.lookup (publicKeyFor (List.replicate 32 17), message) with
  | some n =>
    rw [hlookup] at hsame
    obtain ⟨l, r, hsplit, _⟩ := List.lookup_eq_some_iff.mp hlookup
    have hmem : ((publicKeyFor (List.replicate 32 17), message), n) ∈ tokenSignatures := by
      rw [hsplit]
      exact List.mem_append_right _ List.mem_cons_self
    exact (Prod.mk.inj (evaluatedTables.distinct _ hmem hsame)).2
  | none =>
    rw [hlookup] at hsame
    exact absurd hsame evaluatedTables.noKey

end Sample

open Sample in
theorem consumer_token_means_issued_sample :
    directoryPublicKeyHex secretKeyHex
        = some (Hex.encode (publicKeyFor (List.replicate 32 17)))
      ∧ HalvesMatch issuingLibs.toLibs secretKeyHex
      ∧ (∃ token, signDomainToken issuingLibs.toEvidenceLibs secretKeyHex
            TokenIssuance.consumerTokenDomain tokenClaims = some token
          ∧ (PolicyDetailDisclosure.verifyConsumerToken issuingLibs token
              (Hex.encode (publicKeyFor (List.replicate 32 17))) "node-b"
              "urn:iicp:intent:llm:chat:v1" 1785338211).getStr "status" = some "valid")
      ∧ ∃ ticket, signDomainToken issuingLibs.toEvidenceLibs secretKeyHex
            TokenIssuance.relayTicketDomain ticketClaims = some ticket
          ∧ PolicyDetailDisclosure.verifyConsumerToken issuingLibs ticket
              (Hex.encode (publicKeyFor (List.replicate 32 17))) "node-b"
              "urn:iicp:intent:llm:chat:v1" 1785338211 = PolicyDetailDisclosure.invalid := by
  have hpk : directoryPublicKeyHex secretKeyHex
      = some (Hex.encode (publicKeyFor (List.replicate 32 17))) := by
    unfold directoryPublicKeyHex secretKeyBytes
    rw [decode_secretKeyHex]
    rfl
  have hmatch : HalvesMatch issuingLibs.toLibs secretKeyHex := by
    intro sk hsk
    obtain rfl := Option.some.inj (decode_secretKeyHex.symm.trans hsk)
    rfl
  obtain ⟨hissued, -, hticket, -⟩ := consumer_token_means_issued issuingLibs_lawful
    issuingLibs_roundTrips hpk hmatch
  refine ⟨hpk, hmatch, ?_, ?_⟩
  · obtain ⟨token, htoken, hverified⟩ := hissued "node-a" "node-b" "urn:iicp:intent:llm:chat:v1"
      1785338211 ⟨by decide, by decide⟩ ⟨by decide, by decide⟩
    exact ⟨token, htoken, (hverified _ _ _).1.mpr ⟨rfl, rfl, by decide⟩⟩
  · have hsigned := signDomainToken_eq (S := issuingLibs) decode_secretKeyHex rfl
      TokenIssuance.relayTicketDomain ticketClaims
    exact ⟨_, hsigned, hticket "node-a" "node-b" 1785338211 _ hsigned signsOnly_ticketClaims _ _ _⟩
