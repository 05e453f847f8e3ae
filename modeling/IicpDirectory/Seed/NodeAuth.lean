import IicpDirectory.Evidence
import IicpDirectory.Quotes
import IicpDirectory.Seed.ReplicaHandlers

/-!
# How a node names itself

A node shows a bearer token: the one it was handed at its registration, which
goes with the header `X-Node-Id`, or a signed one, which says itself whose it
is. Who a request is from is read off these two (`nodeIdFromAuth`); whether it
may speak for that node is another question, and the repository's.

The secret of the signatures is what the environment has as `APP_KEY`, read as
Base64 where it says so. The decoder is the directory's own: characters that
are not of the alphabet count as `A`.
-/

open Federation

/-- `bearer_token`. -/
def bearerToken (authorization : Option Bytes) : Option String :=
  ReplicaHandlers.bearer (authorization.bind headerText)

/-! ## The secret -/

namespace Auth

/-- The alphabet of Base64. -/
def base64Alphabet : List Char :=
  "ABCDEFGHIJKLMNOPQRSTUVWXYZabcdefghijklmnopqrstuvwxyz0123456789+/".toList

/-- What the table has for a byte: nothing is set but the alphabet. -/
def sextet (b : UInt8) : ℕ :=
  (base64Alphabet.findIdx? fun c => c.toNat == b.toNat).getD 0

/-- The bytes of the sextets, four by four, and of what is left of them. -/
def decodeSextets : List UInt8 → Bytes
  | a :: b :: c :: d :: rest =>
    let n := sextet a * 2 ^ 18 + sextet b * 2 ^ 12 + sextet c * 2 ^ 6 + sextet d
    .ofNat (n / 2 ^ 16) :: .ofNat (n / 2 ^ 8) :: .ofNat n :: decodeSextets rest
  | [a, b, c] =>
    let n := sextet a * 2 ^ 18 + sextet b * 2 ^ 12 + sextet c * 2 ^ 6
    [.ofNat (n / 2 ^ 16), .ofNat (n / 2 ^ 8)]
  | [a, b] => [.ofNat ((sextet a * 2 ^ 18 + sextet b * 2 ^ 12) / 2 ^ 16)]
  | _ => []

/-- `base64_decode`, without the padding: nothing is an error. -/
def base64Decode (text : String) : Option Bytes :=
  (some (decodeSextets ((utf8 text).filter (· ≠ 61)))).filter (· ≠ [])

/-- **`jwt_secret`**, of an `APP_KEY`. -/
def jwtSecret (appKey : String) : Bytes :=
  if "base64:".toList.isPrefixOf appKey.toList then
    (base64Decode (String.ofList (appKey.toList.drop 7))).getD (utf8 appKey)
  else utf8 appKey

end Auth

/-! ## Signed tokens -/

/-- `NodeClaims`. -/
structure NodeClaims where
  sub : String
  iss : String
  iat : ℕ
  exp : ℕ
  deriving DecidableEq

/-- **The library of signed tokens**, at the claims of a node: signing under a
secret; the check of signature, issuer and expiry under a secret at a time. -/
structure NodeJwt where
  encode : NodeClaims → Bytes → Option String
  decode : String → Bytes → ℕ → Option NodeClaims

/-- **What the directory relies on**: a token of the issuer is accepted until a
minute after it expires; what is accepted says what was signed, and is parts of
URL-safe Base64 with dots between. -/
structure NodeJwt.Lawful (J : NodeJwt) : Prop where
  decode_encode : ∀ {claims : NodeClaims} {secret : Bytes} {token : String} {now : ℕ},
    J.encode claims secret = some token → claims.iss = "iicp.network" → now ≤ claims.exp + 60 →
      J.decode token secret now = some claims
  decodes_signed : ∀ {claims found : NodeClaims} {secret : Bytes} {token : String} {now : ℕ},
    J.encode claims secret = some token → J.decode token secret now = some found → found = claims
  dotted : ∀ {token : String} {secret : Bytes} {now : ℕ} {found : NodeClaims},
    J.decode token secret now = some found → '.' ∈ token.toList
      ∧ ∀ c ∈ token.toList, c = '.' ∨ c = '-' ∨ c = '_' ∨ c.isAlphanum = true

namespace Auth

/-- What is signed for a node: it lasts an hour. -/
def nodeClaims (nodeId : String) (now : ℕ) : NodeClaims where
  sub := nodeId
  iss := "iicp.network"
  iat := now
  exp := now + 3600

variable (J : NodeJwt)

/-- **`issue_jwt`**: without a secret there is none. -/
def issueJwt (secret : Bytes) (nodeId : String) (now : ℕ) : Option String :=
  if secret.isEmpty then none else J.encode (nodeClaims nodeId now) secret

/-- **`verify_jwt`**: whose token it is. -/
def verifyJwt (secret : Bytes) (now : ℕ) (token : String) : Option String :=
  if secret.isEmpty then none else (J.decode token secret now).map NodeClaims.sub

/-- **`node_id_from_auth`, and `verify_node_token` behind it**: who a handler takes a
request to be from. -/
def authenticated (verifyJwt : String → Option String) (verifyNodeToken : String → String → Bool)
    (xNodeId : Option Bytes) (token : String) : Option String :=
  (nodeIdFromAuth verifyJwt xNodeId token).filter fun nodeId => verifyNodeToken nodeId token

variable {J}

/-- A token without a dot is not a signed one. -/
theorem verifyJwt_of_notMem (hJ : J.Lawful) {token : String} (h : '.' ∉ token.toList)
    (secret : Bytes) (now : ℕ) : verifyJwt J secret now token = none := by
  unfold verifyJwt
  split
  · rfl
  · cases hdecode : J.decode token secret now with
    | none => rfl
    | some found => exact absurd (hJ.dotted hdecode).1 h

/-- **A token that was issued to a node names it**, until it expires. -/
theorem verifyJwt_issueJwt (hJ : J.Lawful) {secret : Bytes} {nodeId token : String}
    {issued now : ℕ} (h : issueJwt J secret nodeId issued = some token)
    (hnow : now ≤ issued + 3600) : verifyJwt J secret now token = some nodeId := by
  unfold issueJwt at h
  unfold verifyJwt
  split at h
  · exact absurd h (by simp)
  · next hsecret =>
    have hexp : now ≤ (nodeClaims nodeId issued).exp + 60 := Nat.le_add_right_of_le hnow
    rw [if_neg hsecret, hJ.decode_encode h rfl hexp]
    rfl

/-- Whoever such a token names is the node it was issued to. -/
theorem sub_of_verifyJwt (hJ : J.Lawful) {secret : Bytes} {nodeId token sub : String}
    {issued now : ℕ} (h : issueJwt J secret nodeId issued = some token)
    (hsub : verifyJwt J secret now token = some sub) : sub = nodeId := by
  unfold issueJwt at h
  unfold verifyJwt at hsub
  split at h
  · exact absurd h (by simp)
  · next hsecret =>
    rw [if_neg hsecret] at hsub
    obtain ⟨found, hfound, rfl⟩ := Option.map_eq_some_iff.mp hsub
    rw [hJ.decodes_signed h hfound]
    rfl

/-- An issued token has a dot, and nothing but what Base64 has beside it. -/
theorem dotted_of_issueJwt (hJ : J.Lawful) {secret : Bytes} {nodeId token : String} {issued : ℕ}
    (h : issueJwt J secret nodeId issued = some token) : '.' ∈ token.toList
      ∧ ∀ c ∈ token.toList, c = '.' ∨ c = '-' ∨ c = '_' ∨ c.isAlphanum = true := by
  unfold issueJwt at h
  split at h
  · exact absurd h (by simp)
  · have hexp : issued ≤ (nodeClaims nodeId issued).exp + 60 := by
      show issued ≤ issued + 3600 + 60
      omega
    exact hJ.dotted (hJ.decode_encode h rfl hexp)

end Auth
