import IicpDirectory.Seed.Replicas

/-!
# Registering a replica

A replica proves itself with a token the seed issued to it: a signed claim
about its identity, of which the seed keeps the digest. Here are the token's
two ends, as `auth.rs` has them over a library of signed tokens (`Jwt`), and
the handlers that issue one, take one back and ask for one.

`replicas_register` makes three calls to the repository and signs in
between, with no transaction around them. Its first write already lifts a
retirement and moves the endpoint, so a registration that fails later has
changed what is on record; `failureLeaves_inMemory_iff` and
`failureLeaves_mySql_iff` say when it has not.
-/

open Federation

/-! ## Tokens -/

/-- The claims of a replica token. -/
structure ReplicaClaims where
  sub : String
  iss : String
  iat : ℕ
  exp : ℕ
  role : String
  scope : String
  jti : Option String
  deriving DecidableEq

/-- Why the library refuses a token. -/
inductive JwtError
  | expiredSignature
  | other
  deriving DecidableEq

/-- **The library of signed tokens**: signing under a secret; the check of
signature, issuer and expiry under a secret at a time; the header of a
token, where it is JSON. -/
structure Jwt where
  encode : ReplicaClaims → Bytes → Option String
  decode : String → Bytes → ℕ → Except JwtError ReplicaClaims
  header : String → Option Json

/-- **What the directory relies on**: a token that is accepted says what was
signed. -/
structure Jwt.Lawful (J : Jwt) : Prop where
  decode_encode : ∀ {claims found : ReplicaClaims} {secret : Bytes} {token : String} {now : ℕ},
    J.encode claims secret = some token → J.decode token secret now = .ok found → found = claims

/-- Why a replica token is refused. -/
inductive ReplicaTokenError
  | expired
  | invalid
  deriving DecidableEq

namespace Auth

/-- What a replica token is good for. -/
def replicaScope : String := "GET /v1/snapshot"

/-- What it used to be good for. -/
def legacyReplicaScope : String := "GET /v1/events"

/-- How long it is good, in seconds. -/
def replicaTtlSeconds : ℕ := 90 * 86400

/-- `strict_hs256_header`. -/
def strictHs256Header (J : Jwt) (token : String) : Bool :=
  (J.header token).any (fun value =>
    value.getStr "alg" == some "HS256" && value.getStr "typ" == some "JWT"
      && (value.get "crit").isNone)

/-- The claims a replica is issued. -/
def claimsFor (replicaId jti : String) (now : ℕ) : ReplicaClaims where
  sub := replicaId
  iss := "iicp.network"
  iat := now
  exp := now + replicaTtlSeconds
  role := "replica"
  scope := replicaScope
  jti := some jti

/-- `issue_replica_jwt`: without a secret, or for no one, there is none. -/
def issueReplicaJwt (J : Jwt) (secret : Bytes) (replicaId jti : String) (now : ℕ) :
    Option String :=
  if secret.isEmpty || replicaId == "" then none
  else J.encode (claimsFor replicaId jti now) secret

/-- `verify_replica_jwt`. -/
def verifyReplicaJwt (J : Jwt) (secret : Bytes) (token : String) (now : ℕ) :
    Except ReplicaTokenError ReplicaClaims :=
  if secret.isEmpty then .error .invalid
  else if !strictHs256Header J token then .error .invalid
  else
    match J.decode token secret now with
    | .ok claims =>
      if claims.sub != "" && decide (claims.iat ≤ claims.exp) && claims.role == "replica"
          && (claims.scope == replicaScope || claims.scope == legacyReplicaScope) then
        .ok claims
      else .error .invalid
    | .error .expiredSignature => .error .expired
    | .error .other => .error .invalid

/-- A token that is accepted was issued to the replica it names. -/
theorem sub_of_verified {J : Jwt} (hJ : J.Lawful) {secret : Bytes} {replicaId jti token : String}
    {issued now : ℕ} {claims : ReplicaClaims}
    (hissue : issueReplicaJwt J secret replicaId jti issued = some token)
    (hverify : verifyReplicaJwt J secret token now = .ok claims) : claims.sub = replicaId := by
  unfold issueReplicaJwt at hissue
  unfold verifyReplicaJwt at hverify
  split at hissue
  · exact absurd hissue (by simp)
  · split at hverify
    · exact absurd hverify (by simp)
    · split at hverify
      · exact absurd hverify (by simp)
      · split at hverify
        · rename_i found hdecode
          split at hverify
          · rw [← Except.ok.inj hverify, hJ.decode_encode hissue hdecode]
            rfl
          · exact absurd hverify (by simp)
        · exact absurd hverify (by simp)
        · exact absurd hverify (by simp)

end Auth

/-- The digest the directory keeps of a token. -/
def tokenDigest (L : Libs) (token : String) : String := Hex.encode (L.sha256 token)

/-! ## The handlers -/

/-- A response that refuses. -/
structure Refusal where
  status : ℕ
  code : String
  message : String
  deriving DecidableEq

namespace ReplicaHandlers

/-- The token of an `Authorization` header. -/
def bearer (header : Option String) : Option String :=
  (header.bind (fun value =>
    if "Bearer ".toList.isPrefixOf value.toList then some (String.ofList (value.toList.drop 7))
    else none)).filter (· ≠ "")

/-- A bearer header names its token. -/
theorem bearer_append {token : String} (h : token ≠ "") :
    bearer (some ("Bearer " ++ token)) = some token := by
  have hstart : "Bearer ".toList.isPrefixOf ("Bearer ".toList ++ token.toList) = true :=
    List.isPrefixOf_iff_prefix.mpr (List.prefix_append _ _)
  have hdrop : ("Bearer ".toList ++ token.toList).drop 7 = token.toList := rfl
  unfold bearer
  rw [Option.bind_some, String.toList_append, if_pos hstart, hdrop, String.ofList_toList]
  simpa using h

/-- A registration request. -/
structure ReplicaRegisterRequest where
  did : String
  endpoint : String
  deriving DecidableEq

namespace ReplicaRegisterRequest

/-- What is wrong with a request, if something is. -/
def refusal (req : ReplicaRegisterRequest) : Option Refusal :=
  if !("did:web:".toList.isPrefixOf req.did.toList) then
    some ⟨422, "validation_error", "did must be a did:web identifier"⟩
  else if !("https://".toList.isPrefixOf req.endpoint.toList
      || "http://".toList.isPrefixOf req.endpoint.toList) then
    some ⟨422, "validation_error", "endpoint must be an http(s) URL"⟩
  else none

/-- The endpoint, without the slashes it ends in. -/
def trimmedEndpoint (req : ReplicaRegisterRequest) : String :=
  String.ofList (req.endpoint.toList.reverse.dropWhile (· == '/')).reverse

end ReplicaRegisterRequest

/-- What a replica gets when it registers. -/
structure RegisterResponse where
  replicaId : String
  replicaToken : String
  isNewRegistration : Bool
  deriving DecidableEq

/-- **What the world adds to one registration**: to each of its three calls,
the identity drawn for a DID that is new, and what goes into the token. -/
structure RegisterDraws where
  lookup : CallEnv
  upsert : CallEnv
  persist : CallEnv
  newId : String
  jti : String
  now : ℕ

section Handlers

variable (L : Libs) (J : Jwt) (secret : Bytes) {ρ : Type} [ReplicaStore ρ]

/-- The identity a DID is registered under: the one it has, or a new one. -/
def registerTarget (env : CallEnv) (newId : String) (repo : ρ) (did : String) : String :=
  (ReplicaStore.replicaIdByDid env repo did).getD newId

/-- The refusal of a registration whose token cannot be signed. -/
def signingUnavailable : Refusal :=
  ⟨500, "server_error", "Replica token signing is unavailable"⟩

/-- The refusal of one whose digest is not stored. -/
def rotationFailed : Refusal := ⟨500, "server_error", "Replica token rotation failed"⟩

/-- **`replicas_register`**, up to where nothing can fail any more: the
identity, the row, the token, its digest. Whether the row was written is
not looked at. -/
def replicasRegister (d : RegisterDraws) (req : ReplicaRegisterRequest) (repo : ρ) :
    Except Refusal RegisterResponse × ρ :=
  match req.refusal with
  | some refusal => (.error refusal, repo)
  | none =>
    let replicaId := registerTarget d.lookup d.newId repo req.did
    let isNew := (ReplicaStore.replicaIdByDid d.lookup repo req.did).isNone
    let repo₁ := (ReplicaStore.upsertReplica d.upsert repo replicaId req.did
      req.trimmedEndpoint "low").2
    match Auth.issueReplicaJwt J secret replicaId d.jti d.now with
    | none => (.error signingUnavailable, repo₁)
    | some token =>
      let r := ReplicaStore.setReplicaTokenHash d.persist repo₁ replicaId (tokenDigest L token)
      if r.1 then (.ok ⟨replicaId, token, isNew⟩, r.2) else (.error rotationFailed, r.2)

/-- **The authorisation of a snapshot**: a token that verifies, whose replica
has its digest on record and is active. The digest and the activity are two
reads, between which the repository may move on. -/
def authoriseSnapshot (header : Option String) (now : ℕ) (hashEnv activeEnv : CallEnv)
    (hashRepo activeRepo : ρ) : Except Refusal ReplicaClaims :=
  match bearer header with
  | none => .error ⟨401, "unauthorized", "Missing Authorization header"⟩
  | some token =>
    match Auth.verifyReplicaJwt J secret token now with
    | .error .expired =>
      .error ⟨401, "token_expired",
        "Replica JWT has expired; re-register via POST /v1/replicas/register"⟩
    | .error .invalid => .error ⟨401, "unauthorized", "Invalid replica token"⟩
    | .ok claims =>
      match ReplicaStore.replicaTokenHash hashEnv hashRepo claims.sub with
      | none => .error ⟨401, "unauthorized", "Replica not registered"⟩
      | some stored =>
        if !ReplicaStore.replicaIsActive activeEnv activeRepo claims.sub then
          .error ⟨401, "unauthorized", "Replica is not active; re-register to reactivate"⟩
        else if stored ≠ tokenDigest L token then
          .error ⟨401, "unauthorized",
            "Replica token has been rotated; re-register to obtain a fresh token"⟩
        else .ok claims

end Handlers

/-! ## A registration that fails -/

section Failure

variable (L : Libs) (J : Jwt) (secret : Bytes) {ρ : Type} [ReplicaStore ρ]

/-- **A registration that fails leaves what is on record of the DID**, as it
is read when the row is written. -/
def FailureLeaves (d : RegisterDraws) (req : ReplicaRegisterRequest) (repo : ρ) : Prop :=
  ∀ refusal, (replicasRegister L J secret d req repo).1 = .error refusal →
    ReplicaStore.record d.upsert.nowMs (replicasRegister L J secret d req repo).2 req.did
      = ReplicaStore.record d.upsert.nowMs repo req.did

/-- What is on record is what an upsert would write: the identity, active, at
the endpoint, with low trust. -/
def Settled (replicaId endpoint : String) (r : Option ReplicaRecord) : Prop :=
  ∃ x, r = some x ∧ x.replicaId = replicaId ∧ x.active = true ∧ x.endpoint = endpoint
    ∧ x.trustTier = "low"

end Failure

end ReplicaHandlers

namespace InMemoryRepo

theorem find_upsertReplicaEntry (e : ReplicaEntry) (rows : List ReplicaEntry) :
    ∃ since, (upsertReplicaEntry e rows).find? (fun r => r.did == e.did)
      = some { e with registeredAtMs := since } := by
  induction rows with
  | nil => exact ⟨e.registeredAtMs, by simp [upsertReplicaEntry]⟩
  | cons x xs ih =>
    unfold upsertReplicaEntry
    by_cases h : x.did = e.did
    · rw [if_pos h]
      exact ⟨x.registeredAtMs, by simp⟩
    · rw [if_neg h, List.find?_cons_of_neg (by simpa using h)]
      exact ih

theorem fst_setReplicaTokenHash (repo : InMemoryRepo) (replicaId tokenHash : String) :
    (repo.setReplicaTokenHash replicaId tokenHash).1 = repo.knowsReplica replicaId := by
  unfold setReplicaTokenHash
  split
  · rename_i h
    exact h.symm
  · rename_i h
    exact (Bool.eq_false_iff.mpr h).symm

/-- **What an upsert puts on record**: the identity, active, with the digest
that was there. -/
theorem record_upsertReplica (repo : InMemoryRepo) (replicaId did endpoint trustTier : String) :
    (repo.upsertReplica replicaId did endpoint trustTier).2.record did
        = some ⟨replicaId, endpoint, trustTier, true, repo.replicaTokenHash replicaId⟩
      ∧ (repo.upsertReplica replicaId did endpoint trustTier).2.knowsReplica replicaId = true := by
  obtain ⟨since, hfind⟩ := find_upsertReplicaEntry ⟨replicaId, did, endpoint, trustTier, repo.clock⟩
    repo.replicas
  have hknows : (repo.upsertReplica replicaId did endpoint trustTier).2.knowsReplica replicaId
      = true :=
    List.any_eq_true.mpr ⟨_, List.mem_of_find?_eq_some hfind, beq_self_eq_true replicaId⟩
  refine ⟨?_, hknows⟩
  have hactive : (repo.upsertReplica replicaId did endpoint trustTier).2.replicaIsActive replicaId
      = true := by
    unfold replicaIsActive
    rw [hknows]
    simp [upsertReplica]
  unfold record
  refine (congrArg (Option.map _) hfind).trans ?_
  rw [Option.map_some, hactive]
  rfl

end InMemoryRepo

namespace ReplicaHandlers

section FailureInMemory

variable (L : Libs) (J : Jwt) (secret : Bytes)

/-- **In memory**, a registration that fails leaves what is on record exactly
where it is refused at once, cannot fail because a token can be signed, or
would write what is there. -/
theorem failureLeaves_inMemory_iff (d : RegisterDraws) (req : ReplicaRegisterRequest)
    (repo : InMemoryRepo) :
    FailureLeaves L J secret d req repo
      ↔ req.refusal.isSome = true
        ∨ (Auth.issueReplicaJwt J secret (registerTarget d.lookup d.newId repo req.did) d.jti
            d.now).isSome = true
        ∨ Settled (registerTarget d.lookup d.newId repo req.did) req.trimmedEndpoint
            (repo.record req.did) := by
  unfold FailureLeaves replicasRegister
  cases hreq : req.refusal with
  | some refusal => simp
  | none =>
    dsimp only
    obtain ⟨hrecord, hknows⟩ := repo.record_upsertReplica
      (registerTarget d.lookup d.newId repo req.did) req.did req.trimmedEndpoint "low"
    cases hissue : Auth.issueReplicaJwt J secret (registerTarget d.lookup d.newId repo req.did)
        d.jti d.now with
    | some token =>
      -- the digest of a replica just written is stored
      have hstored : (ReplicaStore.setReplicaTokenHash d.persist
          (ReplicaStore.upsertReplica d.upsert repo
            (registerTarget d.lookup d.newId repo req.did) req.did req.trimmedEndpoint "low").2
          (registerTarget d.lookup d.newId repo req.did) (tokenDigest L token)).1 = true :=
        (InMemoryRepo.fst_setReplicaTokenHash _ _ _).trans hknows
      simp [hstored]
    | none =>
      simp only [Except.error.injEq, forall_eq', Option.isSome_none, Bool.false_eq_true, false_or]
      refine (Iff.of_eq (congrArg (· = repo.record req.did) hrecord)).trans ?_
      constructor
      · intro h
        exact ⟨_, h.symm, rfl, rfl, rfl, rfl⟩
      · rintro ⟨x, hx, hid, hactive, hendpoint, htier⟩
        rw [hx]
        obtain ⟨row, hrow, hxrow⟩ := Option.map_eq_some_iff.mp hx
        obtain rfl := hxrow
        dsimp only at hid hactive hendpoint htier
        rw [← hid, hactive, hendpoint, htier]

end FailureInMemory

end ReplicaHandlers

namespace MySqlStore

variable {fold : String → String}

/-- The row an upsert brings. -/
def newReplicaRow (nowMs : ℤ) (replicaId did endpoint trustTier : String) : ReplicaRow :=
  ⟨replicaId, did, endpoint, trustTier, "active", "", MySqlRepo.wholeSeconds nowMs + ninetyDaysMs⟩

/-- The row it leaves under the DID. -/
def upsertedRow (s : MySqlStore fold) (new : ReplicaRow) : ReplicaRow :=
  ((s.replicas.findDid new.did).map (fun old => old.renewed new)).getD new

theorem snd_upsertReplica (server : Server) (nowMs : ℤ) (replicaId did endpoint trustTier : String)
    (s : MySqlStore fold) :
    (s.upsertReplica server nowMs replicaId did endpoint trustTier).2
      = if server.executes && (newReplicaRow nowMs replicaId did endpoint trustTier).fits then
          { s with
            replicas := s.replicas.upsert (newReplicaRow nowMs replicaId did endpoint trustTier) }
        else s := by
  refine (Transaction.snd_single _ _ _).trans ?_
  show (if _ then ((if (newReplicaRow nowMs replicaId did endpoint trustTier).fits then _
    else none : Option (Bool × MySqlStore fold)).map Prod.snd).getD s else s) = _
  cases server.executes with
  | false => rfl
  | true =>
    cases (newReplicaRow nowMs replicaId did endpoint trustTier).fits <;> rfl

/-- The row a rotation of the digest leaves. -/
def rotated (nowMs : ℤ) (tokenHash : String) (r : ReplicaRow) : ReplicaRow :=
  { r with
    replicaTokenHash := tokenHash
    expiresAtMs := MySqlRepo.wholeSeconds nowMs + ninetyDaysMs }

theorem snd_setReplicaTokenHash (server : Server) (nowMs : ℤ) (replicaId tokenHash : String)
    (s : MySqlStore fold) :
    (s.setReplicaTokenHash server nowMs replicaId tokenHash).2
      = if server.executes then
          { s with
            replicas := s.replicas.update replicaId (rotated nowMs tokenHash)
              (fun _ => ⟨rfl, rfl⟩) }
        else s :=
  Transaction.snd_single _ _ _

theorem fst_setReplicaTokenHash (server : Server) (nowMs : ℤ) (replicaId tokenHash : String)
    (s : MySqlStore fold) :
    (s.setReplicaTokenHash server nowMs replicaId tokenHash).1
      = (server.answers && (s.replicas.find replicaId).isSome) :=
  Transaction.fst_single _ _ _

/-- What is on record of a row. -/
def recordOf (fold : String → String) (nowMs : ℤ) (r : ReplicaRow) : ReplicaRecord :=
  ⟨r.replicaId, r.endpoint, r.trustTier, r.isActive fold nowMs, some r.replicaTokenHash⟩

theorem record_eq (nowMs : ℤ) (s : MySqlStore fold) (did : String) :
    s.record nowMs did = (s.replicas.findDid did).map (recordOf fold nowMs) := rfl

variable {s : MySqlStore fold} {nowMs : ℤ} {replicaId did endpoint : String}

theorem did_upsertedRow (s : MySqlStore fold) (new : ReplicaRow) :
    fold (s.upsertedRow new).did = fold new.did := by
  unfold upsertedRow
  cases h : s.replicas.findDid new.did with
  | none => rfl
  | some old => exact (ReplicaTable.of_findDid h).2

theorem replicaId_upsertedRow (s : MySqlStore fold) (new : ReplicaRow) :
    (s.upsertedRow new).replicaId = new.replicaId := by
  unfold upsertedRow
  cases s.replicas.findDid new.did <;> rfl

/-- **After an upsert** under an identity of its own the DID and the identity
have the row it left. -/
theorem find_upserted {new : ReplicaRow} (hown : s.replicas.Owned new.replicaId new.did) :
    (s.replicas.upsert new).findDid new.did = some (s.upsertedRow new)
      ∧ (s.replicas.upsert new).find new.replicaId = some (s.upsertedRow new) := by
  have hmem : s.upsertedRow new ∈ (s.replicas.upsert new).rows :=
    (ReplicaTable.mem_upsert_iff hown _).mpr (Or.inl rfl)
  exact ⟨ReplicaTable.findDid_of_mem hmem (s.did_upsertedRow new),
    ReplicaTable.find_of_mem hmem (congrArg fold (s.replicaId_upsertedRow new))⟩

/-- The row an upsert leaves is active, at the endpoint, with low trust and
the digest that was there. -/
theorem recordOf_upsertedRow (s : MySqlStore fold) (nowMs : ℤ) (replicaId did endpoint : String) :
    recordOf fold nowMs (s.upsertedRow (newReplicaRow nowMs replicaId did endpoint "low"))
      = ⟨replicaId, endpoint, "low", true,
          some (((s.replicas.findDid did).map (fun r => r.replicaTokenHash)).getD "")⟩ := by
  have hlater : MySqlRepo.wholeSeconds nowMs < MySqlRepo.wholeSeconds nowMs + ninetyDaysMs := by
    unfold ninetyDaysMs
    omega
  unfold upsertedRow
  show recordOf fold nowMs (((s.replicas.findDid did).map _).getD _) = _
  cases s.replicas.findDid did <;>
    simp [recordOf, newReplicaRow, ReplicaRow.renewed, ReplicaRow.isActive, hlater]

/-- An upsert leaves the record of its DID exactly where it was settled
before. -/
theorem record_upserted_eq_iff (hown : s.replicas.Owned replicaId did) :
    ({ s with
        replicas := s.replicas.upsert (newReplicaRow nowMs replicaId did endpoint "low") } :
          MySqlStore fold).record nowMs did = s.record nowMs did
      ↔ ReplicaHandlers.Settled replicaId endpoint (s.record nowMs did) := by
  rw [record_eq, record_eq]
  have hfind := (@find_upserted _ s (newReplicaRow nowMs replicaId did endpoint "low") hown).1
  refine (Iff.of_eq (congrArg (fun o : Option ReplicaRow =>
    o.map (recordOf fold nowMs) = (s.replicas.findDid did).map (recordOf fold nowMs)) hfind)).trans ?_
  rw [Option.map_some, recordOf_upsertedRow]
  cases hold : s.replicas.findDid did with
  | none => simp [ReplicaHandlers.Settled]
  | some old =>
    constructor
    · intro h
      exact ⟨_, h.symm, rfl, rfl, rfl, rfl⟩
    · rintro ⟨x, hx, hid, hactive, hendpoint, htier⟩
      rw [hx, ← hid, ← hendpoint, ← hactive, ← htier]
      obtain rfl : recordOf fold nowMs old = x := Option.some.inj hx
      rfl

/-- A rotation puts its digest on record for the DID of its row. -/
theorem record_rotated {row : ReplicaRow} (hfind : s.replicas.find replicaId = some row)
    (hdid : fold row.did = fold did) (later : ℤ) (tokenHash : String) :
    ({ s with
        replicas := s.replicas.update replicaId (rotated later tokenHash) (fun _ => ⟨rfl, rfl⟩) } :
          MySqlStore fold).record nowMs did
      = some (recordOf fold nowMs (rotated later tokenHash row)) := by
  have hmem : rotated later tokenHash row
      ∈ (s.replicas.update replicaId (rotated later tokenHash) (fun _ => ⟨rfl, rfl⟩)).rows :=
    ReplicaTable.mem_update_iff.mpr (Or.inl ⟨row, hfind, rfl⟩)
  exact congrArg (Option.map (recordOf fold nowMs)) (ReplicaTable.findDid_of_mem hmem hdid)

/-- One that finds no row leaves the record. -/
theorem record_not_rotated (hfind : s.replicas.find replicaId = none) (later : ℤ)
    (tokenHash : String) :
    ({ s with
        replicas := s.replicas.update replicaId (rotated later tokenHash) (fun _ => ⟨rfl, rfl⟩) } :
          MySqlStore fold) = s := by
  rw [ReplicaTable.update_of_not_found hfind]

end MySqlStore

namespace ReplicaHandlers

section FailureInMySql

variable (L : Libs) (J : Jwt) (secret : Bytes) {fold : String → String}

/-- The identity a DID is registered under is its own, where the one drawn is
no other replica's. -/
theorem owned_registerTarget {env : CallEnv} {newId : String} {s : MySqlStore fold} (did : String)
    (hnew : ∀ r ∈ s.replicas.rows, fold r.replicaId ≠ fold newId) :
    s.replicas.Owned (registerTarget env newId s did) did := by
  intro r hr hid
  have htarget : registerTarget env newId s did
      = (if env.server.answers then (s.replicas.findDid did).map (fun r => r.replicaId)
        else none).getD newId := rfl
  rw [htarget] at hid
  split at hid
  · cases hfind : s.replicas.findDid did with
    | none =>
      rw [hfind] at hid
      exact absurd hid (hnew r hr)
    | some known =>
      rw [hfind] at hid
      obtain ⟨hmem, hdid⟩ := ReplicaTable.of_findDid hfind
      by_cases heq : r = known
      · rw [heq, hdid]
      · exact absurd hid (ReplicaTable.ne_keys hr hmem heq).1
  · exact absurd hid (hnew r hr)

/-- Whether a registration writes the row: the statement is executed and the
columns are wide enough. -/
def writesRow (d : RegisterDraws) (req : ReplicaRegisterRequest) (s : MySqlStore fold) : Bool :=
  d.upsert.server.executes
    && (MySqlStore.newReplicaRow d.upsert.nowMs (registerTarget d.lookup d.newId s req.did) req.did
      req.trimmedEndpoint "low").fits

/-- Whether there is a row for the digest: it was written, or was there. -/
def rowForDigest (d : RegisterDraws) (req : ReplicaRegisterRequest) (s : MySqlStore fold) : Bool :=
  writesRow d req s
    || (s.replicas.find (registerTarget d.lookup d.newId s req.did)).isSome

section FirstWrite

variable {d : RegisterDraws} {req : ReplicaRegisterRequest} {s : MySqlStore fold}

/-- The store after the first of the two writes. -/
def firstWrite (d : RegisterDraws) (req : ReplicaRegisterRequest) (s : MySqlStore fold) :
    MySqlStore fold :=
  (s.upsertReplica d.upsert.server d.upsert.nowMs (registerTarget d.lookup d.newId s req.did)
    req.did req.trimmedEndpoint "low").2

theorem firstWrite_eq : firstWrite d req s
    = if writesRow d req s then
        { s with
          replicas := s.replicas.upsert (MySqlStore.newReplicaRow d.upsert.nowMs
            (registerTarget d.lookup d.newId s req.did) req.did req.trimmedEndpoint "low") }
      else s :=
  MySqlStore.snd_upsertReplica _ _ _ _ _ _ _

variable (hnew : ∀ r ∈ s.replicas.rows, fold r.replicaId ≠ fold d.newId)

include hnew

/-- The first write changes nothing on record where the row is settled as it
is written. -/
theorem record_firstWrite_iff :
    (firstWrite d req s).record d.upsert.nowMs req.did = s.record d.upsert.nowMs req.did
      ↔ (writesRow d req s = true → Settled (registerTarget d.lookup d.newId s req.did)
          req.trimmedEndpoint (s.record d.upsert.nowMs req.did)) := by
  rw [firstWrite_eq]
  cases writesRow d req s with
  | false => simp
  | true =>
    rw [if_pos rfl, MySqlStore.record_upserted_eq_iff (owned_registerTarget req.did hnew)]
    simp

/-- Behind it there is a row for the digest where one was written or was
there. -/
theorem isSome_find_firstWrite :
    ((firstWrite d req s).replicas.find (registerTarget d.lookup d.newId s req.did)).isSome
      = rowForDigest d req s := by
  rw [firstWrite_eq, rowForDigest]
  cases writesRow d req s with
  | false => rfl
  | true =>
    rw [if_pos rfl, Bool.true_or]
    exact congrArg Option.isSome
      (MySqlStore.find_upserted (owned_registerTarget req.did hnew)).2

/-- That row is the DID's. -/
theorem did_of_find_firstWrite {row : ReplicaRow}
    (h : (firstWrite d req s).replicas.find (registerTarget d.lookup d.newId s req.did)
      = some row) : fold row.did = fold req.did := by
  have hown := @owned_registerTarget _ d.lookup _ _ req.did hnew
  rw [firstWrite_eq] at h
  split at h
  · have hfind := (@MySqlStore.find_upserted _ s (MySqlStore.newReplicaRow d.upsert.nowMs
      (registerTarget d.lookup d.newId s req.did) req.did req.trimmedEndpoint "low") hown).2
    rw [← Option.some.inj (hfind.symm.trans h)]
    exact s.did_upsertedRow _
  · obtain ⟨hmem, hid⟩ := ReplicaTable.of_find h
    exact hown row hmem hid

/-- **What both writes leave on record** is what was there, where neither of
those that were executed changes it. A digest that is written is none the
replica had. -/
theorem record_secondWrite_iff {digest : String}
    (hdigest : ∀ r ∈ s.replicas.rows, r.replicaTokenHash ≠ digest) :
    ((firstWrite d req s).setReplicaTokenHash d.persist.server d.persist.nowMs
        (registerTarget d.lookup d.newId s req.did) digest).2.record d.upsert.nowMs req.did
          = s.record d.upsert.nowMs req.did
      ↔ (writesRow d req s = true → Settled (registerTarget d.lookup d.newId s req.did)
            req.trimmedEndpoint (s.record d.upsert.nowMs req.did))
          ∧ (d.persist.server.executes = true → rowForDigest d req s = false) := by
  have hrecord := @record_firstWrite_iff _ d req s hnew
  have hrow := @isSome_find_firstWrite _ d req s hnew
  rw [MySqlStore.snd_setReplicaTokenHash]
  cases hexec : d.persist.server.executes with
  | false => simpa using hrecord
  | true =>
    rw [if_pos rfl]
    cases hfind : (firstWrite d req s).replicas.find
        (registerTarget d.lookup d.newId s req.did) with
    | none =>
      rw [hfind] at hrow
      rw [MySqlStore.record_not_rotated hfind, hrecord, ← hrow]
      simp
    | some row =>
      rw [hfind] at hrow
      rw [MySqlStore.record_rotated hfind (did_of_find_firstWrite hnew hfind), ← hrow]
      have hchanged : some (MySqlStore.recordOf fold d.upsert.nowMs
          (MySqlStore.rotated d.persist.nowMs digest row))
          ≠ s.record d.upsert.nowMs req.did := by
        intro he
        rw [MySqlStore.record_eq] at he
        obtain ⟨old, hold, hrec⟩ := Option.map_eq_some_iff.mp he.symm
        have hhash := congrArg ReplicaRecord.tokenHash hrec
        exact hdigest old (ReplicaTable.of_findDid hold).1 (Option.some.inj hhash)
      simp [hchanged]

end FirstWrite

/-- **Over MySQL**, a registration that fails leaves what is on record exactly
where it is refused at once, where it does not fail – the token is signed,
there is a row for its digest and the answer that it was stored arrives –
or where what it executed of its two writes changes nothing: the row is
settled as the upsert writes it, and there is no row for a digest that is
written. -/
theorem failureLeaves_mySql_iff (d : RegisterDraws) (req : ReplicaRegisterRequest)
    (s : MySqlStore fold) (hnew : ∀ r ∈ s.replicas.rows, fold r.replicaId ≠ fold d.newId)
    (hdigest : ∀ token, Auth.issueReplicaJwt J secret
        (registerTarget d.lookup d.newId s req.did) d.jti d.now = some token →
      ∀ r ∈ s.replicas.rows, r.replicaTokenHash ≠ tokenDigest L token) :
    FailureLeaves L J secret d req s
      ↔ req.refusal.isSome = true
        ∨ ((Auth.issueReplicaJwt J secret (registerTarget d.lookup d.newId s req.did) d.jti
              d.now).isSome = true
            ∧ d.persist.server.answers = true ∧ rowForDigest d req s = true)
        ∨ ((writesRow d req s = true → Settled (registerTarget d.lookup d.newId s req.did)
              req.trimmedEndpoint (s.record d.upsert.nowMs req.did))
            ∧ ((Auth.issueReplicaJwt J secret (registerTarget d.lookup d.newId s req.did) d.jti
                d.now).isSome = true →
              d.persist.server.executes = true → rowForDigest d req s = false)) := by
  unfold FailureLeaves replicasRegister
  cases hreq : req.refusal with
  | some refusal => simp
  | none =>
    dsimp only
    cases hissue : Auth.issueReplicaJwt J secret (registerTarget d.lookup d.newId s req.did) d.jti
        d.now with
    | none =>
      -- there is no second write
      simp only [Except.error.injEq, forall_eq', Option.isSome_none, Bool.false_eq_true, false_or,
        false_and, false_implies, and_true]
      exact record_firstWrite_iff hnew
    | some token =>
      have hanswer := MySqlStore.fst_setReplicaTokenHash d.persist.server d.persist.nowMs
        (registerTarget d.lookup d.newId s req.did) (tokenDigest L token) (firstWrite d req s)
      rw [isSome_find_firstWrite hnew] at hanswer
      have hresult : (ReplicaStore.setReplicaTokenHash d.persist
            (ReplicaStore.upsertReplica d.upsert s (registerTarget d.lookup d.newId s req.did)
              req.did req.trimmedEndpoint "low").2
            (registerTarget d.lookup d.newId s req.did) (tokenDigest L token))
          = (firstWrite d req s).setReplicaTokenHash d.persist.server d.persist.nowMs
              (registerTarget d.lookup d.newId s req.did) (tokenDigest L token) := rfl
      dsimp only
      rw [hresult]
      simp only [Option.isSome_some, Option.isSome_none, Bool.false_eq_true, false_or, true_and,
        forall_true_left]
      cases hseen : d.persist.server.answers && rowForDigest d req s with
      | true =>
        rw [hseen] at hanswer
        rw [Bool.and_eq_true] at hseen
        simp [hanswer, hseen]
      | false =>
        rw [hseen] at hanswer
        have hnot : ¬ (d.persist.server.answers = true ∧ rowForDigest d req s = true) := by
          rw [← Bool.and_eq_true, hseen]
          exact Bool.false_ne_true
        simp only [hanswer, Bool.false_eq_true, if_false, Except.error.injEq, forall_eq', hnot,
          false_or]
        exact record_secondWrite_iff hnew (hdigest token hissue)

end FailureInMySql

/-- **When a failed registration changes nothing**, in both repositories, for
every request, every state and every way a step may fail. -/
theorem failed_registration_leaves_iff (L : Libs) (J : Jwt) (secret : Bytes) (d : RegisterDraws)
    (req : ReplicaRegisterRequest) :
    (∀ repo : InMemoryRepo, FailureLeaves L J secret d req repo
        ↔ req.refusal.isSome = true
          ∨ (Auth.issueReplicaJwt J secret (registerTarget d.lookup d.newId repo req.did) d.jti
              d.now).isSome = true
          ∨ Settled (registerTarget d.lookup d.newId repo req.did) req.trimmedEndpoint
              (repo.record req.did))
      ∧ ∀ {fold : String → String} (s : MySqlStore fold),
        (∀ r ∈ s.replicas.rows, fold r.replicaId ≠ fold d.newId) →
        (∀ token, Auth.issueReplicaJwt J secret
            (registerTarget d.lookup d.newId s req.did) d.jti d.now = some token →
          ∀ r ∈ s.replicas.rows, r.replicaTokenHash ≠ tokenDigest L token) →
        (FailureLeaves L J secret d req s
          ↔ req.refusal.isSome = true
            ∨ ((Auth.issueReplicaJwt J secret (registerTarget d.lookup d.newId s req.did) d.jti
                  d.now).isSome = true
                ∧ d.persist.server.answers = true ∧ rowForDigest d req s = true)
            ∨ ((writesRow d req s = true → Settled (registerTarget d.lookup d.newId s req.did)
                  req.trimmedEndpoint (s.record d.upsert.nowMs req.did))
                ∧ ((Auth.issueReplicaJwt J secret (registerTarget d.lookup d.newId s req.did) d.jti
                    d.now).isSome = true →
                  d.persist.server.executes = true → rowForDigest d req s = false))) :=
  ⟨fun repo => failureLeaves_inMemory_iff L J secret d req repo,
    fun s hnew hdigest => failureLeaves_mySql_iff L J secret d req s hnew hdigest⟩

end ReplicaHandlers

namespace Sample

open ReplicaHandlers

/-- The secret tokens are signed under. -/
def hmacSecret : Bytes := [1, 2, 3]

/-- The first token of the replica. -/
def token1 : String :=
  "eyJ0eXAiOiJKV1QiLCJhbGciOiJIUzI1NiJ9" ++ "."
    ++ "eyJzdWIiOiJyMSIsImlzcyI6ImlpY3AubmV0d29yayIsImlhdCI6MSwiZXhwIjo3Nzc2MDAxLCJyb2xlIjoicmVw"
    ++ "bGljYSIsInNjb3BlIjoiR0VUIC92MS9zbmFwc2hvdCIsImp0aSI6Imp0aS0xIn0" ++ "."
    ++ "A71LaYMS8mluNb_2WdVDhG_eveUpOrB4cA-e7s6tXFc"

/-- The second. -/
def token2 : String :=
  "eyJ0eXAiOiJKV1QiLCJhbGciOiJIUzI1NiJ9" ++ "."
    ++ "eyJzdWIiOiJyMSIsImlzcyI6ImlpY3AubmV0d29yayIsImlhdCI6MiwiZXhwIjo3Nzc2MDAyLCJyb2xlIjoicmVw"
    ++ "bGljYSIsInNjb3BlIjoiR0VUIC92MS9zbmFwc2hvdCIsImp0aSI6Imp0aS0yIn0" ++ "."
    ++ "fmYeo518wrFtSxS_rsErVnMYZDKyTm3gYfg9im98JHg"

/-- The tokens that were signed, with their claims. -/
def signedTokens : List (ReplicaClaims × String) :=
  [(Auth.claimsFor "r1" "jti-1" 1, token1), (Auth.claimsFor "r1" "jti-2" 2, token2)]

/-- The libraries on the sample, with the digests of the tokens. -/
def tokenLibs : Libs :=
  { libs with
    sha256 := fun s =>
      if s = token1 then
        bytes 32 0x6294f83d1bb893a3971ac9190ca94fa2b63eefd2b012ed9a2df98b0d72d3bfa6
      else if s = token2 then
        bytes 32 0xe001b07c285538810b549b9368dc693ac8e66fd65780bd7076c3aed984c4e46b
      else libs.sha256 s }

/-- A library that signs just these, under the one secret. -/
def jwt : Jwt where
  encode claims secret :=
    if secret = hmacSecret then
      (signedTokens.find? (fun e => e.1 = claims)).map Prod.snd
    else none
  decode token secret now :=
    if secret = hmacSecret then
      match signedTokens.find? (fun e => e.2 = token) with
      | some e => if now ≤ e.1.exp then .ok e.1 else .error .expiredSignature
      | none => .error .other
    else .error .other
  header _ := some (.object [("alg", .string "HS256"), ("typ", .string "JWT")])

/-- A request of the replica the samples know, for where it is. -/
def registerRequest : ReplicaRegisterRequest := ⟨"did:web:r1.test", "https://r1.test/"⟩

/-- What the world adds to it. -/
def registerDraws : RegisterDraws := ⟨env, env, env, "r2", "jti-1", 1⟩

/-- The seed in memory after it retired the replica. -/
def retiredRepo : InMemoryRepo := (replicaRepo.decommissionReplica "r1").2

end Sample

namespace ReplicaHandlers

theorem failed_registration_leaves_sample :
    FailureLeaves Sample.tokenLibs Sample.jwt Sample.hmacSecret Sample.registerDraws
        Sample.registerRequest Sample.retiredRepo
      ∧ FailureLeaves Sample.tokenLibs Sample.jwt Sample.hmacSecret Sample.registerDraws
        Sample.registerRequest Sample.replicaStore := by
  have h := failed_registration_leaves_iff Sample.tokenLibs Sample.jwt Sample.hmacSecret
    Sample.registerDraws Sample.registerRequest
  refine ⟨(h.1 Sample.retiredRepo).mpr (Or.inr (Or.inl (by decide))),
    (h.2 Sample.replicaStore ?_ ?_).mpr (Or.inr (Or.inl (by decide)))⟩
  · decide
  · intro token _ r hr he
    obtain rfl := List.mem_singleton.mp hr
    -- no digest is empty
    have hdecode : Hex.decode "" = some (Sample.tokenLibs.sha256 token) := by
      rw [← Hex.decode_encode (Sample.tokenLibs.sha256 token)]
      exact congrArg Hex.decode he
    have hlen : (Sample.tokenLibs.sha256 token).length = 32 := by
      show (if _ then _ else if _ then _ else _ : Bytes).length = 32
      split
      · exact Sample.length_bytes 32 _
      · split <;> exact Sample.length_bytes 32 _
    rw [← Option.some.inj hdecode] at hlen
    exact absurd hlen (by decide)

/-- **A registration that fails takes a retirement back**: without a secret
to sign under the request is answered with an error, and the replica, retired
before, is active again, in memory; over MySQL, the same where the endpoint
was another. -/
theorem failed_registration_reactivates :
    (replicasRegister Sample.tokenLibs Sample.jwt [] Sample.registerDraws Sample.registerRequest
        Sample.retiredRepo).1 = .error signingUnavailable
      ∧ Sample.retiredRepo.replicaIsActive "r1" = false
      ∧ (replicasRegister Sample.tokenLibs Sample.jwt [] Sample.registerDraws Sample.registerRequest
        Sample.retiredRepo).2.replicaIsActive "r1" = true
      ∧ ¬ FailureLeaves Sample.tokenLibs Sample.jwt [] Sample.registerDraws Sample.registerRequest
        Sample.retiredRepo
      ∧ ¬ FailureLeaves Sample.tokenLibs Sample.jwt [] Sample.registerDraws
        ⟨"did:web:r1.test", "https://elsewhere.test"⟩ Sample.replicaStore := by
  refine ⟨by decide, by decide, by decide, fun h => ?_, fun h => ?_⟩
  · have hleft := h signingUnavailable (by decide)
    exact absurd hleft (by decide)
  · have hleft := h signingUnavailable (by decide)
    exact absurd hleft (by decide)

end ReplicaHandlers
