import IicpDirectory.Foundations.Run
import IicpDirectory.Seed.ReplicaHandlers

/-!
# Replica credentials, over runs

A seed serves many requests at once. `replicas_register` and
`replicas_deregister` call the repository several times, and between two
calls of one request come the calls of others. A `World` is the repository
with the requests under way; an action lets one of them make its next call.

Beside them the world keeps what became of the replicas: a `Deed` for each
registration that was answered with a token and each retirement that was
answered with success. The result is that a token a replica was given opens
the snapshot only while the last deed of the replica is the registration
that issued it (`accepted_only_latest`).

What the proof needs of a repository is in `KeepsDigests`, and both
repositories have it. In memory a digest is kept under the identity. Over
MySQL it is in the row of the DID, which may pass from one identity to
another, so there an identity has to be drawn for one DID only.
-/

open Federation

/-- What became of a replica. -/
inductive Deed
  | registered (replicaId token : String)
  | retired (replicaId : String)
  deriving DecidableEq

/-- The replica it became of. -/
def Deed.replicaId : Deed → String
  | .registered replicaId _ => replicaId
  | .retired replicaId => replicaId

/-- The last deed of a replica. -/
def lastDeed (replicaId : String) (log : List Deed) : Option Deed :=
  (log.filter (fun e => e.replicaId = replicaId)).getLast?

theorem lastDeed_append_singleton (replicaId : String) (log : List Deed) (e : Deed) :
    lastDeed replicaId (log ++ [e])
      = if e.replicaId = replicaId then some e else lastDeed replicaId log := by
  unfold lastDeed
  rw [List.filter_append]
  by_cases h : e.replicaId = replicaId
  · rw [if_pos h, List.filter_cons_of_pos (by simpa using h), List.filter_nil,
      List.getLast?_append, List.getLast?_singleton, Option.some_or]
  · rw [if_neg h, List.filter_cons_of_neg (by simpa using h), List.filter_nil, List.append_nil]

/-- The last deed of a longer log is one of the new ones, or what it was. -/
theorem lastDeed_append (replicaId : String) (log more : List Deed) :
    (∃ e ∈ more, lastDeed replicaId (log ++ more) = some e)
      ∨ lastDeed replicaId (log ++ more) = lastDeed replicaId log := by
  induction more using List.reverseRecOn with
  | nil => exact Or.inr (by rw [List.append_nil])
  | append_singleton more e ih =>
    rw [← List.append_assoc, lastDeed_append_singleton]
    by_cases h : e.replicaId = replicaId
    · rw [if_pos h]
      exact Or.inl ⟨e, List.mem_append_right _ (List.mem_singleton.mpr rfl), rfl⟩
    · rw [if_neg h]
      rcases ih with ⟨x, hx, he⟩ | he
      · exact Or.inl ⟨x, List.mem_append_left _ hx, he⟩
      · exact Or.inr he

namespace InMemoryRepo

theorem fst_decommissionReplicaWithEvent (repo : InMemoryRepo) (L : Libs)
    (key replicaId did : String) (draw : Draw) :
    (repo.decommissionReplicaWithEvent L key replicaId did draw).1 = repo.knowsReplica replicaId := by
  unfold decommissionReplicaWithEvent decommissionReplica knowsReplica
  cases repo.replicas.any (fun r => r.replicaId == replicaId) <;> rfl

/-- A retirement forgets the digest. -/
theorem replicaTokenHashes_decommissioned (repo : InMemoryRepo) (L : Libs)
    (key replicaId did : String) (draw : Draw) :
    (repo.decommissionReplicaWithEvent L key replicaId did draw).2.replicaTokenHashes
      = if repo.knowsReplica replicaId then
          repo.replicaTokenHashes.filter (fun e => e.1 ≠ replicaId)
        else repo.replicaTokenHashes := by
  unfold decommissionReplicaWithEvent decommissionReplica knowsReplica
  cases repo.replicas.any (fun r => r.replicaId == replicaId) <;> rfl

end InMemoryRepo

namespace Credentials

open ReplicaHandlers

/-- **A request under way**, at the call it makes next: of a registration,
the lookup of the DID, the row, the digest; of a deregistration, the two
checks, the search for the DID, the retirement. -/
inductive Session
  | lookingUp (req : ReplicaRegisterRequest)
  | upserting (req : ReplicaRegisterRequest) (replicaId : String)
  | persisting (replicaId token : String)
  | checkingActive (token replicaId : String)
  | checkingHash (token replicaId : String)
  | findingDid (replicaId : String)
  | retiring (replicaId did : String)
  deriving DecidableEq

/-- What the world adds to one call: to the call itself, the identity drawn
for a new DID, and what goes into a token. -/
structure StepDraws where
  env : CallEnv
  newId : String
  jti : String
  now : ℕ

/-- What a call leaves: the request, if it goes on, the repository, what
became of a replica, and the digest that was drawn to be stored. -/
structure Advance (ρ : Type) where
  next : Option Session
  repo : ρ
  deed : Option Deed
  drawn : Option String

section Machine

variable (L : Libs) (J : Jwt) (secret : Bytes) (key : Option String) {ρ : Type} [ReplicaStore ρ]

/-- **The next call of a request.** A registration whose token cannot be
signed ends after the row is written, and a deregistration without a
signing key before the retirement. -/
def Session.advance (d : StepDraws) (repo : ρ) : Session → Advance ρ
  | .lookingUp req =>
    ⟨some (.upserting req (registerTarget d.env d.newId repo req.did)), repo, none, none⟩
  | .upserting req replicaId =>
    ⟨(Auth.issueReplicaJwt J secret replicaId d.jti d.now).map (.persisting replicaId),
      (ReplicaStore.upsertReplica d.env repo replicaId req.did req.trimmedEndpoint "low").2,
      none, none⟩
  | .persisting replicaId token =>
    let r := ReplicaStore.setReplicaTokenHash d.env repo replicaId (tokenDigest L token)
    ⟨none, r.2, if r.1 then some (.registered replicaId token) else none,
      some (tokenDigest L token)⟩
  | .checkingActive token replicaId =>
    ⟨if ReplicaStore.replicaIsActive d.env repo replicaId then some (.checkingHash token replicaId)
      else none, repo, none, none⟩
  | .checkingHash token replicaId =>
    ⟨if ReplicaStore.replicaTokenHash d.env repo replicaId = some (tokenDigest L token) then
        some (.findingDid replicaId)
      else none, repo, none, none⟩
  | .findingDid replicaId =>
    let did := (((ReplicaStore.allReplicas d.env repo).find? (fun r => r.1 == replicaId)).map
      Prod.snd).getD ""
    ⟨key.map (fun _ => .retiring replicaId did), repo, none, none⟩
  | .retiring replicaId did =>
    match key with
    | none => ⟨none, repo, none, none⟩
    | some signingKey =>
      let r := ReplicaStore.decommissionReplicaWithEvent L signingKey d.env repo replicaId did
      ⟨none, r.2, if r.1 then some (.retired replicaId) else none, some d.env.tombstone⟩

/-- **The seed at work**: the repository, the requests under way, the deeds
so far and the digests that were drawn. -/
structure World (ρ : Type) where
  repo : ρ
  sessions : List Session
  log : List Deed
  drawn : List String

/-- A seed that starts on a repository. -/
def World.start (repo : ρ) : World ρ := ⟨repo, [], [], []⟩

/-- A request arrives, one under way makes its next call, or one is
abandoned. -/
inductive Action
  | register (req : ReplicaRegisterRequest)
  | deregister (header : Option String) (now : ℕ)
  | call (i : ℕ) (d : StepDraws)
  | abandon (i : ℕ)

/-- The session of a registration, if the request is not refused at once. -/
def registerSession (req : ReplicaRegisterRequest) : Option Session :=
  if req.refusal.isSome then none else some (.lookingUp req)

/-- The session of a deregistration, if its token verifies. -/
def deregisterSession (header : Option String) (now : ℕ) : Option Session :=
  match bearer header with
  | none => none
  | some token =>
    match Auth.verifyReplicaJwt J secret token now with
    | .ok claims => some (.checkingActive token claims.sub)
    | .error _ => none

/-- **One action.** -/
def step (w : World ρ) : Action → World ρ
  | .register req => { w with sessions := w.sessions ++ (registerSession req).toList }
  | .deregister header now =>
    { w with sessions := w.sessions ++ (deregisterSession J secret header now).toList }
  | .call i d =>
    match w.sessions[i]? with
    | none => w
    | some s =>
      let a := s.advance L J secret key d w.repo
      { repo := a.repo
        sessions := w.sessions.eraseIdx i ++ a.next.toList
        log := w.log ++ a.deed.toList
        drawn := w.drawn ++ a.drawn.toList }
  | .abandon i => { w with sessions := w.sessions.eraseIdx i }

/-- **What is drawn is new**: a digest is none that was drawn before, nor
empty, and the identity for a DID without one belongs to it. -/
def Fresh (belongs : String → String → Prop) (w : World ρ) : Action → Prop
  | .call i d => ∀ s, w.sessions[i]? = some s →
      (∀ v, (s.advance L J secret key d w.repo).drawn = some v → v ∉ w.drawn ∧ v ≠ "")
        ∧ ∀ req, s = .lookingUp req → ReplicaStore.replicaIdByDid d.env w.repo req.did = none →
          belongs d.newId req.did
  | _ => True

/-- **A registration that is not interrupted** is the handler: the lookup
and the row, and with a token its digest. -/
theorem register_uninterrupted (d : RegisterDraws) (req : ReplicaRegisterRequest) (repo : ρ)
    (hreq : req.refusal = none) :
    let target := registerTarget d.lookup d.newId repo req.did
    let first := (Session.lookingUp req).advance L J secret key ⟨d.lookup, d.newId, d.jti, d.now⟩ repo
    let second := (Session.upserting req target).advance L J secret key
      ⟨d.upsert, d.newId, d.jti, d.now⟩ first.repo
    first.next = some (.upserting req target)
      ∧ (second.next = none →
        replicasRegister L J secret d req repo = (.error signingUnavailable, second.repo))
      ∧ ∀ session, second.next = some session →
        ∃ token, session = .persisting target token
          ∧ let third := session.advance L J secret key ⟨d.persist, d.newId, d.jti, d.now⟩ second.repo
            replicasRegister L J secret d req repo
              = (if third.deed = some (.registered target token) then
                  .ok ⟨target, token, (ReplicaStore.replicaIdByDid d.lookup repo req.did).isNone⟩
                else .error rotationFailed, third.repo) := by
  dsimp only [Session.advance]
  refine ⟨rfl, fun hnone => ?_, fun session hsome => ?_⟩
  · rw [Option.map_eq_none_iff] at hnone
    unfold replicasRegister
    rw [hreq]
    dsimp only
    rw [hnone]
  · obtain ⟨token, hissue, rfl⟩ := Option.map_eq_some_iff.mp hsome
    refine ⟨token, rfl, ?_⟩
    unfold replicasRegister
    rw [hreq]
    dsimp only
    rw [hissue]
    dsimp only
    split <;> simp

end Machine

/-! ## What a repository does to the digests -/

/-- **A repository keeps digests**: `carries` says which digest may come to
be read for an identity. It is among them while the repository is in order;
the row of a registration brings no digest, or the empty one; and a digest
that is stored, or that takes a retired one's place, is all the identity
carries then. -/
structure KeepsDigests (ρ : Type) [ReplicaStore ρ] (belongs : String → String → Prop)
    (carries : ρ → String → String → Prop) (ok : ρ → Prop) : Prop where
  read : ∀ {env : CallEnv} {repo : ρ} {replicaId h : String}, ok repo →
    ReplicaStore.replicaTokenHash env repo replicaId = some h → carries repo replicaId h
  looked : ∀ {env : CallEnv} {repo : ρ} {did replicaId : String}, ok repo →
    ReplicaStore.replicaIdByDid env repo did = some replicaId → belongs replicaId did
  upserted : ∀ {env : CallEnv} {repo : ρ} {replicaId did : String} (endpoint trustTier : String),
    ok repo → belongs replicaId did →
      ok (ReplicaStore.upsertReplica env repo replicaId did endpoint trustTier).2
        ∧ ∀ i h, carries (ReplicaStore.upsertReplica env repo replicaId did endpoint trustTier).2 i h →
          carries repo i h ∨ h = ""
  rotated : ∀ {env : CallEnv} {repo : ρ} (replicaId digest : String), ok repo →
    ok (ReplicaStore.setReplicaTokenHash env repo replicaId digest).2
      ∧ (∀ i h, carries (ReplicaStore.setReplicaTokenHash env repo replicaId digest).2 i h →
          carries repo i h ∨ h = digest)
      ∧ ((ReplicaStore.setReplicaTokenHash env repo replicaId digest).1 = true →
        ∀ h, carries (ReplicaStore.setReplicaTokenHash env repo replicaId digest).2 replicaId h →
          h = digest)
  retired : ∀ {env : CallEnv} {repo : ρ} (L : Libs) (key replicaId did : String), ok repo →
    ok (ReplicaStore.decommissionReplicaWithEvent L key env repo replicaId did).2
      ∧ (∀ i h, carries (ReplicaStore.decommissionReplicaWithEvent L key env repo replicaId did).2 i h →
          carries repo i h ∨ h = env.tombstone)
      ∧ ((ReplicaStore.decommissionReplicaWithEvent L key env repo replicaId did).1 = true →
        ∀ h, carries (ReplicaStore.decommissionReplicaWithEvent L key env repo replicaId did).2
          replicaId h → h = env.tombstone)

/-- **In memory** the digests are kept by identity. -/
theorem keepsDigests_inMemory : KeepsDigests InMemoryRepo (fun _ _ => True)
    (fun repo replicaId h => repo.replicaTokenHash replicaId = some h) (fun _ => True) where
  read _ h := h
  looked _ _ := trivial
  upserted _ _ _ _ := ⟨trivial, fun _ _ h => Or.inl h⟩
  rotated {_ repo} replicaId digest _ := by
    show _ ∧ (∀ i h, (repo.setReplicaTokenHash replicaId digest).2.replicaTokenHash i = some h → _)
      ∧ ((repo.setReplicaTokenHash replicaId digest).1 = true → ∀ h,
        (repo.setReplicaTokenHash replicaId digest).2.replicaTokenHash replicaId = some h → _)
    unfold InMemoryRepo.setReplicaTokenHash
    split
    · have hlookup : ∀ i, (assocInsert replicaId digest repo.replicaTokenHashes).lookup i
          = if i = replicaId then some digest else repo.replicaTokenHash i :=
        lookup_assocInsert replicaId digest repo.replicaTokenHashes
      refine ⟨trivial, fun i h hread => ?_, fun _ h hread => ?_⟩
      · have hread := (hlookup i).symm.trans hread
        split at hread
        · exact Or.inr (Option.some.inj hread).symm
        · exact Or.inl hread
      · have hread := (hlookup replicaId).symm.trans hread
        rw [if_pos rfl] at hread
        exact (Option.some.inj hread).symm
    · exact ⟨trivial, fun i h hread => Or.inl hread, fun hf => absurd hf Bool.false_ne_true⟩
  retired {env repo} L key replicaId did _ := by
    have hanswer := repo.fst_decommissionReplicaWithEvent L key replicaId did env.draw
    have hhashes : ∀ i, (repo.decommissionReplicaWithEvent L key replicaId did
          env.draw).2.replicaTokenHash i
        = if repo.knowsReplica replicaId then
            (repo.replicaTokenHashes.filter (fun e => e.1 ≠ replicaId)).lookup i
          else repo.replicaTokenHash i := by
      intro i
      unfold InMemoryRepo.replicaTokenHash
      rw [repo.replicaTokenHashes_decommissioned L key replicaId did env.draw]
      split <;> rfl
    refine ⟨trivial, fun i h hread => Or.inl ?_, fun htrue h hread => ?_⟩
    · have hread := (hhashes i).symm.trans hread
      split at hread
      · by_cases hi : i = replicaId
        · rw [hi, lookup_filter_ne] at hread
          exact absurd hread (by simp)
        · rwa [lookup_filter_of_ne hi] at hread
      · exact hread
    · have hread := (hhashes replicaId).symm.trans hread
      rw [if_pos (hanswer.symm.trans htrue), lookup_filter_ne] at hread
      exact absurd hread (by simp)

section MySql

variable {fold : String → String} (owner : String → String)

/-- A row of the DID an identity was drawn for has the digest. -/
def carriesMySql (s : MySqlStore fold) (replicaId h : String) : Prop :=
  ∃ r ∈ s.replicas.rows, fold r.did = fold (owner replicaId) ∧ r.replicaTokenHash = h

/-- Each row has the DID its identity was drawn for. -/
def InOrder (s : MySqlStore fold) : Prop :=
  ∀ r ∈ s.replicas.rows, fold (owner r.replicaId) = fold r.did

variable {owner}

/-- **Writing a digest into the row of an identity** leaves the rows in order,
brings no other digest, and is all that identity carries then. -/
theorem carries_update
    (howner : ∀ a b, fold a = fold b → fold (owner a) = fold (owner b)) {s s' : MySqlStore fold}
    {replicaId v : String} {f : ReplicaRow → ReplicaRow}
    (hf : ∀ r, (f r).replicaId = r.replicaId ∧ (f r).did = r.did)
    (hs' : s'.replicas = s.replicas.update replicaId f hf) (hhash : ∀ r, (f r).replicaTokenHash = v)
    (hok : InOrder owner s) :
    InOrder owner s'
      ∧ (∀ i h, carriesMySql owner s' i h → carriesMySql owner s i h ∨ h = v)
      ∧ ((s.replicas.find replicaId).isSome = true →
        ∀ h, carriesMySql owner s' replicaId h → h = v) := by
  have hrows : ∀ r, r ∈ s'.replicas.rows
      ↔ (∃ old, s.replicas.find replicaId = some old ∧ r = f old)
        ∨ (r ∈ s.replicas.rows ∧ fold r.replicaId ≠ fold replicaId) := fun r => by
    rw [hs']
    exact ReplicaTable.mem_update_iff
  refine ⟨fun r hr => ?_, fun i h hcarries => ?_, fun hsome h hcarries => ?_⟩
  · rcases (hrows r).mp hr with ⟨old, hold, rfl⟩ | ⟨hmem, _⟩
    · rw [(hf old).1, (hf old).2]
      exact hok old (ReplicaTable.of_find hold).1
    · exact hok r hmem
  · obtain ⟨r, hr, hdid, hh⟩ := hcarries
    rcases (hrows r).mp hr with ⟨old, hold, rfl⟩ | ⟨hmem, _⟩
    · exact Or.inr (hh.symm.trans (hhash old))
    · exact Or.inl ⟨r, hmem, hdid, hh⟩
  · obtain ⟨r, hr, hdid, hh⟩ := hcarries
    rcases (hrows r).mp hr with ⟨old, hold, rfl⟩ | ⟨hmem, hid⟩
    · exact hh.symm.trans (hhash old)
    · -- the row of the identity has the same DID, so it is this one
      obtain ⟨row, hrow⟩ := Option.isSome_iff_exists.mp hsome
      obtain ⟨hrowmem, hrowid⟩ := ReplicaTable.of_find hrow
      have hrowdid : fold row.did = fold r.did :=
        ((hok row hrowmem).symm.trans (howner _ _ hrowid)).trans hdid.symm
      have hsame : row = r := by
        by_contra hne
        exact (ReplicaTable.ne_keys hrowmem hmem hne).2 hrowdid
      exact absurd (hsame ▸ hrowid) hid

/-- **Over MySQL** they are kept by DID, where each identity is drawn for
one. -/
theorem keepsDigests_mySql
    (howner : ∀ a b, fold a = fold b → fold (owner a) = fold (owner b)) :
    KeepsDigests (MySqlStore fold) (fun replicaId did => fold (owner replicaId) = fold did)
      (carriesMySql owner) (InOrder owner) where
  read {env s replicaId h} hok hread := by
    have hread : (if env.server.answers then
        (s.replicas.find replicaId).map (fun r => r.replicaTokenHash) else none) = some h := hread
    split at hread
    · obtain ⟨r, hr, hh⟩ := Option.map_eq_some_iff.mp hread
      obtain ⟨hmem, hid⟩ := ReplicaTable.of_find hr
      exact ⟨r, hmem, (hok r hmem).symm.trans (howner _ _ hid), hh⟩
    · exact absurd hread (by simp)
  looked {env s did replicaId} hok hlooked := by
    have hlooked : (if env.server.answers then
        (s.replicas.findDid did).map (fun r => r.replicaId) else none) = some replicaId := hlooked
    split at hlooked
    · obtain ⟨r, hr, hid⟩ := Option.map_eq_some_iff.mp hlooked
      obtain ⟨hmem, hdid⟩ := ReplicaTable.of_findDid hr
      rw [← hid, hok r hmem, hdid]
    · exact absurd hlooked (by simp)
  upserted {env s replicaId did} endpoint trustTier hok hbelongs := by
    have hown : s.replicas.Owned replicaId did := fun r hr hid =>
      (hok r hr).symm.trans ((howner _ _ hid).trans hbelongs)
    have hleft := s.snd_upsertReplica env.server env.nowMs replicaId did endpoint trustTier
    show InOrder owner (s.upsertReplica env.server env.nowMs replicaId did endpoint trustTier).2
      ∧ ∀ i h, carriesMySql owner
        (s.upsertReplica env.server env.nowMs replicaId did endpoint trustTier).2 i h → _
    rw [hleft]
    split
    · have hrows := @ReplicaTable.mem_upsert_iff fold s.replicas
        (MySqlStore.newReplicaRow env.nowMs replicaId did endpoint trustTier) hown
      refine ⟨fun r hr => ?_, fun i h hcarries => ?_⟩
      · rcases (hrows r).mp hr with rfl | ⟨hmem, _⟩
        · have hid := s.replicaId_upsertedRow
            (MySqlStore.newReplicaRow env.nowMs replicaId did endpoint trustTier)
          have hdid := s.did_upsertedRow
            (MySqlStore.newReplicaRow env.nowMs replicaId did endpoint trustTier)
          exact (congrArg (fun x => fold (owner x)) hid).trans (hbelongs.trans hdid.symm)
        · exact hok r hmem
      · obtain ⟨r, hr, hdid, hh⟩ := hcarries
        rcases (hrows r).mp hr with rfl | ⟨hmem, _⟩
        · cases hfind : s.replicas.findDid
              (MySqlStore.newReplicaRow env.nowMs replicaId did endpoint trustTier).did with
          | none =>
            rw [hfind] at hh
            exact Or.inr hh.symm
          | some old =>
            rw [hfind] at hh hdid
            exact Or.inl ⟨old, (ReplicaTable.of_findDid hfind).1, hdid, hh⟩
        · exact Or.inl ⟨r, hmem, hdid, hh⟩
    · exact ⟨hok, fun i h hcarries => Or.inl hcarries⟩
  rotated {env s} replicaId digest hok := by
    have hleft := MySqlStore.snd_setReplicaTokenHash env.server env.nowMs replicaId digest s
    have hanswer := MySqlStore.fst_setReplicaTokenHash env.server env.nowMs replicaId digest s
    show InOrder owner (s.setReplicaTokenHash env.server env.nowMs replicaId digest).2
      ∧ (∀ i h, carriesMySql owner
          (s.setReplicaTokenHash env.server env.nowMs replicaId digest).2 i h → _)
      ∧ ((s.setReplicaTokenHash env.server env.nowMs replicaId digest).1 = true → ∀ h,
        carriesMySql owner (s.setReplicaTokenHash env.server env.nowMs replicaId digest).2
          replicaId h → _)
    rw [hleft, hanswer]
    cases hexec : env.server.executes with
    | false =>
      refine ⟨hok, fun i h hcarries => Or.inl hcarries, fun htrue => ?_⟩
      rw [Bool.and_eq_true] at htrue
      rw [Server.executes_of_answers htrue.1] at hexec
      exact absurd hexec (by simp)
    | true =>
      rw [if_pos rfl]
      obtain ⟨hok', hbrings, hall⟩ := @carries_update _ _ howner s
        { s with
          replicas := s.replicas.update replicaId (MySqlStore.rotated env.nowMs digest)
            (fun _ => ⟨rfl, rfl⟩) }
        replicaId digest (MySqlStore.rotated env.nowMs digest) (fun _ => ⟨rfl, rfl⟩) rfl
        (fun _ => rfl) hok
      exact ⟨hok', hbrings, fun htrue => hall ((Bool.and_eq_true _ _).mp htrue).2⟩
  retired {env s} L key replicaId did hok := by
    show InOrder owner (s.decommissionReplicaWithEvent L key env replicaId did).2
      ∧ (∀ i h, carriesMySql owner (s.decommissionReplicaWithEvent L key env replicaId did).2 i h → _)
      ∧ ((s.decommissionReplicaWithEvent L key env replicaId did).1 = true → ∀ h,
        carriesMySql owner (s.decommissionReplicaWithEvent L key env replicaId did).2 replicaId h → _)
    have hsame : InOrder owner s ∧ (∀ i h, carriesMySql owner s i h → carriesMySql owner s i h
        ∨ h = env.tombstone) ∧ (false = true → ∀ h, carriesMySql owner s replicaId h →
          h = env.tombstone) :=
      ⟨hok, fun i h hcarries => Or.inl hcarries, fun hf => absurd hf Bool.false_ne_true⟩
    have hreach := s.reaches_decommissionBody L key env replicaId did
    cases hcommit : s.commitReached L key env replicaId did with
    | false =>
      rw [hcommit, if_neg Bool.false_ne_true] at hreach
      have hrun : s.decommissionReplicaWithEvent L key env replicaId did = (false, s) :=
        Transaction.run_of_not_reached hreach
      rw [hrun]
      exact hsame
    | true =>
      rw [hcommit, if_pos rfl] at hreach
      have hrun : s.decommissionReplicaWithEvent L key env replicaId did = _ :=
        Transaction.run_of_reached hreach
      obtain ⟨hok', hbrings, hall⟩ := @carries_update _ _ howner s
        (s.decommissioned L key env replicaId did) replicaId env.tombstone
        (MySqlStore.retired env.nowMs env.tombstone) (fun _ => ⟨rfl, rfl⟩) rfl (fun _ => rfl) hok
      have hsome : (s.replicas.find replicaId).isSome = true := by
        unfold MySqlStore.commitReached at hcommit
        simp only [Bool.and_eq_true] at hcommit
        cases hfind : s.replicas.find replicaId with
        | none =>
          rw [hfind] at hcommit
          exact absurd hcommit.1.2 (by simp)
        | some r => rfl
      rw [hrun]
      cases env.server.commit with
      | done => exact ⟨hok', hbrings, fun _ => hall hsome⟩
      | refused => exact hsame
      | lost => exact ⟨hok', hbrings, fun hf => absurd hf Bool.false_ne_true⟩

end MySql

/-! ## The invariant -/

section Invariant

variable (L : Libs) (J : Jwt) (secret : Bytes) (key : Option String) {ρ : Type} [ReplicaStore ρ]
  (belongs : String → String → Prop) (carries : ρ → String → String → Prop) (ok : ρ → Prop)

/-- A token was issued to a replica. -/
def IssuedTo (replicaId token : String) : Prop :=
  ∃ jti now, Auth.issueReplicaJwt J secret replicaId jti now = some token

/-- The digest of the token of a registration. -/
def digestOf : Deed → Option String
  | .registered _ token => some (tokenDigest L token)
  | .retired _ => none

/-- What a session has: the identity belongs to the DID, the token was
issued to the replica. -/
def SessionOk : Session → Prop
  | .upserting req replicaId => belongs replicaId req.did
  | .persisting replicaId token => IssuedTo J secret replicaId token
  | _ => True

/-- **A digest is current** for a replica: it is none of a token the replica
was given, or the one of its last deed. -/
def Current (log : List Deed) (replicaId h : String) : Prop :=
  (∀ token, .registered replicaId token ∈ log → tokenDigest L token ≠ h)
    ∨ ∃ token, lastDeed replicaId log = some (.registered replicaId token)
      ∧ tokenDigest L token = h

/-- **The invariant**: what an identity carries is current; and the tokens
in the log were issued to their replicas, their digests drawn, each once. -/
structure Sound (w : World ρ) : Prop where
  ok : ok w.repo
  sessions : ∀ s ∈ w.sessions, SessionOk J secret belongs s
  issued : ∀ replicaId token, .registered replicaId token ∈ w.log → IssuedTo J secret replicaId token
  drawn : ∀ replicaId token, .registered replicaId token ∈ w.log → tokenDigest L token ∈ w.drawn
  nonempty : "" ∉ w.drawn
  distinct : (w.log.filterMap (digestOf L)).Nodup
  current : ∀ replicaId h, carries w.repo replicaId h → Current L w.log replicaId h

variable {L J secret key belongs carries ok}

/-- **What the next call of a request can do.** What an identity carries
after it was carried before, or is what the call drew, the empty digest if
it drew none. A deed comes with a digest that is all its replica carries,
and the deed of a registration with that of its token. -/
theorem advance_spec (hkeeps : KeepsDigests ρ belongs carries ok) {s : Session} {repo : ρ}
    {d : StepDraws} (hok : ok repo) (hs : SessionOk J secret belongs s)
    (hnew : ∀ req, s = .lookingUp req → ReplicaStore.replicaIdByDid d.env repo req.did = none →
      belongs d.newId req.did) :
    ok (s.advance L J secret key d repo).repo
      ∧ (∀ next, (s.advance L J secret key d repo).next = some next → SessionOk J secret belongs next)
      ∧ (∀ i h, carries (s.advance L J secret key d repo).repo i h →
          carries repo i h ∨ h = (s.advance L J secret key d repo).drawn.getD "")
      ∧ ∀ e, (s.advance L J secret key d repo).deed = some e →
        ∃ v, (s.advance L J secret key d repo).drawn = some v
          ∧ (∀ h, carries (s.advance L J secret key d repo).repo e.replicaId h → h = v)
          ∧ ∀ replicaId token, e = .registered replicaId token →
            v = tokenDigest L token ∧ IssuedTo J secret replicaId token := by
  have hquiet : ∀ i h, carries repo i h → carries repo i h ∨ h = "" := fun _ _ h => Or.inl h
  cases s with
  | lookingUp req =>
    refine ⟨hok, fun next hnext => ?_, hquiet, fun e he => nomatch he⟩
    rw [← Option.some.inj hnext]
    show belongs (registerTarget d.env d.newId repo req.did) req.did
    unfold registerTarget
    cases hlooked : ReplicaStore.replicaIdByDid d.env repo req.did with
    | none => exact hnew req rfl hlooked
    | some replicaId => exact hkeeps.looked hok hlooked
  | upserting req replicaId =>
    obtain ⟨hok', hcarries⟩ := @KeepsDigests.upserted _ _ _ _ _ hkeeps d.env _ _ _ req.trimmedEndpoint
      "low" hok hs
    refine ⟨hok', fun next hnext => ?_, hcarries, fun e he => nomatch he⟩
    obtain ⟨token, hissue, rfl⟩ := Option.map_eq_some_iff.mp hnext
    exact ⟨d.jti, d.now, hissue⟩
  | persisting replicaId token =>
    obtain ⟨hok', hcarries, hall⟩ :=
      @KeepsDigests.rotated _ _ _ _ _ hkeeps d.env _ replicaId (tokenDigest L token) hok
    refine ⟨hok', fun next hnext => (nomatch hnext), hcarries, fun e he => ?_⟩
    have he : (if (ReplicaStore.setReplicaTokenHash d.env repo replicaId (tokenDigest L token)).1
        then some (Deed.registered replicaId token) else none) = some e := he
    split at he
    · rename_i hset
      obtain rfl := Option.some.inj he
      refine ⟨_, rfl, hall hset, fun i t heq => ?_⟩
      obtain ⟨rfl, rfl⟩ := Deed.registered.inj heq
      exact ⟨rfl, hs⟩
    · exact nomatch he
  | checkingActive token replicaId =>
    refine ⟨hok, fun next hnext => ?_, hquiet, fun e he => nomatch he⟩
    have hnext : (if ReplicaStore.replicaIsActive d.env repo replicaId then
        some (Session.checkingHash token replicaId) else none) = some next := hnext
    split at hnext
    · rw [← Option.some.inj hnext]
      exact trivial
    · exact nomatch hnext
  | checkingHash token replicaId =>
    refine ⟨hok, fun next hnext => ?_, hquiet, fun e he => nomatch he⟩
    have hnext : (if ReplicaStore.replicaTokenHash d.env repo replicaId
        = some (tokenDigest L token) then some (Session.findingDid replicaId) else none)
          = some next := hnext
    split at hnext
    · rw [← Option.some.inj hnext]
      exact trivial
    · exact nomatch hnext
  | findingDid replicaId =>
    refine ⟨hok, fun next hnext => ?_, hquiet, fun e he => nomatch he⟩
    obtain ⟨signingKey, _, rfl⟩ := Option.map_eq_some_iff.mp hnext
    exact trivial
  | retiring replicaId did =>
    cases key with
    | none => exact ⟨hok, fun next hnext => (nomatch hnext), hquiet, fun e he => nomatch he⟩
    | some signingKey =>
      obtain ⟨hok', hcarries, hall⟩ :=
        @KeepsDigests.retired _ _ _ _ _ hkeeps d.env _ L signingKey replicaId did hok
      refine ⟨hok', fun next hnext => (nomatch hnext), hcarries, fun e he => ?_⟩
      have he : (if (ReplicaStore.decommissionReplicaWithEvent L signingKey d.env repo replicaId
          did).1 then some (Deed.retired replicaId) else none) = some e := he
      split at he
      · rename_i hretired
        obtain rfl := Option.some.inj he
        exact ⟨_, rfl, hall hretired, fun i t heq => nomatch heq⟩
      · exact nomatch he

omit [ReplicaStore ρ] in
/-- A digest that is no one's is current for everyone. -/
theorem current_of_drawn {w : World ρ} (hw : Sound L J secret belongs carries ok w) {h : String}
    (hh : h ∉ w.drawn) (replicaId : String) :
    ∀ token, .registered replicaId token ∈ w.log → tokenDigest L token ≠ h :=
  fun token hmem heq => hh (heq ▸ hw.drawn replicaId token hmem)

/-- **A call keeps the invariant**, where what it draws is new. -/
theorem sound_call (hkeeps : KeepsDigests ρ belongs carries ok) {w : World ρ} {i : ℕ}
    {d : StepDraws} (hw : Sound L J secret belongs carries ok w)
    (hfresh : Fresh L J secret key belongs w (.call i d)) :
    Sound L J secret belongs carries ok (step L J secret key w (.call i d)) := by
  unfold step
  cases hs : w.sessions[i]? with
  | none =>
    dsimp only
    rw [hs]
    exact hw
  | some s =>
    dsimp only
    rw [hs]
    dsimp only
    obtain ⟨hdraw, hnew⟩ := hfresh s hs
    obtain ⟨hok', hnext, hcarries, hdeed⟩ := @advance_spec L _ _ key _ _ _ _ _ hkeeps _ _ _ hw.ok
      (hw.sessions s (List.mem_of_getElem? hs)) hnew
    -- what was drawn is new, and not empty
    have hunused : (s.advance L J secret key d w.repo).drawn.getD "" ∉ w.drawn := by
      cases hv : (s.advance L J secret key d w.repo).drawn with
      | none => exact hw.nonempty
      | some v => exact (hdraw v hv).1
    refine ⟨hok', ?_, ?_, ?_, ?_, ?_, ?_⟩
    · intro s' hs'
      rcases List.mem_append.mp hs' with hold | hnew'
      · exact hw.sessions s' (List.mem_of_mem_eraseIdx hold)
      · exact hnext s' (Option.mem_toList.mp hnew')
    · intro replicaId token hmem
      rcases List.mem_append.mp hmem with hold | hlast
      · exact hw.issued replicaId token hold
      · obtain ⟨v, _, _, hregistered⟩ := hdeed _ (Option.mem_toList.mp hlast)
        exact (hregistered replicaId token rfl).2
    · intro replicaId token hmem
      rcases List.mem_append.mp hmem with hold | hlast
      · exact List.mem_append_left _ (hw.drawn replicaId token hold)
      · obtain ⟨v, hv, _, hregistered⟩ := hdeed _ (Option.mem_toList.mp hlast)
        rw [← (hregistered replicaId token rfl).1, hv]
        exact List.mem_append_right _ (List.mem_singleton.mpr rfl)
    · intro hmem
      rcases List.mem_append.mp hmem with hold | hlast
      · exact hw.nonempty hold
      · exact (hdraw "" (Option.mem_toList.mp hlast)).2 rfl
    · rw [List.filterMap_append]
      refine List.nodup_append.mpr ⟨hw.distinct, ?_, ?_⟩
      · cases (s.advance L J secret key d w.repo).deed with
        | none => exact List.nodup_nil
        | some e =>
          cases e with
          | registered replicaId token => exact List.nodup_singleton (tokenDigest L token)
          | retired replicaId => exact List.nodup_nil
      · intro a ha b hb hab
        obtain ⟨e, he, hea⟩ := List.mem_filterMap.mp ha
        obtain ⟨e', he', heb⟩ := List.mem_filterMap.mp hb
        obtain ⟨v, hv, _, hregistered⟩ := hdeed e' (Option.mem_toList.mp he')
        cases e' with
        | retired replicaId => exact nomatch heb
        | registered replicaId token =>
          cases e with
          | retired _ => exact nomatch hea
          | registered replicaId' token' =>
            have hdigest : tokenDigest L token' = v :=
              (Option.some.inj hea).trans (hab.trans ((Option.some.inj heb).symm.trans
                (hregistered replicaId token rfl).1.symm))
            exact (hdraw v hv).1 (hdigest ▸ hw.drawn replicaId' token' he)
    · intro replicaId h hc
      cases hdeeds : (s.advance L J secret key d w.repo).deed with
      | none =>
        show Current L (w.log ++ []) replicaId h
        rw [List.append_nil]
        rcases hcarries replicaId h hc with hold | hdrawn
        · exact hw.current replicaId h hold
        · exact Or.inl (current_of_drawn hw (hdrawn ▸ hunused) replicaId)
      | some e =>
        obtain ⟨v, hv, hall, hregistered⟩ := hdeed e hdeeds
        rw [hv, Option.getD_some] at hunused hcarries
        show Current L (w.log ++ [e]) replicaId h
        unfold Current
        rw [lastDeed_append_singleton]
        by_cases he : e.replicaId = replicaId
        · -- all the replica carries is what was drawn with its deed
          have hh : h = v := hall h (he ▸ hc)
          rw [if_pos he, hh]
          cases e with
          | registered i token =>
            obtain rfl : i = replicaId := he
            exact Or.inr ⟨token, rfl, (hregistered i token rfl).1.symm⟩
          | retired i =>
            refine Or.inl fun token hmem => current_of_drawn hw hunused replicaId token ?_
            exact (List.mem_append.mp hmem).resolve_right fun hlast =>
              nomatch List.mem_singleton.mp hlast
        · have hlog : ∀ token, .registered replicaId token ∈ w.log ++ [e] →
              .registered replicaId token ∈ w.log := fun token hmem =>
            (List.mem_append.mp hmem).resolve_right fun hlast =>
              he (List.mem_singleton.mp hlast ▸ rfl)
          rw [if_neg he]
          rcases hcarries replicaId h hc with hold | hdrawn
          · rcases hw.current replicaId h hold with hnone | hlast
            · exact Or.inl fun token hmem => hnone token (hlog token hmem)
            · exact Or.inr hlast
          · rw [hdrawn]
            exact Or.inl fun token hmem =>
              current_of_drawn hw hunused replicaId token (hlog token hmem)

/-- **Every action keeps the invariant.** -/
theorem sound_step (hkeeps : KeepsDigests ρ belongs carries ok) (w : World ρ) (a : Action)
    (hw : Sound L J secret belongs carries ok w) (hfresh : Fresh L J secret key belongs w a) :
    Sound L J secret belongs carries ok (step L J secret key w a) := by
  cases a with
  | call i d => exact sound_call hkeeps hw hfresh
  | register req =>
    refine { hw with sessions := fun s hs => ?_ }
    rcases List.mem_append.mp hs with hold | hnew
    · exact hw.sessions s hold
    · have hsession := Option.mem_toList.mp hnew
      unfold registerSession at hsession
      split at hsession
      · exact nomatch hsession
      · rw [← Option.some.inj hsession]
        exact trivial
  | deregister header now =>
    refine { hw with sessions := fun s hs => ?_ }
    rcases List.mem_append.mp hs with hold | hnew
    · exact hw.sessions s hold
    · have hsession := Option.mem_toList.mp hnew
      unfold deregisterSession at hsession
      split at hsession
      · exact nomatch hsession
      · split at hsession
        · rw [← Option.some.inj hsession]
          exact trivial
        · exact nomatch hsession
  | abandon i =>
    exact { hw with sessions := fun s hs => hw.sessions s (List.mem_of_mem_eraseIdx hs) }

omit [ReplicaStore ρ] in
theorem sound_start {start : ρ} (hkeeps : ∀ replicaId h, ¬ carries start replicaId h) (hok : ok start) :
    Sound L J secret belongs carries ok (World.start start) where
  ok := hok
  sessions _ hs := nomatch hs
  issued _ _ hmem := nomatch hmem
  drawn _ _ hmem := nomatch hmem
  nonempty hmem := nomatch hmem
  distinct := List.nodup_nil
  current replicaId h hc := absurd hc (hkeeps replicaId h)

/-- The log only grows. -/
theorem log_step (w : World ρ) (a : Action) :
    ∃ more, (step L J secret key w a).log = w.log ++ more := by
  cases a with
  | call i d =>
    unfold step
    cases hs : w.sessions[i]? with
    | none => exact ⟨[], by simp [hs]⟩
    | some s => exact ⟨(s.advance L J secret key d w.repo).deed.toList, by simp [hs]⟩
  | register req => exact ⟨[], (List.append_nil _).symm⟩
  | deregister header now => exact ⟨[], (List.append_nil _).symm⟩
  | abandon i => exact ⟨[], (List.append_nil _).symm⟩

theorem log_after (w : World ρ) (actions : List Action) :
    ∃ more, (Run.after (step L J secret key) w actions).log = w.log ++ more := by
  induction actions generalizing w with
  | nil => exact ⟨[], (List.append_nil _).symm⟩
  | cons a rest ih =>
    obtain ⟨first, hfirst⟩ := @log_step L J secret key _ _ w a
    obtain ⟨more, hmore⟩ := ih (step L J secret key w a)
    refine ⟨first ++ more, ?_⟩
    rw [Run.after_cons, hmore, hfirst, List.append_assoc]

/-! ## Which token opens the snapshot -/

theorem eq_of_nodup_filterMap {α β : Type*} {f : α → Option β} {l : List α}
    (h : (l.filterMap f).Nodup) {a b : α} {c : β} (ha : a ∈ l) (hb : b ∈ l) (hfa : f a = some c)
    (hfb : f b = some c) : a = b := by
  rw [List.Nodup, List.pairwise_filterMap] at h
  by_contra hne
  have hsymm : Std.Symm (fun x y : α => ∀ b, f x = some b → ∀ b', f y = some b' → b ≠ b') :=
    ⟨fun x y hxy b hb b' hb' he => hxy b' hb' b hb he.symm⟩
  exact h.forall ha hb hne c hfa c hfb rfl

/-- **What makes a request accepted**: its token verifies, its digest is the
one stored for the replica it names, and the replica is active. -/
theorem accepted_iff {header : Option String} {token : String} {now : ℕ}
    {hashEnv activeEnv : CallEnv} {hashRepo activeRepo : ρ} {claims : ReplicaClaims}
    (hheader : bearer header = some token) :
    authoriseSnapshot L J secret header now hashEnv activeEnv hashRepo activeRepo = .ok claims
      ↔ Auth.verifyReplicaJwt J secret token now = .ok claims
        ∧ ReplicaStore.replicaTokenHash hashEnv hashRepo claims.sub = some (tokenDigest L token)
        ∧ ReplicaStore.replicaIsActive activeEnv activeRepo claims.sub = true := by
  unfold authoriseSnapshot
  rw [hheader]
  dsimp only
  cases hverify : Auth.verifyReplicaJwt J secret token now with
  | error e => cases e <;> simp
  | ok found =>
    dsimp only
    constructor
    · intro h
      split at h
      · exact nomatch h
      · rename_i stored hstored
        split at h
        · exact nomatch h
        · rename_i hactive
          split at h
          · exact nomatch h
          · rename_i hdigest
            obtain rfl := Except.ok.inj h
            exact ⟨rfl, hstored.trans (congrArg some (not_not.mp hdigest)), by simpa using hactive⟩
    · rintro ⟨hclaims, hstored, hactive⟩
      obtain rfl := Except.ok.inj hclaims
      simp [hstored, hactive]

/-- **The token that is accepted** is the one of the replica's last deed. -/
theorem lastDeed_of_accepted (hJ : J.Lawful) (hkeeps : KeepsDigests ρ belongs carries ok)
    {w : World ρ} (hw : Sound L J secret belongs carries ok w) {header : Option String}
    {token replicaId : String} {now : ℕ} {hashEnv activeEnv : CallEnv} {activeRepo : ρ}
    {claims : ReplicaClaims} (hheader : bearer header = some token)
    (hgiven : .registered replicaId token ∈ w.log)
    (h : authoriseSnapshot L J secret header now hashEnv activeEnv w.repo activeRepo = .ok claims) :
    claims.sub = replicaId ∧ lastDeed replicaId w.log = some (.registered replicaId token) := by
  obtain ⟨hverify, hstored, _⟩ := (accepted_iff hheader).mp h
  obtain ⟨jti, issued, hissue⟩ := hw.issued replicaId token hgiven
  have hsub := Auth.sub_of_verified hJ hissue hverify
  refine ⟨hsub, ?_⟩
  rw [hsub] at hstored
  rcases hw.current replicaId _ (hkeeps.read hw.ok hstored) with hnone | ⟨latest, hlast, hdigest⟩
  · exact absurd rfl (hnone token hgiven)
  · -- the two tokens have one digest, and each digest is in the log once
    have hin : Deed.registered replicaId latest ∈ w.log :=
      List.mem_of_mem_filter (List.mem_of_getLast? hlast)
    have hsame : Deed.registered replicaId latest = .registered replicaId token :=
      eq_of_nodup_filterMap hw.distinct hin hgiven rfl (congrArg some hdigest.symm)
    rw [hlast, hsame]

variable (L J secret key belongs)

/-- **Only the latest token is accepted.** A run, and a request for the
snapshot with a token that some replica was given in it: the digest is read
after the run, the activity later. If the request is accepted, it is for
that replica, and the last that became of the replica is the registration
that gave it the token. -/
def OnlyLatest (start : ρ) : Prop :=
  ∀ before between : List Action,
    Run.Along (step L J secret key) (Fresh L J secret key belongs) (World.start start)
      (before ++ between) →
    ∀ (header : Option String) (token replicaId : String) (now : ℕ) (hashEnv activeEnv : CallEnv)
      (claims : ReplicaClaims), bearer header = some token →
      .registered replicaId token ∈ (Run.after (step L J secret key) (.start start) before).log →
      authoriseSnapshot L J secret header now hashEnv activeEnv
          (Run.after (step L J secret key) (.start start) before).repo
          (Run.after (step L J secret key) (.start start) (before ++ between)).repo = .ok claims →
        claims.sub = replicaId
          ∧ lastDeed replicaId (Run.after (step L J secret key) (.start start) before).log
            = some (.registered replicaId token)

/-- **An earlier token is refused forever**: once a replica that was given a
token has registered again or was retired, no later request with the token
is accepted. -/
def EarlierRefused (start : ρ) : Prop :=
  ∀ before since between : List Action,
    Run.Along (step L J secret key) (Fresh L J secret key belongs) (World.start start)
      (before ++ since ++ between) →
    ∀ token replicaId : String,
      .registered replicaId token ∈ (Run.after (step L J secret key) (.start start) before).log →
      lastDeed replicaId (Run.after (step L J secret key) (.start start) before).log
        ≠ some (.registered replicaId token) →
      ∀ (header : Option String) (now : ℕ) (hashEnv activeEnv : CallEnv) (claims : ReplicaClaims),
        bearer header = some token →
        authoriseSnapshot L J secret header now hashEnv activeEnv
            (Run.after (step L J secret key) (.start start) (before ++ since)).repo
            (Run.after (step L J secret key) (.start start) (before ++ since ++ between)).repo
          ≠ .ok claims

variable {L J secret key belongs}

theorem sound_after (hkeeps : KeepsDigests ρ belongs carries ok) {start : ρ}
    (hempty : ∀ replicaId h, ¬ carries start replicaId h) (hok : ok start) {actions more : List Action}
    (hrun : Run.Along (step L J secret key) (Fresh L J secret key belongs) (World.start start)
      (actions ++ more)) :
    Sound L J secret belongs carries ok (Run.after (step L J secret key) (.start start) actions) :=
  Run.invariant_along (fun w a hw hfresh => sound_step hkeeps w a hw hfresh)
    (sound_start hempty hok) ((Run.along_append _ _ _ _ _).mp hrun).1

theorem onlyLatest_of_keeps (hJ : J.Lawful) (hkeeps : KeepsDigests ρ belongs carries ok) {start : ρ}
    (hempty : ∀ replicaId h, ¬ carries start replicaId h) (hok : ok start) :
    OnlyLatest L J secret key belongs start :=
  fun _ _ hrun _ _ _ _ _ _ _ hheader hgiven haccepted =>
    lastDeed_of_accepted hJ hkeeps (sound_after hkeeps hempty hok hrun) hheader hgiven haccepted

theorem earlierRefused_of_keeps (hJ : J.Lawful) (hkeeps : KeepsDigests ρ belongs carries ok)
    {start : ρ} (hempty : ∀ replicaId h, ¬ carries start replicaId h) (hok : ok start) :
    EarlierRefused L J secret key belongs start := by
  intro before since between hrun token replicaId hgiven hearlier header now hashEnv activeEnv
    claims hheader haccepted
  have hsound := @sound_after L _ _ key _ _ _ _ _ hkeeps _ hempty hok _ _ hrun
  obtain ⟨more, hmore⟩ := @log_after L J secret key _ _
    (Run.after (step L J secret key) (World.start start) before) since
  rw [← Run.after_append] at hmore
  have hlater : Deed.registered replicaId token
      ∈ (Run.after (step L J secret key) (.start start) (before ++ since)).log := by
    rw [hmore]
    exact List.mem_append_left _ hgiven
  obtain ⟨_, hlast⟩ := lastDeed_of_accepted hJ hkeeps hsound hheader hlater haccepted
  have hdistinct := hsound.distinct
  rw [hmore] at hlast hdistinct
  rcases lastDeed_append replicaId _ more with ⟨e, he, heq⟩ | heq
  · -- the token would have been given twice
    obtain rfl := Option.some.inj (heq.symm.trans hlast)
    rw [List.filterMap_append] at hdistinct
    exact (List.nodup_append.mp hdistinct).2.2 _ (List.mem_filterMap.mpr ⟨_, hgiven, rfl⟩) _
      (List.mem_filterMap.mpr ⟨_, he, rfl⟩) rfl
  · exact hearlier (heq.symm.trans hlast)

end Invariant

/-- **The lifecycle of replica credentials**, in both repositories: over any
run in which what is drawn is new, a token opens the snapshot only while the
last deed of its replica is the registration that gave it, and an earlier
one never again. -/
theorem accepted_only_latest (L : Libs) {J : Jwt} (hJ : J.Lawful) (secret : Bytes)
    (key : Option String) :
    (OnlyLatest L J secret key (fun _ _ => True) InMemoryRepo.empty
        ∧ EarlierRefused L J secret key (fun _ _ => True) InMemoryRepo.empty)
      ∧ ∀ fold owner : String → String,
        (∀ a b, fold a = fold b → fold (owner a) = fold (owner b)) →
          OnlyLatest L J secret key (fun replicaId did => fold (owner replicaId) = fold did)
              (MySqlStore.empty fold)
            ∧ EarlierRefused L J secret key (fun replicaId did => fold (owner replicaId) = fold did)
              (MySqlStore.empty fold) := by
  have hmemory : ∀ replicaId h, ¬ InMemoryRepo.empty.replicaTokenHash replicaId = some h :=
    fun _ _ h => nomatch h
  refine ⟨⟨onlyLatest_of_keeps hJ keepsDigests_inMemory hmemory trivial,
    earlierRefused_of_keeps hJ keepsDigests_inMemory hmemory trivial⟩, fun fold owner howner => ?_⟩
  have htable : ∀ replicaId h, ¬ carriesMySql owner (MySqlStore.empty fold) replicaId h :=
    fun _ _ ⟨_, hr, _⟩ => nomatch hr
  have horder : InOrder owner (MySqlStore.empty fold) := fun _ hr => nomatch hr
  exact ⟨onlyLatest_of_keeps hJ (keepsDigests_mySql howner) htable horder,
    earlierRefused_of_keeps hJ (keepsDigests_mySql howner) htable horder⟩

end Credentials

namespace Sample

open ReplicaHandlers Credentials

/-- The library of the samples says of a token what was signed. -/
theorem jwt_lawful : jwt.Lawful where
  decode_encode {claims found secret token now} hencode hdecode := by
    dsimp only [jwt] at hencode hdecode
    split at hencode
    · rename_i hsecret
      obtain ⟨e, hfind, htoken⟩ := Option.map_eq_some_iff.mp hencode
      have hmem := List.mem_of_find?_eq_some hfind
      have hclaims : e.1 = claims := by simpa using List.find?_some hfind
      have hsigned : ∀ e ∈ signedTokens, signedTokens.find? (fun e' => e'.2 = e.2) = some e := by
        decide +kernel
      rw [if_pos hsecret, ← htoken, hsigned e hmem] at hdecode
      dsimp only at hdecode
      split at hdecode
      · rw [← Except.ok.inj hdecode, hclaims]
      · exact absurd hdecode (by simp)
    · exact absurd hencode (by simp)

/-- A call in which the identity `r1` is drawn, and what its token takes. -/
def draws : StepDraws := ⟨env, "r1", "jti-1", 1⟩

/-- A replica registers. -/
def replicaRegistration : List Action :=
  [.register registerRequest, .call 0 draws, .call 0 draws, .call 0 draws]

end Sample

namespace Credentials

open ReplicaHandlers

/-- That a call draws nothing old can be computed. -/
theorem fresh_of_all {L : Libs} {J : Jwt} {secret : Bytes} {key : Option String}
    {w : World InMemoryRepo} {i : ℕ} {d : StepDraws}
    (h : w.sessions[i]?.all (fun s => (s.advance L J secret key d w.repo).drawn.all
      (fun v => decide (v ∉ w.drawn ∧ v ≠ ""))) = true) :
    Fresh L J secret key (fun _ _ => True) w (.call i d) := by
  intro s hs
  rw [hs, Option.all_some] at h
  refine ⟨fun v hv => ?_, fun _ _ _ => trivial⟩
  rw [hv, Option.all_some] at h
  exact of_decide_eq_true h

theorem accepted_only_latest_sample :
    lastDeed "r1" (Run.after (step Sample.tokenLibs Sample.jwt Sample.hmacSecret none)
        (World.start InMemoryRepo.empty) Sample.replicaRegistration).log
      = some (.registered "r1" Sample.token1) := by
  have hfresh : Run.Along (step Sample.tokenLibs Sample.jwt Sample.hmacSecret none)
      (Fresh Sample.tokenLibs Sample.jwt Sample.hmacSecret none (fun _ _ => True))
      (World.start InMemoryRepo.empty) (Sample.replicaRegistration ++ []) := by
    refine ⟨trivial, ?_, ?_, ?_, trivial⟩ <;> exact fresh_of_all (by decide +kernel)
  have hheader : bearer (some ("Bearer " ++ Sample.token1)) = some Sample.token1 :=
    bearer_append (by decide)
  refine ((accepted_only_latest Sample.tokenLibs Sample.jwt_lawful Sample.hmacSecret none).1.1
    Sample.replicaRegistration [] hfresh (some ("Bearer " ++ Sample.token1)) Sample.token1 "r1" 5
    Sample.env Sample.env (Auth.claimsFor "r1" "jti-1" 1) hheader (by decide +kernel)
    ((accepted_iff hheader).mpr ⟨by decide +kernel, by decide +kernel, by decide +kernel⟩)).2

end Credentials
