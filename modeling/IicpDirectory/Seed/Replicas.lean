import IicpDirectory.MySqlStore

/-!
# The replicas a seed knows

A seed keeps a row for each replica, the digest of the token it issued to
it last, and whether it was retired. `ReplicaStore` is that part of the
repository trait, for both repositories: in memory three collections under
locks of their own, over MySQL one table, where retiring a replica puts a
digest of no token in the place of the digest.

The retirement that is announced, `decommission_replica_with_event`, is
meant to be atomic: the replica is retired and a signed
`REPLICA_DEREGISTERED` is at the head of the log, or nothing has happened.
In memory it retires first and appends then; over MySQL it is one
transaction. Neither looks at whether the signer returned a signature, so
under a malformed key both retire the replica, append an unsigned row and
answer that all is well (`announced_inMemory_iff`, `announced_mySql_iff`).
-/

open Federation

/-- **What the world adds to one call of a repository**: what the server
makes of it, the time, the value whose digest retires a token, and what an
appender draws. -/
structure CallEnv where
  server : Server
  nowMs : ℤ
  tombstone : String
  draw : Draw

/-- What is on record of a replica, at a time. -/
structure ReplicaRecord where
  replicaId : String
  endpoint : String
  trustTier : String
  active : Bool
  tokenHash : Option String
  deriving DecidableEq

/-- **The operations on replicas**, what they leave on record, and the log
they append to. -/
class ReplicaStore (ρ : Type) where
  /-- The identity of a DID. -/
  replicaIdByDid : CallEnv → ρ → String → Option String
  /-- Record a replica (identity, DID, endpoint, trust tier). -/
  upsertReplica : CallEnv → ρ → String → String → String → String → Bool × ρ
  /-- Store the digest of a token; whether the replica is known. -/
  setReplicaTokenHash : CallEnv → ρ → String → String → Bool × ρ
  /-- The digest stored for a replica. -/
  replicaTokenHash : CallEnv → ρ → String → Option String
  /-- The replica is known and was not retired. -/
  replicaIsActive : CallEnv → ρ → String → Bool
  /-- The identities and DIDs of the active replicas. -/
  allReplicas : CallEnv → ρ → List (String × String)
  /-- Retire a replica and append the event, under a signing key. -/
  decommissionReplicaWithEvent : Libs → String → CallEnv → ρ → String → String → Bool × ρ
  /-- What is on record of a DID, at a time. -/
  record : ℤ → ρ → String → Option ReplicaRecord
  /-- The digest on record for an identity. -/
  storedDigest : ρ → String → Option String
  /-- The signed log. -/
  log : ρ → List EventRow
  /-- The head of its chain. -/
  head : ρ → ChainHead

/-! ## In memory -/

namespace InMemoryRepo

/-- `InMemoryRepo::replica_id_by_did`. -/
def replicaIdByDid (repo : InMemoryRepo) (did : String) : Option String :=
  (repo.replicas.find? (fun r => r.did == did)).map (fun r => r.replicaId)

/-- Whether a row has the identity. -/
def knowsReplica (repo : InMemoryRepo) (replicaId : String) : Bool :=
  repo.replicas.any (fun r => r.replicaId == replicaId)

/-- `InMemoryRepo::set_replica_token_hash`. -/
def setReplicaTokenHash (repo : InMemoryRepo) (replicaId tokenHash : String) :
    Bool × InMemoryRepo :=
  if repo.knowsReplica replicaId then
    (true, { repo with
      replicaTokenHashes := assocInsert replicaId tokenHash repo.replicaTokenHashes })
  else (false, repo)

/-- `InMemoryRepo::replica_token_hash`. -/
def replicaTokenHash (repo : InMemoryRepo) (replicaId : String) : Option String :=
  repo.replicaTokenHashes.lookup replicaId

/-- `InMemoryRepo::replica_is_active`. -/
def replicaIsActive (repo : InMemoryRepo) (replicaId : String) : Bool :=
  repo.knowsReplica replicaId && !decide (replicaId ∈ repo.decommissionedReplicas)

/-- `InMemoryRepo::all_replicas`. -/
def allReplicas (repo : InMemoryRepo) : List (String × String) :=
  (repo.replicas.filter (fun r => r.replicaId ∉ repo.decommissionedReplicas)).map
    (fun r => (r.replicaId, r.did))

/-- What is on record of a DID. -/
def record (repo : InMemoryRepo) (did : String) : Option ReplicaRecord :=
  (repo.replicas.find? (fun r => r.did == did)).map (fun r =>
    { replicaId := r.replicaId
      endpoint := r.endpoint
      trustTier := r.trustTier
      active := repo.replicaIsActive r.replicaId
      tokenHash := repo.replicaTokenHash r.replicaId })

instance : ReplicaStore InMemoryRepo where
  replicaIdByDid _ repo := repo.replicaIdByDid
  upsertReplica _ repo := repo.upsertReplica
  setReplicaTokenHash _ repo := repo.setReplicaTokenHash
  replicaTokenHash _ repo := repo.replicaTokenHash
  replicaIsActive _ repo := repo.replicaIsActive
  allReplicas _ repo := repo.allReplicas
  decommissionReplicaWithEvent L key env repo replicaId did :=
    repo.decommissionReplicaWithEvent L key replicaId did env.draw
  record _ repo := repo.record
  storedDigest repo := repo.replicaTokenHash
  log repo := repo.events
  head repo := headOf repo.events

end InMemoryRepo

/-! ## Over MySQL -/

/-- `status = 'active' AND expires_at > NOW()`. -/
def ReplicaRow.isActive (fold : String → String) (nowMs : ℤ) (r : ReplicaRow) : Bool :=
  fold r.status == fold "active" && decide (MySqlRepo.wholeSeconds nowMs < r.expiresAtMs)

namespace MySqlStore

variable {fold : String → String}

/-- `MySqlRepo::replica_id_by_did`: a read that fails finds nothing. -/
def replicaIdByDid (server : Server) (s : MySqlStore fold) (did : String) : Option String :=
  if server.answers then (s.replicas.findDid did).map (fun r => r.replicaId) else none

/-- `MySqlRepo::set_replica_token_hash`. -/
def setReplicaTokenHash (server : Server) (nowMs : ℤ) (replicaId tokenHash : String) :
    MySqlStore fold → Bool × MySqlStore fold :=
  Transaction.single server (fun s =>
    some ((s.replicas.find replicaId).isSome,
      { s with
        replicas := s.replicas.update replicaId
          (fun r => { r with
            replicaTokenHash := tokenHash
            expiresAtMs := MySqlRepo.wholeSeconds nowMs + ninetyDaysMs })
          (fun _ => ⟨rfl, rfl⟩) }))

/-- `MySqlRepo::replica_token_hash`. -/
def replicaTokenHash (server : Server) (s : MySqlStore fold) (replicaId : String) :
    Option String :=
  if server.answers then (s.replicas.find replicaId).map (fun r => r.replicaTokenHash) else none

/-- `MySqlRepo::replica_is_active`. -/
def replicaIsActive (server : Server) (nowMs : ℤ) (s : MySqlStore fold) (replicaId : String) :
    Bool :=
  server.answers && (s.replicas.find replicaId).any (ReplicaRow.isActive fold nowMs)

/-- `MySqlRepo::all_replicas`. -/
def allReplicas (server : Server) (nowMs : ℤ) (s : MySqlStore fold) : List (String × String) :=
  if server.answers then
    (s.replicas.rows.filter (ReplicaRow.isActive fold nowMs)).map (fun r => (r.replicaId, r.did))
  else []

/-- The log takes a row: its number and its event identity are new, and the
columns are wide enough. -/
def takesEvent (s : MySqlStore fold) (row : EventRow) : Bool :=
  s.nodeEvents.all (fun r => r.seq != row.seq && fold r.eventId != fold row.eventId)
    && decide (row.eventId.length ≤ 36) && decide (row.nodeId.length ≤ 36)
    && decide (0 ≤ row.tsMs)

/-- The event a retirement appends. -/
def deregisteredEvent (replicaId did : String) : NewEvent :=
  ⟨"REPLICA_DEREGISTERED", replicaId, .object [("did", .string did)]⟩

/-- The statements of `MySqlRepo::decommission_replica_with_event`: the row
is locked and must be active, the head is locked, the replica retired, the
event inserted – signed or not – and the head moved. -/
def decommissionBody (L : Libs) (key : String) (env : CallEnv) (replicaId did : String)
    (head : ChainHead) : List (MySqlStore fold → Option (MySqlStore fold)) :=
  let row := rowAfter L key head (deregisteredEvent replicaId did) env.draw
  [fun s =>
      if (s.replicas.find replicaId).any (fun r => r.status == "active"
        && decide (MySqlRepo.wholeSeconds env.nowMs < r.expiresAtMs)) then some s else none,
    some,
    fun s => some { s with
      replicas := s.replicas.update replicaId (retired env.nowMs env.tombstone)
        (fun _ => ⟨rfl, rfl⟩) },
    fun s => if s.takesEvent row then some { s with nodeEvents := s.nodeEvents ++ [row] } else none,
    fun s => some { s with head := row.asHead }]

/-- `MySqlRepo::decommission_replica_with_event`. -/
def decommissionReplicaWithEvent (L : Libs) (key : String) (env : CallEnv) (s : MySqlStore fold)
    (replicaId did : String) : Bool × MySqlStore fold :=
  Transaction.run env.server (decommissionBody L key env replicaId did s.head) s

/-- What is on record of a DID. -/
def record (nowMs : ℤ) (s : MySqlStore fold) (did : String) : Option ReplicaRecord :=
  (s.replicas.findDid did).map (fun r =>
    { replicaId := r.replicaId
      endpoint := r.endpoint
      trustTier := r.trustTier
      active := r.isActive fold nowMs
      tokenHash := some r.replicaTokenHash })

instance : ReplicaStore (MySqlStore fold) where
  replicaIdByDid env := replicaIdByDid env.server
  upsertReplica env s replicaId did endpoint trustTier :=
    s.upsertReplica env.server env.nowMs replicaId did endpoint trustTier
  setReplicaTokenHash env s replicaId tokenHash :=
    s.setReplicaTokenHash env.server env.nowMs replicaId tokenHash
  replicaTokenHash env := replicaTokenHash env.server
  replicaIsActive env := replicaIsActive env.server env.nowMs
  allReplicas env := allReplicas env.server env.nowMs
  decommissionReplicaWithEvent := decommissionReplicaWithEvent
  record := record
  storedDigest s replicaId := (s.replicas.find replicaId).map (fun r => r.replicaTokenHash)
  log s := s.nodeEvents
  head s := s.head

end MySqlStore

/-! ## What an announced retirement promises -/

section Announced

variable {ρ : Type} [ReplicaStore ρ]

/-- **The replica is retired, and announced**: from now on it is not active,
so no token of it is accepted; and the log was extended by one row, the one
that follows the head, which is the head now, with a signature that verifies
under the public key of the signing key. -/
def RetiredWithEvent (L : Libs) (key : String) (env : CallEnv) (replicaId did : String)
    (before after : ρ) : Prop :=
  (∀ later : CallEnv, env.nowMs ≤ later.nowMs →
      ReplicaStore.replicaIsActive later after replicaId = false)
    ∧ ReplicaStore.replicaTokenHash env after replicaId
        ∈ [none, some env.tombstone]
    ∧ ∃ row seed,
        row = rowAfter L key (ReplicaStore.head before)
          (MySqlStore.deregisteredEvent replicaId did) env.draw
        ∧ ReplicaStore.log after = ReplicaStore.log before ++ [row]
        ∧ ReplicaStore.head after = row.asHead
        ∧ seedOf key = some seed ∧ Signs L (pubkeyHexOf L seed) row

/-- **A retirement is atomic with its event**: it answers `true` exactly
where the replica is retired and announced, and `false` leaves everything
as it was. -/
def Announced (L : Libs) (key : String) (env : CallEnv) (replicaId did : String) (before : ρ) :
    Prop :=
  ((ReplicaStore.decommissionReplicaWithEvent L key env before replicaId did).1 = true
      ↔ RetiredWithEvent L key env replicaId did before
          (ReplicaStore.decommissionReplicaWithEvent L key env before replicaId did).2)
    ∧ ((ReplicaStore.decommissionReplicaWithEvent L key env before replicaId did).1 = false →
        (ReplicaStore.decommissionReplicaWithEvent L key env before replicaId did).2 = before)

/-- Nothing is announced where nothing changed. -/
theorem not_retiredWithEvent_self (L : Libs) (key : String) (env : CallEnv)
    (replicaId did : String) (before : ρ) :
    ¬ RetiredWithEvent L key env replicaId did before before := by
  rintro ⟨_, _, row, seed, _, hlog, _⟩
  have hlen := congrArg List.length hlog
  rw [List.length_append, List.length_singleton] at hlen
  omega

/-- A retirement that is refused and leaves everything is atomic. -/
theorem announced_of_refused {L : Libs} {key : String} {env : CallEnv} {replicaId did : String}
    {before : ρ}
    (h : ReplicaStore.decommissionReplicaWithEvent L key env before replicaId did
      = (false, before)) : Announced L key env replicaId did before := by
  unfold Announced
  rw [h]
  exact ⟨⟨fun hf => absurd hf Bool.false_ne_true,
    fun hr => absurd hr (not_retiredWithEvent_self L key env replicaId did before)⟩, fun _ => rfl⟩

/-- A retirement that is seen to succeed is atomic where its key is well
formed. -/
theorem announced_of_true_iff {L : Libs} (hL : L.Lawful) {key : String} {env : CallEnv}
    {replicaId did : String} {before after : ρ}
    (h : ReplicaStore.decommissionReplicaWithEvent L key env before replicaId did = (true, after))
    (hactive : ∀ later : CallEnv, env.nowMs ≤ later.nowMs →
      ReplicaStore.replicaIsActive later after replicaId = false)
    (hhash : ReplicaStore.replicaTokenHash env after replicaId ∈ [none, some env.tombstone])
    (hlog : ReplicaStore.log after = ReplicaStore.log before
      ++ [rowAfter L key (ReplicaStore.head before) (MySqlStore.deregisteredEvent replicaId did)
        env.draw])
    (hhead : ReplicaStore.head after = (rowAfter L key (ReplicaStore.head before)
      (MySqlStore.deregisteredEvent replicaId did) env.draw).asHead) :
    Announced L key env replicaId did before ↔ (seedOf key).isSome = true := by
  unfold Announced
  rw [h]
  constructor
  · rintro ⟨hiff, _⟩
    obtain ⟨_, _, _, seed, _, _, _, hseed, _⟩ := hiff.mp rfl
    rw [hseed]
    rfl
  · intro hkey
    obtain ⟨seed, hseed⟩ := Option.isSome_iff_exists.mp hkey
    refine ⟨⟨fun _ => ⟨hactive, hhash, _, seed, rfl, hlog, hhead, hseed, ?_⟩, fun _ => rfl⟩,
      fun hf => absurd hf (by simp)⟩
    exact signs_rowAfter hL hseed _ _ _

end Announced

/-! ## When it is atomic -/

section Atomic

variable {L : Libs}

/-- **In memory**, a retirement is atomic exactly where the replica is not
known, or the key well formed. -/
theorem announced_inMemory_iff (hL : L.Lawful) (key : String) (env : CallEnv)
    (replicaId did : String) (repo : InMemoryRepo) :
    Announced L key env replicaId did repo
      ↔ repo.knowsReplica replicaId = false ∨ (seedOf key).isSome = true := by
  cases hknown : repo.knowsReplica replicaId with
  | false =>
    have hunknown : ¬ repo.replicas.any (fun r => r.replicaId == replicaId) = true := by
      rw [Bool.not_eq_true]
      exact hknown
    have hdecommission : repo.decommissionReplica replicaId = (false, repo) := by
      unfold InMemoryRepo.decommissionReplica
      exact if_neg hunknown
    refine ⟨fun _ => Or.inl rfl, fun _ => announced_of_refused ?_⟩
    show repo.decommissionReplicaWithEvent L key replicaId did env.draw = _
    unfold InMemoryRepo.decommissionReplicaWithEvent
    rw [hdecommission]
    rfl
  | true =>
    have hdecommission : repo.decommissionReplica replicaId = (true,
        { repo with
          replicaTokenHashes := repo.replicaTokenHashes.filter (fun e => e.1 ≠ replicaId)
          decommissionedReplicas :=
            if replicaId ∈ repo.decommissionedReplicas then repo.decommissionedReplicas
            else repo.decommissionedReplicas ++ [replicaId] }) := by
      unfold InMemoryRepo.decommissionReplica
      exact if_pos hknown
    have hresult : repo.decommissionReplicaWithEvent L key replicaId did env.draw
        = (true, ((repo.decommissionReplica replicaId).2.appendSignedEvent L key
            (MySqlStore.deregisteredEvent replicaId did) env.draw).2) := by
      unfold InMemoryRepo.decommissionReplicaWithEvent
      rw [hdecommission]
      rfl
    have hevents := InMemoryRepo.events_decommissionReplica repo replicaId
    rw [announced_of_true_iff hL hresult]
    · simp
    · intro later _
      show ((repo.decommissionReplica replicaId).2).replicaIsActive replicaId = false
      rw [hdecommission]
      unfold InMemoryRepo.replicaIsActive
      by_cases hin : replicaId ∈ repo.decommissionedReplicas <;> simp [hin]
    · show ((repo.decommissionReplica replicaId).2).replicaTokenHash replicaId ∈ _
      rw [hdecommission]
      show (repo.replicaTokenHashes.filter (fun e => e.1 ≠ replicaId)).lookup replicaId ∈ _
      rw [lookup_filter_ne]
      simp
    · show (repo.decommissionReplica replicaId).2.events ++ [_] = _
      rw [hevents]
      rfl
    · show headOf ((repo.decommissionReplica replicaId).2.events ++ [_]) = _
      rw [hevents]
      exact headOf_append repo.events _ _

variable {fold : String → String}

/-- **The transaction gets to its commit**: it begins, no statement fails,
the replica is active and the log takes the row. -/
def MySqlStore.commitReached (L : Libs) (key : String) (env : CallEnv) (s : MySqlStore fold)
    (replicaId did : String) : Bool :=
  env.server.begins && (List.range 5).all (fun n => !env.server.fails n)
    && (s.replicas.find replicaId).any (fun r => r.status == "active"
      && decide (MySqlRepo.wholeSeconds env.nowMs < r.expiresAtMs))
    && s.takesEvent (rowAfter L key s.head (MySqlStore.deregisteredEvent replicaId did) env.draw)

/-- What the transaction leaves if it is persisted. -/
def MySqlStore.decommissioned (L : Libs) (key : String) (env : CallEnv) (s : MySqlStore fold)
    (replicaId did : String) : MySqlStore fold :=
  let row := rowAfter L key s.head (MySqlStore.deregisteredEvent replicaId did) env.draw
  { s with
    replicas := s.replicas.update replicaId (retired env.nowMs env.tombstone)
      (fun _ => ⟨rfl, rfl⟩)
    nodeEvents := s.nodeEvents ++ [row]
    head := row.asHead }

theorem MySqlStore.reaches_decommissionBody (L : Libs) (key : String) (env : CallEnv)
    (s : MySqlStore fold) (replicaId did : String) :
    Transaction.reaches env.server (decommissionBody L key env replicaId did s.head) s
      = if s.commitReached L key env replicaId did then
          some (s.decommissioned L key env replicaId did)
        else none := by
  unfold Transaction.reaches commitReached
  rw [Transaction.execute_eq]
  show (if env.server.begins = true then
      if (List.range 5).all (fun n => !env.server.fails n) then _ else none
    else none) = _
  cases env.server.begins with
  | false => rfl
  | true =>
    cases (List.range 5).all (fun n => !env.server.fails n) with
    | false => rfl
    | true =>
      rw [if_pos rfl, if_pos rfl, Bool.true_and, Bool.true_and]
      unfold decommissionBody
      simp only [List.foldlM_cons, List.foldlM_nil]
      cases (s.replicas.find replicaId).any (fun r => r.status == "active"
        && decide (MySqlRepo.wholeSeconds env.nowMs < r.expiresAtMs)) with
      | false => rfl
      | true =>
        rw [if_pos rfl, Bool.true_and]
        show Option.bind (if s.takesEvent _ then _ else none) _ = _
        cases s.takesEvent (rowAfter L key s.head (MySqlStore.deregisteredEvent replicaId did)
          env.draw) <;> rfl

theorem MySqlStore.find_decommissioned (L : Libs) (key : String) (env : CallEnv)
    (s : MySqlStore fold) (replicaId did : String) :
    (s.decommissioned L key env replicaId did).replicas.find replicaId
      = (s.replicas.find replicaId).map (retired env.nowMs env.tombstone) :=
  (@ReplicaTable.find_update fold s.replicas replicaId replicaId
    (retired env.nowMs env.tombstone) (fun _ => ⟨rfl, rfl⟩)).trans (if_pos rfl)

/-- **Over MySQL**, a retirement is atomic exactly where its transaction does
not get to its commit, where the commit is rolled back, or where it is done
and the key well formed. -/
theorem announced_mySql_iff (hL : L.Lawful) (key : String) (env : CallEnv)
    (replicaId did : String) (s : MySqlStore fold) :
    Announced L key env replicaId did s
      ↔ s.commitReached L key env replicaId did = false ∨ env.server.commit = .refused
        ∨ (env.server.commit = .done ∧ (seedOf key).isSome = true) := by
  have hreach := s.reaches_decommissionBody L key env replicaId did
  cases hcommit : s.commitReached L key env replicaId did with
  | false =>
    rw [hcommit, if_neg Bool.false_ne_true] at hreach
    exact ⟨fun _ => Or.inl rfl, fun _ => announced_of_refused (Transaction.run_of_not_reached hreach)⟩
  | true =>
    rw [hcommit, if_pos rfl] at hreach
    have hrun := Transaction.run_of_reached hreach
    cases hc : env.server.commit with
    | refused =>
      rw [hc] at hrun
      exact ⟨fun _ => Or.inr (Or.inl rfl), fun _ => announced_of_refused hrun⟩
    | lost =>
      rw [hc] at hrun
      refine ⟨fun h => ?_, by simp⟩
      -- it is seen to fail, and the log has grown
      have hsame : s.decommissioned L key env replicaId did = s :=
        (congrArg Prod.snd hrun).symm.trans (h.2 (congrArg Prod.fst hrun))
      have hlen := congrArg (fun t : MySqlStore fold => t.nodeEvents.length) hsame
      simp [MySqlStore.decommissioned] at hlen
    | done =>
      rw [hc] at hrun
      rw [announced_of_true_iff hL hrun]
      · simp
      · intro later hlater
        show (_ && ((s.decommissioned L key env replicaId did).replicas.find replicaId).any _) = false
        rw [MySqlStore.find_decommissioned]
        cases hfind : s.replicas.find replicaId with
        | none => simp
        | some r =>
          -- it expired when it was retired
          have hexpired : ¬ MySqlRepo.wholeSeconds later.nowMs
              < MySqlRepo.wholeSeconds env.nowMs := by
            unfold MySqlRepo.wholeSeconds
            omega
          simp [ReplicaRow.isActive, MySqlStore.retired, hexpired]
      · show (if _ then _ else _) ∈ _
        split
        · show ((s.decommissioned L key env replicaId did).replicas.find replicaId).map _ ∈ _
          rw [MySqlStore.find_decommissioned]
          cases s.replicas.find replicaId <;> simp [MySqlStore.retired]
        · simp
      · rfl
      · rfl

/-- **When a retirement is atomic with its event**, in both repositories, for
every signing key, every state and every way the database may fail. -/
theorem announced_iff (hL : L.Lawful) (key : String) (env : CallEnv) (replicaId did : String) :
    (∀ repo : InMemoryRepo, Announced L key env replicaId did repo
        ↔ repo.knowsReplica replicaId = false ∨ (seedOf key).isSome = true)
      ∧ ∀ {fold : String → String} (s : MySqlStore fold), Announced L key env replicaId did s
        ↔ s.commitReached L key env replicaId did = false ∨ env.server.commit = .refused
          ∨ (env.server.commit = .done ∧ (seedOf key).isSome = true) :=
  ⟨announced_inMemory_iff hL key env replicaId did,
    fun s => announced_mySql_iff hL key env replicaId did s⟩

end Atomic

namespace Sample

/-- A call the server answers. -/
def env : CallEnv := ⟨.willing, 1000, "tombstone", ⟨"evt-4", 1000⟩⟩

/-- A seed in memory that knows one replica. -/
def replicaRepo : InMemoryRepo :=
  (InMemoryRepo.empty.upsertReplica "r1" "did:web:r1.test" "https://r1.test" "low").2

/-- The same over MySQL. -/
def replicaStore : MySqlStore id :=
  { MySqlStore.empty id with
    replicas := ⟨[⟨"r1", "did:web:r1.test", "https://r1.test", "low", "active", "", 2000⟩],
      List.pairwise_singleton _ _⟩ }

end Sample

theorem announced_iff_sample :
    Announced Sample.libs Sample.secretKeyHex Sample.env "r1" "did:web:r1.test" Sample.replicaRepo
      ∧ Announced Sample.libs Sample.secretKeyHex Sample.env "r1" "did:web:r1.test"
        Sample.replicaStore := by
  have h := announced_iff Sample.libs_lawful Sample.secretKeyHex Sample.env "r1" "did:web:r1.test"
  have hkey : (seedOf Sample.secretKeyHex).isSome = true := by decide +kernel
  exact ⟨(h.1 Sample.replicaRepo).mpr (Or.inr hkey),
    (h.2 Sample.replicaStore).mpr (Or.inr (Or.inr ⟨rfl, hkey⟩))⟩

/-- **Under a malformed key a replica is retired without its event**: both
repositories answer that the retirement was announced, and the row they
appended has no signature. -/
theorem malformed_key_retires_unannounced :
    seedOf "not a key" = none
      ∧ ¬ Announced Sample.libs "not a key" Sample.env "r1" "did:web:r1.test" Sample.replicaRepo
      ∧ ¬ Announced Sample.libs "not a key" Sample.env "r1" "did:web:r1.test"
        Sample.replicaStore := by
  have hnone : seedOf "not a key" = none := by decide
  have hreached : Sample.replicaStore.commitReached Sample.libs "not a key" Sample.env "r1"
      "did:web:r1.test" = true := by decide
  refine ⟨hnone, fun h => ?_, fun h => ?_⟩
  · rcases (announced_inMemory_iff Sample.libs_lawful _ _ _ _ _).mp h with hunknown | hsome
    · exact absurd hunknown (by decide)
    · rw [hnone] at hsome
      exact absurd hsome (by simp)
  · rcases (announced_mySql_iff Sample.libs_lawful _ _ _ _ _).mp h with hnot | hrefused | ⟨_, hsome⟩
    · rw [hreached] at hnot
      exact absurd hnot (by simp)
    · exact absurd hrefused (by decide)
    · rw [hnone] at hsome
      exact absurd hsome (by simp)
