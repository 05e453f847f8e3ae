import IicpDirectory.Types
import Mathlib.Data.List.Sort
import Mathlib.Data.List.Destutter
import Mathlib.Data.String.Basic

/-!
# The node repository

A directory keeps its state behind the `NodeRepository` trait. The replica
applies events through seven of its operations, and `NodeRepository` is
those seven: what each returns, and the state it leaves. A registration
that fails leaves no state to speak of – `register` returns the error
*instead of* a new state, which is what running it in one transaction
means – so a caller that goes on goes on from the state it had.

`InMemoryRepo` is the repository that backs local runs. It carries the
invariant its operations keep: no two records have the same node
identity. A method takes its lock, works and releases it, so each method
is one step here.
-/

/-- A repository failure, redacted. -/
inductive RepoError
  | persistence
  deriving DecidableEq

/-- A daily availability window. -/
structure AvailabilityWindow where
  start : String
  stop : String
  share : ℚ
  deriving DecidableEq

/-- A node plus what it serves. -/
structure NodeRecord where
  node : Node
  intents : List String
  capabilities : List EffectiveCapability
  capabilityProfiles : List (String × List String)
  availability : List AvailabilityWindow
  nodeToken : Option String
  nodeHmacKey : Option String
  proxyToken : Option String

namespace NodeRecord

/-- The identity a record is stored under. -/
def id (r : NodeRecord) : String := r.node.nodeId

/-- The record with another reputation. -/
def withReputation (r : NodeRecord) (score : ℚ) : NodeRecord :=
  { r with node := { r.node with reputationScore := score } }

@[simp] theorem id_withReputation (r : NodeRecord) (score : ℚ) :
    (r.withReputation score).id = r.id := rfl

end NodeRecord

/-- Insertion into a map keyed by strings: what was under the key goes. -/
def assocInsert {β : Type} (key : String) (value : β) (m : List (String × β)) :
    List (String × β) :=
  (key, value) :: m.filter (fun e => e.1 ≠ key)

theorem lookup_filter_ne {β : Type} (key : String) (m : List (String × β)) :
    (m.filter (fun e => e.1 ≠ key)).lookup key = none := by
  induction m with
  | nil => rfl
  | cons e rest ih =>
    by_cases h : e.1 = key
    · rw [List.filter_cons_of_neg (by simpa using h), ih]
    · rw [List.filter_cons_of_pos (by simpa using h), List.lookup_cons,
        beq_eq_false_iff_ne.mpr (fun he => h he.symm), ih]

theorem lookup_filter_of_ne {β : Type} {key other : String} (h : other ≠ key)
    (m : List (String × β)) : (m.filter (fun e => e.1 ≠ key)).lookup other = m.lookup other := by
  induction m with
  | nil => rfl
  | cons e rest ih =>
    by_cases he : e.1 = key
    · rw [List.filter_cons_of_neg (by simpa using he), ih, List.lookup_cons,
        beq_eq_false_iff_ne.mpr (fun ho => h (ho.trans he))]
    · rw [List.filter_cons_of_pos (by simpa using he), List.lookup_cons, List.lookup_cons, ih]

/-- What a map finds after an insertion. -/
theorem lookup_assocInsert {β : Type} (key : String) (value : β) (m : List (String × β))
    (other : String) :
    (assocInsert key value m).lookup other = if other = key then some value else m.lookup other := by
  unfold assocInsert
  rw [List.lookup_cons]
  by_cases h : other = key
  · rw [if_pos h, beq_iff_eq.mpr h]
  · rw [if_neg h, beq_eq_false_iff_ne.mpr h, lookup_filter_of_ne h]

/-- A map built from its entries in order, later ones replacing earlier. -/
def assocOfList {β : Type} (entries : List (String × β)) : List (String × β) :=
  entries.foldl (fun m e => assocInsert e.1 e.2 m) []

/-- **The operations the event applier uses.** -/
class NodeRepository (σ : Type) where
  /-- Persist a registration: the new state, or an error and no change. -/
  register : σ → NodeRecord → Except RepoError σ
  /-- Remove a node; whether it was there. -/
  deregister : σ → String → Bool × σ
  /-- Store a health observation (node, evaluator, score, time); whether it
  was written. -/
  upsertHealthObservation : σ → String → String → ℚ → ℤ → Bool × σ
  /-- Set a node's reputation; whether the node is known. -/
  setReputationScore : σ → String → ℚ → Bool × σ
  /-- Set a node's credit balance; whether the node is known. -/
  setCreditBalance : σ → String → ℚ → Bool × σ
  /-- Record a replica (identity, DID, endpoint, trust tier), by DID. -/
  upsertReplica : σ → String → String → String → String → Bool × σ
  /-- Retire a replica; whether it was known. -/
  decommissionReplica : σ → String → Bool × σ

/-- One row of the signed event log. -/
structure EventRow where
  seq : ℤ
  eventId : String
  eventType : String
  nodeId : String
  tsMs : ℤ
  payload : Json
  prevHash : Option String
  sig : Option String

/-- A trusted replica. -/
structure ReplicaEntry where
  replicaId : String
  did : String
  endpoint : String
  trustTier : String
  registeredAtMs : ℤ
  deriving DecidableEq

/-- A stored health observation. -/
structure HealthObservation where
  nodeId : String
  evaluatorDid : String
  score : ℚ
  evaluatedAtMs : ℤ
  deriving DecidableEq

/-- Discovery query parameters. -/
structure DiscoverQuery where
  intent : String
  limit : ℕ := 0
  minReputation : Option ℚ := none

/-- **The in-memory repository.** `clock` is the reading of the wall clock
its operations take. -/
structure InMemoryRepo where
  records : List NodeRecord
  healthObs : List HealthObservation
  replicas : List ReplicaEntry
  replicaTokenHashes : List (String × String)
  decommissionedReplicas : List String
  events : List EventRow
  clock : ℤ
  /-- Registration finds the record it replaces, so identities stay
  distinct. -/
  ids_nodup : (records.map NodeRecord.id).Nodup

namespace InMemoryRepo

/-- The repository with no state. -/
def empty : InMemoryRepo where
  records := []
  healthObs := []
  replicas := []
  replicaTokenHashes := []
  decommissionedReplicas := []
  events := []
  clock := 0
  ids_nodup := List.nodup_nil

/-- The record of a node. -/
def find (repo : InMemoryRepo) (nodeId : String) : Option NodeRecord :=
  repo.records.find? (fun r => r.id == nodeId)

/-- The identities on record. -/
def nodeIds (repo : InMemoryRepo) : List String := repo.records.map NodeRecord.id

/-! ## Registration and removal -/

/-- Replace the first record with the new one's identity, keeping its
reputation (anti-laundering), or push the new one at the end. -/
def upsertRecord (rec : NodeRecord) : List NodeRecord → List NodeRecord
  | [] => [rec]
  | r :: rs =>
    if r.id = rec.id then rec.withReputation r.node.reputationScore :: rs
    else r :: upsertRecord rec rs

theorem map_id_upsertRecord (rec : NodeRecord) (rs : List NodeRecord) :
    (upsertRecord rec rs).map NodeRecord.id
      = if rec.id ∈ rs.map NodeRecord.id then rs.map NodeRecord.id
        else rs.map NodeRecord.id ++ [rec.id] := by
  induction rs with
  | nil => rfl
  | cons r rs ih =>
    by_cases h : r.id = rec.id
    · simp [upsertRecord, h]
    · have h' : rec.id ≠ r.id := fun he => h he.symm
      simp only [upsertRecord, if_neg h, List.map_cons, ih, List.mem_cons, h', false_or]
      split <;> rfl

theorem nodup_upsertRecord (rec : NodeRecord) {rs : List NodeRecord}
    (h : (rs.map NodeRecord.id).Nodup) :
    ((upsertRecord rec rs).map NodeRecord.id).Nodup := by
  rw [map_id_upsertRecord]
  split
  · exact h
  · rename_i hmem
    rw [List.nodup_append]
    refine ⟨h, List.nodup_singleton _, ?_⟩
    intro a ha b hb hab
    obtain rfl := List.mem_singleton.mp hb
    exact hmem (hab ▸ ha)

/-- `InMemoryRepo::register`. It never fails. -/
def register (repo : InMemoryRepo) (rec : NodeRecord) : InMemoryRepo :=
  { repo with
    records := upsertRecord rec repo.records
    ids_nodup := nodup_upsertRecord rec repo.ids_nodup }

/-- `InMemoryRepo::deregister`. -/
def deregister (repo : InMemoryRepo) (nodeId : String) : Bool × InMemoryRepo :=
  let kept := repo.records.filter (fun r => r.id ≠ nodeId)
  (decide (kept.length < repo.records.length),
    { repo with
      records := kept
      ids_nodup := repo.ids_nodup.sublist (List.filter_sublist.map _) })

/-! ## Reputation, credit and health -/

/-- Change the first record of a node. -/
def modifyRecord (nodeId : String) (f : NodeRecord → NodeRecord) :
    List NodeRecord → List NodeRecord
  | [] => []
  | r :: rs => if r.id = nodeId then f r :: rs else r :: modifyRecord nodeId f rs

theorem map_id_modifyRecord (nodeId : String) {f : NodeRecord → NodeRecord}
    (hf : ∀ r, (f r).id = r.id) (rs : List NodeRecord) :
    (modifyRecord nodeId f rs).map NodeRecord.id = rs.map NodeRecord.id := by
  induction rs with
  | nil => rfl
  | cons r rs ih =>
    by_cases h : r.id = nodeId
    · simp [modifyRecord, h, hf]
    · simp [modifyRecord, h, ih]

/-- `InMemoryRepo::set_reputation_score`, clamped to the unit interval. -/
def setReputationScore (repo : InMemoryRepo) (nodeId : String) (score : ℚ) :
    Bool × InMemoryRepo :=
  ((repo.find nodeId).isSome,
    { repo with
      records := modifyRecord nodeId (·.withReputation (max 0 (min score 1))) repo.records
      ids_nodup := by
        rw [map_id_modifyRecord nodeId (fun r => NodeRecord.id_withReputation r _)]
        exact repo.ids_nodup })

/-- `InMemoryRepo::set_credit_balance`: there is no ledger in memory, only
the answer whether the node is known. -/
def setCreditBalance (repo : InMemoryRepo) (nodeId : String) (_balance : ℚ) :
    Bool × InMemoryRepo :=
  (repo.records.any (fun r => r.id == nodeId), repo)

/-- The observation of a node by an evaluator, refreshed: an older
evaluation never overwrites a newer one. -/
def upsertObservation (o : HealthObservation) :
    List HealthObservation → Bool × List HealthObservation
  | [] => (true, [o])
  | x :: xs =>
    if x.nodeId = o.nodeId ∧ x.evaluatorDid = o.evaluatorDid then
      if o.evaluatedAtMs ≤ x.evaluatedAtMs then (false, x :: xs)
      else (true, { x with score := o.score, evaluatedAtMs := o.evaluatedAtMs } :: xs)
    else ((upsertObservation o xs).1, x :: (upsertObservation o xs).2)

/-- `InMemoryRepo::upsert_health_observation`. -/
def upsertHealthObservation (repo : InMemoryRepo) (nodeId evaluatorDid : String)
    (score : ℚ) (evaluatedAtMs : ℤ) : Bool × InMemoryRepo :=
  let r := upsertObservation ⟨nodeId, evaluatorDid, score, evaluatedAtMs⟩ repo.healthObs
  (r.1, { repo with healthObs := r.2 })

/-! ## Replicas -/

/-- A replica row, by DID: a known DID keeps its first registration time. -/
def upsertReplicaEntry (e : ReplicaEntry) : List ReplicaEntry → List ReplicaEntry
  | [] => [e]
  | x :: xs =>
    if x.did = e.did then { e with registeredAtMs := x.registeredAtMs } :: xs
    else x :: upsertReplicaEntry e xs

/-- `InMemoryRepo::upsert_replica`: it also lifts a decommissioning. -/
def upsertReplica (repo : InMemoryRepo) (replicaId did endpoint trustTier : String) :
    Bool × InMemoryRepo :=
  (true,
    { repo with
      replicas := upsertReplicaEntry ⟨replicaId, did, endpoint, trustTier, repo.clock⟩
        repo.replicas
      decommissionedReplicas := repo.decommissionedReplicas.filter (· ≠ replicaId) })

/-- `InMemoryRepo::decommission_replica`. -/
def decommissionReplica (repo : InMemoryRepo) (replicaId : String) :
    Bool × InMemoryRepo :=
  if repo.replicas.any (fun r => r.replicaId == replicaId) then
    (true,
      { repo with
        replicaTokenHashes := repo.replicaTokenHashes.filter (fun e => e.1 ≠ replicaId)
        decommissionedReplicas :=
          if replicaId ∈ repo.decommissionedReplicas then repo.decommissionedReplicas
          else repo.decommissionedReplicas ++ [replicaId] })
  else (false, repo)

instance : NodeRepository InMemoryRepo where
  register repo rec := .ok (repo.register rec)
  deregister := InMemoryRepo.deregister
  upsertHealthObservation := InMemoryRepo.upsertHealthObservation
  setReputationScore := InMemoryRepo.setReputationScore
  setCreditBalance := InMemoryRepo.setCreditBalance
  upsertReplica := InMemoryRepo.upsertReplica
  decommissionReplica := InMemoryRepo.decommissionReplica

/-! ## Discovery -/

/-- The score below which a node is not discoverable. -/
def minScore : ℚ := 1 / 10

/-- The number of nodes a query asks for: ten by default, at most fifty. -/
def effectiveLimit (limit : ℕ) : ℕ :=
  if limit = 0 then 10 else if 50 < limit then 50 else limit

/-- **The filters of discovery**: the node serves the intent, is available,
has the minimum score and the reputation asked for. -/
def matchesQuery (q : DiscoverQuery) (r : NodeRecord) : Bool :=
  r.intents.any (· == q.intent) && r.node.available && decide (minScore ≤ r.node.score)
    && (q.minReputation.all (fun m => decide (m ≤ r.node.reputationScore)))

/-- Sorted, without repeats. -/
def sortDedup (items : List String) : List String :=
  (items.insertionSort (· ≤ ·)).destutter (· ≠ ·)

/-- A list without repetitions of neighbours has the items of the list. -/
theorem mem_destutter_ne {items : List String} {a : String} :
    a ∈ items.destutter (· ≠ ·) ↔ a ∈ items := by
  have hcons : ∀ (first : String) (rest : List String),
      a ∈ rest.destutter' (· ≠ ·) first ↔ a = first ∨ a ∈ rest := by
    intro first rest
    induction rest generalizing first with
    | nil => simp
    | cons next rest ih =>
      rw [List.destutter', List.mem_cons]
      split
      · rw [List.mem_cons, ih]
      · next hsame =>
        obtain rfl := not_not.mp hsame
        rw [ih]
        tauto
  cases items with
  | nil => rfl
  | cons first rest => exact (hcons first rest).trans List.mem_cons.symm

theorem mem_sortDedup {items : List String} {a : String} : a ∈ sortDedup items ↔ a ∈ items :=
  mem_destutter_ne.trans (List.mem_insertionSort _)

/-- The node as discovery shows it: the variants of the intent asked for,
and their profiles. -/
def presentFor (q : DiscoverQuery) (r : NodeRecord) : Node :=
  let caps := r.capabilities.filter (fun c => c.intent == q.intent)
  { r.node with
    capabilities := caps
    supportedProfiles := sortDedup
      (if caps.isEmpty then (r.capabilityProfiles.lookup q.intent).getD []
       else caps.flatMap (fun c => c.supportedProfiles)) }

/-- `InMemoryRepo::discover`: filtered, by descending score, cut to the
limit. -/
def discover (repo : InMemoryRepo) (q : DiscoverQuery) : List Node :=
  (((repo.records.filter (matchesQuery q)).map (presentFor q)).insertionSort
    (fun a b => b.score ≤ a.score)).take (effectiveLimit q.limit)

/-! ## What the operations do to the record of a node -/

theorem mem_records_iff {repo : InMemoryRepo} {r : NodeRecord} :
    r ∈ repo.records ↔ repo.find r.id = some r := by
  constructor
  · intro h
    cases hf : repo.find r.id with
    | none =>
      have hn := List.find?_eq_none.mp hf r h
      simp at hn
    | some x =>
      have hx : x ∈ repo.records := List.mem_of_find?_eq_some hf
      have hid : x.id = r.id := by
        have := List.find?_some hf
        simpa using this
      exact congrArg some (List.inj_on_of_nodup_map repo.ids_nodup hx h hid)
  · intro h
    exact List.mem_of_find?_eq_some h

theorem id_of_find {repo : InMemoryRepo} {nodeId : String} {r : NodeRecord}
    (h : repo.find nodeId = some r) : r.id = nodeId := by
  have := List.find?_some h
  simpa using this

theorem find_eq_none_iff {repo : InMemoryRepo} {nodeId : String} :
    repo.find nodeId = none ↔ nodeId ∉ repo.nodeIds := by
  unfold find nodeIds
  rw [List.find?_eq_none, List.mem_map]
  constructor
  · rintro h ⟨r, hr, rfl⟩
    exact absurd (h r hr) (by simp)
  · intro h r hr hid
    exact h ⟨r, hr, by simpa using hid⟩

theorem mem_nodeIds_iff {repo : InMemoryRepo} {nodeId : String} :
    nodeId ∈ repo.nodeIds ↔ (repo.find nodeId).isSome = true := by
  rw [← not_iff_not, ← find_eq_none_iff]
  simp

/-- **Registration replaces one record**: the new one under its identity,
with the reputation of the record it replaces, every other one as it
was. -/
theorem find_register (repo : InMemoryRepo) (rec : NodeRecord) (nodeId : String) :
    (repo.register rec).find nodeId
      = if nodeId = rec.id then
          some (match repo.find rec.id with
            | some old => rec.withReputation old.node.reputationScore
            | none => rec)
        else repo.find nodeId := by
  show (upsertRecord rec repo.records).find? _ = _
  unfold find
  induction repo.records with
  | nil =>
    by_cases h : nodeId = rec.id
    · subst h; simp [upsertRecord]
    · have h' : rec.id ≠ nodeId := fun he => h he.symm
      simp [upsertRecord, h, h']
  | cons r rs ih =>
    by_cases hr : r.id = rec.id
    · by_cases h : nodeId = rec.id
      · subst h; simp [upsertRecord, hr]
      · have h' : rec.id ≠ nodeId := fun he => h he.symm
        simp [upsertRecord, hr, h, h']
    · by_cases hn : r.id = nodeId
      · have h : nodeId ≠ rec.id := fun he => hr (hn.trans he)
        simp [upsertRecord, hn, h]
      · simp only [upsertRecord, if_neg hr, List.find?_cons,
          beq_eq_false_iff_ne.mpr hn, beq_eq_false_iff_ne.mpr hr, ih]

/-- **Removal removes one record** and no other. -/
theorem find_deregister (repo : InMemoryRepo) (nodeId other : String) :
    (repo.deregister nodeId).2.find other
      = if other = nodeId then none else repo.find other := by
  show (repo.records.filter _).find? _ = _
  unfold find
  rw [List.find?_filter]
  by_cases h : other = nodeId
  · subst h
    rw [if_pos rfl, List.find?_eq_none]
    intro r _
    simp
  · rw [if_neg h]
    refine congrFun (congrArg List.find? ?_) _
    funext r
    by_cases hr : r.id = other
    · simp [hr, h]
    · simp [hr]

theorem find_modifyRecord (nodeId other : String) {f : NodeRecord → NodeRecord}
    (hf : ∀ r, (f r).id = r.id) (rs : List NodeRecord) :
    (modifyRecord nodeId f rs).find? (fun r => r.id == other)
      = if other = nodeId then (rs.find? (fun r => r.id == other)).map f
        else rs.find? (fun r => r.id == other) := by
  induction rs with
  | nil => simp [modifyRecord]
  | cons r rs ih =>
    by_cases hr : r.id = nodeId
    · by_cases h : other = nodeId
      · subst h; simp [modifyRecord, hr, hf]
      · have h' : nodeId ≠ other := fun he => h he.symm
        simp [modifyRecord, hr, hf, h, h']
    · by_cases ho : r.id = other
      · have h : other ≠ nodeId := fun he => hr (ho.trans he)
        simp [modifyRecord, ho, h]
      · simp only [modifyRecord, if_neg hr, List.find?_cons, beq_eq_false_iff_ne.mpr ho, ih]

/-- A reputation is set on one record. -/
theorem find_setReputationScore (repo : InMemoryRepo) (nodeId other : String) (score : ℚ) :
    (repo.setReputationScore nodeId score).2.find other
      = if other = nodeId then
          (repo.find other).map (·.withReputation (max 0 (min score 1)))
        else repo.find other :=
  find_modifyRecord nodeId other (fun r => NodeRecord.id_withReputation r _) repo.records

end InMemoryRepo
