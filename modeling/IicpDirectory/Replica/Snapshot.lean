import IicpDirectory.Foundations.Keyed
import IicpDirectory.Replica.Apply

/-!
# The snapshot bootstrap

A replica starts from the seed's current state, and starts again when its
cursor has expired. `validatedSnapshotSeq` accepts a complete envelope, and
`applySnapshot` registers every node the envelope lists, with the intents
and profiles its capability rows give it.

Registration was made for something else: it keeps the reputation a node
has on record, and it never removes a row. `snapshotMirrored_iff` says what
that does to the bootstrap of an in-memory replica: it mirrors the
snapshot exactly where nothing discoverable is left over from before and
no reputation on record differs from the snapshot's.
-/

namespace Replica

/-! ## The envelope -/

/-- The node rows of a snapshot. -/
def snapshotNodes (snapshot : Json) : List Json := (snapshot.getArray "nodes").getD []

/-- The capability rows of a snapshot. -/
def snapshotCapabilities (snapshot : Json) : List Json :=
  (snapshot.getArray "capabilities").getD []

/-- **The sequence number of a complete envelope**: a schema version, a
number that is not negative, and both lists. -/
def validatedSnapshotSeq (snapshot : Json) : Option ℤ := do
  let schema ← snapshot.getStr "schema_version"
  let seq ← (snapshot.get "snapshot_seq").bind Json.asI64
  if schema.isEmpty || decide (seq < 0) || !((snapshot.get "nodes").any Json.isArray)
      || !((snapshot.get "capabilities").any Json.isArray) then none
  else some seq

/-- The rows of one node that name an intent, with it. -/
def intentRows (capabilities : List Json) (nodeId : String) : List (String × Json) :=
  capabilities.filterMap (fun c =>
    match c.getStr "node_id", c.getStr "intent" with
    | some nid, some intent => if nid = nodeId then some (intent, c) else none
    | _, _ => none)

/-- The intents the capability rows give a node. -/
def snapshotIntents (capabilities : List Json) (nodeId : String) : List String :=
  (intentRows capabilities nodeId).map Prod.fst

/-- The profiles the capability rows give a node, by intent. -/
def snapshotProfiles (capabilities : List Json) (nodeId : String) :
    List (String × List String) :=
  assocOfList ((intentRows capabilities nodeId).map (fun e => (e.1, profilesOf e.2)))

/-- The capability variants of a node. -/
def snapshotVariants (capabilities : List Json) (nodeId : String) :
    List EffectiveCapability :=
  (capabilities.filter (fun c => c.getStr "node_id" == some nodeId)).filterMap
    EffectiveCapability.ofJson

/-- The reputation a node row carries. -/
def entryReputation (n : Json) : Option ℚ := (n.get "reputation_score").bind Json.asF64

/-- Whether a node row says the node is available; silence is consent. -/
def entryAvailable (n : Json) : Bool := ((n.get "available").bind Json.asBool).getD true

/-- The node of a node row: the live availability and reputation of the
seed over what a registration would give. -/
def snapshotNode (nodeId : String) (n : Json) : Option Node :=
  (nodeFromRegister nodeId n).map (fun node =>
    { node with
      available := ((n.get "available").bind Json.asBool).getD node.available
      reputationScore := (entryReputation n).getD node.reputationScore
      score := (entryReputation n).getD node.score })

/-- The record of a node row; nothing without an identity or an
endpoint. -/
def snapshotRecord (capabilities : List Json) (n : Json) : Option NodeRecord := do
  let nodeId ← n.getStr "node_id"
  let node ← snapshotNode nodeId n
  return {
    node := node
    intents := snapshotIntents capabilities nodeId
    capabilities := snapshotVariants capabilities nodeId
    capabilityProfiles := snapshotProfiles capabilities nodeId
    availability := []
    nodeToken := none
    nodeHmacKey := none
    proxyToken := none }

section

variable {σ : Type} [NodeRepository σ]

/-- Register one node row, and count it if it was persisted. -/
def applySnapshotNode (capabilities : List Json) (acc : ℕ × σ) (n : Json) : ℕ × σ :=
  match snapshotRecord capabilities n with
  | none => acc
  | some rec =>
    match NodeRepository.register acc.2 rec with
    | .ok repo' => (acc.1 + 1, repo')
    | .error _ => acc

/-- **Apply a snapshot**: the number of nodes applied, and the state. -/
def applySnapshot (repo : σ) (snapshot : Json) : ℕ × σ :=
  (snapshotNodes snapshot).foldl (applySnapshotNode (snapshotCapabilities snapshot)) (0, repo)

end

/-! ## The last row of a node decides -/

/-- The row is one of the node's, and it has an endpoint. -/
def lists (nodeId : String) (n : Json) : Bool :=
  n.getStr "node_id" == some nodeId && (n.getStr "endpoint").isSome

/-- The rows of a node a snapshot registers, in order. -/
def entriesOf (snapshot : Json) (nodeId : String) : List Json :=
  (snapshotNodes snapshot).filter (lists nodeId)

/-- The row that stands for a node: the last one. -/
def entryOf (snapshot : Json) (nodeId : String) : Option Json :=
  (entriesOf snapshot nodeId).getLast?

theorem lists_of_entryOf {snapshot : Json} {nodeId : String} {n : Json}
    (h : entryOf snapshot nodeId = some n) : lists nodeId n = true :=
  (List.mem_filter.mp (List.mem_of_getLast? h)).2

/-- A row is registered exactly where it has an identity and an endpoint;
the record then carries what the row and the capability rows say. -/
theorem snapshotRecord_of_lists (capabilities : List Json) {nodeId : String} {n : Json}
    (h : lists nodeId n = true) :
    ∃ rec, snapshotRecord capabilities n = some rec ∧ rec.id = nodeId
      ∧ rec.node.available = entryAvailable n
      ∧ rec.node.reputationScore = (entryReputation n).getD (1 / 2)
      ∧ rec.node.score = (entryReputation n).getD (1 / 2)
      ∧ n.getStr "endpoint" = some rec.node.endpoint
      ∧ rec.intents = snapshotIntents capabilities nodeId
      ∧ rec.capabilityProfiles = snapshotProfiles capabilities nodeId := by
  simp only [lists, Bool.and_eq_true, beq_iff_eq, Option.isSome_iff_exists] at h
  obtain ⟨hid, endpoint, he⟩ := h
  simp only [snapshotRecord, snapshotNode, nodeFromRegister, hid, he, Option.map_some,
    Option.bind_eq_bind, Option.bind_some, Option.pure_def]
  exact ⟨_, rfl, rfl, rfl, rfl, rfl, rfl, rfl, rfl⟩

theorem lists_of_snapshotRecord {capabilities : List Json} {n : Json} {rec : NodeRecord}
    (h : snapshotRecord capabilities n = some rec) : lists rec.id n = true := by
  cases hid : n.getStr "node_id" with
  | none => simp [snapshotRecord, hid] at h
  | some nodeId =>
    cases he : n.getStr "endpoint" with
    | none => simp [snapshotRecord, snapshotNode, nodeFromRegister, hid, he] at h
    | some endpoint =>
      simp only [snapshotRecord, snapshotNode, nodeFromRegister, hid, he, Option.map_some,
        Option.bind_eq_bind, Option.bind_some, Option.pure_def, Option.some.injEq] at h
      subst h
      simp [lists, NodeRecord.id, hid, he]

/-! ## What the in-memory repository holds afterwards -/

/-- The reputation a node has on record once its rows are registered: the
one it had before, else the one its first row gives it. -/
def reputationOnRecord (old : Option NodeRecord) (entries : List Json) : ℚ :=
  match old with
  | some r => r.node.reputationScore
  | none => (entries.head?.bind entryReputation).getD (1 / 2)

/-- What a row makes of the record of its node. -/
def mergeEntry (capabilities : List Json) (old : Option NodeRecord) (n : Json) :
    Option NodeRecord :=
  (snapshotRecord capabilities n).map (fun rec =>
    match old with
    | some r => rec.withReputation r.node.reputationScore
    | none => rec)

theorem find_applySnapshotNode (capabilities : List Json) (acc : ℕ × InMemoryRepo) (n : Json)
    (nodeId : String) :
    (applySnapshotNode capabilities acc n).2.find nodeId
      = if lists nodeId n then mergeEntry capabilities (acc.2.find nodeId) n
        else acc.2.find nodeId := by
  unfold applySnapshotNode mergeEntry
  cases hrec : snapshotRecord capabilities n with
  | none =>
    have hno : lists nodeId n = false := by
      by_contra hl
      obtain ⟨rec, hr, _⟩ := snapshotRecord_of_lists capabilities
        (Bool.eq_true_of_not_eq_false hl)
      exact absurd (hrec.symm.trans hr) (by simp)
    rw [hno]
    rfl
  | some rec =>
    have hl := lists_of_snapshotRecord hrec
    show (acc.2.register rec).find nodeId = _
    rw [InMemoryRepo.find_register]
    by_cases hid : nodeId = rec.id
    · subst hid
      rw [if_pos rfl, if_pos hl]
      cases acc.2.find rec.id <;> rfl
    · -- a row is about one node
      have hno : lists nodeId n = false := by
        simp only [lists, Bool.and_eq_true, beq_iff_eq] at hl
        simp [lists, hl.1, Ne.symm hid]
      rw [if_neg hid, hno]
      rfl

/-- Registering the rows of one node leaves the last row's record, with the
reputation on record. -/
theorem foldl_mergeEntry {capabilities : List Json} {nodeId : String} {entries : List Json}
    (hall : ∀ n ∈ entries, lists nodeId n = true) {last : Json}
    (hlast : entries.getLast? = some last) (old : Option NodeRecord) :
    entries.foldl (mergeEntry capabilities) old
      = (snapshotRecord capabilities last).map
          (·.withReputation (reputationOnRecord old entries)) := by
  induction entries generalizing old with
  | nil => exact absurd hlast (by simp)
  | cons n rest ih =>
    obtain ⟨rec, hrec, _, _, hrep, _⟩ := snapshotRecord_of_lists capabilities
      (hall n List.mem_cons_self)
    have hmerge : mergeEntry capabilities old n
        = some (rec.withReputation (reputationOnRecord old (n :: rest))) := by
      unfold mergeEntry reputationOnRecord
      rw [hrec]
      cases old with
      | some r => rfl
      | none =>
        show some rec = some (rec.withReputation ((entryReputation n).getD (1 / 2)))
        rw [← hrep]
        rfl
    rw [List.foldl_cons, hmerge]
    cases rest with
    | nil =>
      obtain rfl : n = last := by simpa using hlast
      rw [hrec]
      rfl
    | cons m rest' =>
      rw [ih (fun x hx => hall x (List.mem_cons_of_mem _ hx)) (by simpa using hlast)]
      rfl

/-- **The record of a node after a snapshot**: that of its last row, with
the reputation on record; without a row, what it was. -/
theorem find_applySnapshot (repo : InMemoryRepo) (snapshot : Json) (nodeId : String) :
    (applySnapshot repo snapshot).2.find nodeId
      = match entryOf snapshot nodeId with
        | none => repo.find nodeId
        | some n =>
          (snapshotRecord (snapshotCapabilities snapshot) n).map
            (·.withReputation
              (reputationOnRecord (repo.find nodeId) (entriesOf snapshot nodeId))) := by
  have hview := Keyed.view_foldl (fun acc : ℕ × InMemoryRepo => acc.2.find)
    (fun n nodeId => lists nodeId n) (fun _ => mergeEntry (snapshotCapabilities snapshot))
    (fun acc n nodeId => find_applySnapshotNode (snapshotCapabilities snapshot) acc n nodeId)
    (0, repo) (snapshotNodes snapshot) nodeId
  have hview' : (applySnapshot repo snapshot).2.find nodeId
      = (entriesOf snapshot nodeId).foldl (mergeEntry (snapshotCapabilities snapshot))
          (repo.find nodeId) := hview
  rw [hview']
  cases hlast : entryOf snapshot nodeId with
  | none =>
    rw [entryOf, List.getLast?_eq_none_iff] at hlast
    rw [hlast]
    rfl
  | some n =>
    exact foldl_mergeEntry (fun m hm => (List.mem_filter.mp hm).2) hlast _

/-! ## Fidelity -/

/-- The node passes the filters of discovery for an intent. -/
def Discoverable (repo : InMemoryRepo) (intent nodeId : String) : Prop :=
  ∃ r, repo.find nodeId = some r ∧ InMemoryRepo.matchesQuery { intent := intent } r = true

/-- **The repository mirrors a snapshot**: what discovery can return is what
the snapshot lists – with an endpoint, available, serving the intent, at
the minimum score – and every node listed carries what its row and the
capability rows say. -/
structure SnapshotMirrored (repo : InMemoryRepo) (snapshot : Json) : Prop where
  discoverable : ∀ intent nodeId, Discoverable repo intent nodeId
    ↔ ∃ n, entryOf snapshot nodeId = some n ∧ entryAvailable n = true
      ∧ intent ∈ snapshotIntents (snapshotCapabilities snapshot) nodeId
      ∧ InMemoryRepo.minScore ≤ (entryReputation n).getD (1 / 2)
  carried : ∀ nodeId n, entryOf snapshot nodeId = some n →
    ∃ r, repo.find nodeId = some r ∧ r.node.available = entryAvailable n
      ∧ (∀ x, entryReputation n = some x → r.node.reputationScore = x)
      ∧ n.getStr "endpoint" = some r.node.endpoint
      ∧ r.intents = snapshotIntents (snapshotCapabilities snapshot) nodeId
      ∧ r.capabilityProfiles = snapshotProfiles (snapshotCapabilities snapshot) nodeId

/-- Nothing is left over: a record the snapshot has no row for passes the
filters of discovery for no intent. -/
def NothingLeftOver (repo : InMemoryRepo) (snapshot : Json) : Prop :=
  ∀ r ∈ repo.records, entryOf snapshot r.id = none →
    ∀ intent, InMemoryRepo.matchesQuery { intent := intent } r = false

/-- No reputation on record differs from the one the snapshot gives. -/
def ReputationsOnRecord (repo : InMemoryRepo) (snapshot : Json) : Prop :=
  ∀ nodeId n x, entryOf snapshot nodeId = some n → entryReputation n = some x →
    reputationOnRecord (repo.find nodeId) (entriesOf snapshot nodeId) = x

theorem matchesQuery_iff {intent : String} {r : NodeRecord} :
    InMemoryRepo.matchesQuery { intent := intent } r = true
      ↔ intent ∈ r.intents ∧ r.node.available = true
        ∧ InMemoryRepo.minScore ≤ r.node.score := by
  simp [InMemoryRepo.matchesQuery, and_assoc]

/-- A node the snapshot lists is discoverable exactly where its row says
so, whatever was there before. -/
theorem discoverable_of_entry {repo : InMemoryRepo} {snapshot : Json} {nodeId : String} {n : Json}
    (h : entryOf snapshot nodeId = some n) (intent : String) :
    Discoverable (applySnapshot repo snapshot).2 intent nodeId
      ↔ entryAvailable n = true
        ∧ intent ∈ snapshotIntents (snapshotCapabilities snapshot) nodeId
        ∧ InMemoryRepo.minScore ≤ (entryReputation n).getD (1 / 2) := by
  obtain ⟨rec, hrec, _, hav, _, hscore, _, hint, _⟩ :=
    snapshotRecord_of_lists (snapshotCapabilities snapshot) (lists_of_entryOf h)
  unfold Discoverable
  simp only [find_applySnapshot, h, hrec, Option.map_some, Option.some.injEq]
  constructor
  · rintro ⟨r, rfl, hm⟩
    obtain ⟨hi, ha, hs⟩ := matchesQuery_iff.mp hm
    exact ⟨hav ▸ ha, hint ▸ hi, hscore ▸ hs⟩
  · rintro ⟨ha, hi, hs⟩
    exact ⟨_, rfl, matchesQuery_iff.mpr ⟨hint.symm ▸ hi, hav.trans ha, hscore.symm ▸ hs⟩⟩

/-- A node the snapshot does not list is as it was. -/
theorem discoverable_of_no_entry {repo : InMemoryRepo} {snapshot : Json} {nodeId : String}
    (h : entryOf snapshot nodeId = none) (intent : String) :
    Discoverable (applySnapshot repo snapshot).2 intent nodeId
      ↔ Discoverable repo intent nodeId := by
  unfold Discoverable
  simp only [find_applySnapshot, h]

/-- What a listed node carries, whatever was there before: everything its
row says but the reputation, which is the one on record. -/
theorem carried_of_entry (repo : InMemoryRepo) {snapshot : Json} {nodeId : String} {n : Json}
    (h : entryOf snapshot nodeId = some n) :
    ∃ r, (applySnapshot repo snapshot).2.find nodeId = some r
      ∧ r.node.available = entryAvailable n
      ∧ r.node.reputationScore
          = reputationOnRecord (repo.find nodeId) (entriesOf snapshot nodeId)
      ∧ n.getStr "endpoint" = some r.node.endpoint
      ∧ r.intents = snapshotIntents (snapshotCapabilities snapshot) nodeId
      ∧ r.capabilityProfiles = snapshotProfiles (snapshotCapabilities snapshot) nodeId := by
  obtain ⟨rec, hrec, _, hav, _, _, hend, hint, hprof⟩ :=
    snapshotRecord_of_lists (snapshotCapabilities snapshot) (lists_of_entryOf h)
  refine ⟨rec.withReputation (reputationOnRecord (repo.find nodeId) (entriesOf snapshot nodeId)),
    ?_, hav, rfl, hend, hint, hprof⟩
  rw [find_applySnapshot, h]
  show (snapshotRecord _ n).map _ = _
  rw [hrec]
  rfl

end Replica

namespace Sample

open Replica

/-- A snapshot with one node, which serves one intent. -/
def snapshot : Json :=
  .object
    [("schema_version", .string "1"), ("snapshot_seq", .number (.posInt 2)),
     ("nodes", .array [.object
       [("node_id", .string "n2"), ("endpoint", .string "https://n2.test"),
        ("available", .bool true), ("reputation_score", .number (.float (4 / 5)))]]),
     ("capabilities", .array [.object
       [("node_id", .string "n2"), ("intent", .string "chat"),
        ("supported_profiles", .array [.string "p"])]])]

/-- The snapshot of an earlier synchronisation: another node. -/
def earlierSnapshot : Json :=
  .object
    [("schema_version", .string "1"), ("snapshot_seq", .number (.posInt 1)),
     ("nodes", .array [.object
       [("node_id", .string "n1"), ("endpoint", .string "https://n1.test"),
        ("available", .bool true), ("reputation_score", .number (.float (1 / 2)))]]),
     ("capabilities", .array [.object
       [("node_id", .string "n1"), ("intent", .string "chat")]])]

end Sample

namespace Replica

end Replica
