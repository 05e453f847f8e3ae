import IicpDirectory.Foundations.Transaction
import IicpDirectory.OperatorMemory
import IicpDirectory.Seed.Discovery
import IicpDirectory.Seed.Routes

/-!
# Operators in the tables

The production repository has a row in `operators` for each key, the binding
of each node in `nodes`, and in `policy_key_lifecycle_records` what became of
the keys that sign policies. A rotation, a revocation and what a data subject
asks for are transactions, the two former with the row of the operator locked
from the start; a rename, an acceptance and what a registration says of its
operator are statements of their own, after a look at the row.

A call is a sequence of such steps (`TablesPhase`), and between any two of
them others have theirs. The queries and the sweep that read and write the
nodes go on at the same time.
-/

/-! ## The rows -/

/-- What a row of `nodes` says of the operator of the node. -/
structure NodeBinding where
  nodeId : String
  operatorPubkey : Option String
  operatorVerified : Bool
  operatorTrustTier : Option String
  policyManifest : Option Json
  publicListing : Bool
  operatorUrl : Option String

/-- `policy_key_lifecycle_records.status`. -/
inductive PolicyKeyStatus
  | superseded
  | revoked
  deriving DecidableEq

/-- A row of `policy_key_lifecycle_records`. -/
structure PolicyKeyRecord where
  policyKeySha256 : String
  status : PolicyKeyStatus
  rotationEpoch : Option ℕ
  revokedAtMs : Option ℤ
  revocationReasonClass : String
  supersededByPolicyKeySha256 : Option String

/-- A row of `data_subject_actions`. -/
structure DataSubjectAction where
  trackingId : String
  action : DsrAction
  nodes : ℕ

/-- **The tables**, under a collation. -/
structure OperatorTables (fold : String → String) where
  repo : MySqlRepo fold
  bindings : Table (fun b : NodeBinding => fold b.nodeId)
  operators : Operators fold
  policyKeys : Table (fun r : PolicyKeyRecord => fold r.policyKeySha256)
  dataSubjectActions : Table (fun a : DataSubjectAction => fold a.trackingId)

namespace OperatorTables

variable {fold : String → String}

/-- The tables as the schema creates them. -/
def empty (fold : String → String) : OperatorTables fold :=
  ⟨.empty fold, .empty _, .empty _, .empty _, .empty _⟩

/-! ## The nodes of an operator -/

/-- `WHERE operator_pubkey = ?`, of the nodes. -/
def boundTo (fold : String → String) (operatorPubkey : String) (b : NodeBinding) : Bool :=
  b.operatorPubkey.any fun key => fold key == fold operatorPubkey

/-- The nodes of an operator. -/
def nodeIds (db : OperatorTables fold) (operatorPubkey : String) : List String :=
  (db.bindings.rows.filter (boundTo fold operatorPubkey)).map NodeBinding.nodeId

/-- The number of rows an update of them affects, read into 32 bits. -/
def linkedNodes (db : OperatorTables fold) (operatorPubkey : String) : ℕ :=
  (db.nodeIds operatorPubkey).length % 2 ^ 32

/-- `UPDATE nodes SET … WHERE operator_pubkey = ?`, of what the rows say of
the operator. -/
def updateBound (db : OperatorTables fold) (operatorPubkey : String)
    (f : NodeBinding → NodeBinding) (hf : ∀ b, (f b).nodeId = b.nodeId) : OperatorTables fold :=
  { db with
    bindings := db.bindings.updateWhere (boundTo fold operatorPubkey) f fun b =>
      congrArg fold (hf b) }

/-- The binding a registration writes. -/
def bindingOf (p : PendingRegistration) : NodeBinding where
  nodeId := p.nodeId
  operatorPubkey := p.node.operatorPubkey
  operatorVerified := p.node.operatorVerified
  operatorTrustTier := p.node.operatorTrustTier
  policyManifest := p.node.policyManifest
  publicListing := p.node.publicListing
  operatorUrl := p.node.operatorUrl

/-- `registration_store::persist`. -/
def persist (db : OperatorTables fold) (p : PendingRegistration) : OperatorTables fold :=
  { db with
    repo := db.repo.registered p
    bindings := db.bindings.upsert (bindingOf p)
      (fun old => { bindingOf p with nodeId := old.nodeId }) fun _ => rfl }

/-! ## Rotation and revocation -/

/-- The digest of a key that is one: 32 bytes in Base64. -/
def policyKeySha256 (L : OperatorLibs) (operatorPubkey : String) : Option String :=
  (L.base64Decode operatorPubkey).bind fun raw =>
    if raw.length = 32 then some (Hex.encode (L.sha256 raw)) else none

/-- `INSERT INTO policy_key_lifecycle_records … ON DUPLICATE KEY UPDATE`. -/
def recordPolicyKey (db : OperatorTables fold) (r : PolicyKeyRecord)
    (merge : PolicyKeyRecord → PolicyKeyRecord)
    (hmerge : ∀ old, (merge old).policyKeySha256 = old.policyKeySha256) : OperatorTables fold :=
  { db with policyKeys := db.policyKeys.upsert r merge fun old => congrArg fold (hmerge old) }

/-- The row of a successor: who the operator is, and not what it accepted. -/
def successor (new : String) (old : OperatorRow) : OperatorRow where
  operatorPubkey := new
  displayName := old.displayName
  attestedCreatedAt := old.attestedCreatedAt
  integrityHash := old.integrityHash
  firstSeenMs := old.firstSeenMs
  ordinal := old.ordinal
  tier := old.tier
  badge := old.badge
  provenance := old.provenance

/-- The row that stays as evidence of a rotation. -/
def rotatedRow (epoch : ℕ) (successorSha256 reasonClass : String) (r : OperatorRow) : OperatorRow :=
  { r.rotated epoch with
    successorOperatorPubkeySha256 := some successorSha256
    identityReasonClass := some reasonClass }

/-- The row that stays of a revocation. -/
def revokedRow (nowMs : ℤ) (reasonClass : String) (r : OperatorRow) : OperatorRow :=
  { r.revoked with
    identityRevokedAtMs := some nowMs
    identityReasonClass := some reasonClass }

/-- `INSERT INTO operators`, of a key that must not be there. -/
def insertOperator (r : OperatorRow) (db : OperatorTables fold) : Option (OperatorTables fold) :=
  if (db.operators.row r.operatorPubkey).isSome then none
  else some { db with operators := db.operators.insertNew r }

/-- `UPDATE operators SET … WHERE operator_pubkey = ?`. -/
def setOperator (operatorPubkey : String) (f : OperatorRow → OperatorRow)
    (hf : ∀ r, (f r).operatorPubkey = r.operatorPubkey) (db : OperatorTables fold) :
    OperatorTables fold :=
  { db with operators := db.operators.set operatorPubkey f hf }

/-- The statements of a rotation; the keys are decoded before the last but
one. -/
def rotateBody (L : OperatorLibs) (old new : String) (r : OperatorRow) (epoch : ℕ)
    (reasonClass : String) : List (OperatorTables fold → Option (OperatorTables fold)) :=
  [some,
    some,
    insertOperator (successor new r),
    fun db => some (db.updateBound old (fun b => { b with
      operatorPubkey := some new
      operatorVerified := true
      policyManifest := none }) fun _ => rfl),
    fun db => do
      let successorSha256 ← policyKeySha256 L new
      let predecessorSha256 ← policyKeySha256 L old
      return db.recordPolicyKey
        ⟨predecessorSha256, .superseded, some epoch, none, reasonClass, some successorSha256⟩
        (fun was => { was with
          status := .superseded
          rotationEpoch := some epoch
          revocationReasonClass := reasonClass
          supersededByPolicyKeySha256 := some successorSha256 }) fun _ => rfl,
    fun db => (policyKeySha256 L new).map fun successorSha256 =>
      db.setOperator old (rotatedRow epoch successorSha256 reasonClass) fun _ => rfl]

/-- The statements of a revocation. -/
def revokeBody (L : OperatorLibs) (operatorPubkey reasonClass : String) (nowMs : ℤ) :
    List (OperatorTables fold → Option (OperatorTables fold)) :=
  [some,
    fun db => some (db.updateBound operatorPubkey (fun b => { b with
      operatorVerified := false
      operatorTrustTier := none
      policyManifest := none }) fun _ => rfl),
    fun db => (policyKeySha256 L operatorPubkey).map fun sha256 =>
      db.recordPolicyKey ⟨sha256, .revoked, none, some nowMs, reasonClass, none⟩
        (fun was => { was with
          status := .revoked
          revokedAtMs := some nowMs
          revocationReasonClass := reasonClass }) fun _ => rfl,
    fun db => some (db.setOperator operatorPubkey (revokedRow nowMs reasonClass) fun _ => rfl)]

/-- **What a rotation leaves of the operators**: the successor, and the old
row as evidence. -/
theorem of_rotateBody {L : OperatorLibs} {old new : String} {r : OperatorRow} {epoch : ℕ}
    {reasonClass : String} {db db' : OperatorTables fold}
    (h : (rotateBody L old new r epoch reasonClass).foldlM (fun s statement => statement s) db
      = some db') :
    ∃ successorSha256, db'.operators
      = (db.operators.insertNew (successor new r)).set old
        (rotatedRow epoch successorSha256 reasonClass) fun _ => rfl := by
  obtain ⟨inserted, hinserted, hrest⟩ := Option.bind_eq_some_iff.mp h
  obtain ⟨recorded, hrecorded, hrest⟩ := Option.bind_eq_some_iff.mp hrest
  obtain ⟨last, hlast, hend⟩ := Option.bind_eq_some_iff.mp hrest
  obtain rfl := Option.some.inj hend
  dsimp only at hinserted hrecorded hlast
  unfold insertOperator at hinserted
  split at hinserted
  · exact absurd hinserted (by simp)
  · obtain rfl := Option.some.inj hinserted
    obtain ⟨sha256, -, hrecorded⟩ := Option.bind_eq_some_iff.mp hrecorded
    obtain ⟨predecessorSha256, -, hrecorded⟩ := Option.bind_eq_some_iff.mp hrecorded
    obtain rfl := Option.some.inj hrecorded
    obtain ⟨successorSha256, -, rfl⟩ := Option.map_eq_some_iff.mp hlast
    exact ⟨successorSha256, rfl⟩

end OperatorTables

/-- A call's turn: the server it meets, and the time. -/
structure Turn where
  server : Server
  nowMs : ℤ
  acceptedAt : String

/-- A query outside any transaction, or one early in it, is answered. -/
def Server.answersRead (server : Server) (n : ℕ) : Bool := server.begins && !server.fails n

namespace OperatorTables

variable {fold : String → String}

/-- Why a transaction was given up: a key that is none, if it came to that
statement, or the database. -/
def lifecycleError (L : OperatorLibs) (server : Server) (statement : ℕ) (keys : List String) :
    OperatorLifecycleError :=
  if (List.range statement).all server.answersRead && keys.any (fun key =>
      (policyKeySha256 L key).isNone) then .invalid
  else .storage

/-- `MySqlRepo::rotate_operator_identity`. -/
def rotateOperatorIdentity (L : OperatorLibs) (t : Turn) (db : OperatorTables fold)
    (old new : String) (requestedEpoch : Option ℕ) (reasonClass : String) :
    Except OperatorLifecycleError OperatorLifecycleResult × OperatorTables fold :=
  if old = new then (.error .invalid, db)
  else if !t.server.answersRead 0 then (.error .storage, db)
  else match db.operators.activeRow old with
    | .error e => (.error (if t.server.answersRead 1 then e.lifecycle else .storage), db)
    | .ok r =>
      if !t.server.answersRead 1 then (.error .storage, db)
      else if (db.operators.row new).isSome then (.error .successorExists, db)
      else
        let epoch := OperatorRow.nextEpoch r.rotationEpoch requestedEpoch
        let done := Transaction.run t.server (rotateBody L old new r epoch reasonClass) db
        (if done.1 then .ok ⟨db.linkedNodes old, some epoch, none⟩
          else .error (lifecycleError L t.server 4 [new, old]), done.2)

/-- `MySqlRepo::revoke_operator_identity`. -/
def revokeOperatorIdentity (L : OperatorLibs) (t : Turn) (db : OperatorTables fold)
    (operatorPubkey reasonClass : String) :
    Except OperatorLifecycleError OperatorLifecycleResult × OperatorTables fold :=
  if !t.server.answersRead 0 then (.error .storage, db)
  else match db.operators.activeRow operatorPubkey with
    | .error e => (.error (if t.server.answersRead 1 then e.lifecycle else .storage), db)
    | .ok _ =>
      let done := Transaction.run t.server (revokeBody L operatorPubkey reasonClass t.nowMs) db
      (if done.1 then .ok ⟨db.linkedNodes operatorPubkey, none, some (t.nowMs / 1000)⟩
        else .error (lifecycleError L t.server 2 [operatorPubkey]), done.2)

/-- What the transaction of a rotation leaves of the operators, -/
theorem run_rotateBody (L : OperatorLibs) (old new : String) (r : OperatorRow) (epoch : ℕ)
    (reasonClass : String) (t : Turn) (db : OperatorTables fold) :
    (Transaction.run t.server (rotateBody L old new r epoch reasonClass) db).2 = db
      ∨ ∃ successorSha256,
        (Transaction.run t.server (rotateBody L old new r epoch reasonClass) db).2.operators
          = (db.operators.insertNew (successor new r)).set old
            (rotatedRow epoch successorSha256 reasonClass) fun _ => rfl :=
  (Transaction.snd_run_cases t.server _ db).imp_right of_rotateBody

/-- and that of a revocation. -/
theorem run_revokeBody (L : OperatorLibs) (operatorPubkey reasonClass : String) (t : Turn)
    (db : OperatorTables fold) :
    (Transaction.run t.server (revokeBody L operatorPubkey reasonClass t.nowMs) db).2 = db
      ∨ (Transaction.run t.server
          (revokeBody L operatorPubkey reasonClass t.nowMs) db).2.operators
        = db.operators.set operatorPubkey (revokedRow t.nowMs reasonClass) fun _ => rfl := by
  refine (Transaction.snd_run_cases t.server _ db).imp_right fun h => ?_
  obtain ⟨recorded, hrecorded, hrest⟩ := Option.bind_eq_some_iff.mp h
  dsimp only at hrecorded
  obtain ⟨sha256, -, rfl⟩ := Option.map_eq_some_iff.mp hrecorded
  have hend := Option.some.inj hrest
  exact (congrArg OperatorTables.operators hend).symm

/-- **A rotation that leaves anything** found its operator active and the key
of its successor free. -/
theorem rotateOperatorIdentity_cases (L : OperatorLibs) (t : Turn) (db : OperatorTables fold)
    (old new : String) (requestedEpoch : Option ℕ) (reasonClass : String) :
    (db.rotateOperatorIdentity L t old new requestedEpoch reasonClass).2 = db
      ∨ ∃ r epoch successorSha256, db.operators.activeRow old = .ok r
        ∧ db.operators.row new = none
        ∧ (db.rotateOperatorIdentity L t old new requestedEpoch reasonClass).2.operators
          = (db.operators.insertNew (successor new r)).set old
            (rotatedRow epoch successorSha256 reasonClass) fun _ => rfl := by
  unfold rotateOperatorIdentity
  split
  · exact Or.inl rfl
  · split
    · exact Or.inl rfl
    · split
      · exact Or.inl rfl
      · next r hactive =>
        split
        · exact Or.inl rfl
        · split
          · exact Or.inl rfl
          · next hnew =>
            dsimp only
            refine (run_rotateBody L old new r _ reasonClass t db).imp_right ?_
            rintro ⟨successorSha256, hoperators⟩
            exact ⟨r, _, successorSha256, hactive, by simpa using hnew, hoperators⟩

/-! ## What a data subject asks for -/

/-- `provenance`, after a request. -/
def dsrProvenance (action : DsrAction) : String :=
  if action = .anonymize then "\x7b\"dsr\": \"anonymized\"\x7d" else "\x7b\"dsr\": \"restricted\"\x7d"

/-- The row of an operator that is restricted. -/
def restrictedRow (action : DsrAction) (r : OperatorRow) : OperatorRow :=
  { r.cleared with
    identityStatus := .restricted
    provenance := some (dsrProvenance action) }

/-- `apply_mysql_dsr_restriction`: the nodes of the operator, and its row,
whatever its status is. -/
def restrictionBody (operatorPubkey : String) (action : DsrAction) (nowMs : ℤ) :
    List (OperatorTables fold → Option (OperatorTables fold)) :=
  [fun db => some
      { db.updateBound operatorPubkey (fun b => { b with
          publicListing := false
          operatorUrl := none }) fun _ => rfl with
        repo := RouteDb.restrict (db.nodeIds operatorPubkey) nowMs db.repo },
    fun db => some (db.setOperator operatorPubkey (restrictedRow action) fun _ => rfl)]

/-- The endpoint of a node that nobody is to find. -/
def anonymizedEndpoint (r : NodeRow) : String :=
  "https://dsr-anonymized.invalid/node-" ++ String.ofList (r.id.toList.take 8)

/-- The nodes of an operator, without their endpoint. -/
def hideEndpoints (ids : List String) (repo : MySqlRepo fold) : MySqlRepo fold :=
  { repo with
    nodes := repo.nodes.updateWhere (fun r => ids.any fun id => fold id == fold r.id)
      (fun r => { r with endpoint := anonymizedEndpoint r }) fun _ => rfl }

/-- `UPDATE operators SET operator_pubkey = …`: the row goes under another
key, which must be free. -/
def rekey (operatorPubkey anonymous : String) (db : OperatorTables fold) :
    Option (OperatorTables fold) :=
  match db.operators.row operatorPubkey with
  | none => some db
  | some r =>
    if fold anonymous ≠ fold operatorPubkey ∧ (db.operators.row anonymous).isSome then none
    else some
      { db with
        operators := Operators.put (db.operators.delete (fold operatorPubkey))
          (r.anonymized anonymous) }

/-- `apply_mysql_dsr_anonymization`; the rows of `telemetry` that go with
the nodes are not among these tables. -/
def anonymizationBody (L : OperatorLibs) (operatorPubkey trackingId : String) (ids : List String) :
    List (OperatorTables fold → Option (OperatorTables fold)) :=
  [fun db => some
      { db.updateBound operatorPubkey (fun b => { b with
          operatorPubkey := none
          operatorVerified := false
          operatorTrustTier := none
          policyManifest := none }) fun _ => rfl with
        repo := hideEndpoints (db.nodeIds operatorPubkey) db.repo }]
    ++ (if ids.isEmpty then [] else [some, some, some])
    ++ [rekey operatorPubkey (Operators.anonymousPubkey L trackingId operatorPubkey)]

/-- `insert_mysql_dsr_action`: a tracking identity is used once. -/
def insertDsrAction (a : DataSubjectAction) (db : OperatorTables fold) :
    Option (OperatorTables fold) :=
  if (db.dataSubjectActions.find (fold a.trackingId)).isSome then none
  else some { db with dataSubjectActions := db.dataSubjectActions.upsert a id fun _ => rfl }

/-- The statements of a request, up to its record: the counts, where there
are nodes to count, the restriction, and for an anonymization the rest. -/
def dsrBody (L : OperatorLibs) (operatorPubkey : String) (action : DsrAction) (trackingId : String)
    (ids : List String) (nowMs : ℤ) : List (OperatorTables fold → Option (OperatorTables fold)) :=
  (if ids.isEmpty then [] else List.replicate 6 some)
    ++ restrictionBody operatorPubkey action nowMs
    ++ (if action = .anonymize then anonymizationBody L operatorPubkey trackingId ids else [])

/-- The statements of what a data subject asks for. -/
theorem mem_dsrBody {L : OperatorLibs} {operatorPubkey : String} {action : DsrAction}
    {trackingId : String} {ids : List String} {nowMs : ℤ}
    {statement : OperatorTables fold → Option (OperatorTables fold)}
    (h : statement ∈ dsrBody L operatorPubkey action trackingId ids nowMs)
    {db db' : OperatorTables fold} (hdb : statement db = some db') :
    db'.operators = db.operators
      ∨ db'.operators = db.operators.set operatorPubkey (restrictedRow action) (fun _ => rfl)
      ∨ db.rekey operatorPubkey (Operators.anonymousPubkey L trackingId operatorPubkey) = some db' := by
  unfold dsrBody at h
  rw [List.mem_append, List.mem_append] at h
  rcases h with (hcount | hrestrict) | hanonymize
  · split at hcount
    · exact absurd hcount List.not_mem_nil
    · obtain rfl := List.eq_of_mem_replicate hcount
      exact Or.inl (Option.some.inj hdb ▸ rfl)
  · simp only [restrictionBody, List.mem_cons, List.not_mem_nil, or_false] at hrestrict
    rcases hrestrict with rfl | rfl
    · exact Or.inl (Option.some.inj hdb ▸ rfl)
    · exact Or.inr (Or.inl (Option.some.inj hdb ▸ rfl))
  · split at hanonymize
    · simp only [anonymizationBody, List.mem_append, List.mem_singleton] at hanonymize
      rcases hanonymize with (rfl | hdeletes) | rfl
      · exact Or.inl (Option.some.inj hdb ▸ rfl)
      · split at hdeletes
        · exact absurd hdeletes List.not_mem_nil
        · obtain rfl : statement = some := by simpa using hdeletes
          exact Or.inl (Option.some.inj hdb ▸ rfl)
      · exact Or.inr (Or.inr hdb)
    · exact absurd hanonymize List.not_mem_nil

/-- `load_mysql_dsr_subject`: the nodes of an operator that is active. -/
def loadDsrSubject (t : Turn) (db : OperatorTables fold) (operatorPubkey : String) :
    Except OperatorSelfServiceError (List String) :=
  if !t.server.answersRead 0 || !t.server.answersRead 1 then .error .storage
  else match db.operators.activeRow operatorPubkey with
    | .error e => .error e.selfService
    | .ok _ => .ok (db.nodeIds operatorPubkey)

/-- `mutate_mysql_dsr`: it does not look at the status again. -/
def mutateDsr (L : OperatorLibs) (t : Turn) (db : OperatorTables fold) (operatorPubkey : String)
    (action : DsrAction) (trackingId : String) (ids : List String) :
    Except OperatorSelfServiceError DsrReceipt × OperatorTables fold :=
  let body := dsrBody L operatorPubkey action trackingId ids t.nowMs
  let done := Transaction.run t.server
    (body ++ [insertDsrAction ⟨trackingId, action, ids.length⟩]) db
  (if done.1 then .ok ⟨action, trackingId, ids.length⟩
    else if (Transaction.reaches t.server body db).isSome && t.server.answersRead body.length
        && (db.dataSubjectActions.find (fold trackingId)).isSome then
      .error .duplicateTrackingId
    else .error .storage, done.2)

/-! ## Single statements -/

/-- A display name fits its column. -/
def nameFits (name : String) : Bool := name.length ≤ 64

/-- The row of an operator fits its columns. -/
def rowFits (r : OperatorRow) : Bool :=
  r.operatorPubkey.length ≤ 80 && r.displayName.all nameFits
    && r.attestedCreatedAt.all (fun text => text.length ≤ 40)
    && r.integrityHash.all (fun text => text.length ≤ 64)

/-- `UPDATE operators SET display_name = ? WHERE operator_pubkey = ?`; whether
it was executed is not looked at. -/
def setDisplayName (server : Server) (operatorPubkey name : String) (db : OperatorTables fold) :
    OperatorTables fold :=
  if server.executes && nameFits name then
    { db with operators := db.operators.rename operatorPubkey name }
  else db

/-- `INSERT INTO operators`, of a registration; nor is it here. -/
def insertFirst (server : Server) (r : OperatorRow) (db : OperatorTables fold) :
    OperatorTables fold :=
  if server.executes && rowFits r then { db with operators := db.operators.insertNew r } else db

/-- `UPDATE operators SET terms_version = … WHERE operator_pubkey = ? AND
identity_status = 'active'`. -/
def acceptTerms (t : Turn) (operatorPubkey termsVersion dpaVersion nonceSha256 : String)
    (db : OperatorTables fold) : OperatorTables fold :=
  match db.operators.activeRow operatorPubkey with
  | .error _ => db
  | .ok _ =>
    if t.server.executes then
      db.setOperator operatorPubkey
        (OperatorRow.accepted termsVersion dpaVersion nonceSha256 t.acceptedAt) fun _ => rfl
    else db

end OperatorTables

/-! ## The calls under way -/

/-- **Where a call stands** between two statements outside a transaction. -/
inductive TablesPhase
  /-- It has not begun. -/
  | ready (call : OperatorCall)
  /-- A registration: its operator was not seen retired, its handle not seen
  taken, its node is stored, its operator was looked up. -/
  | checked (r : OperatorRegistration)
  | free (r : OperatorRegistration)
  | persisted (r : OperatorRegistration)
  | looked (r : OperatorRegistration) (found : Bool)
  /-- A rename found its operator active. -/
  | found (operatorPubkey displayName : String)
  /-- An acceptance was written, or there was no row to write it to. -/
  | accepted (operatorPubkey : String)
  | acceptRefused (operatorPubkey : String)
  /-- A data subject was found active. -/
  | subject (operatorPubkey : String) (action : DsrAction) (trackingId : String)
      (ids : List String)
  | returned (answer : OperatorAnswer)

namespace OperatorTables

variable {fold : String → String} (L : OperatorLibs)

/-- The first step of a call. -/
def start (t : Turn) (db : OperatorTables fold) : OperatorCall → OperatorTables fold × TablesPhase
  | .register r =>
    -- what cannot be read is taken for unknown
    if t.server.answersRead 0 && db.operators.identityActive r.operatorPubkey == some false then
      (db, .returned .inactiveIdentity)
    else (db, .checked r)
  | .rename operatorPubkey displayName =>
    if t.server.answersRead 0 && db.operators.identityActive operatorPubkey == some true then
      (db, .found operatorPubkey displayName)
    else (db, .returned (.renamed false))
  | .rotate old new requestedEpoch reasonClass =>
    let r := db.rotateOperatorIdentity L t old new requestedEpoch reasonClass
    (r.2, .returned (.lifecycle r.1))
  | .revoke operatorPubkey reasonClass =>
    let r := db.revokeOperatorIdentity L t operatorPubkey reasonClass
    (r.2, .returned (.lifecycle r.1))
  | .accept operatorPubkey termsVersion dpaVersion nonceSha256 =>
    (db.acceptTerms t operatorPubkey termsVersion dpaVersion nonceSha256,
      if !t.server.answers then .returned (.accepted (.error .storage))
      else match db.operators.activeRow operatorPubkey with
        | .error _ => .acceptRefused operatorPubkey
        | .ok _ => .accepted operatorPubkey)
  | .dsr operatorPubkey action trackingId =>
    match db.loadDsrSubject t operatorPubkey with
    | .error e => (db, .returned (.dsr (.error e)))
    | .ok ids =>
      if action = .export then
        -- the rest of an export is read, and nothing written
        (db, .returned (.dsr (if t.server.answersRead 2 then .ok ⟨action, trackingId, ids.length⟩
          else .error .storage)))
      else (db, .subject operatorPubkey action trackingId ids)

/-- **The next step of a call.** -/
def advance (t : Turn) (db : OperatorTables fold) : TablesPhase → OperatorTables fold × TablesPhase
  | .ready call => db.start L t call
  | .checked r =>
    -- and so is a handle
    if (r.handle L.lower).any (fun name => t.server.answersRead 0
        && db.operators.sqlClaimedByOther L.sqlNormalize r.operatorPubkey name) then
      (db, .returned .handleClaimed)
    else (db, .free r)
  | .free r =>
    let done := Transaction.run t.server [fun db => some (db.persist r.pending)] db
    (done.2, if done.1 then .persisted r else .returned .persistenceFailed)
  | .persisted r =>
    (db, .looked r (t.server.answersRead 0 && (db.operators.row r.operatorPubkey).isSome))
  | .looked r found =>
    (if found then r.displayName.elim db fun name => db.setDisplayName t.server r.operatorPubkey name
      else db.insertFirst t.server (r.firstRow t.nowMs), .returned .created)
  | .found operatorPubkey displayName =>
    (db.setDisplayName t.server operatorPubkey displayName, .returned (.renamed true))
  | .accepted operatorPubkey =>
    let acceptedAt := (db.operators.row operatorPubkey).bind OperatorRow.termsAcceptedAt
    (db, .returned (.accepted
      (match acceptedAt.filter (fun _ => t.server.answersRead 0) with
        | some acceptedAt => .ok acceptedAt
        | none => .error .storage)))
  | .acceptRefused operatorPubkey =>
    let active := db.operators.identityActive operatorPubkey
    (db, .returned (.accepted (.error
      (match active.filter (fun _ => t.server.answersRead 0) with
        | none => .unknown
        | some false => .inactive
        | some true => .storage))))
  | .subject operatorPubkey action trackingId ids =>
    let r := db.mutateDsr L t operatorPubkey action trackingId ids
    (r.2, .returned (.dsr r.1))
  | .returned answer => (db, .returned answer)

end OperatorTables

/-- **The seed**: its tables, the nodes its sweep has selected, and the calls
under way. -/
structure OperatorPool (fold : String → String) where
  tables : OperatorTables fold
  selected : List String
  calls : ℕ → TablesPhase

/-- What happens to a seed: a call has its next turn, or a statement about the
nodes is executed. -/
inductive PoolAction
  | advance (call : ℕ) (t : Turn)
  | heartbeat (req : MySqlRepo.HeartbeatRequest) (nowMs : ℤ)
  | applyProbeRouteState (nodeId : String) (passed : Bool) (nowMs : ℤ)
  | selectStale (nowMs : ℤ)
  | markDormant (nowMs : ℤ)
  | archiveDormant (nowMs : ℤ) (days : ℕ)

namespace OperatorPool

variable {fold : String → String}

/-- The nodes after a statement about them. -/
def nodesAfter (s : OperatorPool fold) : PoolAction → MySqlRepo fold
  | .advance _ _ => s.tables.repo
  | .heartbeat req nowMs => ((s.tables.repo.heartbeatOnce req nowMs).map Prod.snd).getD s.tables.repo
  | .applyProbeRouteState nodeId passed nowMs =>
    ((s.tables.repo.applyProbeRouteState nodeId passed nowMs).map Prod.snd).getD s.tables.repo
  | .selectStale _ => s.tables.repo
  | .markDormant nowMs => s.tables.repo.markDormant s.selected nowMs
  | .archiveDormant nowMs days => s.tables.repo.archiveDormant nowMs days

/-- **One step.** -/
def step (L : OperatorLibs) (s : OperatorPool fold) (action : PoolAction) : OperatorPool fold :=
  match action with
  | .advance call t =>
    let r := s.tables.advance L t (s.calls call)
    ⟨r.1, s.selected, Function.update s.calls call r.2⟩
  | action =>
    { s with
      tables := { s.tables with repo := s.nodesAfter action }
      selected :=
        match action with
        | .selectStale nowMs => s.tables.repo.selectStale nowMs
        | .markDormant _ => []
        | _ => s.selected }

end OperatorPool
