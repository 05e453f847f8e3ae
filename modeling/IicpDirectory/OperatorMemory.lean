import IicpDirectory.Foundations.Run
import IicpDirectory.Operators

/-!
# Operators in memory

The repository of local runs keeps its operators in one map and its nodes in
one list, each behind a lock of its own. An operation takes the lock of the
map, gives it back, takes the lock of the list, and what it has changed in
the one can be seen before it has changed the other. So an operation is a
sequence of sections, and what is between two of them is a phase of the call
(`MemoryPhase`); any number of calls are under way, and each step is the next
section of one of them.
-/

/-! ## The nodes of an operator -/

namespace Node

/-- The node is bound to the operator. -/
def boundTo (operatorPubkey : String) (n : Node) : Bool := n.operatorPubkey == some operatorPubkey

/-- A node of a rotated operator goes to the successor, who has to issue its
policy again. -/
def rebound (old new : String) (n : Node) : Node :=
  if n.boundTo old then
    { n with
      operatorPubkey := some new
      operatorVerified := true
      policyManifest := none }
  else n

/-- A node of a revoked operator is bound to it, and not verified. -/
def unverified (operatorPubkey : String) (n : Node) : Node :=
  if n.boundTo operatorPubkey then
    { n with
      operatorVerified := false
      operatorTrustTier := none
      policyManifest := none }
  else n

/-- `clear_in_memory_node_subjects`, of one node. -/
def subjectCleared (operatorPubkey : String) (action : DsrAction) (n : Node) : Node :=
  if n.boundTo operatorPubkey then
    let hidden :=
      { n with
        available := false
        publicListing := false
        operatorUrl := none }
    if action = .anonymize then
      { hidden with
        operatorPubkey := none
        operatorVerified := false
        operatorTrustTier := none }
    else hidden
  else n

@[simp] theorem nodeId_rebound (old new : String) (n : Node) :
    (n.rebound old new).nodeId = n.nodeId := by
  unfold rebound
  split <;> rfl

@[simp] theorem nodeId_unverified (operatorPubkey : String) (n : Node) :
    (n.unverified operatorPubkey).nodeId = n.nodeId := by
  unfold unverified
  split <;> rfl

@[simp] theorem nodeId_subjectCleared (operatorPubkey : String) (action : DsrAction) (n : Node) :
    (n.subjectCleared operatorPubkey action).nodeId = n.nodeId := by
  unfold subjectCleared
  dsimp only
  split
  · split <;> rfl
  · rfl

end Node

namespace InMemoryRepo

/-- A change of each node that leaves its identity. -/
def mapNodes (repo : InMemoryRepo) (f : Node → Node) (hf : ∀ n, (f n).nodeId = n.nodeId) :
    InMemoryRepo :=
  { repo with
    records := repo.records.map fun r => { r with node := f r.node }
    ids_nodup := by
      rw [List.map_map]
      have hids : (NodeRecord.id ∘ fun r : NodeRecord => { r with node := f r.node })
          = NodeRecord.id := by
        funext r
        exact hf r.node
      rw [hids]
      exact repo.ids_nodup }

/-- The number of the nodes of an operator, in 32 bits. -/
def linkedNodes (repo : InMemoryRepo) (operatorPubkey : String) : ℕ :=
  min (repo.records.countP fun r => r.node.boundTo operatorPubkey) (2 ^ 32 - 1)

end InMemoryRepo

/-! ## The sections on the map -/

namespace Operators

/-- The row of a successor: what the old one had, under the new key. -/
def successor (new : String) (old : OperatorRow) : OperatorRow :=
  { old with
    operatorPubkey := new
    identityStatus := .active
    rotationEpoch := none }

/-- `upsert_operator`: the first registration makes the row, a later one may
change the display name, and nothing else. -/
def upsertOperator (t : Operators id) (r : OperatorRegistration) (nowMs : ℤ) : Operators id :=
  match t.row r.operatorPubkey with
  | some _ => r.displayName.elim t (t.rename r.operatorPubkey)
  | none => t.insertNew (r.firstRow nowMs)

/-- `rename_operator`. -/
def renameOperator (t : Operators id) (operatorPubkey displayName : String) : Bool × Operators id :=
  match t.activeRow operatorPubkey with
  | .error _ => (false, t)
  | .ok _ => (true, t.rename operatorPubkey displayName)

/-- `rotate_operator_identity`, of the map: the epoch. -/
def rotateIdentity (t : Operators id) (old new : String) (requestedEpoch : Option ℕ) :
    Except OperatorLifecycleError (ℕ × Operators id) :=
  if old = new then .error .invalid
  else match t.activeRow old with
    | .error e => .error e.lifecycle
    | .ok r =>
      if (t.row new).isSome then .error .successorExists
      else
        let epoch := OperatorRow.nextEpoch r.rotationEpoch requestedEpoch
        .ok (epoch, (t.insertNew (successor new r)).set old (OperatorRow.rotated epoch) fun _ => rfl)

/-- `revoke_operator_identity`, of the map. -/
def revokeIdentity (t : Operators id) (operatorPubkey : String) :
    Except OperatorLifecycleError (Operators id) :=
  match t.activeRow operatorPubkey with
  | .error e => .error e.lifecycle
  | .ok _ => .ok (t.set operatorPubkey OperatorRow.revoked fun _ => rfl)

/-- `accept_operator_governance`. -/
def acceptGovernance (t : Operators id)
    (operatorPubkey termsVersion dpaVersion nonceSha256 acceptedAt : String) :
    Except OperatorSelfServiceError String × Operators id :=
  match t.activeRow operatorPubkey with
  | .error e => (.error e.selfService, t)
  | .ok _ => (.ok acceptedAt,
      t.set operatorPubkey (OperatorRow.accepted termsVersion dpaVersion nonceSha256 acceptedAt)
        fun _ => rfl)

/-- The key an anonymized row is kept under. -/
def anonymousPubkey (L : OperatorLibs) (trackingId operatorPubkey : String) : String :=
  "dsr_" ++ String.ofList ((Hex.encode
    (L.sha256 (utf8 ("operator:" ++ trackingId ++ ":" ++ operatorPubkey)))).toList.take 60)

theorem rotateIdentity_eq_ok {t t' : Operators id} {old new : String} {requestedEpoch : Option ℕ}
    {epoch : ℕ} (h : t.rotateIdentity old new requestedEpoch = .ok (epoch, t')) :
    ∃ r, t.activeRow old = .ok r ∧ old ≠ new ∧ t.row new = none
      ∧ t' = (t.insertNew (successor new r)).set old (OperatorRow.rotated epoch) fun _ => rfl := by
  unfold rotateIdentity at h
  split at h
  · exact absurd h (by simp)
  · next hne =>
    split at h
    · exact absurd h (by simp)
    · next r hactive =>
      split at h
      · exact absurd h (by simp)
      · next hnew =>
        obtain ⟨rfl, rfl⟩ := Prod.mk.inj (Except.ok.inj h)
        exact ⟨r, hactive, hne, by simpa using hnew, rfl⟩

theorem revokeIdentity_eq_ok {t t' : Operators id} {operatorPubkey : String}
    (h : t.revokeIdentity operatorPubkey = .ok t') :
    ∃ r, t.activeRow operatorPubkey = .ok r
      ∧ t' = t.set operatorPubkey OperatorRow.revoked fun _ => rfl := by
  unfold revokeIdentity at h
  split at h
  · exact absurd h (by simp)
  · next r hactive =>
    obtain rfl := Except.ok.inj h
    exact ⟨r, hactive, rfl⟩

end Operators

/-! ## The calls under way -/

/-- What the repository keeps. -/
structure OperatorMemory where
  repo : InMemoryRepo
  operators : Operators id

/-- **Where a call stands** between two sections. -/
inductive MemoryPhase
  /-- It has not begun. -/
  | ready (call : OperatorCall)
  /-- A registration: its operator was not retired, its handle was free, its
  node is stored. -/
  | checked (r : OperatorRegistration)
  | free (r : OperatorRegistration)
  | persisted (r : OperatorRegistration)
  /-- The identity is rotated or revoked, the nodes are not. -/
  | rotating (old new : String) (epoch : ℕ)
  | revoking (operatorPubkey : String)
  /-- A data subject was found; its row is cleared, its nodes are; its row is
  taken out of the map. -/
  | subject (operatorPubkey : String) (receipt : DsrReceipt)
  | cleared (operatorPubkey : String) (receipt : DsrReceipt)
  | nodesCleared (operatorPubkey : String) (receipt : DsrReceipt)
  | removed (operatorPubkey : String) (r : OperatorRow) (receipt : DsrReceipt)
  | returned (answer : OperatorAnswer)

/-- **The repository and the calls under way.** -/
structure MemoryPool where
  memory : OperatorMemory
  calls : ℕ → MemoryPhase

/-- A step: the call that takes its next section, and the time. -/
structure MemoryStep where
  call : ℕ
  nowMs : ℤ
  acceptedAt : String

namespace OperatorMemory

variable (L : OperatorLibs)

/-- The first section of a call. The subject of a request is read under both
locks in turn; what the second gives is counted and no more. -/
def start (t : MemoryStep) (m : OperatorMemory) : OperatorCall → OperatorMemory × MemoryPhase
  | .register r =>
    if m.operators.identityActive r.operatorPubkey = some false then
      (m, .returned .inactiveIdentity)
    else (m, .checked r)
  | .rename operatorPubkey displayName =>
    let r := m.operators.renameOperator operatorPubkey displayName
    ({ m with operators := r.2 }, .returned (.renamed r.1))
  | .rotate old new requestedEpoch _ =>
    match m.operators.rotateIdentity old new requestedEpoch with
    | .error e => (m, .returned (.lifecycle (.error e)))
    | .ok (epoch, operators) => ({ m with operators := operators }, .rotating old new epoch)
  | .revoke operatorPubkey _ =>
    match m.operators.revokeIdentity operatorPubkey with
    | .error e => (m, .returned (.lifecycle (.error e)))
    | .ok operators => ({ m with operators := operators }, .revoking operatorPubkey)
  | .accept operatorPubkey termsVersion dpaVersion nonceSha256 =>
    let r := m.operators.acceptGovernance operatorPubkey termsVersion dpaVersion nonceSha256
      t.acceptedAt
    ({ m with operators := r.2 }, .returned (.accepted r.1))
  | .dsr operatorPubkey action trackingId =>
    match m.operators.activeRow operatorPubkey with
    | .error e => (m, .returned (.dsr (.error e.selfService)))
    | .ok _ =>
      let receipt : DsrReceipt := ⟨action, trackingId, m.repo.linkedNodes operatorPubkey⟩
      if action = .export then (m, .returned (.dsr (.ok receipt)))
      else (m, .subject operatorPubkey receipt)

/-- **The next section of a call.** -/
def advance (t : MemoryStep) (m : OperatorMemory) : MemoryPhase → OperatorMemory × MemoryPhase
  | .ready call => m.start t call
  | .checked r =>
    if (r.handle L.lower).any (m.operators.claimedByOther L.lower r.operatorPubkey) then
      (m, .returned .handleClaimed)
    else (m, .free r)
  | .free r => ({ m with repo := m.repo.register r.pending.record }, .persisted r)
  | .persisted r =>
    ({ m with operators := m.operators.upsertOperator r t.nowMs }, .returned .created)
  | .rotating old new epoch =>
    ({ m with repo := m.repo.mapNodes (Node.rebound old new) (Node.nodeId_rebound old new) },
      .returned (.lifecycle (.ok ⟨m.repo.linkedNodes old, some epoch, none⟩)))
  | .revoking operatorPubkey =>
    ({ m with
        repo := m.repo.mapNodes (Node.unverified operatorPubkey)
          (Node.nodeId_unverified operatorPubkey) },
      .returned (.lifecycle (.ok
        ⟨m.repo.linkedNodes operatorPubkey, none, some (t.nowMs / 1000)⟩)))
  | .subject operatorPubkey receipt =>
    match m.operators.row operatorPubkey with
    | none => (m, .returned (.dsr (.error .unknown)))
    | some _ =>
      ({ m with operators := m.operators.set operatorPubkey OperatorRow.cleared fun _ => rfl },
        .cleared operatorPubkey receipt)
  | .cleared operatorPubkey receipt =>
    ({ m with
        repo := m.repo.mapNodes (Node.subjectCleared operatorPubkey receipt.action)
          (Node.nodeId_subjectCleared operatorPubkey receipt.action) },
      if receipt.action = .anonymize then .nodesCleared operatorPubkey receipt
      else .returned (.dsr (.ok receipt)))
  | .nodesCleared operatorPubkey receipt =>
    match m.operators.row operatorPubkey with
    | none => (m, .returned (.dsr (.ok receipt)))
    | some r =>
      -- whatever its status is by now
      ({ m with operators := m.operators.delete operatorPubkey },
        .removed operatorPubkey r receipt)
  | .removed operatorPubkey r receipt =>
    ({ m with
        operators := m.operators.put
          (r.anonymized (Operators.anonymousPubkey L receipt.trackingId operatorPubkey)) },
      .returned (.dsr (.ok receipt)))
  | .returned answer => (m, .returned answer)

end OperatorMemory

namespace MemoryPool

/-- **One step**: the next section of one of the calls. -/
def step (L : OperatorLibs) (s : MemoryPool) (t : MemoryStep) : MemoryPool :=
  let r := s.memory.advance L t (s.calls t.call)
  ⟨r.1, Function.update s.calls t.call r.2⟩

theorem calls_step_self (L : OperatorLibs) (s : MemoryPool) (t : MemoryStep) :
    (step L s t).calls t.call = (s.memory.advance L t (s.calls t.call)).2 :=
  Function.update_self ..

theorem calls_step_of_ne (L : OperatorLibs) (s : MemoryPool) (t : MemoryStep) {i : ℕ}
    (h : i ≠ t.call) : (step L s t).calls i = s.calls i :=
  Function.update_of_ne h ..

end MemoryPool
