import IicpDirectory.Seed.Heartbeats
import IicpDirectory.Seed.Identities

/-!
# Whoever asked to be restricted

A data subject that asks to be restricted is to disappear: its identity is
not active any more, and no query shows a node of it. In the tables the
restriction writes both; in memory it hides the nodes and leaves the status as
it is. What is hidden is hidden by a flag, and the flag belongs to whoever
writes it next: a heartbeat says for itself that the node is available, and
says so where it says nothing; a registration that was checked before, or
whose operator could not be looked up, stores the node as available.

`restriction_sticks_iff` has the runs in which the operator stays withdrawn,
in either repository. In memory that is a run at all only where another call
has retired the identity in the meantime.
-/

/-! ## What is shown -/

/-- **A query that shows nodes** to whoever asks. -/
inductive PublicQuery
  | discover (q : DiscoverQuery)
  | bootstrap (limit : ℕ)
  | peersExcluding (knownIds : List String) (limit : ℕ)
  | listPublic (offset limit : ℕ)

namespace InMemoryRepo

/-- `InMemoryRepo::bootstrap`. -/
def bootstrap (repo : InMemoryRepo) (limit : ℕ) : List Node :=
  ((repo.records.filter fun r => r.node.available).take limit).map NodeRecord.node

/-- `InMemoryRepo::peers_excluding`. -/
def peersExcluding (repo : InMemoryRepo) (knownIds : List String) (limit : ℕ) : List Node :=
  let cap := if limit = 0 then 10 else if 20 < limit then 20 else limit
  ((repo.records.filter fun r =>
    r.node.available && !knownIds.contains r.node.nodeId).take cap).map NodeRecord.node

/-- `InMemoryRepo::list_public`; the endpoint is not listed. -/
def listPublic (repo : InMemoryRepo) (offset limit : ℕ) : List Node :=
  (((repo.records.filter fun r => r.node.available).drop offset).take (min limit 100)).map
    fun r => { r.node with endpoint := "" }

/-- The nodes a query shows. -/
def shown (repo : InMemoryRepo) : PublicQuery → List Node
  | .discover q => repo.discover q
  | .bootstrap limit => repo.bootstrap limit
  | .peersExcluding knownIds limit => repo.peersExcluding knownIds limit
  | .listPublic offset limit => repo.listPublic offset limit

/-- What is shown is a record that is available. -/
theorem available_of_shown {repo : InMemoryRepo} {query : PublicQuery} {n : Node}
    (h : n ∈ repo.shown query) :
    ∃ r ∈ repo.records, r.id = n.nodeId ∧ r.node.available = true := by
  cases query with
  | discover q =>
    have hmem := (List.mem_insertionSort _).mp (List.mem_of_mem_take h)
    obtain ⟨r, hr, rfl⟩ := List.mem_map.mp hmem
    obtain ⟨hrecord, hmatch⟩ := List.mem_filter.mp hr
    unfold matchesQuery at hmatch
    simp only [Bool.and_eq_true] at hmatch
    exact ⟨r, hrecord, rfl, hmatch.1.1.2⟩
  | bootstrap limit =>
    obtain ⟨r, hr, rfl⟩ := List.mem_map.mp h
    obtain ⟨hrecord, havailable⟩ := List.mem_filter.mp (List.mem_of_mem_take hr)
    exact ⟨r, hrecord, rfl, havailable⟩
  | peersExcluding knownIds limit =>
    obtain ⟨r, hr, rfl⟩ := List.mem_map.mp h
    obtain ⟨hrecord, hmatch⟩ := List.mem_filter.mp (List.mem_of_mem_take hr)
    rw [Bool.and_eq_true] at hmatch
    exact ⟨r, hrecord, rfl, hmatch.1⟩
  | listPublic offset limit =>
    obtain ⟨r, hr, rfl⟩ := List.mem_map.mp h
    obtain ⟨hrecord, havailable⟩ :=
      List.mem_filter.mp (List.mem_of_mem_drop (List.mem_of_mem_take hr))
    exact ⟨r, hrecord, rfl, havailable⟩

/-- The node is stored as available. -/
def available (repo : InMemoryRepo) (nodeId : String) : Bool :=
  (repo.find nodeId).any fun r => r.node.available

/-- **A node is shown by no query just where it is not available.** -/
theorem hidden_iff (repo : InMemoryRepo) (nodeId : String) :
    (∀ query, ∀ n ∈ repo.shown query, n.nodeId ≠ nodeId) ↔ repo.available nodeId = false := by
  constructor
  · intro h
    cases hfind : repo.find nodeId with
    | none =>
      unfold available
      rw [hfind]
      rfl
    | some r =>
      cases havailable : r.node.available with
      | false =>
        unfold available
        rw [hfind]
        exact havailable
      | true =>
        have hrecord : r ∈ repo.records.filter fun r => r.node.available :=
          List.mem_filter.mpr ⟨List.mem_of_find?_eq_some hfind, havailable⟩
        have hshown : r.node ∈ repo.shown
            (.bootstrap (repo.records.filter fun r => r.node.available).length) := by
          show r.node ∈ ((repo.records.filter fun r => r.node.available).take _).map _
          rw [List.take_length]
          exact List.mem_map_of_mem hrecord
        exact absurd (id_of_find hfind) (h _ _ hshown)
  · rintro h query n hn rfl
    obtain ⟨r, hr, hid, havailable⟩ := available_of_shown hn
    unfold available at h
    rw [← hid, mem_records_iff.mp hr] at h
    exact absurd havailable (Bool.not_eq_true _ ▸ h)

end InMemoryRepo

namespace MySqlRepo

variable {fold : String → String}

/-- `MySqlRepo::list_public`; the endpoint is not listed. -/
def listPublic (repo : MySqlRepo fold) (offset limit : ℕ) (nowMs : ℤ) : List NodeRow :=
  ((((repo.activeNodes nowMs).insertionSort seenAfter).drop offset).take (min limit 100)).map
    fun r => { r with endpoint := "" }

/-- The rows a query shows. -/
def shown (repo : MySqlRepo fold) (nowMs : ℤ) : PublicQuery → List NodeRow
  | .discover q => repo.returned nowMs (.discover q)
  | .bootstrap limit => repo.returned nowMs (.bootstrap limit)
  | .peersExcluding knownIds limit => repo.returned nowMs (.peersExcluding knownIds limit)
  | .listPublic offset limit => repo.listPublic offset limit nowMs

/-- What is shown is a row that is live. -/
theorem live_of_shown {repo : MySqlRepo fold} {nowMs : ℤ} {query : PublicQuery} {shownRow : NodeRow}
    (h : shownRow ∈ repo.shown nowMs query) :
    ∃ r ∈ repo.nodes.rows, r.id = shownRow.id ∧ live nowMs r = true := by
  cases query with
  | discover q =>
    have hreturned : shownRow ∈ repo.returned nowMs (.discover q) := h
    obtain ⟨hmem, hlive⟩ := live_of_returned hreturned
    exact ⟨shownRow, hmem, rfl, hlive⟩
  | bootstrap limit =>
    have hreturned : shownRow ∈ repo.returned nowMs (.bootstrap limit) := h
    obtain ⟨hmem, hlive⟩ := live_of_returned hreturned
    exact ⟨shownRow, hmem, rfl, hlive⟩
  | peersExcluding knownIds limit =>
    have hreturned : shownRow ∈ repo.returned nowMs (.peersExcluding knownIds limit) := h
    obtain ⟨hmem, hlive⟩ := live_of_returned hreturned
    exact ⟨shownRow, hmem, rfl, hlive⟩
  | listPublic offset limit =>
    obtain ⟨r, hr, rfl⟩ := List.mem_map.mp h
    obtain ⟨hmem, hlive⟩ := List.mem_filter.mp ((List.mem_insertionSort _).mp
      (List.mem_of_mem_drop (List.mem_of_mem_take hr)))
    exact ⟨r, hmem, rfl, hlive⟩

/-- The node is stored as available. -/
def available (repo : MySqlRepo fold) (nodeId : String) : Bool :=
  (repo.find nodeId).any NodeRow.available

/-- A row that is available is live when it was last heard of. -/
theorem live_of_available {r : NodeRow} (h : r.available = true) :
    live (r.lastSeenMs.getD 0) r = true := by
  unfold live
  rw [h, Bool.true_and]
  cases r.lastSeenMs with
  | none => rfl
  | some seen =>
    show decide (wholeSeconds seen - 90000 ≤ seen) = true
    unfold wholeSeconds
    exact decide_eq_true (by omega)

/-- **A node is shown by no query, at any time, just where it is not
available**: there is a page of the listing for each live row. -/
theorem hidden_iff (repo : MySqlRepo fold) (nodeId : String) :
    (∀ nowMs query, ∀ r ∈ repo.shown nowMs query, fold r.id ≠ fold nodeId)
      ↔ repo.available nodeId = false := by
  constructor
  · intro h
    cases hfind : repo.find nodeId with
    | none =>
      unfold available
      rw [hfind]
      rfl
    | some r =>
      cases havailable : r.available with
      | false =>
        unfold available
        rw [hfind]
        exact havailable
      | true =>
        let nowMs := r.lastSeenMs.getD 0
        have hlisted : r ∈ (repo.activeNodes nowMs).insertionSort seenAfter :=
          (List.mem_insertionSort _).mpr (List.mem_filter.mpr
            ⟨(Table.find_eq_some_iff.mp hfind).1, live_of_available havailable⟩)
        obtain ⟨offset, hoffset, hrow⟩ := List.getElem_of_mem hlisted
        have hshown : { r with endpoint := "" } ∈ repo.shown nowMs (.listPublic offset 1) := by
          refine List.mem_map_of_mem (f := fun r : NodeRow => { r with endpoint := "" }) ?_
          show r ∈ (((repo.activeNodes nowMs).insertionSort seenAfter).drop offset).take 1
          rw [List.drop_eq_getElem_cons hoffset, hrow]
          exact List.mem_cons_self
        exact absurd (fold_id_of_find hfind)
          (h nowMs (.listPublic offset 1) { r with endpoint := "" } hshown)
  · intro h nowMs query shownRow hshown hid
    obtain ⟨r, hr, hsame, hlive⟩ := live_of_shown hshown
    have hfind : repo.find nodeId = some r :=
      Table.find_eq_some_iff.mpr ⟨hr, (congrArg fold hsame).trans hid⟩
    unfold available at h
    rw [hfind] at h
    unfold live at hlive
    rw [Bool.and_eq_true] at hlive
    exact absurd hlive.1 (Bool.not_eq_true _ ▸ h)

end MySqlRepo

/-! ## In memory -/

namespace OperatorMemory

/-- The nodes of an operator. -/
def nodeIds (m : OperatorMemory) (operatorPubkey : String) : List String :=
  (m.repo.records.filter fun r => r.node.boundTo operatorPubkey).map NodeRecord.id

/-- **The operator is withdrawn**: its identity is not active, and no query
shows one of these nodes. -/
def Withdrawn (m : OperatorMemory) (operatorPubkey : String) (ids : List String) : Prop :=
  m.operators.identityActive operatorPubkey ≠ some true
    ∧ ∀ query, ∀ n ∈ m.repo.shown query, ∀ id ∈ ids, n.nodeId ≠ id

theorem withdrawn_iff {m : OperatorMemory} {operatorPubkey : String} {ids : List String} :
    m.Withdrawn operatorPubkey ids
      ↔ m.operators.identityActive operatorPubkey ≠ some true
        ∧ ∀ id ∈ ids, m.repo.available id = false := by
  refine and_congr_right fun _ => ⟨fun h id hid => ?_, fun h query n hn id hid => ?_⟩
  · exact (m.repo.hidden_iff id).mp fun query n hn => h query n hn id hid
  · exact (m.repo.hidden_iff id).mpr (h id hid) query n hn

end OperatorMemory

namespace Operators

variable {fold : String → String}

/-- A change that leaves the status leaves who is active. -/
theorem identityActive_set (t : Operators fold) (operatorPubkey : String)
    (f : OperatorRow → OperatorRow) (hf : ∀ r, (f r).operatorPubkey = r.operatorPubkey)
    (hstatus : ∀ r, (f r).identityStatus = r.identityStatus) (key : String) :
    (t.set operatorPubkey f hf).identityActive key = t.identityActive key := by
  unfold identityActive row
  rw [find_set]
  split
  · cases t.find (fold key) with
    | none => rfl
    | some r => exact congrArg (fun status => some (status == .active)) (hstatus r)
  · rfl

theorem identityActive_set_self (t : Operators fold) (operatorPubkey : String)
    (f : OperatorRow → OperatorRow) (hf : ∀ r, (f r).operatorPubkey = r.operatorPubkey) :
    (t.set operatorPubkey f hf).identityActive operatorPubkey
      = (t.row operatorPubkey).map fun r => (f r).isActive := by
  unfold identityActive row
  rw [find_set, if_pos rfl, Option.map_map]
  rfl

theorem identityActive_rename (t : Operators fold) (operatorPubkey name key : String) :
    (t.rename operatorPubkey name).identityActive key = t.identityActive key :=
  identityActive_set t operatorPubkey (OperatorRow.named name) (fun _ => rfl) (fun _ => rfl) key

/-- An operator that is seen for the first time is active, and one that is
not is what it was. -/
theorem identityActive_insertNew {t : Operators fold} {r : OperatorRow}
    (hr : r.identityStatus = .active) {key : String} (hkey : fold r.operatorPubkey = fold key)
    (hnot : t.identityActive key ≠ some true) :
    (t.insertNew r).identityActive key ≠ some true ↔ (t.row key).isSome = true := by
  have hrow : t.row r.operatorPubkey = t.row key := by
    unfold row
    rw [hkey]
  cases hfound : t.row key with
  | none =>
    refine iff_of_false (fun hactive => hactive ?_) (by simp)
    unfold identityActive row
    rw [find_insertNew, if_pos hkey.symm, hrow, hfound]
    exact congrArg some (OperatorRow.isActive_iff.mpr hr)
  | some found =>
    refine iff_of_true ?_ rfl
    rwa [insertNew_of_isSome (by rw [hrow, hfound]; rfl)]

end Operators

namespace InMemoryRepo

theorem available_register (repo : InMemoryRepo) (rec : NodeRecord) (nodeId : String) :
    (repo.register rec).available nodeId
      = if nodeId = rec.id then rec.node.available else repo.available nodeId := by
  unfold available
  rw [find_register]
  split
  · cases repo.find rec.id <;> rfl
  · rfl

/-- The nodes of an operator, once they are hidden. -/
theorem available_subjectCleared (repo : InMemoryRepo) {operatorPubkey nodeId : String}
    (hid : nodeId ∈ (((repo.mapNodes (Node.subjectCleared operatorPubkey .restrict)
      (Node.nodeId_subjectCleared operatorPubkey .restrict)).records.filter
        fun r => r.node.boundTo operatorPubkey).map NodeRecord.id)) :
    (repo.mapNodes (Node.subjectCleared operatorPubkey .restrict)
      (Node.nodeId_subjectCleared operatorPubkey .restrict)).available nodeId = false := by
  obtain ⟨r, hr, rfl⟩ := List.mem_map.mp hid
  obtain ⟨hmem, hbound⟩ := List.mem_filter.mp hr
  unfold available
  rw [mem_records_iff.mp hmem]
  obtain ⟨old, _, rfl⟩ := List.mem_map.mp hmem
  show (old.node.subjectCleared operatorPubkey .restrict).available = false
  replace hbound : (old.node.subjectCleared operatorPubkey .restrict).boundTo operatorPubkey = true :=
    hbound
  unfold Node.subjectCleared at hbound ⊢
  split
  · rfl
  · next hfree =>
    rw [if_neg hfree] at hbound
    exact absurd hbound hfree

end InMemoryRepo

/-- A heartbeat says for itself whether its node is available. -/
theorem Heartbeats.available_receive_memory (m : MemoryNodes) (d : Delivery) (nodeId : String) :
    (receive m d).repo.available nodeId
      = if nodeId = d.req.nodeId then (m.repo.find nodeId).isSome && d.req.available.getD true
        else m.repo.available nodeId := by
  unfold InMemoryRepo.available
  rw [find_receive_memory]
  by_cases hid : nodeId = d.req.nodeId
  · rw [if_pos hid, if_pos (by simpa [named] using hid)]
    cases m.repo.find nodeId <;> rfl
  · rw [if_neg hid, if_neg (by simpa [named] using hid)]

namespace MemoryPhase

/-- The call is that of a data subject that asks to be restricted, or has
returned. -/
def Restricting (operatorPubkey trackingId : String) : MemoryPhase → Prop
  | .ready call => call = .dsr operatorPubkey .restrict trackingId
  | .subject key receipt => key = operatorPubkey ∧ receipt.action = .restrict
  | .cleared key receipt => key = operatorPubkey ∧ receipt.action = .restrict
  | .returned _ => True
  | _ => False

/-- The call is a registration under the key, or has returned. -/
def Registers (operatorPubkey : String) : MemoryPhase → Prop
  | .ready (.register r) => r.operatorPubkey = operatorPubkey
  | .checked r => r.operatorPubkey = operatorPubkey
  | .free r => r.operatorPubkey = operatorPubkey
  | .persisted r => r.operatorPubkey = operatorPubkey
  | .returned _ => True
  | _ => False

/-- The next section stores none of the nodes and makes no operator. -/
def Quiet (t : Operators id) (ids : List String) : MemoryPhase → Prop
  | .free r => r.pending.nodeId ∉ ids
  | .persisted r => (t.row r.operatorPubkey).isSome = true
  | _ => True

end MemoryPhase

namespace OperatorMemory

/-- What a call of a data subject that asks to be restricted comes to. -/
theorem restricting_advance (L : OperatorLibs) (t : MemoryStep) (m : OperatorMemory)
    {operatorPubkey trackingId : String} {p : MemoryPhase}
    (h : p.Restricting operatorPubkey trackingId) :
    (m.advance L t p).2.Restricting operatorPubkey trackingId := by
  cases p with
  | ready call =>
    obtain rfl : call = .dsr operatorPubkey .restrict trackingId := h
    show (m.start t _).2.Restricting _ _
    unfold start
    dsimp only
    split
    · exact trivial
    · exact ⟨rfl, rfl⟩
  | subject key receipt =>
    unfold advance
    dsimp only
    split
    · exact trivial
    · exact h
  | cleared key receipt =>
    show (if receipt.action = .anonymize then _ else _ : MemoryPhase).Restricting _ _
    rw [if_neg (by rw [h.2]; decide)]
    exact trivial
  | returned answer => exact trivial
  | checked r => exact h.elim
  | free r => exact h.elim
  | persisted r => exact h.elim
  | rotating old new epoch => exact h.elim
  | revoking key => exact h.elim
  | nodesCleared key receipt => exact h.elim
  | removed key r receipt => exact h.elim

/-- **The section with which it succeeds** hides the nodes, and nothing
else. -/
theorem restricted_advance (L : OperatorLibs) (t : MemoryStep) (m : OperatorMemory)
    {operatorPubkey trackingId : String} {p : MemoryPhase} {receipt : DsrReceipt}
    (h : p.Restricting operatorPubkey trackingId) (hstill : p ≠ .returned (.dsr (.ok receipt)))
    (hends : (m.advance L t p).2 = .returned (.dsr (.ok receipt))) :
    (m.advance L t p).1 = { m with
      repo := m.repo.mapNodes (Node.subjectCleared operatorPubkey .restrict)
        (Node.nodeId_subjectCleared operatorPubkey .restrict) } := by
  cases p with
  | ready call =>
    obtain rfl : call = .dsr operatorPubkey .restrict trackingId := h
    replace hends : (m.start t _).2 = .returned (.dsr (.ok receipt)) := hends
    unfold start at hends
    dsimp only at hends
    split at hends
    · exact absurd hends (by simp)
    · exact absurd hends (by simp)
  | subject key found =>
    unfold advance at hends
    dsimp only at hends
    split at hends
    · exact absurd hends (by simp)
    · exact absurd hends (by simp)
  | cleared key found =>
    obtain ⟨rfl, haction⟩ := h
    show ({ m with repo := m.repo.mapNodes (Node.subjectCleared key found.action) _ } :
      OperatorMemory) = _
    simp only [haction]
  | returned answer => exact absurd hends hstill
  | checked r => exact h.elim
  | free r => exact h.elim
  | persisted r => exact h.elim
  | rotating old new epoch => exact h.elim
  | revoking key => exact h.elim
  | nodesCleared key found => exact h.elim
  | removed key r found => exact h.elim

end OperatorMemory

/-- **The seed in memory**: the repository, the calls under way, and of each
node the batch that was counted last. -/
structure MemorySeed where
  pool : MemoryPool
  lastMetricsBatches : List (String × String)

namespace MemorySeed

/-- What happens to it. -/
inductive Action
  | advance (t : MemoryStep)
  | heartbeat (d : Delivery)
  | applyProbeRouteState (nodeId : String) (passed : Bool)
  | expireStale
  | archiveDormant (days : ℕ)

/-- **One step.** There are no times in memory, and nothing to sweep; and no
route to lose. -/
def step (L : OperatorLibs) (s : MemorySeed) : Action → MemorySeed
  | .advance t => { s with pool := s.pool.step L t }
  | .heartbeat d =>
    let nodes := Heartbeats.receive (MemoryNodes.mk s.pool.memory.repo s.lastMetricsBatches) d
    ⟨⟨{ s.pool.memory with repo := nodes.repo }, s.pool.calls⟩, nodes.lastMetricsBatches⟩
  | .applyProbeRouteState _ _ => s
  | .expireStale => s
  | .archiveDormant _ => s

/-- A heartbeat, a probe, a sweep, or a registration under the key. -/
def Ordinary (operatorPubkey : String) (s : MemorySeed) : Action → Prop
  | .advance t => (s.pool.calls t.call).Registers operatorPubkey
  | _ => True

/-- **The step shows none of the nodes and makes no operator**: a heartbeat of
one of them says that it is not available, and a registration does not come
to be stored. -/
def Quiet (ids : List String) (s : MemorySeed) : Action → Prop
  | .advance t => (s.pool.calls t.call).Quiet s.pool.memory.operators ids
  | .heartbeat d => d.req.nodeId ∈ ids → (s.pool.memory.repo.find d.req.nodeId).isSome = true →
      d.req.available = some false
  | _ => True

end MemorySeed

namespace OperatorMemory

/-- **A section of a registration leaves the operator withdrawn** just where
it is quiet. -/
theorem withdrawn_advance_iff (L : OperatorLibs) (t : MemoryStep) {m : OperatorMemory}
    {operatorPubkey : String} {ids : List String} {p : MemoryPhase}
    (hp : p.Registers operatorPubkey) (h : m.Withdrawn operatorPubkey ids) :
    (m.advance L t p).1.Withdrawn operatorPubkey ids ↔ p.Quiet m.operators ids := by
  cases p with
  | ready call =>
    cases call with
    | register r =>
      refine iff_of_true ?_ trivial
      show (m.start t _).1.Withdrawn _ _
      unfold start
      dsimp only
      split
      · exact h
      · exact h
    | rename key name => exact hp.elim
    | rotate old new requestedEpoch reasonClass => exact hp.elim
    | revoke key reasonClass => exact hp.elim
    | accept key termsVersion dpaVersion nonceSha256 => exact hp.elim
    | dsr key action trackingId => exact hp.elim
  | checked r =>
    refine iff_of_true ?_ trivial
    unfold advance
    dsimp only
    split
    · exact h
    · exact h
  | free r =>
    rw [withdrawn_iff] at h ⊢
    show (_ ∧ ∀ id ∈ ids, (m.repo.register r.pending.record).available id = false) ↔ _
    have hrecord : r.pending.record.id = r.pending.nodeId := rfl
    constructor
    · intro hstored hmem
      have hhidden := hstored.2 r.pending.nodeId hmem
      rw [InMemoryRepo.available_register, hrecord, if_pos rfl] at hhidden
      exact Bool.false_ne_true hhidden.symm
    · intro hquiet
      refine ⟨h.1, fun id hid => ?_⟩
      rw [InMemoryRepo.available_register, hrecord, if_neg]
      · exact h.2 id hid
      · rintro rfl
        exact hquiet hid
  | persisted r =>
    obtain rfl : r.operatorPubkey = operatorPubkey := hp
    show ({ m with operators := m.operators.upsertOperator r t.nowMs } :
      OperatorMemory).Withdrawn _ _ ↔ (m.operators.row r.operatorPubkey).isSome = true
    rw [withdrawn_iff] at h ⊢
    rw [and_iff_left h.2]
    show (m.operators.upsertOperator r t.nowMs).identityActive r.operatorPubkey ≠ some true ↔ _
    unfold Operators.upsertOperator
    cases hrow : m.operators.row r.operatorPubkey with
    | none =>
      have hnew : (m.operators.insertNew (r.firstRow t.nowMs)).identityActive r.operatorPubkey
          ≠ some true ↔ (m.operators.row r.operatorPubkey).isSome = true :=
        Operators.identityActive_insertNew rfl rfl h.1
      rwa [hrow] at hnew
    | some row =>
      refine iff_of_true ?_ rfl
      cases hname : r.displayName with
      | none => exact h.1
      | some name =>
        show (m.operators.rename r.operatorPubkey name).identityActive r.operatorPubkey ≠ some true
        rw [Operators.identityActive_rename]
        exact h.1
  | returned answer => exact iff_of_true h trivial
  | rotating old new epoch => exact hp.elim
  | revoking key => exact hp.elim
  | subject key receipt => exact hp.elim
  | cleared key receipt => exact hp.elim
  | nodesCleared key receipt => exact hp.elim
  | removed key r receipt => exact hp.elim

end OperatorMemory

namespace MemorySeed

/-- **A step leaves the operator withdrawn just where it is quiet.** -/
theorem withdrawn_step_iff (L : OperatorLibs) {s : MemorySeed} {action : Action}
    {operatorPubkey : String} {ids : List String} (haction : s.Ordinary operatorPubkey action)
    (h : s.pool.memory.Withdrawn operatorPubkey ids) :
    (s.step L action).pool.memory.Withdrawn operatorPubkey ids ↔ s.Quiet ids action := by
  cases action with
  | advance t => exact OperatorMemory.withdrawn_advance_iff L t haction h
  | heartbeat d =>
    rw [OperatorMemory.withdrawn_iff] at h ⊢
    show (_ ∧ ∀ id ∈ ids, (Heartbeats.receive (MemoryNodes.mk _ _) d).repo.available id = false) ↔ _
    constructor
    · intro hreceived hmem hfound
      have hhidden := hreceived.2 d.req.nodeId hmem
      rw [Heartbeats.available_receive_memory, if_pos rfl, hfound, Bool.true_and] at hhidden
      cases havailable : d.req.available with
      | none => exact absurd hhidden (by simp [havailable])
      | some available => exact congrArg some (by simpa [havailable] using hhidden)
    · intro hquiet
      refine ⟨h.1, fun id hid => ?_⟩
      rw [Heartbeats.available_receive_memory]
      split
      · next hsame =>
        subst hsame
        cases hfound : s.pool.memory.repo.find d.req.nodeId with
        | none => rfl
        | some r => simp [hquiet hid (by rw [hfound]; rfl)]
      · exact h.2 id hid
  | applyProbeRouteState nodeId passed => exact iff_of_true h trivial
  | expireStale => exact iff_of_true h trivial
  | archiveDormant days => exact iff_of_true h trivial

/-- The call ends with a step of its own, before which it had not returned. -/
theorem advance_of_ends {L : OperatorLibs} {s : MemorySeed} {i : ℕ} {first last : MemoryPhase}
    {before : List Action} {action : Action}
    (h : Run.Ends (step L) (fun s => s.pool.calls i) first last s before action) :
    ∃ t : MemoryStep, action = .advance t ∧ t.call = i := by
  have hmoved : (step L (Run.after (step L) s before) action).pool.calls i
      ≠ (Run.after (step L) s before).pool.calls i := by
    intro hsame
    exact h.still (hsame.symm.trans h.ends)
  cases action with
  | advance t =>
    refine ⟨t, rfl, ?_⟩
    by_contra hcall
    exact hmoved (MemoryPool.calls_step_of_ne L _ t fun hi => hcall hi.symm)
  | heartbeat d => exact absurd rfl hmoved
  | applyProbeRouteState nodeId passed => exact absurd rfl hmoved
  | expireStale => exact absurd rfl hmoved
  | archiveDormant days => exact absurd rfl hmoved

/-- **A restriction succeeds**: a call that asks for it ends with this step,
and the others had theirs before. -/
def Restricts (L : OperatorLibs) (s : MemorySeed) (operatorPubkey : String) (before : List Action)
    (action : Action) : Prop :=
  ∃ i trackingId receipt, Run.Ends (step L) (fun s => s.pool.calls i)
    (.ready (.dsr operatorPubkey .restrict trackingId)) (.returned (.dsr (.ok receipt))) s before
    action

/-- **What it leaves**: the nodes are hidden, and the identity is what it
was. -/
theorem withdrawn_of_restricted (L : OperatorLibs) {s : MemorySeed} {operatorPubkey : String}
    {before : List Action} {action : Action} (h : s.Restricts L operatorPubkey before action) :
    let m := (Run.after (step L) s before).pool.memory
    let m' := (step L (Run.after (step L) s before) action).pool.memory
    m'.Withdrawn operatorPubkey (m'.nodeIds operatorPubkey)
      ↔ m.operators.identityActive operatorPubkey ≠ some true := by
  intro m m'
  obtain ⟨i, trackingId, receipt, h⟩ := h
  obtain ⟨t, rfl, rfl⟩ := advance_of_ends h
  have hphase : ((Run.after (step L) s before).pool.calls t.call).Restricting operatorPubkey
      trackingId := by
    refine h.before (P := MemoryPhase.Restricting operatorPubkey trackingId) rfl ?_
    intro s action hs
    cases action with
    | advance t' =>
      by_cases hcall : t.call = t'.call
      · show ((s.pool.step L t').calls t.call).Restricting _ _
        rw [hcall, MemoryPool.calls_step_self]
        rw [hcall] at hs
        exact OperatorMemory.restricting_advance L t' s.pool.memory hs
      · show ((s.pool.step L t').calls t.call).Restricting _ _
        rw [MemoryPool.calls_step_of_ne L s.pool t' hcall]
        exact hs
    | heartbeat d => exact hs
    | applyProbeRouteState nodeId passed => exact hs
    | expireStale => exact hs
    | archiveDormant days => exact hs
  have hends : (m.advance L t ((Run.after (step L) s before).pool.calls t.call)).2
      = .returned (.dsr (.ok receipt)) :=
    (MemoryPool.calls_step_self L _ t).symm.trans h.ends
  have hm' : m' = { m with
      repo := m.repo.mapNodes (Node.subjectCleared operatorPubkey .restrict)
        (Node.nodeId_subjectCleared operatorPubkey .restrict) } :=
    OperatorMemory.restricted_advance L t m hphase h.still hends
  rw [OperatorMemory.withdrawn_iff, hm']
  refine and_iff_left fun id hid => ?_
  exact InMemoryRepo.available_subjectCleared m.repo hid

/-- **In memory the operator stays withdrawn** just where its identity was
retired by another call before the restriction succeeded, and each step is
quiet. -/
theorem withdrawn_iff (L : OperatorLibs) {s : MemorySeed} {operatorPubkey : String}
    {before : List Action} {action : Action} (h : s.Restricts L operatorPubkey before action) :
    let restricted := step L (Run.after (step L) s before) action
    let ids := restricted.pool.memory.nodeIds operatorPubkey
    ∀ later, Run.Along (step L) (Ordinary operatorPubkey) restricted later →
      ((∀ n, (Run.after (step L) restricted (later.take n)).pool.memory.Withdrawn operatorPubkey ids)
        ↔ (Run.after (step L) s before).pool.memory.operators.identityActive operatorPubkey
            ≠ some true
          ∧ Run.Along (step L) (Quiet ids) restricted later) := by
  intro restricted ids later hlater
  have hstep : ∀ (s : MemorySeed) (action : Action), s.Ordinary operatorPubkey action →
      s.pool.memory.Withdrawn operatorPubkey ids →
        ((s.step L action).pool.memory.Withdrawn operatorPubkey ids ↔ s.Quiet ids action) :=
    fun _ _ haction hs => withdrawn_step_iff L haction hs
  exact (Run.always_iff_of_kind hstep hlater).trans
    (and_congr_left' (withdrawn_of_restricted L h))

end MemorySeed

/-! ## In the tables -/

namespace OperatorTables

variable {fold : String → String}

/-- **The operator is withdrawn**: its identity is not active, and no query
shows one of these nodes, at any time. -/
def Withdrawn (db : OperatorTables fold) (operatorPubkey : String) (ids : List String) : Prop :=
  db.operators.identityActive operatorPubkey ≠ some true
    ∧ ∀ nowMs query, ∀ r ∈ db.repo.shown nowMs query, ∀ id ∈ ids, fold r.id ≠ fold id

theorem withdrawn_iff {db : OperatorTables fold} {operatorPubkey : String} {ids : List String} :
    db.Withdrawn operatorPubkey ids
      ↔ db.operators.identityActive operatorPubkey ≠ some true
        ∧ ∀ id ∈ ids, db.repo.available id = false := by
  refine and_congr_right fun _ => ⟨fun h id hid => ?_, fun h nowMs query r hr id hid => ?_⟩
  · exact (db.repo.hidden_iff id).mp fun nowMs query r hr => h nowMs query r hr id hid
  · exact (db.repo.hidden_iff id).mpr (h id hid) nowMs query r hr

end OperatorTables

namespace MySqlRepo

variable {fold : String → String}

theorem available_registered (repo : MySqlRepo fold) (p : PendingRegistration) (nodeId : String) :
    (repo.registered p).available nodeId
      = if fold nodeId = fold p.nodeId then true else repo.available nodeId := by
  unfold available
  rw [find_registered]
  split
  · cases repo.find p.nodeId <;> rfl
  · rfl

/-- A heartbeat says for itself whether its node is available. -/
theorem available_heartbeatOnce (repo : MySqlRepo fold) (req : HeartbeatRequest) (nowMs : ℤ)
    (nodeId : String) :
    (((repo.heartbeatOnce req nowMs).map Prod.snd).getD repo).available nodeId
      = if fold nodeId = fold req.nodeId then
          (repo.find nodeId).isSome && req.available.getD true
        else repo.available nodeId := by
  cases hbeat : repo.heartbeatOnce req nowMs with
  | none =>
    have hunknown : repo.find req.nodeId = none := by simpa [heartbeatOnce] using hbeat
    show repo.available nodeId = _
    split
    · next hfold =>
      unfold available
      rw [repo.find_congr hfold, hunknown]
      rfl
    · rfl
  | some found =>
    obtain ⟨row, repo'⟩ := found
    show repo'.available nodeId = _
    unfold available
    rw [(find_heartbeatOnce hbeat nodeId).2]
    split
    · cases repo.find nodeId <;> rfl
    · rfl

/-- A probe writes the route. -/
theorem available_applyProbeRouteState (repo : MySqlRepo fold) (probed : String) (passed : Bool)
    (nowMs : ℤ) (nodeId : String) :
    (((repo.applyProbeRouteState probed passed nowMs).map Prod.snd).getD repo).available nodeId
      = repo.available nodeId := by
  cases hprobe : repo.applyProbeRouteState probed passed nowMs with
  | none => rfl
  | some found =>
    obtain ⟨row, repo'⟩ := found
    show repo'.available nodeId = _
    unfold available
    rw [(find_applyProbeRouteState hprobe nodeId).2]
    split
    · cases repo.find nodeId with
      | none => rfl
      | some r =>
        show (routeRow nowMs r (transitionOf r passed)).available = r.available
        cases transitionOf r passed <;> rfl
    · rfl

/-- The sweep hides what it makes dormant. -/
theorem available_markDormant {repo : MySqlRepo fold} {nodeId : String}
    (h : repo.available nodeId = false) (ids : List String) (nowMs : ℤ) :
    (repo.markDormant ids nowMs).available nodeId = false := by
  unfold available at h ⊢
  rw [find_markDormant]
  cases hfind : repo.find nodeId with
  | none => rfl
  | some r =>
    rw [hfind] at h
    show (if _ then dormantRow nowMs r else r).available = false
    split
    · rfl
    · exact h

theorem available_archiveDormant (repo : MySqlRepo fold) (nowMs : ℤ) (days : ℕ) (nodeId : String) :
    (repo.archiveDormant nowMs days).available nodeId = repo.available nodeId := by
  unfold available
  rw [find_archiveDormant]
  cases repo.find nodeId with
  | none => rfl
  | some r =>
    show (if _ then _ else _ : NodeRow).available = r.available
    split <;> rfl

end MySqlRepo

namespace TablesPhase

/-- The call is that of a data subject that asks to be restricted, or has
returned. -/
def Restricting (operatorPubkey trackingId : String) : TablesPhase → Prop
  | .ready call => call = .dsr operatorPubkey .restrict trackingId
  | .subject key action _ _ => key = operatorPubkey ∧ action = .restrict
  | .returned _ => True
  | _ => False

/-- The call is a registration under the key, or has returned. -/
def Registers (fold : String → String) (operatorPubkey : String) : TablesPhase → Prop
  | .ready (.register r) => fold r.operatorPubkey = fold operatorPubkey
  | .checked r => fold r.operatorPubkey = fold operatorPubkey
  | .free r => fold r.operatorPubkey = fold operatorPubkey
  | .persisted r => fold r.operatorPubkey = fold operatorPubkey
  | .looked r _ => fold r.operatorPubkey = fold operatorPubkey
  | .returned _ => True
  | _ => False

/-- The next turn stores none of the nodes and makes no operator. -/
def Quiet {fold : String → String} (t : Turn) (operators : Operators fold) (ids : List String) :
    TablesPhase → Prop
  | .free r => t.server.carries 1 = true → ∀ id ∈ ids, fold id ≠ fold r.pending.nodeId
  | .looked r known => known = false → t.server.executes = true →
      OperatorTables.rowFits (r.firstRow t.nowMs) = true →
        (operators.row r.operatorPubkey).isSome = true
  | _ => True

end TablesPhase

namespace OperatorTables

variable {fold : String → String}

theorem withdrawn_setDisplayName {db : OperatorTables fold} {operatorPubkey : String}
    {ids : List String} (h : db.Withdrawn operatorPubkey ids) (server : Server)
    (key name : String) : (db.setDisplayName server key name).Withdrawn operatorPubkey ids := by
  unfold setDisplayName
  split
  · refine ⟨?_, h.2⟩
    show (db.operators.rename key name).identityActive operatorPubkey ≠ some true
    rw [Operators.identityActive_rename]
    exact h.1
  · exact h

/-- An insertion of the operator leaves it withdrawn just where it inserts
nothing. -/
theorem withdrawn_insertFirst_iff {db : OperatorTables fold} {operatorPubkey : String}
    {ids : List String} {r : OperatorRow} (hr : r.identityStatus = .active)
    (hkey : fold r.operatorPubkey = fold operatorPubkey) (h : db.Withdrawn operatorPubkey ids)
    (server : Server) :
    (db.insertFirst server r).Withdrawn operatorPubkey ids
      ↔ (server.executes = true → rowFits r = true →
        (db.operators.row r.operatorPubkey).isSome = true) := by
  have hrow : db.operators.row r.operatorPubkey = db.operators.row operatorPubkey := by
    unfold Operators.row
    rw [hkey]
  unfold insertFirst
  split
  · next hinserts =>
    rw [Bool.and_eq_true] at hinserts
    have hnew := Operators.identityActive_insertNew hr hkey h.1
    rw [hrow]
    exact ⟨fun hwithdrawn _ _ => hnew.mp hwithdrawn.1,
      fun hknown => ⟨hnew.mpr (hknown hinserts.1 hinserts.2), h.2⟩⟩
  · next hidle =>
    rw [Bool.and_eq_true] at hidle
    exact iff_of_true h fun hexecutes hfits => absurd ⟨hexecutes, hfits⟩ hidle

/-- **A turn of a registration leaves the operator withdrawn** just where it
is quiet. -/
theorem withdrawn_advance_iff (L : OperatorLibs) (t : Turn) {db : OperatorTables fold}
    {operatorPubkey : String} {ids : List String} {p : TablesPhase}
    (hp : p.Registers fold operatorPubkey) (h : db.Withdrawn operatorPubkey ids) :
    (db.advance L t p).1.Withdrawn operatorPubkey ids ↔ p.Quiet t db.operators ids := by
  cases p with
  | ready call =>
    cases call with
    | register r =>
      refine iff_of_true ?_ trivial
      show (db.start L t _).1.Withdrawn _ _
      unfold start
      dsimp only
      split
      · exact h
      · exact h
    | rename key name => exact hp.elim
    | rotate old new requestedEpoch reasonClass => exact hp.elim
    | revoke key reasonClass => exact hp.elim
    | accept key termsVersion dpaVersion nonceSha256 => exact hp.elim
    | dsr key action trackingId => exact hp.elim
  | checked r =>
    refine iff_of_true ?_ trivial
    unfold advance
    dsimp only
    split
    · exact h
    · exact h
  | free r =>
    show (Transaction.run t.server [fun db => some (db.persist r.pending)] db).2.Withdrawn _ _ ↔ _
    cases hcarries : t.server.carries 1 with
    | false =>
      rw [Transaction.run_of_not_carried hcarries]
      exact iff_of_true h fun hstored => absurd (hcarries.symm.trans hstored) Bool.false_ne_true
    | true =>
      have hrun : (Transaction.run t.server [fun db => some (db.persist r.pending)] db).2
          = db.persist r.pending := Transaction.snd_run_of_carried hcarries rfl
      rw [hrun]
      rw [withdrawn_iff] at h ⊢
      show (_ ∧ ∀ id ∈ ids, (db.repo.registered r.pending).available id = false) ↔ _
      constructor
      · intro hstored _ id hid hsame
        have hhidden := hstored.2 id hid
        rw [MySqlRepo.available_registered, if_pos hsame] at hhidden
        exact Bool.false_ne_true hhidden.symm
      · intro hquiet
        refine ⟨h.1, fun id hid => ?_⟩
        rw [MySqlRepo.available_registered, if_neg (hquiet hcarries id hid)]
        exact h.2 id hid
  | persisted r => exact iff_of_true h trivial
  | looked r known =>
    cases known with
    | true =>
      refine iff_of_true ?_ fun hunknown => absurd hunknown.symm Bool.false_ne_true
      show (r.displayName.elim db fun name =>
        db.setDisplayName t.server r.operatorPubkey name).Withdrawn _ _
      cases r.displayName with
      | none => exact h
      | some name => exact withdrawn_setDisplayName h t.server r.operatorPubkey name
    | false =>
      show (db.insertFirst t.server (r.firstRow t.nowMs)).Withdrawn _ _ ↔ _
      rw [withdrawn_insertFirst_iff (r := r.firstRow t.nowMs) rfl hp h]
      exact ⟨fun hknown _ => hknown, fun hquiet => hquiet rfl⟩
  | found key name => exact hp.elim
  | accepted key => exact hp.elim
  | acceptRefused key => exact hp.elim
  | subject key action trackingId ids => exact hp.elim
  | returned answer => exact iff_of_true h trivial

/-- An update of what the rows say of their operator, that leaves who it is. -/
theorem nodeIds_updateBound (db : OperatorTables fold) (operatorPubkey : String)
    {f : NodeBinding → NodeBinding} (hf : ∀ b, (f b).nodeId = b.nodeId)
    (hbound : ∀ b, (f b).operatorPubkey = b.operatorPubkey) :
    (db.updateBound operatorPubkey f hf).nodeIds operatorPubkey = db.nodeIds operatorPubkey := by
  have hsame : boundTo fold operatorPubkey
      ∘ (fun b => if boundTo fold operatorPubkey b then f b else b)
      = boundTo fold operatorPubkey := by
    funext b
    show boundTo fold operatorPubkey (if _ then f b else b) = _
    split
    · show (f b).operatorPubkey.any _ = b.operatorPubkey.any _
      rw [hbound]
    · rfl
  have hid : NodeBinding.nodeId ∘ (fun b => if boundTo fold operatorPubkey b then f b else b)
      = NodeBinding.nodeId := by
    funext b
    show (if _ then f b else b : NodeBinding).nodeId = b.nodeId
    split
    · exact hf b
    · rfl
  show ((db.bindings.rows.map _).filter _).map _ = _
  rw [List.filter_map, hsame, List.map_map, hid]
  rfl

/-- **What the statements of a restriction make.** -/
theorem of_restriction {L : OperatorLibs} {operatorPubkey trackingId : String} {ids : List String}
    {nowMs : ℤ} {a : DataSubjectAction} {db db' : OperatorTables fold}
    (h : List.foldlM (fun s statement => statement s) db
      (dsrBody L operatorPubkey .restrict trackingId ids nowMs ++ [insertDsrAction a])
        = some db') :
    db'.repo = RouteDb.restrict (db.nodeIds operatorPubkey) nowMs db.repo
      ∧ db'.operators = db.operators.set operatorPubkey (restrictedRow .restrict) (fun _ => rfl)
      ∧ db'.nodeIds operatorPubkey = db.nodeIds operatorPubkey := by
  let hidden : OperatorTables fold :=
    { db.updateBound operatorPubkey (fun b => { b with
        publicListing := false
        operatorUrl := none }) fun _ => rfl with
      repo := RouteDb.restrict (db.nodeIds operatorPubkey) nowMs db.repo }
  have hrecorded : ∃ recorded, insertDsrAction a
      (hidden.setOperator operatorPubkey (restrictedRow .restrict) fun _ => rfl) = some recorded
        ∧ some recorded = some db' := by
    cases ids with
    | nil => exact Option.bind_eq_some_iff.mp h
    | cons id rest => exact Option.bind_eq_some_iff.mp h
  obtain ⟨recorded, hinserted, hend⟩ := hrecorded
  obtain rfl := Option.some.inj hend
  unfold insertDsrAction at hinserted
  split at hinserted
  · exact absurd hinserted (by simp)
  · obtain rfl := Option.some.inj hinserted
    have hids := db.nodeIds_updateBound operatorPubkey
      (f := fun b => { b with publicListing := false, operatorUrl := none }) (fun _ => rfl)
      fun _ => rfl
    exact ⟨rfl, rfl, hids⟩

/-- **A restriction that is carried through withdraws the operator.** -/
theorem withdrawn_of_restriction {L : OperatorLibs} {operatorPubkey trackingId : String}
    {ids : List String} {nowMs : ℤ} {a : DataSubjectAction} {db db' : OperatorTables fold}
    (h : List.foldlM (fun s statement => statement s) db
      (dsrBody L operatorPubkey .restrict trackingId ids nowMs ++ [insertDsrAction a])
        = some db') :
    db'.Withdrawn operatorPubkey (db'.nodeIds operatorPubkey) := by
  obtain ⟨hrepo, hoperators, hids⟩ := of_restriction h
  rw [withdrawn_iff, hrepo, hoperators, hids]
  constructor
  · intro hactive
    have hrow := Operators.identityActive_set_self db.operators operatorPubkey
      (restrictedRow .restrict) fun _ => rfl
    have hmap := hrow.symm.trans hactive
    obtain ⟨r, -, hr⟩ := Option.map_eq_some_iff.mp hmap
    exact absurd hr Bool.false_ne_true
  · intro id hid
    have hbound : ((db.nodeIds operatorPubkey).any fun other => fold other == fold id) = true :=
      List.any_eq_true.mpr ⟨id, hid, beq_self_eq_true _⟩
    unfold MySqlRepo.available
    rw [RouteDb.find_restrict, hbound]
    cases db.repo.find id <;> rfl

/-- What a call of a data subject that asks to be restricted comes to. -/
theorem restricting_advance (L : OperatorLibs) (t : Turn) (db : OperatorTables fold)
    {operatorPubkey trackingId : String} {p : TablesPhase}
    (h : p.Restricting operatorPubkey trackingId) :
    (db.advance L t p).2.Restricting operatorPubkey trackingId := by
  cases p with
  | ready call =>
    obtain rfl : call = .dsr operatorPubkey .restrict trackingId := h
    show (db.start L t _).2.Restricting _ _
    unfold start
    dsimp only
    split
    · exact trivial
    · exact ⟨rfl, rfl⟩
  | subject key action trackingId ids => exact trivial
  | returned answer => exact trivial
  | checked r => exact h.elim
  | free r => exact h.elim
  | persisted r => exact h.elim
  | looked r known => exact h.elim
  | found key name => exact h.elim
  | accepted key => exact h.elim
  | acceptRefused key => exact h.elim

/-- **The turn with which it succeeds** withdraws the operator. -/
theorem withdrawn_advance (L : OperatorLibs) (t : Turn) (db : OperatorTables fold)
    {operatorPubkey trackingId : String} {p : TablesPhase} {receipt : DsrReceipt}
    (h : p.Restricting operatorPubkey trackingId) (hstill : p ≠ .returned (.dsr (.ok receipt)))
    (hends : (db.advance L t p).2 = .returned (.dsr (.ok receipt))) :
    (db.advance L t p).1.Withdrawn operatorPubkey
      ((db.advance L t p).1.nodeIds operatorPubkey) := by
  cases p with
  | ready call =>
    obtain rfl : call = .dsr operatorPubkey .restrict trackingId := h
    replace hends : (db.start L t _).2 = .returned (.dsr (.ok receipt)) := hends
    unfold start at hends
    dsimp only at hends
    split at hends
    · exact absurd hends (by simp)
    · exact absurd hends (by simp)
  | subject key action trackingId ids =>
    obtain ⟨rfl, rfl⟩ := h
    show (db.mutateDsr L t key .restrict trackingId ids).2.Withdrawn key
      ((db.mutateDsr L t key .restrict trackingId ids).2.nodeIds key)
    replace hends : TablesPhase.returned
      (.dsr (db.mutateDsr L t key .restrict trackingId ids).1) = .returned (.dsr (.ok receipt)) :=
      hends
    unfold mutateDsr at hends ⊢
    dsimp only at hends ⊢
    cases hrun : Transaction.run t.server (dsrBody L key .restrict trackingId ids t.nowMs
        ++ [insertDsrAction ⟨trackingId, .restrict, ids.length⟩]) db with
    | mk succeeded db' =>
      cases succeeded with
      | false =>
        rw [hrun, if_neg Bool.false_ne_true] at hends
        split at hends
        · exact absurd hends (by simp)
        · exact absurd hends (by simp)
      | true =>
        exact withdrawn_of_restriction
          (Transaction.foldlM_of_reached (Transaction.run_eq_true_iff.mp hrun).1)
  | returned answer => exact absurd hends hstill
  | checked r => exact h.elim
  | free r => exact h.elim
  | persisted r => exact h.elim
  | looked r known => exact h.elim
  | found key name => exact h.elim
  | accepted key => exact h.elim
  | acceptRefused key => exact h.elim

end OperatorTables

namespace OperatorPool

variable {fold : String → String}

/-- A heartbeat, a probe, a sweep, or a registration under the key. -/
def Ordinary (operatorPubkey : String) (s : OperatorPool fold) : PoolAction → Prop
  | .advance call _ => (s.calls call).Registers fold operatorPubkey
  | _ => True

/-- **The step shows none of the nodes and makes no operator**, as in
memory. -/
def Quiet (ids : List String) (s : OperatorPool fold) : PoolAction → Prop
  | .advance call t => (s.calls call).Quiet t s.tables.operators ids
  | .heartbeat req _ => ∀ id ∈ ids, fold id = fold req.nodeId →
      (s.tables.repo.find id).isSome = true → req.available = some false
  | _ => True

/-- A statement about the nodes leaves the operator withdrawn, if it leaves
the nodes unavailable. -/
theorem withdrawn_nodesAfter {s : OperatorPool fold} {operatorPubkey : String} {ids : List String}
    (h : s.tables.Withdrawn operatorPubkey ids) (action : PoolAction)
    (havailable : ∀ id, s.tables.repo.available id = false →
      (s.nodesAfter action).available id = false) :
    ({ s.tables with repo := s.nodesAfter action } : OperatorTables fold).Withdrawn operatorPubkey
      ids := by
  rw [OperatorTables.withdrawn_iff] at h ⊢
  exact ⟨h.1, fun id hid => havailable id (h.2 id hid)⟩

/-- **A step leaves the operator withdrawn just where it is quiet.** -/
theorem withdrawn_step_iff (L : OperatorLibs) {s : OperatorPool fold} {action : PoolAction}
    {operatorPubkey : String} {ids : List String} (haction : s.Ordinary operatorPubkey action)
    (h : s.tables.Withdrawn operatorPubkey ids) :
    (step L s action).tables.Withdrawn operatorPubkey ids ↔ s.Quiet ids action := by
  cases action with
  | advance call t => exact OperatorTables.withdrawn_advance_iff L t haction h
  | heartbeat req nowMs =>
    rw [OperatorTables.withdrawn_iff] at h ⊢
    show (_ ∧ ∀ id ∈ ids, (((s.tables.repo.heartbeatOnce req nowMs).map Prod.snd).getD
      s.tables.repo).available id = false) ↔ _
    constructor
    · intro hreceived id hid hfold hfound
      have hhidden := hreceived.2 id hid
      rw [MySqlRepo.available_heartbeatOnce, if_pos hfold, hfound, Bool.true_and] at hhidden
      cases havailable : req.available with
      | none => exact absurd hhidden (by simp [havailable])
      | some available => exact congrArg some (by simpa [havailable] using hhidden)
    · intro hquiet
      refine ⟨h.1, fun id hid => ?_⟩
      rw [MySqlRepo.available_heartbeatOnce]
      split
      · next hfold =>
        cases hfound : s.tables.repo.find id with
        | none => rfl
        | some r => simp [hquiet id hid hfold (by rw [hfound]; rfl)]
      · exact h.2 id hid
  | applyProbeRouteState nodeId passed nowMs =>
    refine iff_of_true (withdrawn_nodesAfter h _ fun id hhidden => ?_) trivial
    exact (s.tables.repo.available_applyProbeRouteState nodeId passed nowMs id).trans hhidden
  | selectStale nowMs => exact iff_of_true h trivial
  | markDormant nowMs =>
    refine iff_of_true (withdrawn_nodesAfter h _ fun id hhidden => ?_) trivial
    exact MySqlRepo.available_markDormant hhidden s.selected nowMs
  | archiveDormant nowMs days =>
    refine iff_of_true (withdrawn_nodesAfter h _ fun id hhidden => ?_) trivial
    exact (s.tables.repo.available_archiveDormant nowMs days id).trans hhidden

theorem calls_step_of_ne (L : OperatorLibs) (s : OperatorPool fold) {call i : ℕ} (t : Turn)
    (h : i ≠ call) : (step L s (.advance call t)).calls i = s.calls i :=
  Function.update_of_ne h ..

theorem calls_step_self (L : OperatorLibs) (s : OperatorPool fold) (call : ℕ) (t : Turn) :
    (step L s (.advance call t)).calls call = (s.tables.advance L t (s.calls call)).2 :=
  Function.update_self ..

/-- The call ends with a turn of its own. -/
theorem advance_of_ends {L : OperatorLibs} {s : OperatorPool fold} {i : ℕ}
    {first last : TablesPhase} {before : List PoolAction} {action : PoolAction}
    (h : Run.Ends (step L) (fun s => s.calls i) first last s before action) :
    ∃ t, action = .advance i t := by
  have hmoved : (step L (Run.after (step L) s before) action).calls i
      ≠ (Run.after (step L) s before).calls i := by
    intro hsame
    exact h.still (hsame.symm.trans h.ends)
  cases action with
  | advance call t =>
    by_cases hcall : i = call
    · exact ⟨t, by rw [hcall]⟩
    · exact absurd (calls_step_of_ne L _ t hcall) hmoved
  | heartbeat req nowMs => exact absurd rfl hmoved
  | applyProbeRouteState nodeId passed nowMs => exact absurd rfl hmoved
  | selectStale nowMs => exact absurd rfl hmoved
  | markDormant nowMs => exact absurd rfl hmoved
  | archiveDormant nowMs days => exact absurd rfl hmoved

/-- **A restriction succeeds**, as in memory. -/
def Restricts (L : OperatorLibs) (s : OperatorPool fold) (operatorPubkey : String)
    (before : List PoolAction) (action : PoolAction) : Prop :=
  ∃ i trackingId receipt, Run.Ends (step L) (fun s => s.calls i)
    (.ready (.dsr operatorPubkey .restrict trackingId)) (.returned (.dsr (.ok receipt))) s before
    action

/-- **What it leaves** is an operator that is withdrawn. -/
theorem withdrawn_of_restricted (L : OperatorLibs) {s : OperatorPool fold} {operatorPubkey : String}
    {before : List PoolAction} {action : PoolAction}
    (h : s.Restricts L operatorPubkey before action) :
    let db := (step L (Run.after (step L) s before) action).tables
    db.Withdrawn operatorPubkey (db.nodeIds operatorPubkey) := by
  obtain ⟨i, trackingId, receipt, h⟩ := h
  obtain ⟨t, rfl⟩ := advance_of_ends h
  have hphase : ((Run.after (step L) s before).calls i).Restricting operatorPubkey trackingId := by
    refine h.before (P := TablesPhase.Restricting operatorPubkey trackingId) rfl ?_
    intro s action hs
    cases action with
    | advance call t' =>
      by_cases hcall : i = call
      · subst hcall
        rw [calls_step_self]
        exact OperatorTables.restricting_advance L t' s.tables hs
      · rw [calls_step_of_ne L s t' hcall]
        exact hs
    | heartbeat req nowMs => exact hs
    | applyProbeRouteState nodeId passed nowMs => exact hs
    | selectStale nowMs => exact hs
    | markDormant nowMs => exact hs
    | archiveDormant nowMs days => exact hs
  exact OperatorTables.withdrawn_advance L t _ hphase h.still
    ((calls_step_self L _ i t).symm.trans h.ends)

/-- **In the tables the operator stays withdrawn** just where each step is
quiet. -/
theorem withdrawn_iff (L : OperatorLibs) {s : OperatorPool fold} {operatorPubkey : String}
    {before : List PoolAction} {action : PoolAction}
    (h : s.Restricts L operatorPubkey before action) :
    let restricted := step L (Run.after (step L) s before) action
    let ids := restricted.tables.nodeIds operatorPubkey
    ∀ later, Run.Along (step L) (Ordinary operatorPubkey) restricted later →
      ((∀ n, (Run.after (step L) restricted (later.take n)).tables.Withdrawn operatorPubkey ids)
        ↔ Run.Along (step L) (Quiet ids) restricted later) := by
  intro restricted ids later hlater
  have hstep : ∀ (s : OperatorPool fold) (action : PoolAction), s.Ordinary operatorPubkey action →
      s.tables.Withdrawn operatorPubkey ids →
        ((step L s action).tables.Withdrawn operatorPubkey ids ↔ s.Quiet ids action) :=
    fun _ _ haction hs => withdrawn_step_iff L haction hs
  exact (Run.always_iff_of_kind hstep hlater).trans
    (and_iff_right (withdrawn_of_restricted L h))

end OperatorPool

/-- **A restriction sticks**, through heartbeats, probes, sweeps and attempts
to register under the key, exactly in the runs whose steps are quiet; and in
memory the identity must have been retired by another call before the
restriction succeeded. -/
theorem restriction_sticks_iff (L : OperatorLibs) :
    (∀ (s : MemorySeed) (operatorPubkey : String) (before : List MemorySeed.Action)
        (action : MemorySeed.Action), s.Restricts L operatorPubkey before action →
      let restricted := MemorySeed.step L (Run.after (MemorySeed.step L) s before) action
      let ids := restricted.pool.memory.nodeIds operatorPubkey
      ∀ later,
        Run.Along (MemorySeed.step L) (MemorySeed.Ordinary operatorPubkey) restricted later →
          ((∀ n, (Run.after (MemorySeed.step L) restricted
              (later.take n)).pool.memory.Withdrawn operatorPubkey ids)
            ↔ (Run.after (MemorySeed.step L) s before).pool.memory.operators.identityActive
                operatorPubkey ≠ some true
              ∧ Run.Along (MemorySeed.step L) (MemorySeed.Quiet ids) restricted later))
      ∧ ∀ (fold : String → String) (s : OperatorPool fold) (operatorPubkey : String)
          (before : List PoolAction) (action : PoolAction),
          s.Restricts L operatorPubkey before action →
        let restricted := OperatorPool.step L (Run.after (OperatorPool.step L) s before) action
        let ids := restricted.tables.nodeIds operatorPubkey
        ∀ later,
          Run.Along (OperatorPool.step L) (OperatorPool.Ordinary operatorPubkey) restricted later →
            ((∀ n, (Run.after (OperatorPool.step L) restricted
                (later.take n)).tables.Withdrawn operatorPubkey ids)
              ↔ Run.Along (OperatorPool.step L) (OperatorPool.Quiet ids) restricted later) :=
  ⟨fun _ _ _ _ h => MemorySeed.withdrawn_iff L h,
    fun _ _ _ _ _ h => OperatorPool.withdrawn_iff L h⟩

namespace Sample

/-- A data subject that asks to be restricted; its operator registers again,
or revokes its key. -/
def restrictedCalls (again : OperatorCall) : ℕ → OperatorCall
  | 0 => .dsr "key-1" .restrict "dsr-1"
  | _ => again

/-- An operator with a node, in memory, -/
def operatorInMemory (again : OperatorCall) : MemorySeed where
  pool :=
    ⟨⟨InMemoryRepo.empty.register (operatorRegistration "n1" "key-1" "Ada").pending.record,
      Operators.insertNew (.empty _) (Operators.firstRow "key-1" none none none 0)⟩,
      fun i => .ready (restrictedCalls again i)⟩
  lastMetricsBatches := []

/-- and in the tables. -/
def operatorInTables (again : OperatorCall) : OperatorPool id where
  tables := oneOperator.persist (operatorRegistration "n1" "key-1" "Ada").pending
  selected := []
  calls i := .ready (restrictedCalls again i)

/-- The next section of a call, -/
def nextSection (call : ℕ) : MemorySeed.Action := .advance ⟨call, 0, ""⟩

/-- and the next turn. -/
def nextTurn (call : ℕ) : PoolAction := .advance call ⟨.willing, 0, ""⟩

end Sample

/-- In memory, of an operator that revokes its key before it is restricted;
in the tables, of one that then tries to register again. The nodes send a
last heartbeat, and are probed and swept. -/
theorem restricted_stays_hidden :
    (let step := MemorySeed.step Sample.operatorLibs
      let s := Sample.operatorInMemory (.revoke "key-1" "compromised")
      let restricted := step (Run.after step s ([0, 1, 1, 0].map Sample.nextSection))
        (Sample.nextSection 0)
      let later := [.heartbeat ⟨{ nodeId := "n1", available := some false }, 1000⟩,
        .applyProbeRouteState "n1" true, .expireStale]
      restricted.pool.memory.nodeIds "key-1" = ["n1"]
        ∧ ∀ n, (Run.after step restricted (later.take n)).pool.memory.Withdrawn "key-1"
          (restricted.pool.memory.nodeIds "key-1"))
      ∧ (let step := @OperatorPool.step id Sample.operatorLibs
        let s := Sample.operatorInTables (.register (Sample.operatorRegistration "n1" "key-1" "Ada"))
        let restricted := step (Run.after step s [Sample.nextTurn 0]) (Sample.nextTurn 0)
        let later := [.heartbeat { nodeId := "n1", available := some false } 1000, Sample.nextTurn 1,
          .applyProbeRouteState "n1" true 2000, .selectStale 200000, .markDormant 200000]
        restricted.tables.nodeIds "key-1" = ["n1"]
          ∧ ∀ n, (Run.after step restricted (later.take n)).tables.Withdrawn "key-1"
            (restricted.tables.nodeIds "key-1")) := by
  refine ⟨⟨rfl, ?_⟩, ⟨rfl, ?_⟩⟩
  · have hrestricts : (Sample.operatorInMemory (.revoke "key-1" "compromised")).Restricts
        Sample.operatorLibs "key-1" ([0, 1, 1, 0].map Sample.nextSection) (Sample.nextSection 0) :=
      ⟨0, "dsr-1", ⟨.restrict, "dsr-1", 1⟩, rfl, nofun, rfl⟩
    refine ((restriction_sticks_iff Sample.operatorLibs).1 _ _ _ _ hrestricts _ ?_).mpr ?_
    · exact ⟨trivial, trivial, trivial, trivial⟩
    · exact ⟨by decide, fun _ _ => rfl, trivial, trivial, trivial⟩
  · have hrestricts : (Sample.operatorInTables
        (.register (Sample.operatorRegistration "n1" "key-1" "Ada"))).Restricts
        Sample.operatorLibs "key-1" [Sample.nextTurn 0] (Sample.nextTurn 0) :=
      ⟨0, "dsr-1", ⟨.restrict, "dsr-1", 1⟩, rfl, nofun, rfl⟩
    refine ((restriction_sticks_iff Sample.operatorLibs).2 id _ _ _ _ hrestricts _ ?_).mpr ?_
    · exact ⟨trivial, rfl, trivial, trivial, trivial, trivial⟩
    · exact ⟨fun _ _ _ _ => rfl, trivial, trivial, trivial, trivial, trivial⟩

/-- **A restriction that does not stick.** In memory the identity is active
when it has succeeded. In the tables the node sends its next heartbeat, and is
listed. -/
theorem restricted_and_shown :
    (let step := MemorySeed.step Sample.operatorLibs
      let s := Sample.operatorInMemory (.rename "key-1" "Eve")
      let before := [0, 0].map Sample.nextSection
      let restricted := step (Run.after step s before) (Sample.nextSection 0)
      s.Restricts Sample.operatorLibs "key-1" before (Sample.nextSection 0)
        ∧ ¬ restricted.pool.memory.Withdrawn "key-1" (restricted.pool.memory.nodeIds "key-1"))
      ∧ (let step := @OperatorPool.step id Sample.operatorLibs
        let s := Sample.operatorInTables (.rename "key-1" "Eve")
        let before := [Sample.nextTurn 0]
        let restricted := step (Run.after step s before) (Sample.nextTurn 0)
        let later := [.heartbeat { nodeId := "n1" } 1000]
        s.Restricts Sample.operatorLibs "key-1" before (Sample.nextTurn 0)
          ∧ Run.Along step (OperatorPool.Ordinary "key-1") restricted later
          ∧ ¬ (Run.after step restricted later).tables.Withdrawn "key-1"
            (restricted.tables.nodeIds "key-1")) := by
  refine ⟨⟨⟨0, "dsr-1", ⟨.restrict, "dsr-1", 1⟩, rfl, nofun, rfl⟩, fun h => h.1 rfl⟩,
    ⟨⟨0, "dsr-1", ⟨.restrict, "dsr-1", 1⟩, rfl, nofun, rfl⟩, ⟨trivial, trivial⟩, fun h => ?_⟩⟩
  have havailable := (OperatorTables.withdrawn_iff.mp h).2 "n1" (by decide)
  exact absurd havailable (by decide)
