import IicpDirectory.Seed.Log
import Mathlib.Logic.Function.Basic

/-!
# Appending in transactions

Over MySQL four code paths append to the log, each inside a transaction of
its own, statement by statement, and any number of them at once:
`append_signed_event` (behind `emit_event` and `log_event`), the heartbeat
that reactivates a dormant node, the probe that changes a route, and the
decommissioning of a replica, which has a copy of the append of its own.

A `Session` is a transaction under way: where it stands, and what it has
written and not committed. The database answers its statements, and may
answer any of them with an error; then the session rolls back, and tries
again or gives up, as its path does. A commit that is answered with an error may
nevertheless have been persisted. What the database guarantees is the row lock: from the
`SELECT … FOR UPDATE` of the chain head to the end of the transaction no
other session gets past that statement.

The answers of the other tables – what the node row or the replica row
said – are inputs: the log is kept whatever they are.
-/

open Federation

/-- Whether a probe changed the route of a node. -/
inductive ProbeRouteTransition
  | unchanged
  | demoted
  | restored
  deriving DecidableEq

namespace MySql

/-! ## The code paths -/

/-- A call that may append. -/
inductive Task
  | appendSignedEvent (ev : NewEvent)
  | heartbeat (nodeId : String)
  | applyProbeRouteState (nodeId : String) (passed : Bool)
  | decommissionReplicaWithEvent (replicaId did : String)

/-- `emit_event`. -/
def emitEvent (eventType nodeId : String) (payload : Json) : Task :=
  .appendSignedEvent ⟨eventType, nodeId, payload⟩

/-- `log_event`: a payload that does not parse is replaced. -/
def logEvent (nodeId eventType : String) (payload : Option Json) : Task :=
  .appendSignedEvent ⟨eventType, nodeId,
    payload.getD (.object [("reason", .string "invalid_internal_event_payload")])⟩

/-- What a call returns. -/
inductive Answer
  | appended (seq : Option ℤ)
  | heartbeat (committed : Bool)
  | route (transition : ProbeRouteTransition)
  | decommissioned (done : Bool)
  deriving DecidableEq

/-- What a path reads of the row it locks first: of the node (its status and
since when it is dormant, whether it is reachable and since when its
endpoint is dead), or of the replica (its status and whether it has not
expired). -/
structure LockedRow where
  status : String
  dormantSinceMs : Option ℤ
  publicReachable : Bool
  deadSinceMs : Option ℤ
  unexpired : Bool

/-- The transition a probe makes of a route. -/
def routeTransition (passed publicReachable : Bool) (deadSinceMs : Option ℤ) :
    ProbeRouteTransition :=
  if passed && (!publicReachable || deadSinceMs.isSome) then .restored
  else if !passed && publicReachable then .demoted
  else .unchanged

/-- The event of a transition. -/
def routeEvent (nodeId : String) (publicReachable : Bool) (deadSinceMs : Option ℤ) :
    ProbeRouteTransition → Option NewEvent
  | .restored => some ⟨"REACHABILITY_RESTORE", nodeId, .object
      [("from", .bool publicReachable), ("to", .bool true), ("reason", .string "probe_success"),
       ("probe_source", .string "directory_active_probe"),
       ("endpoint_verified_dead_at_cleared", .bool deadSinceMs.isSome)]⟩
  | .demoted => some ⟨"REACHABILITY_DEMOTE", nodeId, .object
      [("from", .bool true), ("to", .bool false), ("reason", .string "confirmed_probe_failure"),
       ("probe_source", .string "directory_active_probe"),
       ("endpoint_verified_dead_at_set", .bool true)]⟩
  | .unchanged => none

/-- The event of a reactivation. -/
def reactivateEvent (nodeId : String) (dormantSinceMs : Option ℤ) (nowMs : ℤ) : NewEvent :=
  ⟨"REACTIVATE", nodeId, .object
    [("dormant_since_ms", Json.ofOption (dormantSinceMs.map Json.ofInt)),
     ("dormancy_duration_seconds",
       Json.ofOption (dormantSinceMs.map (fun since => Json.ofInt (max ((nowMs - since) / 1000) 0))))]⟩

/-- The statement a session is about to run. -/
inductive Point
  | begin
  | selectRow
  | updateNode (ev : Option NewEvent)
  | selectHead (ev : NewEvent)
  | updateReplica (row : EventRow)
  | insertEvent (row : EventRow)
  | updateHead (row : EventRow)
  | commit (answer : Answer)
  | returned (answer : Answer)

/-- A write to the tables of the log. -/
inductive Write
  | insertEvent (row : EventRow)
  | updateHead (head : ChainHead)

/-- A transaction under way. -/
structure Session where
  task : Task
  attempt : ℕ
  point : Point
  writes : List Write

/-- The tables of the log, the lock of the head row, and the sessions. -/
structure Database where
  nodeEvents : List EventRow
  head : ChainHead
  headLock : Option ℕ
  sessions : ℕ → Option Session

/-- The database as the schema creates it: no rows, the head at zero. -/
def Database.empty : Database where
  nodeEvents := []
  head := ⟨0, none⟩
  headLock := none
  sessions := fun _ => none

/-- The rows of the signed log; the others have number zero. -/
def Database.signedRows (d : Database) : List EventRow :=
  d.nodeEvents.filter (fun r => 0 < r.seq)

/-- `MySqlRepo::events_since`, of the committed rows. -/
def Database.eventsSince (d : Database) (sinceSeq : ℤ) (limit : ℕ) : List EventRow :=
  ((d.nodeEvents.filter (fun r => sinceSeq < r.seq)).insertionSort
    (fun a b => a.seq ≤ b.seq)).take limit

/-! ## Statements -/

/-- The first statement after `BEGIN`. -/
def Task.first : Task → Point
  | .appendSignedEvent ev => .selectHead ev
  | _ => .selectRow

/-- What a path does with the row it locked. -/
def Task.afterSelect (nowMs : ℤ) : Task → Option LockedRow → Point
  | .appendSignedEvent ev, _ => .selectHead ev
  | .heartbeat _, none => .returned (.heartbeat false)
  | .heartbeat nodeId, some r =>
    .updateNode (if r.status = "dormant" then some (reactivateEvent nodeId r.dormantSinceMs nowMs)
      else none)
  | .applyProbeRouteState _ _, none => .returned (.route .unchanged)
  | .applyProbeRouteState nodeId passed, some r =>
    match routeEvent nodeId r.publicReachable r.deadSinceMs
        (routeTransition passed r.publicReachable r.deadSinceMs) with
    | some ev => .updateNode (some ev)
    | none => .returned (.route .unchanged)
  | .decommissionReplicaWithEvent replicaId did, row =>
    if row.any (fun r => r.status == "active" && r.unexpired) then
      .selectHead ⟨"REPLICA_DEREGISTERED", replicaId, .object [("did", .string did)]⟩
    else .returned (.decommissioned false)

/-- What a path returns once the row of its event is committed. -/
def Task.answer (row : EventRow) : Task → Answer
  | .appendSignedEvent _ => .appended (some row.seq)
  | .heartbeat _ => .heartbeat true
  | .applyProbeRouteState _ _ =>
    .route (if row.eventType = "REACHABILITY_RESTORE" then .restored else .demoted)
  | .decommissionReplicaWithEvent _ _ => .decommissioned true

/-- What a path returns when it gives up. -/
def Task.giveUp : Task → Answer
  | .appendSignedEvent _ => .appended none
  | .heartbeat _ => .heartbeat false
  | .applyProbeRouteState _ _ => .route .unchanged
  | .decommissionReplicaWithEvent _ _ => .decommissioned false

/-- Whether a path runs its transaction again after a transient error: the
append three times in all, unless the transaction did not even begin; the
heartbeat three times; the others never. -/
def Task.retries (attempt : ℕ) (point : Point) : Task → Bool
  | .appendSignedEvent _ => (match point with | .begin => false | _ => true) && decide (attempt + 1 < 3)
  | .heartbeat _ => decide (attempt < 2)
  | _ => false

/-- A session whose statement failed: rolled back, and at its next attempt
or at its end. -/
def Session.failed (s : Session) (transient : Bool) : Session :=
  if transient && s.task.retries s.attempt s.point then
    { s with attempt := s.attempt + 1, point := .begin, writes := [] }
  else { s with point := .returned s.task.giveUp, writes := [] }

/-- What becomes of the row made for an event: the decommissioning goes on
with it whatever the signature, the others need one. -/
def Task.afterHead (row : EventRow) : Task → Option Point
  | .decommissionReplicaWithEvent _ _ => some (.updateReplica row)
  | _ => row.sig.map (fun _ => .insertEvent row)

/-! ## Steps -/

namespace Database

/-- A session moves on. -/
def put (d : Database) (id : ℕ) (s : Session) : Database :=
  { d with sessions := Function.update d.sessions id (some s) }

/-- A session is gone. -/
def remove (d : Database) (id : ℕ) : Database :=
  { d with sessions := Function.update d.sessions id none }

/-- The lock goes with the transaction. -/
def release (d : Database) (id : ℕ) : Database :=
  { d with headLock := if d.headLock = some id then none else d.headLock }

/-- A write, once committed. -/
def write (d : Database) : Write → Database
  | .insertEvent row => { d with nodeEvents := d.nodeEvents ++ [row] }
  | .updateHead head => { d with head := head }

/-- The writes of a transaction, all of them. -/
def persist (d : Database) (writes : List Write) : Database := writes.foldl write d

end Database

/-- How the database answers a statement: with a row where one is asked for,
or with an error, transient or not. The error of a commit does not say
whether it was persisted. -/
inductive Reply
  | ok (row : Option LockedRow)
  | error (transient persisted : Bool)

/-- A statement of a session is executed. -/
def Database.ok (L : Libs) (key : String) (d : Database) (id : ℕ) (s : Session)
    (row : Option LockedRow) (draw : Draw) : Database :=
  match s.point with
  | .begin => d.put id { s with point := s.task.first }
  | .selectRow => d.put id { s with point := s.task.afterSelect draw.nowMs row }
  | .updateNode (some ev) => d.put id { s with point := .selectHead ev }
  | .updateNode none => d.put id { s with point := .commit (.heartbeat true) }
  | .selectHead ev =>
    if d.headLock.any (· ≠ id) then d
    else
      match s.task.afterHead (rowAfter L key d.head ev draw) with
      | some point => { d with headLock := some id }.put id { s with point := point }
      | none => (d.put id (s.failed false)).release id
  | .updateReplica row => d.put id { s with point := .insertEvent row }
  | .insertEvent row =>
    d.put id { s with point := .updateHead row, writes := s.writes ++ [.insertEvent row] }
  | .updateHead row =>
    d.put id { s with
      point := .commit (s.task.answer row)
      writes := s.writes ++ [.updateHead row.asHead] }
  | .commit answer =>
    ((d.persist s.writes).put id { s with point := .returned answer, writes := [] }).release id
  | .returned _ => d

/-- What is left of a transaction that was cut off: nothing, unless it was
its commit that was cut off and the database had persisted it. -/
def Database.cutOff (d : Database) (s : Session) (persisted : Bool) : Database :=
  match s.point with
  | .commit _ => if persisted then d.persist s.writes else d
  | _ => d

/-- A statement of a session fails. -/
def Database.error (d : Database) (id : ℕ) (s : Session) (transient persisted : Bool) : Database :=
  match s.point with
  | .returned _ => d
  | _ => ((d.cutOff s persisted).put id (s.failed transient)).release id

/-- What can happen next. -/
inductive Action
  | call (id : ℕ) (task : Task)
  | statement (id : ℕ) (reply : Reply) (draw : Draw)
  | drop (id : ℕ) (persisted : Bool)
  | auditReport (row : EventRow)

/-- **One step of the database**: a call arrives, a statement of a session is
answered, a call is dropped with its transaction, or the audit writes a row
of its own, which has number zero and no signature. -/
def step (L : Libs) (key : String) (d : Database) : Action → Database
  | .call id task =>
    match d.sessions id with
    | none => d.put id ⟨task, 0, .begin, []⟩
    | some _ => d
  | .statement id reply draw =>
    match d.sessions id with
    | none => d
    | some s =>
      match reply with
      | .ok row => d.ok L key id s row draw
      | .error transient persisted => d.error id s transient persisted
  | .drop id persisted =>
    match d.sessions id with
    | none => d
    | some s => ((d.cutOff s persisted).remove id).release id
  | .auditReport row =>
    { d with nodeEvents := d.nodeEvents
        ++ [{ row with seq := 0, eventType := "AUDIT_REPORT", prevHash := none, sig := none }] }

/-! ## The invariant -/

variable {L : Libs} {key : String} {seed : Bytes}

/-- The row is the one that follows the head. -/
def Follows (L : Libs) (key : String) (head : ChainHead) (row : EventRow) : Prop :=
  ∃ ev draw, row = rowAfter L key head ev draw

/-- **What a session may have in hand**, by the statement it is about to run.
Before it locks the head it has written nothing. From then on it holds the
lock, the row it made follows the head, and its writes are as far as its
statements got; a commit is reached with all of them or with none. -/
def InHand (L : Libs) (key : String) (head : ChainHead) (holds : Prop) (writes : List Write) :
    Point → Prop
  | .begin => writes = []
  | .selectRow => writes = []
  | .updateNode _ => writes = []
  | .selectHead _ => writes = []
  | .updateReplica row => holds ∧ Follows L key head row ∧ writes = []
  | .insertEvent row => holds ∧ Follows L key head row ∧ writes = []
  | .updateHead row => holds ∧ Follows L key head row ∧ writes = [.insertEvent row]
  | .commit _ => writes = []
      ∨ holds ∧ ∃ row, Follows L key head row ∧ writes = [.insertEvent row, .updateHead row.asHead]
  | .returned _ => True

/-- **The tables of the log are sound**: the signed rows are a chain, and the
head is its head. -/
structure LogSound (L : Libs) (seed : Bytes) (d : Database) : Prop where
  chain : SeedChain L (pubkeyHexOf L seed) d.signedRows
  head : d.head = headOf d.signedRows

/-- **The invariant of the tables and the sessions.** -/
structure Inv (L : Libs) (key : String) (seed : Bytes) (d : Database) : Prop
    extends LogSound L seed d where
  sessions : ∀ id s, d.sessions id = some s →
    InHand L key d.head (d.headLock = some id) s.writes s.point

/-- What a session has in hand stays right as long as the head does not move
under the lock it holds. -/
theorem inHand_of_kept {head head' : ChainHead} {holds holds' : Prop} {writes : List Write}
    {point : Point} (h : InHand L key head holds writes point)
    (hkept : holds → holds' ∧ head' = head) : InHand L key head' holds' writes point := by
  cases point with
  | begin => exact h
  | selectRow => exact h
  | updateNode _ => exact h
  | selectHead _ => exact h
  | updateReplica row =>
    obtain ⟨hholds, hrest⟩ := h
    obtain ⟨hholds', rfl⟩ := hkept hholds
    exact ⟨hholds', hrest⟩
  | insertEvent row =>
    obtain ⟨hholds, hrest⟩ := h
    obtain ⟨hholds', rfl⟩ := hkept hholds
    exact ⟨hholds', hrest⟩
  | updateHead row =>
    obtain ⟨hholds, hrest⟩ := h
    obtain ⟨hholds', rfl⟩ := hkept hholds
    exact ⟨hholds', hrest⟩
  | commit _ =>
    rcases h with hnone | ⟨hholds, hrest⟩
    · exact Or.inl hnone
    · obtain ⟨hholds', rfl⟩ := hkept hholds
      exact Or.inr ⟨hholds', hrest⟩
  | returned _ => trivial

/-- **The invariant after a step of one session**: the tables are sound, what
that session has in hand is right, and no other session lost the lock or
saw the head move under it. -/
theorem inv_of_session {d d' : Database} (h : Inv L key seed d) (id : ℕ)
    (hsound : LogSound L seed d')
    (hown : ∀ s, d'.sessions id = some s →
      InHand L key d'.head (d'.headLock = some id) s.writes s.point)
    (hothers : ∀ other, other ≠ id → d'.sessions other = d.sessions other)
    (hlock : ∀ other, other ≠ id → d.headLock = some other →
      d'.headLock = some other ∧ d'.head = d.head) : Inv L key seed d' where
  toLogSound := hsound
  sessions := by
    intro other s hs
    by_cases hid : other = id
    · subst hid
      exact hown s hs
    · rw [hothers other hid] at hs
      exact inHand_of_kept (h.sessions other s hs) (hlock other hid)

theorem sessions_put (d : Database) (id : ℕ) (s : Session) :
    (d.put id s).sessions id = some s := Function.update_self _ _ _

theorem sessions_put_of_ne (d : Database) {id other : ℕ} (s : Session) (h : other ≠ id) :
    (d.put id s).sessions other = d.sessions other := Function.update_of_ne h _ _

/-- A session moves on: the tables and the lock stay. -/
theorem inv_put {d : Database} (h : Inv L key seed d) (id : ℕ) {s : Session}
    (hown : InHand L key d.head (d.headLock = some id) s.writes s.point) :
    Inv L key seed (d.put id s) := by
  refine inv_of_session h id ⟨h.chain, h.head⟩ ?_ (fun other hne => sessions_put_of_ne d s hne)
    (fun _ _ hl => ⟨hl, rfl⟩)
  intro s' hs'
  rw [sessions_put] at hs'
  exact Option.some.inj hs' ▸ hown

/-! ## Committing -/

theorem signedRows_insertEvent (d : Database) {row : EventRow} (h : 0 < row.seq) :
    (d.write (.insertEvent row)).signedRows = d.signedRows ++ [row] := by
  show (d.nodeEvents ++ [row]).filter _ = _
  rw [List.filter_append, List.filter_cons_of_pos (by simpa using h), List.filter_nil]
  rfl

/-- **A row that follows the head, and the head moved to it**: the log is
sound again. -/
theorem logSound_persist (hL : L.Lawful) (hkey : seedOf key = some seed) {d : Database}
    (h : LogSound L seed d) {row : EventRow} (hrow : Follows L key d.head row) :
    LogSound L seed (d.persist [.insertEvent row, .updateHead row.asHead]) := by
  obtain ⟨ev, draw, rfl⟩ := hrow
  have hrows : (d.persist [.insertEvent (rowAfter L key d.head ev draw),
      .updateHead (rowAfter L key d.head ev draw).asHead]).signedRows
        = d.signedRows ++ [rowAfter L key (headOf d.signedRows) ev draw] := by
    rw [← h.head]
    refine signedRows_insertEvent d ?_
    show 0 < d.head.lastSeq + 1
    rw [h.head]
    show (0 : ℤ) < (d.signedRows.length : ℤ) + 1
    omega
  constructor
  · rw [hrows]
    exact seedChain_append hL hkey h.chain ev draw
  · rw [hrows, headOf_append, ← h.head]
    rfl

/-- What is left of a transaction that is cut off, or committed: sound
tables, the lock and the sessions as they were, and a head that no other
holder of the lock sees move. -/
theorem persisted_of_commit (hL : L.Lawful) (hkey : seedOf key = some seed) {d : Database}
    (h : Inv L key seed d) {id : ℕ} {s : Session} (hs : d.sessions id = some s)
    {answer : Answer} (hpoint : s.point = .commit answer) :
    LogSound L seed (d.persist s.writes) ∧ (d.persist s.writes).sessions = d.sessions
      ∧ (d.persist s.writes).headLock = d.headLock
      ∧ ∀ other, other ≠ id → d.headLock = some other → (d.persist s.writes).head = d.head := by
  have hhand := h.sessions id s hs
  rw [hpoint] at hhand
  rcases hhand with hnone | ⟨hlock, row, hrow, hwrites⟩
  · rw [hnone]
    exact ⟨h.toLogSound, rfl, rfl, fun _ _ _ => rfl⟩
  · rw [hwrites]
    refine ⟨logSound_persist hL hkey h.toLogSound hrow, rfl, rfl, ?_⟩
    intro other hne hother
    exact absurd (Option.some.inj (hother.symm.trans hlock)) hne

theorem cutOff_spec (hL : L.Lawful) (hkey : seedOf key = some seed) {d : Database}
    (h : Inv L key seed d) {id : ℕ} {s : Session} (hs : d.sessions id = some s)
    (persisted : Bool) :
    LogSound L seed (d.cutOff s persisted) ∧ (d.cutOff s persisted).sessions = d.sessions
      ∧ (d.cutOff s persisted).headLock = d.headLock
      ∧ ∀ other, other ≠ id → d.headLock = some other →
          (d.cutOff s persisted).head = d.head := by
  unfold Database.cutOff
  split
  · rename_i answer hpoint
    cases persisted with
    | true => exact persisted_of_commit hL hkey h hs hpoint
    | false => exact ⟨h.toLogSound, rfl, rfl, fun _ _ _ => rfl⟩
  · exact ⟨h.toLogSound, rfl, rfl, fun _ _ _ => rfl⟩

/-- A transaction ends: its session is at its next attempt, has returned, or
is gone, and the lock is free if it held it. -/
theorem inv_ended {d d₁ : Database} (h : Inv L key seed d) (id : ℕ)
    (hd₁ : LogSound L seed d₁ ∧ d₁.sessions = d.sessions ∧ d₁.headLock = d.headLock
      ∧ ∀ other, other ≠ id → d.headLock = some other → d₁.head = d.head)
    (own : Option Session)
    (hown : ∀ s, own = some s → s.writes = [] ∧ (s.point = .begin ∨ ∃ a, s.point = .returned a)) :
    Inv L key seed
      ({ d₁ with sessions := Function.update d₁.sessions id own }.release id) := by
  obtain ⟨hsound, hsess, hlock, hhead⟩ := hd₁
  refine inv_of_session h id ⟨hsound.chain, hsound.head⟩ ?_ ?_ ?_
  · intro s hs
    have hsame : Function.update d₁.sessions id own id = own := Function.update_self _ _ _
    obtain ⟨hwrites, hpoint⟩ := hown s (hsame.symm.trans hs)
    rcases hpoint with hb | ⟨a, ha⟩
    · rw [hb]
      exact hwrites
    · rw [ha]
      trivial
  · intro other hne
    show Function.update d₁.sessions id own other = _
    rw [Function.update_of_ne hne, hsess]
  · intro other hne hother
    refine ⟨?_, hhead other hne hother⟩
    show (if d₁.headLock = some id then none else d₁.headLock) = some other
    rw [hlock, hother, if_neg (fun he => hne (Option.some.inj he))]

/-- A session whose statement failed has written nothing. -/
theorem ended_failed (s : Session) (transient : Bool) :
    (s.failed transient).writes = []
      ∧ ((s.failed transient).point = .begin ∨ ∃ a, (s.failed transient).point = .returned a) := by
  unfold Session.failed
  split
  · exact ⟨rfl, Or.inl rfl⟩
  · exact ⟨rfl, Or.inr ⟨_, rfl⟩⟩

/-! ## Every step keeps the invariant -/

/-- The row a path locked leads to no write. -/
theorem inHand_afterSelect (task : Task) (nowMs : ℤ) (row : Option LockedRow) (head : ChainHead)
    (holds : Prop) : InHand L key head holds [] (task.afterSelect nowMs row) := by
  cases task with
  | appendSignedEvent ev => exact rfl
  | heartbeat nodeId =>
    cases row with
    | none => trivial
    | some r => exact rfl
  | applyProbeRouteState nodeId passed =>
    cases row with
    | none => trivial
    | some r =>
      unfold Task.afterSelect
      dsimp only
      split
      · exact rfl
      · trivial
  | decommissionReplicaWithEvent replicaId did =>
    unfold Task.afterSelect
    dsimp only
    split
    · exact rfl
    · trivial

/-- **The row made under the lock is in hand**: the session has read the head
and holds it. -/
theorem inv_selectHead {d : Database} (h : Inv L key seed d) {id : ℕ} {s : Session}
    (hwrites : s.writes = []) (hfree : d.headLock.any (· ≠ id) = false) (ev : NewEvent)
    (draw : Draw) {point : Point}
    (hpoint : s.task.afterHead (rowAfter L key d.head ev draw) = some point) :
    Inv L key seed ({ d with headLock := some id }.put id { s with point := point }) := by
  refine inv_of_session h id ⟨h.chain, h.head⟩ ?_ (fun other hne => sessions_put_of_ne _ _ hne) ?_
  · intro s' hs'
    rw [sessions_put] at hs'
    obtain rfl := Option.some.inj hs'
    have hfollows : Follows L key d.head (rowAfter L key d.head ev draw) := ⟨ev, draw, rfl⟩
    rcases hpt : point with _ | _ | _ | _ | row | row | _ | _ | _
    all_goals
      subst hpt
      unfold Task.afterHead at hpoint
      split at hpoint <;> simp at hpoint
    · obtain rfl := hpoint
      exact ⟨rfl, hfollows, hwrites⟩
    · obtain ⟨_, _, rfl⟩ := hpoint
      exact ⟨rfl, hfollows, hwrites⟩
  · intro other hne hother
    rw [hother] at hfree
    simp [hne] at hfree

/-- A statement that is executed keeps the invariant. -/
theorem inv_ok (hL : L.Lawful) (hkey : seedOf key = some seed) {d : Database}
    (h : Inv L key seed d) {id : ℕ} {s : Session} (hs : d.sessions id = some s)
    (row : Option LockedRow) (draw : Draw) : Inv L key seed (d.ok L key id s row draw) := by
  have hhand := h.sessions id s hs
  unfold Database.ok
  cases hpoint : s.point with
  | begin =>
    rw [hpoint] at hhand
    refine inv_put h id ?_
    show InHand L key d.head _ s.writes s.task.first
    rw [show s.writes = [] from hhand]
    cases s.task <;> exact rfl
  | selectRow =>
    rw [hpoint] at hhand
    refine inv_put h id ?_
    show InHand L key d.head _ s.writes (s.task.afterSelect draw.nowMs row)
    rw [show s.writes = [] from hhand]
    exact inHand_afterSelect _ _ _ _ _
  | updateNode ev =>
    rw [hpoint] at hhand
    cases ev with
    | none => exact inv_put h id (Or.inl hhand)
    | some ev => exact inv_put h id hhand
  | selectHead ev =>
    rw [hpoint] at hhand
    dsimp only
    -- the row of the head is locked by another session, or by this one from now on
    split
    · exact h
    · rename_i hfree
      cases hafter : s.task.afterHead (rowAfter L key d.head ev draw) with
      | some point => exact inv_selectHead h hhand (by simpa using hfree) ev draw hafter
      | none =>
        exact inv_ended h id ⟨h.toLogSound, rfl, rfl, fun _ _ _ => rfl⟩ _
          (fun s' hs' => Option.some.inj hs' ▸ ended_failed s false)
  | updateReplica r =>
    rw [hpoint] at hhand
    exact inv_put h id hhand
  | insertEvent r =>
    rw [hpoint] at hhand
    obtain ⟨hlock, hrow, hwrites⟩ := hhand
    refine inv_put h id ⟨hlock, hrow, ?_⟩
    rw [hwrites]
    rfl
  | updateHead r =>
    rw [hpoint] at hhand
    obtain ⟨hlock, hrow, hwrites⟩ := hhand
    refine inv_put h id (Or.inr ⟨hlock, r, hrow, ?_⟩)
    rw [hwrites]
    rfl
  | commit answer =>
    exact inv_ended h id (persisted_of_commit hL hkey h hs hpoint) _
      (fun s' hs' => Option.some.inj hs' ▸ ⟨rfl, Or.inr ⟨answer, rfl⟩⟩)
  | returned answer => exact h

/-- A statement that fails keeps the invariant. -/
theorem inv_error (hL : L.Lawful) (hkey : seedOf key = some seed) {d : Database}
    (h : Inv L key seed d) {id : ℕ} {s : Session} (hs : d.sessions id = some s)
    (transient persisted : Bool) : Inv L key seed (d.error id s transient persisted) := by
  unfold Database.error
  split
  · exact h
  · exact inv_ended h id (cutOff_spec hL hkey h hs persisted) _
      (fun s' hs' => Option.some.inj hs' ▸ ended_failed s transient)

variable (L key) in
theorem signedRows_auditReport (d : Database) (row : EventRow) :
    (step L key d (.auditReport row)).signedRows = d.signedRows := by
  show (d.nodeEvents ++ [_]).filter _ = _
  rw [List.filter_append, List.filter_cons_of_neg (by simp), List.filter_nil, List.append_nil]
  rfl

/-- **Every step keeps the invariant.** -/
theorem inv_step (hL : L.Lawful) (hkey : seedOf key = some seed) (d : Database) (a : Action)
    (h : Inv L key seed d) : Inv L key seed (step L key d a) := by
  cases a with
  | call id task =>
    unfold step
    dsimp only
    split
    · exact inv_put h id rfl
    · exact h
  | statement id reply draw =>
    unfold step
    dsimp only
    split
    · exact h
    · rename_i s hs
      cases reply with
      | ok row => exact inv_ok hL hkey h hs row draw
      | error transient persisted => exact inv_error hL hkey h hs transient persisted
  | drop id persisted =>
    unfold step
    dsimp only
    split
    · exact h
    · rename_i s hs
      exact inv_ended h id (cutOff_spec hL hkey h hs persisted) none (fun _ hn => absurd hn (by simp))
  | auditReport row =>
    have hrows := signedRows_auditReport L key d row
    refine ⟨⟨hrows ▸ h.chain, ?_⟩, h.sessions⟩
    rw [hrows]
    exact h.head

theorem inv_empty : Inv L key seed Database.empty where
  chain := seedChain_nil _
  head := rfl
  sessions := fun _ _ h => absurd h (by simp [Database.empty])

/-! ## Reading the log -/

theorem isPageOf_eventsSince (d : Database) (sinceSeq : ℤ) (limit : ℕ) :
    IsPageOf d.nodeEvents sinceSeq limit (d.eventsSince sinceSeq limit) := by
  have : Std.Total (fun a b : EventRow => a.seq ≤ b.seq) := ⟨fun a b => le_total a.seq b.seq⟩
  have : IsTrans EventRow (fun a b => a.seq ≤ b.seq) := ⟨fun _ _ _ => le_trans⟩
  exact isPageOf_take (List.perm_insertionSort _ _) (List.pairwise_insertionSort _ _) limit

/-- From a number that is not negative on, a page is a stretch of the
chain. -/
theorem eventsSince_of_nonneg {pk : String} {d : Database} (h : SeedChain L pk d.signedRows)
    {sinceSeq : ℤ} (hsince : 0 ≤ sinceSeq) (limit : ℕ) :
    d.eventsSince sinceSeq limit
      = (d.signedRows.filter (fun r => sinceSeq < r.seq)).take limit := by
  have hfilter : d.nodeEvents.filter (fun r => sinceSeq < r.seq)
      = d.signedRows.filter (fun r => sinceSeq < r.seq) := by
    unfold Database.signedRows
    rw [List.filter_filter]
    refine List.filter_congr fun r _ => ?_
    by_cases hr : sinceSeq < r.seq
    · simp [hr, hsince.trans_lt hr]
    · simp [hr]
  have hsorted : (d.signedRows.filter (fun r => sinceSeq < r.seq)).Pairwise
      (fun a b => a.seq ≤ b.seq) :=
    (h.ascending.imp (fun hlt => le_of_lt hlt)).sublist List.filter_sublist
  unfold Database.eventsSince
  rw [hfilter, hsorted.insertionSort_eq]

end MySql

namespace Sample

open MySql

/-- Two registrations at once: the first locks the head, the second waits for
it, fails at its first attempt and goes through at its second. -/
def interleaved : List Action :=
  [.call 1 (emitEvent "REGISTER" "n1" (.object [("endpoint", .string "https://n1.test")])),
   .call 2 (emitEvent "REGISTER" "n2" (.object [("endpoint", .string "https://n2.test")])),
   .statement 1 (.ok none) ⟨"evt-1", 1⟩, .statement 2 (.ok none) ⟨"evt-2", 2⟩,
   .statement 1 (.ok none) ⟨"evt-1", 1⟩, .statement 2 (.ok none) ⟨"evt-2", 2⟩,
   .statement 1 (.ok none) ⟨"evt-1", 1⟩, .statement 1 (.ok none) ⟨"evt-1", 1⟩,
   .statement 1 (.ok none) ⟨"evt-1", 1⟩,
   .statement 2 (.ok none) ⟨"evt-2", 2⟩, .statement 2 (.error true false) ⟨"evt-2", 2⟩,
   .statement 2 (.ok none) ⟨"evt-2", 2⟩, .statement 2 (.ok none) ⟨"evt-2", 2⟩,
   .statement 2 (.ok none) ⟨"evt-2", 2⟩, .statement 2 (.ok none) ⟨"evt-2", 2⟩,
   .statement 2 (.ok none) ⟨"evt-2", 2⟩]

/-- The seed the sample key holds. -/
theorem seedOf_secretKeyHex : seedOf secretKeyHex = some (List.replicate 32 17) := by
  decide +kernel

end Sample

namespace MySql

end MySql
