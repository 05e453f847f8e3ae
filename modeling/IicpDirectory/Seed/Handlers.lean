import IicpDirectory.FederationHandlers
import IicpDirectory.Foundations.Outbox
import IicpDirectory.Registration
import IicpDirectory.Replica.Effects
import IicpDirectory.Replica.Snapshot

/-!
# A snapshot among handlers

A register or deregister handler does two things, one after the other: it
changes the repository, and it appends the event. The snapshot handler does
two things as well: it reads the records, and it reads the log for the
number of its last event. Each of the four is one step, and they interleave
as they like; a handler may also be dropped between its two steps, when its
caller goes away.

A replica takes the snapshot and then every event after its number. An
event that was appended between the two reads, by a handler that changed
the repository after the first, is in neither. `snapshot_complete` is the law
for the runs where that does not happen and the events of one node are
appended in the order of their changes; `registration_falls_between` is a
run where it does.
-/

open Federation

namespace Seed

open Replica FederationHandlers

/-- Where the snapshot handler stands: before its reads, between them with
the records it read, or done with the body it served. The number is how
many of the handlers that are now between their steps had changed the
repository when the records were read. -/
inductive SnapshotHandler
  | waiting
  | readRecords (records : List NodeRecord) (mark : ℕ)
  | served (body : Json) (mark : ℕ)

/-- **The seed**: its repository, the events that handlers have still to
append, in the order of their changes, and the snapshot handler. -/
structure State where
  repo : InMemoryRepo
  pending : List NewEvent
  snapshot : SnapshotHandler

/-- A seed that starts. -/
def State.empty : State := ⟨InMemoryRepo.empty, [], .waiting⟩

/-- The steps of the handlers. -/
inductive Action
  | register (p : PendingRegistration)
  | deregister (nodeId : String)
  | emit (i : ℕ) (draw : Draw)
  | abandon (i : ℕ)
  | readRecords
  | readLog (tsMs : ℤ)

/-- A pending event goes. -/
def SnapshotHandler.passed (i : ℕ) : SnapshotHandler → SnapshotHandler
  | .waiting => .waiting
  | .readRecords records mark => .readRecords records (if i < mark then mark - 1 else mark)
  | .served body mark => .served body (if i < mark then mark - 1 else mark)

/-- **One step of a handler.** The snapshot reads at most a million rows of
the log. -/
def step (L : Libs) (key : String) (s : State) : Action → State
  | .register p => { s with repo := s.repo.register p.record, pending := s.pending ++ [p.event] }
  | .deregister nodeId =>
    if (s.repo.deregister nodeId).1 then
      { s with
        repo := (s.repo.deregister nodeId).2
        pending := s.pending ++ [deregisterEvent nodeId] }
    else s
  | .emit i draw =>
    match s.pending[i]? with
    | none => s
    | some ev =>
      { repo := (s.repo.appendSignedEvent L key ev draw).2
        pending := s.pending.eraseIdx i
        snapshot := s.snapshot.passed i }
  | .abandon i =>
    { s with pending := s.pending.eraseIdx i, snapshot := s.snapshot.passed i }
  | .readRecords =>
    match s.snapshot with
    | .waiting => { s with snapshot := .readRecords s.repo.records s.pending.length }
    | _ => s
  | .readLog tsMs =>
    match s.snapshot with
    | .readRecords records mark =>
      { s with snapshot :=
          .served (FederationHandlers.snapshot L records (s.repo.eventsSince 0 1000000) tsMs) mark }
    | _ => s

/-- **The condition on a step**: no handler is dropped before its event, the
events of a node are appended in the order of their changes, and between
the two reads of the snapshot only a handler that had changed the
repository before the first appends its event. -/
def Orderly (s : State) : Action → Prop
  | .emit i _ =>
    Outbox.InOrder NewEvent.nodeId s.pending i
      ∧ ∀ records mark, s.snapshot = .readRecords records mark → i < mark
  | .abandon _ => False
  | _ => True

/-! ## The invariant -/

variable {L : Libs} {key : String}

/-- Whether a node is on record after an event. -/
def listed (was : Bool) (ev : NewEvent) : Bool := listedAfter was ev.eventType ev.payload

/-- An event settles whether its node is on record. -/
def Settles (ev : NewEvent) : Prop :=
  ∃ is : Bool, ∀ was, listed was ev = is

theorem settles_event (p : PendingRegistration) : Settles p.event :=
  ⟨true, fun was => by cases was <;> rfl⟩

theorem settles_deregisterEvent (nodeId : String) : Settles (deregisterEvent nodeId) :=
  ⟨false, fun _ => rfl⟩

/-- What a sequence of events says of a node. -/
abbrev listedBy (nodeId : String) (events : List NewEvent) : Bool :=
  Outbox.value NewEvent.nodeId listed false nodeId events

/-- The events of the log. -/
def State.log (s : State) : List NewEvent := s.repo.events.map EventRow.newEvent

/-- The records list the node. -/
def listsNode (records : List NodeRecord) (nodeId : String) : Bool :=
  decide (nodeId ∈ records.map NodeRecord.id)

/-- What is known of the records a snapshot was made from: with the log and
with what was pending when they were read, they agree on every node; once
the snapshot is served, on every node of which no event came after its
number. -/
def SnapshotInv (L : Libs) (s : State) : SnapshotHandler → Prop
  | .waiting => True
  | .readRecords records mark => mark ≤ s.pending.length
      ∧ ∀ nodeId, listsNode records nodeId = listedBy nodeId (s.log ++ s.pending.take mark)
  | .served body mark => mark ≤ s.pending.length
      ∧ ∃ records rows tsMs, body = FederationHandlers.snapshot L records rows tsMs
        ∧ (∃ n ≤ s.repo.events.length, rows = s.repo.events.take n)
        ∧ ∀ nodeId, (∀ ev ∈ s.log.drop rows.length, ev.nodeId ≠ nodeId) →
            listsNode records nodeId = listedBy nodeId (s.log ++ s.pending.take mark)

/-- **The invariant**: the repository is ahead of the log by what is
pending. -/
structure Inv (L : Libs) (s : State) : Prop where
  store : ∀ nodeId, (s.repo.find nodeId).isSome = listedBy nodeId (s.log ++ s.pending)
  settles : ∀ ev ∈ s.log ++ s.pending, Settles ev
  numbered : s.repo.events.map EventRow.seq
    = (List.range s.repo.events.length).map (fun i : ℕ => (i : ℤ) + 1)
  snapshot : SnapshotInv L s s.snapshot

/-- A record is listed exactly where the repository finds it. -/
theorem listsNode_records (repo : InMemoryRepo) (nodeId : String) :
    listsNode repo.records nodeId = (repo.find nodeId).isSome := by
  unfold listsNode
  rw [Bool.eq_iff_iff, decide_eq_true_eq]
  exact InMemoryRepo.mem_nodeIds_iff

theorem inv_empty : Inv L State.empty where
  store := fun _ => rfl
  settles := fun _ h => absurd h List.not_mem_nil
  numbered := rfl
  snapshot := trivial

/-! ## A handler changes the repository -/

/-- What a snapshot was made from is not touched by a change after it. -/
theorem snapshotInv_mutate {s : State} {h : SnapshotHandler} (hinv : SnapshotInv L s h)
    {repo : InMemoryRepo} (hevents : repo.events = s.repo.events) (ev : NewEvent) :
    SnapshotInv L ⟨repo, s.pending ++ [ev], s.snapshot⟩ h := by
  have hlog : (⟨repo, s.pending ++ [ev], s.snapshot⟩ : State).log = s.log := by
    unfold State.log
    rw [hevents]
  have hle : ∀ mark, mark ≤ s.pending.length → mark ≤ (s.pending ++ [ev]).length := by
    intro mark hmark
    rw [List.length_append]
    omega
  cases h with
  | waiting => trivial
  | readRecords records mark =>
    obtain ⟨hmark, hagree⟩ := hinv
    refine ⟨hle mark hmark, fun nodeId => ?_⟩
    rw [hlog, List.take_append_of_le_length hmark]
    exact hagree nodeId
  | served body mark =>
    obtain ⟨hmark, records, rows, tsMs, hbody, hrows, hagree⟩ := hinv
    refine ⟨hle mark hmark, records, rows, tsMs, hbody, ?_, fun nodeId hquiet => ?_⟩
    · rw [hevents]
      exact hrows
    · rw [hlog] at hquiet ⊢
      rw [List.take_append_of_le_length hmark]
      exact hagree nodeId hquiet

/-- **A change of the repository that its event describes keeps the
invariant.** -/
theorem inv_mutate {s : State} (h : Inv L s) (repo : InMemoryRepo)
    (hevents : repo.events = s.repo.events) {ev : NewEvent} (hsettles : Settles ev)
    (hstore : ∀ nodeId, (repo.find nodeId).isSome
      = if ev.nodeId = nodeId then listed (s.repo.find nodeId).isSome ev
        else (s.repo.find nodeId).isSome) :
    Inv L ⟨repo, s.pending ++ [ev], s.snapshot⟩ := by
  have hlog : (⟨repo, s.pending ++ [ev], s.snapshot⟩ : State).log = s.log := by
    unfold State.log
    rw [hevents]
  refine ⟨?_, ?_, ?_, snapshotInv_mutate h.snapshot hevents ev⟩
  · intro nodeId
    rw [hlog, ← List.append_assoc]
    refine (hstore nodeId).trans ?_
    rw [h.store nodeId]
    exact (Outbox.value_snoc _ _ _).symm
  · intro ev' hev'
    rw [hlog, ← List.append_assoc] at hev'
    rcases List.mem_append.mp hev' with hold | hnew
    · exact h.settles ev' hold
    · exact List.mem_singleton.mp hnew ▸ hsettles
  · show repo.events.map _ = _
    rw [hevents]
    exact h.numbered

theorem isSome_find_register (repo : InMemoryRepo) (p : PendingRegistration) (nodeId : String) :
    ((repo.register p.record).find nodeId).isSome
      = if p.event.nodeId = nodeId then listed (repo.find nodeId).isSome p.event
        else (repo.find nodeId).isSome := by
  rw [InMemoryRepo.find_register, PendingRegistration.id_record]
  show _ = if p.nodeId = nodeId then _ else _
  by_cases hid : nodeId = p.nodeId
  · rw [if_pos hid, if_pos hid.symm, Option.isSome_some]
    cases (repo.find nodeId).isSome <;> rfl
  · rw [if_neg hid, if_neg (fun he => hid he.symm)]

theorem isSome_find_deregister (repo : InMemoryRepo) (id nodeId : String) :
    ((repo.deregister id).2.find nodeId).isSome
      = if (deregisterEvent id).nodeId = nodeId then
          listed (repo.find nodeId).isSome (deregisterEvent id)
        else (repo.find nodeId).isSome := by
  rw [InMemoryRepo.find_deregister]
  show _ = if id = nodeId then _ else _
  by_cases hid : nodeId = id
  · rw [if_pos hid, if_pos hid.symm]
    rfl
  · rw [if_neg hid, if_neg (fun he => hid he.symm)]

/-! ## A handler appends its event -/

/-- The state after the `i`-th pending event is appended. -/
def State.emitted (L : Libs) (key : String) (s : State) (i : ℕ) (ev : NewEvent) (draw : Draw) :
    State :=
  { repo := (s.repo.appendSignedEvent L key ev draw).2
    pending := s.pending.eraseIdx i
    snapshot := s.snapshot.passed i }

theorem log_emitted (s : State) (i : ℕ) (ev : NewEvent) (draw : Draw) :
    (s.emitted L key i ev draw).log = s.log ++ [ev] := by
  show (s.repo.events ++ [_]).map EventRow.newEvent = _
  rw [List.map_append]
  rfl

/-- The mark of a snapshot stays within what is pending. -/
theorem mark_le_eraseIdx {pending : List NewEvent} {i mark : ℕ} {ev : NewEvent}
    (hev : pending[i]? = some ev) (hmark : mark ≤ pending.length) :
    (if i < mark then mark - 1 else mark) ≤ (pending.eraseIdx i).length := by
  obtain ⟨hlt, _⟩ := List.getElem?_eq_some_iff.mp hev
  rw [List.length_eraseIdx_of_lt hlt]
  split <;> omega

/-- **A served snapshot, or one between its reads, stays right** when an
event is appended in order – and, between the reads, if its handler came
before. -/
theorem snapshotInv_emitted {s : State} (h : SnapshotInv L s s.snapshot) {i : ℕ} {ev : NewEvent}
    (hev : s.pending[i]? = some ev) (draw : Draw)
    (hord : Outbox.InOrder NewEvent.nodeId s.pending i)
    (hreads : ∀ records mark, s.snapshot = .readRecords records mark → i < mark) :
    SnapshotInv L (s.emitted L key i ev draw) (s.snapshot.passed i) := by
  cases hsnap : s.snapshot with
  | waiting => trivial
  | readRecords records mark =>
    rw [hsnap] at h
    obtain ⟨hmark, hagree⟩ := h
    have hlt : i < mark := hreads records mark hsnap
    refine ⟨mark_le_eraseIdx hev hmark, fun nodeId => ?_⟩
    rw [log_emitted, if_pos hlt]
    exact (hagree nodeId).trans (Outbox.value_move_copy hev hord hlt _ _).symm
  | served body mark =>
    rw [hsnap] at h
    obtain ⟨hmark, records, rows, tsMs, hbody, ⟨n, hn, hrows⟩, hagree⟩ := h
    refine ⟨mark_le_eraseIdx hev hmark, records, rows, tsMs, hbody, ⟨n, ?_, ?_⟩, ?_⟩
    · show n ≤ (s.repo.events ++ [_]).length
      rw [List.length_append]
      omega
    · show rows = (s.repo.events ++ [_]).take n
      rw [List.take_append_of_le_length hn]
      exact hrows
    · intro nodeId hquiet
      have hlen : rows.length ≤ s.log.length := by
        rw [hrows, State.log, List.length_map, List.length_take]
        omega
      rw [log_emitted] at hquiet ⊢
      rw [List.drop_append_of_le_length hlen] at hquiet
      have hold := hagree nodeId (fun e he => hquiet e (List.mem_append_left _ he))
      have hne : ev.nodeId ≠ nodeId := hquiet ev (List.mem_append_right _ List.mem_cons_self)
      show _ = listedBy nodeId (_ ++ (s.pending.eraseIdx i).take _)
      -- the handler had changed the repository before the records were read, or not
      by_cases hlt : i < mark
      · rw [if_pos hlt]
        exact hold.trans (Outbox.value_move_copy hev hord hlt _ _).symm
      · rw [if_neg hlt, Outbox.take_eraseIdx_of_le (not_lt.mp hlt)]
        exact hold.trans (Outbox.value_insert_of_ne hne _ _).symm

/-- **An event appended in order keeps the invariant.** -/
theorem inv_emitted {s : State} (h : Inv L s) {i : ℕ} {ev : NewEvent}
    (hev : s.pending[i]? = some ev) (draw : Draw)
    (hord : Outbox.InOrder NewEvent.nodeId s.pending i)
    (hreads : ∀ records mark, s.snapshot = .readRecords records mark → i < mark) :
    Inv L (s.emitted L key i ev draw) where
  store := by
    intro nodeId
    rw [log_emitted]
    exact (h.store nodeId).trans (Outbox.value_move hev hord _ _).symm
  settles := by
    intro e he
    rw [log_emitted, List.append_assoc] at he
    refine h.settles e ?_
    rcases List.mem_append.mp he with hlog | hrest
    · exact List.mem_append_left _ hlog
    · refine List.mem_append_right _ ?_
      rcases List.mem_append.mp hrest with hnew | hpend
      · exact List.mem_singleton.mp hnew ▸ List.mem_of_getElem? hev
      · exact List.mem_of_mem_eraseIdx hpend
  numbered := numbered_append h.numbered ev draw
  snapshot := snapshotInv_emitted h.snapshot hev draw hord hreads

/-! ## The reads of the snapshot, and every step -/

theorem inv_readRecords {s : State} (h : Inv L s) :
    Inv L { s with snapshot := .readRecords s.repo.records s.pending.length } where
  store := h.store
  settles := h.settles
  numbered := h.numbered
  snapshot := by
    refine ⟨le_refl _, fun nodeId => ?_⟩
    rw [List.take_length, listsNode_records]
    exact h.store nodeId

/-- The snapshot reads a beginning of the log. -/
theorem eventsSince_zero {repo : InMemoryRepo} (h : Numbered repo.events) (limit : ℕ) :
    repo.eventsSince 0 limit = repo.events.take limit := by
  unfold InMemoryRepo.eventsSince
  rw [List.filter_eq_self.mpr]
  intro row hrow
  obtain ⟨i, hi⟩ := List.mem_iff_getElem?.mp hrow
  have := seq_of_getElem? h hi
  simp only [decide_eq_true_eq]
  omega

theorem inv_readLog {s : State} (h : Inv L s) {records : List NodeRecord} {mark : ℕ}
    (hsnap : s.snapshot = .readRecords records mark) (tsMs : ℤ) :
    Inv L ⟨s.repo, s.pending,
      .served (FederationHandlers.snapshot L records (s.repo.eventsSince 0 1000000) tsMs) mark⟩ where
  store := h.store
  settles := h.settles
  numbered := h.numbered
  snapshot := by
    have hinv := h.snapshot
    rw [hsnap] at hinv
    obtain ⟨hmark, hagree⟩ := hinv
    refine ⟨hmark, records, _, tsMs, rfl, ⟨min 1000000 s.repo.events.length, min_le_right _ _, ?_⟩,
      fun nodeId _ => hagree nodeId⟩
    rw [eventsSince_zero h.numbered]
    exact List.take_eq_take_min

/-- **Every step that meets the condition keeps the invariant.** -/
theorem inv_step (s : State) (a : Action) (h : Inv L s) (ha : Orderly s a) :
    Inv L (step L key s a) := by
  cases a with
  | register p =>
    exact inv_mutate h (s.repo.register p.record) rfl (settles_event p)
      (isSome_find_register s.repo p)
  | deregister nodeId =>
    unfold step
    dsimp only
    split
    · exact inv_mutate h (s.repo.deregister nodeId).2 rfl (settles_deregisterEvent nodeId)
        (isSome_find_deregister s.repo nodeId)
    · exact h
  | emit i draw =>
    unfold step
    dsimp only
    split
    · exact h
    · rename_i ev hev
      exact inv_emitted h hev draw ha.1 ha.2
  | abandon i => exact absurd ha (fun hf => hf)
  | readRecords =>
    unfold step
    dsimp only
    split
    · exact inv_readRecords h
    · exact h
  | readLog tsMs =>
    unfold step
    dsimp only
    split
    · rename_i records mark hsnap
      exact inv_readLog h hsnap tsMs
    · exact h

/-! ## What a replica makes of the snapshot and the tail -/

theorem lists_snapshotNodeJson (nodeId : String) (r : NodeRecord) :
    Replica.lists nodeId (snapshotNodeJson r) = (r.id == nodeId) := by
  simp [Replica.lists, snapshotNodeJson, Json.getStr, NodeRecord.id]

/-- **A snapshot puts on record what its records list.** -/
theorem isSome_find_applySnapshot (records : List NodeRecord) (rows : List EventRow) (tsMs : ℤ)
    (nodeId : String) :
    ((applySnapshot InMemoryRepo.empty
        (FederationHandlers.snapshot L records rows tsMs)).2.find nodeId).isSome
      = listsNode records nodeId := by
  have hentries : entriesOf (FederationHandlers.snapshot L records rows tsMs) nodeId
      = (records.filter (fun r => r.id == nodeId)).map snapshotNodeJson := by
    show (records.map snapshotNodeJson).filter (Replica.lists nodeId) = _
    rw [List.filter_map]
    congr 1
    refine List.filter_congr fun r _ => lists_snapshotNodeJson nodeId r
  rw [find_applySnapshot]
  cases hlast : entryOf (FederationHandlers.snapshot L records rows tsMs) nodeId with
  | none =>
    rw [entryOf, hentries, List.getLast?_eq_none_iff, List.map_eq_nil_iff,
      List.filter_eq_nil_iff] at hlast
    symm
    show decide (nodeId ∈ records.map NodeRecord.id) = false
    rw [decide_eq_false_iff_not, List.mem_map]
    rintro ⟨r, hr, hid⟩
    exact hlast r hr (by simpa using hid)
  | some n =>
    obtain ⟨rec, hrec, _⟩ := snapshotRecord_of_lists
      (snapshotCapabilities (FederationHandlers.snapshot L records rows tsMs))
      (lists_of_entryOf hlast)
    simp only [hrec, Option.map_some, Option.isSome_some]
    symm
    show decide (nodeId ∈ records.map NodeRecord.id) = true
    rw [decide_eq_true_iff, List.mem_map]
    have hmem := List.mem_of_getLast? hlast
    rw [hentries, List.mem_map] at hmem
    obtain ⟨r, hr, _⟩ := hmem
    obtain ⟨hr, hid⟩ := List.mem_filter.mp hr
    exact ⟨r, hr, by simpa using hid⟩

/-- The number of a snapshot is that of the last row it read. -/
theorem seq_of_validated {records : List NodeRecord} {rows : List EventRow} {tsMs seq : ℤ}
    (h : validatedSnapshotSeq (FederationHandlers.snapshot L records rows tsMs) = some seq) :
    seq = (rows.getLast?.map EventRow.seq).getD 0 := by
  have hschema : (FederationHandlers.snapshot L records rows tsMs).getStr "schema_version"
      = some "v0.3.0" := rfl
  have hseq : (FederationHandlers.snapshot L records rows tsMs).get "snapshot_seq"
      = some (Json.ofInt ((rows.getLast?.map EventRow.seq).getD 0)) := rfl
  unfold validatedSnapshotSeq at h
  rw [hschema, hseq] at h
  simp only [Option.bind_eq_bind, Option.bind_some] at h
  cases hi : (Json.ofInt ((rows.getLast?.map EventRow.seq).getD 0)).asI64 with
  | none => simp [hi] at h
  | some i =>
    rw [hi, Option.bind_some] at h
    split at h
    · exact absurd h (by simp)
    · rw [← Option.some.inj h]
      exact Json.eq_of_asI64_ofInt hi

/-- Where the events of a sequence all settle, the last one decides, if there
is one. -/
theorem foldl_listed_eq {events : List NewEvent} (h : ∀ ev ∈ events, Settles ev)
    (hne : events ≠ []) (was was' : Bool) : events.foldl listed was = events.foldl listed was' := by
  cases events with
  | nil => exact absurd rfl hne
  | cons ev rest =>
    obtain ⟨is, his⟩ := h ev List.mem_cons_self
    rw [List.foldl_cons, List.foldl_cons, his, his]

/-- **No event falls between snapshot and tail**, in the runs whose steps all
meet the condition: a replica that takes the served snapshot and then every
event after its number lists a node, once no handler for it is between its
steps, exactly where the whole log lists it. -/
theorem snapshot_complete (L : Libs) (key did : String) (actions : List Action)
    (hrun : Run.Along (step L key) Orderly State.empty actions) (body : Json) (mark : ℕ)
    (hserved : (Run.after (step L key) State.empty actions).snapshot = .served body mark) (seq : ℤ)
    (hseq : validatedSnapshotSeq body = some seq) (nodeId : String)
    (hquiet : ∀ ev ∈ (Run.after (step L key) State.empty actions).pending, ev.nodeId ≠ nodeId) :
    nodeId ∈ (replay L (applySnapshot InMemoryRepo.empty body).2
        (((Run.after (step L key) State.empty actions).repo.events.filter
          (fun r => seq < r.seq)).map (federatedEvent did))).nodeIds
      ↔ nodeId ∈ (replay L InMemoryRepo.empty
        ((Run.after (step L key) State.empty actions).repo.events.map
          (federatedEvent did))).nodeIds := by
  have hinv : Inv L (Run.after (step L key) State.empty actions) :=
    Run.invariant_along inv_step inv_empty hrun
  revert hinv hserved hquiet
  generalize Run.after (step L key) State.empty actions = s
  intro hserved hquiet hinv
  have hsnap := hinv.snapshot
  rw [hserved] at hsnap
  obtain ⟨_, records, rows, tsMs, rfl, ⟨n, hn, rfl⟩, hagree⟩ := hsnap
  obtain rfl : seq = (n : ℤ) := (seq_of_validated hseq).trans (seq_getLast_take hinv.numbered hn)
  have hlen : (s.repo.events.take n).length = n := by
    rw [List.length_take]
    omega
  rw [hlen, State.log, ← List.map_drop] at hagree
  rw [InMemoryRepo.mem_nodeIds_iff, InMemoryRepo.mem_nodeIds_iff, filter_seq_eq_drop hinv.numbered,
    isSome_find_replay_rows, isSome_find_replay_rows, isSome_find_applySnapshot, ← Bool.eq_iff_iff]
  -- the log up to the number, and after it
  have hsplit : s.repo.events.map EventRow.newEvent
      = (s.repo.events.take n).map EventRow.newEvent
        ++ (s.repo.events.drop n).map EventRow.newEvent := by
    rw [← List.map_append, List.take_append_drop]
  by_cases htail : Outbox.concerning NewEvent.nodeId nodeId
      ((s.repo.events.drop n).map EventRow.newEvent) = []
  · rw [htail]
    have hthen := hagree nodeId (Outbox.concerning_eq_nil.mp htail)
    refine hthen.trans ?_
    refine Outbox.value_append_of_forall_ne (fun ev hev => ?_) _
    exact hquiet ev (List.mem_of_mem_take hev)
  · -- the tail has an event of the node, and the last one settles it
    rw [hsplit, Outbox.concerning_append, List.foldl_append]
    refine foldl_listed_eq (fun ev hev => ?_) htail _ _
    refine hinv.settles ev (List.mem_append_left _ ?_)
    show ev ∈ s.repo.events.map EventRow.newEvent
    rw [hsplit]
    exact List.mem_append_right _ (List.mem_filter.mp hev).1

end Seed

namespace Sample

open Seed

/-- A capability of the sample: an intent, and nothing else declared. -/
def chat : EffectiveCapability where
  intent := "urn:iicp:intent:llm:chat:v1"
  version := none
  phase := none
  variantId := none
  models := []
  maxTokens := none
  quantization := none
  inferenceEngine := none
  inputModalities := []
  outputModalities := []
  features := []
  executionCapabilities := []
  limits := []
  supportedProfiles := []
  claimProvenance := none
  extensions := []

/-- The registration of a node of the sample. -/
def registration (nodeId endpoint : String) : PendingRegistration where
  request := { endpoint := endpoint, capabilities := [chat] }
  nodeId := nodeId
  nodeToken := "node-token"
  proxyToken := "proxy-token"
  nodeHmacKey := "hmac-key"

/-- `n1` registers, the snapshot is read, and `n2` registers. -/
def snapshotBetween : List Action :=
  [.register (registration "n1" "https://n1.test"), .emit 0 ⟨"evt-1", 1⟩, .readRecords, .readLog 2,
   .register (registration "n2" "https://n2.test"), .emit 0 ⟨"evt-2", 3⟩]

/-- `n1` registers between the two reads of the snapshot. -/
def registeredBetweenReads : List Action :=
  [.readRecords, .register (registration "n1" "https://n1.test"), .emit 0 ⟨"evt-1", 1⟩, .readLog 2]

end Sample

namespace Seed

open Replica FederationHandlers

/-- The first event that waits is in order. -/
theorem inOrder_zero (pending : List NewEvent) : Outbox.InOrder NewEvent.nodeId pending 0 :=
  fun _ _ _ h => absurd h (by simp)

/-- In the sample the node that registers after the snapshot comes with the
tail. -/
theorem snapshot_complete_sample :
    ∃ body mark, (Run.after (step Sample.libs Sample.secretKeyHex) State.empty
        Sample.snapshotBetween).snapshot = .served body mark
      ∧ validatedSnapshotSeq body = some 1
      ∧ "n2" ∈ (replay Sample.libs (applySnapshot InMemoryRepo.empty body).2
          (((Run.after (step Sample.libs Sample.secretKeyHex) State.empty
            Sample.snapshotBetween).repo.events.filter (fun r => 1 < r.seq)).map
            (federatedEvent Sample.directoryDid))).nodeIds := by
  have hrun : Run.Along (step Sample.libs Sample.secretKeyHex) Orderly State.empty
      Sample.snapshotBetween := by
    refine ⟨trivial, ⟨inOrder_zero _, fun _ _ h => ?_⟩, trivial, trivial, trivial,
      ⟨inOrder_zero _, fun _ _ h => ?_⟩, trivial⟩
    · exact SnapshotHandler.noConfusion h
    · exact SnapshotHandler.noConfusion h
  have hseq : validatedSnapshotSeq (FederationHandlers.snapshot Sample.libs
      [(Sample.registration "n1" "https://n1.test").record]
      [rowAfter Sample.libs Sample.secretKeyHex ⟨0, none⟩
        (Sample.registration "n1" "https://n1.test").event ⟨"evt-1", 1⟩] 2) = some 1 := rfl
  refine ⟨_, 0, rfl, hseq, ?_⟩
  refine (snapshot_complete Sample.libs Sample.secretKeyHex Sample.directoryDid
    Sample.snapshotBetween hrun _ 0 rfl 1 hseq "n2" (fun ev h => absurd h List.not_mem_nil)).mpr ?_
  decide

/-- **A registration falls between snapshot and tail**: its handler changes
the repository after the records are read and appends its event before the
log is, so that the snapshot has the number of the event and not the
node. -/
theorem registration_falls_between :
    ∃ body mark, (Run.after (step Sample.libs Sample.secretKeyHex) State.empty
        Sample.registeredBetweenReads).snapshot = .served body mark
      ∧ (Run.after (step Sample.libs Sample.secretKeyHex) State.empty
          Sample.registeredBetweenReads).pending = []
      ∧ validatedSnapshotSeq body = some 1
      ∧ (replay Sample.libs (applySnapshot InMemoryRepo.empty body).2
          (((Run.after (step Sample.libs Sample.secretKeyHex) State.empty
            Sample.registeredBetweenReads).repo.events.filter (fun r => 1 < r.seq)).map
            (federatedEvent Sample.directoryDid))).nodeIds = []
      ∧ (replay Sample.libs InMemoryRepo.empty
          ((Run.after (step Sample.libs Sample.secretKeyHex) State.empty
            Sample.registeredBetweenReads).repo.events.map
            (federatedEvent Sample.directoryDid))).nodeIds = ["n1"] := by
  refine ⟨_, 0, rfl, rfl, ?_, ?_, ?_⟩ <;> decide

end Seed
