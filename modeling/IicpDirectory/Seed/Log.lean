import IicpDirectory.Foundations.Run
import IicpDirectory.Federation
import IicpDirectory.Repo

/-!
# The log a seed writes

Whoever appends to the log of a seed does the same three things: read the
head of the chain, make the row that follows it, and move the head to the
row. `rowAfter` is the row, and `SeedChain` is what the rows of a log are
when every one of them was made so: numbered from one, linked, and signed.

The in-memory repository keeps no head: it reads the number and the
signature of the last row off the list, under the lock of the list.
-/

open Federation

/-- The head of the chain: the number and the signature of the last row. -/
structure ChainHead where
  lastSeq : ℤ
  lastSignature : Option String
  deriving DecidableEq

/-- An event to append. -/
structure NewEvent where
  eventType : String
  nodeId : String
  payload : Json

/-- What an appender draws: an event identity, and the time. -/
structure Draw where
  eventId : String
  nowMs : ℤ

/-- **The row that follows a head**: the next number, the link to the last
signature, and a signature over both – none under a malformed key. -/
def rowAfter (L : Libs) (key : String) (head : ChainHead) (ev : NewEvent) (draw : Draw) :
    EventRow :=
  let seq := head.lastSeq + 1
  let prevHash := prevHashFrom L head.lastSignature
  { seq := seq
    eventId := draw.eventId
    eventType := ev.eventType
    nodeId := ev.nodeId
    tsMs := draw.nowMs
    payload := ev.payload
    prevHash := some prevHash
    sig := signEvent L key draw.eventId ev.eventType seq draw.nowMs ev.payload prevHash }

/-- The event a row records. -/
def EventRow.newEvent (row : EventRow) : NewEvent := ⟨row.eventType, row.nodeId, row.payload⟩

@[simp] theorem newEvent_rowAfter (L : Libs) (key : String) (head : ChainHead) (ev : NewEvent)
    (draw : Draw) : (rowAfter L key head ev draw).newEvent = ev := rfl

/-- The head a row leaves. -/
def EventRow.asHead (row : EventRow) : ChainHead := ⟨row.seq, row.sig⟩

/-- The head a chain of rows has. -/
def headOf (rows : List EventRow) : ChainHead :=
  ⟨rows.length, rows.getLast?.bind EventRow.sig⟩

/-- A row carries a signature over its own content. -/
def Signs (L : Libs) (pk : String) (row : EventRow) : Prop :=
  ∃ prevHash sig, row.prevHash = some prevHash ∧ row.sig = some sig
    ∧ verifyEvent L pk sig
        (eventMessage L row.eventId row.eventType row.seq row.tsMs row.payload prevHash) = true

/-- **The chain of a seed**: numbered from one without a gap or a repeat,
the first row linked to the genesis root and each later one to the
signature before it, every signature valid under the seed's key. -/
structure SeedChain (L : Libs) (pk : String) (rows : List EventRow) : Prop where
  numbered : rows.map EventRow.seq = (List.range rows.length).map (fun i : ℕ => (i : ℤ) + 1)
  first : ∀ row ∈ rows.head?, row.prevHash = some genesisRoot
  linked : rows.IsChain (fun prev row => row.prevHash = some (prevHashFrom L prev.sig))
  signed : ∀ row ∈ rows, Signs L pk row

/-- What a query for the rows after a number answers: of the rows with a
greater number, in ascending order, the first so many. -/
def IsPageOf (rows : List EventRow) (sinceSeq : ℤ) (limit : ℕ) (page : List EventRow) : Prop :=
  ∃ rest, (page ++ rest).Perm (rows.filter (fun r => sinceSeq < r.seq))
    ∧ (page ++ rest).Pairwise (fun a b => a.seq ≤ b.seq)
    ∧ page.length = min limit (rows.filter (fun r => sinceSeq < r.seq)).length

variable {L : Libs} {key : String} {seed : Bytes}

/-! ## Rows numbered from one -/

/-- Rows numbered from one, without a gap or a repeat. -/
abbrev Numbered (rows : List EventRow) : Prop :=
  rows.map EventRow.seq = (List.range rows.length).map (fun i : ℕ => (i : ℤ) + 1)

/-- The numbers go on. -/
theorem numbered_append {rows : List EventRow} (h : Numbered rows) (ev : NewEvent) (draw : Draw) :
    Numbered (rows ++ [rowAfter L key (headOf rows) ev draw]) := by
  unfold Numbered at h ⊢
  rw [List.map_append, h, List.length_append, List.length_singleton, List.range_succ,
    List.map_append]
  rfl

/-- The number of a row of the log is its place. -/
theorem seq_of_getElem? {rows : List EventRow} (h : Numbered rows) {i : ℕ} {row : EventRow}
    (hrow : rows[i]? = some row) : row.seq = (i : ℤ) + 1 := by
  obtain ⟨hlt, _⟩ := List.getElem?_eq_some_iff.mp hrow
  have hseq := congrArg (fun l : List ℤ => l[i]?) h
  simp only [List.getElem?_map, hrow, Option.map_some, List.getElem?_range hlt] at hseq
  exact Option.some.inj hseq

/-- The rows after the `n`-th are those with a greater number. -/
theorem filter_seq_eq_drop {rows : List EventRow} (h : Numbered rows) (n : ℕ) :
    rows.filter (fun r => (n : ℤ) < r.seq) = rows.drop n := by
  have hbefore : (rows.take n).filter (fun r => (n : ℤ) < r.seq) = [] := by
    refine List.filter_eq_nil_iff.mpr fun row hrow => ?_
    obtain ⟨i, hi⟩ := List.mem_iff_getElem?.mp hrow
    rw [List.getElem?_take] at hi
    split at hi
    · have := seq_of_getElem? h hi
      simp only [decide_eq_true_eq]
      omega
    · exact absurd hi (by simp)
  have hafter : (rows.drop n).filter (fun r => (n : ℤ) < r.seq) = rows.drop n := by
    refine List.filter_eq_self.mpr fun row hrow => ?_
    obtain ⟨i, hi⟩ := List.mem_iff_getElem?.mp hrow
    rw [List.getElem?_drop] at hi
    have := seq_of_getElem? h hi
    simp only [decide_eq_true_eq]
    push_cast at this
    omega
  conv_lhs => rw [← List.take_append_drop n rows]
  rw [List.filter_append, hbefore, hafter, List.nil_append]

/-- The last of a beginning of the log has its length as its number. -/
theorem seq_getLast_take {rows : List EventRow} (h : Numbered rows) {n : ℕ}
    (hn : n ≤ rows.length) :
    (((rows.take n).getLast?).map EventRow.seq).getD 0 = (n : ℤ) := by
  have hlen : (rows.take n).length = n := by
    rw [List.length_take]
    omega
  cases n with
  | zero => rfl
  | succ k =>
    rw [List.getLast?_eq_getElem?, hlen, Nat.add_sub_cancel, List.getElem?_take_of_lt (by omega)]
    obtain ⟨row, hrow⟩ : ∃ row, rows[k]? = some row := ⟨_, List.getElem?_eq_getElem (by omega)⟩
    rw [hrow, Option.map_some, Option.getD_some, seq_of_getElem? h hrow]
    push_cast
    rfl

/-! ## A chain grows by the row after its head -/

theorem seedChain_nil (pk : String) : SeedChain L pk [] where
  numbered := rfl
  first := fun _ h => absurd h (by simp)
  linked := List.IsChain.nil
  signed := fun _ h => absurd h List.not_mem_nil

/-- Under a valid key the row after a head is signed. -/
theorem signs_rowAfter (hL : L.Lawful) (hkey : seedOf key = some seed) (head : ChainHead)
    (ev : NewEvent) (draw : Draw) :
    Signs L (pubkeyHexOf L seed) (rowAfter L key head ev draw) := by
  have hsome : (signEvent L key draw.eventId ev.eventType (head.lastSeq + 1) draw.nowMs
      ev.payload (prevHashFrom L head.lastSignature)).isSome = true := by
    unfold signEvent
    rw [hkey]
    rfl
  obtain ⟨sig, hsig⟩ := Option.isSome_iff_exists.mp hsome
  exact ⟨prevHashFrom L head.lastSignature, sig, rfl, hsig, verifyEvent_signEvent hL hkey hsig⟩

/-- **The row after the head of a chain extends the chain.** -/
theorem seedChain_append (hL : L.Lawful) (hkey : seedOf key = some seed) {rows : List EventRow}
    (h : SeedChain L (pubkeyHexOf L seed) rows) (ev : NewEvent) (draw : Draw) :
    SeedChain L (pubkeyHexOf L seed) (rows ++ [rowAfter L key (headOf rows) ev draw]) where
  numbered := numbered_append h.numbered ev draw
  first := by
    intro row hrow
    cases rows with
    | nil =>
      obtain rfl : rowAfter L key (headOf []) ev draw = row := by simpa using hrow
      rfl
    | cons r rs =>
      exact h.first row (by simpa using hrow)
  linked := by
    rw [List.isChain_append]
    refine ⟨h.linked, List.isChain_singleton _, ?_⟩
    intro prev hprev row hrow
    obtain rfl : rowAfter L key (headOf rows) ev draw = row := by simpa using hrow
    have hlast : rows.getLast? = some prev := hprev
    show some (prevHashFrom L (rows.getLast?.bind EventRow.sig)) = _
    rw [hlast]
    rfl
  signed := by
    intro row hrow
    rcases List.mem_append.mp hrow with hold | hnew
    · exact h.signed row hold
    · obtain rfl := List.mem_singleton.mp hnew
      exact signs_rowAfter hL hkey _ _ _

/-- The head moves to the row. -/
theorem headOf_append (rows : List EventRow) (ev : NewEvent) (draw : Draw) :
    headOf (rows ++ [rowAfter L key (headOf rows) ev draw])
      = (rowAfter L key (headOf rows) ev draw).asHead := by
  unfold headOf EventRow.asHead
  rw [List.getLast?_append, List.length_append]
  rfl

/-- The rows of a chain are in the order of their numbers. -/
theorem SeedChain.ascending {pk : String} {rows : List EventRow} (h : SeedChain L pk rows) :
    rows.Pairwise (fun a b => a.seq < b.seq) := by
  have hseqs : (rows.map EventRow.seq).Pairwise (· < ·) := by
    rw [h.numbered, List.pairwise_map]
    exact List.pairwise_lt_range.imp (fun hlt => by omega)
  rwa [List.pairwise_map] at hseqs

/-! ## Pages -/

/-- The first so many of an ordered list of the rows are a page. -/
theorem isPageOf_take {rows ordered : List EventRow} {sinceSeq : ℤ}
    (hperm : ordered.Perm (rows.filter (fun r => sinceSeq < r.seq)))
    (hsorted : ordered.Pairwise (fun a b => a.seq ≤ b.seq)) (limit : ℕ) :
    IsPageOf rows sinceSeq limit (ordered.take limit) := by
  refine ⟨ordered.drop limit, ?_, ?_, ?_⟩
  · rw [List.take_append_drop]
    exact hperm
  · rw [List.take_append_drop]
    exact hsorted
  · rw [List.length_take, hperm.length_eq]

/-! ## The log in memory -/

namespace InMemoryRepo

/-- `InMemoryRepo::append_signed_event`: it never fails; under a malformed
key the row is unsigned. -/
def appendSignedEvent (L : Libs) (key : String) (repo : InMemoryRepo) (ev : NewEvent)
    (draw : Draw) : ℤ × InMemoryRepo :=
  let row := rowAfter L key (headOf repo.events) ev draw
  (row.seq, { repo with events := repo.events ++ [row] })

/-- `InMemoryRepo::events_since`: in the order of the list. -/
def eventsSince (repo : InMemoryRepo) (sinceSeq : ℤ) (limit : ℕ) : List EventRow :=
  (repo.events.filter (fun r => sinceSeq < r.seq)).take limit

/-- `InMemoryRepo::decommission_replica_with_event`: retire the replica,
and append the event if it was known. -/
def decommissionReplicaWithEvent (L : Libs) (key : String) (repo : InMemoryRepo)
    (replicaId did : String) (draw : Draw) : Bool × InMemoryRepo :=
  let (known, repo') := repo.decommissionReplica replicaId
  if known then
    (true, (repo'.appendSignedEvent L key
      ⟨"REPLICA_DEREGISTERED", replicaId, .object [("did", .string did)]⟩ draw).2)
  else (false, repo')

/-- The steps of a repository that reach the log, and the first half of a
decommissioning, which is a step of its own. -/
inductive LogAction
  | appendSignedEvent (ev : NewEvent) (draw : Draw)
  | decommissionReplica (replicaId : String)
  | decommissionReplicaWithEvent (replicaId did : String) (draw : Draw)

/-- One step. -/
def logStep (L : Libs) (key : String) (repo : InMemoryRepo) : LogAction → InMemoryRepo
  | .appendSignedEvent ev draw => (repo.appendSignedEvent L key ev draw).2
  | .decommissionReplica replicaId => (repo.decommissionReplica replicaId).2
  | .decommissionReplicaWithEvent replicaId did draw =>
    (repo.decommissionReplicaWithEvent L key replicaId did draw).2

theorem events_decommissionReplica (repo : InMemoryRepo) (replicaId : String) :
    (repo.decommissionReplica replicaId).2.events = repo.events := by
  unfold decommissionReplica
  split <;> rfl

/-- A step leaves the log alone, or appends the row after its head. -/
theorem events_logStep (repo : InMemoryRepo) (a : LogAction) :
    (logStep L key repo a).events = repo.events
      ∨ ∃ ev draw, (logStep L key repo a).events
          = repo.events ++ [rowAfter L key (headOf repo.events) ev draw] := by
  cases a with
  | appendSignedEvent ev draw => exact Or.inr ⟨ev, draw, rfl⟩
  | decommissionReplica replicaId => exact Or.inl (events_decommissionReplica repo replicaId)
  | decommissionReplicaWithEvent replicaId did draw =>
    have hkeep := events_decommissionReplica repo replicaId
    unfold logStep decommissionReplicaWithEvent
    cases hknown : (repo.decommissionReplica replicaId).1 with
    | false => exact Or.inl (by simpa [hknown] using hkeep)
    | true =>
      refine Or.inr ⟨⟨"REPLICA_DEREGISTERED", replicaId, .object [("did", .string did)]⟩, draw, ?_⟩
      simp [hknown, appendSignedEvent, hkeep]

/-- **In memory, every run keeps the chain.** -/
theorem seedChain_after (hL : L.Lawful) (hkey : seedOf key = some seed) {repo : InMemoryRepo}
    (h : SeedChain L (pubkeyHexOf L seed) repo.events) (actions : List LogAction) :
    SeedChain L (pubkeyHexOf L seed) (Run.after (logStep L key) repo actions).events := by
  have hstep : ∀ (r : InMemoryRepo) a, SeedChain L (pubkeyHexOf L seed) r.events →
      SeedChain L (pubkeyHexOf L seed) (logStep L key r a).events := by
    intro r a hr
    rcases events_logStep r a with hkeep | ⟨ev, draw, happ⟩
    · rw [hkeep]
      exact hr
    · rw [happ]
      exact seedChain_append hL hkey hr ev draw
  exact Run.invariant hstep h actions

/-- In memory, a page is a page. -/
theorem isPageOf_eventsSince {pk : String} {repo : InMemoryRepo} (h : SeedChain L pk repo.events)
    (sinceSeq : ℤ) (limit : ℕ) :
    IsPageOf repo.events sinceSeq limit (repo.eventsSince sinceSeq limit) :=
  isPageOf_take (List.Perm.refl _)
    ((h.ascending.imp (fun hlt => le_of_lt hlt)).sublist List.filter_sublist) limit

end InMemoryRepo
