import IicpDirectory.Seed.Liveness

/-!
# Who is still there

Four queries return nodes, and each has the condition of freshness for
itself: available, and heard of within ninety seconds – or never. What
writes the column they look at is the heartbeat alone: a registration leaves
it as it is, and the sweep passes over the rows where it is empty. So a node
that registers and falls silent before its first heartbeat is returned for
good.

`returned_heard_iff` is the whole of it: after any run, the queries return
only nodes that registered or sent a heartbeat within ninety seconds, exactly
where each available node that never sent one registered within them. What
is heard of a node is kept in two lists that no step reads.

The clock is that of the database, which tells whole seconds.
-/

namespace MySqlRepo

variable {fold : String → String}

/-- The condition of freshness: available, and heard of within ninety
seconds, or never. -/
def live (nowMs : ℤ) (r : NodeRow) : Bool :=
  r.available && r.lastSeenMs.all (fun seen => wholeSeconds nowMs - 90000 ≤ seen)

/-- `ORDER BY last_seen DESC`: what is `NULL` comes last. -/
def seenAfter (a b : NodeRow) : Prop :=
  match a.lastSeenMs, b.lastSeenMs with
  | some s, some t => t ≤ s
  | _, none => True
  | none, some _ => False

instance (a b : NodeRow) : Decidable (seenAfter a b) := by
  unfold seenAfter
  split <;> infer_instance

/-- `MySqlRepo::active_nodes`. -/
def activeNodes (repo : MySqlRepo fold) (nowMs : ℤ) : List NodeRow :=
  repo.nodes.rows.filter (live nowMs)

/-- `MySqlRepo::active_count`. -/
def activeCount (repo : MySqlRepo fold) (nowMs : ℤ) : ℕ := (repo.activeNodes nowMs).length

/-- `MySqlRepo::bootstrap`; the limit is read into 32 bits. -/
def bootstrap (repo : MySqlRepo fold) (limit : ℕ) (nowMs : ℤ) : List NodeRow :=
  ((repo.activeNodes nowMs).insertionSort seenAfter).take (limit % 2 ^ 32)

/-- `MySqlRepo::peers_excluding`: the limit is in the statement where no peer
is known, and where some are it is applied to the first hundred that are
not. -/
def peersExcluding (repo : MySqlRepo fold) (knownIds : List String) (limit : ℕ) (nowMs : ℤ) :
    List NodeRow :=
  let cap := if limit = 0 then 10 else if 20 < limit then 20 else limit
  let newest := (repo.activeNodes nowMs).insertionSort seenAfter
  if knownIds.isEmpty then newest.take cap
  else ((newest.take 100).filter (fun r => !knownIds.contains r.id)).take cap

/-- A query for nodes. -/
inductive NodeQuery
  | discover (q : DiscoverQuery)
  | activeNodes
  | bootstrap (limit : ℕ)
  | peersExcluding (knownIds : List String) (limit : ℕ)

/-- The rows it returns. -/
def returned (repo : MySqlRepo fold) (nowMs : ℤ) : NodeQuery → List NodeRow
  | .discover q => repo.discover q nowMs
  | .activeNodes => repo.activeNodes nowMs
  | .bootstrap limit => repo.bootstrap limit nowMs
  | .peersExcluding knownIds limit => repo.peersExcluding knownIds limit nowMs

/-- **No query returns a node that is not fresh.** -/
theorem live_of_returned {repo : MySqlRepo fold} {nowMs : ℤ} {query : NodeQuery} {r : NodeRow}
    (h : r ∈ repo.returned nowMs query) : r ∈ repo.nodes.rows ∧ live nowMs r = true := by
  have hnewest : ∀ {n : ℕ}, r ∈ ((repo.activeNodes nowMs).insertionSort seenAfter).take n →
      r ∈ repo.nodes.rows ∧ live nowMs r = true := fun hr =>
    List.mem_filter.mp ((List.mem_insertionSort _).mp (List.mem_of_mem_take hr))
  cases query with
  | discover q =>
    obtain ⟨hmem, hmatch⟩ := List.mem_filter.mp
      ((List.mem_insertionSort _).mp (List.mem_of_mem_take h))
    refine ⟨hmem, ?_⟩
    unfold matchesQuery at hmatch
    simp only [Bool.and_eq_true] at hmatch
    unfold live
    rw [Bool.and_eq_true]
    exact ⟨hmatch.1.1.1.1.2, hmatch.2⟩
  | activeNodes => exact List.mem_filter.mp h
  | bootstrap limit => exact hnewest h
  | peersExcluding knownIds limit =>
    replace h : r ∈ repo.peersExcluding knownIds limit nowMs := h
    unfold peersExcluding at h
    dsimp only at h
    split at h
    · exact hnewest h
    · exact hnewest (List.mem_filter.mp (List.mem_of_mem_take h)).1

end MySqlRepo

/-! ## The runs -/

namespace Discovery

variable {fold : String → String}

/-- **The seed**: its tables, the nodes its sweep has selected, and the time.
No step reads what was heard: the registrations and the heartbeats, each
with its node and its time. -/
structure State (fold : String → String) where
  repo : MySqlRepo fold
  selected : List String
  clockMs : ℤ
  registrations : List (String × ℤ)
  heartbeats : List (String × ℤ)

/-- A seed that starts. -/
def State.empty (fold : String → String) : State fold := ⟨.empty fold, [], 0, [], []⟩

/-- What happens to a seed. The sweep is two statements. -/
inductive Action
  | register (p : PendingRegistration)
  | heartbeat (req : MySqlRepo.HeartbeatRequest)
  | applyProbeRouteState (nodeId : String) (passed : Bool)
  | selectStale
  | markDormant

/-- An action, the time that passed before it, and whether the database
executes it. -/
structure Step where
  elapsedMs : ℕ
  action : Action
  executed : Bool

/-- What an action does at a time. -/
def act (s : State fold) (nowMs : ℤ) : Action → State fold
  | .register p =>
    { s with
      repo := s.repo.registered p
      registrations := (p.nodeId, nowMs) :: s.registrations }
  | .heartbeat req =>
    match s.repo.heartbeatOnce req nowMs with
    | none => s
    | some (_, repo) =>
      { s with
        repo := repo
        heartbeats := (req.nodeId, nowMs) :: s.heartbeats }
  | .applyProbeRouteState nodeId passed =>
    match s.repo.applyProbeRouteState nodeId passed nowMs with
    | none => s
    | some (_, repo) => { s with repo := repo }
  | .selectStale => { s with selected := s.repo.selectStale nowMs }
  | .markDormant =>
    { s with
      repo := s.repo.markDormant s.selected nowMs
      selected := [] }

/-- **One step.** -/
def step (s : State fold) (i : Step) : State fold :=
  let nowMs := s.clockMs + i.elapsedMs
  if i.executed then { act s nowMs i.action with clockMs := nowMs } else { s with clockMs := nowMs }

/-- The node was heard of in a list within ninety seconds. -/
def HeardIn (fold : String → String) (heard : List (String × ℤ)) (nowMs : ℤ) (nodeId : String) :
    Prop :=
  ∃ h ∈ heard, fold h.1 = fold nodeId ∧ MySqlRepo.wholeSeconds nowMs - 90000 ≤ h.2 ∧ h.2 ≤ nowMs

/-- **The node registered or sent a heartbeat within ninety seconds.** -/
def State.Heard (s : State fold) (nowMs : ℤ) (nodeId : String) : Prop :=
  HeardIn fold s.registrations nowMs nodeId ∨ HeardIn fold s.heartbeats nowMs nodeId

/-- **What the rows say of the heartbeats**: the time in a row is that of a
heartbeat of its node, and the row of a node that sent one has a time. None
is in the future. -/
structure Inv (s : State fold) : Prop where
  seen : ∀ nodeId row seen, s.repo.find nodeId = some row → row.lastSeenMs = some seen →
    ∃ h ∈ s.heartbeats, fold h.1 = fold nodeId ∧ MySqlRepo.wholeSeconds h.2 = seen
  kept : ∀ h ∈ s.heartbeats, ∃ row, s.repo.find h.1 = some row ∧ row.lastSeenMs.isSome
  past : ∀ h ∈ s.heartbeats, h.2 ≤ s.clockMs

theorem inv_empty : Inv (State.empty fold) where
  seen := fun _ _ _ h => absurd h (by simp [State.empty, MySqlRepo.find, MySqlRepo.empty])
  kept := fun _ h => absurd h List.not_mem_nil
  past := fun _ h => absurd h List.not_mem_nil

/-- A step that leaves the times of the rows, and may add rows without one. -/
theorem inv_of_lastSeen {s s' : State fold} (h : Inv s)
    (hrow : ∀ nodeId, ((s'.repo.find nodeId).bind NodeRow.lastSeenMs)
      = (s.repo.find nodeId).bind NodeRow.lastSeenMs)
    (hheartbeats : s'.heartbeats = s.heartbeats) (hclock : s.clockMs ≤ s'.clockMs) : Inv s' := by
  refine ⟨fun nodeId row seen hfind hseen => ?_, fun hb hmem => ?_, fun hb hmem => ?_⟩
  · have hbind : (s.repo.find nodeId).bind NodeRow.lastSeenMs = some seen := by
      rw [← hrow, hfind]
      exact hseen
    obtain ⟨old, hold, holdSeen⟩ := Option.bind_eq_some_iff.mp hbind
    rw [hheartbeats]
    exact h.seen nodeId old seen hold holdSeen
  · rw [hheartbeats] at hmem
    obtain ⟨old, hold, hsome⟩ := h.kept hb hmem
    obtain ⟨seen, hseen⟩ := Option.isSome_iff_exists.mp hsome
    have hbind : (s'.repo.find hb.1).bind NodeRow.lastSeenMs = some seen := by
      rw [hrow, hold]
      exact hseen
    obtain ⟨row, hfind, hrowSeen⟩ := Option.bind_eq_some_iff.mp hbind
    exact ⟨row, hfind, Option.isSome_iff_exists.mpr ⟨seen, hrowSeen⟩⟩
  · rw [hheartbeats] at hmem
    exact (h.past hb hmem).trans hclock

theorem lastSeen_registered (repo : MySqlRepo fold) (p : PendingRegistration) (nodeId : String) :
    ((repo.registered p).find nodeId).bind NodeRow.lastSeenMs
      = (repo.find nodeId).bind NodeRow.lastSeenMs := by
  rw [MySqlRepo.find_registered]
  split
  · next hfold =>
    rw [repo.find_congr hfold]
    cases repo.find p.nodeId <;> rfl
  · rfl

theorem lastSeen_applyProbeRouteState {repo repo' : MySqlRepo fold} {probed : String}
    {passed : Bool} {nowMs : ℤ} {row : NodeRow}
    (h : repo.applyProbeRouteState probed passed nowMs = some (row, repo')) (nodeId : String) :
    (repo'.find nodeId).bind NodeRow.lastSeenMs = (repo.find nodeId).bind NodeRow.lastSeenMs := by
  rw [(MySqlRepo.find_applyProbeRouteState h nodeId).2]
  split
  · cases repo.find nodeId with
    | none => rfl
    | some r =>
      show (MySqlRepo.routeRow nowMs r (MySqlRepo.transitionOf r passed)).lastSeenMs = r.lastSeenMs
      cases MySqlRepo.transitionOf r passed <;> rfl
  · rfl

theorem lastSeen_markDormant (repo : MySqlRepo fold) (ids : List String) (nowMs : ℤ)
    (nodeId : String) :
    ((repo.markDormant ids nowMs).find nodeId).bind NodeRow.lastSeenMs
      = (repo.find nodeId).bind NodeRow.lastSeenMs := by
  rw [MySqlRepo.find_markDormant]
  cases repo.find nodeId with
  | none => rfl
  | some r =>
    show (if _ then _ else _ : NodeRow).lastSeenMs = r.lastSeenMs
    split <;> rfl

/-- A heartbeat writes its time into the row of its node. -/
theorem inv_heartbeat {s : State fold} (h : Inv s) {req : MySqlRepo.HeartbeatRequest} {nowMs : ℤ}
    (hclock : s.clockMs ≤ nowMs) {row : NodeRow} {repo : MySqlRepo fold}
    (hbeat : s.repo.heartbeatOnce req nowMs = some (row, repo)) :
    Inv { s with
      repo := repo
      heartbeats := (req.nodeId, nowMs) :: s.heartbeats
      clockMs := nowMs } := by
  refine ⟨fun nodeId found seen hfind hseen => ?_, fun hb hmem => ?_, fun hb hmem => ?_⟩
  · replace hfind : repo.find nodeId = some found := hfind
    rw [(MySqlRepo.find_heartbeatOnce hbeat nodeId).2] at hfind
    split at hfind
    · next hfold =>
      obtain ⟨old, _, rfl⟩ := Option.map_eq_some_iff.mp hfind
      exact ⟨(req.nodeId, nowMs), List.mem_cons_self, hfold.symm, Option.some.inj hseen⟩
    · obtain ⟨hb, hmem, hrest⟩ := h.seen nodeId found seen hfind hseen
      exact ⟨hb, List.mem_cons_of_mem _ hmem, hrest⟩
  · show ∃ found, repo.find hb.1 = some found ∧ _
    obtain ⟨hreq, hfind⟩ := MySqlRepo.find_heartbeatOnce hbeat hb.1
    rw [hfind]
    rcases List.mem_cons.mp hmem with rfl | hold
    · rw [if_pos rfl, hreq]
      exact ⟨_, rfl, rfl⟩
    · obtain ⟨old, hold, hsome⟩ := h.kept hb hold
      rw [hold]
      split
      · exact ⟨_, rfl, rfl⟩
      · exact ⟨old, rfl, hsome⟩
  · rcases List.mem_cons.mp hmem with rfl | hold
    · exact le_refl nowMs
    · exact (h.past hb hold).trans hclock

/-- **Every step keeps what the rows say of the heartbeats.** -/
theorem inv_step (s : State fold) (i : Step) (h : Inv s) : Inv (step s i) := by
  have hclock : s.clockMs ≤ s.clockMs + i.elapsedMs := Int.le_add_of_nonneg_right (by omega)
  unfold step
  dsimp only
  split
  · cases i.action with
    | register p => exact inv_of_lastSeen h (lastSeen_registered s.repo p) rfl hclock
    | heartbeat req =>
      unfold act
      dsimp only
      split
      · exact inv_of_lastSeen h (fun _ => rfl) rfl hclock
      · next hbeat => exact inv_heartbeat h hclock hbeat
    | applyProbeRouteState nodeId passed =>
      unfold act
      dsimp only
      split
      · exact inv_of_lastSeen h (fun _ => rfl) rfl hclock
      · next hprobe => exact inv_of_lastSeen h (lastSeen_applyProbeRouteState hprobe) rfl hclock
    | selectStale => exact inv_of_lastSeen h (fun _ => rfl) rfl hclock
    | markDormant => exact inv_of_lastSeen h (lastSeen_markDormant s.repo _ _) rfl hclock
  · exact inv_of_lastSeen h (fun _ => rfl) rfl hclock

/-! ## What the queries return -/

theorem wholeSeconds_le (ms : ℤ) : MySqlRepo.wholeSeconds ms ≤ ms := by
  unfold MySqlRepo.wholeSeconds
  omega

/-- A fresh row with a time is that of a node that sent a heartbeat. -/
theorem heard_of_seen {s : State fold} (h : Inv s) {nowMs : ℤ} (hclock : s.clockMs ≤ nowMs)
    {row : NodeRow} (hrow : row ∈ s.repo.nodes.rows) {seen : ℤ} (hseen : row.lastSeenMs = some seen)
    (hlive : MySqlRepo.live nowMs row = true) : HeardIn fold s.heartbeats nowMs row.id := by
  have hfind : s.repo.find row.id = some row := Table.find_eq_some_iff.mpr ⟨hrow, rfl⟩
  obtain ⟨hb, hmem, hfold, rfl⟩ := h.seen row.id row seen hfind hseen
  unfold MySqlRepo.live at hlive
  rw [hseen, Bool.and_eq_true] at hlive
  have hfresh : MySqlRepo.wholeSeconds nowMs - 90000 ≤ MySqlRepo.wholeSeconds hb.2 := by
    simpa using hlive.2
  exact ⟨hb, hmem, hfold, hfresh.trans (wholeSeconds_le hb.2), (h.past hb hmem).trans hclock⟩

/-- One without is that of a node that sent none. -/
theorem not_heard_of_unseen {s : State fold} (h : Inv s) {nowMs : ℤ} {row : NodeRow}
    (hrow : row ∈ s.repo.nodes.rows) (hseen : row.lastSeenMs = none) :
    ¬ HeardIn fold s.heartbeats nowMs row.id := by
  rintro ⟨hb, hmem, hfold, _⟩
  obtain ⟨found, hfound, hsome⟩ := h.kept hb hmem
  have hfind : s.repo.find row.id = some row := Table.find_eq_some_iff.mpr ⟨hrow, rfl⟩
  rw [s.repo.find_congr hfold, hfind] at hfound
  rw [← Option.some.inj hfound, hseen] at hsome
  exact absurd hsome (by simp)

/-- **The nodes the queries return are heard of**, after any run and at any
time, exactly where each available node that never sent a heartbeat
registered within ninety seconds. -/
theorem returned_heard_iff (fold : String → String) (steps : List Step) (elapsedMs : ℕ) :
    let s := Run.after step (State.empty fold) steps
    let nowMs := s.clockMs + elapsedMs
    (∀ query, ∀ row ∈ s.repo.returned nowMs query, s.Heard nowMs row.id)
      ↔ ∀ row ∈ s.repo.nodes.rows, row.available = true → row.lastSeenMs = none →
          HeardIn fold s.registrations nowMs row.id := by
  intro s nowMs
  have hinv : Inv s := Run.invariant inv_step inv_empty steps
  have hclock : s.clockMs ≤ nowMs := Int.le_add_of_nonneg_right (by omega)
  constructor
  · intro hall row hrow havailable hseen
    have hlive : MySqlRepo.live nowMs row = true := by
      unfold MySqlRepo.live
      rw [havailable, hseen]
      rfl
    -- the query without a limit returns it
    rcases hall .activeNodes row (List.mem_filter.mpr ⟨hrow, hlive⟩) with hheard | hheard
    · exact hheard
    · exact absurd hheard (not_heard_of_unseen hinv hrow hseen)
  · intro hnew query row hreturned
    obtain ⟨hrow, hlive⟩ := MySqlRepo.live_of_returned hreturned
    cases hseen : row.lastSeenMs with
    | some seen => exact Or.inr (heard_of_seen hinv hclock hrow hseen hlive)
    | none =>
      have havailable : row.available = true := by
        unfold MySqlRepo.live at hlive
        exact (Bool.and_eq_true _ _ ▸ hlive).1
      exact Or.inl (hnew row hrow havailable hseen)

end Discovery

namespace Sample

open Discovery

/-- A node registers and is not heard of again; three minutes later the sweep
runs. -/
def silentNode : List Step :=
  [⟨0, .register (registration "n1" "https://n1.test"), true⟩,
   ⟨180000, .selectStale, true⟩,
   ⟨0, .markDormant, true⟩]

end Sample

namespace Discovery

/-- **A silent node is returned for good.** -/
theorem silent_node_returned :
    let s := Run.after step (State.empty Sample.lowercase) Sample.silentNode
    (s.repo.returned 180000 .activeNodes).map NodeRow.id = ["n1"]
      ∧ (s.repo.returned 180000 (.bootstrap 10)).map NodeRow.id = ["n1"]
      ∧ (s.repo.returned 180000 (.peersExcluding [] 10)).map NodeRow.id = ["n1"]
      ∧ ¬ s.Heard 180000 "n1" := by
  refine ⟨by decide, by decide, by decide, ?_⟩
  rintro (⟨h, hmem, _, hwithin, _⟩ | ⟨h, hmem, _⟩)
  · obtain rfl := List.mem_singleton.mp hmem
    exact absurd hwithin (by decide)
  · exact absurd hmem List.not_mem_nil

end Discovery
