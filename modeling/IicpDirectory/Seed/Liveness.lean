import IicpDirectory.Foundations.Run
import IicpDirectory.Seed.Heartbeats
import IicpDirectory.Seed.Reputation

/-!
# The sweep of stale nodes

Once a minute a seed looks for the nodes that were not heard of for ninety
seconds. The sweep is three things, one after the other: a `SELECT` of their
identities, an `UPDATE` of the rows with these identities, and an `EVICT`
event for each. Between any two of them heartbeats and registrations come
in, and neither the `UPDATE` nor the events look at the rows again. A
heartbeat that comes in between is overridden, and its node evicted all the
same.

`demotion_is_fresh` is the law for the runs in which no node that was
selected is heard of until its event is logged, and `uptime_alternates` the
one for the log: the runs in which `EVICT` and `REACTIVATE` alternate and
say the status of the node.

The statuses are three texts that the collation tells apart.
-/

open Heartbeats

/-- The event of a node that a sweep made dormant. -/
def evictEvent (nodeId : String) (nowMs : ℤ) : NewEvent :=
  ⟨"EVICT", nodeId, .object
    [("reason", .string "heartbeat_expiry"), ("dormant_since_ms", Json.ofInt nowMs)]⟩

namespace MySqlRepo

variable {fold : String → String}

/-- An active node that was not heard of for ninety seconds. -/
def stale (nowMs : ℤ) (r : NodeRow) : Bool :=
  r.status == "active" && r.lastSeenMs.any (fun seen => seen < wholeSeconds nowMs - 90000)

/-- `MySqlRepo::expire_stale`, the `SELECT`. -/
def selectStale (repo : MySqlRepo fold) (nowMs : ℤ) : List String :=
  (repo.nodes.rows.filter (stale nowMs)).map NodeRow.id

/-- The row a sweep leaves. -/
def dormantRow (nowMs : ℤ) (r : NodeRow) : NodeRow :=
  { r with
    available := false
    status := "dormant"
    dormantSinceMs := some (wholeSeconds nowMs) }

/-- `MySqlRepo::expire_stale`, the `UPDATE`: by identity, and nothing else. -/
def markDormant (repo : MySqlRepo fold) (ids : List String) (nowMs : ℤ) : MySqlRepo fold :=
  { repo with
    nodes := repo.nodes.updateWhere (fun r => ids.any (fun id => fold id == fold r.id))
      (dormantRow nowMs) (fun _ => rfl) }

/-- A node that was dormant for so many days. -/
def longDormant (nowMs : ℤ) (days : ℕ) (r : NodeRow) : Bool :=
  r.status == "dormant"
    && r.dormantSinceMs.any (fun since => since < wholeSeconds nowMs - days * 86400000)

/-- `MySqlRepo::archive_dormant`. -/
def archiveDormant (repo : MySqlRepo fold) (nowMs : ℤ) (days : ℕ) : MySqlRepo fold :=
  { repo with
    nodes := repo.nodes.updateWhere (longDormant nowMs days)
      (fun r => { r with status := "archived" }) (fun _ => rfl) }

theorem find_markDormant (repo : MySqlRepo fold) (ids : List String) (nowMs : ℤ)
    (nodeId : String) :
    (repo.markDormant ids nowMs).find nodeId
      = (repo.find nodeId).map (fun r =>
          if ids.any (fun id => fold id == fold nodeId) then dormantRow nowMs r else r) := by
  have hkey : ∀ r : NodeRow, fold (dormantRow nowMs r).id = fold r.id := fun _ => rfl
  refine (Table.find_updateWhere repo.nodes _ (fold nodeId) hkey).trans ?_
  show (repo.find nodeId).map _ = _
  cases hrow : repo.find nodeId with
  | none => rfl
  | some row =>
    have hid : fold row.id = fold nodeId := fold_id_of_find hrow
    rw [Option.map_some, Option.map_some, hid]

theorem find_archiveDormant (repo : MySqlRepo fold) (nowMs : ℤ) (days : ℕ) (nodeId : String) :
    (repo.archiveDormant nowMs days).find nodeId
      = (repo.find nodeId).map (fun r =>
          if longDormant nowMs days r then { r with status := "archived" } else r) := by
  have hkey : ∀ r : NodeRow, fold { r with status := "archived" }.id = fold r.id := fun _ => rfl
  exact Table.find_updateWhere repo.nodes _ (fold nodeId) hkey

/-- A node that is selected is stale, and no other name of it is. -/
theorem mem_selectStale {repo : MySqlRepo fold} {nowMs : ℤ} {nodeId : String}
    (h : nodeId ∈ repo.selectStale nowMs) :
    ∃ row, repo.find nodeId = some row ∧ stale nowMs row = true := by
  obtain ⟨row, hrow, rfl⟩ := List.mem_map.mp h
  obtain ⟨hmem, hstale⟩ := List.mem_filter.mp hrow
  exact ⟨row, Table.find_eq_some_iff.mpr ⟨hmem, rfl⟩, hstale⟩

theorem nodup_selectStale (repo : MySqlRepo fold) (nowMs : ℤ) :
    ((repo.selectStale nowMs).map fold).Nodup := by
  unfold selectStale
  rw [List.map_map]
  exact repo.nodes.keys_nodup.sublist (List.filter_sublist.map _)

end MySqlRepo

/-! ## The steps -/

namespace Liveness

variable {fold : String → String}

/-- Where the sweep stands: at rest, with the identities it selected, or with
those of which it has still to log the event. -/
inductive Sweep
  | idle
  | selected (ids : List String)
  | expired (ids : List String)

namespace Sweep

/-- The nodes a sweep has in hand. -/
def ids : Sweep → List String
  | .idle => []
  | .selected ids => ids
  | .expired ids => ids

/-- The nodes it made dormant, and has not logged. -/
def outstanding : Sweep → List String
  | .expired ids => ids
  | _ => []

/-- At rest, if nothing is left to log. -/
def logging : List String → Sweep
  | [] => .idle
  | id :: rest => .expired (id :: rest)

@[simp] theorem ids_logging (ids : List String) : (logging ids).ids = ids := by
  cases ids <;> rfl

@[simp] theorem outstanding_logging (ids : List String) : (logging ids).outstanding = ids := by
  cases ids <;> rfl

end Sweep

/-- **The seed**: its tables, its log, and its sweep. No step reads `heard`,
the nodes whose heartbeats were committed since the sweep selected. -/
structure State (fold : String → String) where
  repo : MySqlRepo fold
  log : List EventRow
  sweep : Sweep
  heard : List String

/-- A seed that starts. -/
def State.empty (fold : String → String) : State fold := ⟨.empty fold, [], .idle, []⟩

/-- What happens to a seed: a request on a node, with what is drawn for its
events, or a statement of the sweep or of the archiving, which is executed
or not. -/
inductive Action
  | register (p : PendingRegistration) (draw : Option Draw)
  | heartbeat (req : MySqlRepo.HeartbeatRequest) (nowMs : ℤ) (reactivated : Draw)
      (logged : Option Draw)
  | select (nowMs : ℤ) (answered : Bool)
  | update (nowMs : ℤ) (executed : Bool)
  | logEvict (nowMs : ℤ) (draw : Option Draw)
  | archive (nowMs : ℤ) (days : ℕ)

/-- What an action writes, besides the log. -/
def write (s : State fold) : Action → State fold
  | .register p draw => { s with repo := (Reputation.effect s.repo (.register p draw)).1 }
  | .heartbeat req nowMs reactivated logged =>
    { s with
      repo := (Reputation.effect s.repo (.heartbeat req nowMs reactivated logged)).1
      heard := if (s.repo.find req.nodeId).isSome then req.nodeId :: s.heard else s.heard }
  | .select nowMs answered =>
    match s.sweep with
    | .idle =>
      -- an error counts as no node
      let ids := if answered then s.repo.selectStale nowMs else []
      { s with sweep := if ids.isEmpty then .idle else .selected ids, heard := [] }
    | _ => s
  | .update nowMs executed =>
    match s.sweep with
    | .selected ids =>
      -- whether it was executed is not looked at
      { s with
        repo := if executed then s.repo.markDormant ids nowMs else s.repo
        sweep := .logging ids }
    | _ => s
  | .logEvict _ _ => { s with sweep :=
      match s.sweep with
      | .expired (_ :: rest) => .logging rest
      | sweep => sweep }
  | .archive nowMs days => { s with repo := s.repo.archiveDormant nowMs days }

/-- The events an action appends to the log. -/
def events (s : State fold) : Action → List (NewEvent × Draw)
  | .register p draw => (Reputation.effect s.repo (.register p draw)).2
  | .heartbeat req nowMs reactivated logged =>
    (Reputation.effect s.repo (.heartbeat req nowMs reactivated logged)).2
  | .logEvict nowMs draw =>
    match s.sweep with
    | .expired (id :: _) => (draw.map (fun d => (evictEvent id nowMs, d))).toList
    | _ => []
  | _ => []

/-- **One step.** -/
def step (L : Libs) (key : String) (s : State fold) (a : Action) : State fold :=
  { write s a with log := (events s a).foldl (Reputation.appended L key) s.log }

/-! ## The rows after a step -/

theorem find_register (s : State fold) (p : PendingRegistration) (draw : Option Draw)
    (nodeId : String) :
    (write s (.register p draw)).repo.find nodeId
      = if fold nodeId = fold p.nodeId then
          some (((s.repo.find nodeId).map (MySqlRepo.mergeRow p.record)).getD
            (MySqlRepo.newRow p.record "outcome-v2"))
        else s.repo.find nodeId := by
  refine (s.repo.find_registered p nodeId).trans ?_
  split
  · rename_i hfold
    rw [s.repo.find_congr hfold]
  · rfl

/-- The tables a heartbeat leaves are those a delivery leaves. -/
theorem repo_heartbeat (s : State fold) (req : MySqlRepo.HeartbeatRequest) (nowMs : ℤ)
    (reactivated : Draw) (logged : Option Draw) :
    (write s (.heartbeat req nowMs reactivated logged)).repo = receive s.repo ⟨req, nowMs⟩ := by
  show (Reputation.effect s.repo (.heartbeat req nowMs reactivated logged)).1
    = (s.repo.heartbeat ⟨req, nowMs⟩).2
  unfold Reputation.effect MySqlRepo.heartbeat
  dsimp only
  cases s.repo.heartbeatOnce req nowMs with
  | none => rfl
  | some found => rfl

theorem find_heartbeat (s : State fold) (req : MySqlRepo.HeartbeatRequest) (nowMs : ℤ)
    (reactivated : Draw) (logged : Option Draw) (nodeId : String) :
    (write s (.heartbeat req nowMs reactivated logged)).repo.find nodeId
      = if fold nodeId = fold req.nodeId then
          (s.repo.find nodeId).map (fun r => MySqlRepo.heartbeatRow r req nowMs)
        else s.repo.find nodeId := by
  rw [repo_heartbeat, find_receive_mySql]
  unfold named
  by_cases hfold : fold nodeId = fold req.nodeId
  · rw [if_pos hfold, if_pos (decide_eq_true hfold)]
  · rw [if_neg hfold, if_neg (by simpa using hfold)]

/-- **What a `SELECT` does**: nothing, unless the sweep is at rest; and then
the sweep has in hand nodes that are stale, each once, and nothing to log. -/
theorem write_select (s : State fold) (nowMs : ℤ) (answered : Bool) :
    write s (.select nowMs answered) = s
      ∨ s.sweep = .idle ∧ ∃ sweep : Sweep,
        write s (.select nowMs answered) = { s with sweep := sweep, heard := [] }
          ∧ sweep.outstanding = [] ∧ (sweep.ids.map fold).Nodup
          ∧ ∀ id ∈ sweep.ids, ∃ row, s.repo.find id = some row
              ∧ MySqlRepo.stale nowMs row = true := by
  unfold write
  dsimp only
  split
  · rename_i hsweep
    refine Or.inr ⟨hsweep, _, rfl, ?_⟩
    cases answered with
    | false => exact ⟨rfl, List.nodup_nil, fun _ hid => absurd hid List.not_mem_nil⟩
    | true =>
      rw [if_pos rfl]
      split
      · exact ⟨rfl, List.nodup_nil, fun _ hid => absurd hid List.not_mem_nil⟩
      · exact ⟨rfl, MySqlRepo.nodup_selectStale s.repo nowMs,
          fun _ hid => MySqlRepo.mem_selectStale hid⟩
  · exact Or.inl rfl

/-- **What an `UPDATE` does**: nothing, unless the sweep selected. -/
theorem write_update (s : State fold) (nowMs : ℤ) (executed : Bool) :
    write s (.update nowMs executed) = s
      ∨ ∃ ids, s.sweep = .selected ids ∧ write s (.update nowMs executed)
        = { s with
            repo := if executed then s.repo.markDormant ids nowMs else s.repo
            sweep := .logging ids } := by
  unfold write
  dsimp only
  split
  · exact Or.inr ⟨_, ‹_›, rfl⟩
  · exact Or.inl rfl

/-- **What the logging of an eviction does**: nothing, unless one is due; and
then the first of them is logged, if it is appended. -/
theorem write_logEvict (s : State fold) (nowMs : ℤ) (draw : Option Draw) :
    write s (.logEvict nowMs draw) = s ∧ events s (.logEvict nowMs draw) = []
      ∨ ∃ first rest, s.sweep = .expired (first :: rest)
        ∧ write s (.logEvict nowMs draw) = { s with sweep := .logging rest }
        ∧ events s (.logEvict nowMs draw)
          = (draw.map (fun d => (evictEvent first nowMs, d))).toList := by
  unfold write events
  dsimp only
  split
  · exact Or.inr ⟨_, _, ‹_›, rfl, rfl⟩
  · exact Or.inl ⟨rfl, rfl⟩

/-! ## Demotions -/

/-- **The condition on a step**: a heartbeat offers its node, and is not of a
node the sweep has in hand – selected, and its event not logged. -/
def Undisturbed (s : State fold) : Action → Prop
  | .heartbeat req _ _ _ =>
    req.available ≠ some false ∧ ∀ id ∈ s.sweep.ids, fold id ≠ fold req.nodeId
  | _ => True

/-- **What is true of the nodes that were heard of**: the sweep does not have
them in hand, and they are available and active. -/
structure Inv (s : State fold) : Prop where
  spared : ∀ nodeId ∈ s.heard, ∀ id ∈ s.sweep.ids, fold id ≠ fold nodeId
  listed : ∀ nodeId ∈ s.heard, ∀ row, s.repo.find nodeId = some row →
    row.available = true ∧ row.status = "active"

theorem inv_register {s : State fold} (h : Inv s) (p : PendingRegistration)
    (draw : Option Draw) : Inv (write s (.register p draw)) where
  spared := h.spared
  listed := by
    intro nodeId hheard row hrow
    rw [find_register] at hrow
    split at hrow
    · obtain rfl := Option.some.inj hrow
      cases s.repo.find nodeId <;> exact ⟨rfl, rfl⟩
    · exact h.listed nodeId hheard row hrow

theorem inv_heartbeat {s : State fold} (h : Inv s) (req : MySqlRepo.HeartbeatRequest) (nowMs : ℤ)
    (reactivated : Draw) (logged : Option Draw)
    (ha : Undisturbed s (.heartbeat req nowMs reactivated logged)) :
    Inv (write s (.heartbeat req nowMs reactivated logged)) := by
  obtain ⟨hoffered, hhand⟩ := ha
  -- a node heard of is the one of this heartbeat, or was heard of before
  have hheard : ∀ nodeId ∈ (write s (.heartbeat req nowMs reactivated logged)).heard,
      nodeId = req.nodeId ∨ nodeId ∈ s.heard := by
    intro nodeId hmem
    replace hmem : nodeId ∈ (if (s.repo.find req.nodeId).isSome then req.nodeId :: s.heard
      else s.heard) := hmem
    split at hmem
    · exact List.mem_cons.mp hmem
    · exact Or.inr hmem
  refine ⟨fun nodeId hmem => ?_, fun nodeId hmem row hrow => ?_⟩
  · rcases hheard nodeId hmem with rfl | hold
    · exact hhand
    · exact h.spared nodeId hold
  · rw [find_heartbeat] at hrow
    split at hrow
    · obtain ⟨old, _, rfl⟩ := Option.map_eq_some_iff.mp hrow
      refine ⟨?_, rfl⟩
      show req.available.getD true = true
      cases havailable : req.available with
      | none => rfl
      | some offered =>
        cases offered with
        | true => rfl
        | false => exact absurd havailable hoffered
    · rename_i hother
      rcases hheard nodeId hmem with rfl | hold
      · exact absurd rfl hother
      · exact h.listed nodeId hold row hrow

theorem inv_select {s : State fold} (h : Inv s) (nowMs : ℤ) (answered : Bool) :
    Inv (write s (.select nowMs answered)) := by
  rcases write_select s nowMs answered with hkept | ⟨_, sweep, hwrite, _⟩
  · rwa [hkept]
  · rw [hwrite]
    exact ⟨fun _ hmem => absurd hmem List.not_mem_nil, fun _ hmem => absurd hmem List.not_mem_nil⟩

/-- The `UPDATE` changes the rows the sweep has in hand. -/
theorem inv_update {s : State fold} (h : Inv s) (nowMs : ℤ) (executed : Bool) :
    Inv (write s (.update nowMs executed)) := by
  rcases write_update s nowMs executed with hkept | ⟨ids, hsweep, hwrite⟩
  · rwa [hkept]
  · have hspared : ∀ nodeId ∈ s.heard, ∀ id ∈ ids, fold id ≠ fold nodeId := by
      have hspared := h.spared
      rwa [hsweep] at hspared
    rw [hwrite]
    refine ⟨?_, fun nodeId hmem row hrow => ?_⟩
    · rw [Sweep.ids_logging]
      exact hspared
    · cases executed with
      | false => exact h.listed nodeId hmem row hrow
      | true =>
        replace hrow : (s.repo.markDormant ids nowMs).find nodeId = some row := hrow
        have hnot : ids.any (fun id => fold id == fold nodeId) = false := by
          rw [List.any_eq_false]
          intro id hid
          simpa using hspared nodeId hmem id hid
        rw [MySqlRepo.find_markDormant, hnot] at hrow
        obtain ⟨old, hold, rfl⟩ := Option.map_eq_some_iff.mp hrow
        exact h.listed nodeId hmem old hold

theorem inv_logEvict {s : State fold} (h : Inv s) (nowMs : ℤ) (draw : Option Draw) :
    Inv (write s (.logEvict nowMs draw)) := by
  rcases write_logEvict s nowMs draw with ⟨hkept, _⟩ | ⟨first, rest, hsweep, hwrite, _⟩
  · rwa [hkept]
  · rw [hwrite]
    refine ⟨fun nodeId hmem id hid => h.spared nodeId hmem id ?_, h.listed⟩
    rw [Sweep.ids_logging] at hid
    rw [hsweep]
    exact List.mem_cons_of_mem first hid

theorem inv_archive {s : State fold} (h : Inv s) (nowMs : ℤ) (days : ℕ) :
    Inv (write s (.archive nowMs days)) := by
  refine ⟨h.spared, fun nodeId hmem row hrow => ?_⟩
  replace hrow : (s.repo.archiveDormant nowMs days).find nodeId = some row := hrow
  rw [MySqlRepo.find_archiveDormant] at hrow
  obtain ⟨old, hold, rfl⟩ := Option.map_eq_some_iff.mp hrow
  have hlisted := h.listed nodeId hmem old hold
  have hnot : MySqlRepo.longDormant nowMs days old = false := by
    unfold MySqlRepo.longDormant
    rw [hlisted.2]
    exact Bool.false_and _
  rw [hnot]
  exact hlisted

/-- **Every step that meets the condition keeps the invariant.** -/
theorem inv_step (L : Libs) (key : String) (s : State fold) (a : Action) (h : Inv s)
    (ha : Undisturbed s a) : Inv (step L key s a) := by
  have hwrite : Inv (write s a) := by
    cases a with
    | register p draw => exact inv_register h p draw
    | heartbeat req nowMs reactivated logged => exact inv_heartbeat h req nowMs reactivated logged ha
    | select nowMs answered => exact inv_select h nowMs answered
    | update nowMs executed => exact inv_update h nowMs executed
    | logEvict nowMs draw => exact inv_logEvict h nowMs draw
    | archive nowMs days => exact inv_archive h nowMs days
  exact ⟨hwrite.spared, hwrite.listed⟩

theorem inv_empty : Inv (State.empty fold) where
  spared := fun _ hmem => absurd hmem List.not_mem_nil
  listed := fun _ hmem => absurd hmem List.not_mem_nil

/-- The nodes a step evicts are those the sweep has in hand. -/
theorem mem_ids_of_evict {s : State fold} {a : Action} {ev : NewEvent}
    (h : ev ∈ (events s a).map Prod.fst) (htype : ev.eventType = "EVICT") :
    ev.nodeId ∈ s.sweep.ids := by
  cases a with
  | register p draw =>
    have hnot : ev.eventType = "REGISTER" := by
      cases draw with
      | none => exact absurd h List.not_mem_nil
      | some d =>
        obtain rfl := List.mem_singleton.mp h
        rfl
    exact absurd (hnot.symm.trans htype) (by decide)
  | heartbeat req nowMs reactivated logged =>
    rcases Reputation.events_heartbeat s.repo req nowMs reactivated logged h with hnot | hnot
    · exact absurd (hnot.symm.trans htype) (by decide)
    · exact absurd (hnot.symm.trans htype) (by decide)
  | select nowMs answered => exact absurd h List.not_mem_nil
  | update nowMs executed => exact absurd h List.not_mem_nil
  | archive nowMs days => exact absurd h List.not_mem_nil
  | logEvict nowMs draw =>
    rcases write_logEvict s nowMs draw with ⟨_, hnone⟩ | ⟨first, rest, hsweep, _, hevents⟩
    · rw [hnone] at h
      exact absurd h List.not_mem_nil
    · rw [hevents] at h
      cases draw with
      | none => exact absurd h List.not_mem_nil
      | some d =>
        obtain rfl := List.mem_singleton.mp h
        rw [hsweep]
        exact List.mem_cons_self

/-- **No demotion rests on a stale read.** Once the `UPDATE` is behind it, a
node whose heartbeat was committed since the `SELECT`, ninety seconds ago at
most, is available and active; and no event that may be appended now evicts
it. -/
def DemotionsFresh (s : State fold) (nowMs : ℤ) : Prop :=
  ((∀ ids, s.sweep ≠ .selected ids) → ∀ nodeId ∈ s.heard, ∀ row,
      s.repo.find nodeId = some row → (∃ seen ∈ row.lastSeenMs, nowMs - 90000 ≤ seen) →
        row.available = true ∧ row.status = "active")
    ∧ ∀ a, ∀ ev ∈ (events s a).map Prod.fst, ev.eventType = "EVICT" →
        ∀ nodeId ∈ s.heard, fold ev.nodeId ≠ fold nodeId

/-- **Demotions are fresh** in the runs in which no node that the sweep has in
hand is heard of, and no heartbeat withdraws its node. -/
theorem demotion_is_fresh (L : Libs) (key : String) (fold : String → String)
    (actions : List Action)
    (h : Run.Along (step L key) Undisturbed (State.empty fold) actions) (nowMs : ℤ) :
    DemotionsFresh (Run.after (step L key) (State.empty fold) actions) nowMs := by
  have hinv := Run.invariant_along (inv_step L key) inv_empty h
  refine ⟨fun _ nodeId hmem row hrow _ => hinv.listed nodeId hmem row hrow,
    fun a ev hev htype nodeId hmem => ?_⟩
  exact hinv.spared nodeId hmem ev.nodeId (mem_ids_of_evict hev htype)

end Liveness

namespace Sample

open Liveness

/-- A node registers and is heard of, and two hundred seconds later a sweep
selects it. -/
def sweepBegins : List Action :=
  [.register (registration "n1" "https://n1.test") (some ⟨"evt-1", 0⟩),
   .heartbeat { nodeId := "n1" } 1000 ⟨"evt-2", 1000⟩ none,
   .select 200000 true]

/-- The node is heard of again before the sweep goes on. -/
def heardInBetween : List Action :=
  sweepBegins ++ [.heartbeat { nodeId := "n1" } 200500 ⟨"evt-3", 200500⟩ none,
    .update 201000 true]

/-- The node is heard of again when its event is logged. -/
def heardAfterwards : List Action :=
  sweepBegins ++ [.update 201000 true, .logEvict 201000 (some ⟨"evt-3", 201000⟩),
    .heartbeat { nodeId := "n1" } 202000 ⟨"evt-4", 202000⟩ none]

end Sample

namespace Liveness

/-- The node that is heard of afterwards stays active. -/
theorem demotion_is_fresh_sample :
    DemotionsFresh (Run.after (step Sample.libs Sample.secretKeyHex)
      (State.empty Sample.lowercase) Sample.heardAfterwards) 203000 := by
  refine demotion_is_fresh Sample.libs Sample.secretKeyHex Sample.lowercase Sample.heardAfterwards
    ?_ 203000
  have hoffered : (none : Option Bool) ≠ some false := by simp
  exact ⟨trivial, ⟨hoffered, fun _ hid => absurd hid List.not_mem_nil⟩, trivial, trivial, trivial,
    ⟨hoffered, fun _ hid => absurd hid List.not_mem_nil⟩, trivial⟩

/-- **A demotion on a stale read**: the node is heard of after the `SELECT`,
the `UPDATE` makes it dormant half a second later, and the next event evicts
it. -/
theorem heard_node_demoted :
    ¬ DemotionsFresh (Run.after (step Sample.libs Sample.secretKeyHex)
        (State.empty Sample.lowercase) Sample.heardInBetween) 201000
      ∧ ((Run.after (step Sample.libs Sample.secretKeyHex) (State.empty Sample.lowercase)
          Sample.heardInBetween).repo.find "n1").map
            (fun row => (row.available, row.status, row.lastSeenMs))
        = some (false, "dormant", some 200000)
      ∧ (events (Run.after (step Sample.libs Sample.secretKeyHex) (State.empty Sample.lowercase)
          Sample.heardInBetween) (.logEvict 201000 (some ⟨"evt-4", 201000⟩))).map
            (fun e => (e.1.eventType, e.1.nodeId))
        = [("EVICT", "n1")] := by
  refine ⟨fun h => ?_, by decide, by decide⟩
  have hsweep : (Run.after (step Sample.libs Sample.secretKeyHex) (State.empty Sample.lowercase)
      Sample.heardInBetween).sweep = .expired ["n1"] := rfl
  have hlisted := h.1 (fun ids => by rw [hsweep]; simp) "n1" List.mem_cons_self _ rfl
    ⟨200000, rfl, by decide⟩
  exact absurd hlisted.1 Bool.false_ne_true

end Liveness
