import IicpDirectory.Foundations.LastKey
import IicpDirectory.Foundations.Run
import IicpDirectory.MySqlRepo
import IicpDirectory.Seed.Handlers

/-!
# Heartbeats that come more than once

A node reports its tasks in batches, and a heartbeat that carries the batch
it carried before is to count nothing. Both repositories remember of a node
the batch they counted last, and that one alone. So a batch that is
delivered again at once is passed over, and one that is delivered again
after another – a late retry – is counted again.

`counted_once_iff` has the runs in which every batch counts at most once:
those where no batch returns once another has come. A delivery is a
heartbeat as the tables see it. An attempt that is rolled back is none; one
that is committed is one, also if its caller hears of an error and tries
again.
-/

/-- What a heartbeat answers. -/
structure HeartbeatOutcome where
  score : ℚ
  metricsApplied : Bool
  reputationModel : String

/-- A heartbeat that is delivered, and when. -/
structure Delivery where
  req : MySqlRepo.HeartbeatRequest
  nowMs : ℤ

/-- **The operation of a repository that takes heartbeats**: what it
answers, nothing for a node it does not know, and what it leaves. -/
class HeartbeatRepository (σ : Type) where
  heartbeat : σ → Delivery → Option HeartbeatOutcome × σ

/-! ## The two repositories -/

namespace MySqlRepo

/-- `MySqlRepo::heartbeat`, of an attempt that is committed. -/
def heartbeat {fold : String → String} (repo : MySqlRepo fold) (d : Delivery) :
    Option HeartbeatOutcome × MySqlRepo fold :=
  match repo.heartbeatOnce d.req d.nowMs with
  | none => (none, repo)
  | some (row, repo') =>
    (some ⟨newScore row d.req d.nowMs, metricsApplied row d.req, row.reputationModel⟩, repo')

instance (fold : String → String) : HeartbeatRepository (MySqlRepo fold) := ⟨heartbeat⟩

end MySqlRepo

/-- **The nodes in memory**, with the batch of each that was counted last. -/
structure MemoryNodes where
  repo : InMemoryRepo
  lastMetricsBatches : List (String × String)

namespace MemoryNodes

/-- A batch of metrics counts unless it is the last of its node. -/
def metricsApplied (m : MemoryNodes) (req : MySqlRepo.HeartbeatRequest) : Bool :=
  req.metricsBatchId.all (fun id => m.lastMetricsBatches.lookup req.nodeId != some id)

/-- The record a heartbeat leaves. There is no hourly cap here. -/
def heartbeatRecord (applied : Bool) (req : MySqlRepo.HeartbeatRequest) (r : NodeRecord) :
    NodeRecord :=
  { r with node := { r.node with
      load := max 0 (min req.load 1)
      available := req.available.getD true
      activeJobs := req.activeJobs.getD 0
      completedTasksCount := r.node.completedTasksCount
        + if applied then req.countedSuccess + req.countedFailed else 0
      tasksFailed := r.node.tasksFailed + if applied then req.countedFailed else 0
      reputationScore :=
        if applied then MySqlRepo.applyDelta r.node.reputationScore req.delta
        else r.node.reputationScore
      healthModels := req.healthModels.or r.node.healthModels } }

@[simp] theorem id_heartbeatRecord (applied : Bool) (req : MySqlRepo.HeartbeatRequest)
    (r : NodeRecord) : (heartbeatRecord applied req r).id = r.id := rfl

/-- The records with one changed. -/
def modify (repo : InMemoryRepo) (nodeId : String) (f : NodeRecord → NodeRecord)
    (hf : ∀ r, (f r).id = r.id) : InMemoryRepo :=
  { repo with
    records := InMemoryRepo.modifyRecord nodeId f repo.records
    ids_nodup := by
      rw [InMemoryRepo.map_id_modifyRecord nodeId hf]
      exact repo.ids_nodup }

/-- `InMemoryRepo::heartbeat`. The batch is remembered where it counts. -/
def heartbeat (m : MemoryNodes) (d : Delivery) : Option HeartbeatOutcome × MemoryNodes :=
  match m.repo.find d.req.nodeId with
  | none => (none, m)
  | some r =>
    let applied := m.metricsApplied d.req
    (some ⟨(heartbeatRecord applied d.req r).node.reputationScore, applied, "outcome-v2"⟩,
      { repo := modify m.repo d.req.nodeId (heartbeatRecord applied d.req) (fun _ => rfl)
        lastMetricsBatches :=
          if applied then
            d.req.metricsBatchId.elim m.lastMetricsBatches
              (fun id => assocInsert d.req.nodeId id m.lastMetricsBatches)
          else m.lastMetricsBatches })

instance : HeartbeatRepository MemoryNodes := ⟨heartbeat⟩

end MemoryNodes

/-! ## What counts -/

namespace Heartbeats

variable {σ : Type} [HeartbeatRepository σ]

/-- A delivery. -/
def receive (s : σ) (d : Delivery) : σ := (HeartbeatRepository.heartbeat s d).2

/-- Whether a delivery applies its metrics. -/
def applies (s : σ) (d : Delivery) : Bool :=
  (HeartbeatRepository.heartbeat s d).1.any (fun o => o.metricsApplied)

/-- **The deliveries of a run that apply their metrics** to a node. -/
def applied (isNode : String → Bool) : σ → List Delivery → List Delivery
  | _, [] => []
  | s, d :: rest =>
    (if isNode d.req.nodeId && applies s d then [d] else []) ++ applied isNode (receive s d) rest

/-- The batch a delivery brings to a node. -/
def batchOf (isNode : String → Bool) (d : Delivery) : Option String :=
  if isNode d.req.nodeId then d.req.metricsBatchId else none

/-- The batches that count for a node in a run. -/
def countedBatches (isNode : String → Bool) (s : σ) (deliveries : List Delivery) : List String :=
  (applied isNode s deliveries).filterMap (batchOf isNode)

/-- **A repository remembers the last batch of a node**: as long as the node
is there, a batch counts unless it is the last, and becomes the last. -/
structure RemembersLast (isNode : String → Bool) (present : σ → Prop) (last : σ → Option String) :
    Prop where
  applies_eq : ∀ s d, present s → isNode d.req.nodeId = true →
    applies s d = d.req.metricsBatchId.all (fun id => last s != some id)
  last_receive : ∀ s d, present s → last (receive s d) = (batchOf isNode d).or (last s)
  present_receive : ∀ s d, present s → present (receive s d)

variable {isNode : String → Bool} {present : σ → Prop} {last : σ → Option String}

theorem countedBatches_cons (isNode : String → Bool) (s : σ) (d : Delivery) (rest : List Delivery) :
    countedBatches isNode s (d :: rest)
      = (if applies s d then (batchOf isNode d).toList else [])
        ++ countedBatches isNode (receive s d) rest := by
  unfold countedBatches
  rw [applied, List.filterMap_append]
  congr 1
  cases hnode : isNode d.req.nodeId with
  | false =>
    have hbatch : batchOf isNode d = none := by rw [batchOf, hnode]; rfl
    rw [hbatch]
    exact (ite_self []).symm
  | true =>
    cases applies s d with
    | false => rfl
    | true => cases hbatch : batchOf isNode d <;> simp [hbatch]

/-- A run counts the batches that are not the last one counted. -/
theorem countedBatches_eq (h : RemembersLast isNode present last) {s : σ} (hs : present s)
    (deliveries : List Delivery) :
    countedBatches isNode s deliveries
      = LastKey.taken (last s) (deliveries.filterMap (batchOf isNode)) := by
  have hstep : ∀ (s : σ) d, present s →
      last (receive s d) = (batchOf isNode d).or (last s) ∧ present (receive s d) :=
    fun s d hs => ⟨h.last_receive s d hs, h.present_receive s d hs⟩
  rw [← LastKey.taken_run hstep hs]
  clear hstep
  induction deliveries generalizing s with
  | nil => rfl
  | cons d rest ih =>
    rw [countedBatches_cons, LastKey.takenAlong, ih (h.present_receive s d hs)]
    congr 1
    cases hnode : isNode d.req.nodeId with
    | false =>
      have hbatch : batchOf isNode d = none := by rw [batchOf, hnode]; rfl
      rw [hbatch]
      exact (ite_self _).trans (ite_self _).symm
    | true =>
      have hbatch : batchOf isNode d = d.req.metricsBatchId := by rw [batchOf, hnode]; rfl
      rw [h.applies_eq s d hs hnode, hbatch]
      cases d.req.metricsBatchId with
      | none => exact (ite_self _).symm
      | some id => by_cases hid : last s = some id <;> simp [hid]

/-- **When each batch counts at most once**, the one remembered counting as
counted: when no batch returns after another. -/
theorem countedBatches_once_iff (h : RemembersLast isNode present last) {s : σ} (hs : present s)
    (deliveries : List Delivery) :
    (∀ batch, ((last s).toList ++ countedBatches isNode s deliveries).count batch ≤ 1)
      ↔ LastKey.NoReturn ((last s).toList ++ deliveries.filterMap (batchOf isNode)) := by
  rw [countedBatches_eq h hs, ← LastKey.nodup_taken_iff, List.nodup_iff_count_le_one]

/-- **A value that only applied deliveries change** is, after a run, what they
make of it one after the other. -/
theorem value_after {V : Type} (value : σ → V) (change : V → Delivery → V)
    (hpresent : ∀ s d, present s → present (receive s d))
    (hvalue : ∀ s d, present s → value (receive s d)
      = if isNode d.req.nodeId && applies s d then change (value s) d else value s)
    {s : σ} (hs : present s) (deliveries : List Delivery) :
    value (Run.after receive s deliveries)
      = (applied isNode s deliveries).foldl change (value s) := by
  induction deliveries generalizing s with
  | nil => rfl
  | cons d rest ih =>
    rw [Run.after_cons, ih (hpresent s d hs), hvalue s d hs, applied, List.foldl_append]
    split <;> rfl

/-! ### The tables -/

variable {fold : String → String}

/-- The names of a node, to the tables. -/
def named (fold : String → String) (nodeId : String) (id : String) : Bool :=
  decide (fold nodeId = fold id)

/-- What a delivery leaves in the row of a node. -/
theorem find_receive_mySql (repo : MySqlRepo fold) (d : Delivery) (nodeId : String) :
    (receive repo d).find nodeId
      = if named fold nodeId d.req.nodeId then
          (repo.find nodeId).map (fun r => MySqlRepo.heartbeatRow r d.req d.nowMs)
        else repo.find nodeId := by
  show (repo.heartbeat d).2.find nodeId = _
  unfold MySqlRepo.heartbeat named
  cases hbeat : repo.heartbeatOnce d.req d.nowMs with
  | some found =>
    obtain ⟨row, repo'⟩ := found
    simpa using (MySqlRepo.find_heartbeatOnce hbeat nodeId).2
  | none =>
    have hnone : repo.find d.req.nodeId = none := Option.map_eq_none_iff.mp hbeat
    by_cases hfold : fold nodeId = fold d.req.nodeId
    · have hsame : repo.find nodeId = none := (repo.find_congr hfold).trans hnone
      simp [hsame]
    · simp [hfold]

theorem applies_mySql {repo : MySqlRepo fold} {d : Delivery} {row : NodeRow}
    (h : repo.find d.req.nodeId = some row) :
    applies repo d = MySqlRepo.metricsApplied row d.req := by
  show (repo.heartbeat d).1.any _ = _
  unfold MySqlRepo.heartbeat MySqlRepo.heartbeatOnce
  rw [h]
  rfl

/-- A delivery to a node finds the row of the node. -/
theorem find_of_named {repo : MySqlRepo fold} {nodeId : String} {d : Delivery}
    (h : named fold nodeId d.req.nodeId = true) : repo.find d.req.nodeId = repo.find nodeId :=
  repo.find_congr (of_decide_eq_true h).symm

theorem remembersLast_mySql (fold : String → String) (nodeId : String) :
    RemembersLast (named fold nodeId)
      (fun repo : MySqlRepo fold => (repo.find nodeId).isSome = true)
      (fun repo => (repo.find nodeId).bind NodeRow.lastMetricsBatchId) where
  applies_eq := by
    intro repo d hs hnode
    obtain ⟨row, hrow⟩ := Option.isSome_iff_exists.mp hs
    rw [applies_mySql ((find_of_named hnode).trans hrow), hrow]
    rfl
  last_receive := by
    intro repo d hs
    obtain ⟨row, hrow⟩ := Option.isSome_iff_exists.mp hs
    rw [find_receive_mySql, batchOf, hrow]
    cases named fold nodeId d.req.nodeId <;> rfl
  present_receive := by
    intro repo d hs
    rw [find_receive_mySql]
    split
    · rw [Option.isSome_map]
      exact hs
    · exact hs

/-- What a delivery adds to the tasks of a node, and to those that failed. -/
def counted (tasks : ℕ × ℕ) (d : Delivery) : ℕ × ℕ :=
  (tasks.1 + (d.req.countedSuccess + d.req.countedFailed), tasks.2 + d.req.countedFailed)

/-- The tasks of a row, and those that failed. -/
def tasksOf (row : NodeRow) : ℕ × ℕ := (row.tasksTotal, row.tasksFailed)

/-- In the tables, the tasks of a node are those that were applied. -/
theorem tasks_after_mySql {repo : MySqlRepo fold} {nodeId : String}
    (hs : (repo.find nodeId).isSome = true) (deliveries : List Delivery) :
    (((Run.after receive repo deliveries).find nodeId).map tasksOf).getD (0, 0)
      = (applied (named fold nodeId) repo deliveries).foldl counted
          (((repo.find nodeId).map tasksOf).getD (0, 0)) := by
  have hvalue : ∀ (repo : MySqlRepo fold) d, (repo.find nodeId).isSome = true →
      (((receive repo d).find nodeId).map tasksOf).getD (0, 0)
        = if named fold nodeId d.req.nodeId && applies repo d then
            counted (((repo.find nodeId).map tasksOf).getD (0, 0)) d
          else ((repo.find nodeId).map tasksOf).getD (0, 0) := by
    intro repo d hs
    obtain ⟨row, hrow⟩ := Option.isSome_iff_exists.mp hs
    rw [find_receive_mySql, hrow]
    cases hnode : named fold nodeId d.req.nodeId with
    | false => rfl
    | true =>
      rw [applies_mySql ((find_of_named hnode).trans hrow), Bool.true_and, if_pos rfl]
      show (row.tasksTotal + _, row.tasksFailed + _) = _
      cases MySqlRepo.metricsApplied row d.req <;> rfl
  exact value_after (fun repo : MySqlRepo fold => ((repo.find nodeId).map tasksOf).getD (0, 0))
    counted (remembersLast_mySql fold nodeId).present_receive hvalue hs deliveries

/-- A delivery that is not applied asks nothing of the score. -/
theorem newScore_of_not_applies {repo : MySqlRepo fold} {d : Delivery} {row : NodeRow}
    (hrow : repo.find d.req.nodeId = some row) (h : applies repo d = false) :
    MySqlRepo.newScore row d.req d.nowMs = MySqlRepo.applyDelta row.reputationScore 0 := by
  rw [applies_mySql hrow] at h
  unfold MySqlRepo.newScore
  rw [h, if_neg Bool.false_ne_true]
  unfold MySqlRepo.hourlyCapped
  rw [if_neg (lt_irrefl 0)]

/-! ### In memory -/

/-- What a delivery leaves in the record of a node. -/
theorem find_receive_memory (m : MemoryNodes) (d : Delivery) (nodeId : String) :
    (receive m d).repo.find nodeId
      = if named id nodeId d.req.nodeId then
          (m.repo.find nodeId).map (MemoryNodes.heartbeatRecord (m.metricsApplied d.req) d.req)
        else m.repo.find nodeId := by
  show (m.heartbeat d).2.repo.find nodeId = _
  unfold MemoryNodes.heartbeat named
  cases hfind : m.repo.find d.req.nodeId with
  | none =>
    by_cases hid : nodeId = d.req.nodeId
    · subst hid
      simp [hfind]
    · simp [hid]
  | some r =>
    show (InMemoryRepo.modifyRecord _ _ _).find? _ = _
    rw [InMemoryRepo.find_modifyRecord _ _ (fun r => MemoryNodes.id_heartbeatRecord _ d.req r)]
    simp [InMemoryRepo.find]

theorem applies_memory {m : MemoryNodes} {d : Delivery} {r : NodeRecord}
    (h : m.repo.find d.req.nodeId = some r) : applies m d = m.metricsApplied d.req := by
  show (m.heartbeat d).1.any _ = _
  unfold MemoryNodes.heartbeat
  rw [h]
  rfl

theorem find_of_named_memory {m : MemoryNodes} {nodeId : String} {d : Delivery}
    (h : named id nodeId d.req.nodeId = true) : m.repo.find d.req.nodeId = m.repo.find nodeId :=
  congrArg m.repo.find (of_decide_eq_true h).symm

theorem remembersLast_memory (nodeId : String) :
    RemembersLast (named id nodeId) (fun m : MemoryNodes => (m.repo.find nodeId).isSome = true)
      (fun m => m.lastMetricsBatches.lookup nodeId) where
  applies_eq := by
    intro m d hs hnode
    obtain ⟨r, hr⟩ := Option.isSome_iff_exists.mp hs
    rw [applies_memory ((find_of_named_memory hnode).trans hr), MemoryNodes.metricsApplied,
      show d.req.nodeId = nodeId from (of_decide_eq_true hnode).symm]
  last_receive := by
    intro m d hs
    show (m.heartbeat d).2.lastMetricsBatches.lookup nodeId = _
    unfold MemoryNodes.heartbeat batchOf named
    by_cases hid : nodeId = d.req.nodeId
    · subst hid
      obtain ⟨r, hr⟩ := Option.isSome_iff_exists.mp hs
      simp only [hr, MemoryNodes.metricsApplied]
      rcases Option.eq_none_or_eq_some d.req.metricsBatchId with hnone | ⟨batch, hbatch⟩
      · simp [hnone]
      · by_cases hb : m.lastMetricsBatches.lookup d.req.nodeId = some batch <;>
          simp [hbatch, hb, lookup_assocInsert]
    · have hother : ∀ batch, (assocInsert d.req.nodeId batch m.lastMetricsBatches).lookup nodeId
          = m.lastMetricsBatches.lookup nodeId := fun batch => by
        rw [lookup_assocInsert, if_neg hid]
      cases m.repo.find d.req.nodeId with
      | none => simp [hid]
      | some r =>
        rcases Option.eq_none_or_eq_some d.req.metricsBatchId with hnone | ⟨batch, hbatch⟩
        · simp [hid, hnone]
        · by_cases hb : m.metricsApplied d.req <;> simp [hb, hid, hother, hbatch]
  present_receive := by
    intro m d hs
    rw [find_receive_memory]
    split
    · rw [Option.isSome_map]
      exact hs
    · exact hs

/-- The tasks of a record, those that failed, and its reputation. -/
def accountOf (r : NodeRecord) : (ℕ × ℕ) × ℚ :=
  ((r.node.completedTasksCount, r.node.tasksFailed), r.node.reputationScore)

/-- What a delivery makes of them. -/
def accounted (account : (ℕ × ℕ) × ℚ) (d : Delivery) : (ℕ × ℕ) × ℚ :=
  (counted account.1 d, MySqlRepo.applyDelta account.2 d.req.delta)

/-- In memory, the tasks and the reputation of a node are those that were
applied. -/
theorem account_after_memory {m : MemoryNodes} {nodeId : String} (default : (ℕ × ℕ) × ℚ)
    (hs : (m.repo.find nodeId).isSome = true) (deliveries : List Delivery) :
    (((Run.after receive m deliveries).repo.find nodeId).map accountOf).getD default
      = (applied (named id nodeId) m deliveries).foldl accounted
          (((m.repo.find nodeId).map accountOf).getD default) := by
  have hvalue : ∀ (m : MemoryNodes) d, (m.repo.find nodeId).isSome = true →
      (((receive m d).repo.find nodeId).map accountOf).getD default
        = if named id nodeId d.req.nodeId && applies m d then
            accounted (((m.repo.find nodeId).map accountOf).getD default) d
          else ((m.repo.find nodeId).map accountOf).getD default := by
    intro m d hs
    obtain ⟨r, hr⟩ := Option.isSome_iff_exists.mp hs
    rw [find_receive_memory, hr]
    cases hnode : named id nodeId d.req.nodeId with
    | false => rfl
    | true =>
      rw [applies_memory ((find_of_named_memory hnode).trans hr), Bool.true_and, if_pos rfl]
      show ((r.node.completedTasksCount + _, r.node.tasksFailed + _), ite _ _ _) = _
      cases m.metricsApplied d.req <;> rfl
  exact value_after (fun m : MemoryNodes => ((m.repo.find nodeId).map accountOf).getD default)
    accounted (remembersLast_memory nodeId).present_receive hvalue hs deliveries

/-! ## The law -/

/-- **Each batch counts at most once**, the one remembered from before a run
among them. -/
def CountedOnce (remembered : Option String) (batches : List String) : Prop :=
  ∀ batch, (remembered.toList ++ batches).count batch ≤ 1

/-- **When each batch counts at most once.** For a node that is there, in
every run of heartbeats of whatever nodes, with batches or without: what
becomes of its tasks is what the applied deliveries make of them, one that
is not applied asks nothing of its score, and no batch is applied twice
exactly when no batch returns once another has come. It is so in the tables
and in memory. -/
theorem counted_once_iff (nodeId : String) (deliveries : List Delivery) :
    (∀ {fold : String → String} (repo : MySqlRepo fold) (row : NodeRow),
        repo.find nodeId = some row →
      (∃ row', (Run.after receive repo deliveries).find nodeId = some row'
          ∧ tasksOf row' = (applied (named fold nodeId) repo deliveries).foldl counted (tasksOf row))
        ∧ (∀ d, named fold nodeId d.req.nodeId = true → applies repo d = false →
          MySqlRepo.newScore row d.req d.nowMs = MySqlRepo.applyDelta row.reputationScore 0)
        ∧ (CountedOnce row.lastMetricsBatchId (countedBatches (named fold nodeId) repo deliveries)
          ↔ LastKey.NoReturn (row.lastMetricsBatchId.toList
              ++ deliveries.filterMap (batchOf (named fold nodeId)))))
      ∧ ∀ (m : MemoryNodes) (r : NodeRecord), m.repo.find nodeId = some r →
          (∃ r', (Run.after receive m deliveries).repo.find nodeId = some r'
              ∧ accountOf r' = (applied (named id nodeId) m deliveries).foldl accounted (accountOf r))
            ∧ (CountedOnce (m.lastMetricsBatches.lookup nodeId)
                (countedBatches (named id nodeId) m deliveries)
              ↔ LastKey.NoReturn ((m.lastMetricsBatches.lookup nodeId).toList
                  ++ deliveries.filterMap (batchOf (named id nodeId)))) := by
  constructor
  · intro fold repo row hrow
    have hs : (repo.find nodeId).isSome = true := by rw [hrow]; rfl
    have hremembers := remembersLast_mySql fold nodeId
    refine ⟨?_, fun d hnode hnot => ?_, ?_⟩
    · obtain ⟨row', hrow'⟩ := Option.isSome_iff_exists.mp
        (Run.invariant hremembers.present_receive hs deliveries)
      have htasks := tasks_after_mySql hs deliveries
      rw [hrow, hrow'] at htasks
      exact ⟨row', hrow', htasks⟩
    · exact newScore_of_not_applies ((find_of_named hnode).trans hrow) hnot
    · have hiff := countedBatches_once_iff hremembers hs deliveries
      simp only [hrow, Option.bind_some] at hiff
      exact hiff
  · intro m r hr
    have hs : (m.repo.find nodeId).isSome = true := by rw [hr]; rfl
    have hremembers := remembersLast_memory nodeId
    refine ⟨?_, countedBatches_once_iff hremembers hs deliveries⟩
    obtain ⟨r', hr'⟩ := Option.isSome_iff_exists.mp
      (Run.invariant hremembers.present_receive hs deliveries)
    have haccount := account_after_memory ((0, 0), 0) hs deliveries
    rw [hr, hr'] at haccount
    exact ⟨r', hr', haccount⟩

end Heartbeats

namespace Sample

/-- A heartbeat of a node that reports a batch of tasks done. -/
def batchOfTasks (batch : String) (tasks : ℕ) (nowMs : ℤ) : Delivery :=
  ⟨{ nodeId := "n1", tasksSuccess := tasks, metricsBatchId := some batch }, nowMs⟩

/-- A batch is delivered, another one after it, and the first once more. -/
def lateRetry : List Delivery :=
  [batchOfTasks "b1" 3 1000, batchOfTasks "b2" 2 31000, batchOfTasks "b1" 3 61000]

/-- A batch is delivered, and once more before the next one. -/
def promptRetry : List Delivery :=
  [batchOfTasks "b1" 3 1000, batchOfTasks "b1" 3 2000, batchOfTasks "b2" 2 31000]

/-- The tables with one node. -/
def oneNode : MySqlRepo lowercase :=
  (MySqlRepo.empty lowercase).registered (registration "n1" "https://n1.test")

/-- One node in memory. -/
def oneNodeInMemory : MemoryNodes :=
  ⟨InMemoryRepo.empty.register (registration "n1" "https://n1.test").record, []⟩

end Sample

namespace Heartbeats

/-- The prompt retry counts once. -/
theorem counted_once_sample :
    CountedOnce none (countedBatches (named Sample.lowercase "n1") Sample.oneNode
        Sample.promptRetry)
      ∧ CountedOnce none (countedBatches (named id "n1") Sample.oneNodeInMemory
        Sample.promptRetry) := by
  have hids : LastKey.NoReturn ["b1", "b1", "b2"] := by
    rw [LastKey.noReturn_cons_cons, LastKey.noReturn_cons_cons]
    exact ⟨fun h => absurd rfl h, fun _ => List.not_mem_nil, LastKey.noReturn_singleton _⟩
  exact ⟨((counted_once_iff "n1" Sample.promptRetry).1 Sample.oneNode _ rfl).2.2.mpr hids,
    ((counted_once_iff "n1" Sample.promptRetry).2 Sample.oneNodeInMemory _ rfl).2.mpr hids⟩

/-- **A late retry counts again**: after the first batch and the second, the
first once more, and the node has eight tasks to its name where it did
five. -/
theorem late_retry_counted_again :
    (¬ CountedOnce none (countedBatches (named Sample.lowercase "n1") Sample.oneNode
          Sample.lateRetry)
        ∧ ((Run.after receive Sample.oneNode Sample.lateRetry).find "n1").map tasksOf
          = some (8, 0))
      ∧ ¬ CountedOnce none (countedBatches (named id "n1") Sample.oneNodeInMemory
          Sample.lateRetry)
        ∧ ((Run.after receive Sample.oneNodeInMemory Sample.lateRetry).repo.find "n1").map
          (fun r => (accountOf r).1) = some (8, 0) := by
  have hmySql : countedBatches (named Sample.lowercase "n1") Sample.oneNode Sample.lateRetry
      = ["b1", "b2", "b1"] := by decide
  have hmemory : countedBatches (named id "n1") Sample.oneNodeInMemory Sample.lateRetry
      = ["b1", "b2", "b1"] := by decide
  have htwice : ¬ CountedOnce none ["b1", "b2", "b1"] := by
    intro h
    exact absurd (h "b1") (by decide)
  rw [hmySql, hmemory]
  exact ⟨⟨htwice, by decide⟩, htwice, by decide⟩

end Heartbeats
