import IicpDirectory.Foundations.Table
import IicpDirectory.Registration
import IicpDirectory.Seed.Transactions
import Mathlib.Data.Int.Log
import Mathlib.Data.Rat.Floor
import Mathlib.Tactic.NormNum

/-!
# The node tables of the MySQL repository

The production repository keeps the nodes, their credit ledger and the
awards in tables. Each operation here is one transaction, as
`registration_store.rs` and `db.rs` write it: it runs as a whole or leaves
nothing, and a caller that the database refuses goes on from the state it
had.

Text is compared by the collation of the database, which is coarser than
equality (it does not tell upper from lower case). It enters as `fold`: two
identities are the same to the tables when `fold` makes them equal. A
single-precision column rounds what it stores, `toF32`; doubles are
rational numbers, as in `Json`.
-/

/-! ## Rounding -/

/-- The nearest integer, ties to the even one. -/
def roundHalfEven (q : ℚ) : ℤ :=
  if q - ⌊q⌋ < 1 / 2 then ⌊q⌋
  else if 1 / 2 < q - ⌊q⌋ then ⌊q⌋ + 1
  else if ⌊q⌋ % 2 = 0 then ⌊q⌋ else ⌊q⌋ + 1

/-- The nearest single-precision number: 24 significant bits, down to the
subnormal ones. -/
def toF32 (q : ℚ) : ℚ :=
  if q = 0 then 0
  else
    -- the exponent of the last place
    let e := max (Int.log 2 |q| - 23) (-149)
    (roundHalfEven (q / 2 ^ e) : ℚ) * 2 ^ e

/-- The nearest integer, ties away from zero. -/
def roundHalfAway (q : ℚ) : ℤ := if 0 ≤ q then ⌊q + 1 / 2⌋ else ⌈q - 1 / 2⌉

/-- Rounded to four decimals. -/
def round4 (q : ℚ) : ℚ := (roundHalfAway (q * 10000) : ℚ) / 10000

theorem roundHalfEven_intCast (n : ℤ) : roundHalfEven (n : ℚ) = n := by
  unfold roundHalfEven
  rw [Int.floor_intCast, sub_self, if_pos (by norm_num)]

/-- One half is a single-precision number. -/
theorem toF32_half : toF32 (1 / 2) = 1 / 2 := by
  have hlog : Int.log 2 |(1 / 2 : ℚ)| = -1 := by
    have habs : |(1 / 2 : ℚ)| = ((2 : ℕ) : ℚ) ^ (-1 : ℤ) := by norm_num
    rw [habs, Int.log_zpow (by norm_num)]
  have hint : (1 / 2 : ℚ) / 2 ^ (-24 : ℤ) = ((8388608 : ℤ) : ℚ) := by norm_num
  unfold toF32
  rw [if_neg (by norm_num), hlog]
  show ((roundHalfEven ((1 / 2) / 2 ^ (-24 : ℤ)) : ℤ) : ℚ) * 2 ^ (-24 : ℤ) = 1 / 2
  rw [hint, roundHalfEven_intCast]
  norm_num

/-! ## The rows -/

/-- A row of `nodes`, with the intents its rows of `capabilities` name. -/
structure NodeRow where
  id : String
  endpoint : String
  intents : List String
  available : Bool
  status : String
  dormantSinceMs : Option ℤ
  lastSeenMs : Option ℤ
  load : ℚ
  activeJobs : ℕ
  tasksTotal : ℕ
  tasksFailed : ℕ
  healthModels : Option (List String)
  reputationScore : ℚ
  reputationModel : String
  repHourlyGain : ℚ
  repHourlyWindowStartMs : Option ℤ
  lastMetricsBatchId : Option String
  creditBalance : ℚ
  publicReachable : Bool
  endpointVerifiedDeadAtMs : Option ℤ

/-- A row of `credits`. -/
structure CreditRow where
  nodeId : String
  balance : ℚ

/-- An award, as `credit_transactions` keeps it. -/
structure CreditTransaction where
  nodeId : String
  nonce : String

/-- **The tables**, under a collation. -/
structure MySqlRepo (fold : String → String) where
  nodes : Table (fun r : NodeRow => fold r.id)
  credits : Table (fun r : CreditRow => fold r.nodeId)
  creditTransactions : List CreditTransaction

/-- Why an award is refused. -/
inductive CreditError
  | nonceReplay
  | nodeNotFound
  | dbError
  deriving DecidableEq

namespace MySqlRepo

variable {fold : String → String}

/-- The tables as the schema creates them. -/
def empty (fold : String → String) : MySqlRepo fold := ⟨.empty _, .empty _, []⟩

/-- The row of a node. -/
def find (repo : MySqlRepo fold) (nodeId : String) : Option NodeRow := repo.nodes.find (fold nodeId)

/-- Two names of a node, to the collation, find one row. -/
theorem find_congr (repo : MySqlRepo fold) {a b : String} (h : fold a = fold b) :
    repo.find a = repo.find b := by
  unfold find
  rw [h]

/-- A row is found under its identity, to the collation. -/
theorem fold_id_of_find {repo : MySqlRepo fold} {nodeId : String} {row : NodeRow}
    (h : repo.find nodeId = some row) : fold row.id = fold nodeId := by
  have hkey := Table.key_of_find h
  exact hkey

/-! ## Registration and removal -/

/-- The intents a record puts into `capabilities`: those of its variants, or
its bare ones where it has none. -/
def intentsOf (rec : NodeRecord) : List String :=
  if rec.capabilities.isEmpty then rec.intents else rec.capabilities.map (fun c => c.intent)

/-- The row a registration inserts. -/
def newRow (rec : NodeRecord) (reputationModel : String) : NodeRow where
  id := rec.node.nodeId
  endpoint := rec.node.endpoint
  intents := intentsOf rec
  available := true
  status := "active"
  dormantSinceMs := none
  lastSeenMs := none
  load := 0
  activeJobs := 0
  tasksTotal := 0
  tasksFailed := 0
  healthModels := none
  reputationScore := toF32 PendingRegistration.startingScore
  reputationModel := reputationModel
  repHourlyGain := 0
  repHourlyWindowStartMs := none
  lastMetricsBatchId := none
  creditBalance := 0
  publicReachable := false
  endpointVerifiedDeadAtMs := none

/-- What a registration writes over a row that is there: not the reputation
(anti-laundering), and not the balance. -/
def mergeRow (rec : NodeRecord) (old : NodeRow) : NodeRow :=
  { old with
    endpoint := rec.node.endpoint
    intents := intentsOf rec
    available := true
    status := "active" }

/-- `registration_store::persist`: the column of the reputation model takes
no `NULL`. -/
def register (repo : MySqlRepo fold) (rec : NodeRecord) : Except RepoError (MySqlRepo fold) :=
  match rec.node.reputationModel with
  | none => .error .persistence
  | some model =>
    .ok { repo with nodes := repo.nodes.upsert (newRow rec model) (mergeRow rec) (fun _ => rfl) }

/-- `MySqlRepo::deregister`: the awards of the node go with its row, its
ledger row stays. -/
def deregister (repo : MySqlRepo fold) (nodeId : String) : Bool × MySqlRepo fold :=
  ((repo.find nodeId).isSome,
    { repo with
      nodes := repo.nodes.delete (fold nodeId)
      creditTransactions := repo.creditTransactions.filter (fun t => fold t.nodeId ≠ fold nodeId) })

/-- **A registration leaves its row**, merged into what was there, and every
other row. -/
theorem find_register {repo repo' : MySqlRepo fold} {rec : NodeRecord}
    (h : repo.register rec = .ok repo') (nodeId : String) :
    ∃ model, repo'.find nodeId
      = if fold nodeId = fold rec.node.nodeId then
          some (((repo.find rec.node.nodeId).map (mergeRow rec)).getD (newRow rec model))
        else repo.find nodeId := by
  unfold register at h
  split at h
  · exact absurd h (by simp)
  · rename_i model _
    obtain rfl := Except.ok.inj h
    exact ⟨model, Table.find_upsert _ _ _ _⟩

/-- What is left after an admitted registration. -/
def registered (repo : MySqlRepo fold) (p : PendingRegistration) : MySqlRepo fold :=
  { repo with
    nodes := repo.nodes.upsert (newRow p.record "outcome-v2") (mergeRow p.record) (fun _ => rfl) }

/-- An admitted registration names its reputation model. -/
theorem register_record (repo : MySqlRepo fold) (p : PendingRegistration) :
    repo.register p.record = .ok (repo.registered p) := rfl

theorem find_registered (repo : MySqlRepo fold) (p : PendingRegistration) (nodeId : String) :
    (repo.registered p).find nodeId
      = if fold nodeId = fold p.nodeId then
          some (((repo.find p.nodeId).map (mergeRow p.record)).getD (newRow p.record "outcome-v2"))
        else repo.find nodeId :=
  Table.find_upsert _ _ _ _

theorem find_deregister (repo : MySqlRepo fold) (id nodeId : String) :
    (repo.deregister id).2.find nodeId
      = if fold nodeId = fold id then none else repo.find nodeId :=
  Table.find_delete _ _ _

/-! ## Awards -/

/-- The balance the ledger has for a node: its row, or the balance of the
node where there is none yet. -/
def ledgerBalance (repo : MySqlRepo fold) (row : NodeRow) : ℚ :=
  ((repo.credits.find (fold row.id)).map (fun c => c.balance)).getD row.creditBalance

/-- `record_credit_award_once`: the ledger and the node must agree, the nonce
must be new, and both balances become the sum, rounded. -/
def recordCreditAward (repo : MySqlRepo fold) (nodeId : String) (amount : ℚ) (nonce : String) :
    Except CreditError (ℚ × MySqlRepo fold) :=
  match repo.find nodeId with
  | none => .error .nodeNotFound
  | some row =>
    -- a node that was removed and came back starts at nothing, its ledger does not
    let ledger := repo.ledgerBalance row
    if 1 / 10000 < |ledger - row.creditBalance| then .error .dbError
    else if repo.creditTransactions.any (fun t => fold t.nonce == fold nonce) then
      .error .nonceReplay
    else
      let balance := round4 (ledger + amount)
      .ok (balance,
        { nodes := repo.nodes.update (fold nodeId) (fun r => { r with creditBalance := balance })
            (fun _ => rfl)
          credits := repo.credits.upsert ⟨nodeId, balance⟩ (fun c => { c with balance := balance })
            (fun _ => rfl)
          creditTransactions := repo.creditTransactions ++ [⟨nodeId, nonce⟩] })

/-- An award sets the balance of its node. -/
theorem find_recordCreditAward {repo repo' : MySqlRepo fold} {nodeId : String} {amount : ℚ}
    {nonce : String} {balance : ℚ}
    (h : repo.recordCreditAward nodeId amount nonce = .ok (balance, repo')) (other : String) :
    repo'.find other
      = if fold other = fold nodeId then
          (repo.find other).map (fun r => { r with creditBalance := balance })
        else repo.find other := by
  unfold recordCreditAward at h
  split at h
  · exact absurd h (by simp)
  · dsimp only at h
    split at h
    · exact absurd h (by simp)
    · split at h
      · exact absurd h (by simp)
      · rename_i row _ _ _
        obtain ⟨rfl, rfl⟩ := Prod.mk.inj (Except.ok.inj h)
        have hkey : ∀ r : NodeRow,
            fold { r with creditBalance := round4 (repo.ledgerBalance row + amount) }.id
              = fold r.id := fun _ => rfl
        exact Table.find_update repo.nodes (fold nodeId) (fold other) hkey

/-! ## Heartbeats -/

/-- `compute_delta`: only a gain is capped. -/
def computeDelta (tasksSuccess tasksFailed : ℕ) : ℚ :=
  let delta := (tasksSuccess : ℚ) * (1 / 100) + (tasksFailed : ℚ) * (-1 / 20)
  if 1 / 10 < delta then 1 / 10 else delta

/-- `apply_delta`: the score stays in the unit interval. -/
def applyDelta (oldScore delta : ℚ) : ℚ := max 0 (min (oldScore + delta) 1)

/-- A time as a column keeps it, in whole seconds. -/
def wholeSeconds (ms : ℤ) : ℤ := ms / 1000 * 1000

/-- A heartbeat, once its token and its form were checked. -/
structure HeartbeatRequest where
  nodeId : String
  load : ℚ := 0
  available : Option Bool := none
  activeJobs : Option ℕ := none
  tasksSuccess : ℕ := 0
  tasksFailed : ℕ := 0
  metricsBatchId : Option String := none
  healthModels : Option (List String) := none

namespace HeartbeatRequest

/-- The tasks a heartbeat counts, a thousand at most of either kind. -/
def countedSuccess (req : HeartbeatRequest) : ℕ := min req.tasksSuccess 1000

@[inherit_doc countedSuccess]
def countedFailed (req : HeartbeatRequest) : ℕ := min req.tasksFailed 1000

/-- What a heartbeat asks of the reputation. -/
def delta (req : HeartbeatRequest) : ℚ := computeDelta req.countedSuccess req.countedFailed

end HeartbeatRequest

/-- A batch of metrics counts once: the row names the last one. -/
def metricsApplied (row : NodeRow) (req : HeartbeatRequest) : Bool :=
  req.metricsBatchId.all (fun id => row.lastMetricsBatchId != some id)

/-- What a change of reputation comes to under the hourly cap: the change,
the gain of the hour and whether a new hour begins. -/
def hourlyCapped (row : NodeRow) (delta : ℚ) (nowMs : ℤ) : ℚ × ℚ × Bool :=
  if 0 < delta then
    let expired := row.repHourlyWindowStartMs.all (fun start => 3600 ≤ (nowMs - start) / 1000)
    let gain := if expired then 0 else row.repHourlyGain
    -- at most a fifth in an hour, counted from the first gain
    let capped := min delta (max (1 / 5 - gain) 0)
    (capped, gain + capped, expired || row.repHourlyWindowStartMs.isNone)
  else (delta, row.repHourlyGain, false)

/-- The score a heartbeat leaves, before it is stored. -/
def newScore (row : NodeRow) (req : HeartbeatRequest) (nowMs : ℤ) : ℚ :=
  applyDelta row.reputationScore
    (hourlyCapped row (if metricsApplied row req then req.delta else 0) nowMs).1

/-- The row a heartbeat leaves. -/
def heartbeatRow (row : NodeRow) (req : HeartbeatRequest) (nowMs : ℤ) : NodeRow :=
  let applied := metricsApplied row req
  let capped := hourlyCapped row (if applied then req.delta else 0) nowMs
  { row with
    load := toF32 (max 0 (min req.load 1))
    available := req.available.getD true
    activeJobs := req.activeJobs.getD 0
    reputationScore := toF32 (newScore row req nowMs)
    tasksTotal := row.tasksTotal + if applied then req.countedSuccess + req.countedFailed else 0
    tasksFailed := row.tasksFailed + if applied then req.countedFailed else 0
    repHourlyGain := round4 (toF32 capped.2.1)
    repHourlyWindowStartMs :=
      if capped.2.2 then some (wholeSeconds nowMs) else row.repHourlyWindowStartMs
    healthModels := req.healthModels.or row.healthModels
    lastMetricsBatchId := req.metricsBatchId.or row.lastMetricsBatchId
    status := "active"
    dormantSinceMs := none
    lastSeenMs := some (wholeSeconds nowMs) }

/-- `heartbeat_once`: the row it found, and what it leaves. -/
def heartbeatOnce (repo : MySqlRepo fold) (req : HeartbeatRequest) (nowMs : ℤ) :
    Option (NodeRow × MySqlRepo fold) :=
  (repo.find req.nodeId).map (fun row => (row,
    { repo with
      nodes := repo.nodes.update (fold req.nodeId) (fun r => heartbeatRow r req nowMs)
        (fun _ => rfl) }))

/-- The event a heartbeat logs in its transaction, for a node that was
dormant. -/
def reactivation (row : NodeRow) (req : HeartbeatRequest) (nowMs : ℤ) : Option NewEvent :=
  if row.status = "dormant" then
    some (MySql.reactivateEvent req.nodeId row.dormantSinceMs nowMs)
  else none

/-- The event the handler logs after it, where tasks were reported and
counted. -/
def reputationUpdate (row : NodeRow) (req : HeartbeatRequest) (nowMs : ℤ) : Option NewEvent :=
  if 0 < req.countedSuccess + req.countedFailed ∧ metricsApplied row req then
    some ⟨"REPUTATION_UPDATE", req.nodeId, .object
      [("source", .string "heartbeat_metrics"),
       ("tasks_success", .number (.posInt req.countedSuccess)),
       ("tasks_failed", .number (.posInt req.countedFailed)),
       ("reputation_score", .number (.float (newScore row req nowMs)))]⟩
  else none

/-- A heartbeat that asks nothing of the reputation, or whose metrics were
counted before, leaves one half at one half. -/
theorem reputation_heartbeatRow {row : NodeRow} {req : HeartbeatRequest}
    (hquiet : req.delta = 0
      ∨ (req.metricsBatchId.isSome ∧ req.metricsBatchId = row.lastMetricsBatchId))
    (hhalf : row.reputationScore = 1 / 2) (nowMs : ℤ) :
    (heartbeatRow row req nowMs).reputationScore = 1 / 2 := by
  have hdelta : (if metricsApplied row req then req.delta else 0) = 0 := by
    rcases hquiet with hzero | ⟨hsome, hcounted⟩
    · rw [hzero, ite_self]
    · obtain ⟨id, hid⟩ := Option.isSome_iff_exists.mp hsome
      have happlied : metricsApplied row req = false := by
        unfold metricsApplied
        rw [← hcounted, hid]
        simp
      rw [happlied]
      rfl
  show toF32 (newScore row req nowMs) = 1 / 2
  unfold newScore
  rw [hdelta, hhalf]
  have hscore : applyDelta (1 / 2) (hourlyCapped row 0 nowMs).1 = 1 / 2 := by
    unfold hourlyCapped applyDelta
    rw [if_neg (lt_irrefl 0)]
    norm_num
  rw [hscore, toF32_half]

theorem find_heartbeatOnce {repo repo' : MySqlRepo fold} {req : HeartbeatRequest} {nowMs : ℤ}
    {row : NodeRow} (h : repo.heartbeatOnce req nowMs = some (row, repo')) (nodeId : String) :
    repo.find req.nodeId = some row
      ∧ repo'.find nodeId
        = if fold nodeId = fold req.nodeId then
            (repo.find nodeId).map (fun r => heartbeatRow r req nowMs)
          else repo.find nodeId := by
  obtain ⟨found, hfound, heq⟩ := Option.map_eq_some_iff.mp h
  obtain ⟨rfl, rfl⟩ := Prod.mk.inj heq
  have hkey : ∀ r : NodeRow, fold (heartbeatRow r req nowMs).id = fold r.id := fun _ => rfl
  exact ⟨hfound, Table.find_update repo.nodes (fold req.nodeId) (fold nodeId) hkey⟩

/-! ## Probes -/

/-- What a transition writes. -/
def routeRow (nowMs : ℤ) (row : NodeRow) : ProbeRouteTransition → NodeRow
  | .restored => { row with publicReachable := true, endpointVerifiedDeadAtMs := none }
  | .demoted =>
    { row with publicReachable := false, endpointVerifiedDeadAtMs := some (wholeSeconds nowMs) }
  | .unchanged => row

@[simp] theorem id_routeRow (nowMs : ℤ) (row : NodeRow) (t : ProbeRouteTransition) :
    (routeRow nowMs row t).id = row.id := by
  cases t <;> rfl

/-- The transition a probe of a node makes of its route. -/
def transitionOf (row : NodeRow) (passed : Bool) : ProbeRouteTransition :=
  MySql.routeTransition passed row.publicReachable row.endpointVerifiedDeadAtMs

/-- A probe demotes only a route that was reachable, and only when it
fails. -/
theorem transitionOf_eq_demoted {row : NodeRow} {passed : Bool}
    (h : transitionOf row passed = .demoted) : passed = false ∧ row.publicReachable = true := by
  unfold transitionOf MySql.routeTransition at h
  split at h
  · exact absurd h (by simp)
  · split at h
    · rename_i hboth
      simpa using hboth
    · exact absurd h (by simp)

/-- `apply_probe_route_state`: the row it found, and what it leaves. -/
def applyProbeRouteState (repo : MySqlRepo fold) (nodeId : String) (passed : Bool) (nowMs : ℤ) :
    Option (NodeRow × MySqlRepo fold) :=
  (repo.find nodeId).map (fun row => (row,
    { repo with
      nodes := repo.nodes.update (fold nodeId)
        (fun r => routeRow nowMs r (transitionOf r passed))
        (fun r => congrArg fold (id_routeRow nowMs r (transitionOf r passed))) }))

theorem find_applyProbeRouteState {repo repo' : MySqlRepo fold} {probed : String} {passed : Bool}
    {nowMs : ℤ} {row : NodeRow}
    (h : repo.applyProbeRouteState probed passed nowMs = some (row, repo')) (nodeId : String) :
    repo.find probed = some row
      ∧ repo'.find nodeId
        = if fold nodeId = fold probed then
            (repo.find nodeId).map (fun r => routeRow nowMs r (transitionOf r passed))
          else repo.find nodeId := by
  obtain ⟨found, hfound, heq⟩ := Option.map_eq_some_iff.mp h
  obtain ⟨rfl, rfl⟩ := Prod.mk.inj heq
  have hkey : ∀ r : NodeRow, fold (routeRow nowMs r (transitionOf r passed)).id = fold r.id :=
    fun r => congrArg fold (id_routeRow nowMs r _)
  exact ⟨hfound, Table.find_update repo.nodes (fold probed) (fold nodeId) hkey⟩

/-! ## Discovery -/

/-- The number of rows a query asks for; it is read into 32 bits. -/
def rowLimit (limit : ℕ) : ℕ :=
  if limit = 0 then 10 else if 50 < limit % 2 ^ 32 then 50 else limit % 2 ^ 32

/-- **The filters of discovery**: a node that serves the intent, is
available, active and not dead, has the reputation asked for and was seen
within ninety seconds, or never. -/
def matchesQuery (fold : String → String) (q : DiscoverQuery) (nowMs : ℤ) (r : NodeRow) : Bool :=
  r.intents.any (fun intent => fold intent == fold q.intent) && r.available
    && fold r.status == fold "active" && r.endpointVerifiedDeadAtMs.isNone
    && decide (toF32 (max (q.minReputation.getD (1 / 10)) (1 / 10)) ≤ r.reputationScore)
    && r.lastSeenMs.all (fun seen => wholeSeconds nowMs - 90000 ≤ seen)

/-- `MySqlRepo::discover`, the rows it selects: by descending reputation,
cut to the limit. -/
def discover (repo : MySqlRepo fold) (q : DiscoverQuery) (nowMs : ℤ) : List NodeRow :=
  ((repo.nodes.rows.filter (matchesQuery fold q nowMs)).insertionSort
    (fun a b => b.reputationScore ≤ a.reputationScore)).take (rowLimit q.limit)

end MySqlRepo

namespace Sample

/-- The case folding of the collation, on the letters of the sample. -/
def lowercase (text : String) : String := String.ofList (text.toList.map Char.toLower)

end Sample
