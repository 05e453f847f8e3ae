import IicpDirectory.Foundations.Run
import IicpDirectory.Foundations.Transaction
import IicpDirectory.Seed.Handlers
import IicpDirectory.Seed.Standing

/-!
# Observations of proxies and their quorum

A proxy reports what it saw of a node, once a minute. What it reports counts
for the quorum of the node for a week, if the proxy has been registered for
three days and has a reputation of 0.55; and once three proxies count, each
report moves the average latency of the node.

Four things are relied on, and none is given. The quorum is read off two
times, of the observation and of the proxy, and no statement writes either. A
second report in the minute is not accepted, and overwrites the first. The
average is read and written under a column that `nodes` does not have. Every
one of these fails without a trace, as the errors are discarded, so what is
left is when nothing comes of it: `telemetry_upheld_iff` says exactly when.

Proxies and nodes are compared in the collation. Times are those of the
database, in whole seconds.
-/

open Schema

/-- What a proxy reports. The advertised quality is here as the column keeps
it. -/
structure ProxyObservation where
  nodeId : String
  proxyNodeId : String
  latencyMsObserved : Option ℕ
  tokensObserved : Option ℕ
  status : String
  qosAdvertised : Option String
  qosMet : Option Bool

/-- A row of `proxy_telemetry`. -/
structure TelemetryRow where
  nodeId : String
  proxyNodeId : String
  timeBucket : ℤ
  latencyMsObserved : ℚ
  tokensObserved : ℚ
  status : String
  qosAdvertised : Option String
  qosMet : Bool
  createdAtMs : Option ℤ
  deriving DecidableEq

namespace TelemetryRow

/-- `proxy_telemetry_dedup`. -/
def dedupKey (fold : String → String) (r : TelemetryRow) : String × String × ℤ :=
  (fold r.nodeId, fold r.proxyNodeId, r.timeBucket)

/-- The minute of a time, in seconds. -/
def timeBucketOf (nowMs : ℤ) : ℤ := nowMs / 1000 / 60 * 60

/-- The columns of `INSERT INTO proxy_telemetry`, and their values. -/
def insertColumns (obs : ProxyObservation) (nowMs : ℤ) : List (String × Value) :=
  [("node_id", .text obs.nodeId),
   ("proxy_node_id", .text obs.proxyNodeId),
   ("time_bucket", .number (timeBucketOf nowMs)),
   ("latency_ms_observed", obs.latencyMsObserved.elim .null fun n => .number n),
   ("tokens_observed", obs.tokensObserved.elim .null fun n => .number n),
   ("status", .text (if obs.status = "" then "ok" else obs.status)),
   ("qos_advertised", Standing.optionalText obs.qosAdvertised),
   ("qos_met", obs.qosMet.elim .null Standing.flag)]

/-- An observation in a row that was accepted. -/
def ofStored (obs : ProxyObservation) (nowMs : ℤ) (row : StoredRow) : TelemetryRow where
  nodeId := obs.nodeId
  proxyNodeId := obs.proxyNodeId
  timeBucket := timeBucketOf nowMs
  latencyMsObserved := (row.number "latency_ms_observed").getD 0
  tokensObserved := (row.number "tokens_observed").getD 0
  status := (row.text "status").getD ""
  qosAdvertised := (row.optionalText "qos_advertised").getD none
  qosMet := row.number "qos_met" != some 0
  createdAtMs := (row.optionalMoment "created_at").getD none

/-- The row of an observation, if its columns take it: an observation without
a latency has none. -/
@[irreducible]
def ofObservation (obs : ProxyObservation) (nowMs : ℤ) : Option TelemetryRow :=
  (Baseline.proxyTelemetry.row 0 (insertColumns obs nowMs)).map (ofStored obs nowMs)

/-- What a row is written over with: the latency, the tokens and the
status. -/
def written (new old : TelemetryRow) : TelemetryRow :=
  { old with
    latencyMsObserved := new.latencyMsObserved
    tokensObserved := new.tokensObserved
    status := new.status }

/-- **A row is made without a time.** -/
theorem createdAtMs_ofObservation {obs : ProxyObservation} {nowMs : ℤ} {row : TelemetryRow}
    (h : ofObservation obs nowMs = some row) : row.createdAtMs = none := by
  unfold ofObservation at h
  obtain ⟨stored, hstored, rfl⟩ := Option.map_eq_some_iff.mp h
  have hcolumn : Column.optional "created_at" .moment ∈ Baseline.proxyTelemetry.columns :=
    List.mem_of_getElem? (show Baseline.proxyTelemetry.columns[9]? = _ from rfl)
  show (stored.optionalMoment "created_at").getD none = none
  rw [StoredRow.optionalMoment_of_omitted hstored hcolumn rfl, Option.getD_some]

end TelemetryRow

/-- The observations, one of a proxy for a node in a minute. -/
abbrev TelemetryTable (fold : String → String) := Table (TelemetryRow.dedupKey fold)

/-- An observation of a node by a proxy, and its time if it has one. -/
structure Observed where
  nodeId : String
  proxyNodeId : String
  atMs : Option ℤ

/-- **The nodes and the observations of proxies**, and the reports that were
accepted. -/
structure TelemetryDb (fold : String → String) where
  nodes : StandingTable fold
  telemetry : TelemetryTable fold
  accepted : List Observed

/-- What happens: a change of the nodes, or a report. -/
inductive TelemetryAction
  | write (action : StandingAction)
  | record (obs : ProxyObservation)

/-- An action, what the server makes of its first statement, which of the
others it fails, and the time. -/
structure TelemetryStep where
  action : TelemetryAction
  server : Server
  fails : ℕ → Bool
  nowMs : ℤ

namespace TelemetryDb

variable {fold : String → String}

/-! ## The quorum -/

/-- Seven days. -/
def weekMs : ℤ := 7 * 86400000

/-- Three days. -/
def minAgeMs : ℤ := 3 * 86400000

/-- The distinct proxies that count for a node, of those that observed it: each
within a week, and by a node that by some reckoning is three days old, and has
the reputation. -/
def countedProxies (nodes : StandingTable fold) (age : Standing → Option ℤ)
    (observed : List Observed) (nodeId : String) (nowMs : ℤ) : List String :=
  ((observed.filter fun o => fold o.nodeId == fold nodeId
      && o.atMs.any (fun t => decide (MySqlRepo.wholeSeconds nowMs - weekMs ≤ t))
      && (nodes.ofNode o.proxyNodeId).any fun r =>
        (age r).any (fun t => decide (t ≤ MySqlRepo.wholeSeconds nowMs - minAgeMs))
          && decide (11 / 20 ≤ r.reputationScore)).map
    fun o => fold o.proxyNodeId).dedup

/-- What `proxy_telemetry` has of the observations. -/
def stored (db : TelemetryDb fold) : List Observed :=
  db.telemetry.rows.map fun r => ⟨r.nodeId, r.proxyNodeId, r.createdAtMs⟩

/-- The proxies the `SELECT COUNT(DISTINCT …)` counts: by the times of the
rows. -/
def timedProxies (db : TelemetryDb fold) (nodeId : String) (nowMs : ℤ) : List String :=
  countedProxies db.nodes Standing.createdAtMs db.stored nodeId nowMs

/-- **The proxies that should count**: those with an accepted observation,
registered for three days. -/
def independentProxies (db : TelemetryDb fold) (nodeId : String) (nowMs : ℤ) : List String :=
  countedProxies db.nodes (fun r => some r.registeredAtMs) db.accepted nodeId nowMs

/-! ## The average latency -/

/-- `median_outlier_weight`. -/
def medianOutlierWeight (value : ℚ) (sortedSample : List ℚ) : ℚ :=
  let n := sortedSample.length
  if n < 2 then 1
  else
    let median :=
      if n % 2 = 0 then
        ((sortedSample[n / 2 - 1]?).getD 0 + (sortedSample[n / 2]?).getD 0) / 2
      else (sortedSample[n / 2]?).getD 0
    if 0 < median ∧ 3 * median < value then 1 / 10 else 1

/-- How many observations of a node a proxy has. -/
def observationCount (db : TelemetryDb fold) (nodeId proxyId : String) : ℕ :=
  (db.telemetry.rows.filter fun r =>
    fold r.nodeId == fold nodeId && fold r.proxyNodeId == fold proxyId).length

/-- The latencies of a node observed in the last day, in order. -/
def recentLatencies (db : TelemetryDb fold) (nodeId : String) (nowMs : ℤ) : List ℚ :=
  ((db.telemetry.rows.filter fun r => fold r.nodeId == fold nodeId
      && r.createdAtMs.any fun t => decide (MySqlRepo.wholeSeconds nowMs - 86400000 ≤ t)).map
    TelemetryRow.latencyMsObserved).mergeSort (fun a b => decide (a ≤ b))

/-- The average after an observation: the observation itself where there was
none, and hundredths are kept. -/
def newEma (outlierWeight : ℚ) (latency : ℕ) (cur : Option ℚ) : ℚ :=
  let alpha := 1 / 10 * outlierWeight
  let ema := match cur with
    | some c => if 0 < c then alpha * latency + (1 - alpha) * c else (latency : ℚ)
    | none => (latency : ℚ)
  (roundHalfAway (ema * 100) : ℚ) / 100

/-- The weight of an observation: a proxy that has made ten is an outlier
where it is three times over the median. -/
def outlierWeight (db : TelemetryDb fold) (fails : ℕ → Bool) (nodeId proxyId : String)
    (latency : ℕ) (nowMs : ℤ) : ℚ :=
  if 10 ≤ (if fails 1 then 0 else db.observationCount nodeId proxyId) then
    medianOutlierWeight latency (if fails 2 then [] else db.recentLatencies nodeId nowMs)
  else 1

/-- The columns the two statements on the average name. -/
def emaColumns : List String := ["avg_latency_ms", "node_id"]

/-- The rows of a node that a statement `WHERE node_id = ?` finds. -/
def emaRows (db : TelemetryDb fold) (nodeId : String) : Option (List Standing) :=
  Baseline.nodes.select emaColumns (db.nodes.ofNode nodeId).toList

/-- `update_latency_ema`. -/
def updateLatencyEma (db : TelemetryDb fold) (fails : ℕ → Bool) (nodeId proxyId : String)
    (latency : ℕ) (nowMs : ℤ) : TelemetryDb fold :=
  let cur := (if fails 3 then none else db.emaRows nodeId).bind fun rows =>
    rows.head?.map Standing.avgLatencyMs
  let average := newEma (db.outlierWeight fails nodeId proxyId latency nowMs) latency cur
  match if fails 4 then none else db.emaRows nodeId with
  | some _ =>
    { db with
      nodes := db.nodes.update (fold nodeId) (fun r => { r with avgLatencyMs := average })
        fun _ => rfl }
  | none => db

/-! ## A report -/

section Report

variable (foundRows : Bool) (db : TelemetryDb fold) (s : TelemetryStep) (obs : ProxyObservation)

/-- The rows after the `INSERT … ON DUPLICATE KEY UPDATE`, if it is executed
and its columns take the observation. -/
def insertObservation : TelemetryTable fold :=
  if s.server.executes then
    match TelemetryRow.ofObservation obs s.nowMs with
    | some row => db.telemetry.upsert row (.written row) fun _ => rfl
    | none => db.telemetry
  else db.telemetry

/-- What the server reports of a row: 1 if it is new, 2 if it is written over,
and if it is left as it was 0, or 1 to a client that asks for the rows it
found. -/
def rowsAffected (row : TelemetryRow) : ℕ :=
  match db.telemetry.find (row.dedupKey fold) with
  | none => 1
  | some old => if row.written old = old then if foundRows then 1 else 0 else 2

/-- The report is accepted. -/
def accepts : Bool :=
  s.server.answers
    && (TelemetryRow.ofObservation obs s.nowMs).any fun row =>
      db.rowsAffected foundRows row == 1

/-- The state after the `INSERT`. -/
def inserted : TelemetryDb fold where
  nodes := db.nodes
  telemetry := db.insertObservation s obs
  accepted :=
    if db.accepts foundRows s obs then
      ⟨obs.nodeId, obs.proxyNodeId, some (MySqlRepo.wholeSeconds s.nowMs)⟩ :: db.accepted
    else db.accepted

/-- The quorum that is returned. -/
def returnedQuorum : ℕ :=
  if s.fails 0 then 0
  else ((db.inserted foundRows s obs).timedProxies obs.nodeId s.nowMs).length

/-- `MySqlRepo::record_proxy_telemetry`: whether the report is accepted, the
quorum, and the state. -/
def recordProxyTelemetry : (Bool × ℕ) × TelemetryDb fold :=
  ((db.accepts foundRows s obs, db.returnedQuorum foundRows s obs),
    if db.accepts foundRows s obs && decide (3 ≤ db.returnedQuorum foundRows s obs) then
      match obs.latencyMsObserved with
      | some latency =>
        (db.inserted foundRows s obs).updateLatencyEma s.fails obs.nodeId obs.proxyNodeId latency
          s.nowMs
      | none => db.inserted foundRows s obs
    else db.inserted foundRows s obs)

end Report

/-- One step. -/
def step (jsonText : Json → String) (foundRows : Bool) (db : TelemetryDb fold)
    (s : TelemetryStep) : TelemetryDb fold :=
  match s.action with
  | .write action =>
    if s.server.executes then
      { db with nodes := db.nodes.write jsonText (MySqlRepo.wholeSeconds s.nowMs) action }
    else db
  | .record obs => (db.recordProxyTelemetry foundRows s obs).2

/-! ## What is asked of a run -/

/-- The average a node should have after an accepted report. -/
def nextAverage (db : TelemetryDb fold) (obs : ProxyObservation) (latency : ℕ) (nowMs : ℤ)
    (previous : ℚ) : ℚ :=
  newEma (db.outlierWeight (fun _ => false) obs.nodeId obs.proxyNodeId latency nowMs) latency
    (some previous)

/-- **What a report upholds**: the quorum returned is the number of proxies
that count; if it is not accepted no observation is changed; and if it is, has
a latency, and finds three proxies, the average moves. -/
structure UpholdsReport (foundRows : Bool) (db : TelemetryDb fold) (s : TelemetryStep)
    (obs : ProxyObservation) : Prop where
  quorum : (db.recordProxyTelemetry foundRows s obs).1.2
    = ((db.inserted foundRows s obs).independentProxies obs.nodeId s.nowMs).length
  unchanged : (db.recordProxyTelemetry foundRows s obs).1.1 = false →
    (db.recordProxyTelemetry foundRows s obs).2.telemetry = db.telemetry
  average : (db.recordProxyTelemetry foundRows s obs).1.1 = true →
    ∀ latency, obs.latencyMsObserved = some latency →
      3 ≤ ((db.inserted foundRows s obs).independentProxies obs.nodeId s.nowMs).length →
      ∀ r, db.nodes.ofNode obs.nodeId = some r →
        (db.recordProxyTelemetry foundRows s obs).2.nodes.ofNode obs.nodeId
          = some { r with
            avgLatencyMs := (db.inserted foundRows s obs).nextAverage obs latency s.nowMs
              r.avgLatencyMs }

/-- **The links hold at a report**: each proxy that counts has its times and
the count is answered; a row in the minute already has the values of the
report, and the `INSERT` of a new one is answered; and the average is where an
accepted report would move it. -/
structure LinkedReport (foundRows : Bool) (db : TelemetryDb fold) (s : TelemetryStep)
    (obs : ProxyObservation) : Prop where
  timed : ∀ proxy ∈ (db.inserted foundRows s obs).independentProxies obs.nodeId s.nowMs,
    s.fails 0 = false ∧ proxy ∈ (db.inserted foundRows s obs).timedProxies obs.nodeId s.nowMs
  repeated : s.server.executes = true →
    ∀ row, TelemetryRow.ofObservation obs s.nowMs = some row →
      (∀ old, db.telemetry.find (row.dedupKey fold) = some old → row.written old = old)
        ∧ (db.telemetry.find (row.dedupKey fold) = none → s.server.answers = true)
  settled : db.accepts foundRows s obs = true →
    ∀ latency, obs.latencyMsObserved = some latency →
      3 ≤ ((db.inserted foundRows s obs).independentProxies obs.nodeId s.nowMs).length →
      ∀ r, db.nodes.ofNode obs.nodeId = some r →
        (db.inserted foundRows s obs).nextAverage obs latency s.nowMs r.avgLatencyMs
          = r.avgLatencyMs

/-! ## The average is never written -/

/-- **The statements on the average are refused**: `nodes` has no `node_id`. -/
theorem emaRows_eq_none (db : TelemetryDb fold) (nodeId : String) : db.emaRows nodeId = none := by
  have hunknown : ¬ Baseline.nodes.Has "node_id" := by decide
  exact Table.select_eq_none_of_unknown (by simp [emaColumns]) hunknown _

theorem updateLatencyEma_eq (db : TelemetryDb fold) (fails : ℕ → Bool) (nodeId proxyId : String)
    (latency : ℕ) (nowMs : ℤ) : db.updateLatencyEma fails nodeId proxyId latency nowMs = db := by
  unfold updateLatencyEma
  rw [emaRows_eq_none]
  cases fails 4 <;> rfl

variable {foundRows : Bool} {db : TelemetryDb fold} {s : TelemetryStep} {obs : ProxyObservation}

/-- A report leaves what its first statement leaves. -/
theorem snd_recordProxyTelemetry :
    (db.recordProxyTelemetry foundRows s obs).2 = db.inserted foundRows s obs := by
  unfold recordProxyTelemetry
  dsimp only
  split
  · split
    · exact updateLatencyEma_eq _ _ _ _ _ _
    · rfl
  · rfl

/-! ## What counts by the rows, and what counts -/

theorem mem_countedProxies {nodes : StandingTable fold} {age : Standing → Option ℤ}
    {observed : List Observed} {nodeId proxy : String} {nowMs : ℤ} :
    proxy ∈ countedProxies nodes age observed nodeId nowMs
      ↔ ∃ o ∈ observed, fold o.nodeId = fold nodeId
        ∧ (∃ t, o.atMs = some t ∧ MySqlRepo.wholeSeconds nowMs - weekMs ≤ t)
        ∧ (∃ r, nodes.ofNode o.proxyNodeId = some r
          ∧ (∃ t, age r = some t ∧ t ≤ MySqlRepo.wholeSeconds nowMs - minAgeMs)
          ∧ 11 / 20 ≤ r.reputationScore)
        ∧ fold o.proxyNodeId = proxy := by
  unfold countedProxies
  simp only [List.mem_dedup, List.mem_map, List.mem_filter, Bool.and_eq_true, beq_iff_eq,
    Option.any_eq_true, decide_eq_true_iff]
  constructor
  · rintro ⟨o, ⟨ho, ⟨hnode, hat⟩, hproxy⟩, hfold⟩
    exact ⟨o, ho, hnode, hat, hproxy, hfold⟩
  · rintro ⟨o, ho, hnode, hat, hproxy, hfold⟩
    exact ⟨o, ⟨ho, ⟨hnode, hat⟩, hproxy⟩, hfold⟩

theorem nodup_countedProxies (nodes : StandingTable fold) (age : Standing → Option ℤ)
    (observed : List Observed) (nodeId : String) (nowMs : ℤ) :
    (countedProxies nodes age observed nodeId nowMs).Nodup :=
  List.nodup_dedup _

/-- **The times that are there are true**: a node's that of its registration,
an observation's that of an accepted report. -/
structure Truthful (db : TelemetryDb fold) : Prop where
  nodes : db.nodes.Truthful
  telemetry : ∀ k r t, db.telemetry.find k = some r → r.createdAtMs = some t →
    ∃ a ∈ db.accepted, fold a.nodeId = fold r.nodeId ∧ fold a.proxyNodeId = fold r.proxyNodeId
      ∧ a.atMs = some t

/-- **What counts by the rows counts.** -/
theorem timedProxies_subset (h : db.Truthful) (nodeId : String) (nowMs : ℤ) :
    db.timedProxies nodeId nowMs ⊆ db.independentProxies nodeId nowMs := by
  intro proxy hproxy
  obtain ⟨o, ho, hnode, ⟨t, ht, hweek⟩, ⟨n, hn, ⟨age, hage, hold⟩, hscore⟩, hfold⟩ :=
    mem_countedProxies.mp hproxy
  obtain ⟨r, hr, rfl⟩ := List.mem_map.mp ho
  obtain ⟨a, ha, hanode, haproxy, hat⟩ := h.telemetry _ r t (Table.find_eq_some_iff.mpr ⟨hr, rfl⟩) ht
  have hsame : db.nodes.ofNode a.proxyNodeId = some n := by
    unfold StandingTable.ofNode at hn ⊢
    rw [haproxy]
    exact hn
  refine mem_countedProxies.mpr ⟨a, ha, hanode.trans hnode, ⟨t, hat, hweek⟩,
    ⟨n, hsame, ⟨n.registeredAtMs, rfl, ?_⟩, hscore⟩, haproxy.trans hfold⟩
  rw [← h.nodes _ n age hn hage]
  exact hold

/-- Of two lists without repeats, one in the other, the lengths are the same
exactly if the other is in the one. -/
theorem length_eq_iff_subset {α : Type*} {l l' : List α} (hl : l.Nodup) (hl' : l'.Nodup)
    (hsub : l ⊆ l') : l.length = l'.length ↔ l' ⊆ l := by
  constructor
  · intro h
    exact ((List.subperm_of_subset hl hsub).perm_of_length_le h.ge).symm.subset
  · intro h
    exact ((List.subperm_of_subset hl hsub).antisymm (List.subperm_of_subset hl' h)).length_eq

/-- **The quorum returned is right exactly where each proxy that counts has its
times.** -/
theorem returnedQuorum_eq_iff (h : (db.inserted foundRows s obs).Truthful) :
    db.returnedQuorum foundRows s obs
        = ((db.inserted foundRows s obs).independentProxies obs.nodeId s.nowMs).length
      ↔ ∀ proxy ∈ (db.inserted foundRows s obs).independentProxies obs.nodeId s.nowMs,
        s.fails 0 = false
          ∧ proxy ∈ (db.inserted foundRows s obs).timedProxies obs.nodeId s.nowMs := by
  unfold returnedQuorum
  cases hfails : s.fails 0 with
  | true =>
    rw [if_pos rfl, eq_comm, List.length_eq_zero_iff, List.eq_nil_iff_forall_not_mem]
    exact forall_congr' fun proxy => imp_congr_right fun _ => by simp
  | false =>
    have htimed : ((db.inserted foundRows s obs).timedProxies obs.nodeId s.nowMs).Nodup :=
      nodup_countedProxies _ _ _ _ _
    have hindependent :
        ((db.inserted foundRows s obs).independentProxies obs.nodeId s.nowMs).Nodup :=
      nodup_countedProxies _ _ _ _ _
    rw [if_neg Bool.false_ne_true, length_eq_iff_subset htimed hindependent
      (timedProxies_subset h obs.nodeId s.nowMs)]
    exact forall_congr' fun proxy => imp_congr_right fun _ => (and_iff_right rfl).symm

/-! ## The links -/

/-- What the `INSERT` of an observation leaves under a key. -/
theorem find_insertObservation (k : String × String × ℤ) {r : TelemetryRow}
    (h : (db.insertObservation s obs).find k = some r) :
    (∃ old, db.telemetry.find k = some old ∧ r.createdAtMs = old.createdAtMs
        ∧ r.nodeId = old.nodeId ∧ r.proxyNodeId = old.proxyNodeId)
      ∨ r.createdAtMs = none := by
  unfold insertObservation at h
  split at h
  · split at h
    · next row hrow =>
      have hfind := (Table.find_upsert db.telemetry row (fun old => rfl : ∀ old : TelemetryRow,
        (row.written old).dedupKey fold = old.dedupKey fold) k).symm.trans h
      split at hfind
      · next hk =>
        subst hk
        obtain rfl := Option.some.inj hfind
        cases hold : db.telemetry.find (row.dedupKey fold) with
        | none => exact Or.inr (TelemetryRow.createdAtMs_ofObservation hrow)
        | some old => exact Or.inl ⟨old, rfl, rfl, rfl, rfl⟩
      · exact Or.inl ⟨r, hfind, rfl, rfl, rfl⟩
    · exact Or.inl ⟨r, h, rfl, rfl, rfl⟩
  · exact Or.inl ⟨r, h, rfl, rfl, rfl⟩

/-- **A report keeps the times true**: it adds none. -/
theorem truthful_inserted (h : db.Truthful) : (db.inserted foundRows s obs).Truthful := by
  refine ⟨h.nodes, fun k r t hr ht => ?_⟩
  rcases find_insertObservation k hr with ⟨old, hold, hcreated, hnode, hproxy⟩ | hnone
  · obtain ⟨a, ha, hanode, haproxy, hat⟩ := h.telemetry k old t hold (hcreated.symm.trans ht)
    refine ⟨a, ?_, ?_, ?_, hat⟩
    · show a ∈ if _ then _ else _
      split
      · exact List.mem_cons_of_mem _ ha
      · exact ha
    · rw [hanode, hnode]
    · rw [haproxy, hproxy]
  · exact absurd (hnone.symm.trans ht) (Option.some_ne_none t).symm

theorem truthful_step {jsonText : Json → String} (h : db.Truthful) (s : TelemetryStep) :
    (db.step jsonText foundRows s).Truthful := by
  unfold step
  split
  · split
    · exact { h with nodes := StandingTable.truthful_write h.nodes _ }
    · exact h
  · rw [snd_recordProxyTelemetry]
    exact truthful_inserted h

/-- **A report that is not accepted changes no observation exactly if** what is
there already has its values, and the answer to a new row is not lost. -/
theorem unchanged_iff (foundRows : Bool) :
    (db.accepts foundRows s obs = false → db.insertObservation s obs = db.telemetry)
      ↔ (s.server.executes = true →
        ∀ row, TelemetryRow.ofObservation obs s.nowMs = some row →
          (∀ old, db.telemetry.find (row.dedupKey fold) = some old → row.written old = old)
            ∧ (db.telemetry.find (row.dedupKey fold) = none → s.server.answers = true)) := by
  constructor
  · intro hunchanged hexecutes row hrow
    have hinsert : db.insertObservation s obs
        = db.telemetry.upsert row (.written row) fun _ => rfl := by
      unfold insertObservation
      rw [if_pos hexecutes, hrow]
    have hfind : (db.insertObservation s obs).find (row.dedupKey fold)
        = some (((db.telemetry.find (row.dedupKey fold)).map (.written row)).getD row) := by
      rw [hinsert]
      exact (Table.find_upsert db.telemetry row _ _).trans (if_pos rfl)
    constructor
    · intro old hold
      by_contra hne
      have haccepts : db.accepts foundRows s obs = false := by
        unfold accepts rowsAffected
        rw [hrow, Option.any_some, hold]
        dsimp only
        rw [if_neg hne]
        exact Bool.and_false _
      rw [hunchanged haccepts, hold] at hfind
      exact hne (Option.some.inj hfind).symm
    · intro hnone
      by_contra hne
      have haccepts : db.accepts foundRows s obs = false := by
        unfold accepts
        rw [Bool.eq_false_iff.mpr hne, Bool.false_and]
      rw [hunchanged haccepts, hnone] at hfind
      exact Option.some_ne_none _ hfind.symm
  · intro hrepeated hrejected
    unfold insertObservation
    split
    · next hexecutes =>
      cases hrow : TelemetryRow.ofObservation obs s.nowMs with
      | none => rfl
      | some row =>
        obtain ⟨hold, hnew⟩ := hrepeated hexecutes row hrow
        cases hfind : db.telemetry.find (row.dedupKey fold) with
        | none =>
          unfold accepts rowsAffected at hrejected
          rw [hnew hfind, hrow, Option.any_some, hfind] at hrejected
          exact absurd hrejected (by simp)
        | some old => exact Table.upsert_eq_self _ hfind (hold old hfind)
    · rfl

/-- **A report upholds what is asked of it exactly where the links hold.** -/
theorem upholdsReport_iff (h : db.Truthful) :
    UpholdsReport foundRows db s obs ↔ LinkedReport foundRows db s obs := by
  have htruthful : (db.inserted foundRows s obs).Truthful := truthful_inserted h
  have hnodes : (db.recordProxyTelemetry foundRows s obs).2.nodes = db.nodes := by
    rw [snd_recordProxyTelemetry]
    rfl
  have htelemetry : (db.recordProxyTelemetry foundRows s obs).2.telemetry
      = db.insertObservation s obs := by
    rw [snd_recordProxyTelemetry]
    rfl
  -- the average stays where it was
  have hmoved : ∀ (r : Standing) (average : ℚ),
      some r = some { r with avgLatencyMs := average } ↔ average = r.avgLatencyMs := by
    intro r average
    rw [Option.some.injEq]
    constructor
    · exact fun heq => (congrArg Standing.avgLatencyMs heq).symm
    · rintro rfl
      rfl
  constructor
  · rintro ⟨hquorum, hunchanged, haverage⟩
    refine ⟨(returnedQuorum_eq_iff htruthful).mp hquorum, (unchanged_iff foundRows).mp fun hrejected => ?_,
      fun haccepts latency hlatency hthree r hr => ?_⟩
    · exact htelemetry.symm.trans (hunchanged hrejected)
    · have hafter := haverage haccepts latency hlatency hthree r hr
      rw [hnodes, hr] at hafter
      exact (hmoved r _).mp hafter
  · rintro ⟨htimed, hrepeated, hsettled⟩
    refine ⟨(returnedQuorum_eq_iff htruthful).mpr htimed, fun hrejected => ?_,
      fun haccepts latency hlatency hthree r hr => ?_⟩
    · exact htelemetry.trans ((unchanged_iff foundRows).mpr hrepeated hrejected)
    · rw [hnodes, hr]
      exact (hmoved r _).mpr (hsettled haccepts latency hlatency hthree r hr)

/-! ## Runs -/

/-- **A run upholds what is asked of its reports.** -/
def Upholds (jsonText : Json → String) (foundRows : Bool) (db : TelemetryDb fold)
    (steps : List TelemetryStep) : Prop :=
  Run.Along (step jsonText foundRows)
    (fun db s => ∀ obs, s.action = .record obs → UpholdsReport foundRows db s obs) db steps

/-- The links hold at the reports of a run. -/
def Linked (jsonText : Json → String) (foundRows : Bool) (db : TelemetryDb fold)
    (steps : List TelemetryStep) : Prop :=
  Run.Along (step jsonText foundRows)
    (fun db s => ∀ obs, s.action = .record obs → LinkedReport foundRows db s obs) db steps

/-- **A run upholds what is asked of it exactly where the links hold.** -/
theorem telemetry_upheld_iff {jsonText : Json → String} (h : db.Truthful)
    (steps : List TelemetryStep) :
    db.Upholds jsonText foundRows steps ↔ db.Linked jsonText foundRows steps := by
  constructor
  · refine Run.along_mono ?_ ?_ h
    · exact fun db s hdb _ => truthful_step hdb s
    · exact fun db s hdb hs obs hobs => (upholdsReport_iff hdb).mp (hs obs hobs)
  · refine Run.along_mono ?_ ?_ h
    · exact fun db s hdb _ => truthful_step hdb s
    · exact fun db s hdb hs obs hobs => (upholdsReport_iff hdb).mpr (hs obs hobs)

/-- No observation has a time. -/
def Untimed (db : TelemetryDb fold) : Prop :=
  ∀ k r, db.telemetry.find k = some r → r.createdAtMs = none

theorem untimed_inserted (h : db.Untimed) : (db.inserted foundRows s obs).Untimed := by
  intro k r hr
  rcases find_insertObservation k hr with ⟨old, hold, hcreated, -⟩ | hnone
  · exact hcreated.trans (h k old hold)
  · exact hnone

/-- **Reports alone make no quorum**: none of their observations has a time. -/
theorem returnedQuorum_eq_zero (h : db.Untimed) : db.returnedQuorum foundRows s obs = 0 := by
  unfold returnedQuorum
  split
  · rfl
  · rw [List.length_eq_zero_iff, List.eq_nil_iff_forall_not_mem]
    intro proxy hproxy
    obtain ⟨o, ho, -, ⟨t, ht, -⟩, -⟩ := mem_countedProxies.mp hproxy
    obtain ⟨r, hr, rfl⟩ := List.mem_map.mp ho
    have hnone : r.createdAtMs = none :=
      untimed_inserted h _ r (Table.find_eq_some_iff.mpr ⟨hr, rfl⟩)
    exact absurd (hnone.symm.trans ht) (Option.some_ne_none t).symm

/-- So it is in every run from observations without times. -/
theorem quorum_zero_along {jsonText : Json → String} (h : db.Untimed)
    (steps : List TelemetryStep) :
    Run.Along (step jsonText foundRows) (fun db s => ∀ obs, s.action = .record obs →
      (db.recordProxyTelemetry foundRows s obs).1.2 = 0) db steps := by
  have htrue : Run.Along (step jsonText foundRows) (fun _ _ => True) db steps :=
    Run.along_of_forall _ (fun _ _ _ => trivial) db
  refine Run.along_mono ?_ ?_ h htrue
  · intro db s hdb _
    unfold step
    split
    · split
      · exact hdb
      · exact hdb
    · rw [snd_recordProxyTelemetry]
      exact untimed_inserted hdb
  · exact fun db s hdb _ obs _ => returnedQuorum_eq_zero hdb

end TelemetryDb

/-! ## A quorum of one that is none, and reports that are lost -/

namespace Sample

/-- An observation of the target by a proxy, with its time. -/
def timedObservation (proxy : String) : TelemetryRow :=
  ⟨"n1", proxy, 0, 100, 0, "ok", none, true, some 0⟩

/-- The report of a proxy on the target. -/
def proxyReport (proxy : String) (latency : ℕ) : ProxyObservation :=
  ⟨"n1", proxy, some latency, some 10, "", none, some true⟩

/-- A step of a willing server on the fourth day. -/
def telemetryStep (action : TelemetryAction) : TelemetryStep :=
  ⟨action, .willing, fun _ => false, fourDays⟩

/-- Three proxies and their target, with all their times. -/
def telemetryStart : TelemetryDb id where
  nodes := ⟨["n1", "p1", "p2", "p3"].map timedNode, by decide⟩
  telemetry := ⟨["p1", "p2", "p3"].map timedObservation, by decide⟩
  accepted := ["p1", "p2", "p3"].map fun proxy => ⟨"n1", proxy, some 0⟩

theorem telemetryStart_truthful : telemetryStart.Truthful where
  nodes := fun k r t hr ht => by
    obtain ⟨nodeId, -, rfl⟩ := List.mem_map.mp (Table.find_eq_some_iff.mp hr).1
    exact (Option.some.inj ht).symm
  telemetry := fun k r t hr ht => by
    obtain ⟨proxy, hproxy, rfl⟩ := List.mem_map.mp (Table.find_eq_some_iff.mp hr).1
    exact ⟨_, List.mem_map_of_mem hproxy, rfl, rfl, ht⟩

/-- The directory before any registration. -/
def telemetryEmpty : TelemetryDb id := ⟨.empty _, .empty _, []⟩

/-- A registration at the start, and a reputation. -/
def telemetryRegister (nodeId : String) : List TelemetryStep :=
  [⟨.write (.register (registration nodeId "https://n1.test").record "token" "proxy"), .willing,
      fun _ => false, 0⟩,
   ⟨.write (.setReputationScore nodeId (3 / 5)), .willing, fun _ => false, 0⟩]

end Sample

namespace TelemetryDb

/-- Where all the times are there, and the average is where the report would
move it, a report is accepted, finds its quorum, and upholds what is asked. -/
theorem telemetry_upheld_settled :
    Sample.telemetryStart.Upholds (fun _ => "") true
        [Sample.telemetryStep (.record (Sample.proxyReport "p1" 100))]
      ∧ (Sample.telemetryStart.recordProxyTelemetry true
          (Sample.telemetryStep (.record (Sample.proxyReport "p1" 100)))
          (Sample.proxyReport "p1" 100)).1 = (true, 3) := by
  refine ⟨(telemetry_upheld_iff Sample.telemetryStart_truthful _).mpr
    ⟨fun obs hobs => ?_, trivial⟩, by decide +kernel⟩
  obtain rfl : Sample.proxyReport "p1" 100 = obs := TelemetryAction.record.inj hobs
  have hrow : TelemetryRow.ofObservation (Sample.proxyReport "p1" 100) Sample.fourDays
      = some ⟨"n1", "p1", 345600, 100, 10, "ok", none, true, none⟩ := by decide +kernel
  refine ⟨by decide +kernel, fun _ row h => ?_, fun _ latency hlatency _ r hr => ?_⟩
  · obtain rfl := Option.some.inj (hrow.symm.trans h)
    have hnew : Sample.telemetryStart.telemetry.find
        (TelemetryRow.dedupKey id ⟨"n1", "p1", 345600, 100, 10, "ok", none, true, none⟩) = none := by
      decide +kernel
    exact ⟨fun old hold => absurd (hnew.symm.trans hold) (Option.some_ne_none old).symm, fun _ => rfl⟩
  · obtain rfl : 100 = latency := Option.some.inj hlatency
    obtain rfl : Sample.timedNode "n1" = r := Option.some.inj hr
    decide +kernel

/-- **A proxy that counts is not counted; a report that is not accepted
overwrites the one before; and a report that finds its quorum moves no
average.** -/
theorem telemetry_not_upheld :
    ¬ Sample.telemetryEmpty.Upholds (fun _ => "") true
        (Sample.telemetryRegister "n1" ++ Sample.telemetryRegister "p1"
          ++ [Sample.telemetryStep (.record (Sample.proxyReport "p1" 100))])
      ∧ ¬ Sample.telemetryEmpty.Upholds (fun _ => "") true
        [Sample.telemetryStep (.record (Sample.proxyReport "p1" 100)),
          Sample.telemetryStep (.record (Sample.proxyReport "p1" 900))]
      ∧ ¬ Sample.telemetryStart.Upholds (fun _ => "") true
        [Sample.telemetryStep (.record (Sample.proxyReport "p1" 200))] := by
  refine ⟨fun h => ?_, fun h => ?_, fun h => ?_⟩
  · obtain ⟨-, hreport, -⟩ := (Run.along_append _ _ _
      (Sample.telemetryRegister "n1" ++ Sample.telemetryRegister "p1") _).mp h
    exact absurd (hreport _ rfl).quorum (by decide +kernel)
  · have hunchanged := congrArg (fun t => t.rows.map TelemetryRow.latencyMsObserved)
      ((h.2.1 _ rfl).unchanged (by decide +kernel))
    exact absurd hunchanged (by decide +kernel)
  · have haverage := (h.1 _ rfl).average (by decide +kernel) 200 rfl (by decide +kernel)
      (Sample.timedNode "n1") rfl
    exact absurd haverage (by decide +kernel)

end TelemetryDb
