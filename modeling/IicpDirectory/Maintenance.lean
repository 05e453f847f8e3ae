import IicpDirectory.Foundations.Batches
import Mathlib.Algebra.Order.Ring.Int
import Mathlib.Data.Nat.Digits.Defs
import Mathlib.Logic.Function.Basic

/-!
# The pruning of telemetry

A pass goes through four tables. In each it counts the rows whose time lies
before a cutoff, deletes them in batches – at most so many rows at a time, and at
most so many times – and counts again.

What is before the cutoff is asked of a column that keeps an instant in three of
the tables, and a whole day in the fourth. The day the cutoff lies in begins
before it and ends after it, so its rows are deleted while they are still
younger than the days they are to be kept. A pass that returns normally, and
meets none of these, deletes exactly the rows it should
(`pruneTelemetry_exact_iff`).
-/

namespace Maintenance

/-! ## What is kept, and how long -/

/-- `RetentionPolicy`, in days. -/
structure RetentionPolicy where
  probeDays : ℕ
  aggregateDays : ℕ
  proxyDays : ℕ
  dispatchDays : ℕ
  heartbeatEventDays : ℕ

/-- `parse::<u32>()`: a sign is let pass. -/
def parseU32 (text : List Char) : Option ℕ :=
  let digits := match text with
    | '+' :: rest => rest
    | _ => text
  if digits.isEmpty || !digits.all Char.isDigit then none
  else (some (Nat.ofDigitChars 10 digits 0)).filter (· < 4294967296)

/-- `positive_env`. -/
def positiveEnv (env : String → Option String) (name : String) (default : ℕ) : ℕ :=
  (((env name).bind fun value => parseU32 value.toList).filter (0 < ·)).getD default

namespace RetentionPolicy

/-- `RetentionPolicy::default`. -/
def default : RetentionPolicy where
  probeDays := 14
  aggregateDays := 30
  proxyDays := 30
  dispatchDays := 30
  heartbeatEventDays := 1

/-- `RetentionPolicy::from_env`. -/
def fromEnv (env : String → Option String) : RetentionPolicy where
  probeDays := positiveEnv env "IICP_TELEMETRY_PROBE_RETENTION_DAYS" default.probeDays
  aggregateDays := positiveEnv env "IICP_TELEMETRY_AGGREGATE_RETENTION_DAYS" default.aggregateDays
  proxyDays := positiveEnv env "IICP_PROXY_TELEMETRY_RETENTION_DAYS" default.proxyDays
  dispatchDays := positiveEnv env "IICP_DISPATCH_USAGE_RETENTION_DAYS" default.dispatchDays
  heartbeatEventDays :=
    positiveEnv env "IICP_HEARTBEAT_EVENT_RETENTION_DAYS" default.heartbeatEventDays

/-- Every time is of one day at least, and has 32 bits. -/
def Admitted (policy : RetentionPolicy) : Prop :=
  ∀ days ∈ [policy.probeDays, policy.aggregateDays, policy.proxyDays, policy.dispatchDays,
    policy.heartbeatEventDays], 0 < days ∧ days < 4294967296

end RetentionPolicy

theorem lt_of_parseU32 {text : List Char} {n : ℕ} (h : parseU32 text = some n) :
    n < 4294967296 := by
  unfold parseU32 at h
  generalize (match text with | '+' :: rest => rest | _ => text) = digits at h
  change (if _ then none else _) = some n at h
  split at h
  · cases h
  · simpa using (Option.filter_eq_some_iff.mp h).2

/-- What the environment says is taken if it is positive and has 32 bits. -/
theorem positiveEnv_admitted (env : String → Option String) (name : String) {default : ℕ}
    (hdefault : 0 < default ∧ default < 4294967296) :
    0 < positiveEnv env name default ∧ positiveEnv env name default < 4294967296 := by
  unfold positiveEnv
  cases hvalue : ((env name).bind fun value => parseU32 value.toList).filter (0 < ·) with
  | none => exact hdefault
  | some value =>
    obtain ⟨hparsed, hpos⟩ := Option.filter_eq_some_iff.mp hvalue
    obtain ⟨text, -, hread⟩ := Option.bind_eq_some_iff.mp hparsed
    exact ⟨of_decide_eq_true hpos, lt_of_parseU32 hread⟩

theorem RetentionPolicy.fromEnv_admitted (env : String → Option String) :
    (fromEnv env).Admitted := by
  intro days hmem
  simp only [fromEnv, List.mem_cons, List.not_mem_nil, or_false] at hmem
  rcases hmem with rfl | rfl | rfl | rfl | rfl <;>
    exact positiveEnv_admitted env _ (by decide)

/-! ## The tables -/

/-- The tables a pass goes through. -/
inductive TelemetryTable
  | iicpTelemetryProbes
  | iicpTelemetryAggregates
  | proxyTelemetry
  | dispatchUsageDaily
  deriving DecidableEq

/-- What a column of times keeps. -/
inductive TimeColumn
  | timestamp
  | date

/-- `RetentionTarget`. -/
structure RetentionTarget where
  name : String
  table : TelemetryTable
  column : String
  days : ℕ

/-- `targets`. -/
def targets (policy : RetentionPolicy) : List RetentionTarget :=
  [{ name := "raw_probe_telemetry"
     table := .iicpTelemetryProbes
     column := "probed_at"
     days := policy.probeDays },
   { name := "probe_aggregates"
     table := .iicpTelemetryAggregates
     column := "computed_at"
     days := policy.aggregateDays },
   { name := "proxy_telemetry"
     table := .proxyTelemetry
     column := "created_at"
     days := policy.proxyDays },
   { name := "dispatch_usage_aggregates"
     table := .dispatchUsageDaily
     column := "usage_date"
     days := policy.dispatchDays }]

namespace TelemetryTable

/-- The name of a table. -/
def sqlName : TelemetryTable → String
  | iicpTelemetryProbes => "iicp_telemetry_probes"
  | iicpTelemetryAggregates => "iicp_telemetry_aggregates"
  | proxyTelemetry => "proxy_telemetry"
  | dispatchUsageDaily => "dispatch_usage_daily"

/-- The type the schema gives the column of times: `usage_date` is a day. -/
def timeColumn : TelemetryTable → TimeColumn
  | dispatchUsageDaily => .date
  | _ => .timestamp

end TelemetryTable

/-- A row: its identity, and what is in its column of times – seconds, or days,
since the epoch. -/
structure TimedRow where
  id : ℕ
  recorded : Option ℤ
  deriving DecidableEq

/-- The rows of a table. -/
abbrev Rows := Table TimedRow.id

/-- The tables that there are. -/
abbrev Db := TelemetryTable → Option Rows

/-! ## Times, in nanoseconds since the epoch -/

/-- A day. -/
def day : ℤ := 86400000000000

/-- What the date library and the driver make of a time: whether it is taken as a
parameter of a statement, and its texts. -/
structure DateTimes where
  binds : ℤ → Bool
  formatted : ℤ → String
  rfc3339 : ℤ → String

/-- `DateTime::<Utc>::MIN_UTC`. -/
def minUtc : ℤ := -8334601228800000000000

/-- `now - Duration::days(days)`: there is none where the subtraction panics. -/
def subDays (now : ℤ) (days : ℕ) : Option ℤ :=
  if minUtc ≤ now - days * day then some (now - days * day) else none

/-- A time as a parameter: microseconds are kept of it. -/
def asParameter (t : ℤ) : ℤ := t / 1000 * 1000

namespace TimeColumn

/-- The time at which the second, or the day, in a column starts. -/
def start : TimeColumn → ℤ → ℤ
  | timestamp, n => n * 1000000000
  | date, n => n * day

/-- What is in the column lies before a time entirely: of a day, its end does. -/
def IsOver : TimeColumn → ℤ → ℤ → Prop
  | timestamp, t, n => start timestamp n < t
  | date, t, n => start date n + day ≤ t

end TimeColumn

namespace RetentionTarget

/-- `WHERE column IS NOT NULL AND column < ?`. -/
def eligible (target : RetentionTarget) (cutoff : ℤ) (r : TimedRow) : Bool :=
  r.recorded.any fun n => decide (target.table.timeColumn.start n < asParameter cutoff)

end RetentionTarget

/-! ## A pass -/

/-- Why a pass ends early: the subtraction of the days panics, the driver does
not take the cutoff as a parameter, or a statement has too many of them. -/
inductive PruneFailure
  | overflowed
  | cutoffRefused
  | tooManyParameters

/-- `PruneTableResult`. -/
structure PruneTableResult where
  name : String
  table : String
  tableExists : Bool
  retentionDays : ℕ
  cutoff : Option String
  eligibleBefore : ℕ
  deleted : ℕ
  eligibleAfter : ℕ

/-- `PruneSafety`. -/
structure PruneSafety where
  dropsTables : Bool
  touchesCredits : Bool
  touchesReputation : Bool
  touchesNodesOrOperators : Bool
  prodBackupRequiredBeforeAndAfterDeploy : Bool

/-- `PruneReport`. -/
structure PruneReport where
  schema : String
  generatedAt : String
  dryRun : Bool
  batchSize : ℕ
  maxBatches : ℕ
  tables : List PruneTableResult
  safety : PruneSafety

/-- The parameters a prepared statement may have. -/
def maxParameters : ℕ := 65535

section Pass

variable (D : DateTimes)

/-- `eligible_count`. -/
def eligibleCount (target : RetentionTarget) (cutoff : ℤ) (t : Rows) : Except PruneFailure ℕ :=
  if D.binds cutoff then .ok (t.rows.countP (target.eligible cutoff)) else .error .cutoffRefused

/-- `delete_bounded`: the rounds that are left, the table, and what was deleted
so far. -/
def deleteBounded (target : RetentionTarget) (cutoff : ℤ) (batchSize : ℕ) :
    ℕ → Rows → ℕ → Rows × Except PruneFailure ℕ
  | 0, t, deleted => (t, .ok deleted)
  | rounds + 1, t, deleted =>
    if D.binds cutoff then
      let ids := (t.keysWhere (target.eligible cutoff)).take batchSize
      if ids = [] then (t, .ok deleted)
      -- one parameter for each of the rows
      else if maxParameters < ids.length then (t, .error .tooManyParameters)
      else
        let t' := t.without ids
        let deleted' := deleted + (t.rows.length - t'.rows.length)
        if ids.length < batchSize then (t', .ok deleted')
        else deleteBounded target cutoff batchSize rounds t' deleted'
    else (t, .error .cutoffRefused)

/-- `process_target`. -/
def processTarget (db : Db) (target : RetentionTarget) (now : ℤ) (batchSize maxBatches : ℕ)
    (apply : Bool) : Db × Except PruneFailure PruneTableResult :=
  match db target.table with
  | none =>
    (db, .ok
      { name := target.name
        table := target.table.sqlName
        tableExists := false
        retentionDays := target.days
        cutoff := none
        eligibleBefore := 0
        deleted := 0
        eligibleAfter := 0 })
  | some t =>
    match subDays now target.days with
    | none => (db, .error .overflowed)
    | some cutoff =>
      match eligibleCount D target cutoff t with
      | .error e => (db, .error e)
      | .ok eligibleBefore =>
        match if apply then deleteBounded D target cutoff batchSize maxBatches t 0
          else (t, .ok 0) with
        | (t', .error e) => (Function.update db target.table (some t'), .error e)
        | (t', .ok deleted) =>
          match if apply then eligibleCount D target cutoff t' else .ok eligibleBefore with
          | .error e => (Function.update db target.table (some t'), .error e)
          | .ok eligibleAfter =>
            (Function.update db target.table (some t'), .ok
              { name := target.name
                table := target.table.sqlName
                tableExists := true
                retentionDays := target.days
                cutoff := some (D.formatted cutoff)
                eligibleBefore := eligibleBefore
                deleted := deleted
                eligibleAfter := eligibleAfter })

/-- The targets, one after another; the first that fails ends the pass. -/
def processTargets (now : ℤ) (batchSize maxBatches : ℕ) (apply : Bool) :
    List RetentionTarget → Db → Db × Except PruneFailure (List PruneTableResult)
  | [], db => (db, .ok [])
  | target :: rest, db =>
    match processTarget D db target now batchSize maxBatches apply with
    | (db', .error e) => (db', .error e)
    | (db', .ok result) =>
      match processTargets now batchSize maxBatches apply rest db' with
      | (db'', .error e) => (db'', .error e)
      | (db'', .ok results) => (db'', .ok (result :: results))

/-- `prune_telemetry`. -/
def pruneTelemetry (db : Db) (policy : RetentionPolicy) (batchSize maxBatches : ℕ)
    (apply : Bool) (now : ℤ) : Db × Except PruneFailure PruneReport :=
  match processTargets D now (max batchSize 1) (max maxBatches 1) apply (targets policy) db with
  | (db', .error e) => (db', .error e)
  | (db', .ok tables) =>
    (db', .ok
      { schema := "iicp.db.telemetry_prune.v1"
        generatedAt := D.rfc3339 now
        dryRun := !apply
        batchSize := max batchSize 1
        maxBatches := max maxBatches 1
        tables := tables
        safety :=
          { dropsTables := false
            touchesCredits := false
            touchesReputation := false
            touchesNodesOrOperators := false
            prodBackupRequiredBeforeAndAfterDeploy := true } })

/-! ### The batches of one table -/

variable {D} {target : RetentionTarget} {cutoff : ℤ}

/-- **The batches take the first rows**, as one batch of all of them would, if no
batch has more rows than a statement has parameters. -/
theorem deleteBounded_eq_ok (hbinds : D.binds cutoff = true) {batchSize : ℕ}
    (hbatch : 0 < batchSize) (rounds : ℕ) (t : Rows) (deleted : ℕ)
    (hparams : min batchSize (t.rows.countP (target.eligible cutoff)) ≤ maxParameters) :
    deleteBounded D target cutoff batchSize rounds t deleted
      = (t.without ((t.keysWhere (target.eligible cutoff)).take (batchSize * rounds)),
        .ok (deleted + min (batchSize * rounds) (t.rows.countP (target.eligible cutoff)))) := by
  induction rounds generalizing t deleted with
  | zero => simp [deleteBounded, Table.without_nil]
  | succ rounds ih =>
    rw [← t.length_keysWhere] at hparams ⊢
    have hremoved := t.length_without_take (target.eligible cutoff) batchSize
    have hrest := t.keysWhere_without_take (target.eligible cutoff) batchSize
    have hlength := congrArg List.length hrest
    rw [← t.length_keysWhere] at hremoved
    rw [Table.length_keysWhere, List.length_drop] at hlength
    have hids : ((t.keysWhere (target.eligible cutoff)).take batchSize).length
        = min batchSize (t.keysWhere (target.eligible cutoff)).length := List.length_take
    rw [deleteBounded, if_pos hbinds]
    by_cases hnone : (t.keysWhere (target.eligible cutoff)).take batchSize = []
    · have hempty : t.keysWhere (target.eligible cutoff) = [] :=
        (List.take_eq_nil_iff.mp hnone).resolve_left hbatch.ne'
      rw [if_pos hnone, hempty]
      simp [Table.without_nil]
    · rw [if_neg hnone, if_neg (by omega)]
      by_cases hlast : ((t.keysWhere (target.eligible cutoff)).take batchSize).length < batchSize
      · -- the batch is not full, so there are no rows behind it
        have hall : (t.keysWhere (target.eligible cutoff)).length ≤ batchSize := by omega
        have hmore : batchSize ≤ batchSize * (rounds + 1) :=
          Nat.le_mul_of_pos_right _ (Nat.succ_pos rounds)
        rw [if_pos hlast, List.take_of_length_le hall,
          List.take_of_length_le (hall.trans hmore), Nat.min_eq_right (hall.trans hmore)]
        rw [List.take_of_length_le hall] at hremoved
        congr 2
        omega
      · rw [if_neg hlast, ih _ _ (by omega), Table.without_without, hrest, ← List.take_add,
          hlength]
        have hsum : batchSize * (rounds + 1) = batchSize + batchSize * rounds := by
          rw [Nat.mul_succ, Nat.add_comm]
        rw [hsum]
        congr 2
        omega

/-- A batch of more rows than a statement has parameters fails. -/
theorem deleteBounded_eq_error (hbinds : D.binds cutoff = true) {batchSize rounds : ℕ}
    (hrounds : 0 < rounds) (t : Rows) (deleted : ℕ)
    (hparams : maxParameters < min batchSize (t.rows.countP (target.eligible cutoff))) :
    deleteBounded D target cutoff batchSize rounds t deleted = (t, .error .tooManyParameters) := by
  obtain ⟨rounds, rfl⟩ := Nat.exists_eq_add_of_lt hrounds
  rw [Nat.zero_add, deleteBounded, if_pos hbinds]
  have hids : ((t.keysWhere (target.eligible cutoff)).take batchSize).length
      = min batchSize (t.rows.countP (target.eligible cutoff)) := by
    rw [List.length_take, Table.length_keysWhere]
  have hnone : (t.keysWhere (target.eligible cutoff)).take batchSize ≠ [] := by
    intro h
    rw [h, List.length_nil] at hids
    omega
  show (if _ = [] then _ else _) = _
  rw [if_neg hnone, if_pos (by omega)]

end Pass

namespace RetentionTarget

/-- `now - Duration::days(target.days)`. -/
def cutoff (target : RetentionTarget) (now : ℤ) : ℤ := now - target.days * day

/-- The period a row records lies before a time entirely. -/
def IsOver (target : RetentionTarget) (t : ℤ) (r : TimedRow) : Prop :=
  ∃ n, r.recorded = some n ∧ target.table.timeColumn.IsOver t n

/-- A row records the day in the middle of which a time lies. -/
def Straddles (target : RetentionTarget) (t : ℤ) (r : TimedRow) : Prop :=
  target.table.timeColumn = .date ∧
    ∃ n, r.recorded = some n ∧ n * day < asParameter t ∧ t < n * day + day

/-- **The rows that are taken too early** are those of the day of the cutoff. -/
theorem eligible_and_not_isOver_iff (target : RetentionTarget) (t : ℤ) (r : TimedRow) :
    target.eligible t r = true ∧ ¬ target.IsOver t r ↔ target.Straddles t r := by
  have hparameter : asParameter t ≤ t := Int.ediv_mul_le t (by decide)
  obtain ⟨id, recorded⟩ := r
  cases recorded with
  | none => simp [eligible, Straddles]
  | some n =>
    unfold eligible IsOver Straddles
    cases htype : target.table.timeColumn with
    | timestamp =>
      simp only [Option.any_some, decide_eq_true_eq, Option.some.injEq, exists_eq_left',
        reduceCtorEq, false_and, iff_false, not_and, not_not]
      exact fun hlt => hlt.trans_le hparameter
    | date =>
      simp only [Option.any_some, decide_eq_true_eq, Option.some.injEq, exists_eq_left',
        true_and]
      show n * day < asParameter t ∧ ¬ n * day + day ≤ t ↔ _
      rw [not_le]

end RetentionTarget

/-! ### One table -/

/-- What a pass needs of a table to get through it. -/
structure Passes (D : DateTimes) (target : RetentionTarget) (now : ℤ) (batchSize : ℕ)
    (apply : Bool) (t : Rows) : Prop where
  representable : minUtc ≤ target.cutoff now
  bindable : D.binds (target.cutoff now) = true
  parameters : apply = true →
    min batchSize (t.rows.countP (target.eligible (target.cutoff now))) ≤ maxParameters

/-- A table without the first of its rows that are before the cutoff. -/
def prunedRows (target : RetentionTarget) (now : ℤ) (limit : ℕ) (t : Rows) : Rows :=
  t.without ((t.keysWhere (target.eligible (target.cutoff now))).take limit)

/-- What is reported of it. -/
def resultOf (D : DateTimes) (target : RetentionTarget) (now : ℤ) (limit : ℕ) (t : Option Rows) :
    PruneTableResult where
  name := target.name
  table := target.table.sqlName
  tableExists := t.isSome
  retentionDays := target.days
  cutoff := t.map fun _ => D.formatted (target.cutoff now)
  eligibleBefore := t.elim 0 fun t => t.rows.countP (target.eligible (target.cutoff now))
  deleted := t.elim 0 fun t => min limit (t.rows.countP (target.eligible (target.cutoff now)))
  eligibleAfter := t.elim 0 fun t => t.rows.countP (target.eligible (target.cutoff now)) - limit

theorem countP_prunedRows (target : RetentionTarget) (now : ℤ) (limit : ℕ) (t : Rows) :
    (prunedRows target now limit t).rows.countP (target.eligible (target.cutoff now))
      = t.rows.countP (target.eligible (target.cutoff now)) - limit := by
  rw [← Table.length_keysWhere, prunedRows, Table.keysWhere_without_take, List.length_drop,
    Table.length_keysWhere]

section OneTable

variable {D : DateTimes} {db : Db} {target : RetentionTarget} {now : ℤ}
  {batchSize maxBatches : ℕ} {apply : Bool}

/-- **A table that a pass gets through.** -/
theorem processTarget_eq_ok (maxBatches : ℕ) (hbatch : 0 < batchSize)
    (h : ∀ t, db target.table = some t → Passes D target now batchSize apply t) :
    processTarget D db target now batchSize maxBatches apply
      = (Function.update db target.table
          ((db target.table).map
            (prunedRows target now (if apply then batchSize * maxBatches else 0))),
        .ok (resultOf D target now (if apply then batchSize * maxBatches else 0)
          (db target.table))) := by
  unfold processTarget
  cases ht : db target.table with
  | none =>
    have hsame : Function.update db target.table none = db := by
      rw [← ht, Function.update_eq_self]
    show (db, _) = (Function.update db target.table none, _)
    rw [hsame]
    rfl
  | some t =>
    obtain ⟨hrepresentable, hbinds, hparams⟩ := h t ht
    have hsub : subDays now target.days = some (target.cutoff now) := if_pos hrepresentable
    have hcount : ∀ t, eligibleCount D target (target.cutoff now) t
        = .ok (t.rows.countP (target.eligible (target.cutoff now))) :=
      fun _ => if_pos hbinds
    simp only [hsub, hcount]
    cases apply with
    | false =>
      have hsame : prunedRows target now 0 t = t := Table.without_nil t
      simp [hsame, resultOf]
    | true =>
      have hdeleted := deleteBounded_eq_ok hbinds hbatch maxBatches t 0 (hparams rfl)
      have hafter := countP_prunedRows target now (batchSize * maxBatches) t
      unfold prunedRows at hafter ⊢
      simp [hdeleted, hafter, resultOf]

/-- A table that it does not get through ends it. -/
theorem processTarget_eq_error {t : Rows} (ht : db target.table = some t)
    (hbatches : 0 < maxBatches) (h : ¬ Passes D target now batchSize apply t) :
    ∃ db' e, processTarget D db target now batchSize maxBatches apply = (db', .error e) := by
  unfold processTarget
  rw [ht]
  by_cases hrepresentable : minUtc ≤ target.cutoff now
  · have hsub : subDays now target.days = some (target.cutoff now) := if_pos hrepresentable
    simp only [hsub]
    cases hbinds : D.binds (target.cutoff now) with
    | false => exact ⟨db, .cutoffRefused, by simp [eligibleCount, hbinds]⟩
    | true =>
      cases apply with
      | false => exact absurd ⟨hrepresentable, hbinds, fun h => nomatch h⟩ h
      | true =>
        have hparams : maxParameters
            < min batchSize (t.rows.countP (target.eligible (target.cutoff now))) := by
          by_contra hle
          exact h ⟨hrepresentable, hbinds, fun _ => not_lt.mp hle⟩
        have hdeleted := deleteBounded_eq_error hbinds hbatches t 0 hparams
        exact ⟨Function.update db target.table (some t), .tooManyParameters, by
          simp [eligibleCount, hbinds, hdeleted]⟩
  · have hsub : subDays now target.days = none := if_neg hrepresentable
    exact ⟨db, .overflowed, by simp only [hsub]⟩

end OneTable

/-- **What a pass should do with a table**: of the rows that are there before, the
ones that go record a period that lies before the cutoff entirely; they are as
many as are eligible, up to a limit, and the counts add up. -/
structure Prunes (target : RetentionTarget) (now : ℤ) (limit : ℕ) (apply : Bool)
    (before after : Rows) (result : PruneTableResult) : Prop where
  kept : ∀ r ∈ after.rows, r ∈ before.rows
  isOver : ∀ r ∈ before.rows, r ∉ after.rows → target.IsOver (target.cutoff now) r
  removed : after.rows.length + result.deleted = before.rows.length
  eligibleBefore :
    result.eligibleBefore = before.rows.countP (target.eligible (target.cutoff now))
  eligibleAfter : result.eligibleAfter = after.rows.countP (target.eligible (target.cutoff now))
  deleted : result.deleted = if apply then min result.eligibleBefore limit else 0
  accounts : result.eligibleBefore = result.deleted + result.eligibleAfter

/-- No row of the day of the cutoff is among the first ones, up to a limit. -/
def NoneTooEarly (target : RetentionTarget) (now : ℤ) (limit : ℕ) (t : Rows) : Prop :=
  ∀ r ∈ t.rows, target.Straddles (target.cutoff now) r →
    limit ≤ t.rows.countP fun other =>
      target.eligible (target.cutoff now) other && decide (other.id < r.id)

/-- **What is pruned is pruned as it should be** if no row of the day of the cutoff
is. -/
theorem prunes_prunedRows_iff {D : DateTimes} (target : RetentionTarget) (now : ℤ) (limit : ℕ)
    (apply : Bool) (t : Rows) :
    Prunes target now limit apply t
        (prunedRows target now (if apply then limit else 0) t)
        (resultOf D target now (if apply then limit else 0) (some t))
      ↔ (apply = true → NoneTooEarly target now limit t) := by
  have hgone : ∀ n, ∀ r ∈ t.rows, r ∉ (prunedRows target now n t).rows
      ↔ target.eligible (target.cutoff now) r = true ∧ t.rows.countP (fun other =>
          target.eligible (target.cutoff now) other && decide (other.id < r.id)) < n :=
    fun n r hr => t.not_mem_without_take_iff _ hr n
  constructor
  · rintro h rfl r hr hstraddles
    obtain ⟨heligible, hnot⟩ := (target.eligible_and_not_isOver_iff _ r).mpr hstraddles
    by_contra hearly
    exact hnot (h.isOver r hr ((hgone limit r hr).mpr ⟨heligible, not_le.mp hearly⟩))
  · intro h
    refine ⟨fun r hr => (t.mem_without_rows.mp hr).1, ?_, ?_, rfl, ?_, ?_, ?_⟩
    · intro r hr hnot
      obtain ⟨heligible, hfirst⟩ := (hgone _ r hr).mp hnot
      cases apply with
      | false => exact absurd hfirst (Nat.not_lt_zero _)
      | true =>
        by_contra hover
        have hstraddles := (target.eligible_and_not_isOver_iff _ r).mp ⟨heligible, hover⟩
        exact absurd hfirst (not_lt.mpr (h rfl r hr hstraddles))
    · exact t.length_without_take _ _
    · exact (countP_prunedRows target now _ t).symm
    · cases apply with
      | false => exact Nat.zero_min _
      | true => exact Nat.min_comm _ _
    · show t.rows.countP _ = min _ (t.rows.countP _) + (t.rows.countP _ - _)
      omega

/-! ## All of the tables -/

/-- The tables after a pass through some of them. -/
def prunedDb (now : ℤ) (limit : ℕ) : List RetentionTarget → Db → Db
  | [], db => db
  | target :: rest, db =>
    prunedDb now limit rest
      (Function.update db target.table ((db target.table).map (prunedRows target now limit)))

section AllTables

variable {now : ℤ} {limit : ℕ}

/-- A pass leaves the tables it does not go through. -/
theorem prunedDb_of_not_mem {table : TelemetryTable} {through : List RetentionTarget} (db : Db)
    (h : table ∉ through.map RetentionTarget.table) :
    prunedDb now limit through db table = db table := by
  induction through generalizing db with
  | nil => rfl
  | cons target rest ih =>
    rw [List.map_cons, List.mem_cons, not_or] at h
    rw [prunedDb, ih _ h.2, Function.update_of_ne h.1]

/-- Through each of the others it goes once. -/
theorem prunedDb_of_mem {target : RetentionTarget} {through : List RetentionTarget} (db : Db)
    (hnodup : (through.map RetentionTarget.table).Nodup) (h : target ∈ through) :
    prunedDb now limit through db target.table
      = (db target.table).map (prunedRows target now limit) := by
  induction through generalizing db with
  | nil => exact absurd h List.not_mem_nil
  | cons first rest ih =>
    obtain ⟨hfirst, hrest⟩ := List.nodup_cons.mp hnodup
    rw [prunedDb]
    rcases List.mem_cons.mp h with rfl | hmem
    · rw [prunedDb_of_not_mem _ hfirst, Function.update_self]
    · have hne : target.table ≠ first.table := by
        intro heq
        exact hfirst (heq ▸ List.mem_map_of_mem hmem)
      rw [ih _ hrest hmem, Function.update_of_ne hne]

variable {D : DateTimes} {batchSize maxBatches : ℕ} {apply : Bool}

/-- **A pass that gets through all of the tables.** -/
theorem processTargets_eq_ok (maxBatches : ℕ) (hbatch : 0 < batchSize) {through : List RetentionTarget} (db : Db)
    (hnodup : (through.map RetentionTarget.table).Nodup)
    (h : ∀ target ∈ through, ∀ t, db target.table = some t →
      Passes D target now batchSize apply t) :
    processTargets D now batchSize maxBatches apply through db
      = (prunedDb now (if apply then batchSize * maxBatches else 0) through db,
        .ok (through.map fun target =>
          resultOf D target now (if apply then batchSize * maxBatches else 0)
            (db target.table))) := by
  induction through generalizing db with
  | nil => rfl
  | cons target rest ih =>
    obtain ⟨hfirst, hrest⟩ := List.nodup_cons.mp hnodup
    have hother : ∀ other ∈ rest, ∀ rows,
        Function.update db target.table rows other.table = db other.table := by
      intro other hmem rows
      refine Function.update_of_ne (fun heq => hfirst ?_) _ _
      exact heq ▸ List.mem_map_of_mem hmem
    have htarget := processTarget_eq_ok maxBatches hbatch
      (h target List.mem_cons_self)
    rw [processTargets, htarget]
    simp only
    rw [ih _ hrest fun other hmem t ht => h other (List.mem_cons_of_mem _ hmem) t (by
      rw [← ht, hother other hmem])]
    simp only [List.map_cons, prunedDb]
    congr 3
    refine List.map_congr_left fun other hmem => ?_
    rw [hother other hmem]

/-- A pass that returns normally got through all of them. -/
theorem passes_of_processTargets (hbatch : 0 < batchSize) (hbatches : 0 < maxBatches)
    {through : List RetentionTarget} {db db' : Db} {results : List PruneTableResult}
    (hnodup : (through.map RetentionTarget.table).Nodup)
    (h : processTargets D now batchSize maxBatches apply through db = (db', .ok results)) :
    ∀ target ∈ through, ∀ t, db target.table = some t →
      Passes D target now batchSize apply t := by
  induction through generalizing db results with
  | nil => exact fun _ hmem => absurd hmem List.not_mem_nil
  | cons first rest ih =>
    obtain ⟨hfirst, hrest⟩ := List.nodup_cons.mp hnodup
    rw [processTargets] at h
    have hpasses : ∀ t, db first.table = some t → Passes D first now batchSize apply t := by
      intro t ht
      by_contra hnot
      obtain ⟨failed, e, hfailed⟩ := processTarget_eq_error ht hbatches hnot
      rw [hfailed] at h
      cases h
    rw [processTarget_eq_ok _ hbatch hpasses] at h
    simp only at h
    intro target hmem t ht
    rcases List.mem_cons.mp hmem with rfl | hmem
    · exact hpasses t ht
    · split at h
      · cases h
      · rename_i db'' results' hrun
        obtain ⟨rfl, -⟩ := Prod.mk.inj h
        have hne : target.table ≠ first.table := fun heq =>
          hfirst (heq ▸ List.mem_map_of_mem hmem)
        exact ih hrest hrun target hmem t ((Function.update_of_ne hne _ _).trans ht)

end AllTables

theorem targets_nodup (policy : RetentionPolicy) :
    ((targets policy).map RetentionTarget.table).Nodup := by
  show [TelemetryTable.iicpTelemetryProbes, .iicpTelemetryAggregates, .proxyTelemetry,
    .dispatchUsageDaily].Nodup
  decide

/-- Every table is gone through. -/
theorem mem_targets (policy : RetentionPolicy) (table : TelemetryTable) :
    ∃ target ∈ targets policy, target.table = table := by
  cases table <;> simp [targets]

/-- **What a pass should do**: it returns normally; a pass that is not to apply
anything changes nothing; and each table is pruned as it should be, a missing one
reported as missing. -/
def PrunesExactly (D : DateTimes) (db : Db) (policy : RetentionPolicy) (batchSize maxBatches : ℕ)
    (apply : Bool) (now : ℤ) : Prop :=
  ∃ db' report, pruneTelemetry D db policy batchSize maxBatches apply now = (db', .ok report) ∧
    (apply = false → db' = db) ∧
    List.Forall₂ (fun target result =>
      (∀ before, db target.table = some before →
        result.tableExists = true ∧ ∃ after, db' target.table = some after ∧
          Prunes target now (report.batchSize * report.maxBatches) apply before after result) ∧
      (db target.table = none →
        result.tableExists = false ∧ db' target.table = none ∧ result.deleted = 0
          ∧ result.eligibleBefore = result.deleted + result.eligibleAfter))
      (targets policy) report.tables

/-- **The tables a pass prunes as it should**: the cutoff is a time the date library
has and the driver takes, no batch has more rows than a statement has parameters,
and no row of the day of the cutoff is among those that are deleted. -/
structure CanPrune (D : DateTimes) (target : RetentionTarget) (now : ℤ)
    (batchSize maxBatches : ℕ) (apply : Bool) (t : Rows) : Prop
    extends Passes D target now batchSize apply t where
  noneTooEarly : apply = true → NoneTooEarly target now (batchSize * maxBatches) t

section WholePass

variable {D : DateTimes} {db : Db} {policy : RetentionPolicy} {batchSize maxBatches : ℕ}
  {apply : Bool} {now : ℤ}

/-- What a pass that does as it should needs of the tables. -/
theorem canPrune_of_prunesExactly
    (h : PrunesExactly D db policy batchSize maxBatches apply now) {target : RetentionTarget}
    (htarget : target ∈ targets policy) {t : Rows} (ht : db target.table = some t) :
    CanPrune D target now (max batchSize 1) (max maxBatches 1) apply t := by
  have hbatch : 0 < max batchSize 1 := lt_max_of_lt_right Nat.one_pos
  have hbatches : 0 < max maxBatches 1 := lt_max_of_lt_right Nat.one_pos
  have hnodup := targets_nodup policy
  obtain ⟨db', report, hprune, -, hall⟩ := h
  unfold pruneTelemetry at hprune
  split at hprune
  · cases hprune
  · rename_i db'' tables hprocess
    have hpasses := passes_of_processTargets hbatch hbatches hnodup hprocess
    rw [processTargets_eq_ok _ hbatch db hnodup hpasses] at hprocess
    cases hprocess
    cases hprune
    rw [List.forall₂_map_right_iff, List.forall₂_same] at hall
    obtain ⟨-, after, hafter, hprunes⟩ := (hall target htarget).1 t ht
    rw [prunedDb_of_mem db hnodup htarget, ht] at hafter
    cases hafter
    rw [ht] at hprunes
    exact ⟨hpasses target htarget t ht, (prunes_prunedRows_iff target now _ apply t).mp hprunes⟩

/-- That is enough. -/
theorem prunesExactly_of_canPrune
    (h : ∀ target ∈ targets policy, ∀ t, db target.table = some t →
      CanPrune D target now (max batchSize 1) (max maxBatches 1) apply t) :
    PrunesExactly D db policy batchSize maxBatches apply now := by
  have hbatch : 0 < max batchSize 1 := lt_max_of_lt_right Nat.one_pos
  have hnodup := targets_nodup policy
  have hprocess := processTargets_eq_ok (max maxBatches 1) hbatch db hnodup
    fun target htarget t ht => (h target htarget t ht).toPasses
  refine ⟨_, _, by rw [pruneTelemetry, hprocess], ?_, ?_⟩
  · rintro rfl
    funext table
    obtain ⟨target, htarget, rfl⟩ := mem_targets policy table
    rw [prunedDb_of_mem db hnodup htarget]
    cases db target.table with
    | none => rfl
    | some t => exact congrArg some t.without_nil
  · rw [List.forall₂_map_right_iff, List.forall₂_same]
    intro target htarget
    rw [prunedDb_of_mem db hnodup htarget]
    constructor
    · intro t ht
      rw [ht]
      exact ⟨rfl, _, rfl, (prunes_prunedRows_iff target now _ apply t).mpr
        (h target htarget t ht).noneTooEarly⟩
    · intro hnone
      rw [hnone]
      exact ⟨rfl, rfl, rfl, rfl⟩

end WholePass

/-- **When a pass prunes what it should**: for each of the tables there are, its
cutoff has to be a time, and one the driver takes; and where the pass applies, no
batch may have more rows than a statement has parameters, nor may a row of the day
of the cutoff be among those that are deleted. -/
theorem pruneTelemetry_exact_iff (D : DateTimes) (db : Db) (policy : RetentionPolicy)
    (batchSize maxBatches : ℕ) (apply : Bool) (now : ℤ) :
    PrunesExactly D db policy batchSize maxBatches apply now
      ↔ ∀ target ∈ targets policy, ∀ t, db target.table = some t →
        CanPrune D target now (max batchSize 1) (max maxBatches 1) apply t :=
  ⟨fun h _ htarget _ ht => canPrune_of_prunesExactly h htarget ht, prunesExactly_of_canPrune⟩

end Maintenance

namespace Sample

open Maintenance

/-- One o'clock in the morning of the third of November 2024. -/
def november : ℤ := 20030 * day + 3600000000000

/-- The texts of that time, and of the one thirty days before it; years from 0 to
65535 are taken as parameters. -/
def dateTimes : DateTimes where
  binds t := decide (-62167219200000000000 ≤ t ∧ t < 2005949145600000000000)
  formatted _ := "2024-10-04 01:00:00"
  rfc3339 _ := "2024-11-03T01:00:00+00:00"

/-- What was dispatched on the fourth of October. -/
def october : Rows := ⟨[{ id := 7, recorded := some 20000 }], by decide⟩

/-- A database that has this table only. -/
def dispatchDb : Db
  | .dispatchUsageDaily => some october
  | _ => none

end Sample

open Maintenance Sample in
/-- At one o'clock the day thirty days ago has 23 hours left that are to be kept; what
was dispatched on it is deleted. -/
theorem Maintenance.cutoff_day_deleted :
    ¬ PrunesExactly dateTimes dispatchDb .default 1000 5 true november := by
  intro h
  have hmem := List.mem_of_getLast? (l := targets .default) rfl
  have hfew := (canPrune_of_prunesExactly h hmem (t := october) rfl).noneTooEarly rfl
    { id := 7, recorded := some 20000 } List.mem_cons_self
    ⟨rfl, 20000, rfl, by decide, by decide⟩
  exact absurd hfew (by decide)
