import IicpDirectory.Foundations.Run
import IicpDirectory.Seed.Handlers
import IicpDirectory.Seed.Standing

/-!
# Audit reports

A node may report another. The report is accepted if the reporter has been
registered for three days and has a reputation of 0.55, and if no two others
have been accepted for the target within a day. It is then kept as a row of
`node_events`, which is where the next one is counted.

Two of these links do not hold. The age of a reporter is read off a time that
no registration writes, so no reporter registered here is ever old enough.
And every row is given the sequence number zero, of which the table takes one:
the second row is refused, and the refusal is ignored. On a database whose
nodes have no times every report is refused, and the cap is kept for want of
anything to count. On one that has them, the cap holds as long as there is one
report in all. `auditReports_upheld` says both: a run in which the stored
times are those of the registrations and no row is refused is a run that keeps
the cap and refuses nobody it should accept, and without stored times these
are the runs in which no report is due.

A call is four statements, and other calls may come between any two. The rows
of `node_events` are those of reports: the signed chain has other types, and
numbers its rows from one.
-/

open Schema

/-! ## A reputation read in single precision -/

/-- Rounding goes to the nearest integer. -/
theorem le_roundHalfEven {q : ℚ} {n : ℤ} (h : (n : ℚ) - 1 / 2 < q) : n ≤ roundHalfEven q := by
  by_cases hle : (n : ℚ) ≤ q
  · have hfloor : n ≤ ⌊q⌋ := Int.le_floor.mpr hle
    unfold roundHalfEven
    split_ifs <;> omega
  · have hfloor : ⌊q⌋ = n - 1 := by
      rw [Int.floor_eq_iff]
      push_cast
      constructor <;> linarith [not_le.mp hle]
    unfold roundHalfEven
    rw [hfloor]
    push_cast
    rw [if_neg (by linarith), if_pos (by linarith)]
    omega

/-- **A reputation of 0.55 is one in single precision**, and so is any above
it. -/
theorem le_toF32 {q : ℚ} (h : 11 / 20 ≤ q) : 11 / 20 ≤ toF32 q := by
  have hpos : 0 < q := lt_of_lt_of_le (by norm_num) h
  unfold toF32
  rw [if_neg hpos.ne', abs_of_pos hpos]
  dsimp only
  by_cases hone : 1 ≤ q
  · -- from one on, the leading bit alone is enough
    have hlog : 0 ≤ Int.log 2 q := by
      rw [← Int.zpow_le_iff_le_log one_lt_two hpos]
      simpa using hone
    have hmax : max (Int.log 2 q - 23) (-149) = Int.log 2 q - 23 := max_eq_left (by omega)
    have hplace : (0 : ℚ) < 2 ^ (Int.log 2 q - 23) := zpow_pos two_pos _
    have hlead : ((2 ^ 23 : ℤ) : ℚ) * 2 ^ (Int.log 2 q - 23) = 2 ^ Int.log 2 q := by
      have hpower : ((2 ^ 23 : ℤ) : ℚ) = 2 ^ (23 : ℤ) := by norm_num
      rw [hpower, ← zpow_add₀ two_ne_zero]
      congr 1
      omega
    have hquot : ((2 ^ 23 : ℤ) : ℚ) ≤ q / 2 ^ (Int.log 2 q - 23) := by
      rw [le_div_iff₀ hplace, hlead]
      exact_mod_cast Int.zpow_log_le_self one_lt_two hpos
    have hround : (2 ^ 23 : ℤ) ≤ roundHalfEven (q / 2 ^ (Int.log 2 q - 23)) :=
      le_roundHalfEven (by linarith)
    rw [hmax]
    calc (11 / 20 : ℚ) ≤ 2 ^ (0 : ℤ) := by norm_num
      _ ≤ 2 ^ Int.log 2 q := zpow_le_zpow_right₀ one_le_two hlog
      _ = ((2 ^ 23 : ℤ) : ℚ) * 2 ^ (Int.log 2 q - 23) := hlead.symm
      _ ≤ (roundHalfEven (q / 2 ^ (Int.log 2 q - 23)) : ℚ) * 2 ^ (Int.log 2 q - 23) :=
          mul_le_mul_of_nonneg_right (Int.cast_le.mpr hround) hplace.le
  · -- below one the last place is that of `2 ^ -24`
    have hlog : Int.log 2 q = -1 := by
      have hlow : (-1 : ℤ) ≤ Int.log 2 q := by
        rw [← Int.zpow_le_iff_le_log one_lt_two hpos]
        exact le_trans (by norm_num) h
      have hhigh : Int.log 2 q < 0 := by
        rw [← Int.lt_zpow_iff_log_lt one_lt_two hpos]
        simpa using not_le.mp hone
      omega
    have hround : (9227469 : ℤ) ≤ roundHalfEven (q / 2 ^ (-24 : ℤ)) := by
      refine le_roundHalfEven ?_
      rw [lt_div_iff₀ (by positivity)]
      exact lt_of_lt_of_le (by norm_num) h
    rw [hlog]
    show (11 / 20 : ℚ) ≤ (roundHalfEven (q / 2 ^ (-24 : ℤ)) : ℚ) * 2 ^ (-24 : ℤ)
    calc (11 / 20 : ℚ) ≤ ((9227469 : ℤ) : ℚ) * 2 ^ (-24 : ℤ) := by norm_num
      _ ≤ (roundHalfEven (q / 2 ^ (-24 : ℤ)) : ℚ) * 2 ^ (-24 : ℤ) :=
          mul_le_mul_of_nonneg_right (Int.cast_le.mpr hround) (by positivity)

/-! ## The calls -/

/-- What a call of `apply_audit_report` is given; the finding is not used. -/
structure AuditRequest where
  targetNodeId : String
  reporterNodeId : String

/-- What a call answers. -/
structure AuditResult where
  applied : Bool
  newScore : ℚ
  reason : String

/-- How far a call is: which of its statements it has yet to make. -/
inductive AuditPhase
  | ready
  | eligible
  | counted
  | found (score : ℚ)
  | ended (result : AuditResult)

/-- A report that was accepted, and when. -/
structure AcceptedReport where
  targetNodeId : String
  reporterNodeId : String
  atMs : ℤ
  deriving DecidableEq

/-- **The nodes and the reports kept**, any number of calls under way, and the
reports that were accepted. -/
structure AuditDb (fold : String → String) (ι : Type*) where
  nodes : StandingTable fold
  nodeEvents : List EventRow
  phase : ι → AuditPhase
  accepted : List AcceptedReport

/-- What happens: a change of the nodes, or the next statement of a call. The
last one draws an identity. -/
inductive AuditAction (ι : Type*)
  | write (action : StandingAction)
  | checkReporter (i : ι)
  | countReporters (i : ι)
  | readTarget (i : ι)
  | insertReport (i : ι) (eventId : String)

/-- An action, which of its statements the server fails, and the time. -/
structure AuditStep (ι : Type*) where
  action : AuditAction ι
  fails : ℕ → Bool
  nowMs : ℤ

namespace AuditDb

variable {fold : String → String} {ι : Type*}

/-- Three days. -/
def minAgeMs : ℤ := 3 * 86400000

/-- A day. -/
def dayMs : ℤ := 86400000

/-- `MAX_REPORTERS`. -/
def maxReporters : ℕ := 2

/-- The reporter is eligible, by its columns: a row without a time is of no
age. -/
def reporterEligible (r : Standing) (nowMs : ℤ) : Bool :=
  decide (11 / 20 ≤ toF32 r.reputationScore)
    && r.createdAtMs.any fun c => decide (3 ≤ (nowMs - c) / 86400000)

/-- The payload of a report. -/
def reportPayload (reporterNodeId : String) : Json :=
  .object [("reporter_node_id", .string reporterNodeId)]

/-- The columns of `INSERT INTO node_events`, and their values. -/
def reportColumns (jsonText : Json → String) (eventId : String) (request : AuditRequest)
    (nowMs : ℤ) : List (String × Value) :=
  [("event_id", .text eventId), ("seq", .number 0), ("event_type", .text "AUDIT_REPORT"),
   ("node_id", .text request.targetNodeId), ("ts_ms", .number (MySqlRepo.wholeSeconds nowMs)),
   ("payload", .text (jsonText (reportPayload request.reporterNodeId)))]

/-- The row of a report, if its columns take it. -/
def reportRow (jsonText : Json → String) (eventId : String) (request : AuditRequest)
    (nowMs : ℤ) : Option EventRow :=
  (Baseline.nodeEvents.row 0 (reportColumns jsonText eventId request nowMs)).map fun _ =>
    { seq := 0
      eventId := eventId
      eventType := "AUDIT_REPORT"
      nodeId := request.targetNodeId
      tsMs := MySqlRepo.wholeSeconds nowMs
      payload := reportPayload request.reporterNodeId
      prevHash := none
      sig := none }

/-- A row has the sequence number or the identity of another. -/
def clashes (fold : String → String) (new e : EventRow) : Bool :=
  decide (e.seq = new.seq) || fold e.eventId == fold new.eventId

/-- `INSERT INTO node_events`: refused if a column does not take its value, or
if one of the unique keys is taken. -/
def insertEvent (fold : String → String) (jsonText : Json → String) (eventId : String)
    (request : AuditRequest) (nowMs : ℤ) (events : List EventRow) : Option (List EventRow) :=
  (reportRow jsonText eventId request nowMs).bind fun row =>
    if events.any (clashes fold row) then none else some (events ++ [row])

/-- The reporters of a target in the events of the last day. -/
def reporterCount (db : AuditDb fold ι) (targetNodeId : String) (nowMs : ℤ) : ℕ :=
  ((db.nodeEvents.filter fun e => fold e.nodeId == fold targetNodeId
      && decide (MySqlRepo.wholeSeconds nowMs - dayMs ≤ e.tsMs)).filterMap
    fun e => e.payload.getStr "reporter_node_id").dedup.length

/-- The score of a target, read in single precision. -/
def readScore (db : AuditDb fold ι) (targetNodeId : String) : Option ℚ :=
  (db.nodes.ofNode targetNodeId).map fun r => toF32 r.reputationScore

variable (jsonText : Json → String) (requests : ι → AuditRequest)

/-- The report is not applied. -/
def rejected (db : AuditDb fold ι) (request : AuditRequest) (failed : Bool) (reason : String) :
    AuditPhase :=
  .ended ⟨false, (if failed then none else db.readScore request.targetNodeId).getD 0, reason⟩

/-- What becomes of a call that looks its reporter up. -/
def checked (db : AuditDb fold ι) (request : AuditRequest) (fails : ℕ → Bool) (nowMs : ℤ) :
    AuditPhase :=
  match if fails 0 then none else db.nodes.ofNode request.reporterNodeId with
  | some r =>
    if reporterEligible r nowMs then .eligible
    else db.rejected request (fails 1) "reporter_ineligible"
  | none => db.rejected request (fails 1) "reporter_ineligible"

/-- What becomes of a call that counts the reporters. -/
def counted (db : AuditDb fold ι) (request : AuditRequest) (fails : ℕ → Bool) (nowMs : ℤ) :
    AuditPhase :=
  if maxReporters ≤ (if fails 0 then 0 else db.reporterCount request.targetNodeId nowMs) then
    db.rejected request (fails 1) "reporter_cap_reached"
  else .counted

/-- What becomes of a call that looks its target up. -/
def found (db : AuditDb fold ι) (request : AuditRequest) (fails : ℕ → Bool) : AuditPhase :=
  match if fails 0 then none else db.readScore request.targetNodeId with
  | some score => .found score
  | none => .ended ⟨false, 0, "target_not_found"⟩

variable [DecidableEq ι]

/-- A call goes on. -/
def goOn (db : AuditDb fold ι) (i : ι) (phase : AuditPhase) : AuditDb fold ι :=
  { db with phase := Function.update db.phase i phase }

/-- A call ends: it accepts its report, whatever becomes of the row. -/
def accept (db : AuditDb fold ι) (i : ι) (score : ℚ) (eventId : String) (fails : ℕ → Bool)
    (nowMs : ℤ) : AuditDb fold ι where
  nodes := db.nodes
  nodeEvents :=
    if fails 0 then db.nodeEvents
    else (insertEvent fold jsonText eventId (requests i) nowMs db.nodeEvents).getD
      db.nodeEvents
  phase := Function.update db.phase i (.ended ⟨true, score, "integrity_evidence_accepted"⟩)
  accepted :=
    ⟨(requests i).targetNodeId, (requests i).reporterNodeId, MySqlRepo.wholeSeconds nowMs⟩
      :: db.accepted

/-- One step. A statement that is not the call's next one does nothing. -/
def step (db : AuditDb fold ι) (s : AuditStep ι) : AuditDb fold ι :=
  match s.action with
  | .write action =>
    if s.fails 0 then db
    else { db with nodes := db.nodes.write jsonText (MySqlRepo.wholeSeconds s.nowMs) action }
  | .checkReporter i =>
    match db.phase i with
    | .ready => db.goOn i (db.checked (requests i) s.fails s.nowMs)
    | _ => db
  | .countReporters i =>
    match db.phase i with
    | .eligible => db.goOn i (db.counted (requests i) s.fails s.nowMs)
    | _ => db
  | .readTarget i =>
    match db.phase i with
    | .counted => db.goOn i (db.found (requests i) s.fails)
    | _ => db
  | .insertReport i eventId =>
    match db.phase i with
    | .found score => db.accept jsonText requests i score eventId s.fails s.nowMs
    | _ => db

/-! ## What is asked of a run -/

/-- The reporters of a target that were accepted between two times. -/
def acceptedReporters (fold : String → String) (accepted : List AcceptedReport)
    (targetNodeId : String) (fromMs toMs : ℤ) : List String :=
  ((accepted.filter fun a => fold a.targetNodeId == fold targetNodeId
      && decide (fromMs ≤ a.atMs) && decide (a.atMs ≤ toMs)).map
    fun a => fold a.reporterNodeId).dedup

/-- **A report is due**: its reporter has been registered for three days and
has the reputation, its target is a node, and fewer than two reporters of the
target were accepted in the last day. -/
def Due (db : AuditDb fold ι) (request : AuditRequest) (nowMs : ℤ) : Prop :=
  (∃ r, db.nodes.ofNode request.reporterNodeId = some r ∧ r.registeredAtMs + minAgeMs ≤ nowMs
      ∧ 11 / 20 ≤ r.reputationScore)
    ∧ (db.nodes.ofNode request.targetNodeId).isSome = true
    ∧ (acceptedReporters fold db.accepted request.targetNodeId (nowMs - dayMs) nowMs).length < 2

/-- **The cap**: in no day are more than two reporters of a target
accepted. -/
def Capped (db : AuditDb fold ι) : Prop :=
  ∀ targetNodeId fromMs,
    (acceptedReporters fold db.accepted targetNodeId fromMs (fromMs + dayMs)).length ≤ 2

/-- The event is the one an accepted report is counted by. -/
def Records (fold : String → String) (e : EventRow) (a : AcceptedReport) : Prop :=
  fold e.nodeId = fold a.targetNodeId
    ∧ e.payload.getStr "reporter_node_id" = some a.reporterNodeId ∧ e.tsMs = a.atMs

/-- Every accepted report will be counted. -/
def Counted (db : AuditDb fold ι) : Prop :=
  ∀ a ∈ db.accepted, ∃ e ∈ db.nodeEvents, Records fold e a

/-- A step turns a call away: it ends, and its report is not applied. -/
def TurnsAway (db : AuditDb fold ι) (s : AuditStep ι) (i : ι) : Prop :=
  (∀ result, db.phase i ≠ .ended result)
    ∧ ∃ result, (db.step jsonText requests s).phase i = .ended result ∧ result.applied = false

/-- **A run upholds the cap and the right to report**: a step turns away no
report that is due, after it the cap is kept, and every accepted report will
be counted. -/
def Upholds (db : AuditDb fold ι) (steps : List (AuditStep ι)) : Prop :=
  Run.Along (step jsonText requests) (fun db s =>
    (∀ i, db.TurnsAway jsonText requests s i → ¬ db.Due (requests i) s.nowMs)
      ∧ (db.step jsonText requests s).Capped ∧ (db.step jsonText requests s).Counted) db steps

/-- **The links hold at a step**: the reporter of a report that is due has the
time of its registration, the statements a due report needs are answered, and
the row of an accepted report is taken. -/
def Linked (db : AuditDb fold ι) (s : AuditStep ι) : Prop :=
  match s.action with
  | .checkReporter i => db.phase i = .ready → db.Due (requests i) s.nowMs → s.fails 0 = false
      ∧ ∀ r, db.nodes.ofNode (requests i).reporterNodeId = some r →
        r.createdAtMs = some r.registeredAtMs
  | .readTarget i => db.phase i = .counted → db.Due (requests i) s.nowMs → s.fails 0 = false
  | .insertReport i eventId => ∀ score, db.phase i = .found score → s.fails 0 = false
      ∧ (insertEvent fold jsonText eventId (requests i) s.nowMs db.nodeEvents).isSome
  | _ => True

/-- **No report is due** that is looked at. -/
def NoneDue (db : AuditDb fold ι) (s : AuditStep ι) : Prop :=
  match s.action with
  | .checkReporter i => db.phase i = .ready → ¬ db.Due (requests i) s.nowMs
  | _ => True

/-- Nothing has been reported yet. -/
structure Fresh (db : AuditDb fold ι) : Prop where
  nodeEvents : db.nodeEvents = []
  accepted : db.accepted = []
  phase : ∀ i, db.phase i = .ready

variable {jsonText requests} {db : AuditDb fold ι}

/-! ## What a step does -/

theorem phase_goOn_self (i : ι) (phase : AuditPhase) : (db.goOn i phase).phase i = phase := by
  show Function.update db.phase i phase i = phase
  exact Function.update_self i phase db.phase

theorem phase_goOn_of_ne {i j : ι} (hji : j ≠ i) (phase : AuditPhase) :
    (db.goOn i phase).phase j = db.phase j := by
  show Function.update db.phase i phase j = db.phase j
  exact Function.update_of_ne hji phase db.phase

/-- A step in which one call goes on ends no other. -/
theorem over_of_goOn {i j : ι} {phase : AuditPhase} {result : AuditResult}
    (hbefore : ∀ result, db.phase j ≠ .ended result)
    (hafter : (db.goOn i phase).phase j = .ended result) : j = i ∧ phase = .ended result := by
  by_cases hji : j = i
  · subst hji
    exact ⟨rfl, (phase_goOn_self j phase).symm.trans hafter⟩
  · exact absurd ((phase_goOn_of_ne hji phase).symm.trans hafter) (hbefore result)

omit [DecidableEq ι] in
/-- A reporter whose row has the time of its registration is eligible when its
report is due. -/
theorem reporterEligible_of_due {r : Standing} {nowMs : ℤ}
    (hcreated : r.createdAtMs = some r.registeredAtMs) (hage : r.registeredAtMs + minAgeMs ≤ nowMs)
    (hscore : 11 / 20 ≤ r.reputationScore) : reporterEligible r nowMs = true := by
  unfold reporterEligible
  rw [hcreated, Option.any_some, Bool.and_eq_true, decide_eq_true_iff, decide_eq_true_iff]
  refine ⟨le_toF32 hscore, ?_⟩
  unfold minAgeMs at hage
  omega

omit [DecidableEq ι] in
theorem reporterEligible_of_untimed {r : Standing} (hcreated : r.createdAtMs = none)
    (nowMs : ℤ) : reporterEligible r nowMs = false := by
  unfold reporterEligible
  rw [hcreated, Option.any_none, Bool.and_false]

omit [DecidableEq ι] in
/-- The count does not exceed the events there are. -/
theorem reporterCount_le (db : AuditDb fold ι) (targetNodeId : String) (nowMs : ℤ) :
    db.reporterCount targetNodeId nowMs ≤ db.nodeEvents.length := by
  refine (List.dedup_sublist _).length_le.trans ?_
  exact (List.length_filterMap_le _ _).trans (List.length_filter_le _ _)

omit [DecidableEq ι] in
/-- No more reporters were accepted than reports. -/
theorem length_acceptedReporters_le (accepted : List AcceptedReport) (targetNodeId : String)
    (fromMs toMs : ℤ) :
    (acceptedReporters fold accepted targetNodeId fromMs toMs).length ≤ accepted.length := by
  refine (List.dedup_sublist _).length_le.trans ?_
  rw [List.length_map]
  exact List.length_filter_le _ _

omit [DecidableEq ι] in
/-- What an insert leaves: the row of the report at the end, where no event has
its sequence number. -/
theorem insertEvent_eq_some {eventId : String} {request : AuditRequest} {nowMs : ℤ}
    {events events' : List EventRow}
    (h : insertEvent fold jsonText eventId request nowMs events = some events') :
    ∃ row, events' = events ++ [row] ∧ row.seq = 0 ∧ (∀ e ∈ events, e.seq ≠ 0)
      ∧ Records fold row ⟨request.targetNodeId, request.reporterNodeId,
        MySqlRepo.wholeSeconds nowMs⟩ := by
  obtain ⟨row, hrow, hinsert⟩ := Option.bind_eq_some_iff.mp h
  obtain ⟨_, -, rfl⟩ := Option.map_eq_some_iff.mp hrow
  split at hinsert
  · exact absurd hinsert (by simp)
  · next hfree =>
    obtain rfl := Option.some.inj hinsert
    refine ⟨_, rfl, rfl, fun e he hseq => hfree ?_, rfl, rfl, rfl⟩
    refine List.any_eq_true.mpr ⟨e, he, ?_⟩
    unfold clashes
    rw [hseq, decide_eq_true rfl, Bool.true_or]

/-! ## One report in all -/

/-- **No report has been accepted, or one has**, and that is the one event. -/
def AtMostOne (db : AuditDb fold ι) : Prop :=
  (db.nodeEvents = [] ∧ db.accepted = [])
    ∨ ∃ e a, db.nodeEvents = [e] ∧ db.accepted = [a] ∧ e.seq = 0 ∧ Records fold e a

omit [DecidableEq ι] in
theorem length_of_atMostOne (h : db.AtMostOne) :
    db.nodeEvents.length ≤ 1 ∧ db.accepted.length ≤ 1 := by
  rcases h with ⟨hevents, haccepted⟩ | ⟨e, a, hevents, haccepted, -⟩ <;>
    rw [hevents, haccepted] <;> exact ⟨by simp, by simp⟩

omit [DecidableEq ι] in
theorem capped_of_atMostOne (h : db.AtMostOne) : db.Capped := by
  intro targetNodeId fromMs
  have hle := @length_acceptedReporters_le fold db.accepted targetNodeId fromMs
    (fromMs + dayMs)
  exact hle.trans ((length_of_atMostOne h).2.trans one_le_two)

omit [DecidableEq ι] in
theorem counted_of_atMostOne (h : db.AtMostOne) : db.Counted := by
  intro a ha
  rcases h with ⟨-, haccepted⟩ | ⟨e, a', hevents, haccepted, -, hrecords⟩
  · rw [haccepted] at ha
    exact absurd ha List.not_mem_nil
  · rw [haccepted, List.mem_singleton] at ha
    subst ha
    exact ⟨e, by rw [hevents]; exact List.mem_singleton_self e, hrecords⟩

/-- **Where no row is refused, no second report is accepted.** -/
theorem atMostOne_step {s : AuditStep ι} (h : db.AtMostOne)
    (hlinked : db.Linked jsonText requests s) : (db.step jsonText requests s).AtMostOne := by
  obtain ⟨action, fails, nowMs⟩ := s
  cases action with
  | write action =>
    simp only [step]
    split <;> exact h
  | checkReporter i =>
    simp only [step]
    split <;> exact h
  | countReporters i =>
    simp only [step]
    split <;> exact h
  | readTarget i =>
    simp only [step]
    split <;> exact h
  | insertReport i eventId =>
    simp only [step]
    split
    · next score hphase =>
      obtain ⟨hfails, hsome⟩ : fails 0 = false ∧
          (insertEvent fold jsonText eventId (requests i) nowMs db.nodeEvents).isSome
            = true := hlinked score hphase
      obtain ⟨events, hevents⟩ := Option.isSome_iff_exists.mp hsome
      obtain ⟨row, rfl, hseq, hfree, hrecords⟩ := insertEvent_eq_some hevents
      -- an event there already would have the sequence number of the new one
      have hnone : db.nodeEvents = [] ∧ db.accepted = [] := by
        rcases h with hnone | ⟨e, a, hone, -, he, -⟩
        · exact hnone
        · exact absurd he (hfree e (by rw [hone]; exact List.mem_singleton_self e))
      refine Or.inr ⟨row, _, ?_, ?_, hseq, hrecords⟩
      · show (if fails 0 = true then _ else _) = _
        rw [if_neg (by rw [hfails]; exact Bool.false_ne_true)]
        show (insertEvent fold jsonText eventId (requests i) nowMs db.nodeEvents).getD _ = _
        rw [hevents, Option.getD_some, hnone.1]
        rfl
      · show _ :: db.accepted = _
        rw [hnone.2]
    · exact h

/-- **A due report is not turned away** where the links hold. -/
theorem not_due_of_turnsAway {s : AuditStep ι} (h : db.AtMostOne)
    (hlinked : db.Linked jsonText requests s) {j : ι}
    (haway : db.TurnsAway jsonText requests s j) : ¬ db.Due (requests j) s.nowMs := by
  obtain ⟨action, fails, nowMs⟩ := s
  obtain ⟨hbefore, result, hafter, happlied⟩ := haway
  intro hdue
  cases action with
  | write action =>
    simp only [step] at hafter
    split at hafter <;> exact hbefore result hafter
  | checkReporter i =>
    simp only [step] at hafter
    split at hafter
    · next hphase =>
      obtain ⟨rfl, hended⟩ := over_of_goOn hbefore hafter
      have hread : fails 0 = false ∧ ∀ r, db.nodes.ofNode (requests j).reporterNodeId = some r →
          r.createdAtMs = some r.registeredAtMs := hlinked hphase hdue
      obtain ⟨⟨r, hr, hage, hscore⟩, -⟩ := hdue
      rw [checked, hread.1, if_neg Bool.false_ne_true, hr] at hended
      dsimp only at hended
      rw [if_pos (reporterEligible_of_due (hread.2 r hr) hage hscore)] at hended
      cases hended
    · exact hbefore result hafter
  | countReporters i =>
    simp only [step] at hafter
    split at hafter
    · obtain ⟨rfl, hended⟩ := over_of_goOn hbefore hafter
      have hcount := (db.reporterCount_le (requests j).targetNodeId nowMs).trans
        (length_of_atMostOne h).1
      rw [counted, if_neg] at hended
      · cases hended
      · unfold maxReporters
        split <;> omega
    · exact hbefore result hafter
  | readTarget i =>
    simp only [step] at hafter
    split at hafter
    · next hphase =>
      obtain ⟨rfl, hended⟩ := over_of_goOn hbefore hafter
      have hread : fails 0 = false := hlinked hphase hdue
      obtain ⟨r, hr⟩ := Option.isSome_iff_exists.mp hdue.2.1
      rw [found, hread, if_neg Bool.false_ne_true, readScore, hr] at hended
      cases hended
    · exact hbefore result hafter
  | insertReport i eventId =>
    simp only [step] at hafter
    split at hafter
    · next score hphase =>
      obtain ⟨rfl, hended⟩ := over_of_goOn hbefore hafter
      obtain rfl := AuditPhase.ended.inj hended
      exact absurd happlied (by simp)
    · exact hbefore result hafter

/-! ## No report at all -/

/-- **No row has a time, and no report has got past its reporter.** -/
structure NoneAccepted (db : AuditDb fold ι) : Prop where
  untimed : db.nodes.Untimed
  nodeEvents : db.nodeEvents = []
  accepted : db.accepted = []
  phase : ∀ i, db.phase i = .ready ∨ ∃ result, db.phase i = .ended result

omit [DecidableEq ι] in
theorem atMostOne_of_noneAccepted (h : db.NoneAccepted) : db.AtMostOne :=
  Or.inl ⟨h.nodeEvents, h.accepted⟩

omit [DecidableEq ι] in
theorem exists_rejected (db : AuditDb fold ι) (request : AuditRequest) (failed : Bool)
    (reason : String) : ∃ score, db.rejected request failed reason = .ended ⟨false, score, reason⟩ :=
  ⟨_, rfl⟩

omit [DecidableEq ι] in
/-- **A reporter without a time is turned away.** -/
theorem checked_of_untimed (h : db.nodes.Untimed) (request : AuditRequest) (fails : ℕ → Bool)
    (nowMs : ℤ) :
    db.checked request fails nowMs = db.rejected request (fails 1) "reporter_ineligible" := by
  unfold checked
  split
  · next r hr =>
    have hfind : db.nodes.ofNode request.reporterNodeId = some r := by
      split at hr
      · exact absurd hr (by simp)
      · exact hr
    rw [reporterEligible_of_untimed (h _ r hfind), if_neg Bool.false_ne_true]
  · rfl

theorem noneAccepted_goOn (h : db.NoneAccepted) (i : ι) (request : AuditRequest) (failed : Bool)
    (reason : String) : (db.goOn i (db.rejected request failed reason)).NoneAccepted :=
  { h with
    phase := fun j => by
      by_cases hji : j = i
      · subst hji
        obtain ⟨score, hrejected⟩ := db.exists_rejected request failed reason
        rw [phase_goOn_self, hrejected]
        exact Or.inr ⟨_, rfl⟩
      · rw [phase_goOn_of_ne hji]
        exact h.phase j }

theorem noneAccepted_step (h : db.NoneAccepted) (s : AuditStep ι) :
    (db.step jsonText requests s).NoneAccepted := by
  obtain ⟨action, fails, nowMs⟩ := s
  -- a call has nothing before it but the look at its reporter
  have hnext : ∀ i phase, db.phase i = phase → phase = .ready ∨ ∃ result, phase = .ended result :=
    fun i phase hphase => hphase ▸ h.phase i
  cases action with
  | write action =>
    simp only [step]
    split
    · exact h
    · exact { h with untimed := StandingTable.untimed_write h.untimed action }
  | checkReporter i =>
    simp only [step]
    split
    · rw [checked_of_untimed h.untimed]
      exact noneAccepted_goOn h i _ _ _
    · exact h
  | countReporters i =>
    simp only [step]
    split
    · next hphase => exact absurd (hnext i _ hphase) (by simp)
    · exact h
  | readTarget i =>
    simp only [step]
    split
    · next hphase => exact absurd (hnext i _ hphase) (by simp)
    · exact h
  | insertReport i eventId =>
    simp only [step]
    split
    · next hphase => exact absurd (hnext i _ hphase) (by simp)
    · exact h

/-- **Without times every report that is looked at is turned away**, and none
at another step. -/
theorem turnsAway_iff (h : db.NoneAccepted) (s : AuditStep ι) (j : ι) :
    db.TurnsAway jsonText requests s j ↔ s.action = .checkReporter j ∧ db.phase j = .ready := by
  obtain ⟨action, fails, nowMs⟩ := s
  constructor
  · rintro ⟨hbefore, result, hafter, -⟩
    have hready : db.phase j = .ready :=
      (h.phase j).resolve_right fun ⟨result, hended⟩ => hbefore result hended
    refine ⟨?_, hready⟩
    have hnext : ∀ i phase, db.phase i = phase →
        phase = .ready ∨ ∃ result, phase = .ended result := fun i phase hphase => hphase ▸ h.phase i
    cases action with
    | write action =>
      simp only [step] at hafter
      split at hafter <;> exact absurd hafter (hbefore result)
    | checkReporter i =>
      simp only [step] at hafter
      split at hafter
      · exact congrArg AuditAction.checkReporter (over_of_goOn hbefore hafter).1.symm
      · exact absurd hafter (hbefore result)
    | countReporters i =>
      simp only [step] at hafter
      split at hafter
      · next hphase => exact absurd (hnext i _ hphase) (by simp)
      · exact absurd hafter (hbefore result)
    | readTarget i =>
      simp only [step] at hafter
      split at hafter
      · next hphase => exact absurd (hnext i _ hphase) (by simp)
      · exact absurd hafter (hbefore result)
    | insertReport i eventId =>
      simp only [step] at hafter
      split at hafter
      · next hphase => exact absurd (hnext i _ hphase) (by simp)
      · exact absurd hafter (hbefore result)
  · rintro ⟨haction, hready⟩
    obtain rfl : action = .checkReporter j := haction
    have hstep : db.step jsonText requests ⟨.checkReporter j, fails, nowMs⟩
        = db.goOn j (db.rejected (requests j) (fails 1) "reporter_ineligible") := by
      simp only [step, hready]
      rw [checked_of_untimed h.untimed]
    obtain ⟨score, hrejected⟩ := db.exists_rejected (requests j) (fails 1) "reporter_ineligible"
    refine ⟨fun result hended => ?_, ⟨false, score, "reporter_ineligible"⟩, ?_, rfl⟩
    · rw [hready] at hended
      cases hended
    · rw [hstep, phase_goOn_self, hrejected]

/-! ## The cap and the right to report -/

/-- **Where the links hold, a run keeps the cap and turns away no report that
is due; where no node has a time, it does so exactly if no report that is
looked at is due.** -/
theorem auditReports_upheld {db : AuditDb fold ι} (hfresh : db.Fresh)
    (steps : List (AuditStep ι)) :
    (Run.Along (step jsonText requests) (Linked jsonText requests) db steps →
        db.Upholds jsonText requests steps)
      ∧ (db.nodes.Untimed →
        (db.Upholds jsonText requests steps
          ↔ Run.Along (step jsonText requests) (NoneDue requests) db steps)) := by
  constructor
  · intro hlinked
    have hone : db.AtMostOne := Or.inl ⟨hfresh.nodeEvents, hfresh.accepted⟩
    refine Run.along_mono (fun db s => atMostOne_step) (fun db s h hs => ?_) hone hlinked
    have hstep := atMostOne_step h hs
    exact ⟨fun j => not_due_of_turnsAway h hs, capped_of_atMostOne hstep,
      counted_of_atMostOne hstep⟩
  · intro huntimed
    have hnone : db.NoneAccepted :=
      ⟨huntimed, hfresh.nodeEvents, hfresh.accepted, fun i => Or.inl (hfresh.phase i)⟩
    constructor
    · refine Run.along_mono ?_ ?_ hnone
      · exact fun db s h _ => noneAccepted_step h s
      · intro db s h hs
        unfold NoneDue
        split
        · next i haction =>
          exact fun hready => hs.1 i ((turnsAway_iff h s i).mpr ⟨haction, hready⟩)
        · trivial
    · refine Run.along_mono ?_ ?_ hnone
      · exact fun db s h _ => noneAccepted_step h s
      · intro db s h hs
        have hstep : (db.step jsonText requests s).AtMostOne :=
          atMostOne_of_noneAccepted (noneAccepted_step h s)
        refine ⟨fun j haway => ?_, capped_of_atMostOne hstep, counted_of_atMostOne hstep⟩
        obtain ⟨haction, hready⟩ := (turnsAway_iff h s j).mp haway
        unfold NoneDue at hs
        rw [haction] at hs
        exact hs hready

end AuditDb

/-! ## Reports that are not kept, and a reporter without a time -/

namespace Sample

/-- Three reporters and a target, with times. -/
def timedNodes : StandingTable id where
  rows := [timedNode "n1", timedNode "r1", timedNode "r2", timedNode "r3"]
  keys_nodup := by decide

/-- The directory before any report. -/
def auditStart : AuditDb id (Fin 3) := ⟨timedNodes, [], fun _ => .ready, []⟩

/-- Each reporter reports the target. -/
def auditRequests : Fin 3 → AuditRequest
  | 0 => ⟨"n1", "r1"⟩
  | 1 => ⟨"n1", "r2"⟩
  | 2 => ⟨"n1", "r3"⟩

/-- A payload as a text. -/
def payloadText (payload : Json) : String :=
  "\x7b\"reporter_node_id\":\"" ++ (payload.getStr "reporter_node_id").getD "" ++ "\"\x7d"

/-- The statements of a call, on the fourth day. -/
def auditCall (i : Fin 3) (eventId : String) : List (AuditStep (Fin 3)) :=
  [⟨.checkReporter i, fun _ => false, fourDays⟩, ⟨.countReporters i, fun _ => false, fourDays⟩,
   ⟨.readTarget i, fun _ => false, fourDays⟩, ⟨.insertReport i eventId, fun _ => false, fourDays⟩]

/-- The directory before any registration. -/
def auditEmpty : AuditDb id (Fin 3) := ⟨.empty _, [], fun _ => .ready, []⟩

/-- A registration of a node, at the start. -/
def auditRegister (nodeId : String) : AuditStep (Fin 3) :=
  ⟨.write (.register (registration nodeId "https://n1.test").record "token" "proxy"),
    fun _ => false, 0⟩

/-- A target and a reporter register, and the reporter earns a reputation. -/
def auditRegistrations : List (AuditStep (Fin 3)) :=
  [auditRegister "n1", auditRegister "r1",
   ⟨.write (.setReputationScore "r1" (3 / 5)), fun _ => false, 0⟩]

end Sample

namespace AuditDb

/-- One report by a reporter with a time is accepted and kept, and a run
without nodes upholds what is asked of it. -/
theorem auditReports_upheld_once :
    Sample.auditStart.Upholds Sample.payloadText Sample.auditRequests (Sample.auditCall 0 "e1")
      ∧ (Run.after (step Sample.payloadText Sample.auditRequests) Sample.auditStart
          (Sample.auditCall 0 "e1")).accepted = [⟨"n1", "r1", Sample.fourDays⟩]
      ∧ Sample.auditEmpty.Upholds Sample.payloadText Sample.auditRequests
          [⟨.checkReporter 0, fun _ => false, Sample.fourDays⟩] := by
  have hfresh : Sample.auditStart.Fresh := ⟨rfl, rfl, fun _ => rfl⟩
  have hempty : Sample.auditEmpty.Fresh := ⟨rfl, rfl, fun _ => rfl⟩
  refine ⟨(auditReports_upheld hfresh _).1 ⟨fun _ _ => ⟨rfl, fun r hr => ?_⟩, trivial,
    fun _ _ => rfl, fun score hphase => ⟨rfl, by decide +kernel⟩, trivial⟩, by decide +kernel,
    ((auditReports_upheld hempty _).2 StandingTable.untimed_empty).mpr ⟨fun _ hdue => ?_, trivial⟩⟩
  · obtain rfl := Option.some.inj hr
    rfl
  · obtain ⟨⟨r, hr, -⟩, -⟩ := hdue
    cases hr

/-- **A reporter of four days is turned away**, because its row has no time;
and of three that have one all are accepted in a day, with one event to count
them by. -/
theorem due_report_turned_away :
    ¬ Sample.auditEmpty.Upholds Sample.payloadText Sample.auditRequests
        (Sample.auditRegistrations ++ [⟨.checkReporter 0, fun _ => false, Sample.fourDays⟩])
      ∧ ¬ Sample.auditStart.Upholds Sample.payloadText Sample.auditRequests
        (Sample.auditCall 0 "e1" ++ Sample.auditCall 1 "e2" ++ Sample.auditCall 2 "e3")
      ∧ (Run.after (step Sample.payloadText Sample.auditRequests) Sample.auditStart
          (Sample.auditCall 0 "e1" ++ Sample.auditCall 1 "e2" ++ Sample.auditCall 2 "e3")
          ).nodeEvents.length = 1 := by
  refine ⟨fun h => ?_, fun h => ?_, by decide +kernel⟩
  · obtain ⟨-, ⟨hfair, -⟩, -⟩ := (Run.along_append _ _ _ Sample.auditRegistrations _).mp h
    have hempty : Sample.auditEmpty.NoneAccepted :=
      ⟨StandingTable.untimed_empty, rfl, rfl, fun _ => Or.inl rfl⟩
    have hstep : ∀ (db : AuditDb id (Fin 3)) (s : AuditStep (Fin 3)), db.NoneAccepted →
        (db.step Sample.payloadText Sample.auditRequests s).NoneAccepted :=
      fun _ s hdb => noneAccepted_step hdb s
    have hnone := Run.invariant hstep hempty Sample.auditRegistrations
    refine hfair 0 ((turnsAway_iff hnone _ 0).mpr ⟨rfl, rfl⟩) ⟨⟨⟨"r1", 3 / 5, 0, none, 0⟩, ?_⟩, ?_⟩
    · exact ⟨by decide +kernel, by decide, le_of_lt (by norm_num)⟩
    · exact ⟨by decide +kernel, by decide +kernel⟩
  · obtain ⟨-, -, -, -, ⟨-, hcap, -⟩, -⟩ := (Run.along_append _ _ _
      (Sample.auditCall 0 "e1" ++ Sample.auditCall 1 "e2") _).mp h
    exact absurd (hcap "n1" Sample.fourDays) (by decide +kernel)

end AuditDb
