import IicpDirectory.Evidence
import Mathlib.Data.List.Destutter

/-!
# The conformance run an attestation is of

Probes are submitted by whoever has a probe token, a hundred at a time, and
the names of their tests are theirs to choose. The directory attests the
latest run there is. In memory a probe is kept as it was submitted; the
tables of the database have columns, and a probe that fits none of them is
not kept.
-/

open DirectoryEvidence

/-- **The result of one probe.** -/
structure ProbeResult where
  probeId : String
  probeType : String
  testId : Option String
  level : String
  passed : Bool
  latencyMs : Option ℕ
  detail : Option String
  runId : String
  probedAt : Option String
  nodeId : Option String
  deriving DecidableEq

/-- The last of those with the greatest key. -/
def maxByKey {α κ : Type} [LT κ] [DecidableLT κ] (key : α → κ) : List α → Option α
  | [] => none
  | a :: rest =>
    match maxByKey key rest with
    | none => some a
    | some b => if key b < key a then some a else some b

/-- The names of tests, sorted, each once. -/
def sortedTests (tests : List String) : List String :=
  (tests.insertionSort (· ≤ ·)).destutter (· ≠ ·)

theorem mem_of_mem_sortedTests {tests : List String} {test : String}
    (h : test ∈ sortedTests tests) : test ∈ tests :=
  (List.mem_insertionSort _).mp ((List.destutter_sublist _ _).subset h)

/-! ## In memory -/

/-- **The latest run of the probes there are**: of the conformance probes with a
run the last one, and the tests of its run. -/
def conformanceRunFromProbes (nowText : String) (probes : List ProbeResult) :
    Option ConformanceRun :=
  (maxByKey (fun probe => probe.probedAt.getD "")
      (probes.filter (fun probe => probe.probeType == "conformance" && probe.runId != ""))).map
    fun latest =>
      let ofRun := probes.filter
        (fun probe => probe.probeType == "conformance" && probe.runId == latest.runId)
      { runId := latest.runId
        probedAt := latest.probedAt.getD nowText
        passed := sortedTests ((ofRun.filter (fun probe => probe.passed)).filterMap
          ProbeResult.testId)
        failed := sortedTests ((ofRun.filter (fun probe => !probe.passed)).filterMap
          ProbeResult.testId) }

namespace InMemoryProbes

/-- Every probe is kept. -/
def recordProbeBatch (probeResults : List ProbeResult) (probes : List ProbeResult) :
    ℕ × List ProbeResult := (probes.length, probeResults ++ probes)

/-- The latest run. -/
def latestConformanceRun (probeResults : List ProbeResult) (nowText : String) :
    Option ConformanceRun := conformanceRunFromProbes nowText probeResults

end InMemoryProbes

/-- The body of `POST /v1/telemetry/probe`. -/
structure TelemetryProbeRequest where
  probes : List ProbeResult
  runId : String
  deriving DecidableEq

/-- A probe without a run takes that of the request. -/
def ProbeResult.stamped (probe : ProbeResult) (runId : String) : ProbeResult :=
  if probe.runId = "" then { probe with runId := runId } else probe

/-- **`POST /v1/telemetry/probe`**, with a token or none, and a request that parsed
or did not: whether the token is known and how probes are recorded is the
repository's. -/
def telemetryProbe {σ : Type} (verifyProbeToken : String → Bool)
    (recordProbeBatch : σ → List ProbeResult → ℕ × σ) (repo : σ) (token : Option String)
    (request : Option TelemetryProbeRequest) : (ℕ × Json) × σ :=
  match token with
  | none => (errJson 401 "unauthorized" "missing probe_token", repo)
  | some token =>
    match request with
    | none => (errJson 422 "validation_error" "invalid telemetry probe request", repo)
    | some req =>
      if ¬ verifyProbeToken token then (errJson 401 "unauthorized" "invalid probe_token", repo)
      else if req.probes.isEmpty ∨ 100 < req.probes.length then
        (errJson 422 "validation_error" "probes must be 1–100 items", repo)
      else
        let (stored, repo') :=
          recordProbeBatch repo (req.probes.map (fun probe => probe.stamped req.runId))
        ((202, .object [("ok", .bool true), ("stored", .number (.posInt stored))]), repo')

/-! ## In the database -/

namespace MySqlProbes

/-- What the columns of `iicp_telemetry_probes` hold of a probe. -/
structure Fits (probe : ProbeResult) (testId : String) : Prop where
  runId : probe.runId.toList.length ≤ 36
  probeId : probe.probeId.toList.length ≤ 64
  probeType : probe.probeType.toList.length ≤ 32
  testId : testId.toList.length ≤ 32
  level : probe.level.toList.length ≤ 8
  detail : ∀ detail ∈ probe.detail, detail.utf8ByteSize ≤ 65535
  nodeId : ∀ nodeId ∈ probe.nodeId, nodeId.toList.length ≤ 36

instance (probe : ProbeResult) (testId : String) : Decidable (Fits probe testId) :=
  decidable_of_iff (probe.runId.toList.length ≤ 36 ∧ probe.probeId.toList.length ≤ 64
      ∧ probe.probeType.toList.length ≤ 32 ∧ testId.toList.length ≤ 32
      ∧ probe.level.toList.length ≤ 8 ∧ (∀ detail ∈ probe.detail, detail.utf8ByteSize ≤ 65535)
      ∧ ∀ nodeId ∈ probe.nodeId, nodeId.toList.length ≤ 36)
    ⟨fun ⟨h₁, h₂, h₃, h₄, h₅, h₆, h₇⟩ => ⟨h₁, h₂, h₃, h₄, h₅, h₆, h₇⟩,
      fun h => ⟨h.runId, h.probeId, h.probeType, h.testId, h.level, h.detail, h.nodeId⟩⟩

/-- **A row**: a probe that fits, with the name of its test, and the second it was
written in. -/
structure ProbeRow where
  probe : ProbeResult
  testId : String
  probedAt : ℕ
  fits : Fits probe testId

/-- Writing one probe: the column of the test takes no `NULL`, none takes what is
too long for it. -/
def insert (now : ℕ) (probe : ProbeResult) : Option ProbeRow :=
  match probe.testId with
  | none => none
  | some testId => if h : Fits probe testId then some ⟨probe, testId, now, h⟩ else none

/-- **The probes of a batch that can be written are**; the others are passed
over. -/
def recordProbeBatch (now : ℕ) (rows : List ProbeRow) (probes : List ProbeResult) :
    ℕ × List ProbeRow :=
  let written := probes.filterMap (insert now)
  (written.length, rows ++ written)

/-- **The latest run of the table.** Texts are compared under the collation of the
column, and a second is formatted by the database. -/
def latestConformanceRun (collates : String → String → Bool) (dateFormat : ℕ → String)
    (rows : List ProbeRow) : Option ConformanceRun :=
  (maxByKey ProbeRow.probedAt (rows.filter (fun row =>
      collates row.probe.probeType "conformance" && !collates row.probe.runId ""))).map
    fun latest =>
      let ofRun := rows.filter (fun row =>
        collates row.probe.probeType "conformance" && collates row.probe.runId latest.probe.runId)
      { runId := latest.probe.runId
        probedAt := dateFormat latest.probedAt
        passed := sortedTests ((ofRun.filter (fun row => row.probe.passed)).map ProbeRow.testId)
        failed := sortedTests ((ofRun.filter (fun row => !row.probe.passed)).map ProbeRow.testId) }

/-- **A run of the table is of short texts**: what a column takes. -/
theorem short_of_latest {collates : String → String → Bool} {dateFormat : ℕ → String}
    {rows : List ProbeRow} {run : ConformanceRun}
    (h : latestConformanceRun collates dateFormat rows = some run) :
    run.runId.toList.length ≤ 36 ∧ (∃ second, run.probedAt = dateFormat second)
      ∧ ∀ test ∈ run.passed ++ run.failed, test.toList.length ≤ 32 := by
  obtain ⟨latest, _, rfl⟩ := Option.map_eq_some_iff.mp h
  refine ⟨latest.fits.runId, ⟨latest.probedAt, rfl⟩, fun test htest => ?_⟩
  have hrow : ∃ row : ProbeRow, row.testId = test := by
    rcases List.mem_append.mp htest with hmem | hmem
    · obtain ⟨row, _, hrow⟩ := List.mem_map.mp (mem_of_mem_sortedTests hmem)
      exact ⟨row, hrow⟩
    · obtain ⟨row, _, hrow⟩ := List.mem_map.mp (mem_of_mem_sortedTests hmem)
      exact ⟨row, hrow⟩
  obtain ⟨row, rfl⟩ := hrow
  exact row.fits.testId

end MySqlProbes
