import Mathlib.Data.Prod.Lex
import Mathlib.Data.String.Basic
import IicpDirectory.Foundations.Ranking
import IicpDirectory.Seed.Identities

/-!
# What a data subject is given, and what is erased

An operator may have everything exported that the tables have of it and of its
nodes, and may have it anonymized. Either way its nodes are looked up first, and
the rest is asked for by their identities: an export table by table, of each so
many rows at most, an anonymization in one transaction, which deletes the rows of
three of the tables.

`requests_by_node_ids` says what that gives and what it leaves: the first rows of
each table, in the order of its query, and no row in the three tables – of the
nodes that were looked up.
-/

/-- The families of records that go by the node. -/
inductive RecordFamily
  | nodes
  | capabilities
  | credits
  | creditTransactions
  | reputations
  | nodeAddressHistory
  | telemetryProbes
  | proxyTelemetry
  | nodeEvents
  deriving DecidableEq

/-- A row of one of them: its number, the node it is of, and its columns, or what
is computed of them. The number is what the rows of a node are ordered by, the
`id` or the `seq`. -/
structure RelatedRow where
  number : ℕ
  nodeId : Option String
  columns : String → Json

namespace RecordFamily

/-- All of them, in the order they are asked for. -/
def all : List RecordFamily :=
  [.nodes, .capabilities, .credits, .creditTransactions, .reputations, .nodeAddressHistory,
    .telemetryProbes, .proxyTelemetry, .nodeEvents]

/-- What an export calls it. -/
def member : RecordFamily → String
  | .nodes => "nodes"
  | .capabilities => "capabilities"
  | .credits => "credits"
  | .creditTransactions => "credit_transactions"
  | .reputations => "reputations"
  | .nodeAddressHistory => "node_address_history"
  | .telemetryProbes => "telemetry_probes"
  | .proxyTelemetry => "proxy_telemetry"
  | .nodeEvents => "node_events"

/-- Columns that go under their own name. -/
def plain (names : List String) : List (String × String) := names.map fun name => (name, name)

/-- `JSON_OBJECT(…)` of the query: the members, and what each is taken from. -/
def selects : RecordFamily → List (String × String)
  | .nodes =>
    plain ["id", "endpoint", "region", "status", "available", "public_listing", "operator_url",
      "operator_contact", "operator_verified", "operator_trust_tier", "observed_source_ip",
      "last_seen", "dormant_since", "policy_manifest", "sdk_language", "implementation_name",
      "implementation_version"]
    ++ [("sdk_compatibility_version", "COALESCE(sdk_compatibility_version,sdk_version)"),
      ("sdk_version", "COALESCE(sdk_compatibility_version,sdk_version)"),
      ("secret_fields_present", "secret_fields_present")]
  | .capabilities =>
    plain ["node_id", "intent"]
    ++ [("version", "capability_version"), ("phase", "capability_phase")]
    ++ plain ["variant_id", "models", "max_tokens", "quantization", "inference_engine",
      "input_modalities", "output_modalities", "features", "execution_capabilities"]
    ++ [("limits", "capability_limits")]
    ++ plain ["supported_profiles", "claim_provenance", "extensions"]
  | .credits =>
    [("node_id", "node_id"), ("balance", "CAST(balance AS CHAR)")]
    ++ plain ["free_credit_last_allocation_at", "created_at", "updated_at"]
  | .creditTransactions =>
    plain ["id", "node_id"] ++ [("amount", "CAST(amount AS CHAR)")]
    ++ plain ["type", "task_id", "reason", "expires_at", "created_at"]
  | .reputations =>
    plain ["node_id", "score", "tasks_total", "tasks_failed", "completed_tasks_count",
      "avg_latency_ms", "observed_latency_ms"]
  | .nodeAddressHistory => plain ["id", "node_id", "ip_address", "request_type", "observed_at"]
  | .telemetryProbes =>
    plain ["id", "node_id", "run_id", "probe_id", "probe_type", "test_id", "level", "passed",
      "latency_ms", "probed_at"]
  | .proxyTelemetry =>
    plain ["id", "node_id", "proxy_node_id", "time_bucket", "latency_ms_observed",
      "tokens_observed", "status", "qos_advertised", "qos_met"]
  | .nodeEvents =>
    plain ["event_id", "seq", "event_type", "node_id", "ts_ms", "payload", "prev_hash"]
    ++ [("signature_present", "signature IS NOT NULL"), ("created_at", "created_at")]

/-- The column that is asked for. -/
def filterColumn : RecordFamily → String
  | .nodes => "id"
  | _ => "node_id"

/-- The column of the number. -/
def numberColumn : RecordFamily → String
  | .nodeEvents => "seq"
  | _ => "id"

/-- `ORDER BY`: the node and the number; of the events the number alone. -/
def order (fold : String → String) (f : RecordFamily) (r : RelatedRow) : Lex (String × ℕ) :=
  if f = .nodeEvents then toLex ("", r.number) else toLex ((r.nodeId.elim "" fold), r.number)

/-- What a row has for an expression of the query. -/
def value (f : RecordFamily) (r : RelatedRow) (expression : String) : Json :=
  if expression = f.filterColumn then Json.ofOptionStr r.nodeId
  else if expression = f.numberColumn then .number (.posInt r.number)
  else r.columns expression

/-- The members a row is read as. -/
def members (f : RecordFamily) (r : RelatedRow) : List (String × Json) :=
  f.selects.map fun selected => (selected.1, f.value r selected.2)

/-- The row is of one of the nodes. -/
def isOf (fold : String → String) (ids : List String) (r : RelatedRow) : Bool :=
  r.nodeId.any fun nodeId => ids.any fun id => fold id == fold nodeId

end RecordFamily

/-! ## What is not shown -/

namespace Dsr

/-- `operator_fingerprint`. -/
def operatorFingerprint (L : OperatorLibs) (operatorPubkey : String) : String :=
  String.ofList ((Hex.encode (L.sha256 (utf8 operatorPubkey))).toList.take 12)

/-- The members that are no one's to see. -/
def secretKeys : List String :=
  ["node_token", "node_token_hash", "proxy_token", "proxy_token_hash", "node_hmac_key",
    "current_node_token"]

/-- The members that are shown by a digest. -/
def publicKeys : List String := ["operator_pubkey", "public_key", "did_public_key"]

/-- `insert`, of a map. -/
def insertMember (entries : List (String × Json)) (e : String × Json) : List (String × Json) :=
  if entries.any fun other => other.1 == e.1 then
    entries.map fun other => if other.1 == e.1 then e else other
  else entries ++ [e]

/-- The digests that are shown in place of the keys of an object. -/
def digests (L : OperatorLibs) (entries : List (String × Json)) : List (String × Json) :=
  entries.filterMap fun e => match e.2 with
    | .string raw =>
      if e.1 = "operator_pubkey" then some ("operator_fingerprint", .string (operatorFingerprint L raw))
      else if e.1 ∈ publicKeys then
        some (e.1 ++ "_sha256", .string (Hex.encode (L.sha256 (utf8 raw))))
      else none
    | _ => none

mutual

/-- **`redact_dsr_payload`.** Of a value that is no object nothing is redacted. -/
def redactDsrPayload (L : OperatorLibs) : Json → Json
  | .object entries => .object ((digests L entries).foldl insertMember (redactMembers L entries))
  | v => v

/-- The same of the items of an array. -/
def redactItems (L : OperatorLibs) : List Json → List Json
  | [] => []
  | v :: rest => redactDsrPayload L v :: redactItems L rest

/-- The same of the members of an object. -/
def redactMembers (L : OperatorLibs) : List (String × Json) → List (String × Json)
  | [] => []
  | (key, .string raw) :: rest =>
    (key, .string (if key ∈ secretKeys ++ publicKeys then "[redacted]" else raw))
      :: redactMembers L rest
  | (key, .array items) :: rest =>
    (key, if key ∈ secretKeys then .string "[redacted]"
      else if key ∈ publicKeys then .array items
      else .array (redactItems L items)) :: redactMembers L rest
  | (key, v) :: rest =>
    (key, if key ∈ secretKeys then .string "[redacted]"
      else if key ∈ publicKeys then v
      else redactDsrPayload L v) :: redactMembers L rest

end

/-- A member of an object is rewritten, if it is there. -/
def onMember (key : String) (f : Json → Json) (entries : List (String × Json)) :
    List (String × Json) :=
  entries.map fun e => if e.1 = key then (e.1, f e.2) else e

/-- `normalize_mysql_bool`, of a value. -/
def mysqlBool : Json → Json
  | .number (.posInt n) => .bool (n != 0)
  | .number (.negInt i) => .bool (i != 0)
  | v => v

/-- The members of an object are rewritten. -/
def onObject (f : List (String × Json) → List (String × Json)) : Json → Json
  | .object entries => .object (f entries)
  | v => v

end Dsr

/-! ## The tables -/

/-- **What a request of a data subject meets**: the tables of the operators, the
rows that go by the node, and of the nodes, the operators and the earlier
requests the columns that nothing but an export reads. -/
structure DsrTables (fold : String → String) where
  tables : OperatorTables fold
  related : RecordFamily → List RelatedRow
  nodeColumns : String → String → Json
  operatorColumns : String → String → Json
  actionColumns : String → String → Json

namespace DsrTables

variable {fold : String → String}

/-- A truth value, as a column has it. -/
def bit (b : Bool) : Json := .number (.posInt b.toNat)

/-- A row of `nodes`. -/
def nodeRow (db : DsrTables fold) (b : NodeBinding) : RelatedRow where
  number := 0
  nodeId := some b.nodeId
  columns
    | "public_listing" => bit b.publicListing
    | "operator_url" => Json.ofOptionStr b.operatorUrl
    | "operator_verified" => bit b.operatorVerified
    | "operator_trust_tier" => Json.ofOptionStr b.operatorTrustTier
    | "policy_manifest" => Json.ofOption b.policyManifest
    | expression => db.nodeColumns b.nodeId expression

/-- The rows of a family. -/
def rowsOf (db : DsrTables fold) : RecordFamily → List RelatedRow
  | .nodes => db.tables.bindings.rows.map db.nodeRow
  | f => db.related f

/-- The rows of a family that are of one of the nodes. -/
def rowsOfNodes (db : DsrTables fold) (f : RecordFamily) (ids : List String) : List RelatedRow :=
  (db.rowsOf f).filter (RecordFamily.isOf fold ids)

end DsrTables

/-- `MysqlDsrSubject`. -/
structure DsrSubject where
  operatorPubkey : String
  nodeIds : List String
  fingerprint : String
  pubkeySha256 : String
  selector : Json
  subjectHash : String

/-- A query outside any transaction: the server it meets, and what the tables are. -/
structure DsrRead (fold : String → String) where
  server : Server
  db : DsrTables fold

/-- The queries of an export. -/
structure DsrReads (fold : String → String) where
  operators : DsrRead fold
  family : RecordFamily → DsrRead fold
  actions : DsrRead fold

namespace Dsr

variable {fold : String → String}

/-- `crate::repo::DSR_RETENTION_REASON`. -/
def retentionReason : String :=
  "Minimal ledger/security/accounting records retained; public/operator-identifying fields removed "
    ++ "or restricted where possible."

/-- The subject of a request. Its hash is of a text with its members in this
order. -/
def subjectOf (L : OperatorLibs) (operatorPubkey : String) (nodeIds : List String) : DsrSubject :=
  let fingerprint := operatorFingerprint L operatorPubkey
  let pubkeySha256 := Hex.encode (L.sha256 (utf8 operatorPubkey))
  { operatorPubkey
    nodeIds
    fingerprint
    pubkeySha256
    selector := .object [("operator_pubkey", .object
      [("sha256", .string pubkeySha256), ("fingerprint", .string fingerprint)])]
    subjectHash := Hex.encode (L.sha256 (utf8
      ("\x7b\"operator_pubkey\":\x7b\"sha256\":\"" ++ pubkeySha256 ++ "\",\"fingerprint\":\""
        ++ fingerprint ++ "\"\x7d\x7d"))) }

/-- **`load_mysql_dsr_subject`.** -/
def loadMysqlDsrSubject (L : OperatorLibs) (t : Turn) (db : DsrTables fold)
    (operatorPubkey : String) : Except OperatorSelfServiceError DsrSubject :=
  (db.tables.loadDsrSubject t operatorPubkey).map (subjectOf L operatorPubkey)

/-! ## Exports -/

/-- What a query gives, if it is answered. -/
def query (q : DsrRead fold) {α : Type} (rows : DsrTables fold → α) :
    Except OperatorSelfServiceError α :=
  if q.server.answersRead 0 then .ok (rows q.db) else .error .storage

/-- The rows a query of a family gives: `LIMIT 500`. -/
def limited (db : DsrTables fold) (f : RecordFamily) (ids : List String) : List RelatedRow :=
  Ranking.lowestBy (f.order fold) 500 (db.rowsOfNodes f ids)

/-- **`mysql_dsr_node_table_rows`.** No query is made for no nodes. -/
def mysqlDsrNodeTableRows (q : DsrRead fold) (f : RecordFamily) (ids : List String) :
    Except OperatorSelfServiceError (List RelatedRow) :=
  if ids.isEmpty then .ok [] else query q fun db => limited db f ids

/-- A row as it is given: `mysql_dsr_node_rows` and `mysql_dsr_node_event_rows`
rewrite theirs. -/
def recordOf (L : OperatorLibs) (subject : DsrSubject) (f : RecordFamily) (r : RelatedRow) : Json :=
  .object (match f with
    | .nodes =>
      let entries := insertMember (f.members r) ("operator_fingerprint", .string subject.fingerprint)
      let entries := ["available", "public_listing", "operator_verified"].foldl
        (fun entries field => onMember field mysqlBool entries) entries
      let entries := onMember "secret_fields_present" (onObject fun secrets =>
        ["node_token_hash", "proxy_token_hash", "node_hmac_key"].foldl
          (fun entries field => onMember field mysqlBool entries) secrets) entries
      onMember "policy_manifest" (redactDsrPayload L) entries
    | .nodeEvents =>
      onMember "payload" (redactDsrPayload L) (onMember "signature_present" mysqlBool (f.members r))
    | _ => f.members r)

/-- The members of the row of an operator. -/
def operatorFields : List String :=
  ["id", "display_name", "attested_created_at", "operator_integrity_hash", "first_seen_ms", "ordinal",
    "tier", "badge", "provenance", "terms_version", "terms_accepted_at", "dpa_version",
    "dpa_accepted_at", "acceptance_method", "created_at", "updated_at"]

/-- `mysql_dsr_operator_rows`. -/
def operatorRecords (db : DsrTables fold) (subject : DsrSubject) : List Json :=
  match db.tables.operators.row subject.operatorPubkey with
  | none => []
  | some r => [.object ([("operator_fingerprint", .string subject.fingerprint),
      ("operator_pubkey_sha256", .string subject.pubkeySha256)].foldl insertMember
      (operatorFields.map fun field => (field, db.operatorColumns r.operatorPubkey field)))]

/-- The members of an earlier request. -/
def actionFields : List String :=
  ["tracking_id", "action", "subject_hash", "affected_counts", "retention_reason", "applied_at"]

/-- The request was made of the subject. -/
def isAbout (db : DsrTables fold) (subjectHash : String) (a : DataSubjectAction) : Bool :=
  (db.actionColumns a.trackingId "subject_hash").asStr.any fun hash => fold hash == fold subjectHash

/-- `mysql_dsr_prior_actions`. -/
def priorActions (db : DsrTables fold) (subjectHash : String) : List Json :=
  ((db.tables.dataSubjectActions.rows.filter (isAbout db subjectHash)).take 500).map fun a =>
    .object (actionFields.map fun field => (field, db.actionColumns a.trackingId field))

/-- The records of a family. -/
def familyRecords (L : OperatorLibs) (reads : DsrReads fold) (subject : DsrSubject)
    (f : RecordFamily) : Except OperatorSelfServiceError (String × Json) :=
  (mysqlDsrNodeTableRows (reads.family f) f subject.nodeIds).map fun rows =>
    (f.member, .array (rows.map (recordOf L subject f)))

/-- What an export says. -/
def exportOf (generatedAt : String) (subject : DsrSubject) (trackingId : String)
    (operators : List Json) (records : List (String × Json)) (actions : List Json) : Json :=
  .object [
    ("schema", .string "iicp.dsr.export.v1"),
    ("generated_at", .string generatedAt),
    ("tracking_id", .string trackingId),
    ("selector", subject.selector),
    ("subject_hash", .string subject.subjectHash),
    ("retention_notice", .string retentionReason),
    ("records", .object
      ([("operators", .array operators)] ++ records ++ [("data_subject_actions", .array actions)]))]

/-- **`mysql_dsr_export`.** -/
def mysqlDsrExport (L : OperatorLibs) (reads : DsrReads fold) (generatedAt : String)
    (subject : DsrSubject) (trackingId : String) : Except OperatorSelfServiceError Json := do
  let operators ← query reads.operators fun db => operatorRecords db subject
  let records ← RecordFamily.all.mapM (familyRecords L reads subject)
  let actions ← query reads.actions fun db => priorActions db subject.subjectHash
  return exportOf generatedAt subject trackingId operators records actions

/-- The records of a family in what is given. -/
def recordsIn (answer : Json) (f : RecordFamily) : Option (List Json) :=
  (answer.get "records").bind fun records => records.getArray f.member

/-! ## Anonymizations -/

/-- The families whose rows go with an anonymization. -/
def erased : List RecordFamily := [.nodeAddressHistory, .telemetryProbes, .proxyTelemetry]

/-- `delete_mysql_dsr_rows`. -/
def deleteRows (fold : String → String) (ids : List String) (f : RecordFamily)
    (related : RecordFamily → List RelatedRow) : RecordFamily → List RelatedRow :=
  Function.update related f ((related f).filter fun r => !RecordFamily.isOf fold ids r)

/-- Columns of the nodes of an operator are written. -/
def setNodeColumns (operatorPubkey : String) (values : String → List (String × Json))
    (db : DsrTables fold) : DsrTables fold :=
  { db with
    nodeColumns := fun nodeId expression =>
      if (db.tables.nodeIds operatorPubkey).any fun id => fold id == fold nodeId then
        (((values nodeId).find? fun e => e.1 == expression).map Prod.snd).getD
          (db.nodeColumns nodeId expression)
      else db.nodeColumns nodeId expression }

/-- The columns `apply_mysql_dsr_restriction` writes, -/
def restrictedColumns (now : String) : List (String × Json) :=
  [("available", DsrTables.bit false), ("operator_contact", .null), ("status", .string "archived"),
    ("dormant_since", .string now)]

/-- and `apply_mysql_dsr_anonymization`: there are secrets, which nobody knows. -/
def anonymizedColumns (nodeId : String) : List (String × Json) :=
  [("endpoint", .string ("https://dsr-anonymized.invalid/node-"
      ++ String.ofList (nodeId.toList.take 8))),
    ("observed_source_ip", .null),
    ("secret_fields_present", .object (["node_token_hash", "proxy_token_hash", "node_hmac_key"].map
      fun field => (field, DsrTables.bit true)))]

/-- `mysql_dsr_count`. -/
def mysqlDsrCount (db : DsrTables fold) (f : RecordFamily) (ids : List String) : ℕ :=
  if ids.isEmpty then 0 else (db.rowsOfNodes f ids).length

/-- A number as a value. -/
def ofCount (n : ℕ) : Json := .number (.posInt n)

/-- `mysql_dsr_affected_counts`, and what an anonymization adds to them. -/
def affectedCounts (db : DsrTables fold) (action : DsrAction) (ids : List String) : Json :=
  .object ([("nodes", ofCount ids.length),
    ("operators", ofCount 1),
    ("credits", ofCount (mysqlDsrCount db .credits ids)),
    ("credit_transactions", ofCount (mysqlDsrCount db .creditTransactions ids)),
    ("node_events_retained", ofCount (mysqlDsrCount db .nodeEvents ids)),
    ("node_address_history", ofCount (mysqlDsrCount db .nodeAddressHistory ids)),
    ("telemetry_probes", ofCount (mysqlDsrCount db .telemetryProbes ids)),
    ("proxy_telemetry", ofCount (mysqlDsrCount db .proxyTelemetry ids))]
    ++ if action = .anonymize then
      erased.map fun f => ("deleted_" ++ f.member, ofCount (mysqlDsrCount db f ids))
    else [])

/-- The text of a request. -/
def actionText : DsrAction → String
  | .export => "export"
  | .restrict => "restrict"
  | .anonymize => "anonymize"

/-- The columns of the record of a request. -/
def recordAction (trackingId : String) (columns : List (String × Json)) (db : DsrTables fold) :
    DsrTables fold :=
  { db with actionColumns := Function.update db.actionColumns trackingId fun field =>
      ((columns.find? fun e => e.1 == field).map Prod.snd).getD .null }

/-- A statement about the tables of the operators, and what it does besides. -/
def beside (statement : OperatorTables fold → Option (OperatorTables fold))
    (besides : DsrTables fold → DsrTables fold) (db : DsrTables fold) : Option (DsrTables fold) :=
  (statement db.tables).map fun tables => { besides db with tables := tables }

/-- Rows are deleted besides. -/
def deleting (ids : List String) (f : RecordFamily) (db : DsrTables fold) : DsrTables fold :=
  { db with related := deleteRows fold ids f db.related }

/-- What the statements of a request do besides, one by one: the counts, the
restriction, the anonymization with its deletions, and the record. -/
def besidesOf (t : Turn) (action : DsrAction) (trackingId : String) (subject : DsrSubject)
    (counts : Json) : List (DsrTables fold → DsrTables fold) :=
  (if subject.nodeIds.isEmpty then [] else List.replicate 6 id)
    ++ [setNodeColumns subject.operatorPubkey fun _ => restrictedColumns t.acceptedAt, id]
    ++ (if action = .anonymize then
        [setNodeColumns subject.operatorPubkey anonymizedColumns]
          ++ (if subject.nodeIds.isEmpty then [] else erased.map (deleting subject.nodeIds))
          ++ [id]
      else [])
    ++ [recordAction trackingId [("tracking_id", .string trackingId),
        ("action", .string (actionText action)), ("subject_hash", .string subject.subjectHash),
        ("affected_counts", counts), ("retention_reason", .string retentionReason),
        ("applied_at", .string t.acceptedAt)]]

/-- The statements on the tables of the operators. -/
def tablesBody (L : OperatorLibs) (t : Turn) (action : DsrAction) (trackingId : String)
    (subject : DsrSubject) : List (OperatorTables fold → Option (OperatorTables fold)) :=
  OperatorTables.dsrBody L subject.operatorPubkey action trackingId subject.nodeIds t.nowMs
    ++ [OperatorTables.insertDsrAction ⟨trackingId, action, subject.nodeIds.length⟩]

/-- The statements of a request. -/
def mutateBody (L : OperatorLibs) (t : Turn) (action : DsrAction) (trackingId : String)
    (subject : DsrSubject) (counts : Json) : List (DsrTables fold → Option (DsrTables fold)) :=
  List.zipWith beside (tablesBody L t action trackingId subject)
    (besidesOf t action trackingId subject counts)

/-- **`mutate_mysql_dsr`.** -/
def mutateMysqlDsr (L : OperatorLibs) (t : Turn) (db : DsrTables fold) (action : DsrAction)
    (trackingId : String) (subject : DsrSubject) :
    Except OperatorSelfServiceError Json × DsrTables fold :=
  let counts := affectedCounts db action subject.nodeIds
  let body := mutateBody L t action trackingId subject counts
  let done := Transaction.run t.server body db
  (if done.1 then .ok (.object [("action", .string (actionText action)), ("dry_run", .bool false),
      ("tracking_id", .string trackingId), ("selector", subject.selector),
      ("subject_hash", .string subject.subjectHash), ("affected_counts", counts),
      ("retention_reason", .string retentionReason)])
    else if (Transaction.reaches t.server body.dropLast db).isSome
        && t.server.answersRead body.dropLast.length
        && (db.tables.dataSubjectActions.find (fold trackingId)).isSome then
      .error .duplicateTrackingId
    else .error .storage, done.2)

/-! ## What a request does to the tables of the operators -/

theorem length_besidesOf (L : OperatorLibs) (t : Turn) (action : DsrAction) (trackingId : String)
    (subject : DsrSubject) (counts : Json) :
    (@tablesBody fold L t action trackingId subject).length
      = (@besidesOf fold t action trackingId subject counts).length := by
  unfold tablesBody besidesOf OperatorTables.dsrBody OperatorTables.restrictionBody
    OperatorTables.anonymizationBody
  cases subject.nodeIds.isEmpty <;> cases action <;> rfl

/-- A statement does to the tables of the operators what it is about. -/
theorem tables_beside {body : List (OperatorTables fold → Option (OperatorTables fold))}
    {besides : List (DsrTables fold → DsrTables fold)} (h : body.length = besides.length) :
    List.Forall₂ (fun statement statement' =>
      ∀ db : DsrTables fold, (statement db).map DsrTables.tables = statement' db.tables)
      (List.zipWith beside body besides) body := by
  induction body generalizing besides with
  | nil => exact .nil
  | cons statement rest ih =>
    cases besides with
    | nil => exact absurd h (by simp)
    | cons besides others =>
      refine .cons (fun db => ?_) (ih (Nat.succ.inj h))
      unfold beside
      rw [Option.map_map]
      exact Option.map_id'

/-- **What a request does to the tables of the operators** is what it does where
there is nothing besides. -/
theorem tables_mutateMysqlDsr (L : OperatorLibs) (t : Turn) (db : DsrTables fold)
    (action : DsrAction) (trackingId : String) (subject : DsrSubject) :
    (mutateMysqlDsr L t db action trackingId subject).2.tables
      = (db.tables.mutateDsr L t subject.operatorPubkey action trackingId subject.nodeIds).2 :=
  congrArg Prod.snd (Transaction.map_run DsrTables.tables
    (tables_beside (length_besidesOf L t action trackingId subject _)) t.server db)

/-! ## and to the rows that go by the node -/

/-- What a statement does besides, it does to these rows. -/
theorem related_of_foldlM {body : List (OperatorTables fold → Option (OperatorTables fold))}
    {besides : List (DsrTables fold → DsrTables fold)}
    {effects : List ((RecordFamily → List RelatedRow) → RecordFamily → List RelatedRow)}
    (hlength : body.length = besides.length)
    (heffects : List.Forall₂ (fun besides effect =>
      ∀ db : DsrTables fold, (besides db).related = effect db.related) besides effects)
    {db db' : DsrTables fold}
    (h : (List.zipWith beside body besides).foldlM (fun db statement => statement db) db
      = some db') :
    db'.related = effects.foldl (fun related effect => effect related) db.related := by
  refine Transaction.part_of_foldlM DsrTables.related ?_ h
  clear h
  induction heffects generalizing body with
  | nil =>
    rw [List.zipWith_nil_right]
    exact .nil
  | @cons besides effect others effects hfirst hrest ih =>
    cases body with
    | nil => exact absurd hlength (by simp)
    | cons statement rest =>
      refine .cons (fun db db' hdb => ?_) (ih (Nat.succ.inj hlength))
      obtain ⟨tables, -, rfl⟩ := Option.map_eq_some_iff.mp hdb
      exact hfirst db

/-- The effects of the statements of a request on these rows. -/
def effectsOf (fold : String → String) (action : DsrAction) (ids : List String) :
    List ((RecordFamily → List RelatedRow) → RecordFamily → List RelatedRow) :=
  (if ids.isEmpty then [] else List.replicate 6 id) ++ [id, id]
    ++ (if action = .anonymize then
        [id] ++ (if ids.isEmpty then [] else erased.map (deleteRows fold ids)) ++ [id]
      else [])
    ++ [id]

theorem forall₂_effectsOf (t : Turn) (action : DsrAction) (trackingId : String)
    (subject : DsrSubject) (counts : Json) :
    List.Forall₂ (fun besides effect =>
      ∀ db : DsrTables fold, (besides db).related = effect db.related)
      (besidesOf t action trackingId subject counts) (effectsOf fold action subject.nodeIds) := by
  unfold besidesOf effectsOf
  cases subject.nodeIds.isEmpty <;> cases action <;>
    repeat first | exact .nil | refine .cons (fun _ => rfl) ?_

/-- A row of no node is kept. -/
theorem isOf_nil (r : RelatedRow) : RecordFamily.isOf fold [] r = false := by
  unfold RecordFamily.isOf
  cases r.nodeId <;> rfl

/-- **What a request leaves of these rows**: all, or for an anonymization all but
those of the nodes in three of the tables. -/
theorem related_of_mutateBody {L : OperatorLibs} {t : Turn} {action : DsrAction}
    {trackingId : String} {subject : DsrSubject} {counts : Json} {db db' : DsrTables fold}
    (h : (mutateBody L t action trackingId subject counts).foldlM
      (fun db statement => statement db) db = some db') (f : RecordFamily) :
    db'.related f = if action = .anonymize ∧ f ∈ erased then
        (db.related f).filter fun r => !RecordFamily.isOf fold subject.nodeIds r
      else db.related f := by
  rw [related_of_foldlM (length_besidesOf L t action trackingId subject counts)
    (forall₂_effectsOf t action trackingId subject counts) h]
  by_cases haction : action = .anonymize
  · cases hids : subject.nodeIds with
    | nil =>
      have hall : (db.related f).filter (fun r => !RecordFamily.isOf fold [] r) = db.related f :=
        List.filter_eq_self.mpr fun r _ => by rw [isOf_nil]; rfl
      rw [hall, ite_self, haction]
      rfl
    | cons id rest =>
      rw [haction]
      cases f <;> rfl
  · rw [if_neg fun hboth => haction hboth.1]
    unfold effectsOf
    rw [if_neg haction]
    cases subject.nodeIds <;> rfl

/-! ## What is given and what is left -/

/-- **The rows that are given of a family, and those that are left out**: the
first in the order of the query, all of them where there is room. -/
structure FirstRows (db : DsrTables fold) (f : RecordFamily) (ids : List String)
    (rows left : List RelatedRow) : Prop where
  all : (rows ++ left).Perm (db.rowsOfNodes f ids)
  order : ∀ r ∈ rows, ∀ other ∈ left, f.order fold r ≤ f.order fold other
  limit : rows.length = min 500 (db.rowsOfNodes f ids).length
  room : (db.rowsOfNodes f ids).length ≤ 500 → left = []

/-- **What is left of the rows that go by the node**: none of the nodes in three of
the tables, and all others. -/
structure Erases (ids : List String) (db db' : DsrTables fold) : Prop where
  gone : ∀ f ∈ erased, db'.rowsOfNodes f ids = []
  kept : ∀ f, ∀ r ∈ db.related f,
    (f ∈ erased → RecordFamily.isOf fold ids r = false) → r ∈ db'.related f

theorem rowsOfNodes_nil (db : DsrTables fold) (f : RecordFamily) : db.rowsOfNodes f [] = [] :=
  List.filter_eq_nil_iff.mpr fun r _ => by rw [isOf_nil]; exact Bool.false_ne_true

/-- The first rows, by the query. -/
theorem firstRows_limited (db : DsrTables fold) (f : RecordFamily) (ids : List String) :
    FirstRows db f ids (limited db f ids)
      (Ranking.othersBy (f.order fold) 500 (db.rowsOfNodes f ids)) where
  all := Ranking.lowestBy_append_othersBy_perm _ _ _
  order _ hr _ hother := Ranking.le_of_mem_othersBy _ hr hother
  limit := Ranking.length_lowestBy _ _ _
  room hroom := by
    have hperm := (Ranking.lowestBy_append_othersBy_perm (f.order fold) 500
      (db.rowsOfNodes f ids)).length_eq
    rw [List.length_append, Ranking.length_lowestBy] at hperm
    exact List.eq_nil_of_length_eq_zero (by omega)

/-- A query of a family that is answered gives its first rows. -/
theorem eq_limited {q : DsrRead fold} {f : RecordFamily} {ids : List String}
    {rows : List RelatedRow} (h : mysqlDsrNodeTableRows q f ids = .ok rows) :
    rows = limited q.db f ids := by
  unfold mysqlDsrNodeTableRows query at h
  split at h
  · next hids =>
    obtain rfl : ids = [] := List.isEmpty_iff.mp hids
    unfold limited
    rw [rowsOfNodes_nil]
    exact (Except.ok.inj h).symm
  · split at h
    · exact (Except.ok.inj h).symm
    · exact absurd h (by simp)

theorem member_injective : Function.Injective RecordFamily.member := by
  intro f g h
  cases f <;> cases g <;> first | rfl | exact absurd h (by decide)

/-- No family is called like what else there is in an export. -/
theorem member_ne_operators (f : RecordFamily) : f.member ≠ "operators" := by
  cases f <;> decide

/-- What is made of several families one by one is found by their name. -/
theorem find?_of_mapM {L : OperatorLibs} {reads : DsrReads fold} {subject : DsrSubject}
    {families : List RecordFamily} {records rest : List (String × Json)}
    (h : families.mapM (familyRecords L reads subject) = .ok records) {f : RecordFamily}
    (hf : f ∈ families) :
    ∃ rows, mysqlDsrNodeTableRows (reads.family f) f subject.nodeIds = .ok rows
      ∧ (records ++ rest).find? (fun e => e.1 == f.member)
        = some (f.member, .array (rows.map (recordOf L subject f))) := by
  induction families generalizing records with
  | nil => exact absurd hf List.not_mem_nil
  | cons g others ih =>
    rw [List.mapM_cons] at h
    cases hfirst : mysqlDsrNodeTableRows (reads.family g) g subject.nodeIds with
    | error e =>
      unfold familyRecords at h
      rw [hfirst] at h
      exact absurd h (by simp [Except.map, bind, Except.bind])
    | ok rows =>
      have hg : familyRecords L reads subject g
          = .ok (g.member, .array (rows.map (recordOf L subject g))) := by
        unfold familyRecords
        rw [hfirst]
        rfl
      rw [hg] at h
      cases hothers : others.mapM (familyRecords L reads subject) with
      | error e =>
        rw [hothers] at h
        exact absurd h (by simp [bind, Except.bind])
      | ok later =>
        rw [hothers] at h
        obtain rfl := Except.ok.inj h
        by_cases hfg : f = g
        · subst hfg
          exact ⟨rows, hfirst, List.find?_cons_of_pos (by simp)⟩
        · obtain ⟨rows', hrows', hfind⟩ :=
            ih hothers ((List.mem_cons.mp hf).resolve_left hfg)
          refine ⟨rows', hrows', (List.find?_cons_of_neg ?_).trans hfind⟩
          rw [beq_iff_eq]
          exact fun hname => hfg (member_injective hname).symm

theorem mem_all (f : RecordFamily) : f ∈ RecordFamily.all := by
  cases f <;> decide

/-- **What an export gives of a family.** -/
theorem recordsIn_of_export {L : OperatorLibs} {reads : DsrReads fold} {generatedAt : String}
    {subject : DsrSubject} {trackingId : String} {answer : Json}
    (h : mysqlDsrExport L reads generatedAt subject trackingId = .ok answer) (f : RecordFamily) :
    recordsIn answer f = some ((limited (reads.family f).db f subject.nodeIds).map
      (recordOf L subject f)) := by
  unfold mysqlDsrExport at h
  cases hoperators : query reads.operators fun db => operatorRecords db subject with
  | error e =>
    rw [hoperators] at h
    exact absurd h (by simp [bind, Except.bind])
  | ok operators =>
    rw [hoperators] at h
    cases hrecords : RecordFamily.all.mapM (familyRecords L reads subject) with
    | error e =>
      rw [hrecords] at h
      exact absurd h (by simp [bind, Except.bind])
    | ok records =>
      rw [hrecords] at h
      cases hactions : query reads.actions fun db => priorActions db subject.subjectHash with
      | error e =>
        rw [hactions] at h
        exact absurd h (by simp [bind, Except.bind])
      | ok actions =>
        rw [hactions] at h
        obtain rfl := Except.ok.inj h
        obtain ⟨rows, hrows, hfind⟩ := @find?_of_mapM fold L reads subject RecordFamily.all records
          [("data_subject_actions", .array actions)] hrecords f (mem_all f)
        have hnot : ("operators" == f.member) = false :=
          beq_eq_false_iff_ne.mpr (member_ne_operators f).symm
        have hget : Json.get (.object ([("operators", .array operators)] ++ records
            ++ [("data_subject_actions", .array actions)])) f.member
            = some (.array (rows.map (recordOf L subject f))) := by
          show (List.find? (fun e => e.1 == f.member) (("operators", .array operators)
            :: (records ++ [("data_subject_actions", .array actions)]))).map Prod.snd = _
          rw [List.find?_cons_of_neg (by rw [hnot]; exact Bool.false_ne_true), hfind]
          rfl
        rw [← eq_limited hrows]
        show (Json.get _ f.member).bind Json.asArray = _
        rw [hget]
        rfl

/-- **What an anonymization leaves**, where it leaves anything. -/
theorem erases_of_mutateBody {L : OperatorLibs} {t : Turn} {trackingId : String}
    {subject : DsrSubject} {counts : Json} {db db' : DsrTables fold}
    (h : (mutateBody L t .anonymize trackingId subject counts).foldlM
      (fun db statement => statement db) db = some db') : Erases subject.nodeIds db db' where
  gone f hf := by
    have hrelated := related_of_mutateBody h f
    rw [if_pos ⟨rfl, hf⟩] at hrelated
    have hrows : db'.rowsOf f = db'.related f := by
      cases f with
      | nodes => exact absurd hf (by decide)
      | _ => rfl
    unfold DsrTables.rowsOfNodes
    rw [hrows, hrelated, List.filter_filter]
    refine List.filter_eq_nil_iff.mpr fun r _ hr => ?_
    rw [Bool.and_not_self] at hr
    exact absurd hr Bool.false_ne_true
  kept f r hr hkept := by
    rw [related_of_mutateBody h f]
    split
    · next hboth => exact List.mem_filter.mpr ⟨hr, by rw [hkept hboth.2]; rfl⟩
    · exact hr

/-- **An answer has every row of a family** that is of a node of the operator. -/
def HasAll (L : OperatorLibs) (subject : DsrSubject) (answer : Json) (db : DsrTables fold)
    (f : RecordFamily) (operatorPubkey : String) : Prop :=
  ∃ items, recordsIn answer f = some items
    ∧ ((db.rowsOfNodes f (db.tables.nodeIds operatorPubkey)).map (recordOf L subject f)).Subperm items

/-- Where nothing is done in between, it has where there are so few. -/
theorem hasAll_iff {L : OperatorLibs} {server : Server} {db : DsrTables fold} {generatedAt : String}
    {operatorPubkey trackingId : String} {subject : DsrSubject} {answer : Json}
    (hids : subject.nodeIds = db.tables.nodeIds operatorPubkey)
    (h : mysqlDsrExport L ⟨⟨server, db⟩, fun _ => ⟨server, db⟩, ⟨server, db⟩⟩ generatedAt subject
      trackingId = .ok answer) (f : RecordFamily) :
    HasAll L subject answer db f operatorPubkey
      ↔ (db.rowsOfNodes f (db.tables.nodeIds operatorPubkey)).length ≤ 500 := by
  have hrecords : recordsIn answer f = some ((limited db f (db.tables.nodeIds operatorPubkey)).map
      (recordOf L subject f)) := hids ▸ recordsIn_of_export h f
  have hlimit := (firstRows_limited db f (db.tables.nodeIds operatorPubkey)).limit
  constructor
  · rintro ⟨items, hitems, hall⟩
    obtain rfl := Option.some.inj (hrecords.symm.trans hitems)
    have hlength := hall.length_le
    rw [List.length_map, List.length_map] at hlength
    omega
  · intro hroom
    exact ⟨_, hrecords, (((Ranking.perm_lowestBy_iff _).mpr hroom).symm.map _).subperm⟩

end Dsr

namespace Sample

/-- A node whose address was noted so many times. -/
def addressRows (n : ℕ) : List RelatedRow :=
  (List.range n).map fun i => ⟨i, some "n1", fun _ => .null⟩

/-- The tables of an operator with that node. -/
def notedTables (n : ℕ) : DsrTables id where
  tables := oneOperator.persist (operatorRegistration "n1" "key-1" "Ada").pending
  related
    | .nodeAddressHistory => addressRows n
    | _ => []
  nodeColumns _ _ := .null
  operatorColumns _ _ := .null
  actionColumns _ _ := .null

/-- The data subject. -/
def dataSubject : DsrSubject := Dsr.subjectOf operatorLibs "key-1" ["n1"]

/-- An export of these tables, and its queries. -/
def notedReads (n : ℕ) : DsrReads id :=
  ⟨⟨.willing, notedTables n⟩, fun _ => ⟨.willing, notedTables n⟩, ⟨.willing, notedTables n⟩⟩

def notedExport (n : ℕ) : Except OperatorSelfServiceError Json :=
  Dsr.mysqlDsrExport operatorLibs (notedReads n) "now" dataSubject "dsr-1"

theorem loadMysqlDsrSubject_noted (n : ℕ) :
    Dsr.loadMysqlDsrSubject operatorLibs ⟨.willing, 0, ""⟩ (notedTables n) "key-1"
      = .ok dataSubject := rfl

/-- All that is noted is of the node. -/
theorem rowsOfNodes_noted (n : ℕ) :
    (notedTables n).rowsOfNodes .nodeAddressHistory ["n1"] = addressRows n := by
  refine List.filter_eq_self.mpr fun r hr => ?_
  obtain ⟨i, -, rfl⟩ := List.mem_map.mp hr
  rfl

theorem limited_noted (n : ℕ) :
    Dsr.limited (notedTables n) .nodeAddressHistory ["n1"] = (addressRows n).take 500 := by
  unfold Dsr.limited
  rw [rowsOfNodes_noted]
  refine Ranking.lowestBy_of_pairwise _ (List.pairwise_map.mpr ?_)
  refine List.pairwise_lt_range.imp fun {i j} hij => ?_
  exact Prod.Lex.toLex_le_toLex.mpr (Or.inr ⟨rfl, hij.le⟩)

theorem take_addressRows {n : ℕ} (h : 500 ≤ n) : (addressRows n).take 500 = addressRows 500 := by
  unfold addressRows
  rw [← List.map_take, List.take_range, Nat.min_eq_left h]

/-- What a query gives, if there are as many addresses as it may give. -/
theorem nodeTableRows_noted {n : ℕ} (h : 500 ≤ n) (f : RecordFamily) :
    Dsr.mysqlDsrNodeTableRows ⟨.willing, notedTables n⟩ f ["n1"]
      = if f = .nodeAddressHistory then .ok (addressRows 500)
        else Dsr.mysqlDsrNodeTableRows ⟨.willing, notedTables 0⟩ f ["n1"] := by
  cases f with
  | nodeAddressHistory => exact congrArg Except.ok ((limited_noted n).trans (take_addressRows h))
  | _ => rfl

/-- One more than there is room for does not show. -/
theorem notedExport_eq : notedExport 501 = notedExport 500 := by
  have hfamilies : ∀ n, 500 ≤ n → Dsr.familyRecords operatorLibs (notedReads n) dataSubject
      = Dsr.familyRecords operatorLibs (notedReads 500) dataSubject := by
    intro n hn
    refine funext fun f => congrArg (Except.map _) ?_
    exact (nodeTableRows_noted hn f).trans (nodeTableRows_noted le_rfl f).symm
  have hexport : ∀ n, notedExport n = (do
      let operators ← Dsr.query (notedReads 0).operators fun db => Dsr.operatorRecords db dataSubject
      let records ← RecordFamily.all.mapM
        (Dsr.familyRecords operatorLibs (notedReads n) dataSubject)
      let actions ← Dsr.query (notedReads 0).actions fun db =>
        Dsr.priorActions db dataSubject.subjectHash
      return Dsr.exportOf "now" dataSubject "dsr-1" operators records actions) := fun n => rfl
  rw [hexport 501, hexport 500, hfamilies 501 (by decide)]

theorem exists_notedExport (n : ℕ) : ∃ answer, notedExport n = .ok answer := ⟨_, rfl⟩

end Sample

namespace Dsr

end Dsr
