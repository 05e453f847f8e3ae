import IicpDirectory.Foundations.Table
import IicpDirectory.MySqlRepo
import IicpDirectory.Seed.Acknowledged

/-!
# What a registration writes of a node's standing

Whether a node may report another, and whether its observations count, is
read off three columns of `nodes`: the reputation, the average latency, and
the time the row was made. A registration is one `INSERT` of thirty columns,
and the time is not among them. The column may be `NULL`, so the row is
accepted, and has no time (`createdAtMs_standingRow`); a registration of a
node that is there leaves the columns as they are.

Rows of another directory on the same tables may have times. What is kept
here of a row beside its columns is when the node was in fact registered.
-/

open Schema

/-- The standing of a node. The time of its registration is not a column. -/
structure Standing where
  id : String
  reputationScore : ℚ
  avgLatencyMs : ℚ
  createdAtMs : Option ℤ
  registeredAtMs : ℤ
  deriving DecidableEq

/-- The nodes, by identity in the collation. -/
abbrev StandingTable (fold : String → String) := Table fun r : Standing => fold r.id

namespace StoredRow

/-- A column read as a number that is there. -/
def number (row : StoredRow) (name : String) : Option ℚ :=
  match row.lookup name with
  | some (.number q) => some q
  | _ => none

/-- **A time that a statement leaves out** is not in its row. -/
theorem optionalMoment_of_omitted {t : Schema.Table} {count : ℚ} {given : List (String × Value)}
    {row : StoredRow} (hrow : t.row count given = some row) {name : String}
    (hcolumn : Column.optional name .moment ∈ t.columns) (homitted : given.lookup name = none) :
    row.optionalMoment name = some none := by
  have hlookup : row.lookup name
      = (Column.optional name .moment).fill count (given.lookup name) :=
    Table.lookup_row hrow hcolumn
  rw [homitted, Column.fill_optional] at hlookup
  unfold optionalMoment
  rw [hlookup]

end StoredRow

namespace Standing

/-- A text or nothing, as it is given to a statement. -/
def optionalText (text : Option String) : Value := text.elim .null .text

/-- A truth value, as it is given to a statement. -/
def flag (b : Bool) : Value := .number (if b then 1 else 0)

variable (jsonText : Json → String)

/-- The columns of `INSERT INTO nodes` in `upsert_node`, and their values. -/
def insertColumns (rec : NodeRecord) (tokenHash proxyHash : String) : List (String × Value) :=
  [("id", .text rec.node.nodeId),
   ("endpoint", .text rec.node.endpoint),
   ("region", .text rec.node.region),
   ("available", .number 1),
   ("relay_capable", flag (rec.node.relayCapable.getD false)),
   ("node_token_hash", .text tokenHash),
   ("node_hmac_key", .text (rec.nodeHmacKey.getD "")),
   ("proxy_token_hash", .text proxyHash),
   ("max_concurrent", .number rec.node.maxConcurrent),
   ("tokens_per_min", .number 0),
   ("reputation_score", .number (toF32 PendingRegistration.startingScore)),
   ("reputation_model", optionalText rec.node.reputationModel),
   ("reputation_epoch", optionalText rec.node.reputationEpoch),
   ("status", .text "active"),
   ("operator_pubkey", optionalText rec.node.operatorPubkey),
   ("operator_verified", flag rec.node.operatorVerified),
   ("operator_trust_tier", optionalText rec.node.operatorTrustTier),
   ("backend", optionalText rec.node.backend),
   ("sdk_language", optionalText rec.node.sdkLanguage),
   ("implementation_name", optionalText rec.node.implementationName),
   ("implementation_version", optionalText rec.node.implementationVersion),
   ("sdk_compatibility_version", optionalText rec.node.sdkCompatibilityVersion),
   ("sdk_version", optionalText rec.node.sdkVersion),
   ("supported_receipt_profiles",
     optionalText (if rec.node.consumerCosignatureReady then
       some "[\"consumer_cosignature_v1\"]" else none)),
   ("public_listing", flag rec.node.publicListing),
   ("operator_url", optionalText rec.node.operatorUrl),
   ("policy_manifest", optionalText (rec.node.policyManifest.map jsonText)),
   ("cx_public_key", optionalText (rec.node.publicKey.map jsonText)),
   ("credit_cost_multiplier", .number rec.node.creditCostMultiplier),
   ("pricing_model", optionalText rec.node.pricingModel)]

/-- The standing in a row that was accepted. -/
def ofStored (registeredAtMs : ℤ) (nodeId : String) (row : StoredRow) : Standing where
  id := nodeId
  reputationScore := (row.number "reputation_score").getD 0
  avgLatencyMs := (row.number "avg_latency_ms").getD 0
  createdAtMs := (row.optionalMoment "created_at").getD none
  registeredAtMs := registeredAtMs

/-- The standing a registration gives a new node, if its columns take the
record. -/
@[irreducible]
def standingRow (nowMs : ℤ) (rec : NodeRecord) (tokenHash proxyHash : String) : Option Standing :=
  (Baseline.nodes.row 0 (insertColumns jsonText rec tokenHash proxyHash)).map
    (ofStored nowMs rec.node.nodeId)

variable {jsonText}

/-- **A registration leaves the time of the row out**, and the row has none. -/
theorem createdAtMs_standingRow {nowMs : ℤ} {rec : NodeRecord} {tokenHash proxyHash : String}
    {r : Standing} (h : standingRow jsonText nowMs rec tokenHash proxyHash = some r) :
    r.createdAtMs = none := by
  unfold standingRow at h
  obtain ⟨row, hrow, rfl⟩ := Option.map_eq_some_iff.mp h
  have hcolumn : Column.optional "created_at" .moment ∈ Baseline.nodes.columns :=
    List.mem_of_getElem? (show Baseline.nodes.columns[57]? = _ from rfl)
  show (row.optionalMoment "created_at").getD none = none
  rw [StoredRow.optionalMoment_of_omitted hrow hcolumn rfl, Option.getD_some]

end Standing

/-- What changes the standing of nodes: a registration, a removal, and a
reputation that is set. -/
inductive StandingAction
  | register (rec : NodeRecord) (tokenHash proxyHash : String)
  | deregister (nodeId : String)
  | setReputationScore (nodeId : String) (score : ℚ)

namespace StandingTable

variable {fold : String → String}

/-- The standing of a node. -/
def ofNode (nodes : StandingTable fold) (nodeId : String) : Option Standing :=
  nodes.find (fold nodeId)

/-- `UPDATE nodes SET reputation_score`. -/
def setReputationScore (nodes : StandingTable fold) (nodeId : String) (score : ℚ) :
    StandingTable fold :=
  nodes.update (fold nodeId) (fun r => { r with reputationScore := score }) fun _ => rfl

/-- `INSERT INTO nodes … ON DUPLICATE KEY UPDATE`: none of the columns of the
standing is written over. -/
def upsertNode (jsonText : Json → String) (nowMs : ℤ) (nodes : StandingTable fold)
    (rec : NodeRecord) (tokenHash proxyHash : String) : StandingTable fold :=
  match Standing.standingRow jsonText nowMs rec tokenHash proxyHash with
  | some r => nodes.upsert r (fun old => old) fun _ => rfl
  | none => nodes

/-- An action that is executed. -/
def write (jsonText : Json → String) (nowMs : ℤ) (nodes : StandingTable fold) :
    StandingAction → StandingTable fold
  | .register rec tokenHash proxyHash => upsertNode jsonText nowMs nodes rec tokenHash proxyHash
  | .deregister nodeId => nodes.delete (fold nodeId)
  | .setReputationScore nodeId score => setReputationScore nodes nodeId score

variable {jsonText : Json → String} {nowMs : ℤ} {nodes : StandingTable fold}

/-- **A row has the times it had, or is new and has none.** -/
theorem times_write {a : StandingAction} {k : String} {r : Standing}
    (h : (write jsonText nowMs nodes a).find k = some r) :
    (∃ old, nodes.find k = some old ∧ r.createdAtMs = old.createdAtMs
        ∧ r.registeredAtMs = old.registeredAtMs)
      ∨ r.createdAtMs = none := by
  cases a with
  | register rec tokenHash proxyHash =>
    simp only [write, upsertNode] at h
    split at h
    · next new hnew =>
      have hfind := (Table.find_upsert nodes new (fun old => rfl : ∀ old : Standing,
        fold ((fun old : Standing => old) old).id = fold old.id) k).symm.trans h
      split at hfind
      · next hk =>
        subst hk
        obtain rfl := Option.some.inj hfind
        cases hold : nodes.find (fold new.id) with
        | none => exact Or.inr (Standing.createdAtMs_standingRow hnew)
        | some old => exact Or.inl ⟨old, rfl, rfl, rfl⟩
      · exact Or.inl ⟨r, hfind, rfl, rfl⟩
    · exact Or.inl ⟨r, h, rfl, rfl⟩
  | deregister nodeId =>
    have hfind := (Table.find_delete nodes (fold nodeId) k).symm.trans h
    split at hfind
    · exact absurd hfind (by simp)
    · exact Or.inl ⟨r, hfind, rfl, rfl⟩
  | setReputationScore nodeId score =>
    have hfind := (Table.find_update nodes (fold nodeId) k (fun r => rfl : ∀ r : Standing,
      fold ({ r with reputationScore := score } : Standing).id = fold r.id)).symm.trans h
    split at hfind
    · obtain ⟨old, hold, rfl⟩ := Option.map_eq_some_iff.mp hfind
      exact Or.inl ⟨old, hold, rfl, rfl⟩
    · exact Or.inl ⟨r, hfind, rfl, rfl⟩

/-- No row has a time. -/
def Untimed (nodes : StandingTable fold) : Prop :=
  ∀ k r, nodes.find k = some r → r.createdAtMs = none

/-- **Registrations give no row a time.** -/
theorem untimed_write (h : nodes.Untimed) (a : StandingAction) :
    (write jsonText nowMs nodes a).Untimed := by
  intro k r hr
  rcases times_write hr with ⟨old, hold, hcreated, -⟩ | hnone
  · exact hcreated.trans (h k old hold)
  · exact hnone

theorem untimed_empty : Untimed (Table.empty _ : StandingTable fold) :=
  fun _ _ h => absurd h (by simp)

/-- The times of the rows are those of their registrations. -/
def Truthful (nodes : StandingTable fold) : Prop :=
  ∀ k r t, nodes.find k = some r → r.createdAtMs = some t → t = r.registeredAtMs

theorem truthful_write (h : nodes.Truthful) (a : StandingAction) :
    (write jsonText nowMs nodes a).Truthful := by
  intro k r t hr ht
  rcases times_write hr with ⟨old, hold, hcreated, hregistered⟩ | hnone
  · rw [hregistered]
    exact h k old t hold (hcreated.symm.trans ht)
  · exact absurd (hnone.symm.trans ht) (Option.some_ne_none t).symm

end StandingTable

namespace Sample

/-- A node that was registered at the start, with the time of its row. -/
def timedNode (nodeId : String) : Standing := ⟨nodeId, 3 / 5, 100, some 0, 0⟩

/-- Four days after the start. -/
def fourDays : ℤ := 4 * 86400000

end Sample
