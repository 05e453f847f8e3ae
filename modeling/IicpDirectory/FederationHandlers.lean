import IicpDirectory.Replica.Apply

/-!
# What a seed serves

Two of the seed's routes feed a replica: the tail of the event log, a page
at a time, and the snapshot, which is the node records and the number of
the last event. Here are their bodies, as `federation_handlers.rs` builds
them from what the repository returns. The replica's readings of them are in
`Replica`; `ofJson_eventJson` says that a row of the log is read back as it
was written.
-/

namespace FederationHandlers

open Replica

/-! ## The event tail -/

/-- A row of the log, as the tail writes it. -/
def eventJson (directoryDid : String) (r : EventRow) : Json :=
  .object
    [("event_id", .string r.eventId), ("event_type", .string r.eventType),
     ("seq", Json.ofInt r.seq), ("ts_ms", Json.ofInt r.tsMs), ("node_id", .string r.nodeId),
     ("payload", r.payload), ("prev_hash", Json.ofOptionStr r.prevHash),
     ("sig", Json.ofOptionStr r.sig), ("signer_did", .string directoryDid)]

/-- The number of rows of a page: a hundred unless asked otherwise, between
one and five hundred. -/
def pageLimit (limit : Option ℕ) : ℕ := min (max (limit.getD 100) 1) 500

/-- **A page of the tail**: the rows after a number, the number of the last,
and whether the page is full. -/
def events (directoryDid : String) (eventsSince : ℤ → ℕ → List EventRow)
    (sinceSeq : Option ℤ) (limit : Option ℕ) : Json :=
  let since := sinceSeq.getD 0
  let rows := eventsSince since (pageLimit limit)
  .object
    [("events", .array (rows.map (eventJson directoryDid))),
     ("next_seq", Json.ofInt ((rows.getLast?.map EventRow.seq).getD since)),
     ("has_more", .bool (rows.length == pageLimit limit))]

/-- The event a replica reads from a row. -/
def federatedEvent (directoryDid : String) (r : EventRow) : FederatedEvent where
  eventId := r.eventId
  eventType := r.eventType
  serviceId := none
  seq := r.seq
  tsMs := r.tsMs
  nodeId := some r.nodeId
  payload := r.payload
  prevHash := r.prevHash
  sig := r.sig
  signerDid := some directoryDid

/-- **A row is read back as it was written**, numbers in the range of the
wire. -/
theorem ofJson_eventJson {directoryDid : String} {r : EventRow} (hseq : r.seq < 2 ^ 63)
    (hts : r.tsMs < 2 ^ 63) :
    FederatedEvent.ofJson (eventJson directoryDid r) = some (federatedEvent directoryDid r) := by
  simp [FederatedEvent.ofJson, eventJson, federatedEvent, Json.isStruct, Json.fieldReq,
    Json.fieldOr, Json.field, Json.asI64_ofInt hseq, Json.asI64_ofInt hts, guard]

/-! ## The snapshot -/

/-- The node row of a record. -/
def snapshotNodeJson (r : NodeRecord) : Json :=
  .object
    [("node_id", .string r.node.nodeId), ("endpoint", .string r.node.endpoint),
     ("region", .string r.node.region), ("available", .bool r.node.available),
     ("reputation_score", .number (.float r.node.reputationScore)),
     ("load", .number (.float r.node.load)),
     ("active_jobs", .number (.posInt r.node.activeJobs)),
     ("exposure_mode", Json.ofOptionStr r.node.exposureMode),
     ("cip_policy", Json.ofOption r.node.cipPolicy),
     ("pricing", Json.ofOption r.node.pricing)]

/-- The capability rows of a record: its variants, or its bare intents
where it has none. -/
def snapshotCapabilityJson (r : NodeRecord) : List Json :=
  if r.capabilities.isEmpty then
    r.intents.map (fun intent => .object
      [("node_id", .string r.node.nodeId), ("intent", .string intent),
       ("supported_profiles",
         Json.ofStrings ((r.capabilityProfiles.lookup intent).getD []))])
  else
    r.capabilities.map (fun c =>
      .object (("node_id", .string r.node.nodeId)
        :: (c.members.filter (fun e => e.1 ≠ "node_id"))))

/-- **The body of a snapshot**: of the records and the log as they were
read. -/
def snapshot (L : Libs) (records : List NodeRecord) (log : List EventRow) (tsMs : ℤ) : Json :=
  .object
    [("schema_version", .string "v0.3.0"),
     ("snapshot_seq", Json.ofInt ((log.getLast?.map EventRow.seq).getD 0)),
     ("snapshot_ts_ms", Json.ofInt tsMs),
     ("genesis_hash", Json.ofOptionStr (log.head?.map (fun e => Federation.payloadHash L e.payload))),
     ("nodes", .array (records.map snapshotNodeJson)),
     ("capabilities", .array (records.flatMap snapshotCapabilityJson))]

end FederationHandlers
