import IicpDirectory.DiscoveryPolicy
import IicpDirectory.Relations
import IicpDirectory.Seed.Prices

/-!
# What a row of the tables is listed as

A node that registers declares when it is available and what it costs. Both are
stored, and a discovery reads them back: the share of the first window that
contains the time of the day, and the multiplier of the price. On the way some
values change.

A price is bounded by the models it is for, which is meant. A window is looked
up by `BETWEEN`, and what is not positive is read as a default. For windows
within a day, for shares and for prices that are positive, a consumer sees what
was declared (`declared_reaches_consumer`).
-/

/-! ## Rows -/

/-- **The columns of `nodes` that a discovery selects** beside those of
`NodeRow`. -/
structure NodeColumns where
  region : String
  reputationEpoch : Option String
  maxConcurrent : ℕ
  avgLatencyMs : ℚ
  exposureMode : Option String
  transportEndpoint : Option String
  creditCostMultiplier : ℚ
  pricingModel : String
  attested : Bool
  relayCapable : Bool
  backend : Option String
  sdkLanguage : Option String
  implementationName : Option String
  implementationVersion : Option String
  sdkCompatibilityVersion : Option String
  sdkVersion : Option String
  supportedReceiptProfiles : Option Json
  backendStability : Option Json
  pricingCreditsPer1000 : Option ℚ
  cxPublicKey : Option Json
  policyManifest : Option Json

namespace NodeColumns

/-- Those of a node that is new, where a statement does not name them. -/
def unset : NodeColumns where
  region := ""
  reputationEpoch := none
  maxConcurrent := 0
  avgLatencyMs := 0
  exposureMode := none
  transportEndpoint := none
  creditCostMultiplier := 1
  pricingModel := "per_token"
  attested := false
  relayCapable := false
  backend := none
  sdkLanguage := none
  implementationName := none
  implementationVersion := none
  sdkCompatibilityVersion := none
  sdkVersion := none
  supportedReceiptProfiles := none
  backendStability := none
  pricingCreditsPer1000 := none
  cxPublicKey := none
  policyManifest := none

/-- `upsert_node`: those of a node that was there are updated, but for what a
registration does not set again. -/
def registered (rec : NodeRecord) (old : Option NodeColumns) : NodeColumns :=
  { old.getD { unset with
      maxConcurrent := rec.node.maxConcurrent
      reputationEpoch := rec.node.reputationEpoch } with
    region := rec.node.region
    relayCapable := rec.node.relayCapable.getD false
    backend := rec.node.backend
    sdkLanguage := rec.node.sdkLanguage
    implementationName := rec.node.implementationName
    implementationVersion := rec.node.implementationVersion
    sdkCompatibilityVersion := rec.node.sdkCompatibilityVersion
    sdkVersion := rec.node.sdkVersion
    supportedReceiptProfiles :=
      if rec.node.consumerCosignatureReady then
        some (Json.ofStrings ["consumer_cosignature_v1"]) else none
    policyManifest := rec.node.policyManifest
    cxPublicKey := rec.node.publicKey
    creditCostMultiplier := rec.node.creditCostMultiplier
    pricingModel := rec.node.pricingModel.getD "" }

end NodeColumns

/-- `tier_from_score`. -/
def tierFromScore (score : ℚ) : String :=
  if 85 / 100 ≤ score then "platinum"
  else if 65 / 100 ≤ score then "gold"
  else if 40 / 100 ≤ score then "silver"
  else "bronze"

/-- What is not positive counts as one. -/
def positiveOr1 (q : ℚ) : ℚ := if 0 < q then q else 1

/-- **`From<NodeRow>`**, and the capabilities that a discovery adds. -/
def Node.ofRow (row : NodeRow) (columns : NodeColumns) (availabilityScore : ℚ)
    (capabilities : List EffectiveCapability) : Node where
  nodeId := row.id
  endpoint := row.endpoint
  region := columns.region
  score := row.reputationScore
  available := row.available
  load := row.load
  activeJobs := row.activeJobs
  maxConcurrent := columns.maxConcurrent
  reputationScore := row.reputationScore
  reputationModel := some row.reputationModel
  reputationEpoch := columns.reputationEpoch
  latencyEstimateMs :=
    if 0 < columns.avgLatencyMs then some (min ⌊columns.avgLatencyMs⌋.toNat (2 ^ 32 - 1)) else none
  completedTasksCount := row.tasksTotal
  tasksFailed := row.tasksFailed
  healthLabel := none
  exposureMode := columns.exposureMode
  reputationTier := some (tierFromScore row.reputationScore)
  transportEndpoint := columns.transportEndpoint
  cipConformanceLevel := some "CIP-None"
  models := InMemoryRepo.sortDedup (capabilities.flatMap EffectiveCapability.models)
  supportedProfiles :=
    InMemoryRepo.sortDedup (capabilities.flatMap EffectiveCapability.supportedProfiles)
  capabilities := capabilities
  pricing := none
  natType := none
  transportMethod := none
  relayCapable := some columns.relayCapable
  sdkLanguage := columns.sdkLanguage
  implementationName := columns.implementationName
  implementationVersion := columns.implementationVersion
  sdkCompatibilityVersion := columns.sdkCompatibilityVersion.or columns.sdkVersion
  sdkVersion := columns.sdkCompatibilityVersion.or columns.sdkVersion
  consumerCosignatureReady :=
    (columns.supportedReceiptProfiles.bind (Json.asVec Json.asStr)).any fun profiles =>
      profiles.contains "consumer_cosignature_v1"
  backend := columns.backend
  addressFamily := none
  cipPolicy := some (.object
    [("allow_remote_inference", .bool false), ("allow_tool_execution", .bool false),
     ("allow_file_access", .bool false), ("pricing_credits_per_1000", .null)])
  publicKey := columns.cxPublicKey
  transportMetadata := none
  quantization := []
  inferenceEngine := []
  creditCostMultiplier := positiveOr1 columns.creditCostMultiplier
  pricingModel := some columns.pricingModel
  attested := columns.attested
  transport := []
  reachabilitySignal :=
    PendingRegistration.reachabilityFromFlags row.publicReachable columns.relayCapable
  operatorPubkey := none
  operatorDisplayName := none
  operatorFingerprint := none
  publicListing := false
  operatorUrl := none
  policyManifest := columns.policyManifest
  operatorVerified := false
  operatorTrustTier := none
  healthModels := row.healthModels
  routingPolicy :=
    { availabilityScore := positiveOr1 availabilityScore
      backendState := columns.backendStability.bind fun v => v.getStr "backend_state"
      pricingCreditsPer1000 := columns.pricingCreditsPer1000 }

/-! ## Tables -/

/-- **The tables of a discovery**: those of a registration, and the further
columns of `nodes`, by the identity of the row. -/
structure ListingTables (fold : String → String) where
  tables : NodeTables fold
  columns : String → NodeColumns

/-- The time of a window's ends, in seconds of the day: hours and minutes. -/
def Admission.clock (value : String) : Option ℕ :=
  match value.toList.splitOn ':' with
  | [hours, minutes] => do
    let h ← (parseU8 hours).filter (· ≤ 23)
    let m ← (parseU8 minutes).filter (· ≤ 59)
    return 3600 * h + 60 * m
  | _ => none

/-- What is valid has a time. -/
theorem Admission.clock_isSome (value : String) : (clock value).isSome = validHhmm value := by
  unfold clock validHhmm
  generalize value.toList.splitOn ':' = parts
  match parts with
  | [hours, minutes] =>
    dsimp only
    generalize parseU8 hours = h
    generalize parseU8 minutes = m
    cases h with
    | none => rfl
    | some h =>
      cases m with
      | none => by_cases hh : h ≤ 23 <;> simp [Option.filter, hh]
      | some m => by_cases hh : h ≤ 23 <;> by_cases hm : m ≤ 59 <;> simp [Option.filter, hh, hm]
  | [] => rfl
  | [_] => rfl
  | _ :: _ :: _ :: _ => rfl

namespace ListingTables

variable {fold : String → String}

/-! ### Registrations -/

/-- `upsert_node`, with all its columns. -/
def upsertNode (rec : NodeRecord) (s : ListingTables fold) : Option (ListingTables fold) :=
  (s.tables.upsertNode rec).map fun tables =>
    { tables := tables
      columns := Function.update s.columns (fold rec.node.nodeId)
        (NodeColumns.registered rec
          ((s.tables.nodes.find rec.node.nodeId).map fun _ => s.columns (fold rec.node.nodeId))) }

/-- A statement on the other tables. -/
def onTables (statement : NodeTables fold → Option (NodeTables fold)) (s : ListingTables fold) :
    Option (ListingTables fold) :=
  (statement s.tables).map fun tables => { s with tables := tables }

/-- **`registration_store::persist`**, with all the columns. -/
def register (time : String → Option ℕ) (hashed : Bool) (server : Server) (rec : NodeRecord)
    (s : ListingTables fold) : Bool × ListingTables fold :=
  if hashed then
    Transaction.run server
      (upsertNode rec :: (NodeTables.replaceRelations time rec).map onTables) s
  else (false, s)

/-- The statements on the other tables leave the columns. -/
theorem foldlM_onTables {body : List (NodeTables fold → Option (NodeTables fold))}
    {s s' : ListingTables fold}
    (h : (body.map onTables).foldlM (fun s statement => statement s) s = some s') :
    body.foldlM (fun s statement => statement s) s.tables = some s'.tables
      ∧ s'.columns = s.columns := by
  induction body generalizing s with
  | nil =>
    obtain rfl := Option.some.inj h
    exact ⟨rfl, rfl⟩
  | cons statement rest ih =>
    obtain ⟨mid, hmid, hrest⟩ := Option.bind_eq_some_iff.mp h
    obtain ⟨tables, htables, rfl⟩ := Option.map_eq_some_iff.mp hmid
    obtain ⟨hfold, hcolumns⟩ := ih hrest
    exact ⟨Option.bind_eq_some_iff.mpr ⟨tables, htables, hfold⟩, hcolumns⟩

/-- **What a registration leaves**, if it is seen to succeed: its rows, and its
columns. -/
theorem replaced_of_register {time : String → Option ℕ} {hashed : Bool} {server : Server}
    {rec : NodeRecord} {s s' : ListingTables fold}
    (h : s.register time hashed server rec = (true, s')) :
    NodeTables.Storable fold time rec ∧ NodeTables.Replaced time rec s.tables s'.tables
      ∧ s'.columns = Function.update s.columns (fold rec.node.nodeId)
        (NodeColumns.registered rec
          ((s.tables.nodes.find rec.node.nodeId).map fun _ => s.columns (fold rec.node.nodeId))) := by
  unfold register at h
  cases hashed with
  | false => exact absurd (congrArg Prod.fst h) Bool.false_ne_true
  | true =>
    rw [if_pos rfl] at h
    have hfold := Transaction.foldlM_of_reached (Transaction.run_eq_true_iff.mp h).1
    obtain ⟨mid, hmid, hrest⟩ := Option.bind_eq_some_iff.mp hfold
    obtain ⟨tables, htables, rfl⟩ := Option.map_eq_some_iff.mp hmid
    obtain ⟨hreplaced, hcolumns⟩ := foldlM_onTables hrest
    have hpersisted := NodeTables.persist_eq_some_iff.mp
      (Option.bind_eq_some_iff.mpr ⟨tables, htables, hreplaced⟩)
    exact ⟨hpersisted.1, hpersisted.2, hcolumns⟩

/-! ### Queries -/

/-- `CURTIME() BETWEEN start_time AND end_time`. -/
def between (curtime : ℕ) (w : WindowRow) : Bool :=
  decide (w.startTime ≤ curtime) && decide (curtime ≤ w.endTime)

/-- **The availability of a discovery**: the share of the first window that the
time of the day is between, a half if there is none, or one without windows. -/
def availabilityScore (windows : List WindowRow) (curtime : ℕ) : ℚ :=
  match windows.find? (between curtime) with
  | some w => w.share
  | none => if windows.isEmpty then 1 else 1 / 2

/-- `capability_records_for_nodes`, those of a row. -/
def recordsFor (s : ListingTables fold) (intent : String) (row : NodeRow) :
    List EffectiveCapability :=
  ((s.tables.capabilities.rows.filter fun r =>
    fold r.intent == fold intent && r.nodeId == row.id)).map CapabilityRow.effective

/-- The node a row is listed as. -/
def nodeOf (s : ListingTables fold) (intent : String) (curtime : ℕ) (row : NodeRow) : Node :=
  Node.ofRow row (s.columns (fold row.id)) (availabilityScore (s.tables.windows row.id) curtime)
    (s.recordsFor intent row)

/-- **`MySqlRepo::discover`.** -/
def discover (s : ListingTables fold) (q : DiscoverQuery) (nowMs : ℤ) (curtime : ℕ) : List Node :=
  (s.tables.discover q nowMs).map (s.nodeOf q.intent curtime)

/-- The rows of `quote_multipliers`: a node, as often as it has a row for the
intent, and its price. -/
def quoted (s : ListingTables fold) (intent : String) (minReputation : ℚ) (nowMs : ℤ) :
    List (String × ℚ) :=
  (s.tables.nodes.nodes.rows.filter fun row =>
      row.available && decide (minReputation ≤ row.reputationScore)
        && row.lastSeenMs.all fun seen => MySqlRepo.wholeSeconds nowMs - 90000 ≤ seen).flatMap fun row =>
    ((s.tables.capabilityRows row.id).filter fun r => fold r.intent == fold intent).map fun _ =>
      (row.id, (s.columns (fold row.id)).creditCostMultiplier)

/-- **`quote_multipliers`.** -/
def quoteMultipliers (s : ListingTables fold) (intent : String) (minReputation : ℚ) (nowMs : ℤ) :
    List ℚ :=
  (s.quoted intent minReputation nowMs).map Prod.snd

end ListingTables

/-! ## What was declared -/

namespace AvailabilityWindow

/-- The window begins later than it ends: it spans midnight. -/
def OverMidnight (w : AvailabilityWindow) : Prop :=
  ∃ start stop, Admission.clock w.start = some start ∧ Admission.clock w.stop = some stop
    ∧ stop < start

/-- **The window contains a time of the day.** -/
def contains (curtime : ℕ) (w : AvailabilityWindow) : Bool :=
  match Admission.clock w.start, Admission.clock w.stop with
  | some start, some stop =>
    if start ≤ stop then decide (start ≤ curtime) && decide (curtime ≤ stop)
    else decide (start ≤ curtime) || decide (curtime ≤ stop)
  | _, _ => false

/-- **The availability that is declared** for a time of the day: the share of the
first window that contains it, a half if there is none, or one without
windows. -/
def declaredShare (windows : List AvailabilityWindow) (curtime : ℕ) : ℚ :=
  match windows.find? (contains curtime) with
  | some w => w.share
  | none => if windows.isEmpty then 1 else 1 / 2

end AvailabilityWindow

/-- **The server reads a time as it is meant**, if it takes it: hours and
minutes. -/
def ReadsClock (time : String → Option ℕ) : Prop :=
  ∀ text seconds read, Admission.clock text = some seconds → time text = some read → read = seconds

namespace ListingTables

open Admission NodeTables

variable {fold : String → String} {time : String → Option ℕ}

/-- A time is between the ends of a row only if the window contains it, and of a
window within a day also if. -/
theorem between_windowRow (hclock : ReadsClock time) {nodeId : String} {w : AvailabilityWindow}
    (hvalid : validHhmm w.start = true ∧ validHhmm w.stop = true) {row : WindowRow}
    (hrow : windowRow time nodeId w = some row) (curtime : ℕ) :
    row.share = w.share
      ∧ (between curtime row = true → w.contains curtime = true)
      ∧ (¬ w.OverMidnight → w.contains curtime = true → between curtime row = true) := by
  obtain ⟨start, hstart⟩ := Option.isSome_iff_exists.mp ((clock_isSome w.start).trans hvalid.1)
  obtain ⟨stop, hstop⟩ := Option.isSome_iff_exists.mp ((clock_isSome w.stop).trans hvalid.2)
  obtain ⟨startRead, hstartRead, hrow⟩ := Option.bind_eq_some_iff.mp hrow
  obtain ⟨stopRead, hstopRead, hrow⟩ := Option.bind_eq_some_iff.mp hrow
  obtain rfl := hclock _ _ _ hstart hstartRead
  obtain rfl := hclock _ _ _ hstop hstopRead
  obtain rfl := Option.some.inj hrow
  unfold AvailabilityWindow.contains between
  rw [hstart, hstop]
  dsimp only
  refine ⟨rfl, fun hbetween => ?_, fun hday hcontains => ?_⟩
  · rw [Bool.and_eq_true, decide_eq_true_eq, decide_eq_true_eq] at hbetween
    rw [if_pos (hbetween.1.trans hbetween.2), Bool.and_eq_true, decide_eq_true_eq,
      decide_eq_true_eq]
    exact hbetween
  · have hle : startRead ≤ stopRead := not_lt.mp fun hlt =>
      hday ⟨startRead, stopRead, hstart, hstop, hlt⟩
    rwa [if_pos hle] at hcontains

/-- **The first row that a time is between is that of the first window that
contains it**, if this one is within a day. -/
theorem find_windowRows (hclock : ReadsClock time) {nodeId : String} {curtime : ℕ}
    {windows : List AvailabilityWindow} (hvalid : validAvailability windows = true)
    (hrows : ∀ w ∈ windows, (windowRow time nodeId w).isSome = true)
    (hday : ∀ w, windows.find? (·.contains curtime) = some w → ¬ w.OverMidnight) :
    (windows.filterMap (windowRow time nodeId)).find? (between curtime)
      = (windows.find? (·.contains curtime)).bind (windowRow time nodeId) := by
  induction windows with
  | nil => rfl
  | cons w rest ih =>
    unfold validAvailability at hvalid ih
    rw [List.all_cons, Bool.and_eq_true, Bool.and_eq_true, Bool.and_eq_true] at hvalid
    obtain ⟨⟨hends, -⟩, hrest⟩ := hvalid
    obtain ⟨row, hrow⟩ := Option.isSome_iff_exists.mp (hrows w List.mem_cons_self)
    obtain ⟨-, honly, hif⟩ := between_windowRow hclock hends hrow curtime
    rw [List.filterMap_cons_some hrow]
    by_cases hcontains : w.contains curtime = true
    · have hfirst : (w :: rest).find? (·.contains curtime) = some w :=
        List.find?_cons_of_pos hcontains
      rw [hfirst, List.find?_cons_of_pos (hif (hday w hfirst) hcontains), Option.bind_some, hrow]
    · have hskip : (w :: rest).find? (·.contains curtime) = rest.find? (·.contains curtime) :=
        List.find?_cons_of_neg hcontains
      rw [hskip] at hday ⊢
      rw [List.find?_cons_of_neg fun hbetween => hcontains (honly hbetween)]
      exact ih hrest (fun v hv => hrows v (List.mem_cons_of_mem w hv)) hday

/-- So the availability of the rows is what was declared. -/
theorem availabilityScore_windowRows (hclock : ReadsClock time) {nodeId : String} {curtime : ℕ}
    {windows : List AvailabilityWindow} (hvalid : validAvailability windows = true)
    (hrows : ∀ w ∈ windows, (windowRow time nodeId w).isSome = true)
    (hday : ∀ w, windows.find? (·.contains curtime) = some w → ¬ w.OverMidnight) :
    availabilityScore (windows.filterMap (windowRow time nodeId)) curtime
      = AvailabilityWindow.declaredShare windows curtime := by
  have hempty : (windows.filterMap (windowRow time nodeId)).isEmpty = windows.isEmpty := by
    cases windows with
    | nil => rfl
    | cons w rest =>
      obtain ⟨row, hrow⟩ := Option.isSome_iff_exists.mp (hrows w List.mem_cons_self)
      rw [List.filterMap_cons_some hrow]
      rfl
  unfold availabilityScore AvailabilityWindow.declaredShare
  rw [find_windowRows hclock hvalid hrows hday, hempty]
  cases hfind : windows.find? (·.contains curtime) with
  | none => rfl
  | some w =>
    have hw := List.mem_of_find?_eq_some hfind
    obtain ⟨row, hrow⟩ := Option.isSome_iff_exists.mp (hrows w hw)
    have hends := List.all_eq_true.mp hvalid w hw
    rw [Bool.and_eq_true, Bool.and_eq_true] at hends
    rw [Option.bind_some, hrow]
    exact (between_windowRow hclock hends.1 hrow curtime).1

/-- A positive price is bounded to a positive one. -/
theorem boundedPricing_pos (models : List String) {declared : Option ℚ}
    (h : ∀ d ∈ declared, 0 < d) : 0 < Pricing.boundedPricing models declared := by
  cases declared with
  | none => exact one_pos
  | some d =>
    refine lt_min (h d rfl) (mul_pos ?_ three_pos)
    unfold Pricing.sizeWeight
    split
    · exact one_pos
    · split_ifs <;> norm_num

/-- The windows of a node go by its identity under the collation. -/
theorem windows_congr (s : NodeTables fold) {nodeId nodeId' : String}
    (h : fold nodeId = fold nodeId') : s.windows nodeId = s.windows nodeId' := by
  unfold windows
  rw [h]

end ListingTables

/-- **A node is shown as it was declared**, where the first window that contains
the time lies within a day and has a positive share, and where the price is
positive; a price is bounded by the models. -/
structure ShownAsDeclared (p : PendingRegistration) (curtime : ℕ) (n : Node) : Prop where
  availability : (∀ w, p.request.availability.find? (·.contains curtime) = some w →
      ¬ w.OverMidnight ∧ 0 < w.share) →
    n.routingPolicy.availabilityScore
      = AvailabilityWindow.declaredShare p.request.availability curtime
  price : ∀ pricing ∈ p.request.pricing, 0 < pricing.creditCostMultiplier →
    n.creditCostMultiplier = min pricing.creditCostMultiplier (Pricing.ceiling p.node.models)
  basePrice : p.request.pricing = none → n.creditCostMultiplier = 1

namespace ListingTables

open Admission NodeTables

variable {fold : String → String} {time : String → Option ℕ}

/-- **What was declared reaches the consumer**: a node that was registered is
shown as it was declared, and a quote has the price that is shown. -/
theorem declared_reaches_consumer (hclock : ReadsClock time) {p p' : PendingRegistration}
    (havailability : validAvailability p.request.availability = true)
    (hpricing : Prices.admitted p = some p') {hashed : Bool} {server : Server}
    {s s' : ListingTables fold}
    (hstored : s.register time hashed server p'.record = (true, s')) :
    ∀ q nowMs curtime, ∀ n ∈ s'.discover q nowMs curtime, fold n.nodeId = fold p'.nodeId →
      ShownAsDeclared p curtime n
        ∧ ((∀ pricing ∈ p.request.pricing, 0 < pricing.creditCostMultiplier) →
          ∀ intent minReputation laterMs, ∀ quote ∈ s'.quoted intent minReputation laterMs,
            fold quote.1 = fold p'.nodeId → quote.2 = n.creditCostMultiplier) := by
  obtain ⟨hstorable, hreplaced, hcolumns⟩ := replaced_of_register hstored
  set bounded := Pricing.boundedPricing p.node.models
    (p.request.pricing.map fun x => x.creditCostMultiplier)
  obtain rfl : p' = { p with pricingMultiplier := bounded } := by
    unfold Prices.admitted at hpricing
    split at hpricing
    · exact (Option.some.inj hpricing).symm
    · exact absurd hpricing (by simp)
  have hprice : ∀ nodeId, fold nodeId = fold p.nodeId →
      (s'.columns (fold nodeId)).creditCostMultiplier = bounded := by
    intro nodeId hid
    rw [hcolumns, hid]
    show (Function.update s.columns (fold p.nodeId) _ (fold p.nodeId)).creditCostMultiplier = _
    rw [Function.update_self]
    rfl
  intro q nowMs curtime n hn hid
  obtain ⟨row, -, rfl⟩ := List.mem_map.mp hn
  have hshown : (s'.nodeOf q.intent curtime row).creditCostMultiplier = positiveOr1 bounded :=
    congrArg positiveOr1 (hprice row.id hid)
  have hpositive : (∀ d ∈ p.request.pricing.map fun x => x.creditCostMultiplier, 0 < d) →
      positiveOr1 bounded = bounded := fun h => if_pos (boundedPricing_pos _ h)
  refine ⟨⟨fun hfirst => ?_, fun pricing hpricing hpos => ?_, fun hnone => ?_⟩,
    fun hpos intent minReputation laterMs quote hquote hquoteid => ?_⟩
  · have hwindows : s'.tables.windows row.id
        = p.request.availability.filterMap (windowRow time p.nodeId) :=
      (windows_congr _ hid).trans (windows_of_replaced hreplaced)
    have hscore : availabilityScore
          (p.request.availability.filterMap (windowRow time p.nodeId)) curtime
        = AvailabilityWindow.declaredShare p.request.availability curtime :=
      availabilityScore_windowRows hclock havailability hstorable.windows
        fun w hw => (hfirst w hw).1
    have hlisted : (s'.nodeOf q.intent curtime row).routingPolicy.availabilityScore
        = positiveOr1 (availabilityScore (s'.tables.windows row.id) curtime) := rfl
    rw [hlisted, hwindows]
    refine (congrArg positiveOr1 hscore).trans (if_pos ?_)
    unfold AvailabilityWindow.declaredShare
    split
    · next w hw => exact (hfirst w hw).2
    · split <;> norm_num
  · obtain hsome := Option.mem_def.mp hpricing
    have hall : ∀ d ∈ p.request.pricing.map fun x => x.creditCostMultiplier, 0 < d := by
      rw [hsome]
      intro d hd
      obtain rfl := Option.some.inj hd
      exact hpos
    rw [hshown, hpositive hall]
    show Pricing.boundedPricing p.node.models _ = _
    rw [hsome]
    rfl
  · have hbase : bounded = 1 := by
      show Pricing.boundedPricing p.node.models _ = _
      rw [hnone]
      rfl
    rw [hshown, hbase]
    exact if_pos one_pos
  · have hall : ∀ d ∈ p.request.pricing.map fun x => x.creditCostMultiplier, 0 < d := by
      intro d hd
      obtain ⟨pricing, hmem, rfl⟩ := Option.map_eq_some_iff.mp hd
      exact hpos pricing hmem
    obtain ⟨other, -, hmem⟩ := List.mem_flatMap.mp hquote
    obtain ⟨_, -, rfl⟩ := List.mem_map.mp hmem
    rw [hshown, hpositive hall]
    exact hprice other.id hquoteid

end ListingTables

namespace Sample

/-- A registration with windows, models and a price. -/
def available (windows : List AvailabilityWindow) (models : List String) (declared : Option ℚ) :
    PendingRegistration :=
  { offer "n1" models declared with
    request := { (offer "n1" models declared).request with availability := windows } }

/-- Tables without a node. -/
def noListing : ListingTables id := ⟨.empty id, fun _ => .unset⟩

/-- What a registration leaves. -/
def afterOffer (p : PendingRegistration) : Bool × ListingTables id :=
  noListing.register Admission.clock true .willing ((Prices.admitted p).getD p).record

/-- The availability and the price a discovery shows, at a time of the day. -/
def shownAt (p : PendingRegistration) (curtime : ℕ) : List (ℚ × ℚ) :=
  ((afterOffer p).2.discover ⟨"urn:iicp:intent:llm:chat:v1", 50, none⟩ 0 curtime).map fun n =>
    (n.routingPolicy.availabilityScore, n.creditCostMultiplier)

/-- A window by day, and one by night. -/
def byDay (share : ℚ) : List AvailabilityWindow := [⟨"08:00", "18:00", share⟩]

/-- The window by night, over midnight. -/
def byNight : List AvailabilityWindow := [⟨"22:00", "02:00", 3 / 4⟩]

end Sample

namespace ListingTables

open Admission

theorem declared_reaches_consumer_sample :
    ((Sample.afterOffer (Sample.available (Sample.byDay (3 / 4)) [] (some 2))).2.discover
        ⟨"urn:iicp:intent:llm:chat:v1", 50, none⟩ 0 43200).map Node.nodeId = ["n1"]
      ∧ ∀ q nowMs curtime,
        ∀ n ∈ (Sample.afterOffer (Sample.available (Sample.byDay (3 / 4)) [] (some 2))).2.discover
          q nowMs curtime,
        n.nodeId = "n1" →
          ShownAsDeclared (Sample.available (Sample.byDay (3 / 4)) [] (some 2)) curtime n
            ∧ ((∀ pricing ∈ (Sample.available (Sample.byDay (3 / 4)) [] (some 2)).request.pricing,
                0 < pricing.creditCostMultiplier) →
              ∀ intent minReputation laterMs,
                ∀ quote ∈ (Sample.afterOffer
                  (Sample.available (Sample.byDay (3 / 4)) [] (some 2))).2.quoted
                    intent minReputation laterMs,
                quote.1 = "n1" → quote.2 = n.creditCostMultiplier) :=
  ⟨by decide +kernel, @declared_reaches_consumer id clock
    (fun _ _ _ hclock hread => Option.some.inj (hread.symm.trans hclock))
    (Sample.available (Sample.byDay (3 / 4)) [] (some 2)) _ (by decide +kernel) rfl true .willing
    Sample.noListing _ (Prod.ext (by decide +kernel) rfl)⟩

/-- **What is declared is not always shown**: a price is bounded by the models; a
window over midnight is missed, and a share or a price of zero is shown as one,
while the quote has the zero. -/
theorem declared_otherwise_shown :
    Sample.shownAt (Sample.available (Sample.byDay (3 / 4)) ["qwen2.5-0.5b"] (some 25)) 43200
        = [(3 / 4, 3 / 20)]
      ∧ AvailabilityWindow.declaredShare Sample.byNight 82800 = 3 / 4
      ∧ Sample.shownAt (Sample.available Sample.byNight [] (some 2)) 82800 = [(1 / 2, 2)]
      ∧ AvailabilityWindow.declaredShare (Sample.byDay 0) 43200 = 0
      ∧ Sample.shownAt (Sample.available (Sample.byDay 0) [] (some 0)) 43200 = [(1, 1)]
      ∧ (Sample.afterOffer (Sample.available (Sample.byDay 0) [] (some 0))).2.quoteMultipliers
        "urn:iicp:intent:llm:chat:v1" 0 0 = [0] := by
  decide +kernel

end ListingTables
