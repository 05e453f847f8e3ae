import IicpDirectory.Admission
import IicpDirectory.Foundations.Constrained
import IicpDirectory.Foundations.Transaction
import IicpDirectory.MySqlRepo

/-!
# A registration in the tables of the baseline schema

`MySqlRepo` keeps what the seed does to a node. Here are the columns a
registration fills: those of `nodes` with their widths, the rows of
`capabilities` with their eleven columns of JSON and their unique key, the
rows of `availability_windows`. `persist` writes them statement by statement
in one transaction under a `Server`, and `get` and `discover` read them back.

A column of text is of so many characters. What is longer is refused, except
where only spaces are: these are cut. A column of JSON takes a document of a
hundred levels, with keys of 65535 bytes; it keeps the value and not the
order of the members, to which `Json` gives no meaning. A column of time
takes the literals of the database, a parameter. An identity is compared by
the collation, to which the spaces at its end are nothing, and is kept here
as it is written.

The token hashes always fit: they have the sixty characters of their format.
-/

/-! ## Columns -/

namespace Column

/-- A text a column of that width takes: nothing but spaces is beyond it. -/
def takesText (width : ℕ) (text : String) : Bool := (text.toList.drop width).all (· == ' ')

/-- What it keeps of the text. -/
def cutText (width : ℕ) (text : String) : String := String.ofList (text.toList.take width)

/-- A document a column takes that is so many levels deep. -/
def takesLevels : ℕ → Json → Bool
  | 0, .array _ => false
  | 0, .object _ => false
  | levels + 1, .array items => items.all (takesLevels levels)
  | levels + 1, .object entries =>
    entries.all (fun e => decide (Admission.byteLength e.1 ≤ 65535) && takesLevels levels e.2)
  | _, _ => true

/-- A document a column of JSON takes. -/
def takesJson (v : Json) : Bool := takesLevels 100 v

theorem takesText_of_length_le {width : ℕ} {text : String} (h : text.length ≤ width) :
    takesText width text = true := by
  unfold takesText
  rw [List.drop_eq_nil_of_le (by rwa [String.length_toList])]
  rfl

theorem cutText_of_length_le {width : ℕ} {text : String} (h : text.length ≤ width) :
    cutText width text = text := by
  unfold cutText
  rw [List.take_of_length_le (by rwa [String.length_toList]), String.ofList_toList]

/-- Nor is an optional text that is no longer. -/
theorem map_cutText_of_length_le {width : ℕ} {text : Option String}
    (h : ∀ value ∈ text, value.length ≤ width) : text.map (cutText width) = text := by
  cases text with
  | none => rfl
  | some value => exact congrArg some (cutText_of_length_le (h value rfl))

/-- A text without spaces that is taken is not cut. -/
theorem length_le_of_takesText {width : ℕ} {text : String} (htaken : takesText width text = true)
    (hspace : ' ' ∉ text.toList) : text.length ≤ width := by
  by_contra hlong
  rw [not_le, ← String.length_toList] at hlong
  obtain ⟨c, rest, hdrop⟩ := List.exists_cons_of_ne_nil
    (fun hnil => absurd (List.drop_eq_nil_iff.mp hnil) (not_le.mpr hlong))
  have hmem : c ∈ text.toList.drop width := by
    rw [hdrop]
    exact List.mem_cons_self
  have hc : c = ' ' := by simpa using List.all_eq_true.mp htaken c hmem
  exact hspace (hc ▸ List.mem_of_mem_drop hmem)

/-- A list of texts has one level. -/
theorem takesJson_ofStrings (items : List String) : takesJson (Json.ofStrings items) = true := by
  show (items.map Json.string).all (takesLevels 99) = true
  rw [List.all_map]
  exact List.all_eq_true.mpr fun _ _ => rfl

end Column

/-! ## The rows -/

/-- A row of `capabilities`. -/
structure CapabilityRow where
  nodeId : String
  intent : String
  capabilityVersion : Option String := none
  capabilityPhase : Option ℕ := none
  variantId : Option String := none
  models : Json
  maxTokens : ℕ
  inputModalities : Option Json := none
  outputModalities : Option Json := none
  features : Option Json := none
  executionCapabilities : Option Json := none
  capabilityLimits : Option Json := none
  supportedProfiles : Option Json := none
  claimProvenance : Option Json := none
  extensions : Option Json := none
  quantization : Option String := none
  inferenceEngine : Option String := none

/-- A row of `availability_windows`. -/
structure WindowRow where
  nodeId : String
  startTime : ℕ
  endTime : ℕ
  share : ℚ

namespace CapabilityRow

open Column

/-- The columns of the row take it. -/
def fits (r : CapabilityRow) : Bool :=
  takesText 36 r.nodeId && takesText 255 r.intent && r.capabilityVersion.all (takesText 32)
    && r.variantId.all (takesText 64) && r.quantization.all (takesText 32)
    && r.inferenceEngine.all (takesText 32) && takesJson r.models
    && r.inputModalities.all takesJson && r.outputModalities.all takesJson
    && r.features.all takesJson && r.executionCapabilities.all takesJson
    && r.capabilityLimits.all takesJson && r.supportedProfiles.all takesJson
    && r.claimProvenance.all takesJson && r.extensions.all takesJson

/-- The row as its columns keep it. -/
def kept (r : CapabilityRow) : CapabilityRow :=
  { r with
    intent := cutText 255 r.intent
    capabilityVersion := r.capabilityVersion.map (cutText 32)
    variantId := r.variantId.map (cutText 64)
    quantization := r.quantization.map (cutText 32)
    inferenceEngine := r.inferenceEngine.map (cutText 32) }

/-- Two identifiers the unique key does not tell apart; an absent one is
apart from every other. -/
def sameVariant (fold : String → String) (a b : Option String) : Bool :=
  a.any (fun x => b.any (fun y => fold x == fold y))

/-- `UNIQUE KEY (node_id, intent, variant_id)`. -/
def clash (fold : String → String) (a b : CapabilityRow) : Bool :=
  fold a.nodeId == fold b.nodeId && fold a.intent == fold b.intent
    && sameVariant fold a.variantId b.variantId

/-- What is read of a column of JSON: the default, where it cannot be
parsed. -/
def parse {α : Type} (read : Json → Option α) (default : α) (raw : Option Json) : α :=
  (raw.bind read).getD default

/-- **`From<CapabilityRow>`**: the variant a row stands for. -/
def effective (r : CapabilityRow) : EffectiveCapability where
  intent := r.intent
  version := r.capabilityVersion
  phase := r.capabilityPhase
  variantId := r.variantId
  models := ((Json.asVec Json.asStr) r.models).getD []
  maxTokens := if 0 < r.maxTokens then some r.maxTokens else none
  quantization := r.quantization
  inferenceEngine := r.inferenceEngine
  inputModalities := parse (Json.asVec Json.asStr) [] r.inputModalities
  outputModalities := parse (Json.asVec Json.asStr) [] r.outputModalities
  features := parse (Json.asVec Json.asStr) [] r.features
  executionCapabilities := parse (Json.asVec Json.asStr) [] r.executionCapabilities
  limits := parse (Json.asMap CapabilityLimit.ofJson) [] r.capabilityLimits
  supportedProfiles := parse (Json.asVec Json.asStr) [] r.supportedProfiles
  claimProvenance := r.claimProvenance.bind CapabilityClaimProvenance.ofJson
  extensions := parse (Json.asMap CapabilityExtension.ofJson) [] r.extensions

/-- The row of a variant; a variant without a limit of tokens has the limit
zero. -/
def ofVariant (nodeId : String) (c : EffectiveCapability) : CapabilityRow where
  nodeId := nodeId
  intent := c.intent
  capabilityVersion := c.version
  capabilityPhase := c.phase
  variantId := c.variantId
  models := Json.ofStrings c.models
  maxTokens := c.maxTokens.getD 0
  inputModalities := some (Json.ofStrings c.inputModalities)
  outputModalities := some (Json.ofStrings c.outputModalities)
  features := some (Json.ofStrings c.features)
  executionCapabilities := some (Json.ofStrings c.executionCapabilities)
  capabilityLimits := some (.object (c.limits.map (fun e => (e.1, e.2.toJson))))
  supportedProfiles := some (Json.ofStrings c.supportedProfiles)
  claimProvenance := c.claimProvenance.map (fun claim => claim.toJson)
  extensions := some (.object (c.extensions.map (fun e => (e.1, e.2.toJson))))
  quantization := c.quantization
  inferenceEngine := c.inferenceEngine

/-- The row of a bare intent: the models of the node, and the profiles it has
for the intent. -/
def ofIntent (rec : NodeRecord) (intent : String) : CapabilityRow where
  nodeId := rec.node.nodeId
  intent := intent
  models := Json.ofStrings rec.node.models
  maxTokens := 0
  supportedProfiles := some (Json.ofStrings ((rec.capabilityProfiles.lookup intent).getD []))

end CapabilityRow

/-! ## What comes back of a variant -/

namespace EffectiveCapability

open Column

/-- A variant as the tables return it: texts within their columns, and no
limit of tokens where it was zero. -/
def held (c : EffectiveCapability) : EffectiveCapability :=
  { c with
    intent := cutText 255 c.intent
    version := c.version.map (cutText 32)
    variantId := c.variantId.map (cutText 64)
    maxTokens := c.maxTokens.filter (fun n => 0 < n)
    quantization := c.quantization.map (cutText 32)
    inferenceEngine := c.inferenceEngine.map (cutText 32) }

/-- The variant a bare intent makes of a record. -/
def bare (rec : NodeRecord) (intent : String) : EffectiveCapability where
  intent := intent
  version := none
  phase := none
  variantId := none
  models := rec.node.models
  maxTokens := none
  quantization := none
  inferenceEngine := none
  inputModalities := []
  outputModalities := []
  features := []
  executionCapabilities := []
  limits := []
  supportedProfiles := (rec.capabilityProfiles.lookup intent).getD []
  claimProvenance := none
  extensions := []

end EffectiveCapability

namespace CapabilityRow

/-- A list of texts is read back from its column. -/
@[simp] theorem parse_ofStrings (items : List String) :
    parse (Json.asVec Json.asStr) [] (some (Json.ofStrings items)) = items := by
  unfold parse
  rw [Option.bind_some, Json.asVec_asStr_ofStrings]
  rfl

/-- A map is read back from its column when its values are. -/
theorem parse_asMap {α : Type} {read : Json → Option α} {write : α → Json}
    (h : ∀ a, read (write a) = some a) (entries : List (String × α)) :
    parse (Json.asMap read) [] (some (.object (entries.map (fun e => (e.1, write e.2)))))
      = entries := by
  unfold parse
  rw [Option.bind_some, Json.asMap_object h]
  rfl

/-- Zero tokens are no limit. -/
theorem ite_getD_zero (limit : Option ℕ) :
    (if 0 < limit.getD 0 then some (limit.getD 0) else none) = limit.filter (fun n => 0 < n) := by
  cases limit with
  | none => rfl
  | some n =>
    rw [Option.filter_some]
    simp

/-- **The row of a variant reads back as the variant**, every field of it. -/
theorem effective_ofVariant (nodeId : String) (c : EffectiveCapability) :
    (ofVariant nodeId c).kept.effective = c.held := by
  unfold effective kept ofVariant EffectiveCapability.held
  simp only [parse_ofStrings, Json.asVec_asStr_ofStrings, Option.getD_some, ite_getD_zero,
    parse_asMap CapabilityLimit.ofJson_toJson, parse_asMap CapabilityExtension.ofJson_toJson]
  congr 1
  cases c.claimProvenance with
  | none => rfl
  | some claim => exact CapabilityClaimProvenance.ofJson_toJson claim

/-- The row of a bare intent reads back as the variant it makes. -/
theorem effective_ofIntent (rec : NodeRecord) (intent : String) :
    (ofIntent rec intent).kept.effective = (EffectiveCapability.bare rec intent).held := by
  unfold effective kept ofIntent EffectiveCapability.held EffectiveCapability.bare
  simp only [parse_ofStrings, Json.asVec_asStr_ofStrings, Option.getD_some]
  rfl

end CapabilityRow

/-! ## The tables -/

/-- **The tables of a registration**, under a collation. -/
@[ext]
structure NodeTables (fold : String → String) where
  nodes : MySqlRepo fold
  capabilities : Constrained (CapabilityRow.clash fold)
  availabilityWindows : List WindowRow

namespace NodeTables

open Column

variable {fold : String → String}

/-- The tables as the schema creates them. -/
def empty (fold : String → String) : NodeTables fold := ⟨.empty fold, .empty _, []⟩

/-- The rows of `capabilities` a node has, in the order of their insertion. -/
def capabilityRows (s : NodeTables fold) (nodeId : String) : List CapabilityRow :=
  s.capabilities.rows.filter (fun r => fold r.nodeId == fold nodeId)

/-- `capability_records`. -/
def capabilityRecords (s : NodeTables fold) (nodeId : String) : List EffectiveCapability :=
  (s.capabilityRows nodeId).map CapabilityRow.effective

/-- The windows of a node. -/
def windows (s : NodeTables fold) (nodeId : String) : List WindowRow :=
  s.availabilityWindows.filter (fun w => fold w.nodeId == fold nodeId)

/-- **`MySqlRepo::get`**: the row of a node, and its variants. -/
def get (s : NodeTables fold) (nodeId : String) : Option (NodeRow × List EffectiveCapability) :=
  (s.nodes.find nodeId).map (fun row => (row, s.capabilityRecords row.id))

/-- `EXISTS (SELECT 1 FROM capabilities WHERE node_id = … AND intent = …)`. -/
def serves (s : NodeTables fold) (nodeId intent : String) : Bool :=
  (s.capabilityRows nodeId).any (fun r => fold r.intent == fold intent)

/-- The row of a node as a query sees it: with the intents its rows of
`capabilities` name. -/
def seen (s : NodeTables fold) (row : NodeRow) : NodeRow :=
  { row with intents := (s.capabilityRows row.id).map (fun r => r.intent) }

/-- **`MySqlRepo::discover`**, over the rows as a query sees them. -/
def discover (s : NodeTables fold) (q : DiscoverQuery) (nowMs : ℤ) : List NodeRow :=
  ({ s.nodes with
    nodes := s.nodes.nodes.updateWhere (fun _ => true) s.seen (fun _ => rfl) } :
      MySqlRepo fold).discover q nowMs

/-- **A query selects a node by the intents it serves**, and by conditions
that do not read them. -/
theorem matchesQuery_seen (s : NodeTables fold) (q : DiscoverQuery) (nowMs : ℤ) (row : NodeRow) :
    MySqlRepo.matchesQuery fold q nowMs (s.seen row)
      = (s.serves row.id q.intent
        && MySqlRepo.matchesQuery fold q nowMs { row with intents := [q.intent] }) := by
  unfold MySqlRepo.matchesQuery serves seen
  rw [List.any_map, List.any_cons, beq_self_eq_true, Bool.true_or, Bool.true_and]
  simp only [Bool.and_assoc]
  rfl

/-! ## The statements of a registration -/

/-- The columns of `nodes` take a record. Those without a `NULL` are filled,
those with one may be empty. -/
def takesNode (rec : NodeRecord) : Bool :=
  takesText 36 rec.node.nodeId && takesText 255 rec.node.endpoint && takesText 64 rec.node.region
    && takesText 64 (rec.nodeHmacKey.getD "") && rec.node.reputationModel.any (takesText 32)
    && rec.node.reputationEpoch.all (takesText 36) && rec.node.operatorPubkey.all (takesText 80)
    && rec.node.operatorTrustTier.all (takesText 16) && rec.node.backend.all (takesText 32)
    && rec.node.sdkLanguage.all (takesText 32) && rec.node.implementationName.all (takesText 64)
    && rec.node.implementationVersion.all (takesText 32)
    && rec.node.sdkCompatibilityVersion.all (takesText 32)
    && rec.node.sdkVersion.all (takesText 32) && rec.node.operatorUrl.all (takesText 256)
    && rec.node.policyManifest.all takesJson && rec.node.publicKey.all takesJson
    && rec.node.pricingModel.any (takesText 32)

/-- `upsert_node`. -/
def upsertNode (rec : NodeRecord) (s : NodeTables fold) : Option (NodeTables fold) :=
  if takesNode rec then
    (s.nodes.register rec).toOption.map (fun nodes => { s with nodes := nodes })
  else none

/-- `DELETE FROM capabilities WHERE node_id = ?`. -/
def deleteCapabilities (nodeId : String) (s : NodeTables fold) : Option (NodeTables fold) :=
  some { s with
    capabilities := s.capabilities.deleteWhere (fun r => fold r.nodeId == fold nodeId) }

/-- `INSERT INTO capabilities`. -/
def insertCapability (row : CapabilityRow) (s : NodeTables fold) : Option (NodeTables fold) :=
  if row.fits then
    (s.capabilities.insert row.kept).map (fun capabilities => { s with
      capabilities := capabilities })
  else none

/-- `DELETE FROM availability_windows WHERE node_id = ?`. -/
def deleteWindows (nodeId : String) (s : NodeTables fold) : Option (NodeTables fold) :=
  some { s with
    availabilityWindows := s.availabilityWindows.filter (fun w => !(fold w.nodeId == fold nodeId)) }

/-- The row of a window, where its ends are literals of a time. -/
def windowRow (time : String → Option ℕ) (nodeId : String) (w : AvailabilityWindow) :
    Option WindowRow := do
  let startTime ← time w.start
  let endTime ← time w.stop
  return ⟨nodeId, startTime, endTime, w.share⟩

theorem nodeId_windowRow {time : String → Option ℕ} {nodeId : String} {w : AvailabilityWindow}
    {row : WindowRow} (h : windowRow time nodeId w = some row) : row.nodeId = nodeId := by
  obtain ⟨_, _, h⟩ := Option.bind_eq_some_iff.mp h
  obtain ⟨_, _, h⟩ := Option.bind_eq_some_iff.mp h
  rw [← Option.some.inj h]

/-- `INSERT INTO availability_windows`. -/
def insertWindow (row : Option WindowRow) (s : NodeTables fold) : Option (NodeTables fold) :=
  row.map (fun w => { s with availabilityWindows := s.availabilityWindows ++ [w] })

/-- The rows a record has in `capabilities`: those of its variants, or of its
bare intents where it has none. -/
def rowsOf (rec : NodeRecord) : List CapabilityRow :=
  if rec.capabilities.isEmpty then rec.intents.map (CapabilityRow.ofIntent rec)
  else rec.capabilities.map (CapabilityRow.ofVariant rec.node.nodeId)

/-- `replace_relations`. -/
def replaceRelations (time : String → Option ℕ) (rec : NodeRecord) :
    List (NodeTables fold → Option (NodeTables fold)) :=
  [deleteCapabilities rec.node.nodeId] ++ (rowsOf rec).map insertCapability
    ++ [deleteWindows rec.node.nodeId]
    ++ rec.availability.map (fun w => insertWindow (windowRow time rec.node.nodeId w))

/-- **`registration_store::persist`**, behind the hashing of the tokens, which
may fail too. -/
def register (time : String → Option ℕ) (hashed : Bool) (server : Server) (rec : NodeRecord)
    (s : NodeTables fold) : Bool × NodeTables fold :=
  if hashed then Transaction.run server (upsertNode rec :: replaceRelations time rec) s
  else (false, s)

/-! ## What the statements come to -/

/-- **The tables take a record**: its node, its rows one by one and beside
each other, its windows. -/
structure Storable (fold : String → String) (time : String → Option ℕ) (rec : NodeRecord) :
    Prop where
  node : takesNode rec = true
  rows : ∀ r ∈ rowsOf rec, r.fits = true
  apart : ((rowsOf rec).map CapabilityRow.kept).Pairwise
    (fun a b => CapabilityRow.clash fold a b = false)
  windows : ∀ w ∈ rec.availability, (windowRow time rec.node.nodeId w).isSome = true

/-- **What a registration leaves**: the node as `MySqlRepo` registers it, and
its rows in the place of those it had. -/
structure Replaced (time : String → Option ℕ) (rec : NodeRecord) (s s' : NodeTables fold) :
    Prop where
  nodes : s.nodes.register rec = .ok s'.nodes
  capabilities : s'.capabilities.rows
    = s.capabilities.rows.filter (fun r => !(fold r.nodeId == fold rec.node.nodeId))
      ++ (rowsOf rec).map CapabilityRow.kept
  availabilityWindows : s'.availabilityWindows
    = s.availabilityWindows.filter (fun w => !(fold w.nodeId == fold rec.node.nodeId))
      ++ rec.availability.filterMap (windowRow time rec.node.nodeId)

theorem insertWindow_eq_some_iff {row : Option WindowRow} {s s' : NodeTables fold} :
    insertWindow row s = some s'
      ↔ row.isSome = true ∧ s'.nodes = s.nodes ∧ s'.capabilities = s.capabilities
        ∧ s'.availabilityWindows = s.availabilityWindows ++ row.toList := by
  cases row with
  | none => simp [insertWindow]
  | some w =>
    constructor
    · intro h
      obtain rfl := Option.some.inj h
      exact ⟨rfl, rfl, rfl, rfl⟩
    · rintro ⟨_, hnodes, hcapabilities, hwindows⟩
      exact congrArg some (NodeTables.ext hnodes.symm hcapabilities.symm hwindows.symm)

/-- The statements that insert rows are one insertion of them all. -/
theorem foldlM_insertCapability (rows : List CapabilityRow) (s : NodeTables fold) :
    (rows.map insertCapability).foldlM (fun s statement => statement s) s
      = if rows.all CapabilityRow.fits then
          (s.capabilities.insertAll (rows.map CapabilityRow.kept)).map
            (fun capabilities => { s with capabilities := capabilities })
        else none := by
  induction rows generalizing s with
  | nil => rfl
  | cons row rest ih =>
    rw [List.map_cons, List.foldlM_cons, List.all_cons, List.map_cons]
    unfold insertCapability
    cases row.fits with
    | false => rfl
    | true =>
      show ((s.capabilities.insert row.kept).map _).bind _
        = if rest.all CapabilityRow.fits then
            ((s.capabilities.insert row.kept).bind _).map _
          else none
      cases s.capabilities.insert row.kept with
      | none => split <;> rfl
      | some t => exact ih _

/-- **The rows of a record go in together**, or not at all. -/
theorem insertCapabilities_eq_some_iff {rows : List CapabilityRow} {s s' : NodeTables fold} :
    (rows.map insertCapability).foldlM (fun s statement => statement s) s = some s'
      ↔ (∀ r ∈ rows, r.fits = true) ∧ s'.nodes = s.nodes
        ∧ s'.availabilityWindows = s.availabilityWindows
        ∧ s'.capabilities.rows = s.capabilities.rows ++ rows.map CapabilityRow.kept := by
  rw [foldlM_insertCapability]
  constructor
  · intro h
    split at h
    · rename_i hfits
      obtain ⟨t, ht, rfl⟩ := Option.map_eq_some_iff.mp h
      exact ⟨List.all_eq_true.mp hfits, rfl, rfl, Constrained.insertAll_eq_some_iff.mp ht⟩
    · exact absurd h (by simp)
  · rintro ⟨hfits, hnodes, hwindows, hrows⟩
    rw [if_pos (List.all_eq_true.mpr hfits), Constrained.insertAll_eq_some_iff.mpr hrows]
    exact congrArg some (NodeTables.ext hnodes.symm rfl hwindows.symm)

/-- The windows of a record go in together, or not at all. -/
theorem insertWindows_eq_some_iff {row : AvailabilityWindow → Option WindowRow}
    {windows : List AvailabilityWindow} {s s' : NodeTables fold} :
    (windows.map (fun w => insertWindow (row w))).foldlM (fun s statement => statement s) s
        = some s'
      ↔ (∀ w ∈ windows, (row w).isSome = true) ∧ s'.nodes = s.nodes
        ∧ s'.capabilities = s.capabilities
        ∧ s'.availabilityWindows = s.availabilityWindows ++ windows.filterMap row := by
  induction windows generalizing s with
  | nil =>
    rw [List.map_nil, List.foldlM_nil, List.filterMap_nil, List.append_nil]
    constructor
    · intro h
      obtain rfl := Option.some.inj h
      exact ⟨fun _ hw => absurd hw List.not_mem_nil, rfl, rfl, rfl⟩
    · rintro ⟨_, hnodes, hcapabilities, hwindows⟩
      exact congrArg some (NodeTables.ext hnodes.symm hcapabilities.symm hwindows.symm)
  | cons w rest ih =>
    have hfilter : (w :: rest).filterMap row = (row w).toList ++ rest.filterMap row := by
      cases h : row w with
      | none => rw [List.filterMap_cons_none h]; rfl
      | some _ => rw [List.filterMap_cons_some h]; rfl
    rw [List.map_cons, List.foldlM_cons, List.forall_mem_cons, hfilter]
    constructor
    · intro h
      obtain ⟨t, ht, hrest⟩ := Option.bind_eq_some_iff.mp h
      obtain ⟨hsome, hnodes, hcapabilities, hwindows⟩ := insertWindow_eq_some_iff.mp ht
      obtain ⟨hsome', hnodes', hcapabilities', hwindows'⟩ := ih.mp hrest
      refine ⟨⟨hsome, hsome'⟩, hnodes'.trans hnodes, hcapabilities'.trans hcapabilities, ?_⟩
      rw [hwindows', hwindows, List.append_assoc]
    · rintro ⟨⟨hsome, hsome'⟩, hnodes, hcapabilities, hwindows⟩
      refine Option.bind_eq_some_iff.mpr
        ⟨⟨s.nodes, s.capabilities, s.availabilityWindows ++ (row w).toList⟩,
          insertWindow_eq_some_iff.mpr ⟨hsome, rfl, rfl, rfl⟩,
          ih.mpr ⟨hsome', hnodes, hcapabilities, ?_⟩⟩
      rw [hwindows, List.append_assoc]

theorem upsertNode_eq_some_iff {rec : NodeRecord} {s s' : NodeTables fold} :
    upsertNode rec s = some s'
      ↔ takesNode rec = true ∧ s.nodes.register rec = .ok s'.nodes
        ∧ s'.capabilities = s.capabilities ∧ s'.availabilityWindows = s.availabilityWindows := by
  unfold upsertNode
  constructor
  · intro h
    split at h
    · rename_i htakes
      cases hregister : s.nodes.register rec with
      | error e =>
        rw [hregister] at h
        exact absurd h (by simp [Except.toOption])
      | ok nodes =>
        rw [hregister] at h
        obtain rfl := Option.some.inj h
        exact ⟨htakes, rfl, rfl, rfl⟩
    · exact absurd h (by simp)
  · rintro ⟨htakes, hregister, hcapabilities, hwindows⟩
    rw [if_pos htakes, hregister]
    exact congrArg some (NodeTables.ext rfl hcapabilities.symm hwindows.symm)

/-- The rows of a record are its node's. -/
theorem nodeId_of_mem_kept {rec : NodeRecord} {r : CapabilityRow}
    (h : r ∈ (rowsOf rec).map CapabilityRow.kept) : r.nodeId = rec.node.nodeId := by
  obtain ⟨x, hx, rfl⟩ := List.mem_map.mp h
  unfold rowsOf at hx
  split at hx
  · obtain ⟨_, _, rfl⟩ := List.mem_map.mp hx
    rfl
  · obtain ⟨_, _, rfl⟩ := List.mem_map.mp hx
    rfl

/-- **The relations of a node are replaced** where their columns take them,
beside what other nodes have. -/
theorem replaceRelations_eq_some_iff {time : String → Option ℕ} {rec : NodeRecord}
    {s s' : NodeTables fold} :
    (replaceRelations time rec).foldlM (fun s statement => statement s) s = some s'
      ↔ (∀ r ∈ rowsOf rec, r.fits = true)
        ∧ (∀ w ∈ rec.availability, (windowRow time rec.node.nodeId w).isSome = true)
        ∧ s'.nodes = s.nodes
        ∧ s'.capabilities.rows
          = s.capabilities.rows.filter (fun r => !(fold r.nodeId == fold rec.node.nodeId))
            ++ (rowsOf rec).map CapabilityRow.kept
        ∧ s'.availabilityWindows
          = s.availabilityWindows.filter (fun w => !(fold w.nodeId == fold rec.node.nodeId))
            ++ rec.availability.filterMap (windowRow time rec.node.nodeId) := by
  unfold replaceRelations
  rw [List.foldlM_append, List.foldlM_append, List.foldlM_append]
  constructor
  · intro h
    obtain ⟨_, h, hwindows⟩ := Option.bind_eq_some_iff.mp h
    obtain ⟨_, h, hdelete⟩ := Option.bind_eq_some_iff.mp h
    obtain ⟨_, hclear, hrows⟩ := Option.bind_eq_some_iff.mp h
    obtain rfl := Option.some.inj hclear
    obtain ⟨hfits, hnodes, hkept, hinserted⟩ := insertCapabilities_eq_some_iff.mp hrows
    obtain rfl := Option.some.inj hdelete
    obtain ⟨hsome, hnodes', hcapabilities, hwindows'⟩ := insertWindows_eq_some_iff.mp hwindows
    refine ⟨hfits, hsome, hnodes'.trans hnodes, ?_, ?_⟩
    · rw [hcapabilities]
      exact hinserted
    · rw [hwindows']
      exact congrArg (fun l => List.filter _ l ++ _) hkept
  · rintro ⟨hfits, hsome, hnodes, hcapabilities, hwindows⟩
    refine Option.bind_eq_some_iff.mpr ⟨⟨s.nodes, s'.capabilities,
      s.availabilityWindows.filter (fun w => !(fold w.nodeId == fold rec.node.nodeId))⟩, ?_,
      insertWindows_eq_some_iff.mpr ⟨hsome, hnodes, rfl, hwindows⟩⟩
    refine Option.bind_eq_some_iff.mpr ⟨⟨s.nodes, s'.capabilities, s.availabilityWindows⟩, ?_, rfl⟩
    exact Option.bind_eq_some_iff.mpr ⟨_, rfl,
      insertCapabilities_eq_some_iff.mpr ⟨hfits, rfl, rfl, hcapabilities⟩⟩

/-- **The statements run through where the tables take the record**, and leave
it in the place of the one before. -/
theorem persist_eq_some_iff {time : String → Option ℕ} {rec : NodeRecord} {s s' : NodeTables fold} :
    (upsertNode rec :: replaceRelations time rec).foldlM (fun s statement => statement s) s
        = some s'
      ↔ Storable fold time rec ∧ Replaced time rec s s' := by
  rw [List.foldlM_cons]
  constructor
  · intro h
    obtain ⟨a, hnode, h⟩ := Option.bind_eq_some_iff.mp h
    obtain ⟨htakes, hregister, hcapabilities, havailability⟩ := upsertNode_eq_some_iff.mp hnode
    obtain ⟨hfits, hsome, hnodes, hrows, hwindows⟩ := replaceRelations_eq_some_iff.mp h
    rw [hcapabilities] at hrows
    rw [havailability] at hwindows
    exact ⟨⟨htakes, hfits, (List.pairwise_append.mp (hrows ▸ s'.capabilities.apart)).2.1, hsome⟩,
      ⟨hregister.trans (congrArg _ hnodes.symm), hrows, hwindows⟩⟩
  · rintro ⟨⟨htakes, hfits, _, hsome⟩, ⟨hregister, hrows, hwindows⟩⟩
    exact Option.bind_eq_some_iff.mpr ⟨⟨s'.nodes, s.capabilities, s.availabilityWindows⟩,
      upsertNode_eq_some_iff.mpr ⟨htakes, hregister, rfl, rfl⟩,
      replaceRelations_eq_some_iff.mpr ⟨hfits, hsome, rfl, hrows, hwindows⟩⟩

/-- **There is a place for it** where the tables take it, whatever was there
before: what it would clash with is gone by then. -/
theorem exists_replaced {time : String → Option ℕ} {rec : NodeRecord}
    (h : Storable fold time rec) (s : NodeTables fold) : ∃ s', Replaced time rec s s' := by
  have hmodel : ∃ nodes, s.nodes.register rec = .ok nodes := by
    have hany : rec.node.reputationModel.any (takesText 32) = true := by
      have := h.node
      simp only [takesNode, Bool.and_eq_true] at this
      exact this.1.1.1.1.1.1.1.1.1.1.1.1.1.2
    unfold MySqlRepo.register
    cases hmodel : rec.node.reputationModel with
    | none =>
      rw [hmodel] at hany
      exact absurd hany Bool.false_ne_true
    | some model => exact ⟨_, rfl⟩
  obtain ⟨nodes, hnodes⟩ := hmodel
  have hapart : (s.capabilities.rows.filter
        (fun r => !(fold r.nodeId == fold rec.node.nodeId))
      ++ (rowsOf rec).map CapabilityRow.kept).Pairwise
        (fun a b => CapabilityRow.clash fold a b = false) := by
    refine List.pairwise_append.mpr ⟨s.capabilities.apart.filter _, h.apart, ?_⟩
    intro a ha b hb
    have hother : (fold a.nodeId == fold rec.node.nodeId) = false := by
      simpa using (List.mem_filter.mp ha).2
    unfold CapabilityRow.clash
    rw [nodeId_of_mem_kept hb, hother]
    rfl
  exact ⟨⟨nodes, ⟨_, hapart⟩, _⟩, hnodes, rfl, rfl⟩

/-! ## Reading a registration back -/

section Reading

variable {time : String → Option ℕ} {rec : NodeRecord} {s s' : NodeTables fold}

/-- The rows of the node are the record's, in its order. -/
theorem capabilityRows_of_replaced (h : Replaced time rec s s') :
    s'.capabilityRows rec.node.nodeId = (rowsOf rec).map CapabilityRow.kept := by
  unfold capabilityRows
  rw [h.capabilities]
  exact Constrained.rows_replaced _ fun _ hr => congrArg fold (nodeId_of_mem_kept hr)

/-- Those of every other node are what they were. -/
theorem capabilityRows_of_ne (h : Replaced time rec s s') {other : String}
    (hne : fold other ≠ fold rec.node.nodeId) :
    s'.capabilityRows other = s.capabilityRows other := by
  unfold capabilityRows
  rw [h.capabilities]
  exact Constrained.rows_replaced_of_ne _ (fun _ hr => congrArg fold (nodeId_of_mem_kept hr)) hne

/-- The windows of a record are its node's. -/
theorem nodeId_of_mem_windows {w : WindowRow}
    (h : w ∈ rec.availability.filterMap (windowRow time rec.node.nodeId)) :
    w.nodeId = rec.node.nodeId := by
  obtain ⟨_, _, hw⟩ := List.mem_filterMap.mp h
  exact nodeId_windowRow hw

/-- The windows of the node are the record's. -/
theorem windows_of_replaced (h : Replaced time rec s s') :
    s'.windows rec.node.nodeId = rec.availability.filterMap (windowRow time rec.node.nodeId) := by
  unfold windows
  rw [h.availabilityWindows]
  exact Constrained.rows_replaced _ fun _ hw => congrArg fold (nodeId_of_mem_windows hw)

/-- Those of every other node are what they were. -/
theorem windows_of_ne (h : Replaced time rec s s') {other : String}
    (hne : fold other ≠ fold rec.node.nodeId) : s'.windows other = s.windows other := by
  unfold windows
  rw [h.availabilityWindows]
  exact Constrained.rows_replaced_of_ne _ (fun _ hw => congrArg fold (nodeId_of_mem_windows hw)) hne

end Reading

/-! ## All or nothing -/

/-- **A registration leaves everything or nothing.** It leaves what was there,
and is seen to fail; or it leaves the record, and is seen to succeed, unless
the answer to its commit was lost. -/
theorem register_cases (time : String → Option ℕ) (hashed : Bool) (server : Server)
    (rec : NodeRecord) (s : NodeTables fold) :
    s.register time hashed server rec = (false, s)
      ∨ ∃ s', Storable fold time rec ∧ Replaced time rec s s'
        ∧ (s.register time hashed server rec = (true, s')
          ∨ (server.commit = .lost ∧ s.register time hashed server rec = (false, s'))) := by
  unfold register
  cases hashed with
  | false => exact Or.inl rfl
  | true =>
    rw [if_pos rfl]
    cases hreached : Transaction.reaches server (upsertNode rec :: replaceRelations time rec) s with
    | none => exact Or.inl (Transaction.run_of_not_reached hreached)
    | some s' =>
      rw [Transaction.run_of_reached hreached]
      have hpersisted : Storable fold time rec ∧ Replaced time rec s s' := by
        unfold Transaction.reaches at hreached
        rw [Transaction.execute_eq] at hreached
        split at hreached
        · split at hreached
          · exact persist_eq_some_iff.mp hreached
          · exact absurd hreached (by simp)
        · exact absurd hreached (by simp)
      cases hcommit : server.commit with
      | done => exact Or.inr ⟨s', hpersisted.1, hpersisted.2, Or.inl rfl⟩
      | refused => exact Or.inl rfl
      | lost => exact Or.inr ⟨s', hpersisted.1, hpersisted.2, Or.inr ⟨rfl, rfl⟩⟩

/-- **A server that does what it is asked persists what the tables take.** -/
theorem register_willing_iff {time : String → Option ℕ} {rec : NodeRecord} {s : NodeTables fold} :
    (s.register time true Server.willing rec).1 = true ↔ Storable fold time rec := by
  constructor
  · intro h
    rcases register_cases time true Server.willing rec s with hnone | ⟨_, hstorable, _⟩
    · rw [hnone] at h
      exact absurd h Bool.false_ne_true
    · exact hstorable
  · intro h
    obtain ⟨s', hreplaced⟩ := exists_replaced h s
    have hreached : Transaction.reaches Server.willing
        (upsertNode rec :: replaceRelations time rec) s = some s' := by
      have hwilling : ∀ n, (List.range' 0 n).all (fun i => !Server.willing.fails i) = true :=
        fun _ => List.all_eq_true.mpr fun _ _ => rfl
      rw [Transaction.reaches, if_pos (show Server.willing.begins = true from rfl),
        Transaction.execute_eq, if_pos (hwilling _)]
      exact persist_eq_some_iff.mpr ⟨h, hreplaced⟩
    unfold register
    rw [if_pos rfl, Transaction.run_of_reached hreached]
    rfl

end NodeTables
