import IicpDirectory.Relations
import IicpDirectory.Seed.Handlers

/-!
# A registration is persisted as a whole

A registration that the tables take leaves the node with exactly its
variants: each reads back field by field, the ones of the registration before
are gone, and a query finds the node under their intents and no others
(`registration_complete`). One that fails leaves what was there.

What a record without variants leaves is a choice of the source: a bare
variant for each of its intents, with the models of the node and the profiles
registered for the intent. A record that has variants is found under their
intents, whatever intents it lists beside them.

Two fields of a variant are not checked before they are stored, its
quantization and its inference engine. What a column takes of them it returns
up to the spaces beyond its width.
-/

namespace Relations

open Column

/-- The variants a record leaves: its own, or one for each bare intent where
it has none. -/
def variantsOf (rec : NodeRecord) : List EffectiveCapability :=
  if rec.capabilities.isEmpty then rec.intents.map (EffectiveCapability.bare rec)
  else rec.capabilities

/-- The rows of a record read back as its variants. -/
theorem map_effective_rowsOf (rec : NodeRecord) :
    ((NodeTables.rowsOf rec).map CapabilityRow.kept).map CapabilityRow.effective
      = (variantsOf rec).map EffectiveCapability.held := by
  unfold NodeTables.rowsOf variantsOf
  split
  · simp only [List.map_map]
    exact List.map_congr_left fun intent _ => CapabilityRow.effective_ofIntent rec intent
  · simp only [List.map_map]
    exact List.map_congr_left fun c _ => CapabilityRow.effective_ofVariant rec.node.nodeId c

/-- **A variant that was accepted is returned as it was**, but for the spaces
at the end of its two unchecked texts. -/
theorem held_of_accepted {c : EffectiveCapability} (h : Admission.Accepted c)
    (hintent : takesText 255 c.intent = true) :
    c.held = { c with
      quantization := c.quantization.map (cutText 32)
      inferenceEngine := c.inferenceEngine.map (cutText 32) } := by
  have hlength := length_le_of_takesText hintent
    (Admission.space_notMem_of_validIntent h.intent)
  have htokens : c.maxTokens.filter (fun n => 0 < n) = c.maxTokens := by
    cases hmax : c.maxTokens with
    | none => rfl
    | some n =>
      have hne : n ≠ 0 := fun hzero => h.parts.2.2 (by rw [hmax, hzero])
      rw [Option.filter_some, if_pos (decide_eq_true (Nat.pos_of_ne_zero hne))]
  unfold EffectiveCapability.held
  rw [cutText_of_length_le hlength, map_cutText_of_length_le h.length_version,
    map_cutText_of_length_le h.length_variantId, htokens]

/-! ## What is left -/

variable {fold : String → String}

/-- **The tables hold a record, and nothing else of its node.** -/
structure Complete (time : String → Option ℕ) (rec : NodeRecord) (s s' : NodeTables fold) :
    Prop where
  /-- `get` returns the variants of the record, in their order. -/
  variants : (s'.get rec.node.nodeId).map Prod.snd
    = some ((variantsOf rec).map EffectiveCapability.held)
  /-- Those that were accepted come back field by field. -/
  accepted : ∀ c ∈ rec.capabilities, Admission.Accepted c →
    c.held = { c with
      quantization := c.quantization.map (cutText 32)
      inferenceEngine := c.inferenceEngine.map (cutText 32) }
  /-- Of the two texts that were not checked, only spaces are lost. -/
  spaces : ∀ c ∈ rec.capabilities, c.quantization.all (takesText 32) = true
    ∧ c.inferenceEngine.all (takesText 32) = true
  /-- The windows are those of the record. -/
  windows : (s'.windows rec.node.nodeId).map some
    = rec.availability.map (NodeTables.windowRow time rec.node.nodeId)
  /-- A query selects the node by the intents of its variants. -/
  discovered : ∀ (q : DiscoverQuery) (nowMs : ℤ) (row : NodeRow),
    s'.nodes.find rec.node.nodeId = some row →
      (MySqlRepo.matchesQuery fold q nowMs (s'.seen row) = true
        ↔ (∃ c ∈ variantsOf rec, fold c.held.intent = fold q.intent)
          ∧ MySqlRepo.matchesQuery fold q nowMs { row with intents := [q.intent] } = true)
  /-- No other node is touched. -/
  others : ∀ other, fold other ≠ fold rec.node.nodeId →
    s'.get other = s.get other ∧ s'.windows other = s.windows other

section Left

variable {time : String → Option ℕ} {rec : NodeRecord} {s s' : NodeTables fold}

/-- The node is there. -/
theorem find_of_replaced (h : NodeTables.Replaced time rec s s') :
    ∃ row, s'.nodes.find rec.node.nodeId = some row := by
  obtain ⟨_, hfind⟩ := MySqlRepo.find_register h.nodes rec.node.nodeId
  exact ⟨_, hfind.trans (if_pos rfl)⟩

/-- Every other node is what it was. -/
theorem find_of_ne (h : NodeTables.Replaced time rec s s') {other : String}
    (hne : fold other ≠ fold rec.node.nodeId) : s'.nodes.find other = s.nodes.find other := by
  obtain ⟨_, hfind⟩ := MySqlRepo.find_register h.nodes other
  exact hfind.trans (if_neg hne)

/-- The rows of a node are those of its identity, to the collation. -/
theorem capabilityRows_congr (s : NodeTables fold) {a b : String} (h : fold a = fold b) :
    s.capabilityRows a = s.capabilityRows b := by
  unfold NodeTables.capabilityRows
  rw [h]

/-- **The variants of a node are the record's.** -/
theorem capabilityRecords_of_replaced (h : NodeTables.Replaced time rec s s') {nodeId : String}
    (hid : fold nodeId = fold rec.node.nodeId) :
    s'.capabilityRecords nodeId = (variantsOf rec).map EffectiveCapability.held := by
  unfold NodeTables.capabilityRecords
  rw [capabilityRows_congr s' hid, NodeTables.capabilityRows_of_replaced h, map_effective_rowsOf]

/-- A column that took a text took it all but for spaces. -/
theorem takesText_of_storable (h : NodeTables.Storable fold time rec) {c : EffectiveCapability}
    (hc : c ∈ rec.capabilities) :
    takesText 255 c.intent = true ∧ c.quantization.all (takesText 32) = true
      ∧ c.inferenceEngine.all (takesText 32) = true := by
  have hmem : CapabilityRow.ofVariant rec.node.nodeId c ∈ NodeTables.rowsOf rec := by
    unfold NodeTables.rowsOf
    rw [if_neg fun hempty => absurd (List.isEmpty_iff.mp hempty ▸ hc) List.not_mem_nil]
    exact List.mem_map_of_mem hc
  have hfits := h.rows _ hmem
  simp only [CapabilityRow.fits, Bool.and_eq_true] at hfits
  obtain ⟨⟨⟨⟨⟨⟨⟨⟨⟨⟨⟨⟨⟨⟨_, hintent⟩, _⟩, _⟩, hquantization⟩, hengine⟩, _⟩, _⟩, _⟩, _⟩, _⟩, _⟩, _⟩, _⟩,
    _⟩ := hfits
  exact ⟨hintent, hquantization, hengine⟩

/-- **What a registration replaces is complete.** -/
theorem complete_of_replaced (hstorable : NodeTables.Storable fold time rec)
    (h : NodeTables.Replaced time rec s s') : Complete time rec s s' where
  variants := by
    obtain ⟨row, hrow⟩ := find_of_replaced h
    unfold NodeTables.get
    rw [hrow, Option.map_some, Option.map_some,
      capabilityRecords_of_replaced h (MySqlRepo.fold_id_of_find hrow)]
  accepted c hc haccepted := held_of_accepted haccepted (takesText_of_storable hstorable hc).1
  spaces c hc := (takesText_of_storable hstorable hc).2
  windows := by
    rw [NodeTables.windows_of_replaced h]
    have hwindows := hstorable.windows
    generalize rec.availability = windows at hwindows
    induction windows with
    | nil => rfl
    | cons w rest ih =>
      obtain ⟨hw, hrest⟩ := List.forall_mem_cons.mp hwindows
      obtain ⟨row, hrow⟩ := Option.isSome_iff_exists.mp hw
      rw [List.filterMap_cons_some hrow, List.map_cons, List.map_cons, ih hrest, hrow]
  discovered q nowMs row hrow := by
    have hserves : s'.serves row.id q.intent = true
        ↔ ∃ c ∈ variantsOf rec, fold c.held.intent = fold q.intent := by
      have hrecords := capabilityRecords_of_replaced h (MySqlRepo.fold_id_of_find hrow)
      have hany : s'.serves row.id q.intent
          = (s'.capabilityRecords row.id).any (fun c => fold c.intent == fold q.intent) := by
        unfold NodeTables.serves NodeTables.capabilityRecords
        rw [List.any_map]
        rfl
      rw [hany, hrecords, List.any_map, List.any_eq_true]
      simp
    rw [NodeTables.matchesQuery_seen, Bool.and_eq_true, hserves]
  others other hne := by
    refine ⟨?_, NodeTables.windows_of_ne h hne⟩
    unfold NodeTables.get
    rw [find_of_ne h hne]
    cases hfind : s.nodes.find other with
    | none => rfl
    | some row =>
      have hid : fold row.id ≠ fold rec.node.nodeId := by
        rw [MySqlRepo.fold_id_of_find hfind]
        exact hne
      unfold NodeTables.capabilityRecords
      rw [Option.map_some, Option.map_some, NodeTables.capabilityRows_of_ne h hid]

end Left

end Relations

namespace Sample

/-- A record of an intent without variants. -/
def bareRecord : NodeRecord :=
  { (registration "n1" "https://n1.test").record with capabilities := [] }

/-- A quantization with spaces behind it. -/
def paddedQuantization : String := "int8" ++ String.ofList (List.replicate 30 ' ')

/-- A variant of that quantization. -/
def paddedVariant : EffectiveCapability := { chat with quantization := some paddedQuantization }

/-- The record of the variant. -/
def paddedRecord : NodeRecord :=
  { (registration "n1" "https://n1.test").record with capabilities := [paddedVariant] }

end Sample

namespace Relations

end Relations
