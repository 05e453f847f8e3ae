import IicpDirectory.Foundations.Grouping
import IicpDirectory.Quotes
import IicpDirectory.Relations
import IicpDirectory.Seed.Discovery

/-!
# Nodes that offer an intent in several variants

A node may serve one intent in several variants, each with a row of
`capabilities`. Prices and statistics are to count it once. Over the tables
the statistics do: they count the nodes of the join. The quote does not: it
takes a multiplier of every row of the join. In memory it is the other way
round, the quote selects the records and the statistics count every intent a
record lists, once for each variant.

So the numbers are those of the nodes, in both repositories, where a node has
one variant of an intent (`counted_iff`). They agree where in addition the
intent is written in one way, because the tables compare it under their
collation.
-/

open Grouping

/-! ## The tables -/

/-- A row of `nodes`, with its region and its price. -/
structure PricedRow where
  row : NodeRow
  region : String
  creditCostMultiplier : ℚ

/-- **The tables** the prices and the statistics are read from. -/
structure VariantTables (fold : String → String) where
  nodes : Table (fun r : PricedRow => fold r.row.id)
  capabilities : Constrained (CapabilityRow.clash fold)

/-- `IntentSummary`. -/
structure IntentSummary where
  intent : String
  nodeCount : ℕ
  deriving DecidableEq

/-- `RegistryStats`. -/
structure RegistryStats where
  totalNodes : ℕ
  activeNodes : ℕ
  regions : List String
  regionBreakdown : List (String × ℕ)
  intentCoverage : List (String × ℕ)
  intentsSupported : List String

/-- The most first, then by name. -/
def countDesc (a b : String × ℕ) : Bool :=
  decide (b.2 < a.2) || (a.2 == b.2 && decide (a.1 ≤ b.1))

/-- What a map has for each key when it was counted up. -/
def tally (keys : List String) : List (String × ℕ) := grouped id (fun k => keys.count k) keys

/-- The statistics of so many nodes, of the counts of their regions and
intents. -/
def registryStatsOf (total active : ℕ) (byRegion byIntent : List (String × ℕ)) : RegistryStats where
  totalNodes := total
  activeNodes := active
  regions := (byRegion.mergeSort countDesc).map Prod.fst
  regionBreakdown := byRegion
  intentCoverage := byIntent
  intentsSupported := (byIntent.mergeSort countDesc).map Prod.fst

/-- The intents with their counts, the most first. -/
def intentSummaries (byIntent : List (String × ℕ)) : List IntentSummary :=
  (byIntent.mergeSort fun a b => decide (b.2 ≤ a.2)).map fun e => ⟨e.1, e.2⟩

namespace VariantTables

variable {fold : String → String}

/-- The rows of `capabilities` of a node. -/
def parts (t : VariantTables fold) (r : PricedRow) : List CapabilityRow :=
  t.capabilities.rows.filter fun c => fold c.nodeId = fold r.row.id

/-- `nodes n INNER JOIN capabilities c ON c.node_id = n.id`. -/
def joined (t : VariantTables fold) : List (PricedRow × CapabilityRow) :=
  join t.nodes.rows t.parts

/-- The nodes that are available and fresh. -/
def activeNodes (t : VariantTables fold) (nowMs : ℤ) : List PricedRow :=
  t.nodes.rows.filter fun r => MySqlRepo.live nowMs r.row

/-- `MySqlRepo::quote_multipliers`. -/
def quoteMultipliers (t : VariantTables fold) (nowMs : ℤ) (intent : String) (minReputation : ℚ) :
    List ℚ :=
  ((t.joined.filter fun e => decide (fold e.2.intent = fold intent) && MySqlRepo.live nowMs e.1.row
      && decide (minReputation ≤ e.1.row.reputationScore)).map
    Prod.fst).map PricedRow.creditCostMultiplier

/-- `COUNT(DISTINCT n.id)` of the active nodes in the group of an intent. -/
def nodeCount (t : VariantTables fold) (nowMs : ℤ) (intent : String) : ℕ :=
  countDistinct (fun r : PricedRow => fold r.row.id)
    ((t.joined.filter fun e => MySqlRepo.live nowMs e.1.row
      && decide (fold e.2.intent = fold intent)).map Prod.fst)

/-- `GROUP BY c.intent`. -/
def intentCounts (t : VariantTables fold) (nowMs : ℤ) : List (String × ℕ) :=
  grouped fold (t.nodeCount nowMs)
    ((t.joined.filter fun e => MySqlRepo.live nowMs e.1.row).map fun e => e.2.intent)

/-- `MySqlRepo::list_intents`. -/
def listIntents (t : VariantTables fold) (nowMs : ℤ) : List IntentSummary :=
  intentSummaries (t.intentCounts nowMs)

/-- `MySqlRepo::registry_stats`. -/
def registryStats (t : VariantTables fold) (nowMs : ℤ) : RegistryStats :=
  registryStatsOf t.nodes.rows.length (t.activeNodes nowMs).length
    (grouped fold (fun region => (t.activeNodes nowMs).countP fun r => fold r.region = fold region)
      ((t.activeNodes nowMs).map PricedRow.region))
    (t.intentCounts nowMs)

end VariantTables

namespace InMemoryRepo

/-- The records that are available. -/
def availableRecords (repo : InMemoryRepo) : List NodeRecord :=
  repo.records.filter fun r => r.node.available

/-- `InMemoryRepo::quote_multipliers`. -/
def quoteMultipliers (repo : InMemoryRepo) (intent : String) (minReputation : ℚ) : List ℚ :=
  (repo.records.filter fun r => r.node.available
      && decide (minReputation ≤ r.node.reputationScore) && r.intents.any (· == intent)).map
    fun r => r.node.creditCostMultiplier

/-- The intents of the available records, each as often as it is listed. -/
def listedIntents (repo : InMemoryRepo) : List String :=
  repo.availableRecords.flatMap NodeRecord.intents

/-- `InMemoryRepo::list_intents`. -/
def listIntents (repo : InMemoryRepo) : List IntentSummary :=
  intentSummaries (tally repo.listedIntents)

/-- `InMemoryRepo::registry_stats`. -/
def registryStats (repo : InMemoryRepo) : RegistryStats :=
  registryStatsOf repo.records.length repo.availableRecords.length
    (tally (repo.availableRecords.map fun r => r.node.region)) (tally repo.listedIntents)

end InMemoryRepo

/-! ## Nodes, however they are kept -/

/-- What prices and statistics look at of a node: the intents one for each
variant. -/
structure NodeView where
  nodeId : String
  reputationScore : ℚ
  creditCostMultiplier : ℚ
  intents : List String

/-- The view of a row. -/
def VariantTables.view {fold : String → String} (t : VariantTables fold) (r : PricedRow) :
    NodeView :=
  ⟨r.row.id, r.row.reputationScore, r.creditCostMultiplier, (t.parts r).map (·.intent)⟩

/-- The active nodes of the tables. -/
def VariantTables.views {fold : String → String} (t : VariantTables fold) (nowMs : ℤ) :
    List NodeView :=
  (t.activeNodes nowMs).map t.view

/-- The active nodes in memory. -/
def InMemoryRepo.views (repo : InMemoryRepo) : List NodeView :=
  repo.availableRecords.map fun r =>
    ⟨r.id, r.node.reputationScore, r.node.creditCostMultiplier, r.intents⟩

/-- The node serves an intent, to a collation. -/
def NodeView.serves (fold : String → String) (intent : String) (v : NodeView) : Bool :=
  v.intents.any fun i => fold i = fold intent

/-- The nodes that serve an intent. -/
def NodeView.serving (fold : String → String) (views : List NodeView) (intent : String) : List NodeView :=
  views.filter (NodeView.serves fold intent)

/-- Those that have the reputation that is asked for. -/
def NodeView.eligible (fold : String → String) (views : List NodeView) (intent : String)
    (minReputation : ℚ) : List NodeView :=
  (NodeView.serving fold views intent).filter fun v => minReputation ≤ v.reputationScore

/-- What is reported for an intent. -/
def IntentSummary.reported (fold : String → String) (summaries : List IntentSummary) (intent : String) : ℕ :=
  Grouping.reported fold (summaries.map fun s => (s.intent, s.nodeCount)) intent

/-- The order of the summaries is of no account. -/
theorem reported_intentSummaries (fold : String → String) (byIntent : List (String × ℕ))
    (intent : String) :
    IntentSummary.reported fold (intentSummaries byIntent) intent
      = reported fold byIntent intent := by
  unfold IntentSummary.reported intentSummaries
  rw [List.map_map]
  refine reported_perm ?_ intent
  have hpairs : ((fun s : IntentSummary => (s.intent, s.nodeCount))
      ∘ fun e : String × ℕ => (⟨e.1, e.2⟩ : IntentSummary)) = id := rfl
  rw [hpairs, List.map_id]
  exact List.mergeSort_perm _ _

/-- A map that was counted up has the number of the occurrences. -/
theorem reported_tally (keys : List String) (k : String) :
    reported id (tally keys) k = keys.count k :=
  reported_grouped (fun _ _ h => congrArg _ h) fun hnone =>
    List.count_eq_zero.mpr fun hk => hnone k hk rfl

/-! ## The numbers of each repository -/

namespace VariantTables

variable {fold : String → String} (t : VariantTables fold) (nowMs : ℤ) (intent : String)
  (minReputation : ℚ)

/-- A row of a quote. -/
def quotes (r : PricedRow) (c : CapabilityRow) : Bool :=
  decide (fold c.intent = fold intent) && MySqlRepo.live nowMs r.row
    && decide (minReputation ≤ r.row.reputationScore)

/-- The nodes a quote has rows of are those that are eligible. -/
theorem quoted_rows :
    (t.nodes.rows.filter fun r => (t.parts r).any (@quotes fold nowMs intent minReputation
        r)).map PricedRow.creditCostMultiplier
      = (NodeView.eligible fold (t.views nowMs) intent minReputation).map
        NodeView.creditCostMultiplier := by
  unfold NodeView.eligible NodeView.serving views activeNodes
  rw [List.filter_map, List.filter_map, List.map_map, List.filter_filter, List.filter_filter]
  refine congrArg (List.map PricedRow.creditCostMultiplier) (List.filter_congr fun r _ => ?_)
  show (t.parts r).any (quotes nowMs intent minReputation r)
    = (decide (minReputation ≤ r.row.reputationScore)
      && ((t.parts r).map (·.intent)).any (fun i => decide (fold i = fold intent))
        && MySqlRepo.live nowMs r.row)
  rw [List.any_map]
  unfold quotes
  cases MySqlRepo.live nowMs r.row <;> cases decide (minReputation ≤ r.row.reputationScore) <;>
    simp [Function.comp_def]

/-- The variants of a node that are in a quote. -/
theorem countP_quotes (r : PricedRow) :
    (t.parts r).countP (@quotes fold nowMs intent minReputation r)
      = if MySqlRepo.live nowMs r.row = true ∧ minReputation ≤ r.row.reputationScore then
          (t.view r).intents.countP fun i => fold i = fold intent
        else 0 := by
  show _ = if _ then ((t.parts r).map fun c : CapabilityRow => c.intent).countP _ else 0
  rw [List.countP_map]
  unfold quotes
  split
  · next h =>
    refine List.countP_congr fun c _ => ?_
    rw [h.1, decide_eq_true h.2, Bool.and_true, Bool.and_true]
    rfl
  · next h =>
    refine List.countP_eq_zero.mpr fun c _ hc => h ?_
    rw [Bool.and_eq_true, Bool.and_eq_true, decide_eq_true_iff, decide_eq_true_iff] at hc
    exact ⟨hc.1.2, hc.2⟩

/-- **A quote over the tables has each eligible node once** exactly where each
has one variant. -/
theorem quoteMultipliers_perm_iff :
    (t.quoteMultipliers nowMs intent minReputation).Perm
        ((NodeView.eligible fold (t.views nowMs) intent minReputation).map
          NodeView.creditCostMultiplier)
      ↔ ∀ v ∈ t.views nowMs, minReputation ≤ v.reputationScore →
          (v.intents.countP fun i => fold i = fold intent) ≤ 1 := by
  have hrows : (∀ r ∈ t.nodes.rows, (t.parts r).countP
        (@quotes fold nowMs intent minReputation r) ≤ 1)
      ↔ ∀ v ∈ t.views nowMs, minReputation ≤ v.reputationScore →
          (v.intents.countP fun i => fold i = fold intent) ≤ 1 := by
    constructor
    · intro h v hv hrep
      obtain ⟨r, hr, rfl⟩ := List.mem_map.mp hv
      obtain ⟨hrow, hlive⟩ := List.mem_filter.mp hr
      have hone := h r hrow
      rw [countP_quotes, if_pos ⟨hlive, hrep⟩] at hone
      exact hone
    · intro h r hr
      rw [countP_quotes]
      split
      · next hactive =>
        exact h _ (List.mem_map_of_mem (List.mem_filter.mpr ⟨hr, hactive.1⟩)) hactive.2
      · exact Nat.zero_le 1
  rw [← quoted_rows, ← hrows]
  constructor
  · intro hperm
    have hlength := hperm.length_eq
    unfold quoteMultipliers at hlength
    rw [List.length_map, List.length_map, List.length_map] at hlength
    exact (length_join_filter_eq_iff _ _ (quotes nowMs intent minReputation)).mp hlength
  · intro hone
    have hjoin := map_fst_join_of_le_one hone
    unfold quoteMultipliers
    exact (congrArg (List.map PricedRow.creditCostMultiplier) hjoin) ▸ List.Perm.refl _

/-- **The statistics over the tables count nodes.** -/
theorem nodeCount_eq : t.nodeCount nowMs intent
    = (NodeView.serving fold (t.views nowMs) intent).length := by
  unfold nodeCount joined
  rw [countDistinct_join t.nodes.keys_nodup t.parts
    fun r c => MySqlRepo.live nowMs r.row && decide (fold c.intent = fold intent)]
  unfold NodeView.serving views activeNodes
  rw [List.filter_map, List.length_map, List.filter_filter]
  refine congrArg List.length (List.filter_congr fun r _ => ?_)
  show _ = (((t.parts r).map (·.intent)).any (fun i => decide (fold i = fold intent))
    && MySqlRepo.live nowMs r.row)
  rw [List.any_map]
  cases MySqlRepo.live nowMs r.row <;> simp [Function.comp_def]

theorem reported_intentCounts :
    reported fold (t.intentCounts nowMs) intent
      = (NodeView.serving fold (t.views nowMs) intent).length := by
  rw [← nodeCount_eq]
  refine reported_grouped (fun a b hab => ?_) fun hnone => ?_
  · unfold nodeCount
    rw [hab]
  · unfold nodeCount countDistinct
    rw [List.length_eq_zero_iff, List.dedup_eq_nil, List.map_eq_nil_iff, List.map_eq_nil_iff]
    refine List.filter_eq_nil_iff.mpr fun e he hboth => ?_
    rw [Bool.and_eq_true, decide_eq_true_iff] at hboth
    exact hnone _ (List.mem_map_of_mem (List.mem_filter.mpr ⟨he, hboth.1⟩)) hboth.2

end VariantTables

namespace InMemoryRepo

variable (repo : InMemoryRepo) (intent : String) (minReputation : ℚ)

/-- A quote in memory has each eligible node once. -/
theorem quoteMultipliers_eq : repo.quoteMultipliers intent minReputation
    = (NodeView.eligible id repo.views intent minReputation).map NodeView.creditCostMultiplier := by
  unfold NodeView.eligible NodeView.serving views availableRecords quoteMultipliers
  rw [List.filter_map, List.filter_map, List.map_map, List.filter_filter, List.filter_filter]
  refine congrArg (List.map fun r : NodeRecord => r.node.creditCostMultiplier)
    (List.filter_congr fun r _ => ?_)
  show _ = (decide (minReputation ≤ r.node.reputationScore)
    && r.intents.any (fun i => decide (id i = id intent)) && r.node.available)
  have hany : (r.intents.any (· == intent)) = r.intents.any fun i => decide (id i = id intent) := rfl
  rw [hany]
  cases r.node.available <;> cases decide (minReputation ≤ r.node.reputationScore) <;> simp

/-- The statistics in memory count variants. -/
theorem reported_listedIntents :
    reported id (tally repo.listedIntents) intent
      = (repo.views.map fun v => v.intents.count intent).sum := by
  rw [reported_tally]
  unfold listedIntents views
  rw [List.count_flatMap, List.map_map]
  rfl

/-- **They are those of the nodes exactly where each has one variant.** -/
theorem reported_listedIntents_eq_iff :
    reported id (tally repo.listedIntents) intent
        = (NodeView.serving id repo.views intent).length
      ↔ ∀ v ∈ repo.views, v.intents.count intent ≤ 1 := by
  rw [reported_listedIntents, ← sum_eq_length_filter_iff]
  have hserves : NodeView.serving id repo.views intent
      = repo.views.filter fun v => v.intents.count intent ≠ 0 := by
    refine List.filter_congr fun v _ => ?_
    unfold NodeView.serves
    rw [Bool.eq_iff_iff, decide_eq_true_iff, List.any_eq_true, ← Nat.pos_iff_ne_zero,
      List.count_pos_iff]
    constructor
    · rintro ⟨i, hi, heq⟩
      have hname : i = intent := of_decide_eq_true heq
      exact hname ▸ hi
    · exact fun h => ⟨intent, h, decide_eq_true rfl⟩
  rw [hserves]

end InMemoryRepo

/-! ## Both repositories -/

/-- The two repositories have the same active nodes. -/
def SameActive {fold : String → String} (t : VariantTables fold) (nowMs : ℤ)
    (repo : InMemoryRepo) : Prop :=
  (t.views nowMs).Perm repo.views

/-- **A node counts once**: in the quotes of each repository, with its one
multiplier, and in their statistics; and the repositories agree. -/
structure Counted {fold : String → String} (t : VariantTables fold) (nowMs : ℤ)
    (repo : InMemoryRepo) (intent : String) (minReputation : ℚ) : Prop where
  weighed : (t.quoteMultipliers nowMs intent minReputation).Perm
    ((NodeView.eligible fold (t.views nowMs) intent minReputation).map
      NodeView.creditCostMultiplier)
  weighedInMemory : (repo.quoteMultipliers intent minReputation).Perm
    ((NodeView.eligible id repo.views intent minReputation).map NodeView.creditCostMultiplier)
  quoted : ∀ maxTokens,
    (computeQuote maxTokens (t.quoteMultipliers nowMs intent minReputation)).nodesQuoted
      = (NodeView.eligible fold (t.views nowMs) intent minReputation).length
  quotedInMemory : ∀ maxTokens,
    (computeQuote maxTokens (repo.quoteMultipliers intent minReputation)).nodesQuoted
      = (NodeView.eligible id repo.views intent minReputation).length
  between : ∀ maxTokens, ∀ multipliers ∈ [t.quoteMultipliers nowMs intent minReputation,
    repo.quoteMultipliers intent minReputation],
    (computeQuote maxTokens multipliers).min ≤ (computeQuote maxTokens multipliers).estimated
      ∧ (computeQuote maxTokens multipliers).estimated ≤ (computeQuote maxTokens multipliers).max
  listed : IntentSummary.reported fold (t.listIntents nowMs) intent
    = (NodeView.serving fold (t.views nowMs) intent).length
  listedInMemory : IntentSummary.reported id repo.listIntents intent
    = (NodeView.serving id repo.views intent).length
  covered : reported fold (t.registryStats nowMs).intentCoverage intent
    = (NodeView.serving fold (t.views nowMs) intent).length
  coveredInMemory : reported id repo.registryStats.intentCoverage intent
    = (NodeView.serving id repo.views intent).length
  quotesAgree : ∀ maxTokens,
    (computeQuote maxTokens (t.quoteMultipliers nowMs intent minReputation)).nodesQuoted
      = (computeQuote maxTokens (repo.quoteMultipliers intent minReputation)).nodesQuoted
  listsAgree : IntentSummary.reported fold (t.listIntents nowMs) intent
    = IntentSummary.reported id repo.listIntents intent
  coversAgree : reported fold (t.registryStats nowMs).intentCoverage intent
    = reported id repo.registryStats.intentCoverage intent

/-- **A node offers an intent once**: an eligible node in one variant, to the
collation, no active node twice under one name, and under the name that is
asked for if under any. -/
structure OfferedOnce (fold : String → String) (views : List NodeView) (intent : String)
    (minReputation : ℚ) : Prop where
  variant : ∀ v ∈ views, minReputation ≤ v.reputationScore →
    (v.intents.countP fun i => fold i = fold intent) ≤ 1
  listed : ∀ v ∈ views, v.intents.count intent ≤ 1
  named : ∀ v ∈ views, ∀ i ∈ v.intents, fold i = fold intent → intent ∈ v.intents

/-- A node that serves an intent under its name serves it under any. -/
theorem serves_of_serves_id {fold : String → String} {intent : String} {v : NodeView}
    (h : v.serves id intent = true) : v.serves fold intent = true := by
  obtain ⟨i, hi, heq⟩ := List.any_eq_true.mp h
  exact List.any_eq_true.mpr ⟨i, hi, decide_eq_true (congrArg fold (of_decide_eq_true heq))⟩

theorem serves_id_iff {intent : String} {v : NodeView} :
    v.serves id intent = true ↔ intent ∈ v.intents := by
  unfold NodeView.serves
  rw [List.any_eq_true]
  constructor
  · rintro ⟨i, hi, heq⟩
    have hname : i = intent := of_decide_eq_true heq
    exact hname ▸ hi
  · exact fun h => ⟨intent, h, decide_eq_true rfl⟩

/-- **The nodes that serve an intent are as many by name as by collation
exactly where they serve it under its name.** -/
theorem length_serving_eq_iff {fold : String → String} {views : List NodeView} {intent : String} :
    (NodeView.serving fold views intent).length = (NodeView.serving id views intent).length
      ↔ ∀ v ∈ views, ∀ i ∈ v.intents, fold i = fold intent → intent ∈ v.intents := by
  unfold NodeView.serving
  rw [eq_comm, length_filter_eq_iff fun v => serves_of_serves_id]
  constructor
  · intro h v hv i hi heq
    exact serves_id_iff.mp (h v hv (List.any_eq_true.mpr ⟨i, hi, decide_eq_true heq⟩))
  · intro h v hv hserves
    obtain ⟨i, hi, heq⟩ := List.any_eq_true.mp hserves
    exact serves_id_iff.mpr (h v hv i hi (of_decide_eq_true heq))

/-- Where they do, the selections are one. -/
theorem eligible_eq_of_named {fold : String → String} {views : List NodeView} {intent : String}
    (h : ∀ v ∈ views, ∀ i ∈ v.intents, fold i = fold intent → intent ∈ v.intents)
    (minReputation : ℚ) :
    NodeView.eligible fold views intent minReputation
      = NodeView.eligible id views intent minReputation := by
  unfold NodeView.eligible NodeView.serving
  refine congrArg _ (List.filter_congr fun v hv => ?_)
  rw [Bool.eq_iff_iff]
  constructor
  · intro hserves
    obtain ⟨i, hi, heq⟩ := List.any_eq_true.mp hserves
    exact serves_id_iff.mpr (h v hv i hi (of_decide_eq_true heq))
  · exact serves_of_serves_id

/-- **A node counts once exactly where it offers the intent once.** -/
theorem counted_iff {fold : String → String} {t : VariantTables fold} {nowMs : ℤ}
    {repo : InMemoryRepo} (hsame : SameActive t nowMs repo) (intent : String)
    (minReputation : ℚ) :
    Counted t nowMs repo intent minReputation
      ↔ OfferedOnce fold (t.views nowMs) intent minReputation := by
  have hserving : ∀ collation : String → String,
      (NodeView.serving collation (t.views nowMs) intent).length
        = (NodeView.serving collation repo.views intent).length := fun _ =>
    (hsame.filter _).length_eq
  have heligible : ∀ collation : String → String,
      (NodeView.eligible collation (t.views nowMs) intent minReputation).length
        = (NodeView.eligible collation repo.views intent minReputation).length := fun _ =>
    ((hsame.filter _).filter _).length_eq
  have hlisted : IntentSummary.reported fold (t.listIntents nowMs) intent
      = (NodeView.serving fold (t.views nowMs) intent).length :=
    (reported_intentSummaries fold _ intent).trans (t.reported_intentCounts nowMs intent)
  have hcovered : reported fold (t.registryStats nowMs).intentCoverage intent
      = (NodeView.serving fold (t.views nowMs) intent).length :=
    t.reported_intentCounts nowMs intent
  have hquotedInMemory : ∀ maxTokens,
      (computeQuote maxTokens (repo.quoteMultipliers intent minReputation)).nodesQuoted
        = (NodeView.eligible id repo.views intent minReputation).length := fun maxTokens => by
    rw [nodesQuoted_computeQuote, InMemoryRepo.quoteMultipliers_eq, List.length_map]
  constructor
  · intro h
    refine ⟨(t.quoteMultipliers_perm_iff nowMs intent minReputation).mp h.weighed, ?_, ?_⟩
    · intro v hv
      exact (repo.reported_listedIntents_eq_iff intent).mp h.coveredInMemory v
        (hsame.mem_iff.mp hv)
    · have hagree := h.listsAgree
      rw [h.listed, h.listedInMemory, ← hserving id] at hagree
      exact length_serving_eq_iff.mp hagree
  · intro h
    have hweighed := (t.quoteMultipliers_perm_iff nowMs intent minReputation).mpr h.variant
    have hlistedInMemory : reported id (tally repo.listedIntents) intent
        = (NodeView.serving id repo.views intent).length :=
      (repo.reported_listedIntents_eq_iff intent).mpr fun v hv => h.listed v (hsame.mem_iff.mpr hv)
    have hnames : (NodeView.serving fold (t.views nowMs) intent).length
        = (NodeView.serving id repo.views intent).length :=
      (length_serving_eq_iff.mpr h.named).trans (hserving id)
    have hquoted : ∀ maxTokens,
        (computeQuote maxTokens (t.quoteMultipliers nowMs intent minReputation)).nodesQuoted
          = (NodeView.eligible fold (t.views nowMs) intent minReputation).length := by
      intro maxTokens
      rw [nodesQuoted_computeQuote, hweighed.length_eq, List.length_map]
    exact
      { weighed := hweighed
        weighedInMemory := by rw [InMemoryRepo.quoteMultipliers_eq]
        quoted := hquoted
        quotedInMemory := hquotedInMemory
        between := fun maxTokens multipliers _ => computeQuote_between maxTokens multipliers
        listed := hlisted
        listedInMemory := (reported_intentSummaries id _ intent).trans hlistedInMemory
        covered := hcovered
        coveredInMemory := hlistedInMemory
        quotesAgree := fun maxTokens => by
          rw [hquoted, hquotedInMemory, eligible_eq_of_named h.named, heligible id]
        listsAgree := by
          rw [hlisted, hnames, ← hlistedInMemory]
          exact (reported_intentSummaries id _ intent).symm
        coversAgree := (hcovered.trans hnames).trans hlistedInMemory.symm }

/-! ## A node with two variants -/

namespace Sample

/-- A node that offers some intents, in memory. -/
def offering (intents : List String) : InMemoryRepo :=
  InMemoryRepo.empty.register
    { (registration "n1" "https://n1.test").record.withReputation (1 / 2) with intents := intents }

/-- Its row. -/
def offeringRow : PricedRow where
  row :=
    { MySqlRepo.newRow (registration "n1" "https://n1.test").record "outcome-v2" with
      reputationScore := 1 / 2 }
  region := "eu"
  creditCostMultiplier := (registration "n1" "https://n1.test").pricingMultiplier

/-- A variant of it. -/
def variantRow (intent variantId : String) : CapabilityRow :=
  { nodeId := "n1", intent := intent, variantId := some variantId, models := .array [], maxTokens := 0 }

/-- The tables with one variant. -/
def oneVariant : VariantTables id where
  nodes := ⟨[offeringRow], List.nodup_singleton _⟩
  capabilities := ⟨[variantRow "chat" "small"], List.pairwise_singleton _ _⟩

/-- The tables with two. -/
def twoVariants : VariantTables id where
  nodes := ⟨[offeringRow], List.nodup_singleton _⟩
  capabilities := ⟨[variantRow "chat" "small", variantRow "chat" "large"], by decide⟩

theorem sameActive_one : SameActive oneVariant 0 (offering ["chat"]) := List.Perm.refl _

theorem sameActive_two : SameActive twoVariants 0 (offering ["chat", "chat"]) := List.Perm.refl _

end Sample

/-- A node with one variant counts once. -/
theorem counted_one_variant : Counted Sample.oneVariant 0 (Sample.offering ["chat"]) "chat" 0 := by
  refine (counted_iff Sample.sameActive_one "chat" 0).mpr ⟨?_, ?_, ?_⟩
  · intro v hv _
    obtain rfl := List.mem_singleton.mp hv
    decide
  · intro v hv
    obtain rfl := List.mem_singleton.mp hv
    decide
  · intro v hv i hi _
    obtain rfl := List.mem_singleton.mp hv
    exact List.mem_singleton_self "chat"

/-- **A node with two variants counts twice**: in a quote over the tables, and
in the statistics in memory. -/
theorem two_variants_counted_twice :
    SameActive Sample.twoVariants 0 (Sample.offering ["chat", "chat"])
      ∧ (NodeView.eligible id (Sample.twoVariants.views 0) "chat" 0).length = 1
      ∧ (computeQuote 1000 (Sample.twoVariants.quoteMultipliers 0 "chat" 0)).nodesQuoted = 2
      ∧ (computeQuote 1000
          ((Sample.offering ["chat", "chat"]).quoteMultipliers "chat" 0)).nodesQuoted = 1
      ∧ Sample.twoVariants.listIntents 0 = [⟨"chat", 1⟩]
      ∧ (Sample.offering ["chat", "chat"]).listIntents = [⟨"chat", 2⟩]
      ∧ ¬ Counted Sample.twoVariants 0 (Sample.offering ["chat", "chat"]) "chat" 0 := by
  have heligible : (NodeView.eligible id (Sample.twoVariants.views 0) "chat" 0).length = 1 := by
    decide +kernel
  have hquoted : (computeQuote 1000
      (Sample.twoVariants.quoteMultipliers 0 "chat" 0)).nodesQuoted = 2 := by
    decide +kernel
  refine ⟨Sample.sameActive_two, heligible, hquoted, by decide +kernel, by decide +kernel,
    by decide +kernel, fun h => ?_⟩
  have hone := h.quoted 1000
  rw [heligible, hquoted] at hone
  exact absurd hone (by decide)
