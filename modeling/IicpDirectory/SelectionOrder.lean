import IicpDirectory.DiscoveryPolicy
import IicpDirectory.Foundations.Ranking
import Mathlib.Data.Prod.Lex

/-!
# The order of a selection

What is let into a selection is listed by descending score, and those of one
score by identity. With that a score and an identity are a place in a linear
order (`rankKey`), and a selection is the ranking of these: where no identity is
there twice, it does not matter in which order the candidates came.

A score is between zero and one (`rankingScore_mem_Icc`), and a node that
improves gets no less of it. So it is not listed later than before
(`selection_canonical`).
-/

namespace BehaviorContract

theorem indicator_mem_Icc (p : Bool) : indicator p ∈ Set.Icc (0 : ℚ) 1 := by
  cases p <;> simp [indicator]

/-- The readiness of a node is a factor that takes a quarter at most. -/
def readiness (sdkCurrent cxKey : Bool) : ℚ :=
  max (1 - (if sdkCurrent then 0 else 8 / 100) - (if cxKey then 0 else 7 / 100)) (3 / 4)

theorem readiness_mem_Icc (sdkCurrent cxKey : Bool) :
    readiness sdkCurrent cxKey ∈ Set.Icc (0 : ℚ) 1 := by
  cases sdkCurrent <;> cases cxKey <;> norm_num [readiness]

/-- The part of a score that a node has free. -/
def freeCapacity (activeJobs maxConcurrent : ℕ) : ℚ :=
  if 0 < maxConcurrent then max (1 - (activeJobs : ℚ) / maxConcurrent) 0 else 0

theorem freeCapacity_mem_Icc (activeJobs maxConcurrent : ℕ) :
    freeCapacity activeJobs maxConcurrent ∈ Set.Icc (0 : ℚ) 1 := by
  unfold freeCapacity
  split
  · have hshare : (0 : ℚ) ≤ (activeJobs : ℚ) / maxConcurrent := by positivity
    exact ⟨le_max_right _ _, max_le (by linarith) zero_le_one⟩
  · exact ⟨le_rfl, zero_le_one⟩

/-- More jobs leave no more of it. -/
theorem freeCapacity_anti {fewer more : ℕ} (h : fewer ≤ more) (maxConcurrent : ℕ) :
    freeCapacity more maxConcurrent ≤ freeCapacity fewer maxConcurrent := by
  unfold freeCapacity
  split
  · have hshare : (fewer : ℚ) / maxConcurrent ≤ (more : ℚ) / maxConcurrent :=
      div_le_div_of_nonneg_right (Nat.cast_le.mpr h) (Nat.cast_nonneg _)
    exact max_le_max (by linarith) le_rfl
  · exact le_rfl

/-- **A score is between zero and one** for what is, and for no negative
price. -/
theorem rankingScore_mem_Icc {node : RankingInput} (region model : Option String)
    (havailability : node.availability ∈ Set.Icc (0 : ℚ) 1) (hload : node.load ∈ Set.Icc (0 : ℚ) 1)
    (hreputation : ∀ r ∈ node.reputation, r ∈ Set.Icc (0 : ℚ) 1)
    (hpricing : ∀ price ∈ node.pricing, 0 ≤ price) :
    rankingScore node region model ∈ Set.Icc (0 : ℚ) 1 := by
  obtain ⟨hload0, hload1⟩ := hload
  obtain ⟨havailability0, havailability1⟩ := havailability
  have hfree : 1 - min node.load 1 ∈ Set.Icc (0 : ℚ) 1 := by
    rw [min_eq_left hload1]
    constructor <;> linarith
  obtain ⟨hfree0, hfree1⟩ := hfree
  obtain ⟨hcapacity0, hcapacity1⟩ := freeCapacity_mem_Icc node.activeJobs node.maxConcurrent
  have hregion : (region.elim (1 / 2) fun wanted => indicator (wanted == node.region))
      ∈ Set.Icc (0 : ℚ) 1 := by
    cases region with
    | none => norm_num
    | some wanted => exact indicator_mem_Icc _
  obtain ⟨hregion0, hregion1⟩ := hregion
  have hreputation' : node.reputation.getD (1 / 2) ∈ Set.Icc (0 : ℚ) 1 := by
    cases hr : node.reputation with
    | none => norm_num
    | some r => exact hreputation r hr
  obtain ⟨hreputation0, hreputation1⟩ := hreputation'
  have hprice : (node.pricing.elim (1 / 2) fun price => max (1 - price / 10) 0)
      ∈ Set.Icc (0 : ℚ) 1 := by
    cases hp : node.pricing with
    | none => norm_num
    | some price =>
      have hnonneg := hpricing price hp
      exact ⟨le_max_right _ _, max_le (by linarith) zero_le_one⟩
  obtain ⟨hprice0, hprice1⟩ := hprice
  obtain ⟨hready0, hready1⟩ := readiness_mem_Icc node.sdkCurrent node.cxKey
  -- the weights of either formula add up to one
  cases model with
  | none =>
    refine ⟨mul_nonneg ?_ hready0, mul_le_one₀ ?_ hready0 hready1⟩
    · change (0 : ℚ) ≤ 35 / 100 * node.availability + _ + 18 / 100 * freeCapacity _ _ + _ + _
      linarith
    · change 35 / 100 * node.availability + _ + 18 / 100 * freeCapacity _ _ + _ + _ ≤ (1 : ℚ)
      linarith
  | some wanted =>
    obtain ⟨hmatch0, hmatch1⟩ := indicator_mem_Icc (node.models.contains wanted)
    refine ⟨mul_nonneg ?_ hready0, mul_le_one₀ ?_ hready0 hready1⟩
    · change (0 : ℚ) ≤ 25 / 100 * node.availability + _ + 15 / 100 * freeCapacity _ _ + _ + _ + _ + _
      linarith
    · change 25 / 100 * node.availability + _ + 15 / 100 * freeCapacity _ _ + _ + _ + _ + _ ≤ (1 : ℚ)
      linarith

/-- **A score grows** with what is better of a node, all else the same. -/
theorem rankingScore_mono {node : RankingInput} {availability load : ℚ} {activeJobs : ℕ}
    {reputation worse : ℚ} (region model : Option String) (hworse : node.reputation = some worse)
    (havailability : node.availability ≤ availability) (hload : load ≤ node.load)
    (hjobs : activeJobs ≤ node.activeJobs) (hreputation : worse ≤ reputation) :
    rankingScore node region model
      ≤ rankingScore { node with
          availability := availability, load := load, activeJobs := activeJobs,
          reputation := some reputation } region model := by
  have hready0 := (readiness_mem_Icc node.sdkCurrent node.cxKey).1
  have hcapacity := freeCapacity_anti hjobs node.maxConcurrent
  have hfree : 1 - min node.load 1 ≤ 1 - min load 1 := by
    have hmin := min_le_min_right 1 hload
    linarith
  have hbetter : node.reputation.getD (1 / 2) ≤ (some reputation).getD (1 / 2) := by
    rw [hworse]
    exact hreputation
  cases model with
  | none =>
    refine mul_le_mul_of_nonneg_right ?_ hready0
    change 35 / 100 * node.availability + _ + 18 / 100 * freeCapacity _ _ + _ + _
      ≤ 35 / 100 * availability + _ + 18 / 100 * freeCapacity _ _ + _ + _
    linarith
  | some wanted =>
    refine mul_le_mul_of_nonneg_right ?_ hready0
    change 25 / 100 * node.availability + _ + 15 / 100 * freeCapacity _ _ + _ + _ + _ + _
      ≤ 25 / 100 * availability + _ + 15 / 100 * freeCapacity _ _ + _ + _ + _ + _
    linarith

end BehaviorContract

namespace DiscoveryPolicy

open BehaviorContract

/-! ## The order -/

/-- **The place of a node**: a greater score comes first, and of one score the
lesser identity. -/
def rankKey (n : Node) : ℚᵒᵈ ×ₗ String := toLex (OrderDual.toDual n.score, n.nodeId)

theorem before_iff {a b : Node} : before a b ↔ rankKey a ≤ rankKey b := by
  unfold before rankKey
  rw [Prod.Lex.toLex_le_toLex, OrderDual.toDual_lt_toDual, EmbeddingLike.apply_eq_iff_eq]

/-- A node of one identity is not before another at the same place. -/
theorem nodeId_eq_of_rankKey {a b : Node} (h : rankKey a = rankKey b) : a.nodeId = b.nodeId :=
  (Prod.mk.inj (toLex.injective h)).2

section Selection

variable (sdkCurrent : Option String → Bool) (request : SelectionRequest)

/-- The nodes that are let in, with their scores. -/
def eligibleNodes (nodes : List Node) : List Node :=
  (nodes.filter (selected request)).map (scored sdkCurrent request)

/-- A selection is a ranking of places. -/
theorem map_selectAndRank (nodes : List Node) :
    (selectAndRank sdkCurrent request nodes).map rankKey
      = Ranking.lowest request.limit ((eligibleNodes sdkCurrent request nodes).map rankKey) := by
  have hsort : ((eligibleNodes sdkCurrent request nodes).insertionSort before).map rankKey
      = ((eligibleNodes sdkCurrent request nodes).map rankKey).insertionSort (· ≤ ·) :=
    List.map_insertionSort _ _ _ _ fun a _ b _ => before_iff
  unfold selectAndRank Ranking.lowest
  rw [List.map_take, ← hsort]
  rfl

variable {sdkCurrent request}

theorem mem_eligibleNodes {nodes : List Node} {n : Node} :
    n ∈ eligibleNodes sdkCurrent request nodes
      ↔ ∃ m ∈ nodes, selected request m = true ∧ scored sdkCurrent request m = n := by
  unfold eligibleNodes
  simp only [List.mem_map, List.mem_filter, and_assoc]

theorem eligibleNodes_subset {nodes nodes' : List Node} (h : ∀ n ∈ nodes, n ∈ nodes') :
    eligibleNodes sdkCurrent request nodes ⊆ eligibleNodes sdkCurrent request nodes' := by
  intro n hn
  obtain ⟨m, hm, hselected, hscored⟩ := mem_eligibleNodes.mp hn
  exact mem_eligibleNodes.mpr ⟨m, h m hm, hselected, hscored⟩

/-- The identities of what is let in are those of some nodes. -/
theorem nodeIds_eligibleNodes (nodes : List Node) :
    ((eligibleNodes sdkCurrent request nodes).map Node.nodeId).Sublist
      (nodes.map Node.nodeId) := by
  unfold eligibleNodes
  rw [List.map_map]
  exact List.filter_sublist.map Node.nodeId

/-- So are the places different, where the identities are. -/
theorem nodup_rankKeys {nodes : List Node} (hids : (nodes.map Node.nodeId).Nodup) :
    ((eligibleNodes sdkCurrent request nodes).map rankKey).Nodup := by
  have hnodup : ((eligibleNodes sdkCurrent request nodes).map Node.nodeId).Nodup :=
    (nodeIds_eligibleNodes nodes).nodup hids
  rw [List.Nodup, List.pairwise_map] at hnodup ⊢
  exact hnodup.imp fun hne hkey => hne (nodeId_eq_of_rankKey hkey)

/-- **What is let in, in order**: no node is lost or doubled. -/
structure Ranks (sdkCurrent : Option String → Bool) (request : SelectionRequest)
    (nodes ranked : List Node) : Prop where
  perm : ranked.Perm (eligibleNodes sdkCurrent request nodes)
  sorted : ranked.Pairwise fun a b =>
    b.score < a.score ∨ (a.score = b.score ∧ a.nodeId < b.nodeId)

/-- There is one such order at most. -/
theorem Ranks.unique {nodes ranked ranked' : List Node}
    (h : Ranks sdkCurrent request nodes ranked) (h' : Ranks sdkCurrent request nodes ranked') :
    ranked = ranked' := by
  refine List.Perm.eq_of_pairwise (fun a b _ _ hab hba => ?_) h.sorted h'.sorted
    (h.perm.trans h'.perm.symm)
  rcases hab with hab | ⟨hscore, hab⟩
  · rcases hba with hba | ⟨hba, -⟩
    · exact absurd hab hba.asymm
    · exact absurd hba hab.ne
  · rcases hba with hba | ⟨-, hba⟩
    · exact absurd hscore hba.ne
    · exact absurd hab hba.asymm

/-- The candidates may come in any order. -/
theorem Ranks.of_perm {nodes nodes' ranked : List Node} (hperm : nodes.Perm nodes')
    (h : Ranks sdkCurrent request nodes ranked) : Ranks sdkCurrent request nodes' ranked :=
  ⟨h.perm.trans ((hperm.filter _).map _), h.sorted⟩

/-- **A selection sorts what is let in.** -/
theorem ranks_insertionSort {nodes : List Node} (hids : (nodes.map Node.nodeId).Nodup) :
    Ranks sdkCurrent request nodes
      ((eligibleNodes sdkCurrent request nodes).insertionSort before) := by
  set ranked := (eligibleNodes sdkCurrent request nodes).insertionSort before
  have hperm : ranked.Perm (eligibleNodes sdkCurrent request nodes) := List.perm_insertionSort _ _
  have hkeys : ranked.map rankKey
      = ((eligibleNodes sdkCurrent request nodes).map rankKey).insertionSort (· ≤ ·) :=
    List.map_insertionSort _ _ _ _ fun a _ b _ => before_iff
  have hle : (ranked.map rankKey).Pairwise (· ≤ ·) := by
    rw [hkeys]
    exact List.pairwise_insertionSort _ _
  have hne : (ranked.map rankKey).Nodup := (hperm.map rankKey).nodup_iff.mpr (nodup_rankKeys hids)
  refine ⟨hperm, (List.pairwise_map.mp (hle.and hne)).imp fun {a b} hlt => ?_⟩
  have hkey := lt_of_le_of_ne hlt.1 hlt.2
  unfold rankKey at hkey
  rw [Prod.Lex.toLex_lt_toLex] at hkey
  simpa using hkey

/-- **A node is listed where so many are before it**, if the selection is long
enough. -/
theorem getElem?_selectAndRank_iff {nodes : List Node} (hids : (nodes.map Node.nodeId).Nodup)
    {n : Node} {i : ℕ} :
    (selectAndRank sdkCurrent request nodes)[i]? = some n
      ↔ (n ∈ eligibleNodes sdkCurrent request nodes
          ∧ (eligibleNodes sdkCurrent request nodes).countP
            (fun m => decide (rankKey m < rankKey n)) = i)
        ∧ i < request.limit := by
  have hkeys : ((eligibleNodes sdkCurrent request nodes).map rankKey).Nodup := nodup_rankKeys hids
  have hplace := Ranking.getElem?_lowest_iff (n := request.limit) (i := i) (a := rankKey n) hkeys
  rw [← map_selectAndRank, List.getElem?_map, List.countP_map] at hplace
  have hmem : ∀ {m}, (selectAndRank sdkCurrent request nodes)[i]? = some m →
      m ∈ eligibleNodes sdkCurrent request nodes := fun {m} hm =>
    (List.mem_insertionSort _).mp (List.mem_of_mem_take (List.mem_of_getElem? hm))
  constructor
  · intro h
    rw [h] at hplace
    obtain ⟨⟨-, hcount⟩, hi⟩ := hplace.mp rfl
    exact ⟨⟨hmem h, hcount⟩, hi⟩
  · rintro ⟨⟨hn, hcount⟩, hi⟩
    obtain ⟨m, hm, hkey⟩ := Option.map_eq_some_iff.mp
      (hplace.mpr ⟨⟨List.mem_map_of_mem hn, hcount⟩, hi⟩)
    rw [hm, List.inj_on_of_nodup_map hkeys (hmem hm) hn hkey]

/-- A selection that has room for all that is let in has all of it. -/
theorem ranks_selectAndRank {nodes : List Node} (hids : (nodes.map Node.nodeId).Nodup)
    (hroom : (eligibleNodes sdkCurrent request nodes).length ≤ request.limit) :
    Ranks sdkCurrent request nodes (selectAndRank sdkCurrent request nodes) := by
  have hall : selectAndRank sdkCurrent request nodes
      = (eligibleNodes sdkCurrent request nodes).insertionSort before :=
    List.take_of_length_le (by rwa [List.length_insertionSort])
  rw [hall]
  exact ranks_insertionSort hids

/-- **What is left out of such a selection may be left out before**, if it does not
depend on the score. -/
theorem filter_selectAndRank {nodes : List Node} (hids : (nodes.map Node.nodeId).Nodup)
    (hroom : (eligibleNodes sdkCurrent request nodes).length ≤ request.limit) {p : Node → Bool}
    (hp : ∀ n, p (scored sdkCurrent request n) = p n) :
    (selectAndRank sdkCurrent request nodes).filter p
      = selectAndRank sdkCurrent request (nodes.filter p) := by
  have hfilter : eligibleNodes sdkCurrent request (nodes.filter p)
      = (eligibleNodes sdkCurrent request nodes).filter p := by
    have hcomp : p ∘ scored sdkCurrent request = p := funext hp
    unfold eligibleNodes
    rw [List.filter_map, List.filter_filter, List.filter_filter, hcomp]
    simp only [Bool.and_comm]
  have hids' : ((nodes.filter p).map Node.nodeId).Nodup := hids.sublist (List.filter_sublist.map _)
  have hranks := ranks_selectAndRank hids hroom
  have hroom' : (eligibleNodes sdkCurrent request (nodes.filter p)).length ≤ request.limit := by
    rw [hfilter]
    exact (List.length_filter_le _ _).trans hroom
  refine Ranks.unique ⟨?_, hranks.sorted.filter p⟩ (ranks_selectAndRank hids' hroom')
  rw [hfilter]
  exact hranks.perm.filter p

/-- **The best of some nodes**: it is let in, and is before all that are. -/
def IsBest (sdkCurrent : Option String → Bool) (request : SelectionRequest) (nodes : List Node)
    (n : Node) : Prop :=
  n ∈ eligibleNodes sdkCurrent request nodes
    ∧ ∀ m ∈ eligibleNodes sdkCurrent request nodes, before n m

/-- **A selection begins with the best.** -/
theorem head?_selectAndRank_iff {nodes : List Node} (hids : (nodes.map Node.nodeId).Nodup)
    (hlimit : 0 < request.limit) {n : Node} :
    (selectAndRank sdkCurrent request nodes).head? = some n
      ↔ IsBest sdkCurrent request nodes n := by
  rw [List.head?_eq_getElem?, getElem?_selectAndRank_iff hids, and_iff_left hlimit,
    List.countP_eq_zero]
  unfold IsBest
  simp only [before_iff, decide_eq_true_eq, not_lt]

/-- It is empty if nothing is let in. -/
theorem selectAndRank_eq_nil_iff {nodes : List Node} (hlimit : 0 < request.limit) :
    selectAndRank sdkCurrent request nodes = []
      ↔ eligibleNodes sdkCurrent request nodes = [] := by
  have hlength : (selectAndRank sdkCurrent request nodes).length
      = min request.limit (eligibleNodes sdkCurrent request nodes).length := by
    unfold selectAndRank
    rw [List.length_take, List.length_insertionSort]
    rfl
  rw [← List.length_eq_zero_iff, hlength, ← List.length_eq_zero_iff]
  omega

end Selection

/-! ## Improvements -/

/-- What a score depends on that a node can improve. -/
structure Standing where
  load : ℚ
  activeJobs : ℕ
  reputation : ℚ
  availability : ℚ

/-- The standing of a node. -/
def standing (n : Node) : Standing where
  load := n.load
  activeJobs := n.activeJobs
  reputation := n.reputationScore
  availability := n.routingPolicy.availabilityScore

/-- The node with another standing, all else the same. -/
def withStanding (s : Standing) (n : Node) : Node :=
  { n with
    load := s.load
    activeJobs := s.activeJobs
    reputationScore := s.reputation
    routingPolicy := { n.routingPolicy with availabilityScore := s.availability } }

/-- **A standing is better** if it has no more load and no more jobs, and no less
reputation and availability. -/
structure Standing.Better (s t : Standing) : Prop where
  load : s.load ≤ t.load
  activeJobs : s.activeJobs ≤ t.activeJobs
  reputation : t.reputation ≤ s.reputation
  availability : t.availability ≤ s.availability

section Improvement

variable {sdkCurrent : Option String → Bool} {request : SelectionRequest} {s : Standing} {n : Node}

/-- A better standing is let in, -/
theorem selected_withStanding (h : s.Better (standing n)) (hselected : selected request n = true) :
    selected request (withStanding s n) = true := by
  have hreputation : n.reputationScore ≤ s.reputation := h.reputation
  unfold selected eligible at hselected ⊢
  simp only [Bool.and_eq_true, Bool.or_eq_true, decide_eq_true_eq, Bool.not_eq_true',
    Bool.and_eq_false_iff, Bool.or_eq_false_iff, decide_eq_false_iff_not, not_lt] at hselected ⊢
  obtain ⟨⟨hcip, hmodels⟩, ⟨⟨⟨hbackend, hmodel⟩, hrealtime⟩, hinteractive⟩, hmin⟩ := hselected
  refine ⟨⟨hcip, hmodels⟩, ⟨⟨⟨hbackend, hmodel⟩, ?_⟩, hinteractive⟩, ?_⟩
  · exact hrealtime.imp_right fun hr => ⟨hr.1, hr.2.trans hreputation⟩
  · exact hmin.imp_right fun hm => hm.trans hreputation

/-- and its score is no less. -/
theorem score_withStanding (h : s.Better (standing n)) :
    (scored sdkCurrent request n).score ≤ (scored sdkCurrent request (withStanding s n)).score :=
  rankingScore_mono request.region request.model rfl h.availability h.load h.activeJobs h.reputation

/-- So its place is no later. -/
theorem rankKey_withStanding (h : s.Better (standing n)) :
    rankKey (scored sdkCurrent request (withStanding s n)) ≤ rankKey (scored sdkCurrent request n) := by
  rw [← before_iff]
  have hscore : (scored sdkCurrent request n).score
      ≤ (scored sdkCurrent request (withStanding s n)).score := score_withStanding h
  rcases hscore.lt_or_eq with hlt | heq
  · exact Or.inl hlt
  · exact Or.inr ⟨heq.symm, le_refl n.nodeId⟩

/-- Before a node that is let in are so many of the others. -/
theorem countP_before_self (front back : List Node) (hselected : selected request n = true) :
    (eligibleNodes sdkCurrent request (front ++ n :: back)).countP
        (fun m => decide (rankKey m < rankKey (scored sdkCurrent request n)))
      = (eligibleNodes sdkCurrent request (front ++ back)).countP
        (fun m => decide (rankKey m < rankKey (scored sdkCurrent request n))) := by
  set p : Node → Bool := fun m => decide (rankKey m < rankKey (scored sdkCurrent request n))
  have hself : ¬ p (scored sdkCurrent request n) = true := by
    rw [decide_eq_true_eq]
    exact lt_irrefl _
  unfold eligibleNodes
  rw [List.filter_append, List.filter_cons_of_pos hselected, List.map_append, List.map_cons,
    List.countP_append, List.countP_cons_of_neg hself, ← List.countP_append, ← List.map_append,
    ← List.filter_append]

/-- **A node with a better standing is not listed later.** -/
theorem listed_withStanding (front back : List Node)
    (hids : ((front ++ n :: back).map Node.nodeId).Nodup) (h : s.Better (standing n)) {i : ℕ}
    (hi : (selectAndRank sdkCurrent request (front ++ n :: back))[i]?
      = some (scored sdkCurrent request n)) :
    ∃ j ≤ i, (selectAndRank sdkCurrent request (front ++ withStanding s n :: back))[j]?
      = some (scored sdkCurrent request (withStanding s n)) := by
  have hids' : ((front ++ withStanding s n :: back).map Node.nodeId).Nodup := by
    simpa [withStanding] using hids
  obtain ⟨⟨hn, hcount⟩, hlimit⟩ := (getElem?_selectAndRank_iff hids).mp hi
  obtain ⟨candidate, hcandidate, hselected, hscored⟩ := mem_eligibleNodes.mp hn
  -- the candidate is the node itself, as there is no other of its identity
  obtain rfl : candidate = n := by
    refine List.inj_on_of_nodup_map hids hcandidate (List.mem_append_right _ List.mem_cons_self) ?_
    have hid : (scored sdkCurrent request candidate).nodeId = (scored sdkCurrent request n).nodeId :=
      congrArg Node.nodeId hscored
    exact hid
  have hselected' := selected_withStanding h hselected
  have hkey : rankKey (scored sdkCurrent request (withStanding s candidate))
      ≤ rankKey (scored sdkCurrent request candidate) := rankKey_withStanding h
  have hle : (eligibleNodes sdkCurrent request (front ++ withStanding s candidate :: back)).countP
        (fun m => decide (rankKey m < rankKey (scored sdkCurrent request (withStanding s candidate))))
      ≤ i := by
    rw [countP_before_self front back hselected']
    rw [countP_before_self front back hselected] at hcount
    rw [← hcount]
    refine List.countP_mono_left fun m _ hm => ?_
    exact decide_eq_true ((of_decide_eq_true hm).trans_le hkey)
  refine ⟨_, hle, (getElem?_selectAndRank_iff hids').mpr ⟨⟨?_, rfl⟩, hle.trans_lt hlimit⟩⟩
  exact mem_eligibleNodes.mpr
    ⟨_, List.mem_append_right _ List.mem_cons_self, hselected', rfl⟩

end Improvement

/-- **A selection is canonical**: it is the beginning of the one order of what is
let in, whatever order the candidates came in, its scores are between zero and
one where what they are made of is, and a node with a better standing is not
listed later. -/
structure Canonical (sdkCurrent : Option String → Bool) (request : SelectionRequest)
    (nodes : List Node) : Prop where
  ranked : ∃ ranked, Ranks sdkCurrent request nodes ranked
    ∧ (∀ ranked', Ranks sdkCurrent request nodes ranked' → ranked' = ranked)
    ∧ selectAndRank sdkCurrent request nodes = ranked.take request.limit
  perm : ∀ listed, listed.Perm nodes →
    selectAndRank sdkCurrent request listed = selectAndRank sdkCurrent request nodes
  bounded : ∀ n ∈ nodes, n.routingPolicy.availabilityScore ∈ Set.Icc (0 : ℚ) 1 →
    n.load ∈ Set.Icc (0 : ℚ) 1 → n.reputationScore ∈ Set.Icc (0 : ℚ) 1 →
    (∀ price ∈ n.routingPolicy.pricingCreditsPer1000, 0 ≤ price) →
      (scored sdkCurrent request n).score ∈ Set.Icc (0 : ℚ) 1
  improved : ∀ front n back s, nodes = front ++ n :: back → s.Better (standing n) → ∀ i : ℕ,
    (selectAndRank sdkCurrent request nodes)[i]? = some (scored sdkCurrent request n) →
      ∃ j ≤ i, (selectAndRank sdkCurrent request (front ++ withStanding s n :: back))[j]?
        = some (scored sdkCurrent request (withStanding s n))

/-- **Where no identity is there twice, a selection is canonical.** -/
theorem selection_canonical (sdkCurrent : Option String → Bool) (request : SelectionRequest)
    {nodes : List Node} (hids : (nodes.map Node.nodeId).Nodup) :
    Canonical sdkCurrent request nodes := by
  have hranks : Ranks sdkCurrent request nodes _ := ranks_insertionSort hids
  refine ⟨⟨_, hranks, fun ranked' h => h.unique hranks, rfl⟩, fun listed hperm => ?_,
    fun n _ havailability hload hreputation hpricing => ?_, fun front n back s hnodes h i hi => ?_⟩
  · have hids' : (listed.map Node.nodeId).Nodup := (hperm.map _).nodup_iff.mpr hids
    have hlisted : Ranks sdkCurrent request nodes _ := (ranks_insertionSort hids').of_perm hperm
    exact congrArg (List.take request.limit) (hlisted.unique hranks)
  · refine rankingScore_mem_Icc request.region request.model havailability hload (fun r hr => ?_)
      hpricing
    obtain rfl := Option.some.inj hr
    exact hreputation
  · subst hnodes
    exact listed_withStanding front back hids h hi

end DiscoveryPolicy

namespace Sample

/-- A node that serves a model. -/
def serving (nodeId model : String) : Node :=
  { PendingRegistration.node
      { request := { endpoint := "https://node.test", capabilities := [] }
        nodeId := nodeId
        nodeToken := "node-token"
        proxyToken := "proxy-token"
        nodeHmacKey := "hmac-key" } with
    models := [model] }

/-- A request for the best node with a model. -/
def bestWith (model : Option String) : DiscoveryPolicy.SelectionRequest where
  model := model
  qos := none
  region := none
  minReputation := 0
  limit := 1
  cipCapable := false

end Sample

namespace DiscoveryPolicy

theorem selection_canonical_sample :
    Canonical (fun _ => true) (Sample.bestWith none)
      [Sample.serving "node-b" "m", Sample.serving "node-a" "m"] :=
  selection_canonical _ _ (by decide)

/-- Of two nodes alike the lesser identity is listed, unless the other is better. -/
example :
    (selectAndRank (fun _ => true) (Sample.bestWith none)
        [Sample.serving "node-b" "m", Sample.serving "node-a" "m"]).map Node.nodeId = ["node-a"]
      ∧ (selectAndRank (fun _ => true) (Sample.bestWith none)
        [withStanding ⟨0, 0, 3 / 4, 1⟩ (Sample.serving "node-b" "m"),
          Sample.serving "node-a" "m"]).map Node.nodeId = ["node-b"] := by
  decide +kernel

end DiscoveryPolicy
