import IicpDirectory.Foundations.NearestRank
import IicpDirectory.Money
import IicpDirectory.Replica.Convergence

/-!
# Two readings of the health of a mesh

A directory scores the nodes that it sees itself, from 0 to 100, and the
observations that reach it from others are resolved node by node to scores from
0 to 1. Either way the mesh gets the median score, the tenth percentile, and how
many nodes have each label.

The two are to be coherent (`MeshHealth.Coherent`), and they are. What is not so
for the second is that it does not depend on the order of the observations
(`mesh_coherent_iff`): of equally fresh ones the last counts.

A node that most of its evaluators agree on has their label and the median of
their scores. But the median is rounded, and its label is that of the rounded
one, which may be another (`majority_kept_iff`).
-/

/-! ## The scores of a directory -/

/-- `HealthSignals`. -/
structure HealthSignals where
  reachability : ℚ
  latencyMs : Option ℚ

/-- **The health of a node**: its score and the label of that. -/
structure NodeHealth where
  score : ℕ
  label : HealthLabel
  label_eq : label = Health.label score

/-- `Components`. -/
structure HealthComponents where
  reachability : ℚ
  latency : ℚ

/-- The figures of a mesh. -/
structure MeshHealth where
  score : ℚ
  label : HealthLabel
  mean : Option ℚ
  p10 : Option ℚ
  distribution : FederatedMeshHealth.Distribution
  sample : ℕ
  deriving DecidableEq

namespace Health

/-- `latency_curve`: one up to 50 ms, nothing from 500 ms on. -/
def latencyCurve (ms : ℚ) : ℚ := max 0 (min (1 - (ms - 50) / 450) 1)

/-- `latency_score`: what was not measured is in the middle. -/
def latencyScore : Option ℚ → ℚ
  | some ms => if 0 < ms then latencyCurve ms else 1 / 2
  | none => 1 / 2

/-- `components_of`. -/
def componentsOf (s : HealthSignals) : HealthComponents where
  reachability := max 0 (min s.reachability 1)
  latency := latencyScore s.latencyMs

/-- `score_node`. -/
def scoreNode (s : HealthSignals) : NodeHealth where
  score :=
    let c := componentsOf s
    (roundHalfAway ((7 / 10 * c.reachability + 3 / 10 * c.latency) * 100)).toNat
  label := Health.label
    (roundHalfAway ((7 / 10 * (componentsOf s).reachability
      + 3 / 10 * (componentsOf s).latency) * 100)).toNat
  label_eq := rfl

/-- `percentile`, of scores from 0 to 100. -/
def percentile (sorted : List ℕ) (p : ℕ) : ℕ :=
  let n := sorted.length
  if n = 0 then 0
  else
    let rank := ⌈(p / 100 : ℚ) * n⌉
    sorted.getD (min (max (rank - 1) 0) (n - 1)).toNat 0

/-- How many have each of some labels. -/
def distributionOf (labels : List HealthLabel) : FederatedMeshHealth.Distribution where
  healthy := labels.countP (· = .healthy)
  degraded := labels.countP (· = .degraded)
  impaired := labels.countP (· = .impaired)
  critical := labels.countP (· = .critical)
  offline := labels.countP (· = .offline)

/-- **`mesh_health`.** -/
def meshHealth (healths : List NodeHealth) : MeshHealth :=
  if healths = [] then ⟨0, .unavailable, none, none, ⟨0, 0, 0, 0, 0⟩, 0⟩
  else
    let scores := (healths.map NodeHealth.score).insertionSort (· ≤ ·)
    let median := percentile scores 50
    let avg := (scores.map (Nat.cast : ℕ → ℚ)).sum / (healths.length : ℚ)
    { score := round3 (median / 100)
      label := if healths.length < minMeshSample then .insufficientSample else label median
      mean := some (round3 (avg / 100))
      p10 := some (round3 (percentile scores 10 / 100))
      distribution := distributionOf (healths.map NodeHealth.label)
      sample := healths.length }

end Health

/-- The figures that both have. -/
def FederatedMeshHealth.mesh (m : FederatedMeshHealth) : MeshHealth where
  score := m.score
  label := m.label
  mean := m.mean
  p10 := m.p10
  distribution := m.distribution
  sample := m.sample

namespace FederatedMeshHealth.Distribution

/-- All that are counted. -/
def total (d : Distribution) : ℕ := d.healthy + d.degraded + d.impaired + d.critical + d.offline

/-- Those of a label. -/
def count (d : Distribution) : HealthLabel → ℕ
  | .healthy => d.healthy
  | .degraded => d.degraded
  | .impaired => d.impaired
  | .critical => d.critical
  | .offline => d.offline
  | .unavailable => 0
  | .insufficientSample => 0

end FederatedMeshHealth.Distribution

/-- **The figures are coherent**: the tenth percentile is not above the median,
every node is counted once, and the label of a sample that is large enough is
that of some node. -/
structure MeshHealth.Coherent (m : MeshHealth) : Prop where
  ordered : ∀ p10 ∈ m.p10, p10 ≤ m.score
  counted : m.distribution.total = m.sample
  represented : Health.minMeshSample ≤ m.sample → 0 < m.distribution.count m.label

namespace Health

open FederatedMeshHealth

/-! ## Rounding and labels -/

theorem round3_mono {p q : ℚ} (h : p ≤ q) : round3 p ≤ round3 q := by
  have hle := roundHalfAway_mono (p := p * 1000) (q := q * 1000) (by linarith)
  have hcast : ((roundHalfAway (p * 1000) : ℤ) : ℚ) ≤ (roundHalfAway (q * 1000) : ℤ) :=
    Int.cast_le.mpr hle
  unfold round3
  linarith

/-- A score has one of four labels. -/
theorem label_mem (score : ℕ) : label score ∈ [HealthLabel.healthy, .degraded, .impaired, .critical] := by
  unfold label
  split_ifs <;> simp

/-- The labels of two scores are the same where no threshold is between them. -/
theorem label_eq_iff {first second : ℕ} :
    label first = label second ↔ (85 ≤ first ↔ 85 ≤ second) ∧ (65 ≤ first ↔ 65 ≤ second)
      ∧ (40 ≤ first ↔ 40 ≤ second) := by
  unfold label
  split_ifs <;> simp <;> omega

/-- **What lies between two scores of a label has the label.** -/
theorem label_between {low score high : ℕ} (hends : label low = label high) (h : low ≤ score)
    (h' : score ≤ high) : label score = label low := by
  obtain ⟨hhealthy, hdegraded, himpaired⟩ := label_eq_iff.mp hends
  exact label_eq_iff.mpr ⟨by omega, by omega, by omega⟩

/-- So it is with the scores from 0 to 1. -/
theorem label01_between {low score high : ℚ} (hends : label01 low = label01 high)
    (h : low ≤ score) (h' : score ≤ high) : label01 score = label01 low := by
  have hmono : ∀ {p q : ℚ}, p ≤ q →
      (roundHalfAway (p * 100)).toNat ≤ (roundHalfAway (q * 100)).toNat := fun hpq =>
    Int.toNat_le_toNat (roundHalfAway_mono (by linarith))
  exact label_between hends (hmono h) (hmono h')

/-! ## Percentiles -/

/-- **A percentile is the nearest rank** of its sample, for either kind of
scores; it is looked for within the sample. -/
theorem percentile_eq (sorted : List ℕ) (p : ℕ) :
    percentile sorted p = sorted.getD (NearestRank.index sorted.length p) 0 := by
  unfold percentile
  cases sorted with
  | nil => rfl
  | cons first rest => exact if_neg (Nat.succ_ne_zero _)

theorem percentileF64_eq (sorted : List ℚ) (p : ℕ) :
    percentileF64 sorted p = sorted.getD (NearestRank.index sorted.length p) 0 := by
  unfold percentileF64
  cases sorted with
  | nil => rfl
  | cons first rest => exact if_neg (Nat.succ_ne_zero _)

theorem isNearestRank_percentile {sorted : List ℕ} (hsorted : sorted.Pairwise (· ≤ ·))
    (hne : sorted ≠ []) {p : ℕ} (hp : p ≤ 100) :
    NearestRank.IsNearestRank sorted p (percentile sorted p) := by
  rw [percentile_eq]
  exact NearestRank.isNearestRank_getD hsorted hne hp 0

theorem isNearestRank_percentileF64 {sorted : List ℚ} (hsorted : sorted.Pairwise (· ≤ ·))
    (hne : sorted ≠ []) {p : ℕ} (hp : p ≤ 100) :
    NearestRank.IsNearestRank sorted p (percentileF64 sorted p) := by
  rw [percentileF64_eq]
  exact NearestRank.isNearestRank_getD hsorted hne hp 0

/-- That of scores in any order. -/
theorem isNearestRank_ascending {scores : List ℚ} (hne : scores ≠ []) {p : ℕ} (hp : p ≤ 100) :
    NearestRank.IsNearestRank scores p (percentileF64 (ascending scores) p) := by
  have hperm : (ascending scores).Perm scores := List.perm_insertionSort _ _
  refine (isNearestRank_percentileF64 (List.pairwise_insertionSort _ scores) ?_ hp).perm hperm
  intro hnil
  have hnone : (ascending scores).length = 0 := by
    unfold ascending
    rw [hnil, List.length_nil]
  exact hne (List.length_eq_zero_iff.mp (hperm.length_eq.symm.trans hnone))

/-! ## Distributions -/

/-- **Every node is counted once** if each has one of the labels. -/
theorem total_distributionOf {labels : List HealthLabel}
    (h : ∀ l ∈ labels, l ∈ [HealthLabel.healthy, .degraded, .impaired, .critical]) :
    (distributionOf labels).total = labels.length := by
  induction labels with
  | nil => rfl
  | cons l rest ih =>
    have hrest := ih fun l hl => h l (List.mem_cons_of_mem _ hl)
    have hl := h l List.mem_cons_self
    unfold distributionOf Distribution.total at hrest ⊢
    dsimp only at hrest ⊢
    simp only [List.countP_cons, List.length_cons]
    simp only [List.mem_cons, List.not_mem_nil, or_false] at hl
    rcases hl with rfl | rfl | rfl | rfl <;> simp <;> omega

/-- The count of a label that some node has. -/
theorem count_distributionOf_pos {labels : List HealthLabel} {l : HealthLabel} (hl : l ∈ labels)
    (h : l ∈ [HealthLabel.healthy, .degraded, .impaired, .critical]) :
    0 < (distributionOf labels).count l := by
  simp only [List.mem_cons, List.not_mem_nil, or_false] at h
  rcases h with rfl | rfl | rfl | rfl <;>
    exact List.countP_pos_iff.mpr ⟨_, hl, decide_eq_true rfl⟩

/-! ## Coherence -/

/-- **The mesh of a directory is coherent.** -/
theorem coherent_meshHealth (healths : List NodeHealth) : (meshHealth healths).Coherent := by
  unfold meshHealth
  by_cases hnil : healths = []
  · rw [if_pos hnil]
    exact ⟨fun _ h => absurd h (by simp), rfl, fun h => absurd h (by decide)⟩
  rw [if_neg hnil]
  dsimp only
  set scores := (healths.map NodeHealth.score).insertionSort (· ≤ ·)
  have hperm : scores.Perm (healths.map NodeHealth.score) := List.perm_insertionSort _ _
  have hsorted : scores.Pairwise (· ≤ ·) := List.pairwise_insertionSort _ _
  have hne : scores ≠ [] := fun h =>
    hnil (List.map_eq_nil_iff.mp (List.Perm.eq_nil (h ▸ hperm).symm))
  have hmedian := isNearestRank_percentile hsorted hne (by decide : 50 ≤ 100)
  have hp10 := isNearestRank_percentile hsorted hne (by decide : 10 ≤ 100)
  have hlabels : ∀ l ∈ healths.map NodeHealth.label,
      l ∈ [HealthLabel.healthy, .degraded, .impaired, .critical] := by
    intro l hl
    obtain ⟨h, -, rfl⟩ := List.mem_map.mp hl
    rw [h.label_eq]
    exact label_mem h.score
  refine ⟨?_, ?_, fun hlarge => ?_⟩
  · intro p10 hp
    obtain rfl := Option.some.inj hp
    have hle := hp10.mono hmedian (by decide)
    exact round3_mono (div_le_div_of_nonneg_right (Nat.cast_le.mpr hle) (by norm_num))
  · rw [total_distributionOf hlabels, List.length_map]
  · rw [if_neg (not_lt.mpr hlarge)]
    obtain ⟨h, hh, hscore⟩ := List.mem_map.mp (hperm.mem_iff.mp hmedian.mem)
    rw [← hscore, ← h.label_eq]
    have hl := List.mem_map_of_mem (f := NodeHealth.label) hh
    exact count_distributionOf_pos hl (hlabels _ hl)

/-- The order of the nodes does not matter. -/
theorem meshHealth_perm {first second : List NodeHealth} (h : first.Perm second) :
    meshHealth first = meshHealth second := by
  have hscores : (first.map NodeHealth.score).insertionSort (· ≤ ·)
      = (second.map NodeHealth.score).insertionSort (· ≤ ·) :=
    ((List.perm_insertionSort _ _).trans ((h.map _).trans
      (List.perm_insertionSort _ _).symm)).eq_of_pairwise' (List.pairwise_insertionSort _ _)
      (List.pairwise_insertionSort _ _)
  have hlabels : distributionOf (first.map NodeHealth.label)
      = distributionOf (second.map NodeHealth.label) := by
    unfold distributionOf
    simp only [(h.map NodeHealth.label).countP_eq]
  have hnil : first = [] ↔ second = [] :=
    ⟨fun he => List.Perm.eq_nil (he ▸ h.symm), fun he => List.Perm.eq_nil (he ▸ h)⟩
  unfold meshHealth
  simp only [hnil, hscores, hlabels, h.length_eq]

/-- The label of a node is that of its score. -/
theorem label_resolveNode (order : MapOrder) {obs : List HealthObservation} (h : obs ≠ []) :
    (resolveNode order obs).label = label01 (resolveNode order obs).score := by
  obtain ⟨newest, hnewest⟩ := freshest_isSome h
  unfold resolveNode
  rw [hnewest]
  dsimp only
  unfold resolveWith
  split
  · rfl
  · split <;> rfl

/-- What is aggregated of nodes that have the label of their score is
coherent. -/
theorem coherent_aggregate {resolved : List ResolvedNode} (hne : resolved ≠ [])
    (h : ∀ r ∈ resolved, r.label = label01 r.score) : (aggregate resolved).mesh.Coherent := by
  have hscores : resolved.map ResolvedNode.score ≠ [] := fun he => hne (List.map_eq_nil_iff.mp he)
  have hmedian := isNearestRank_ascending hscores (by decide : 50 ≤ 100)
  have hp10 := isNearestRank_ascending hscores (by decide : 10 ≤ 100)
  have hsample : (ascending (resolved.map ResolvedNode.score)).length = resolved.length := by
    unfold ascending
    rw [List.length_insertionSort, List.length_map]
  have hdistribution : (aggregate resolved).mesh.distribution
      = distributionOf (resolved.map ResolvedNode.label) := by
    unfold distributionOf
    simp only [List.countP_map]
    rfl
  have hlabels : ∀ l ∈ resolved.map ResolvedNode.label,
      l ∈ [HealthLabel.healthy, .degraded, .impaired, .critical] := by
    intro l hl
    obtain ⟨r, hr, rfl⟩ := List.mem_map.mp hl
    rw [h r hr]
    exact label_mem _
  refine ⟨?_, ?_, fun hlarge => ?_⟩
  · intro p10 hp
    obtain rfl := Option.some.inj hp
    exact round3_mono (hp10.mono hmedian (by decide))
  · rw [hdistribution, total_distributionOf hlabels, List.length_map]
    exact hsample.symm
  · have hlabel : (aggregate resolved).mesh.label
        = label01 (percentileF64 (ascending (resolved.map ResolvedNode.score)) 50) :=
      if_neg (not_lt.mpr hlarge)
    obtain ⟨r, hr, hscore⟩ := List.mem_map.mp hmedian.mem
    rw [hdistribution, hlabel, ← hscore, ← h r hr]
    have hl := List.mem_map_of_mem (f := ResolvedNode.label) hr
    exact count_distributionOf_pos hl (hlabels _ hl)

/-- **The mesh of a federation is coherent**, whatever the orders. -/
theorem coherent_federatedMeshHealth (order : MapOrder) (obs : List HealthObservation) :
    (federatedMeshHealth order obs).mesh.Coherent := by
  unfold federatedMeshHealth
  by_cases hnil : obs = []
  · rw [if_pos hnil]
    exact ⟨fun _ h => absurd h (by simp [noObservations, FederatedMeshHealth.mesh]), rfl,
      fun h => absurd h (by decide)⟩
  rw [if_neg hnil]
  refine coherent_aggregate ?_ fun r hr => ?_
  · obtain ⟨o, ho⟩ := List.exists_mem_of_ne_nil obs hnil
    have hn : o.nodeId ∈ order.groups (nodes obs) :=
      (order.groups_perm _).mem_iff.mpr (mem_nodes.mpr ⟨o, ho, rfl⟩)
    exact List.ne_nil_of_mem (List.mem_map_of_mem hn)
  · obtain ⟨n, hn, rfl⟩ := List.mem_map.mp hr
    obtain ⟨o, ho, hnode⟩ := mem_nodes.mp ((order.groups_perm _).mem_iff.mp hn)
    exact label_resolveNode order (List.ne_nil_of_mem (mem_groupOf.mpr ⟨ho, hnode⟩))

/-! ## Orders -/

/-- The votes of a majority are the same ones in any order of the observations,
where the labels are looked at in one. -/
theorem majority_listed (order : MapOrder) {first second : List HealthObservation}
    (h : first.Perm second) :
    Option.Rel List.Perm (majority order first) (majority order second) := by
  have hwins : (fun l => decide (evaluators first / 2 + 1 ≤ (bucket l first).length))
      = fun l => decide (evaluators second / 2 + 1 ≤ (bucket l second).length) := by
    funext l
    rw [evaluators_perm h, (bucket_perm h l).length_eq]
  unfold majority
  rw [hwins]
  cases order.labels.find? _ with
  | none => exact .none
  | some l => exact .some (bucket_perm h l)

/-- **The figures of given freshest observations** do not depend on the order of
the list. -/
theorem figuresWith_listed (order : MapOrder) (newest : String → HealthObservation)
    {first second : List HealthObservation} (h : first.Perm second) :
    figuresWith order newest first = figuresWith order newest second := by
  have hnil : first = [] ↔ second = [] :=
    ⟨fun he => List.Perm.eq_nil (he ▸ h.symm), fun he => List.Perm.eq_nil (he ▸ h)⟩
  have hresolve : ∀ n, resolveWith order (newest n) (groupOf n first)
      = resolveWith order (newest n) (groupOf n second) := fun n =>
    resolveWith_of_majority (evaluators_perm (h.filter _)) (majority_listed order (h.filter _))
  unfold figuresWith
  simp only [hnil, hresolve]
  split
  · rfl
  · exact aggregate_perm (List.Perm.map _
      (((order.groups_perm _).trans (nodes_perm h)).trans (order.groups_perm _).symm))

/-- However the observations are listed, the figures are those of some choice of
the freshest. -/
theorem exists_freshest (order : MapOrder) {obs listed : List HealthObservation}
    (hperm : listed.Perm obs) :
    ∃ newest, Replica.Picks obs newest
      ∧ federatedMeshHealth order listed = figuresWith order newest obs := by
  obtain ⟨newest, hpicks, hnewest⟩ := Replica.exists_newest hperm
  refine ⟨newest, hpicks, ?_⟩
  rw [federatedMeshHealth_eq order hnewest]
  exact figuresWith_listed order newest hperm

/-- **Every choice is made by some list**: that in which the chosen come
last. -/
theorem exists_listed {obs : List HealthObservation} {newest : String → HealthObservation}
    (hpicks : Replica.Picks obs newest) :
    ∃ listed : List HealthObservation, listed.Perm obs ∧ ∀ order,
      federatedMeshHealth order listed = figuresWith order newest obs := by
  set chosen : HealthObservation → Bool := fun o => decide (o = newest o.nodeId)
  have hperm : (obs.filter (fun o => !chosen o) ++ obs.filter chosen).Perm obs :=
    List.perm_append_comm.trans (List.filter_append_perm chosen obs)
  refine ⟨_, hperm, fun order => ?_⟩
  refine (federatedMeshHealth_eq order fun o ho => ?_).trans (figuresWith_listed order newest hperm)
  obtain ⟨hmem, hmax⟩ := hpicks o (hperm.mem_iff.mp ho)
  obtain ⟨hin, hnode⟩ := mem_groupOf.mp hmem
  -- of the chosen those of a node are one, as often as it is there
  have hsame : ∀ x ∈ groupOf o.nodeId (obs.filter chosen), x = newest o.nodeId := by
    intro x hx
    obtain ⟨hx, hxnode⟩ := mem_groupOf.mp hx
    have heq := of_decide_eq_true (List.mem_filter.mp hx).2
    rwa [hxnode] at heq
  have hthere : newest o.nodeId ∈ groupOf o.nodeId (obs.filter chosen) := by
    refine mem_groupOf.mpr ⟨List.mem_filter.mpr ⟨hin, decide_eq_true ?_⟩, hnode⟩
    rw [hnode]
  obtain ⟨k, hk⟩ := Nat.exists_eq_succ_of_ne_zero
    (List.length_pos_iff.mpr (List.ne_nil_of_mem hthere)).ne'
  have hlast : groupOf o.nodeId (obs.filter chosen)
      = List.replicate k (newest o.nodeId) ++ [newest o.nodeId] := by
    rw [List.eq_replicate_of_mem hsame, hk, List.replicate_succ']
  have hgroup : groupOf o.nodeId (obs.filter (fun o => !chosen o) ++ obs.filter chosen)
      = (groupOf o.nodeId (obs.filter fun o => !chosen o)
          ++ List.replicate k (newest o.nodeId)) ++ [newest o.nodeId] := by
    rw [List.append_assoc, ← hlast]
    exact List.filter_append ..
  rw [hgroup]
  refine freshest_of_last fun x hx => ?_
  rcases List.mem_append.mp hx with hx | hx
  · obtain ⟨hx, hxnode⟩ := mem_groupOf.mp hx
    exact hmax x (mem_groupOf.mpr ⟨(List.mem_filter.mp hx).1, hxnode⟩)
  · rw [List.eq_of_mem_replicate hx]

/-- **The observations are settled**: it makes no difference to the figures which
of the equally fresh observations of a node counts, nor in which order the labels
and the nodes come out of a map. -/
def Settled (obs : List HealthObservation) : Prop :=
  ∀ order order' newest newest', Replica.Picks obs newest → Replica.Picks obs newest' →
    figuresWith order newest obs = figuresWith order' newest' obs

/-- **The figures of a federation do not depend on any order** exactly if the
observations are settled. -/
theorem federated_same_iff (obs : List HealthObservation) :
    (∀ order order' first second, first.Perm obs → second.Perm obs →
      federatedMeshHealth order first = federatedMeshHealth order' second) ↔ Settled obs := by
  constructor
  · intro hall order order' newest newest' hpicks hpicks'
    obtain ⟨first, hfirst, hfigures⟩ := exists_listed hpicks
    obtain ⟨second, hsecond, hfigures'⟩ := exists_listed hpicks'
    rw [← hfigures order, ← hfigures' order']
    exact hall order order' first second hfirst hsecond
  · intro hsettled order order' first second hfirst hsecond
    obtain ⟨newest, hpicks, hfigures⟩ := exists_freshest order hfirst
    obtain ⟨newest', hpicks', hfigures'⟩ := exists_freshest order' hsecond
    rw [hfigures, hfigures']
    exact hsettled order order' newest newest' hpicks hpicks'

namespace Sample

/-- Two evaluators see a node at the same time. -/
def equallyFresh : List HealthObservation :=
  [⟨"n1", "did:web:e1", 9 / 10, 1000⟩, ⟨"n1", "did:web:e2", 1 / 10, 1000⟩]

end Sample

/-- **The thousandth nearest to a score**, the greater one of two. -/
def NearestThousandth (k : ℤ) (score : ℚ) : Prop :=
  2 * k - 1 ≤ 2000 * score ∧ 2000 * score < 2 * k + 1

/-- There is one, and it is what a score is rounded to. -/
theorem round3_eq_iff {k : ℤ} {score : ℚ} (h : 0 ≤ score) :
    round3 score = k / 1000 ↔ NearestThousandth k score := by
  have hround : roundHalfAway (score * 1000) = ⌊score * 1000 + 1 / 2⌋ :=
    if_pos (mul_nonneg h (by norm_num))
  have hcast : round3 score = k / 1000 ↔ roundHalfAway (score * 1000) = k := by
    unfold round3
    rw [div_left_inj' (by norm_num), Int.cast_inj]
  rw [hcast, hround, Int.floor_eq_iff]
  unfold NearestThousandth
  constructor
  · rintro ⟨hlow, hhigh⟩
    constructor <;> linarith
  · rintro ⟨hlow, hhigh⟩
    constructor <;> linarith

theorem mem_bucket {l : HealthLabel} {obs : List HealthObservation} {score : ℚ} :
    score ∈ bucket l obs ↔ ∃ o ∈ obs, o.score = score ∧ label01 score = l := by
  unfold bucket
  rw [List.mem_map]
  constructor
  · rintro ⟨o, ho, rfl⟩
    obtain ⟨hmem, hlabel⟩ := List.mem_filter.mp ho
    exact ⟨o, hmem, rfl, of_decide_eq_true hlabel⟩
  · rintro ⟨o, hmem, rfl, hlabel⟩
    exact ⟨o, List.mem_filter.mpr ⟨hmem, decide_eq_true hlabel⟩, rfl⟩

/-- What most of the evaluators vote for is found, whatever the order. -/
theorem majority_eq (order : MapOrder) {obs : List HealthObservation}
    (hone : (obs.map HealthObservation.evaluatorDid).Nodup) {l : HealthLabel}
    (h : evaluators obs / 2 + 1 ≤ (bucket l obs).length) :
    majority order obs = some (bucket l obs) := by
  have hlabel : l ∈ order.labels := by
    obtain ⟨score, hscore⟩ := List.exists_mem_of_length_pos (Nat.lt_of_lt_of_le (Nat.succ_pos _) h)
    obtain ⟨-, -, -, rfl⟩ := mem_bucket.mp hscore
    exact order.labels_perm.mem_iff.mpr (label_mem _)
  unfold majority
  cases hfind : order.labels.find? _ with
  | none => exact absurd (decide_eq_true h) (List.find?_eq_none.mp hfind l hlabel)
  | some l' =>
    have hwins : evaluators obs / 2 + 1 ≤ (bucket l' obs).length := by
      simpa using List.find?_some hfind
    rw [majority_unique hone h hwins]
    rfl

/-- **The majority keeps a node**: it is resolved by them, has their label, and
its score is between theirs. -/
structure Kept (l : HealthLabel) (obs : List HealthObservation) (r : ResolvedNode) : Prop where
  resolution : r.resolution = .majority
  label : r.label = l
  above : ∃ low ∈ bucket l obs, low ≤ r.score
  below : ∃ high ∈ bucket l obs, r.score ≤ high

/-- **A majority keeps a node** exactly if its scores reach, from below and from
above, the thousandth that is nearest to the median of them. -/
theorem majority_kept_iff (order : MapOrder) {obs : List HealthObservation} {l : HealthLabel}
    (hone : (obs.map HealthObservation.evaluatorDid).Nodup)
    (hscores : ∀ o ∈ obs, 0 ≤ o.score ∧ o.score ≤ 1)
    (hquorum : healthQuorum ≤ evaluators obs)
    (hmajority : evaluators obs < 2 * (bucket l obs).length) :
    Kept l obs (resolveNode order obs)
      ↔ ∃ median, NearestRank.IsNearestRank (bucket l obs) 50 median
        ∧ ∃ k : ℤ, NearestThousandth k median ∧ (∃ low ∈ bucket l obs, low ≤ (k : ℚ) / 1000)
          ∧ ∃ high ∈ bucket l obs, (k : ℚ) / 1000 ≤ high := by
  have hne : bucket l obs ≠ [] := fun hnil => by
    rw [hnil, List.length_nil] at hmajority
    exact absurd hmajority (Nat.not_lt_zero _)
  have hobs : obs ≠ [] := fun hnil => hne (by rw [hnil]; rfl)
  obtain ⟨newest, hnewest⟩ := freshest_isSome hobs
  have hfound := majority_eq order hone (l := l) (by omega)
  set median := percentileF64 (ascending (bucket l obs)) 50
  have hmedian := isNearestRank_ascending hne (by decide : 50 ≤ 100)
  have hresolved : resolveNode order obs
      = ⟨round3 median, label01 (round3 median), .majority, evaluators obs, false⟩ := by
    unfold resolveNode
    rw [hnewest]
    dsimp only
    unfold resolveWith
    rw [if_neg (not_lt.mpr hquorum), hfound]
  have hnonneg : 0 ≤ median := by
    obtain ⟨o, ho, hscore, -⟩ := mem_bucket.mp hmedian.mem
    exact (hscores o ho).1.trans hscore.le
  rw [hresolved]
  constructor
  · rintro ⟨-, -, habove, hbelow⟩
    have hround : round3 median = (roundHalfAway (median * 1000) : ℤ) / 1000 := rfl
    refine ⟨median, hmedian, _, (round3_eq_iff hnonneg).mp hround, ?_⟩
    rw [← hround]
    exact ⟨habove, hbelow⟩
  · rintro ⟨median', hmedian', k, hk, ⟨low, hlow, hle⟩, high, hhigh, hge⟩
    obtain rfl : median' = median := hmedian'.unique hmedian
    rw [← (round3_eq_iff hnonneg).mpr hk] at hle hge
    obtain ⟨-, -, -, hlowlabel⟩ := mem_bucket.mp hlow
    obtain ⟨-, -, -, hhighlabel⟩ := mem_bucket.mp hhigh
    -- the label of the rounded score is theirs, as it lies between two of them
    have hlabel := label01_between (hlowlabel.trans hhighlabel.symm) hle hge
    exact ⟨rfl, hlabel.trans hlowlabel, ⟨low, hlow, hle⟩, high, hhigh, hge⟩

namespace Sample

/-- Three evaluators see the same. -/
def threeSee (score : ℚ) : List HealthObservation :=
  [⟨"n1", "did:web:e1", score, 1000⟩, ⟨"n1", "did:web:e2", score, 1000⟩,
    ⟨"n1", "did:web:e3", score, 1000⟩]

end Sample

theorem majority_kept_iff_sample : Kept .healthy (Sample.threeSee (9 / 10))
    (resolveNode .inserted (Sample.threeSee (9 / 10)))
      ↔ ∃ median, NearestRank.IsNearestRank (bucket .healthy (Sample.threeSee (9 / 10))) 50 median
        ∧ ∃ k : ℤ, NearestThousandth k median
          ∧ (∃ low ∈ bucket .healthy (Sample.threeSee (9 / 10)), low ≤ (k : ℚ) / 1000)
          ∧ ∃ high ∈ bucket .healthy (Sample.threeSee (9 / 10)), (k : ℚ) / 1000 ≤ high :=
  majority_kept_iff .inserted (by decide) (by decide +kernel) (by decide +kernel)
    (by decide +kernel)

/-- **A median is rounded out of the majority**: three scores of 0.8446 are
degraded, and of these comes 0.845, which is healthy. -/
theorem majority_rounded_away :
    (resolveNode .inserted (Sample.threeSee (8446 / 10000))).score = 845 / 1000
      ∧ (resolveNode .inserted (Sample.threeSee (8446 / 10000))).label = .healthy
      ∧ ¬ ∀ order obs l, (obs.map HealthObservation.evaluatorDid).Nodup →
        (∀ o ∈ obs, 0 ≤ o.score ∧ o.score ≤ 1) → healthQuorum ≤ evaluators obs →
        evaluators obs < 2 * (bucket l obs).length → Kept l obs (resolveNode order obs) := by
  refine ⟨by decide +kernel, by decide +kernel, fun h => ?_⟩
  have hkept := h .inserted (Sample.threeSee (8446 / 10000)) .degraded (by decide)
    (by decide +kernel) (by decide +kernel) (by decide +kernel)
  exact absurd hkept.label (by decide +kernel)

end Health
