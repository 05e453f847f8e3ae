import IicpDirectory.MySqlRepo
import IicpDirectory.Repo
import Mathlib.Data.List.Dedup
import Mathlib.Data.List.Sort

/-!
# Mesh health, over what several evaluators observed

Each directory replica keeps the latest observation of every evaluator
about every node. `resolveNode` settles on one score for a node: that of a
majority label if there are enough evaluators, else the one of the freshest
observation. `federatedMeshHealth` aggregates over all nodes.

The result is meant to be a function of the observations alone, identical
on every replica. What stands between is the order they are listed in: the
groups and the votes come out of hash maps in any order (`MapOrder`), and
of two equally fresh observations the one listed last is taken. The first
does not matter (`figuresWith_perm`); the second does, and
`federatedMeshHealth_eq` leaves it as the only thing that does.
-/

/-- The labels of a score, and those of an aggregate that has none. -/
inductive HealthLabel
  | healthy
  | degraded
  | impaired
  | critical
  | offline
  | unavailable
  | insufficientSample
  deriving DecidableEq

/-- How the score of a node was settled. -/
inductive Resolution
  | majority
  | mostRecent
  | unconfirmed
  | none
  deriving DecidableEq

/-- One node's canonical health. -/
structure ResolvedNode where
  score : ℚ
  label : HealthLabel
  resolution : Resolution
  evaluators : ℕ
  contested : Bool
  deriving DecidableEq

/-- How many nodes have each label. -/
structure FederatedMeshHealth.Distribution where
  healthy : ℕ
  degraded : ℕ
  impaired : ℕ
  critical : ℕ
  offline : ℕ
  deriving DecidableEq

/-- The aggregate over all nodes. -/
structure FederatedMeshHealth where
  score : ℚ
  label : HealthLabel
  mean : Option ℚ
  p10 : Option ℚ
  distribution : FederatedMeshHealth.Distribution
  sample : ℕ
  contested : ℕ
  unconfirmed : ℕ
  deriving DecidableEq

namespace Health

/-! ## Scores and labels -/

/-- `HEALTH_QUORUM`. -/
def healthQuorum : ℕ := 3

/-- `MIN_MESH_SAMPLE`. -/
def minMeshSample : ℕ := 3

/-- The label of a score from 0 to 100. -/
def label (score : ℕ) : HealthLabel :=
  if 85 ≤ score then .healthy
  else if 65 ≤ score then .degraded
  else if 40 ≤ score then .impaired
  else .critical

/-- The label of a score from 0 to 1; the cast to an unsigned integer
saturates. -/
def label01 (score : ℚ) : HealthLabel := label (roundHalfAway (score * 100)).toNat

/-- Rounded to three decimals. -/
def round3 (q : ℚ) : ℚ := (roundHalfAway (q * 1000) : ℚ) / 1000

/-- The nearest-rank percentile of an ascending list. -/
def percentileF64 (sorted : List ℚ) (p : ℕ) : ℚ :=
  let n := sorted.length
  if n = 0 then 0
  else
    let rank := ⌈(p / 100 : ℚ) * n⌉
    sorted.getD (min (max (rank - 1) 0) (n - 1)).toNat 0

/-- Scores in ascending order. -/
def ascending (scores : List ℚ) : List ℚ := scores.insertionSort (· ≤ ·)

theorem ascending_perm {first second : List ℚ} (h : first.Perm second) :
    ascending first = ascending second :=
  ((List.perm_insertionSort _ first).trans (h.trans (List.perm_insertionSort _ second).symm)).eq_of_pairwise'
    (List.pairwise_insertionSort _ first) (List.pairwise_insertionSort _ second)

/-! ## One node -/

/-- **The orders hash maps are iterated in**: that of the labels, and that of
the groups, for any keys there are. -/
structure MapOrder where
  labels : List HealthLabel
  labels_perm : labels.Perm [.healthy, .degraded, .impaired, .critical]
  groups : List String → List String
  groups_perm : ∀ keys, (groups keys).Perm keys

/-- The order the keys were inserted in. -/
def MapOrder.inserted : MapOrder where
  labels := [.healthy, .degraded, .impaired, .critical]
  labels_perm := .refl _
  groups keys := keys
  groups_perm keys := .refl keys

section Node

variable (order : MapOrder)

/-- How many evaluators there are. -/
def evaluators (obs : List HealthObservation) : ℕ :=
  (obs.map (fun o => o.evaluatorDid)).dedup.length

/-- `max_by_key` by evaluation time: the last of the freshest. -/
def freshest (obs : List HealthObservation) : Option HealthObservation :=
  obs.foldl (fun best o =>
    match best with
    | none => some o
    | some b => if b.evaluatedAtMs ≤ o.evaluatedAtMs then some o else some b) none

/-- The scores that are votes for a label. -/
def bucket (l : HealthLabel) (obs : List HealthObservation) : List ℚ :=
  (obs.filter (fun o => label01 o.score = l)).map (fun o => o.score)

/-- The votes of a label with a strict majority of the evaluators. -/
def majority (obs : List HealthObservation) : Option (List ℚ) :=
  (order.labels.find? (fun l => evaluators obs / 2 + 1 ≤ (bucket l obs).length)).map
    (fun l => bucket l obs)

/-- `resolve_node`, where the freshest observation is given. -/
def resolveWith (newest : HealthObservation) (obs : List HealthObservation) : ResolvedNode :=
  if evaluators obs < healthQuorum then
    { score := round3 newest.score
      label := label01 (round3 newest.score)
      resolution := .unconfirmed
      evaluators := evaluators obs
      contested := false }
  else
    match majority order obs with
    | some scores =>
      let median := round3 (percentileF64 (ascending scores) 50)
      { score := median
        label := label01 median
        resolution := .majority
        evaluators := evaluators obs
        contested := false }
    | none =>
      { score := round3 newest.score
        label := label01 (round3 newest.score)
        resolution := .mostRecent
        evaluators := evaluators obs
        contested := true }

/-- **`resolve_node`**. There are no evaluators exactly where there is no
observation, and so no freshest. -/
def resolveNode (obs : List HealthObservation) : ResolvedNode :=
  match freshest obs with
  | none => ⟨0, .unavailable, .none, 0, false⟩
  | some newest => resolveWith order newest obs

end Node

/-! ## All nodes -/

/-- The aggregate of nothing. -/
def noObservations : FederatedMeshHealth where
  score := 0
  label := .unavailable
  mean := none
  p10 := none
  distribution := ⟨0, 0, 0, 0, 0⟩
  sample := 0
  contested := 0
  unconfirmed := 0

/-- The aggregate of resolved nodes. -/
def aggregate (resolved : List ResolvedNode) : FederatedMeshHealth :=
  let scores := ascending (resolved.map (fun r => r.score))
  let median := percentileF64 scores 50
  let labelled := fun l => resolved.countP (fun r => r.label = l)
  { score := round3 median
    label := if scores.length < minMeshSample then .insufficientSample else label01 median
    mean := some (round3 (scores.sum / scores.length))
    p10 := some (round3 (percentileF64 scores 10))
    distribution :=
      { healthy := labelled .healthy
        degraded := labelled .degraded
        impaired := labelled .impaired
        critical := labelled .critical
        offline := labelled .offline }
    sample := scores.length
    contested := resolved.countP (fun r => r.contested)
    unconfirmed := resolved.countP (fun r => r.resolution = .unconfirmed) }

/-- The observations of a node. -/
def groupOf (nodeId : String) (obs : List HealthObservation) : List HealthObservation :=
  obs.filter (fun o => o.nodeId = nodeId)

/-- The nodes there are observations of. -/
def nodes (obs : List HealthObservation) : List String := (obs.map (fun o => o.nodeId)).dedup

/-- **`federated_mesh_health`**. -/
def federatedMeshHealth (order : MapOrder) (obs : List HealthObservation) : FederatedMeshHealth :=
  if obs = [] then noObservations
  else aggregate ((order.groups (nodes obs)).map (fun n => resolveNode order (groupOf n obs)))

/-- The same, where the freshest observation of each node is given. -/
def figuresWith (order : MapOrder) (newest : String → HealthObservation)
    (obs : List HealthObservation) : FederatedMeshHealth :=
  if obs = [] then noObservations
  else
    aggregate ((order.groups (nodes obs)).map
      (fun n => resolveWith order (newest n) (groupOf n obs)))

/-! ## What the orders do not change -/

/-- **The aggregate is one of the nodes, in any order.** -/
theorem aggregate_perm {first second : List ResolvedNode} (h : first.Perm second) :
    aggregate first = aggregate second := by
  unfold aggregate
  rw [ascending_perm (h.map _)]
  simp only [h.countP_eq]

theorem evaluators_perm {first second : List HealthObservation} (h : first.Perm second) :
    evaluators first = evaluators second :=
  ((h.map _).dedup).length_eq

theorem bucket_perm {first second : List HealthObservation} (h : first.Perm second)
    (l : HealthLabel) : (bucket l first).Perm (bucket l second) :=
  (h.filter _).map _

/-- With one vote for each evaluator, at most one label has a majority. -/
theorem majority_unique {obs : List HealthObservation}
    (hone : (obs.map (fun o => o.evaluatorDid)).Nodup) {l l' : HealthLabel}
    (hl : evaluators obs / 2 + 1 ≤ (bucket l obs).length)
    (hl' : evaluators obs / 2 + 1 ≤ (bucket l' obs).length) : l = l' := by
  have hcount : evaluators obs = obs.length := by
    unfold evaluators
    rw [List.Nodup.dedup hone, List.length_map]
  by_contra hne
  -- the two buckets are parts of the votes with nothing in common
  have hparts : (bucket l obs).length + (bucket l' obs).length ≤ obs.length := by
    unfold bucket
    rw [List.length_map, List.length_map, ← List.countP_eq_length_filter,
      ← List.countP_eq_length_filter]
    clear hl hl' hcount hone
    induction obs with
    | nil => simp
    | cons o rest ih =>
      rw [List.countP_cons, List.countP_cons, List.length_cons]
      by_cases h : label01 o.score = l
      · have h' : label01 o.score ≠ l' := fun he => hne (h.symm.trans he)
        simp only [h, decide_true, if_true] at h' ⊢
        simp only [h', decide_false, Bool.false_eq_true, if_false]
        omega
      · simp only [h, decide_false, Bool.false_eq_true, if_false]
        split <;> omega
  omega

/-- Two majorities are one, in whatever order the labels and the votes come. -/
theorem majority_perm (order order' : MapOrder) {first second : List HealthObservation}
    (h : first.Perm second) (hone : (first.map (fun o => o.evaluatorDid)).Nodup) :
    Option.Rel List.Perm (majority order first) (majority order' second) := by
  have hmem : ∀ l, l ∈ order.labels ↔ l ∈ order'.labels := fun l =>
    (order.labels_perm.trans order'.labels_perm.symm).mem_iff
  have hwins : ∀ l, evaluators first / 2 + 1 ≤ (bucket l first).length
      ↔ evaluators second / 2 + 1 ≤ (bucket l second).length := fun l => by
    rw [evaluators_perm h, (bucket_perm h l).length_eq]
  unfold majority
  cases hfirst : order.labels.find? (fun l =>
      evaluators first / 2 + 1 ≤ (bucket l first).length) with
  | none =>
    have hsecond : order'.labels.find? (fun l =>
        evaluators second / 2 + 1 ≤ (bucket l second).length) = none := by
      rw [List.find?_eq_none] at hfirst ⊢
      intro l hl
      rw [decide_eq_true_iff, ← hwins l]
      exact fun hw => hfirst l ((hmem l).mpr hl) (decide_eq_true hw)
    rw [hsecond]
    exact .none
  | some l =>
    have hl : evaluators first / 2 + 1 ≤ (bucket l first).length := by
      simpa using List.find?_some hfirst
    cases hsecond : order'.labels.find? (fun l =>
        evaluators second / 2 + 1 ≤ (bucket l second).length) with
    | none =>
      rw [List.find?_eq_none] at hsecond
      exact absurd (decide_eq_true ((hwins l).mp hl))
        (hsecond l ((hmem l).mp (List.mem_of_find?_eq_some hfirst)))
    | some l' =>
      have hl' : evaluators second / 2 + 1 ≤ (bucket l' second).length := by
        simpa using List.find?_some hsecond
      obtain rfl := majority_unique hone hl ((hwins l').mpr hl')
      exact .some (bucket_perm h l)

/-- Where the votes of the majority are the same, and the freshest, so is the
resolution. -/
theorem resolveWith_of_majority {order order' : MapOrder} {newest : HealthObservation}
    {first second : List HealthObservation} (hevaluators : evaluators first = evaluators second)
    (hmajority : Option.Rel List.Perm (majority order first) (majority order' second)) :
    resolveWith order newest first = resolveWith order' newest second := by
  unfold resolveWith
  rw [hevaluators]
  split
  · rfl
  · cases hfirst : majority order first with
    | none =>
      rw [hfirst] at hmajority
      cases hsecond : majority order' second with
      | none => rfl
      | some scores' =>
        rw [hsecond] at hmajority
        exact nomatch hmajority
    | some scores =>
      rw [hfirst] at hmajority
      cases hsecond : majority order' second with
      | none =>
        rw [hsecond] at hmajority
        exact nomatch hmajority
      | some scores' =>
        rw [hsecond] at hmajority
        cases hmajority with
        | some hperm =>
          dsimp only
          rw [ascending_perm hperm]

/-- **The resolution of a node depends on its observations and on which is
the freshest**, not on their order. -/
theorem resolveWith_perm (order order' : MapOrder) (newest : HealthObservation)
    {first second : List HealthObservation} (h : first.Perm second)
    (hone : (first.map (fun o => o.evaluatorDid)).Nodup) :
    resolveWith order newest first = resolveWith order' newest second :=
  resolveWith_of_majority (evaluators_perm h) (majority_perm order order' h hone)

theorem nodes_perm {first second : List HealthObservation} (h : first.Perm second) :
    (nodes first).Perm (nodes second) :=
  (h.map _).dedup

/-- There is one observation of a node by an evaluator. -/
def OneEach (obs : List HealthObservation) : Prop :=
  (obs.map (fun o => (o.nodeId, o.evaluatorDid))).Nodup

theorem evaluators_nodup {obs : List HealthObservation} (h : OneEach obs) (n : String) :
    ((groupOf n obs).map (fun o => o.evaluatorDid)).Nodup := by
  have hgroup : ((groupOf n obs).map (fun o => (o.nodeId, o.evaluatorDid))).Nodup :=
    h.sublist (List.filter_sublist.map _)
  have hpair : (groupOf n obs).map (fun o => (o.nodeId, o.evaluatorDid))
      = ((groupOf n obs).map (fun o => o.evaluatorDid)).map (fun e => (n, e)) := by
    rw [List.map_map]
    refine List.map_congr_left fun o ho => ?_
    show (o.nodeId, o.evaluatorDid) = (n, o.evaluatorDid)
    rw [of_decide_eq_true (List.mem_filter.mp ho).2]
  rw [hpair] at hgroup
  exact hgroup.of_map _

/-- **Given the freshest of each node, the figures do not depend on any
order.** -/
theorem figuresWith_perm (order order' : MapOrder) (newest : String → HealthObservation)
    {first second : List HealthObservation} (h : first.Perm second) (hone : OneEach first) :
    figuresWith order newest first = figuresWith order' newest second := by
  unfold figuresWith
  by_cases hnil : first = []
  · subst hnil
    rw [if_pos rfl, if_pos (List.Perm.nil_eq h).symm]
  · have hsecond : second ≠ [] := fun he => hnil (List.Perm.eq_nil (he ▸ h))
    rw [if_neg hnil, if_neg hsecond]
    have hresolve : ∀ n, resolveWith order (newest n) (groupOf n first)
        = resolveWith order' (newest n) (groupOf n second) := fun n =>
      resolveWith_perm order order' (newest n) (h.filter _) (evaluators_nodup hone n)
    simp only [hresolve]
    exact aggregate_perm (List.Perm.map _
      (((order.groups_perm _).trans (nodes_perm h)).trans (order'.groups_perm _).symm))

/-! ## What they do change -/

theorem freshest_append_singleton (obs : List HealthObservation) (o : HealthObservation) :
    freshest (obs ++ [o]) = some (match freshest obs with
      | none => o
      | some b => if b.evaluatedAtMs ≤ o.evaluatedAtMs then o else b) := by
  unfold freshest
  rw [List.foldl_append, List.foldl_cons, List.foldl_nil]
  split
  · rfl
  · split <;> rfl

/-- **The freshest is one of the observations**, and none is fresher. -/
theorem freshest_spec {obs : List HealthObservation} {b : HealthObservation}
    (h : freshest obs = some b) :
    b ∈ obs ∧ ∀ o ∈ obs, o.evaluatedAtMs ≤ b.evaluatedAtMs := by
  induction obs using List.reverseRecOn generalizing b with
  | nil => exact absurd h (by simp [freshest])
  | append_singleton obs o ih =>
    rw [freshest_append_singleton] at h
    have hb := Option.some.inj h
    have hlast : o ∈ obs ++ [o] := List.mem_append_right _ (List.mem_singleton.mpr rfl)
    cases hobs : freshest obs with
    | none =>
      rw [hobs] at hb
      obtain rfl : o = b := hb
      have hnil : obs = [] := by
        cases obs using List.reverseRecOn with
        | nil => rfl
        | append_singleton xs x =>
          rw [freshest_append_singleton] at hobs
          exact absurd hobs (by simp)
      rw [hnil]
      exact ⟨List.mem_singleton.mpr rfl, fun x hx => by rw [List.mem_singleton.mp hx]⟩
    | some c =>
      rw [hobs] at hb
      obtain ⟨hmem, hmax⟩ := ih hobs
      dsimp only at hb
      by_cases hle : c.evaluatedAtMs ≤ o.evaluatedAtMs
      · rw [if_pos hle] at hb
        subst hb
        refine ⟨hlast, fun x hx => ?_⟩
        rcases List.mem_append.mp hx with hx | hx
        · exact (hmax x hx).trans hle
        · rw [List.mem_singleton.mp hx]
      · rw [if_neg hle] at hb
        subst hb
        refine ⟨List.mem_append_left _ hmem, fun x hx => ?_⟩
        rcases List.mem_append.mp hx with hx | hx
        · exact hmax x hx
        · rw [List.mem_singleton.mp hx]
          exact (not_le.mp hle).le

theorem freshest_isSome {obs : List HealthObservation} (h : obs ≠ []) :
    ∃ b, freshest obs = some b := by
  cases obs using List.reverseRecOn with
  | nil => exact absurd rfl h
  | append_singleton obs o => exact ⟨_, freshest_append_singleton obs o⟩

/-- One that is listed last and that none is fresher than is taken. -/
theorem freshest_of_last {obs : List HealthObservation} {o : HealthObservation}
    (h : ∀ x ∈ obs, x.evaluatedAtMs ≤ o.evaluatedAtMs) : freshest (obs ++ [o]) = some o := by
  rw [freshest_append_singleton]
  cases hobs : freshest obs with
  | none => rfl
  | some b =>
    dsimp only
    rw [if_pos (h b (freshest_spec hobs).1)]

theorem mem_groupOf {n : String} {obs : List HealthObservation} {o : HealthObservation} :
    o ∈ groupOf n obs ↔ o ∈ obs ∧ o.nodeId = n := by
  unfold groupOf
  rw [List.mem_filter, decide_eq_true_iff]

theorem mem_nodes {n : String} {obs : List HealthObservation} :
    n ∈ nodes obs ↔ ∃ o ∈ obs, o.nodeId = n := by
  unfold nodes
  rw [List.mem_dedup, List.mem_map]

/-- **All that the order decides is which of the freshest is taken.** -/
theorem federatedMeshHealth_eq (order : MapOrder) {obs : List HealthObservation}
    {newest : String → HealthObservation}
    (h : ∀ o ∈ obs, freshest (groupOf o.nodeId obs) = some (newest o.nodeId)) :
    federatedMeshHealth order obs = figuresWith order newest obs := by
  unfold federatedMeshHealth figuresWith
  congr 2
  refine List.map_congr_left fun n hn => ?_
  obtain ⟨o, ho, rfl⟩ := mem_nodes.mp ((order.groups_perm _).mem_iff.mp hn)
  unfold resolveNode
  rw [h o ho]

end Health
