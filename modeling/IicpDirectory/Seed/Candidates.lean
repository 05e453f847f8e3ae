import IicpDirectory.Seed.Eligibility
import IicpDirectory.Seed.ListedRows
import IicpDirectory.SelectionOrder

/-!
# The candidates of a discovery

A discovery ranks what the repository gives it, and that is a bounded set of
candidates: of the nodes that match the query the fifty with the greatest stored
score, which is not the score a selection ranks by. Who is a member, which models
a node has and what it is asked for is looked at after that.

So the best node is listed first where it is among the candidates, and only
there (`best_listed_iff`). Fifty nodes that match are never too many.
-/

/-- **A repository that discoveries ask**: the records in memory, or the tables,
at a time. -/
inductive DiscoverableStore (fold : String → String)
  | memory (repo : InMemoryRepo)
  | tables (s : ListingTables fold) (nowMs : ℤ) (curtime : ℕ)

namespace DiscoverableStore

open DiscoveryPolicy

variable {fold : String → String}

/-- **The stored nodes that match a query**: that are available, serve the intent
and pass the filters of the repository. -/
def passing (q : DiscoverQuery) : DiscoverableStore fold → List Node
  | .memory repo =>
    (repo.records.filter (InMemoryRepo.matchesQuery q)).map (InMemoryRepo.presentFor q)
  | .tables s nowMs curtime =>
    ((s.tables.nodes.nodes.rows.map s.tables.seen).filter
      (MySqlRepo.matchesQuery fold q nowMs)).map (s.nodeOf q.intent curtime)

/-- What the repository answers. -/
def discover (q : DiscoverQuery) : DiscoverableStore fold → List Node
  | .memory repo => repo.discover q
  | .tables s nowMs curtime => s.discover q nowMs curtime

/-- The answer cuts what passes, by descending stored score, at what is asked
for. -/
theorem discover_eq (store : DiscoverableStore fold) {q : DiscoverQuery}
    (hlimit : 1 ≤ q.limit ∧ q.limit ≤ 50) :
    store.discover q
      = ((store.passing q).insertionSort fun a b => b.score ≤ a.score).take q.limit := by
  obtain ⟨hone, hfifty⟩ := hlimit
  cases store with
  | memory repo =>
    have heffective : InMemoryRepo.effectiveLimit q.limit = q.limit := by
      unfold InMemoryRepo.effectiveLimit
      rw [if_neg (by omega), if_neg (by omega)]
    show List.take (InMemoryRepo.effectiveLimit q.limit) _ = _
    rw [heffective]
    rfl
  | tables s nowMs curtime =>
    have heffective : MySqlRepo.rowLimit q.limit = q.limit := by
      unfold MySqlRepo.rowLimit
      rw [Nat.mod_eq_of_lt (by omega), if_neg (by omega), if_neg (by omega)]
    set rows := (s.tables.nodes.nodes.rows.map s.tables.seen).filter
      (MySqlRepo.matchesQuery fold q nowMs)
    have hsort : (rows.insertionSort fun a b => b.reputationScore ≤ a.reputationScore).map
          (s.nodeOf q.intent curtime)
        = (rows.map (s.nodeOf q.intent curtime)).insertionSort fun a b => b.score ≤ a.score :=
      List.map_insertionSort _ _ _ _ fun a _ b _ => Iff.rfl
    show ((rows.insertionSort _).take (MySqlRepo.rowLimit q.limit)).map (s.nodeOf q.intent curtime)
      = ((rows.map (s.nodeOf q.intent curtime)).insertionSort _).take q.limit
    rw [heffective, List.map_take, hsort]

theorem length_discover_le (store : DiscoverableStore fold) {q : DiscoverQuery}
    (hlimit : 1 ≤ q.limit ∧ q.limit ≤ 50) : (store.discover q).length ≤ q.limit := by
  rw [discover_eq store hlimit]
  exact List.length_take_le _ _

/-- What passes does not depend on the limit, -/
theorem passing_limit (store : DiscoverableStore fold) (q : DiscoverQuery) (limit : ℕ) :
    store.passing { q with limit := limit } = store.passing q := by
  cases store <;> rfl

/-- so that an answer is the beginning of a longer one. -/
theorem discover_take (store : DiscoverableStore fold) {q : DiscoverQuery}
    (hlimit : 1 ≤ q.limit ∧ q.limit ≤ 50) :
    store.discover q = (store.discover { q with limit := 50 }).take q.limit := by
  have hfifty : store.discover { q with limit := 50 }
      = ((store.passing q).insertionSort fun a b => b.score ≤ a.score).take 50 := by
    rw [discover_eq store ⟨by norm_num, le_refl 50⟩, passing_limit]
  rw [discover_eq store hlimit, hfifty, List.take_take, min_eq_left hlimit.2]

/-- Where no more than fifty pass, they are all candidates. -/
theorem discover_perm (store : DiscoverableStore fold) {q : DiscoverQuery} (hlimit : q.limit = 50)
    (hfew : (store.passing q).length ≤ 50) : (store.discover q).Perm (store.passing q) := by
  rw [discover_eq store (by omega), hlimit,
    List.take_of_length_le (by rwa [List.length_insertionSort])]
  exact List.perm_insertionSort _ _

/-- A candidate passes. -/
theorem mem_passing {store : DiscoverableStore fold} {q : DiscoverQuery}
    (hlimit : 1 ≤ q.limit ∧ q.limit ≤ 50) {n : Node} (h : n ∈ store.discover q) : n ∈ store.passing q := by
  rw [discover_eq store hlimit] at h
  exact (List.mem_insertionSort _).mp (List.mem_of_mem_take h)

/-- **No identity passes twice.** -/
theorem nodup_passing (store : DiscoverableStore fold) (q : DiscoverQuery) :
    ((store.passing q).map Node.nodeId).Nodup := by
  cases store with
  | memory repo =>
    have hids : ((repo.records.filter (InMemoryRepo.matchesQuery q)).map NodeRecord.id).Nodup :=
      repo.ids_nodup.sublist (List.filter_sublist.map _)
    show (List.map _ (List.map _ _)).Nodup
    rw [List.map_map]
    exact hids
  | tables s nowMs curtime =>
    have hkeys : ((s.tables.nodes.nodes.rows.map s.tables.seen).map fun r => fold r.id).Nodup := by
      rw [List.map_map]
      exact s.tables.nodes.nodes.keys_nodup
    have hids : (((s.tables.nodes.nodes.rows.map s.tables.seen).filter
        (MySqlRepo.matchesQuery fold q nowMs)).map fun r => fold r.id).Nodup :=
      hkeys.sublist (List.filter_sublist.map _)
    show (List.map _ (List.map _ _)).Nodup
    rw [List.map_map]
    refine List.Nodup.of_map fold ?_
    rw [List.map_map]
    exact hids

theorem nodup_discover (store : DiscoverableStore fold) {q : DiscoverQuery}
    (hlimit : 1 ≤ q.limit ∧ q.limit ≤ 50) : ((store.discover q).map Node.nodeId).Nodup := by
  have hperm : ((store.passing q).insertionSort fun a b => b.score ≤ a.score).Perm
      (store.passing q) := List.perm_insertionSort _ _
  rw [discover_eq store hlimit]
  exact ((hperm.map Node.nodeId).nodup_iff.mpr (nodup_passing store q)).sublist
    ((List.take_sublist _ _).map _)

/-- The repository among what the handlers ask. -/
def listing (store : DiscoverableStore fold) (others : NodeListing) : NodeListing :=
  { others with discover := store.discover }

end DiscoverableStore

namespace RestrictedDomain

open Discovery DiscoveryPolicy

variable {fold : String → String} {C : DirectoryContext} {D : RestrictedDomainService} {nowS : ℤ}
  {t : Memberships fold}

/-- The nodes a selection is made of: in restricted mode the members. -/
def kept (D : RestrictedDomainService) (nowS : ℤ) (t : Memberships fold) (nodes : List Node) :
    List Node :=
  if D.enabled then keepMembers D nowS t nodes else nodes

/-- They are kept one by one. -/
theorem mem_kept_iff {nodes : List Node} {n : Node} :
    n ∈ kept D nowS t nodes
      ↔ n ∈ nodes ∧ (D.enabled = true → IsCurrentMember D nowS t n.nodeId) := by
  unfold kept
  split
  · next hD =>
    unfold keepMembers
    rw [List.mem_filter, List.contains_iff_mem, mem_currentNodeMembers_iff hD,
      isCurrentMember_iff hD]
    constructor
    · rintro ⟨hn, -, hrow⟩
      exact ⟨hn, fun _ => hrow⟩
    · rintro ⟨hn, hrow⟩
      exact ⟨hn, List.mem_map_of_mem hn, hrow hD⟩
  · next hD => exact (and_iff_left fun h => absurd h hD).symm

theorem nodup_kept {nodes : List Node} (h : (nodes.map Node.nodeId).Nodup) :
    ((kept D nowS t nodes).map Node.nodeId).Nodup := by
  unfold kept
  split
  · exact h.sublist (List.filter_sublist.map _)
  · exact h

/-- A request lists one node at least. -/
theorem limit_selection_pos (p : DiscoverParams) : 0 < p.selection.limit :=
  Nat.lt_of_lt_of_le Nat.one_pos (le_max_left _ _)

/-- It asks the repository for fifty. -/
theorem limit_of_discoverQuery {refused : String → Option Reject} {p : DiscoverParams}
    {q : DiscoverQuery} (h : discoverQuery refused p = .ok q) : q.limit = 50 := by
  unfold discoverQuery at h
  split at h
  · exact absurd h (by simp)
  · repeat' split at h
    all_goals first
      | exact (Except.ok.inj h) ▸ rfl
      | exact absurd h (by simp)

/-- **What a discovery lists first**: the best of the candidates. Of all the nodes
that pass it is the best one where that is among the candidates, and so wherever
no more than fifty pass. -/
structure BestListed (C : DirectoryContext) (D : RestrictedDomainService) (nowS : ℤ)
    (t : Memberships fold) (store : DiscoverableStore fold) (p : DiscoverParams)
    (q : DiscoverQuery) (listed : List Node) : Prop where
  none : listed = [] ↔ ¬ ∃ n ∈ store.discover q,
    (D.enabled = true → IsCurrentMember D nowS t n.nodeId) ∧ selected p.selection n = true
  first : ∀ n, listed.head? = some n
    ↔ IsBest C.sdkCurrent p.selection (kept D nowS t (store.discover q)) n
  best : ∀ n, IsBest C.sdkCurrent p.selection (kept D nowS t (store.passing q)) n →
    (listed.head? = some n ↔ ∃ candidate ∈ store.discover q, candidate.nodeId = n.nodeId)
  few : (store.passing q).length ≤ 50 → ∀ n, listed.head? = some n
    ↔ IsBest C.sdkCurrent p.selection (kept D nowS t (store.passing q)) n

/-- **The best node is listed first where it is a candidate**, for every content of
either repository and every valid request. -/
theorem best_listed_iff (C : DirectoryContext) (D : RestrictedDomainService) (nowS : ℤ)
    (t : Memberships fold) (store : DiscoverableStore fold) (others : NodeListing)
    {p : DiscoverParams} {q : DiscoverQuery} (hq : discoverQuery C.refused p = .ok q) :
    ∃ listed, discover C (store.listing others) D nowS t p = .ok listed
      ∧ BestListed C D nowS t store p q listed := by
  have hlimit := limit_of_discoverQuery hq
  have hpos := limit_selection_pos p
  have hids : ((kept D nowS t (store.discover q)).map Node.nodeId).Nodup :=
    nodup_kept (store.nodup_discover (by omega))
  refine ⟨selectAndRank C.sdkCurrent p.selection (kept D nowS t (store.discover q)), ?_, ?_⟩
  · unfold discover
    rw [hq]
    rfl
  have hmore : ∀ n ∈ kept D nowS t (store.discover q), n ∈ kept D nowS t (store.passing q) := by
    intro n hn
    obtain ⟨hmem, hmember⟩ := mem_kept_iff.mp hn
    exact mem_kept_iff.mpr ⟨store.mem_passing (by omega) hmem, hmember⟩
  refine ⟨?_, fun n => head?_selectAndRank_iff hids hpos, fun n hbest => ?_, fun hfew n => ?_⟩
  · rw [selectAndRank_eq_nil_iff hpos, List.eq_nil_iff_forall_not_mem]
    constructor
    · rintro hnone ⟨n, hn, hmember, hselected⟩
      exact hnone _ (mem_eligibleNodes.mpr ⟨n, mem_kept_iff.mpr ⟨hn, hmember⟩, hselected, rfl⟩)
    · rintro hnone _ hn
      obtain ⟨n, hkept, hselected, -⟩ := mem_eligibleNodes.mp hn
      obtain ⟨hmem, hmember⟩ := mem_kept_iff.mp hkept
      exact hnone ⟨n, hmem, hmember, hselected⟩
  · rw [head?_selectAndRank_iff hids hpos]
    constructor
    · rintro ⟨hn, -⟩
      obtain ⟨candidate, hkept, -, rfl⟩ := mem_eligibleNodes.mp hn
      exact ⟨candidate, (mem_kept_iff.mp hkept).1, rfl⟩
    · rintro ⟨candidate, hcandidate, hid⟩
      obtain ⟨hn, hbefore⟩ := hbest
      refine ⟨?_, fun m hm => hbefore m (eligibleNodes_subset hmore hm)⟩
      obtain ⟨m, hkept, hselected, rfl⟩ := mem_eligibleNodes.mp hn
      obtain ⟨hmem, hmember⟩ := mem_kept_iff.mp hkept
      -- the candidate is the node that is best, as no identity passes twice
      obtain rfl : candidate = m := List.inj_on_of_nodup_map (store.nodup_passing q)
        (store.mem_passing (by omega) hcandidate) hmem hid
      exact mem_eligibleNodes.mpr
        ⟨candidate, mem_kept_iff.mpr ⟨hcandidate, hmember⟩, hselected, rfl⟩
  · have hless : ∀ n ∈ kept D nowS t (store.passing q), n ∈ kept D nowS t (store.discover q) := by
      intro n hn
      obtain ⟨hmem, hmember⟩ := mem_kept_iff.mp hn
      exact mem_kept_iff.mpr ⟨(store.discover_perm hlimit hfew).mem_iff.mpr hmem, hmember⟩
    rw [head?_selectAndRank_iff hids hpos]
    constructor
    · rintro ⟨hn, hbefore⟩
      exact ⟨eligibleNodes_subset hmore hn, fun m hm => hbefore m (eligibleNodes_subset hless hm)⟩
    · rintro ⟨hn, hbefore⟩
      exact ⟨eligibleNodes_subset hless hn, fun m hm => hbefore m (eligibleNodes_subset hmore hm)⟩

end RestrictedDomain

namespace RestrictedDomain

open Discovery DiscoveryPolicy

namespace Sample

/-- A directory whose domain is not restricted. -/
def openDomain : RestrictedDomainService :=
  { domain with
    enabled := false
    persisted := fun h => absurd h Bool.false_ne_true }

/-- A node on record, with a model. -/
def withModel (i : ℕ) (model : String) : NodeRecord :=
  (Sample.offer (toString i) [model] none).record

/-- Fifty nodes with one model, and a last one with another. -/
def crowd : InMemoryRepo :=
  { InMemoryRepo.empty with
    records := (List.range 50).map (fun i => withModel i "m") ++ [withModel 50 "n"]
    ids_nodup := by decide +kernel }

/-- They are in memory. -/
def crowded : DiscoverableStore id := .memory crowd

/-- A request for a model. -/
def wants (model : String) : DiscoverParams where
  intent := some "urn:iicp:intent:llm:chat:v1"
  model := some model

/-- What the repository is asked for. -/
def wanted : DiscoverQuery := ⟨"urn:iicp:intent:llm:chat:v1", 50, none⟩

end Sample

theorem best_listed_iff_sample :
    ∃ listed, discover Sample.plainDirectory (Sample.crowded.listing Sample.bothListed)
        Sample.openDomain 0 Sample.memberAndLapsed (Sample.wants "m") = .ok listed
      ∧ BestListed Sample.plainDirectory Sample.openDomain 0 Sample.memberAndLapsed Sample.crowded
        (Sample.wants "m") Sample.wanted listed :=
  best_listed_iff _ _ _ _ _ _ rfl

/-- **The best node can be hidden**: it is the only one with the model that is
asked for, and fifty come before it. -/
theorem best_hidden :
    ¬ ∀ (store : DiscoverableStore id) (p : DiscoverParams) (q : DiscoverQuery) (n : Node),
      discoverQuery Sample.plainDirectory.refused p = .ok q →
      IsBest Sample.plainDirectory.sdkCurrent p.selection
        (kept Sample.openDomain 0 Sample.memberAndLapsed (store.passing q)) n →
      ∃ listed, discover Sample.plainDirectory (store.listing Sample.bothListed) Sample.openDomain 0
        Sample.memberAndLapsed p = .ok listed ∧ listed.head? = some n := by
  intro h
  have hids : ((kept Sample.openDomain 0 Sample.memberAndLapsed
      (Sample.crowded.passing Sample.wanted)).map Node.nodeId).Nodup :=
    nodup_kept (Sample.crowded.nodup_passing Sample.wanted)
  -- one of those that pass is let in, so that there is a best
  obtain ⟨n, hn⟩ : ∃ n, (selectAndRank Sample.plainDirectory.sdkCurrent (Sample.wants "n").selection
      (kept Sample.openDomain 0 Sample.memberAndLapsed (Sample.crowded.passing Sample.wanted))).head?
      = some n := Option.isSome_iff_exists.mp (by decide +kernel)
  have hbest := (head?_selectAndRank_iff hids (limit_selection_pos _)).mp hn
  obtain ⟨listed, hlisted, hhead⟩ := h Sample.crowded (Sample.wants "n") Sample.wanted n rfl hbest
  have hnone : (discover Sample.plainDirectory (Sample.crowded.listing Sample.bothListed)
      Sample.openDomain 0 Sample.memberAndLapsed (Sample.wants "n")).toOption.map List.length
      = some 0 := by decide +kernel
  rw [hlisted] at hnone
  have hlength : listed.length = 0 := Option.some.inj hnone
  rw [List.length_eq_zero_iff.mp hlength] at hhead
  exact absurd hhead (by simp)

end RestrictedDomain
