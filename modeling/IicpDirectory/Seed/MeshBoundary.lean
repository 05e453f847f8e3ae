import IicpDirectory.Foundations.Run
import IicpDirectory.IntentPolicy
import IicpDirectory.Seed.Candidates
import IicpDirectory.Seed.Heartbeats
import IicpDirectory.Seed.Tickets

/-!
# What the public mesh offers

The guard stands at three places: where a registration declares what a node
offers, and where a discovery or a ticket asks for it. Between them lie the
repository and everything else that is done to it. The other operations change
nodes and remove them, but none makes a node offer what it did not
(`Upkeep`); and the tables, which compare intents under their collation and may
cut a text, store what was declared.

So whatever registers, and in whatever order, no node is listed with an intent
the guard refuses, nor is a ticket issued for one (`mesh_is_clean`).
-/

/-- **An operation that lets no node offer anything new**, on either
repository. -/
structure Upkeep (fold : String → String) where
  onMemory : InMemoryRepo → InMemoryRepo
  onTables : ListingTables fold → ListingTables fold
  records : ∀ repo, ∀ r ∈ (onMemory repo).records,
    ∃ old ∈ repo.records, r.intents = old.intents ∧ r.capabilities = old.capabilities
  rows : ∀ s, ∀ r ∈ (onTables s).tables.capabilities.rows, r ∈ s.tables.capabilities.rows

namespace Upkeep

variable {fold : String → String}

/-- A record is changed, and the rows of `nodes`. -/
def onNodes (nodeId : String) (f : NodeRecord → NodeRecord) (g : MySqlRepo fold → MySqlRepo fold)
    (hf : ∀ r, (f r).id = r.id ∧ (f r).intents = r.intents ∧ (f r).capabilities = r.capabilities) :
    Upkeep fold where
  onMemory repo := MemoryNodes.modify repo nodeId f fun r => (hf r).1
  onTables s := { s with tables := { s.tables with nodes := g s.tables.nodes } }
  records repo := by
    show ∀ r ∈ InMemoryRepo.modifyRecord nodeId f repo.records, _
    induction repo.records with
    | nil => exact fun r hr => absurd hr List.not_mem_nil
    | cons first rest ih =>
      intro r hr
      rw [InMemoryRepo.modifyRecord] at hr
      split at hr
      · rcases List.mem_cons.mp hr with rfl | hrest
        · exact ⟨first, List.mem_cons_self, (hf first).2⟩
        · exact ⟨r, List.mem_cons_of_mem first hrest, rfl, rfl⟩
      · rcases List.mem_cons.mp hr with rfl | hrest
        · exact ⟨r, List.mem_cons_self, rfl, rfl⟩
        · obtain ⟨old, hold, hsame⟩ := ih r hrest
          exact ⟨old, List.mem_cons_of_mem first hold, hsame⟩
  rows _ _ h := h

/-- `heartbeat`, where its metrics count or not. -/
def heartbeat (applied : Bool) (req : MySqlRepo.HeartbeatRequest) (nowMs : ℤ) : Upkeep fold :=
  onNodes req.nodeId (MemoryNodes.heartbeatRecord applied req)
    (fun repo => ((repo.heartbeatOnce req nowMs).map Prod.snd).getD repo)
    fun _ => ⟨rfl, rfl, rfl⟩

/-- `set_reputation_score`. -/
def setReputationScore (nodeId : String) (score : ℚ) (g : MySqlRepo fold → MySqlRepo fold) :
    Upkeep fold :=
  onNodes nodeId (·.withReputation (max 0 (min score 1))) g fun _ => ⟨rfl, rfl, rfl⟩

/-- `deregister`: in the tables the rows that refer to the node go with it. -/
def deregister (nodeId : String) : Upkeep fold where
  onMemory repo := (repo.deregister nodeId).2
  onTables s :=
    { s with
      tables :=
        { nodes := (s.tables.nodes.deregister nodeId).2
          capabilities :=
            s.tables.capabilities.deleteWhere fun r => fold r.nodeId == fold nodeId
          availabilityWindows :=
            s.tables.availabilityWindows.filter fun w => !(fold w.nodeId == fold nodeId) } }
  records _ r hr := ⟨r, List.mem_of_mem_filter hr, rfl, rfl⟩
  rows _ _ hr := List.mem_of_mem_filter hr

end Upkeep

namespace DiscoverableStore

variable {fold : String → String}

/-! ## What is offered -/

/-- The intents a record stands for. -/
def intentsOf (r : NodeRecord) : List String :=
  r.intents ++ r.capabilities.map EffectiveCapability.intent

/-- **The intents the repository has a node for.** -/
def offered : DiscoverableStore fold → List String
  | .memory repo => repo.records.flatMap intentsOf
  | .tables s _ _ => s.tables.capabilities.rows.map CapabilityRow.intent

/-- **What discovery lists of a node is offered.** -/
theorem offered_of_discover {store : DiscoverableStore fold} {q : DiscoverQuery} {n : Node}
    (hn : n ∈ store.discover q) : ∀ c ∈ n.capabilities, c.intent ∈ store.offered := by
  intro c hc
  cases store with
  | memory repo =>
    have hmem := (List.mem_insertionSort _).mp (List.mem_of_mem_take hn)
    obtain ⟨r, hr, rfl⟩ := List.mem_map.mp hmem
    refine List.mem_flatMap.mpr ⟨r, List.mem_of_mem_filter hr, List.mem_append_right _ ?_⟩
    exact List.mem_map_of_mem (List.mem_of_mem_filter hc)
  | tables s nowMs curtime =>
    obtain ⟨row, -, rfl⟩ := List.mem_map.mp hn
    obtain ⟨r, hr, rfl⟩ := List.mem_map.mp hc
    have hr := List.mem_of_mem_filter hr
    have hintent : r.effective.intent = r.intent := rfl
    show r.effective.intent ∈ s.tables.capabilities.rows.map CapabilityRow.intent
    rw [hintent]
    exact List.mem_map_of_mem hr

/-! ## The operations -/

/-- A registration is persisted, in the tables by a transaction. -/
def register (time : String → Option ℕ) (hashed : Bool) (server : Server) (rec : NodeRecord) :
    DiscoverableStore fold → DiscoverableStore fold
  | .memory repo => .memory (repo.register rec)
  | .tables s nowMs curtime => .tables (s.register time hashed server rec).2 nowMs curtime

/-- Any other operation. -/
def keepUp (op : Upkeep fold) : DiscoverableStore fold → DiscoverableStore fold
  | .memory repo => .memory (op.onMemory repo)
  | .tables s nowMs curtime => .tables (op.onTables s) nowMs curtime

/-- Time passes, for the tables. -/
def wait (nowMs : ℤ) (curtime : ℕ) : DiscoverableStore fold → DiscoverableStore fold
  | .memory repo => .memory repo
  | .tables s _ _ => .tables s nowMs curtime

theorem offered_keepUp (op : Upkeep fold) {store : DiscoverableStore fold} {intent : String}
    (h : intent ∈ (store.keepUp op).offered) : intent ∈ store.offered := by
  cases store with
  | memory repo =>
    obtain ⟨r, hr, hintent⟩ := List.mem_flatMap.mp h
    obtain ⟨old, hold, hintents, hcapabilities⟩ := op.records repo r hr
    refine List.mem_flatMap.mpr ⟨old, hold, ?_⟩
    unfold intentsOf at hintent ⊢
    rwa [hintents, hcapabilities] at hintent
  | tables s nowMs curtime =>
    obtain ⟨r, hr, rfl⟩ := List.mem_map.mp h
    exact List.mem_map_of_mem (op.rows s r hr)

theorem offered_wait (nowMs : ℤ) (curtime : ℕ) (store : DiscoverableStore fold) :
    (store.wait nowMs curtime).offered = store.offered := by
  cases store <;> rfl

/-- A record that comes in is among the others, with its reputation or that of
the one it replaces. -/
theorem mem_upsertRecord {rec : NodeRecord} {records : List NodeRecord} {r : NodeRecord}
    (h : r ∈ InMemoryRepo.upsertRecord rec records) :
    r ∈ records ∨ intentsOf r = intentsOf rec := by
  induction records with
  | nil =>
    obtain rfl := List.mem_singleton.mp h
    exact Or.inr rfl
  | cons first rest ih =>
    rw [InMemoryRepo.upsertRecord] at h
    split at h
    · rcases List.mem_cons.mp h with rfl | hrest
      · exact Or.inr rfl
      · exact Or.inl (List.mem_cons_of_mem first hrest)
    · rcases List.mem_cons.mp h with rfl | hrest
      · exact Or.inl List.mem_cons_self
      · exact (ih hrest).imp (List.mem_cons_of_mem first) id

/-- The rows of a record are of its intents. -/
theorem intent_of_mem_rowsOf {rec : NodeRecord} {r : CapabilityRow}
    (h : r ∈ NodeTables.rowsOf rec) : r.intent ∈ intentsOf rec := by
  unfold NodeTables.rowsOf at h
  split at h
  · obtain ⟨intent, hintent, rfl⟩ := List.mem_map.mp h
    exact List.mem_append_left _ hintent
  · obtain ⟨c, hc, rfl⟩ := List.mem_map.mp h
    exact List.mem_append_right _ (List.mem_map_of_mem hc)

/-- What a registration leaves of the tables, whatever the server makes of its
transaction: what was there, or its rows. -/
theorem tables_register (time : String → Option ℕ) (hashed : Bool) (server : Server)
    (rec : NodeRecord) (s : ListingTables fold) :
    (s.register time hashed server rec).2 = s
      ∨ NodeTables.Storable fold time rec
        ∧ NodeTables.Replaced time rec s.tables (s.register time hashed server rec).2.tables := by
  unfold ListingTables.register
  cases hashed with
  | false => exact Or.inl rfl
  | true =>
    rw [if_pos rfl]
    refine (Transaction.snd_run_cases server _ s).imp_right fun hfold => ?_
    obtain ⟨mid, hmid, hrest⟩ := Option.bind_eq_some_iff.mp hfold
    obtain ⟨tables, htables, rfl⟩ := Option.map_eq_some_iff.mp hmid
    obtain ⟨hreplaced, -⟩ := ListingTables.foldlM_onTables hrest
    exact NodeTables.persist_eq_some_iff.mp
      (Option.bind_eq_some_iff.mpr ⟨tables, htables, hreplaced⟩)

/-- A row that is kept has the intent it was made of, if that has no space. -/
theorem intent_kept {r : CapabilityRow} (hfits : r.fits = true) (hspace : ' ' ∉ r.intent.toList) :
    r.kept.intent = r.intent := by
  unfold CapabilityRow.fits at hfits
  simp only [Bool.and_eq_true] at hfits
  exact Column.cutText_of_length_le (Column.length_le_of_takesText (by tauto) hspace)

/-- **A registration adds the intents of its record, and no others**: none of
them is cut. -/
theorem offered_register {time : String → Option ℕ} {hashed : Bool} {server : Server}
    {rec : NodeRecord} (hspace : ∀ intent ∈ intentsOf rec, ' ' ∉ intent.toList)
    {store : DiscoverableStore fold} {intent : String}
    (h : intent ∈ (store.register time hashed server rec).offered) :
    intent ∈ store.offered ∨ intent ∈ intentsOf rec := by
  cases store with
  | memory repo =>
    obtain ⟨r, hr, hintent⟩ := List.mem_flatMap.mp h
    rcases mem_upsertRecord hr with hold | hsame
    · exact Or.inl (List.mem_flatMap.mpr ⟨r, hold, hintent⟩)
    · exact Or.inr (hsame ▸ hintent)
  | tables s nowMs curtime =>
    obtain ⟨r, hr, rfl⟩ := List.mem_map.mp h
    rcases tables_register time hashed server rec s with hsame | ⟨hstorable, hreplaced⟩
    · rw [hsame] at hr
      exact Or.inl (List.mem_map_of_mem hr)
    rw [hreplaced.capabilities, List.mem_append] at hr
    rcases hr with hold | hnew
    · exact Or.inl (List.mem_map_of_mem (List.mem_of_mem_filter hold))
    · obtain ⟨row, hrow, rfl⟩ := List.mem_map.mp hnew
      have hintent := intent_of_mem_rowsOf hrow
      rw [intent_kept (hstorable.rows row hrow) (hspace _ hintent)]
      exact Or.inr hintent

end DiscoverableStore

/-! ## The mesh -/

namespace MeshBoundary

open Discovery RestrictedDomain
open DiscoverableStore (intentsOf offered_register offered_keepUp offered_wait offered_of_discover)

variable {fold : String → String}

/-- **What happens to the mesh.** A registration brings its request and what else
was made of it, with what the server does with its transaction. -/
inductive MeshAction (fold : String → String)
  | register (p : PendingRegistration) (hashed : Bool) (server : Server)
  | keepUp (op : Upkeep fold)
  | wait (nowMs : ℤ) (curtime : ℕ)

variable (L : Libs) (refusedManifest : Json → Option Reject) (time : String → Option ℕ)

/-- The registration is let in, by the guard among others. -/
def admits (p : PendingRegistration) : Bool :=
  (Admission.validateRegistrationRequest L IntentPolicy.refused refusedManifest p.request).isNone

/-- **One step of the mesh.** -/
def step (store : DiscoverableStore fold) : MeshAction fold → DiscoverableStore fold
  | .register p hashed server =>
    if admits L refusedManifest p then store.register time hashed server p.record else store
  | .keepUp op => store.keepUp op
  | .wait nowMs curtime => store.wait nowMs curtime

/-- An intent that may be offered: a name of the mesh, which the guard lets
pass. -/
def Offerable (intent : String) : Prop :=
  Admission.validIntent intent = true ∧ IntentPolicy.refused intent = none

/-- **The invariant**: what is offered may be. -/
def Clean (store : DiscoverableStore fold) : Prop := ∀ intent ∈ store.offered, Offerable intent

variable {L refusedManifest time}

/-- The variants of a request that is let in. -/
theorem offerable_of_validateCapabilities {earlier capabilities : List EffectiveCapability}
    (h : Admission.validateCapabilities L IntentPolicy.refused earlier capabilities = none) :
    ∀ c ∈ capabilities, Offerable c.intent := by
  induction capabilities generalizing earlier with
  | nil => exact fun _ hc => absurd hc List.not_mem_nil
  | cons c rest ih =>
    rw [Admission.validateCapabilities, Option.or_eq_none_iff] at h
    refine List.forall_mem_cons.mpr ⟨⟨(Admission.accepted_of_rejectCapability L h.1).intent, ?_⟩,
      ih h.2⟩
    have hfirst := h.1
    unfold Admission.rejectCapability at hfirst
    split at hfirst
    · exact absurd hfirst (by simp)
    split at hfirst
    · exact hfirst
    · next hpassed => exact Option.not_isSome_iff_eq_none.mp hpassed

/-- **What a registration that is let in offers may be offered.** -/
theorem offerable_of_admits {p : PendingRegistration} (h : admits L refusedManifest p = true) :
    ∀ intent ∈ intentsOf p.record, Offerable intent := by
  unfold admits Admission.validateRegistrationRequest at h
  rw [Option.isNone_iff_eq_none, Option.or_eq_none_iff, Option.or_eq_none_iff] at h
  have hall := offerable_of_validateCapabilities h.2.1
  intro intent hintent
  unfold intentsOf at hintent
  rcases List.mem_append.mp hintent with hlisted | hvariant
  · obtain ⟨c, hc, rfl⟩ := List.mem_map.mp hlisted
    exact hall c hc
  · obtain ⟨c, hc, rfl⟩ := List.mem_map.mp hvariant
    exact hall c hc

/-- **Every step keeps the mesh clean.** -/
theorem clean_step {store : DiscoverableStore fold} (h : Clean store) (action : MeshAction fold) :
    Clean (step L refusedManifest time store action) := by
  cases action with
  | register p hashed server =>
    unfold step
    dsimp only
    split
    · next hadmits =>
      have hnew := offerable_of_admits hadmits
      intro intent hintent
      rcases offered_register
        (fun i hi => Admission.space_notMem_of_validIntent (hnew i hi).1) hintent with hold | hours
      · exact h intent hold
      · exact hnew intent hours
    · exact h
  | keepUp op => exact fun intent hintent => h intent (offered_keepUp op hintent)
  | wait nowMs curtime =>
    intro intent hintent
    rw [step, offered_wait] at hintent
    exact h intent hintent

theorem clean_run {start : DiscoverableStore fold} (hstart : start.offered = [])
    (actions : List (MeshAction fold)) :
    Clean (Run.after (step L refusedManifest time) start actions) := by
  have hstep : ∀ (s : DiscoverableStore fold) (i : MeshAction fold), Clean s →
      Clean (step L refusedManifest time s i) :=
    fun s i hs => clean_step hs i
  refine Run.invariant hstep (fun intent hintent => ?_) actions
  rw [hstart] at hintent
  exact absurd hintent List.not_mem_nil

/-! ## What is answered -/

/-- A directory whose handlers ask the guard. -/
def guarded (C : DirectoryContext) : DirectoryContext := { C with refused := IntentPolicy.refused }

/-- **The answers of a directory are clean**: a discovery and a ticket are for an
intent that is let pass, and what they name offers no other. -/
structure CleanAnswers (C : DirectoryContext) (D : RestrictedDomainService) (nowS : ℤ)
    (t : Memberships fold) (others : NodeListing) (store : DiscoverableStore fold) : Prop where
  listed : ∀ p nodes, discover (guarded C) (store.listing others) D nowS t p = .ok nodes →
    (∃ intent ∈ p.intent, IntentPolicy.refused intent = none)
      ∧ ∀ n ∈ nodes, ∀ c ∈ n.capabilities, Offerable c.intent
  ticketed : ∀ req n ticket,
    dispatchTicketIssue (guarded C) (store.listing others) req = .ok (n, ticket) →
      Offerable req.intent ∧ ∀ c ∈ n.capabilities, Offerable c.intent

/-- A discovery that is answered asks for an intent that is let pass. -/
theorem passed_of_discoverQuery {refused : String → Option Reject} {p : DiscoverParams}
    {q : DiscoverQuery} (h : discoverQuery refused p = .ok q) :
    ∃ intent ∈ p.intent, refused intent = none := by
  unfold discoverQuery at h
  split at h
  · exact absurd h (by simp)
  split at h
  · exact absurd h (by simp)
  next intent hintent =>
  split at h
  · exact absurd h (by simp)
  next hpassed =>
  exact ⟨intent, (Option.filter_eq_some_iff.mp hintent).1, hpassed⟩

/-- The node of a ticket is one of the candidates. -/
theorem mem_of_isFor {req : DispatchTicketRequest} {nodes : List Node} {n : Node}
    (h : req.IsFor nodes n) : n ∈ nodes := by
  rcases h with ⟨_, _, hfound⟩ | ⟨_, _, _, honly⟩ | ⟨_, _, hhead⟩
  · exact List.mem_of_find?_eq_some hfound
  · exact List.mem_of_mem_filter (honly ▸ List.mem_singleton_self n)
  · exact List.mem_of_head? hhead

/-- **A clean mesh answers cleanly.** -/
theorem cleanAnswers (C : DirectoryContext) (D : RestrictedDomainService) (nowS : ℤ)
    (t : Memberships fold) (others : NodeListing) {store : DiscoverableStore fold}
    (h : Clean store) : CleanAnswers C D nowS t others store where
  listed := by
    intro p nodes hdiscover
    unfold discover at hdiscover
    cases hq : discoverQuery (guarded C).refused p with
    | error rejection =>
      rw [hq] at hdiscover
      exact absurd hdiscover (by simp [Except.map])
    | ok q =>
      refine ⟨passed_of_discoverQuery hq, ?_⟩
      rw [hq] at hdiscover
      obtain rfl := Except.ok.inj hdiscover
      intro n hn
      obtain ⟨candidate, hcandidate, -, rfl⟩ := DiscoveryPolicy.of_mem_selectAndRank hn
      have hfound : candidate ∈ store.discover q := (mem_kept_iff.mp hcandidate).1
      exact fun c hc => h c.intent (offered_of_discover hfound c hc)
  ticketed := by
    intro req n ticket hissued
    unfold dispatchTicketIssue at hissued
    split at hissued
    · exact absurd hissued (by simp)
    next q hq =>
    obtain ⟨hvalid, hpassed, -, -⟩ := of_ticketQuery hq
    refine ⟨⟨hvalid, hpassed⟩, ?_⟩
    split at hissued
    · exact absurd hissued (by simp)
    next selected hselected =>
    split at hissued
    · obtain rfl := (Prod.mk.inj (Except.ok.inj hissued)).1
      have hfound := mem_of_isFor (selectDispatchTicketNode_eq_ok_iff.mp hselected)
      exact fun c hc => h c.intent (offered_of_discover (List.mem_of_mem_filter hfound) c hc)
    · exact absurd hissued (by simp)

namespace Sample

/-- A mesh without nodes. -/
def emptyMesh : DiscoverableStore id := .memory InMemoryRepo.empty

/-- A node for an intent. -/
def offering (intent : String) : PendingRegistration where
  request := { endpoint := "https://node.test", capabilities := [{ Sample.chat with intent := intent }] }
  nodeId := "node-a"
  nodeToken := "token"
  proxyToken := "proxy"
  nodeHmacKey := "hmac"

/-- One that is let in, and the same node with an intent that is not. -/
def twoAttempts : List (MeshAction id) :=
  [.register (offering "urn:iicp:intent:llm:chat:v1") true Server.willing,
    .register (offering "urn:iicp:intent:social-scoring:rank:v1") true Server.willing]

end Sample

-- the one that is let in is offered, as an intent and as a variant of it
example : (Run.after (step Sample.libs (fun _ => none) fun _ => none) Sample.emptyMesh
      Sample.twoAttempts).offered
    = ["urn:iicp:intent:llm:chat:v1", "urn:iicp:intent:llm:chat:v1"] := by
  decide +kernel

end MeshBoundary
