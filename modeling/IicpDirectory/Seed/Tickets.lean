import IicpDirectory.Seed.Candidates

/-!
# Tickets beside discoveries

A ticket names the node that a task is to be sent to. It is issued by rules of
its own: of the nodes that the repository finds it takes the one that was named,
the only one of a beginning, or the first, in the order they are stored in. What
a discovery looks at beside, the state of a backend and who is a member, it does
not, and it does not rank. The limit of a request cuts what is found, before any
node is excluded.

`ticket_listed_iff` has the states in which a ticket is for a node that a
discovery lists, the best one of it where none is named.
-/

namespace Discovery.DispatchTicketRequest

open DiscoveryPolicy

/-- The discovery that a ticket is measured by. -/
def discoverParams (req : DispatchTicketRequest) : DiscoverParams where
  intent := some req.intent
  region := req.region
  limit := some 50
  minReputation := req.minReputation
  model := req.model

/-- The node is a relay or not, as is asked, and is not excluded. -/
def allows (req : DispatchTicketRequest) (n : Node) : Bool :=
  req.relayCapable.all (fun required => n.relayCapable.getD false == required)
    && !req.excludeNodeIdPrefixes.any (startsWith n.nodeId)

/-- The node has the identity that is named, or its beginning. -/
def names (req : DispatchTicketRequest) (n : Node) : Bool :=
  match req.nodeId with
  | some nodeId => n.nodeId == nodeId
  | none => req.nodeIdPrefix.all (startsWith n.nodeId)

/-- What a discovery would select and a request allows is kept. -/
theorem keeps_of_selected {req : DispatchTicketRequest} {n : Node}
    (hselected : selected req.discoverParams.selection n = true) (hallows : req.allows n = true) :
    req.keeps n = true := by
  unfold selected BehaviorContract.eligible at hselected
  unfold allows at hallows
  unfold keeps
  simp only [Bool.and_eq_true] at hselected hallows ⊢
  obtain ⟨⟨-, hmodels⟩, ⟨⟨⟨-, hmodel⟩, -⟩, -⟩, -⟩ := hselected
  exact ⟨⟨⟨hmodels, hmodel⟩, hallows.1⟩, hallows.2⟩

/-- What is kept is allowed. -/
theorem allows_of_keeps {req : DispatchTicketRequest} {n : Node} (h : req.keeps n = true) :
    req.allows n = true := by
  unfold keeps at h
  unfold allows
  simp only [Bool.and_eq_true] at h ⊢
  exact ⟨h.1.2, h.2⟩

end Discovery.DispatchTicketRequest

namespace Discovery

open DiscoveryPolicy

/-- **There is no route** where no candidate is named. -/
theorem selectDispatchTicketNode_eq_noRoute_iff {req : DispatchTicketRequest} {nodes : List Node} :
    selectDispatchTicketNode req nodes = .error noRoute ↔ ∀ n ∈ nodes, req.names n = false := by
  have helim : ∀ o : Option Node, o.elim (.error noRoute) Except.ok = .error noRoute ↔ o = none := by
    intro o
    cases o <;> simp
  unfold selectDispatchTicketNode DispatchTicketRequest.names
  cases req.nodeId with
  | some nodeId =>
    dsimp only
    rw [helim, List.find?_eq_none]
    simp only [Bool.not_eq_true]
  | none =>
    cases req.nodeIdPrefix with
    | none =>
      dsimp only
      rw [helim, List.head?_eq_none_iff, List.eq_nil_iff_forall_not_mem]
      simp
    | some start =>
      dsimp only [Option.all_some]
      simp only [← Bool.not_eq_true]
      rw [← List.filter_eq_nil_iff]
      split
      · next hnone => simp [hnone]
      · next only hone => simp [hone]
      · next hnone _ =>
        have hcodes : ambiguousPrefix ≠ noRoute := by simp [ambiguousPrefix, noRoute]
        exact ⟨fun h => absurd (Except.error.inj h) hcodes, fun h => absurd h hnone⟩

/-- A reputation that a ticket can be asked with, a discovery can be. -/
theorem validateMinReputation_of_selectorError {req : DispatchTicketRequest}
    (h : selectorError req = none) : validateMinReputation req.minReputation = .ok () := by
  unfold selectorError at h
  dsimp only at h
  split at h
  · exact absurd h (by simp)
  split at h
  · exact absurd h (by simp)
  split at h
  · exact absurd h (by simp)
  next hbounds =>
  refine if_pos ?_
  cases hmin : req.minReputation with
  | none => rfl
  | some score =>
    rw [hmin] at hbounds
    simpa [not_or, not_lt] using hbounds

/-- **What a valid request for a ticket asks for.** -/
theorem of_ticketQuery {refused : String → Option Reject} {req : DispatchTicketRequest}
    {q : DiscoverQuery} (h : ticketQuery refused req = .ok q) :
    Admission.validIntent req.intent = true ∧ refused req.intent = none ∧ selectorError req = none
      ∧ q = { intent := req.intent
              limit :=
                if req.nodeId.isSome || req.nodeIdPrefix.isSome then 50
                else max 1 (min (req.limit.getD 10) 50)
              minReputation := req.minReputation } := by
  unfold ticketQuery at h
  split at h
  · exact absurd h (by simp)
  split at h
  · exact absurd h (by simp)
  next hintent =>
  cases hrefused : refused req.intent with
  | some reject =>
    rw [hrefused] at h
    exact absurd h (by simp)
  | none =>
    rw [hrefused] at h
    cases hselector : selectorError req with
    | some message =>
      rw [hselector] at h
      exact absurd h (by simp)
    | none =>
      rw [hselector] at h
      exact ⟨by simpa using hintent, rfl, rfl, (Except.ok.inj h).symm⟩

/-- A request that names a node has no beginning of one. -/
theorem prefix_eq_none_of_selectorError {req : DispatchTicketRequest} (h : selectorError req = none)
    {nodeId : String} (hid : req.nodeId = some nodeId) : req.nodeIdPrefix = none := by
  unfold selectorError at h
  dsimp only at h
  split at h
  · exact absurd h (by simp)
  split at h
  · exact absurd h (by simp)
  next hboth =>
  rw [hid, Option.isSome_some, Bool.true_and] at hboth
  exact Option.not_isSome_iff_eq_none.mp hboth

/-- A request for a ticket asks for so many nodes, and a discovery asks for fifty
of the same. -/
theorem discoverQuery_of_ticketQuery {refused : String → Option Reject}
    {req : DispatchTicketRequest} {q : DiscoverQuery} (h : ticketQuery refused req = .ok q) :
    (1 ≤ q.limit ∧ q.limit ≤ 50)
      ∧ (req.nodeId.isSome = true ∨ req.nodeIdPrefix.isSome = true → q.limit = 50)
      ∧ discoverQuery refused req.discoverParams = .ok { q with limit := 50 } := by
  obtain ⟨hintent, hrefused, hselector, rfl⟩ := of_ticketQuery h
  have hne : req.intent ≠ "" := by
    intro hempty
    rw [hempty] at hintent
    exact absurd hintent (by decide)
  refine ⟨?_, fun hnamed => ?_, ?_⟩
  · dsimp only
    split <;> omega
  · dsimp only
    rw [if_pos (by simpa using hnamed)]
  · have hallowed : dispatchAllowed req.discoverParams = true := rfl
    have hasked : req.discoverParams.intent.filter (fun text => decide (text ≠ ""))
        = some req.intent := by
      show (if decide (req.intent ≠ "") = true then some req.intent else none) = some req.intent
      rw [if_pos (decide_eq_true hne)]
    have hqos : validateQos req.discoverParams.qos = .ok () := rfl
    have hreputation : validateMinReputation req.discoverParams.minReputation = .ok () :=
      validateMinReputation_of_selectorError hselector
    unfold discoverQuery
    rw [if_neg (by rw [hallowed]; decide), hasked]
    dsimp only
    rw [hrefused, hreputation, hqos]
    rfl

end Discovery

namespace RestrictedDomain

open Discovery DiscoveryPolicy

variable {fold : String → String}

/-! ## What a ticket promises -/

/-- **The route is a result of the discovery**: the node is listed, is allowed and
named, the only one of a beginning that is listed and allowed, and the first of
these where none is named. -/
structure Routes (req : DispatchTicketRequest) (listed : List Node) (n : Node) : Prop where
  mem : ∃ m ∈ listed, m.nodeId = n.nodeId
  allowed : req.allows n = true
  named : req.names n = true
  only : ∀ start, req.nodeIdPrefix = some start → ∀ m ∈ listed, req.allows m = true →
    startsWith m.nodeId start = true → m.nodeId = n.nodeId
  best : req.nodeId = none → req.nodeIdPrefix = none →
    (listed.filter req.allows).head?.map Node.nodeId = some n.nodeId

/-- **Tickets are results of a discovery**: what is issued is one, and where there
is no route none is listed. -/
structure TicketIsListed (C : DirectoryContext) (L : NodeListing) (req : DispatchTicketRequest)
    (listed : List Node) : Prop where
  issued : ∀ n ticket, dispatchTicketIssue C L req = .ok (n, ticket) → Routes req listed n
  noRoute : dispatchTicketIssue C L req = .error noRoute →
    ∀ m ∈ listed, req.allows m = true → req.names m = false

/-! ## When it is kept -/

/-- A discovery selects the node. -/
def Selects (D : RestrictedDomainService) (nowS : ℤ) (t : Memberships fold)
    (req : DispatchTicketRequest) (n : Node) : Prop :=
  (D.enabled = true → IsCurrentMember D nowS t n.nodeId)
    ∧ selected req.discoverParams.selection n = true

/-- The directory has a key to sign a ticket for the node with. -/
def Signs (C : DirectoryContext) (req : DispatchTicketRequest) (n : Node) : Prop :=
  (C.signDomainToken dispatchTicketDomain
    (dispatchTicketClaims C.ticketId n.nodeId req.intent C.now)).isSome = true

/-- **The rules of tickets and discoveries agree** on the fifty nodes that are
found: a discovery selects the one that is named, or is the only one of a
beginning. Where none is named, it selects the first that is kept, within the
limit, none of the others is before it, and within the limit one is kept if any
is selected and allowed. -/
structure RulesAgree (C : DirectoryContext) (D : RestrictedDomainService) (nowS : ℤ)
    (t : Memberships fold) (req : DispatchTicketRequest) (found : List Node) (limit : ℕ) :
    Prop where
  named : ∀ nodeId, req.nodeId = some nodeId → ∀ c ∈ found, req.keeps c = true →
    c.nodeId = nodeId → Signs C req c → Selects D nowS t req c
  only : ∀ start, req.nodeId = none → req.nodeIdPrefix = some start → ∀ c,
    (found.filter req.keeps).filter (fun n => startsWith n.nodeId start) = [c] → Signs C req c →
      Selects D nowS t req c
  first : req.nodeId = none → req.nodeIdPrefix = none → ∀ c,
    (found.take limit).find? req.keeps = some c → Signs C req c →
      Selects D nowS t req c
        ∧ ∀ m ∈ found, Selects D nowS t req m → req.allows m = true →
          before (scored C.sdkCurrent req.discoverParams.selection c)
            (scored C.sdkCurrent req.discoverParams.selection m)
  within : req.nodeId = none → req.nodeIdPrefix = none →
    (∀ c ∈ found.take limit, req.keeps c = false) →
      ∀ m ∈ found, Selects D nowS t req m → req.allows m = false

section Listed

variable {C : DirectoryContext} {D : RestrictedDomainService} {nowS : ℤ} {t : Memberships fold}
  {req : DispatchTicketRequest} {found : List Node}

/-- The selection of a discovery has room for what is found. -/
theorem length_eligible_le (hfound : found.length ≤ 50) :
    (eligibleNodes C.sdkCurrent req.discoverParams.selection (kept D nowS t found)).length ≤ 50 := by
  have hkept : (kept D nowS t found).length ≤ found.length := by
    unfold kept
    split
    · exact List.length_filter_le _ _
    · exact le_rfl
  unfold eligibleNodes
  rw [List.length_map]
  exact (List.length_filter_le _ _).trans (hkept.trans hfound)

/-- **What a discovery lists** is what it selects of what is found. -/
theorem mem_listed_iff (hfound : found.length ≤ 50) {m : Node} :
    m ∈ selectAndRank C.sdkCurrent req.discoverParams.selection (kept D nowS t found)
      ↔ ∃ c ∈ found, Selects D nowS t req c
        ∧ scored C.sdkCurrent req.discoverParams.selection c = m := by
  have hall : selectAndRank C.sdkCurrent req.discoverParams.selection (kept D nowS t found)
      = (eligibleNodes C.sdkCurrent req.discoverParams.selection
        (kept D nowS t found)).insertionSort before :=
    List.take_of_length_le (by
      rw [List.length_insertionSort]
      exact length_eligible_le hfound)
  rw [hall, List.mem_insertionSort, mem_eligibleNodes]
  simp only [mem_kept_iff, Selects, and_assoc]

/-- **When a route is a result of the discovery**: the node is selected, and so is
no other of the beginning, or none before it. -/
theorem routes_iff (hfound : found.length ≤ 50) (hids : (found.map Node.nodeId).Nodup) {c : Node}
    (hc : c ∈ found) (hkeeps : req.keeps c = true) (hnames : req.names c = true) :
    Routes req (selectAndRank C.sdkCurrent req.discoverParams.selection (kept D nowS t found)) c
      ↔ Selects D nowS t req c
        ∧ (∀ start, req.nodeIdPrefix = some start → ∀ m ∈ found, Selects D nowS t req m →
          req.allows m = true → startsWith m.nodeId start = true → m = c)
        ∧ (req.nodeId = none → req.nodeIdPrefix = none → ∀ m ∈ found, Selects D nowS t req m →
          req.allows m = true →
            before (scored C.sdkCurrent req.discoverParams.selection c)
              (scored C.sdkCurrent req.discoverParams.selection m)) := by
  set sdkCurrent := C.sdkCurrent
  set request := req.discoverParams.selection
  have hsame : ∀ {m}, m ∈ found → m.nodeId = c.nodeId → m = c := fun hm hid =>
    List.inj_on_of_nodup_map hids hm hc hid
  have hallows := DispatchTicketRequest.allows_of_keeps hkeeps
  have hkeptIds : ((kept D nowS t found).map Node.nodeId).Nodup := nodup_kept hids
  have hallowedIds : (((kept D nowS t found).filter req.allows).map Node.nodeId).Nodup :=
    hkeptIds.sublist (List.filter_sublist.map _)
  have hfilter : (selectAndRank sdkCurrent request (kept D nowS t found)).filter req.allows
      = selectAndRank sdkCurrent request ((kept D nowS t found).filter req.allows) :=
    filter_selectAndRank hkeptIds (length_eligible_le hfound) fun _ => rfl
  have hmem : ∀ {x}, x ∈ eligibleNodes sdkCurrent request ((kept D nowS t found).filter req.allows)
      ↔ ∃ m ∈ found, Selects D nowS t req m ∧ req.allows m = true
        ∧ scored sdkCurrent request m = x := by
    intro x
    rw [mem_eligibleNodes]
    constructor
    · rintro ⟨m, hm, hselected, hscored⟩
      obtain ⟨hkept, hallowed⟩ := List.mem_filter.mp hm
      obtain ⟨hin, hmember⟩ := mem_kept_iff.mp hkept
      exact ⟨m, hin, ⟨hmember, hselected⟩, hallowed, hscored⟩
    · rintro ⟨m, hin, ⟨hmember, hselected⟩, hallowed, hscored⟩
      exact ⟨m, List.mem_filter.mpr ⟨mem_kept_iff.mpr ⟨hin, hmember⟩, hallowed⟩, hselected, hscored⟩
  constructor
  · rintro ⟨hlisted, -, -, honly, hbest⟩
    obtain ⟨_, hm, hid⟩ := hlisted
    obtain ⟨m, hin, hselects, rfl⟩ := (mem_listed_iff hfound).mp hm
    obtain rfl := hsame hin hid
    refine ⟨hselects, fun start hstart other hother hselects' hallowed hstarts => ?_,
      fun hid hstart other hother hselects' hallowed => ?_⟩
    · exact hsame hother (honly start hstart (scored sdkCurrent request other)
        ((mem_listed_iff hfound).mpr ⟨other, hother, hselects', rfl⟩) hallowed hstarts)
    · obtain ⟨x, hhead, hxid⟩ := Option.map_eq_some_iff.mp (hbest hid hstart)
      rw [hfilter, head?_selectAndRank_iff hallowedIds (limit_selection_pos _)] at hhead
      obtain ⟨hx, hbefore⟩ := hhead
      obtain ⟨first, hfirst, -, -, rfl⟩ := hmem.mp hx
      obtain rfl := hsame hfirst hxid
      exact hbefore _ (hmem.mpr ⟨other, hother, hselects', hallowed, rfl⟩)
  · rintro ⟨hselects, honly, hbest⟩
    refine ⟨⟨_, (mem_listed_iff hfound).mpr ⟨c, hc, hselects, rfl⟩, rfl⟩, hallows, hnames,
      fun start hstart m hm hallowed hstarts => ?_, fun hid hstart => ?_⟩
    · obtain ⟨other, hother, hselects', rfl⟩ := (mem_listed_iff hfound).mp hm
      obtain rfl := honly start hstart other hother hselects' hallowed hstarts
      rfl
    · have hhead : ((selectAndRank sdkCurrent request (kept D nowS t found)).filter req.allows).head?
          = some (scored sdkCurrent request c) := by
        rw [hfilter, head?_selectAndRank_iff hallowedIds (limit_selection_pos _)]
        refine ⟨hmem.mpr ⟨c, hc, hselects, hallows, rfl⟩, fun x hx => ?_⟩
        obtain ⟨m, hm, hselects', hallowed, rfl⟩ := hmem.mp hx
        exact hbest hid hstart m hm hselects' hallowed
      rw [hhead]
      rfl

end Listed

/-- The one of an identity is found, where no identity is there twice. -/
theorem find?_nodeId_eq_some_iff {nodes : List Node} (hids : (nodes.map Node.nodeId).Nodup)
    {nodeId : String} {n : Node} :
    nodes.find? (fun m => m.nodeId == nodeId) = some n ↔ n ∈ nodes ∧ n.nodeId = nodeId := by
  constructor
  · intro h
    have hid := List.find?_some h
    exact ⟨List.mem_of_find?_eq_some h, beq_iff_eq.mp hid⟩
  · rintro ⟨hn, rfl⟩
    cases hfind : nodes.find? (fun m => m.nodeId == n.nodeId) with
    | none => exact absurd (beq_self_eq_true n.nodeId) (List.find?_eq_none.mp hfind n hn)
    | some m =>
      have hid : m.nodeId = n.nodeId := by simpa using List.find?_some hfind
      rw [List.inj_on_of_nodup_map hids (List.mem_of_find?_eq_some hfind) hn hid]

/-- No route is left only where no candidate is named. -/
theorem dispatchTicketIssue_eq_noRoute_iff {C : DirectoryContext} {L : NodeListing}
    {req : DispatchTicketRequest} {q : DiscoverQuery} (hq : ticketQuery C.refused req = .ok q) :
    dispatchTicketIssue C L req = .error noRoute
      ↔ ∀ n ∈ (L.discover q).filter req.keeps, req.names n = false := by
  rw [← selectDispatchTicketNode_eq_noRoute_iff]
  unfold dispatchTicketIssue
  rw [hq]
  dsimp only
  cases hn : selectDispatchTicketNode req ((L.discover q).filter req.keeps) with
  | error rejection => simp
  | ok n =>
    dsimp only
    split <;> simp [noRoute]

section Rules

variable {C : DirectoryContext} {L : NodeListing} {D : RestrictedDomainService} {nowS : ℤ}
  {t : Memberships fold} {req : DispatchTicketRequest} {q : DiscoverQuery} {found : List Node}

/-- A ticket for a node that the request is for is a result only if the node is. -/
theorem routes_of_isFor (hq : ticketQuery C.refused req = .ok q) {listed : List Node}
    (h : TicketIsListed C L req listed) {c : Node}
    (hfor : req.IsFor ((L.discover q).filter req.keeps) c) (hsigns : Signs C req c) :
    Routes req listed c := by
  obtain ⟨ticket, hticket⟩ := Option.isSome_iff_exists.mp hsigns
  exact h.issued c ticket (dispatchTicketIssue_eq_ok_iff.mpr ⟨q, hq, hfor, hticket⟩)

/-- **If tickets are results, the rules agree**, -/
theorem rulesAgree_of_ticketIsListed (hq : ticketQuery C.refused req = .ok q)
    (hcands : (L.discover q).filter req.keeps = (found.take q.limit).filter req.keeps)
    (hexplicit : req.nodeId.isSome = true ∨ req.nodeIdPrefix.isSome = true → q.limit = 50)
    (hfound : found.length ≤ 50) (hids : (found.map Node.nodeId).Nodup)
    (h : TicketIsListed C L req
      (selectAndRank C.sdkCurrent req.discoverParams.selection (kept D nowS t found))) :
    RulesAgree C D nowS t req found q.limit := by
  have hall : req.nodeId.isSome = true ∨ req.nodeIdPrefix.isSome = true →
      (L.discover q).filter req.keeps = found.filter req.keeps := fun hsome => by
    rw [hcands, hexplicit hsome, List.take_of_length_le hfound]
  have hkeptIds : ((found.filter req.keeps).map Node.nodeId).Nodup :=
    hids.sublist (List.filter_sublist.map _)
  constructor
  · intro nodeId hid c hc hkeeps hnamed hsigns
    have hcands' := hall (Or.inl (Option.isSome_of_eq_some hid))
    have hfor : req.IsFor ((L.discover q).filter req.keeps) c := by
      refine Or.inl ⟨nodeId, hid, ?_⟩
      rw [hcands', find?_nodeId_eq_some_iff hkeptIds]
      exact ⟨List.mem_filter.mpr ⟨hc, hkeeps⟩, hnamed⟩
    have hroutes := routes_of_isFor hq h hfor hsigns
    exact ((routes_iff hfound hids hc hkeeps hroutes.named).mp hroutes).1
  · intro start hid hstart c hone hsigns
    have hcands' := hall (Or.inr (Option.isSome_of_eq_some hstart))
    have hfor : req.IsFor ((L.discover q).filter req.keeps) c := by
      refine Or.inr (Or.inl ⟨start, hid, hstart, ?_⟩)
      rw [hcands']
      exact hone
    have hroutes := routes_of_isFor hq h hfor hsigns
    have hmem : c ∈ (found.filter req.keeps).filter fun n => startsWith n.nodeId start :=
      hone ▸ List.mem_singleton_self c
    obtain ⟨hc, hkeeps⟩ := List.mem_filter.mp (List.mem_filter.mp hmem).1
    exact ((routes_iff hfound hids hc hkeeps hroutes.named).mp hroutes).1
  · intro hid hstart c hfirst hsigns
    have hfor : req.IsFor ((L.discover q).filter req.keeps) c := by
      refine Or.inr (Or.inr ⟨hid, hstart, ?_⟩)
      rw [hcands, List.head?_filter]
      exact hfirst
    have hroutes := routes_of_isFor hq h hfor hsigns
    have hc := List.mem_of_mem_take (List.mem_of_find?_eq_some hfirst)
    obtain ⟨hselects, -, hbest⟩ :=
      (routes_iff hfound hids hc (List.find?_some hfirst) hroutes.named).mp hroutes
    exact ⟨hselects, hbest hid hstart⟩
  · intro hid hstart hnone m hm hselects
    by_contra hallowed
    have hallowed' : req.allows m = true := Bool.not_eq_false _ ▸ hallowed
    have hempty : (L.discover q).filter req.keeps = [] := by
      rw [hcands, List.filter_eq_nil_iff]
      exact fun c hc => by rw [hnone c hc]; exact Bool.false_ne_true
    have hnoroute : dispatchTicketIssue C L req = .error noRoute := by
      rw [dispatchTicketIssue_eq_noRoute_iff hq, hempty]
      exact fun n hn => absurd hn List.not_mem_nil
    have hnames := h.noRoute hnoroute _ ((mem_listed_iff hfound).mpr ⟨m, hm, hselects, rfl⟩) hallowed'
    unfold DispatchTicketRequest.names at hnames
    rw [hid, hstart] at hnames
    exact absurd hnames (by simp)

/-- **and if the rules agree, tickets are results.** -/
theorem ticketIsListed_of_rulesAgree (hq : ticketQuery C.refused req = .ok q)
    (hcands : (L.discover q).filter req.keeps = (found.take q.limit).filter req.keeps)
    (hexplicit : req.nodeId.isSome = true ∨ req.nodeIdPrefix.isSome = true → q.limit = 50)
    (hfound : found.length ≤ 50) (hids : (found.map Node.nodeId).Nodup)
    (h : RulesAgree C D nowS t req found q.limit) :
    TicketIsListed C L req
      (selectAndRank C.sdkCurrent req.discoverParams.selection (kept D nowS t found)) := by
  have hall : req.nodeId.isSome = true ∨ req.nodeIdPrefix.isSome = true →
      (L.discover q).filter req.keeps = found.filter req.keeps := fun hsome => by
    rw [hcands, hexplicit hsome, List.take_of_length_le hfound]
  have hkeptIds : ((found.filter req.keeps).map Node.nodeId).Nodup :=
    hids.sublist (List.filter_sublist.map _)
  -- the identity of a node is not scored, nor whether it is allowed
  have hkeeps : ∀ {m : Node}, Selects D nowS t req m → req.allows m = true → req.keeps m = true :=
    fun hm hallowed => DispatchTicketRequest.keeps_of_selected hm.2 hallowed
  constructor
  · intro n ticket hissued
    obtain ⟨q', hq', hfor, hticket⟩ := dispatchTicketIssue_eq_ok_iff.mp hissued
    obtain rfl := Except.ok.inj (hq.symm.trans hq')
    have hsigns : Signs C req n := Option.isSome_of_eq_some hticket
    rcases hfor with ⟨nodeId, hid, hfind⟩ | ⟨start, hid, hstart, hone⟩ | ⟨hid, hstart, hhead⟩
    · rw [hall (Or.inl (Option.isSome_of_eq_some hid)), find?_nodeId_eq_some_iff hkeptIds] at hfind
      obtain ⟨hn, hnamed⟩ := hfind
      obtain ⟨hc, hkept⟩ := List.mem_filter.mp hn
      have hnames : req.names n = true := by
        unfold DispatchTicketRequest.names
        rw [hid]
        exact beq_iff_eq.mpr hnamed
      have hnostart : req.nodeIdPrefix = none := 
        prefix_eq_none_of_selectorError (of_ticketQuery hq).2.2.1 hid
      refine (routes_iff hfound hids hc hkept hnames).mpr
        ⟨h.named nodeId hid n hc hkept hnamed hsigns, fun start hstart => ?_, fun hnone => ?_⟩
      · exact absurd (hnostart.symm.trans hstart) (by simp)
      · exact absurd (hnone.symm.trans hid) (by simp)
    · rw [hall (Or.inr (Option.isSome_of_eq_some hstart))] at hone
      have hmem : n ∈ (found.filter req.keeps).filter fun m => startsWith m.nodeId start :=
        hone ▸ List.mem_singleton_self n
      obtain ⟨hn, hstarts⟩ := List.mem_filter.mp hmem
      obtain ⟨hc, hkept⟩ := List.mem_filter.mp hn
      have hnames : req.names n = true := by
        unfold DispatchTicketRequest.names
        rw [hid, hstart]
        exact hstarts
      refine (routes_iff hfound hids hc hkept hnames).mpr
        ⟨h.only start hid hstart n hone hsigns, fun start' hother m hm hselects hallowed hm' => ?_,
          fun _ hnone => ?_⟩
      · obtain rfl := Option.some.inj (hstart.symm.trans hother)
        have hmany : m ∈ (found.filter req.keeps).filter fun m => startsWith m.nodeId start :=
          List.mem_filter.mpr ⟨List.mem_filter.mpr ⟨hm, hkeeps hselects hallowed⟩, hm'⟩
        rw [hone] at hmany
        exact List.mem_singleton.mp hmany
      · exact absurd (hnone.symm.trans hstart) (by simp)
    · rw [hcands, List.head?_filter] at hhead
      have hnames : req.names n = true := by
        unfold DispatchTicketRequest.names
        rw [hid, hstart]
        rfl
      obtain ⟨hselects, hbest⟩ := h.first hid hstart n hhead hsigns
      refine (routes_iff hfound hids (List.mem_of_mem_take (List.mem_of_find?_eq_some hhead))
        (List.find?_some hhead) hnames).mpr ⟨hselects, fun start hother => ?_, fun _ _ => hbest⟩
      exact absurd (hstart.symm.trans hother) (by simp)
  · intro hnoroute m hm hallowed
    rw [dispatchTicketIssue_eq_noRoute_iff hq] at hnoroute
    obtain ⟨c, hc, hselects, rfl⟩ := (mem_listed_iff hfound).mp hm
    have hkept : req.keeps c = true := hkeeps hselects hallowed
    by_cases hsome : req.nodeId.isSome = true ∨ req.nodeIdPrefix.isSome = true
    · rw [hall hsome] at hnoroute
      exact hnoroute c (List.mem_filter.mpr ⟨hc, hkept⟩)
    · obtain ⟨hid, hstart⟩ := not_or.mp hsome
      have hid' : req.nodeId = none := Option.not_isSome_iff_eq_none.mp hid
      have hstart' : req.nodeIdPrefix = none := Option.not_isSome_iff_eq_none.mp hstart
      have hnone : ∀ n ∈ found.take q.limit, req.keeps n = false := by
        intro n hn
        by_contra hkeptn
        have hnames := hnoroute n (hcands ▸ List.mem_filter.mpr ⟨hn, Bool.not_eq_false _ ▸ hkeptn⟩)
        unfold DispatchTicketRequest.names at hnames
        rw [hid', hstart'] at hnames
        exact absurd hnames (by simp)
      have hexcluded : req.allows c = false := h.within hid' hstart' hnone c hc hselects
      exact absurd (hexcluded.symm.trans hallowed) Bool.false_ne_true

end Rules

/-- **A ticket is a result of the discovery exactly where the rules agree**, for
every content of either repository and every valid request. -/
theorem ticket_listed_iff (C : DirectoryContext) (D : RestrictedDomainService) (nowS : ℤ)
    (t : Memberships fold) (store : DiscoverableStore fold) (others : NodeListing)
    {req : DispatchTicketRequest} {q : DiscoverQuery} (hq : ticketQuery C.refused req = .ok q) :
    ∃ listed, discover C (store.listing others) D nowS t req.discoverParams = .ok listed
      ∧ (TicketIsListed C (store.listing others) req listed
        ↔ RulesAgree C D nowS t req (store.discover { q with limit := 50 }) q.limit) := by
  obtain ⟨hlimit, hexplicit, hdiscover⟩ := discoverQuery_of_ticketQuery hq
  have hlimit50 : 1 ≤ ({ q with limit := 50 } : DiscoverQuery).limit
      ∧ ({ q with limit := 50 } : DiscoverQuery).limit ≤ 50 := ⟨by norm_num, le_refl 50⟩
  set found := store.discover { q with limit := 50 }
  have hfound : found.length ≤ 50 := store.length_discover_le hlimit50
  have hids : (found.map Node.nodeId).Nodup := store.nodup_discover hlimit50
  refine ⟨selectAndRank C.sdkCurrent req.discoverParams.selection (kept D nowS t found), ?_, ?_⟩
  · unfold discover
    rw [hdiscover]
    rfl
  have hcands : ((store.listing others).discover q).filter req.keeps
      = (found.take q.limit).filter req.keeps :=
    congrArg (List.filter req.keeps) (store.discover_take hlimit)
  exact ⟨rulesAgree_of_ticketIsListed hq hcands hexplicit hfound hids,
    ticketIsListed_of_rulesAgree hq hcands hexplicit hfound hids⟩

end RestrictedDomain

namespace RestrictedDomain

open Discovery DiscoveryPolicy

namespace Sample

/-- Two nodes in memory that serve an intent. -/
def twoServing : DiscoverableStore id :=
  .memory
    { InMemoryRepo.empty with
      records := [(Sample.offer "node-a" ["m"] none).record, (Sample.offer "node-b" ["m"] none).record]
      ids_nodup := by decide +kernel }

/-- A ticket of one candidate, which may not be the first. -/
def notTheFirst : DispatchTicketRequest where
  intent := "urn:iicp:intent:llm:chat:v1"
  limit := some 1
  excludeNodeIdPrefixes := ["node-a"]

/-- What the repository is asked for. -/
def oneCandidate : DiscoverQuery := ⟨"urn:iicp:intent:llm:chat:v1", 1, none⟩

end Sample

theorem ticket_listed_iff_sample :
    ∃ listed, discover Sample.plainDirectory (Sample.twoServing.listing Sample.bothListed)
        Sample.openDomain 0 Sample.memberAndLapsed Sample.notTheFirst.discoverParams = .ok listed
      ∧ (TicketIsListed Sample.plainDirectory (Sample.twoServing.listing Sample.bothListed)
          Sample.notTheFirst listed
        ↔ RulesAgree Sample.plainDirectory Sample.openDomain 0 Sample.memberAndLapsed
          Sample.notTheFirst (Sample.twoServing.discover { Sample.oneCandidate with limit := 50 })
          Sample.oneCandidate.limit) :=
  ticket_listed_iff Sample.plainDirectory Sample.openDomain 0 Sample.memberAndLapsed
    Sample.twoServing Sample.bothListed (q := Sample.oneCandidate) (by rfl)

/-- **A node that would do is left out** where the one candidate is excluded. -/
theorem no_route_beside_a_listed_node :
    ¬ ∀ (C : DirectoryContext) (store : DiscoverableStore id) (req : DispatchTicketRequest)
      (q : DiscoverQuery) (listed : List Node), ticketQuery C.refused req = .ok q →
      discover C (store.listing Sample.bothListed) Sample.openDomain 0 Sample.memberAndLapsed
        req.discoverParams = .ok listed →
      TicketIsListed C (store.listing Sample.bothListed) req listed := by
  intro h
  have hkept := h Sample.plainDirectory Sample.twoServing Sample.notTheFirst Sample.oneCandidate
    (selectAndRank Sample.plainDirectory.sdkCurrent Sample.notTheFirst.discoverParams.selection
      (kept Sample.openDomain 0 Sample.memberAndLapsed
        (Sample.twoServing.discover { Sample.oneCandidate with limit := 50 }))) rfl rfl
  have hlisted : ∃ m ∈ selectAndRank Sample.plainDirectory.sdkCurrent
      Sample.notTheFirst.discoverParams.selection
      (kept Sample.openDomain 0 Sample.memberAndLapsed
        (Sample.twoServing.discover { Sample.oneCandidate with limit := 50 })),
      Sample.notTheFirst.allows m = true := by
    decide +kernel
  obtain ⟨m, hm, hallowed⟩ := hlisted
  have hnoroute : dispatchTicketIssue Sample.plainDirectory
      (Sample.twoServing.listing Sample.bothListed) Sample.notTheFirst = .error noRoute :=
    (dispatchTicketIssue_eq_noRoute_iff (q := Sample.oneCandidate) rfl).mpr (by decide +kernel)
  have hnames : Sample.notTheFirst.names m = false := hkept.noRoute hnoroute m hm hallowed
  exact absurd hnames (by simp [DispatchTicketRequest.names, Sample.notTheFirst])

end RestrictedDomain
