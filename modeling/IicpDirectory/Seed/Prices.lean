import IicpDirectory.Foundations.Run
import IicpDirectory.Pricing
import IicpDirectory.Seed.Heartbeats

/-!
# The price a node is stored with

Two handlers write the price of a node. A registration bounds what it
declares by the models of the same request, and the price it leaves is
within their ceiling, unless none was declared: then it is the base price,
whatever the models. A heartbeat looks the node up to learn its models. In
memory nothing comes of it, as no price is written there. Over MySQL the
lookup does not select the models, so that the bound is the one for no
model, three; and what is written is a single-precision number.

`price_capped` is the law for the runs in which every registration declares
a price or advertises models of full weight, and no heartbeat declares more
than the models are worth. In all runs the price is the same in whatever
order models are listed.
-/

open Pricing

/-! ## The handlers -/

/-- The models of a node and its price. -/
structure Price where
  models : List String
  multiplier : ℚ
  model : String
  deriving DecidableEq

/-- The pricing block of a heartbeat. -/
structure HeartbeatPricing where
  creditCostMultiplier : Option ℚ := none
  pricingModel : Option String := none

/-- **The operations of a repository on prices**: `price` is what it has on
record. -/
class PricedRepository (σ : Type) where
  register : σ → PendingRegistration → σ
  /-- The node an identity or a prefix of one names, and its models. -/
  nodeByPrefix : σ → String → Option (String × List String)
  updatePricing : σ → String → ℚ → Option String → σ
  heartbeat : σ → Delivery → σ
  price : σ → String → Option Price

namespace Prices

/-- `register`, the price: an invalid one is refused, and a valid one is
bounded by the models advertised. -/
def admitted (p : PendingRegistration) : Option PendingRegistration :=
  if p.request.pricing.all (fun x => validPricing x.creditCostMultiplier x.pricingModel) then
    some { p with
      pricingMultiplier := boundedPricing p.node.models
        (p.request.pricing.map (fun x => x.creditCostMultiplier)) }
  else none

/-- The price an admitted registration declares. -/
def priceOf (p : PendingRegistration) : Price where
  models := p.node.models
  multiplier := p.pricingMultiplier
  model := (p.request.pricing.map (fun x => x.pricingModel)).getD "per_token"

/-- The vocabulary of a heartbeat is checked, its multiplier is not. -/
def known (pricing : HeartbeatPricing) : Bool := pricing.pricingModel.all pricingModels.contains

variable {σ : Type} [PricedRepository σ]

/-- `heartbeat`, the price: bounded by the models of the node that is
found. -/
def declare (s : σ) (nodeId : String) (pricing : HeartbeatPricing) : σ :=
  match pricing.creditCostMultiplier with
  | none => s
  | some declared =>
    let models := ((PricedRepository.nodeByPrefix s nodeId).filter
      (fun found => found.1 == nodeId)).elim [] Prod.snd
    PricedRepository.updatePricing s nodeId (boundedPricing models (some declared))
      pricing.pricingModel

/-- A request. -/
inductive Action
  | register (p : PendingRegistration)
  | heartbeat (d : Delivery) (pricing : Option HeartbeatPricing)

/-- **One step.** A heartbeat with an unknown pricing model is refused as a
whole. -/
def step (s : σ) : Action → σ
  | .register p => (admitted p).elim s (PricedRepository.register s)
  | .heartbeat d none => PricedRepository.heartbeat s d
  | .heartbeat d (some pricing) =>
    if known pricing then PricedRepository.heartbeat (declare s d.req.nodeId pricing) d else s

end Prices

/-! ## The two repositories -/

/-- A row of `nodes` and its rows of `capabilities`, as far as they are a
price. -/
structure PriceRow where
  id : String
  price : Price

/-- **The tables**, with the columns that hold the prices. -/
structure PricedTables (fold : String → String) where
  repo : MySqlRepo fold
  prices : Table (fun r : PriceRow => fold r.id)

namespace PricedTables

variable {fold : String → String}

/-- The tables as the schema creates them. -/
def empty (fold : String → String) : PricedTables fold := ⟨.empty fold, .empty _⟩

/-- `upsert_node`, the price. -/
def register (t : PricedTables fold) (p : PendingRegistration) : PricedTables fold where
  repo := t.repo.registered p
  prices := t.prices.upsert ⟨p.nodeId, Prices.priceOf p⟩
    (fun old => { old with price := Prices.priceOf p }) (fun _ => rfl)

/-- `LIKE`, on texts the collation has folded. -/
def like : List Char → List Char → Bool
  | [], text => text.isEmpty
  | '%' :: pattern, text => text.tails.any (like pattern)
  | '_' :: pattern, text => !text.isEmpty && like pattern text.tail
  | '\\' :: c :: pattern, text => text.head? == some c && like pattern text.tail
  | c :: pattern, text => text.head? == some c && like pattern text.tail

/-- The models of a row that is read, from the column that lists them. -/
def modelsOf (capabilityModels : Option (List String)) : List String := capabilityModels.getD []

/-- `MySqlRepo::node_by_prefix`: of the available nodes, the one of this
identity, or else one whose identity begins with it. The column of the
models is not selected. -/
def nodeByPrefix (t : PricedTables fold) (idPrefix : String) : Option (String × List String) :=
  let available := t.repo.nodes.rows.filter (fun r => r.available)
  let row := (available.find? (fun r => fold r.id == fold idPrefix)).or
    (available.find? (fun r => like ((fold idPrefix).toList ++ ['%']) (fold r.id).toList))
  row.map (fun r => (r.id, modelsOf none))

/-- `MySqlRepo::update_pricing`. -/
def updatePricing (t : PricedTables fold) (nodeId : String) (multiplier : ℚ)
    (model : Option String) : PricedTables fold :=
  { t with
    prices := t.prices.update (fold nodeId)
      (fun r => { r with price := { r.price with
        multiplier := toF32 (max 0 (min multiplier 1000))
        model := model.getD r.price.model } }) (fun _ => rfl) }

instance (fold : String → String) : PricedRepository (PricedTables fold) where
  register := register
  nodeByPrefix := nodeByPrefix
  updatePricing := updatePricing
  heartbeat t d := { t with repo := Heartbeats.receive t.repo d }
  price t nodeId := (t.prices.find (fold nodeId)).map PriceRow.price

end PricedTables

namespace MemoryNodes

/-- No node. -/
def empty : MemoryNodes := ⟨.empty, []⟩

/-- `InMemoryRepo::node_by_prefix`. -/
def nodeByPrefix (m : MemoryNodes) (idPrefix : String) : Option (String × List String) :=
  let available := m.repo.records.filter (fun r => r.node.available)
  let record := (available.find? (fun r => r.id == idPrefix)).or
    (available.find? (fun r => idPrefix.toList.isPrefixOf r.id.toList))
  record.map (fun r => (r.id, r.node.models))

/-- `InMemoryRepo`: `update_pricing` does nothing. -/
instance : PricedRepository MemoryNodes where
  register m p := { m with repo := m.repo.register p.record }
  nodeByPrefix := nodeByPrefix
  updatePricing m _ _ _ := m
  heartbeat := Heartbeats.receive
  price m nodeId := (m.repo.find nodeId).map (fun r =>
    ⟨r.node.models, r.node.creditCostMultiplier, r.node.pricingModel.getD "per_token"⟩)

end MemoryNodes

/-! ## What a step makes of a price -/

namespace Prices

/-- **How a repository prices**: which names are a node's, and what a
declaration makes of its price. -/
structure PricedBy (σ : Type) [PricedRepository σ] (same : String → String → Bool)
    (declared : HeartbeatPricing → Price → Price) : Prop where
  price_congr : ∀ (s : σ) a b, same a b = true →
    PricedRepository.price s a = PricedRepository.price s b
  price_register : ∀ (s : σ) p nodeId, PricedRepository.price (PricedRepository.register s p) nodeId
    = if same nodeId p.nodeId then some (priceOf p) else PricedRepository.price s nodeId
  price_declare : ∀ (s : σ) id pricing nodeId, PricedRepository.price (declare s id pricing) nodeId
    = if same nodeId id then (PricedRepository.price s nodeId).map (declared pricing)
      else PricedRepository.price s nodeId
  price_heartbeat : ∀ (s : σ) d nodeId,
    PricedRepository.price (PricedRepository.heartbeat s d) nodeId = PricedRepository.price s nodeId

/-- What a heartbeat makes of a price in the tables. -/
def tablePrice (pricing : HeartbeatPricing) (price : Price) : Price :=
  pricing.creditCostMultiplier.elim price (fun declared =>
    { price with
      multiplier := toF32 (max 0 (min (min declared 3) 1000))
      model := pricing.pricingModel.getD price.model })

/-- Three is the ceiling of no model. -/
theorem boundedPricing_nil (declared : ℚ) : boundedPricing [] (some declared) = min declared 3 := by
  show min declared (1 * 3) = _
  rw [one_mul]

/-- **No models are found**, whichever node is. -/
theorem models_nodeByPrefix {fold : String → String} (t : PricedTables fold)
    (idPrefix nodeId : String) :
    ((PricedRepository.nodeByPrefix t idPrefix).filter
      (fun found => found.1 == nodeId)).elim [] Prod.snd = [] := by
  have hnone : ∀ found, PricedRepository.nodeByPrefix t idPrefix = some found → found.2 = [] := by
    intro found hfound
    obtain ⟨row, _, rfl⟩ := Option.map_eq_some_iff.mp hfound
    rfl
  cases hfound : (PricedRepository.nodeByPrefix t idPrefix).filter
      (fun found => found.1 == nodeId) with
  | none => rfl
  | some found => exact hnone found (Option.filter_eq_some_iff.mp hfound).1

theorem pricedBy_tables (fold : String → String) :
    PricedBy (PricedTables fold) (Heartbeats.named fold) tablePrice where
  price_congr := by
    intro s a b hsame
    show (s.prices.find (fold a)).map PriceRow.price = (s.prices.find (fold b)).map PriceRow.price
    rw [of_decide_eq_true hsame]
  price_register := by
    intro s p nodeId
    show ((s.prices.upsert _ _ _).find (fold nodeId)).map PriceRow.price = _
    rw [Table.find_upsert]
    unfold Heartbeats.named
    simp only [decide_eq_true_eq]
    split
    · cases s.prices.find (fold p.nodeId) <;> rfl
    · rfl
  price_declare := by
    intro s id pricing nodeId
    unfold declare tablePrice Heartbeats.named
    simp only [decide_eq_true_eq]
    cases pricing.creditCostMultiplier with
    | none =>
      dsimp only [Option.elim_none]
      rw [Option.map_id']
      exact (ite_self _).symm
    | some declared =>
      dsimp only
      rw [models_nodeByPrefix, boundedPricing_nil]
      have hkey : ∀ r : PriceRow, fold { r with price := { r.price with
          multiplier := toF32 (max 0 (min (min declared 3) 1000))
          model := pricing.pricingModel.getD r.price.model } }.id = fold r.id := fun _ => rfl
      refine (congrArg (Option.map PriceRow.price)
        (Table.find_update s.prices (fold id) (fold nodeId) hkey)).trans ?_
      show _ = ite _ (Option.map _ (Option.map PriceRow.price (s.prices.find (fold nodeId)))) _
      split
      · rw [Option.map_map, Option.map_map]
        rfl
      · rfl
  price_heartbeat := fun _ _ _ => rfl

theorem pricedBy_memory :
    PricedBy MemoryNodes (Heartbeats.named id) (fun _ price => price) where
  price_congr := by
    intro m a b hsame
    rw [show a = b from of_decide_eq_true hsame]
  price_register := by
    intro m p nodeId
    show ((m.repo.register p.record).find nodeId).map _ = _
    rw [InMemoryRepo.find_register, PendingRegistration.id_record]
    by_cases hsame : nodeId = p.nodeId
    · rw [if_pos hsame, if_pos (show Heartbeats.named id nodeId p.nodeId = true from
        decide_eq_true hsame)]
      cases m.repo.find p.nodeId <;> rfl
    · rw [if_neg hsame, if_neg (by simpa [Heartbeats.named] using hsame)]
      rfl
  price_declare := by
    intro m id pricing nodeId
    have hsame : declare m id pricing = m := by
      unfold declare
      cases pricing.creditCostMultiplier <;> rfl
    rw [hsame, Option.map_id']
    exact (ite_self _).symm
  price_heartbeat := by
    intro m d nodeId
    show ((Heartbeats.receive m d).repo.find nodeId).map _ = _
    rw [Heartbeats.find_receive_memory]
    split
    · rw [Option.map_map]
      rfl
    · rfl

/-! ## Runs -/

variable {σ : Type} [PricedRepository σ] {same : String → String → Bool}
  {declared : HeartbeatPricing → Price → Price}

/-- The price of a node after a request. -/
def priceAfter (same : String → String → Bool) (declared : HeartbeatPricing → Price → Price)
    (nodeId : String) (price : Option Price) : Action → Option Price
  | .register p =>
    (admitted p).elim price (fun p' => if same nodeId p'.nodeId then some (priceOf p') else price)
  | .heartbeat d pricing =>
    (pricing.filter known).elim price (fun x =>
      if same nodeId d.req.nodeId then price.map (declared x) else price)

/-- **The price a step leaves is told by the price it finds.** -/
theorem price_step (h : PricedBy σ same declared) (s : σ) (a : Action) (nodeId : String) :
    PricedRepository.price (step s a) nodeId
      = priceAfter same declared nodeId (PricedRepository.price s nodeId) a := by
  cases a with
  | register p =>
    unfold step priceAfter
    dsimp only
    cases admitted p with
    | none => rfl
    | some p' => exact h.price_register s p' nodeId
  | heartbeat d pricing =>
    cases pricing with
    | none => exact h.price_heartbeat s d nodeId
    | some x =>
      unfold step priceAfter
      dsimp only
      cases hknown : known x with
      | false =>
        rw [Option.filter_some, hknown]
        rfl
      | true =>
        rw [Option.filter_some, hknown, if_pos rfl]
        exact (h.price_heartbeat _ d nodeId).trans (h.price_declare s d.req.nodeId x nodeId)

/-- The price of a node after a run. -/
theorem price_after (h : PricedBy σ same declared) (s : σ) (actions : List Action)
    (nodeId : String) :
    PricedRepository.price (Run.after step s actions) nodeId
      = actions.foldl (priceAfter same declared nodeId) (PricedRepository.price s nodeId) := by
  induction actions generalizing s with
  | nil => rfl
  | cons a rest ih => rw [Run.after_cons, ih, price_step h, List.foldl_cons]

/-! ### The ceiling -/

/-- **No price on record is above the ceiling** of the models its node
advertises. -/
def Capped (s : σ) : Prop :=
  ∀ nodeId price, PricedRepository.price s nodeId = some price →
    price.multiplier ≤ ceiling price.models

/-- **The condition on a step**: a registration declares a price, or advertises
models of full weight; and what a heartbeat declares is worth it. -/
def Modest (worth : HeartbeatPricing → Price → Prop) (s : σ) : Action → Prop
  | .register p => p.request.pricing.isSome = true ∨ FullSized p.node.models
  | .heartbeat d pricing => ∀ x ∈ pricing.filter known, ∀ price,
      PricedRepository.price s d.req.nodeId = some price → worth x price

/-- What is worth it in the tables: models of full weight are worth three, and
those below what they are worth is kept to, in single precision. -/
def Worth (x : HeartbeatPricing) (price : Price) : Prop :=
  ∀ d ∈ x.creditCostMultiplier,
    FullSized price.models ∨ d ≤ 3 ∧ toF32 (max 0 d) ≤ ceiling price.models

/-- The price of an admitted registration. -/
theorem capped_priceOf_iff {p p' : PendingRegistration} (h : admitted p = some p') :
    (priceOf p').multiplier ≤ ceiling (priceOf p').models
      ↔ p.request.pricing.isSome = true ∨ FullSized p.node.models := by
  unfold admitted at h
  split at h
  · obtain rfl := Option.some.inj h
    refine (boundedPricing_le_ceiling_iff p.node.models _).trans ?_
    rw [Option.isSome_map]
  · exact absurd h (by simp)

theorem three_le_ceiling_iff (models : List String) : 3 ≤ ceiling models ↔ FullSized models := by
  refine Iff.trans ?_ (one_le_sizeWeight_iff (largestSize models))
  unfold ceiling
  constructor
  · intro h
    linarith
  · intro h
    linarith

/-- **When a heartbeat leaves a price within the ceiling.** -/
theorem capped_tablePrice_iff {x : HeartbeatPricing} {price : Price}
    (h : price.multiplier ≤ ceiling price.models) :
    (tablePrice x price).multiplier ≤ ceiling (tablePrice x price).models ↔ Worth x price := by
  unfold tablePrice Worth
  cases x.creditCostMultiplier with
  | none => exact ⟨fun _ d hd => absurd hd (by simp), fun _ => h⟩
  | some d =>
    simp only [Option.mem_some_iff, forall_eq', Option.elim_some]
    by_cases hfull : FullSized price.models
    · refine iff_of_true ?_ (Or.inl hfull)
      have hthree : max 0 (min (min d 3) 1000) ≤ ((3 : ℕ) : ℚ) :=
        max_le (by norm_num) ((min_le_left _ _).trans (min_le_right _ _))
      exact (toF32_le (by norm_num) (le_max_left _ _) hthree).trans
        ((three_le_ceiling_iff price.models).mpr hfull)
    · rw [or_iff_right hfull]
      by_cases hd : d ≤ 3
      · rw [min_eq_left hd, min_eq_left (hd.trans (by norm_num)), and_iff_right hd]
      · have hmin : min (min d 3) 1000 = 3 := by
          rw [min_eq_right (not_le.mp hd).le]
          norm_num
        have hthree : toF32 (max 0 3) = 3 := by decide +kernel
        rw [hmin, hthree]
        exact iff_of_false (fun hle => hfull ((three_le_ceiling_iff _).mp hle))
          (fun hand => hd hand.1)

/-- Every step that meets the condition keeps the prices within the
ceiling. -/
theorem capped_step {worth : HeartbeatPricing → Price → Prop} (h : PricedBy σ same declared)
    (hworth : ∀ x price, price.multiplier ≤ ceiling price.models → worth x price →
      (declared x price).multiplier ≤ ceiling (declared x price).models)
    (s : σ) (a : Action) (hs : Capped s) (ha : Modest worth s a) : Capped (step s a) := by
  intro nodeId price hprice
  rw [price_step h] at hprice
  unfold priceAfter at hprice
  cases a with
  | register p =>
    dsimp only at hprice
    cases hadmitted : admitted p with
    | none =>
      rw [hadmitted] at hprice
      exact hs nodeId price hprice
    | some p' =>
      rw [hadmitted, Option.elim_some] at hprice
      split at hprice
      · obtain rfl := Option.some.inj hprice
        exact (capped_priceOf_iff hadmitted).mpr ha
      · exact hs nodeId price hprice
  | heartbeat d pricing =>
    dsimp only at hprice
    cases hpricing : pricing.filter known with
    | none =>
      rw [hpricing] at hprice
      exact hs nodeId price hprice
    | some x =>
      rw [hpricing, Option.elim_some] at hprice
      split at hprice
      · rename_i hsame
        obtain ⟨old, hold, rfl⟩ := Option.map_eq_some_iff.mp hprice
        have hnamed : PricedRepository.price s d.req.nodeId = some old :=
          (h.price_congr s nodeId d.req.nodeId hsame).symm.trans hold
        exact hworth x old (hs nodeId old hold) (ha x hpricing old hnamed)
      · exact hs nodeId price hprice

/-! ### The order of the models -/

/-- **Two requests that differ in the order of the models**: two registrations
of a node with one price that list the same models, or one heartbeat. -/
inductive Reordered : Action → Action → Prop
  | register {p p' : PendingRegistration} (nodeId : p'.nodeId = p.nodeId)
      (pricing : p'.request.pricing = p.request.pricing)
      (models : (p.request.capabilities.flatMap (fun c => c.models)).Perm
        (p'.request.capabilities.flatMap (fun c => c.models))) :
      Reordered (.register p) (.register p')
  | heartbeat (d : Delivery) (pricing : Option HeartbeatPricing) :
      Reordered (.heartbeat d pricing) (.heartbeat d pricing)

/-- A price without its models. -/
def terms (price : Price) : ℚ × String := (price.multiplier, price.model)

/-- The order of the models does not tell in a step. -/
theorem terms_priceAfter
    (hdeclared : ∀ x price price', terms price = terms price' →
      terms (declared x price) = terms (declared x price'))
    {a a' : Action} (ha : Reordered a a') (nodeId : String) {price price' : Option Price}
    (h : price.map terms = price'.map terms) :
    (priceAfter same declared nodeId price a).map terms
      = (priceAfter same declared nodeId price' a').map terms := by
  cases ha with
  | register hid hpricing hmodels =>
    rename_i p p'
    have hbound : boundedPricing p.node.models
          (p.request.pricing.map (fun x => x.creditCostMultiplier))
        = boundedPricing p'.node.models
          (p.request.pricing.map (fun x => x.creditCostMultiplier)) :=
      boundedPricing_perm hmodels.dedup _
    unfold priceAfter admitted
    dsimp only
    rw [hpricing]
    split
    · simp only [Option.elim_some, hid]
      split
      · simp only [Option.map_some, terms, priceOf, hpricing, hbound]
      · exact h
    · exact h
  | heartbeat d pricing =>
    unfold priceAfter
    dsimp only
    cases pricing.filter known with
    | none => exact h
    | some x =>
      simp only [Option.elim_some]
      split
      · cases price with
        | none =>
          rw [Option.map_none] at h
          rw [Option.map_eq_none_iff.mp h.symm]
        | some price =>
          obtain ⟨old, rfl, hold⟩ := Option.map_eq_some_iff.mp h.symm
          exact congrArg some (hdeclared x price old hold.symm)
      · exact h

/-- **The order of the models does not tell in a run.** -/
theorem terms_after (h : PricedBy σ same declared)
    (hdeclared : ∀ x price price', terms price = terms price' →
      terms (declared x price) = terms (declared x price'))
    (s : σ) {actions actions' : List Action} (hrun : List.Forall₂ Reordered actions actions')
    (nodeId : String) :
    (PricedRepository.price (Run.after step s actions) nodeId).map terms
      = (PricedRepository.price (Run.after step s actions') nodeId).map terms := by
  rw [price_after h, price_after h]
  have hstart : (PricedRepository.price s nodeId).map terms
      = (PricedRepository.price s nodeId).map terms := rfl
  revert hstart
  generalize PricedRepository.price s nodeId = price
  suffices hall : ∀ price price' : Option Price, price.map terms = price'.map terms →
      (actions.foldl (priceAfter same declared nodeId) price).map terms
        = (actions'.foldl (priceAfter same declared nodeId) price').map terms from hall price price
  induction hrun with
  | nil => exact fun _ _ hterms => hterms
  | cons ha _ ih =>
    exact fun _ _ hterms => ih _ _ (terms_priceAfter hdeclared ha nodeId hterms)

theorem terms_tablePrice (x : HeartbeatPricing) (price price' : Price)
    (h : terms price = terms price') : terms (tablePrice x price) = terms (tablePrice x price') := by
  unfold tablePrice
  cases x.creditCostMultiplier with
  | none => exact h
  | some d =>
    obtain ⟨_, hmodel⟩ := Prod.mk.inj h
    simp only [Option.elim_some, terms, hmodel]

/-- **The price cap.** Over the tables the prices are within the ceiling in the
runs in which every registration declares a price or advertises models of
full weight, and no heartbeat declares more than its models are worth; in
memory in those in which every registration does. In all runs of either the
prices are the same in whatever order models are listed. -/
theorem price_capped (fold : String → String) (actions : List Action) :
    (Run.Along step (Modest Worth) (PricedTables.empty fold) actions →
        Capped (Run.after step (PricedTables.empty fold) actions))
      ∧ (Run.Along step (Modest fun _ _ => True) MemoryNodes.empty actions →
        Capped (Run.after step MemoryNodes.empty actions))
      ∧ ∀ actions', List.Forall₂ Reordered actions actions' → ∀ nodeId,
        (PricedRepository.price (Run.after step (PricedTables.empty fold) actions) nodeId).map terms
            = (PricedRepository.price (Run.after step (PricedTables.empty fold) actions')
              nodeId).map terms
          ∧ (PricedRepository.price (Run.after step MemoryNodes.empty actions) nodeId).map terms
            = (PricedRepository.price (Run.after step MemoryNodes.empty actions')
              nodeId).map terms := by
  refine ⟨fun hrun => ?_, fun hrun => ?_, fun actions' hrun nodeId => ⟨?_, ?_⟩⟩
  · have hempty : Capped (PricedTables.empty fold) := fun _ price hnone =>
      absurd (show none = some price from hnone) (by simp)
    exact Run.invariant_along (capped_step (pricedBy_tables fold)
      (fun x price hcapped hworth => (capped_tablePrice_iff hcapped).mpr hworth)) hempty hrun
  · have hempty : Capped MemoryNodes.empty := fun _ price hnone =>
      absurd (show none = some price from hnone) (by simp)
    exact Run.invariant_along (capped_step pricedBy_memory (fun _ _ hcapped _ => hcapped))
      hempty hrun
  · exact terms_after (pricedBy_tables fold) terms_tablePrice _ hrun nodeId
  · exact terms_after pricedBy_memory (fun _ _ _ hterms => hterms) _ hrun nodeId

end Prices

namespace Sample

open Prices

/-- A registration that advertises models, and declares a price or none. -/
def offer (nodeId : String) (models : List String) (declared : Option ℚ) :
    PendingRegistration :=
  { registration nodeId "https://n1.test" with
    request :=
      { endpoint := "https://n1.test"
        capabilities := [{ chat with models := models }]
        pricing := declared.map (fun d => ⟨d, "per_token"⟩) } }

/-- A node of two small models declares a price far above their ceiling, and
later an eighth. -/
def smallModels (models : List String) : List Action :=
  [.register (offer "n1" models (some 25)),
   .heartbeat ⟨{ nodeId := "n1" }, 1000⟩ (some { creditCostMultiplier := some (1 / 8) })]

/-- The node declares two. -/
def raised : List Action :=
  [.register (offer "n1" ["qwen2.5-0.5b"] (some (1 / 8))),
   .heartbeat ⟨{ nodeId := "n1" }, 1000⟩ (some { creditCostMultiplier := some 2 })]

/-- The node declares nothing. -/
def undeclared : List Action := [.register (offer "n1" ["qwen2.5-0.5b"] none)]

end Sample

namespace Prices

/-- The price of two small models, in either order. -/
theorem price_capped_sample :
    Capped (Run.after step (PricedTables.empty Sample.lowercase)
        (Sample.smallModels ["qwen2.5-0.5b", "smollm-0.36b"]))
      ∧ Capped (Run.after step MemoryNodes.empty
        (Sample.smallModels ["qwen2.5-0.5b", "smollm-0.36b"]))
      ∧ (PricedRepository.price (Run.after step (PricedTables.empty Sample.lowercase)
          (Sample.smallModels ["qwen2.5-0.5b", "smollm-0.36b"])) "n1").map terms
        = (PricedRepository.price (Run.after step (PricedTables.empty Sample.lowercase)
          (Sample.smallModels ["smollm-0.36b", "qwen2.5-0.5b"])) "n1").map terms := by
  obtain ⟨htables, hmemory, horder⟩ :=
    price_capped Sample.lowercase (Sample.smallModels ["qwen2.5-0.5b", "smollm-0.36b"])
  refine ⟨htables ⟨Or.inl rfl, ?_, trivial⟩, hmemory ⟨Or.inl rfl, fun _ _ _ _ => trivial, trivial⟩,
    (horder _ ?_ "n1").1⟩
  · intro x hx price hprice
    obtain rfl := Option.some.inj ((Option.filter_eq_some_iff.mp hx).1)
    have hfound : PricedRepository.price (Run.after step (PricedTables.empty Sample.lowercase)
        ((Sample.smallModels ["qwen2.5-0.5b", "smollm-0.36b"]).take 1)) "n1"
          = some ⟨["qwen2.5-0.5b", "smollm-0.36b"], 3 / 20, "per_token"⟩ := by decide +kernel
    obtain rfl := Option.some.inj (hfound.symm.trans hprice)
    intro d hd
    obtain rfl := Option.some.inj hd
    exact Or.inr ⟨by norm_num, by decide +kernel⟩
  · refine List.Forall₂.cons (.register rfl rfl ?_) (List.Forall₂.cons (.heartbeat _ _)
      List.Forall₂.nil)
    exact List.Perm.swap _ _ _

/-- **A heartbeat lifts a price over the ceiling**: the node has a model of
half a billion, whose ceiling is 0.15, and its price is two. The base price
of a registration that declares none is over it as well. -/
theorem heartbeat_over_ceiling :
    ¬ Capped (Run.after step (PricedTables.empty Sample.lowercase) Sample.raised)
      ∧ PricedRepository.price (Run.after step (PricedTables.empty Sample.lowercase) Sample.raised)
          "n1" = some ⟨["qwen2.5-0.5b"], 2, "per_token"⟩
      ∧ ¬ Capped (Run.after step MemoryNodes.empty Sample.undeclared) := by
  have hraised : PricedRepository.price (Run.after step (PricedTables.empty Sample.lowercase)
      Sample.raised) "n1" = some ⟨["qwen2.5-0.5b"], 2, "per_token"⟩ := by decide +kernel
  have hundeclared : PricedRepository.price (Run.after step MemoryNodes.empty Sample.undeclared) "n1"
      = some ⟨["qwen2.5-0.5b"], 1, "per_token"⟩ := by decide
  have hceiling : ceiling ["qwen2.5-0.5b"] = 3 / 20 := by decide +kernel
  refine ⟨fun h => ?_, hraised, fun h => ?_⟩
  · have hle := h "n1" _ hraised
    rw [hceiling] at hle
    norm_num at hle
  · have hle := h "n1" _ hundeclared
    rw [hceiling] at hle
    norm_num at hle

end Prices
