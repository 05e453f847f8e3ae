import IicpDirectory.Seed.Settlement

/-!
# Conservation of credit

The three accounts of a node agree as long as each settlement moves them by
one amount. Each rounds on its own – a balance what is left, the entry what
was taken – and that comes to the same but for half a unit; and a removal
leaves the row of `credits`, which the node finds again when it registers
anew. Where neither happens every registered node is balanced, and its
summary reconciles (`conserves_of_exact`).
-/

namespace CreditDb

variable {fold : String → String}

/-! ## Registration and removal -/

theorem nodeBalance_registerNode (db : CreditDb fold) (nodeId : String)
    (operatorPubkey : Option String) (other : String) :
    (db.registerNode nodeId operatorPubkey).nodeBalance other
      = if fold other = fold nodeId then some ((db.nodeBalance nodeId).getD 0)
        else db.nodeBalance other := by
  show ((db.nodes.upsert _ _ _).find _).map _ = _
  rw [Table.find_upsert]
  split
  · unfold nodeBalance node
    cases db.nodes.find (fold nodeId) <;> rfl
  · rfl

theorem nodeBalance_deregister (db : CreditDb fold) (nodeId other : String) :
    (db.deregister nodeId).nodeBalance other
      = if fold other = fold nodeId then none else db.nodeBalance other := by
  show ((db.nodes.delete _).find _).map _ = _
  rw [Table.find_delete]
  split <;> rfl

theorem entrySum_deregister (db : CreditDb fold) {nodeId other : String}
    (hne : fold other ≠ fold nodeId) : (db.deregister nodeId).entrySum other = db.entrySum other := by
  unfold entrySum entries
  show (List.map _ (List.filter _ (List.filter _ db.creditTransactions.rows))).sum = _
  rw [List.filter_filter]
  refine congrArg (fun es => (List.map CreditEntry.signed es).sum) (List.filter_congr fun e _ => ?_)
  by_cases he : fold e.nodeId = fold other
  · simp [he, hne]
  · simp [he]

/-- A node that is not registered has no entries. -/
theorem entrySum_of_unregistered {db : CreditDb fold} {nodeId : String}
    (h : db.nodeBalance nodeId = none) : db.entrySum nodeId = 0 := by
  have hnone : db.entries nodeId = [] := by
    refine List.filter_eq_nil_iff.mpr fun e he => ?_
    have howned := db.owned e he
    unfold nodeBalance node at h
    intro hid
    rw [of_decide_eq_true hid, Option.map_eq_none_iff.mp h] at howned
    exact absurd howned (by simp)
  unfold entrySum
  rw [hnone]
  rfl

/-! ## The ledger of a node -/

/-- **The accounts of every registered node agree**, where there are three. -/
def Conserves (db : CreditDb fold) : Prop :=
  ∀ nodeId balance ledger, db.nodeBalance nodeId = some balance →
    db.accountBalance nodeId = some ledger → balance = ledger ∧ ledger = db.entrySum nodeId

/-- `SUM(amount)` over the entries of a node of one type. -/
def total (db : CreditDb fold) (nodeId : String) (type : EntryType) : ℚ :=
  (((db.entries nodeId).filter fun e => e.type == type).map (·.amount)).sum

/-- `reconciles` of `credits_summary`. -/
def reconciles (db : CreditDb fold) (nodeId : String) : Option Bool :=
  (db.nodeBalance nodeId).map fun balance =>
    decide (|balance - (db.total nodeId .credit - db.total nodeId .debit)| < 1 / 10000)

theorem entrySum_eq (db : CreditDb fold) (nodeId : String) :
    db.entrySum nodeId = db.total nodeId .credit - db.total nodeId .debit := by
  unfold entrySum total
  induction db.entries nodeId with
  | nil => exact (sub_zero (0 : ℚ)).symm
  | cons e rest ih =>
    rw [List.map_cons, List.sum_cons, ih, List.filter_cons, List.filter_cons]
    cases htype : e.type with
    | credit =>
      simp only [CreditEntry.signed, htype, beq_self_eq_true, if_true, List.map_cons, List.sum_cons]
      rw [if_neg (by decide)]
      ring
    | debit =>
      simp only [CreditEntry.signed, htype, beq_self_eq_true, if_true, List.map_cons, List.sum_cons]
      rw [if_neg (by decide)]
      ring

/-- **Every registered node is balanced**: its balance is whole, what
`credits` has for it, and the sum of its entries. -/
def Balanced (db : CreditDb fold) : Prop :=
  ∀ nodeId balance, db.nodeBalance nodeId = some balance →
    (db.accountBalance nodeId).getD 0 = balance ∧ db.entrySum nodeId = balance ∧ Whole balance

theorem Balanced.conserves {db : CreditDb fold} (h : db.Balanced) : db.Conserves := by
  intro nodeId balance ledger hnode haccount
  obtain ⟨hledger, hsum, _⟩ := h nodeId balance hnode
  rw [haccount] at hledger
  exact ⟨hledger.symm, hledger.trans hsum.symm⟩

theorem Balanced.reconciles {db : CreditDb fold} (h : db.Balanced) {nodeId : String} {balance : ℚ}
    (hnode : db.nodeBalance nodeId = some balance) : db.reconciles nodeId = some true := by
  obtain ⟨_, hsum, _⟩ := h nodeId balance hnode
  unfold CreditDb.reconciles
  rw [hnode, Option.map_some, ← entrySum_eq, hsum, sub_self, abs_zero]
  exact congrArg some (decide_eq_true (by norm_num))

theorem balanced_empty : (CreditDb.empty fold).Balanced :=
  fun _ _ h => absurd h (Option.some_ne_none _).symm

/-- **A settlement that moves all three by one amount** keeps the balance. -/
theorem balanced_of_settles {db db' : CreditDb fold} {e : CreditEntry} {old new ledger : ℚ}
    (h : db.Balanced) (hsettles : Settles db db' e new ledger)
    (hold : db.nodeBalance e.nodeId = some old) (hnew : new = old + e.signed)
    (hledger : ledger = new) (hwhole : Whole new) : db'.Balanced := by
  intro nodeId balance hnode
  rw [hsettles.node] at hnode
  rw [hsettles.account, entrySum_of_rows hsettles.rows]
  by_cases hid : fold nodeId = fold e.nodeId
  · rw [if_pos hid] at hnode ⊢
    obtain rfl := Option.some.inj hnode
    obtain ⟨_, hsum, _⟩ := h nodeId old ((nodeBalance_congr db hid).trans hold)
    rw [if_pos hid, hsum]
    exact ⟨hledger, hnew.symm, hwhole⟩
  · rw [if_neg hid] at hnode ⊢
    rw [if_neg hid]
    exact h nodeId balance hnode

/-! ## Amounts that round as they should -/

theorem not_halfUnit_of_whole {q : ℚ} (h : Whole q) : ¬ HalfUnit q := by
  obtain ⟨n, rfl⟩ := h
  rintro ⟨k, hk⟩
  have hodd : (2 * n : ℤ) = 2 * k + 1 := by
    have : (2 * n : ℚ) = 2 * k + 1 := by linarith
    exact_mod_cast this
  omega

theorem halfUnit_sub_whole {p q : ℚ} (hq : Whole q) : HalfUnit (p - q) ↔ HalfUnit p := by
  obtain ⟨n, rfl⟩ := hq
  unfold HalfUnit
  rw [show (p - (n : ℚ) / 10000) * 10000 = ((-n : ℤ) : ℚ) + p * 10000 by push_cast; ring]
  exact isTie_intCast_add

/-- **An amount that is not a tie is taken in parts that are none**: what is
taken of a node is all it has, which is whole, or what remains. -/
theorem allocate_not_halfUnit {remaining : ℚ} {cs : List Candidate}
    (hwhole : ∀ c ∈ cs, Whole c.balance) (h : ¬ HalfUnit remaining) :
    ∀ p ∈ (allocate remaining cs).1, ¬ HalfUnit p.2 := by
  induction cs generalizing remaining with
  | nil => exact fun _ hp => absurd hp List.not_mem_nil
  | cons c rest ih =>
    by_cases hless : remaining ≤ 1 / 20000
    · rw [allocate_of_le hless]
      exact fun _ hp => absurd hp List.not_mem_nil
    · have hc := hwhole c List.mem_cons_self
      rw [allocate_cons hless]
      intro p hp
      rcases List.mem_cons.mp hp with rfl | hp
      · rcases min_choice remaining c.balance with hmin | hmin <;> simp only [hmin]
        · exact h
        · exact not_halfUnit_of_whole hc
      · refine ih (fun d hd => hwhole d (List.mem_cons_of_mem c hd)) ?_ p hp
        rcases min_choice remaining c.balance with hmin | hmin <;> rw [hmin]
        · rw [sub_self]
          exact not_halfUnit_of_whole whole_zero
        · rwa [halfUnit_sub_whole hc]

/-- The same where the amount is half a unit over what the first nodes have:
they are drained, and the half unit is left. -/
theorem allocate_not_halfUnit_of_drained {cs first : List Candidate}
    (hwhole : ∀ c ∈ cs, Whole c.balance) (hpositive : ∀ c ∈ cs, 0 < c.balance)
    (hfirst : first <+: cs) :
    ∀ p ∈ (allocate ((first.map (·.balance)).sum + 1 / 20000) cs).1, ¬ HalfUnit p.2 := by
  induction first generalizing cs with
  | nil =>
    rw [List.map_nil, List.sum_nil, zero_add, allocate_of_le le_rfl]
    exact fun _ hp => absurd hp List.not_mem_nil
  | cons c first ih =>
    obtain ⟨rest, rfl⟩ := hfirst
    have hrest : ∀ d ∈ first, 0 ≤ d.balance := fun d hd =>
      (hpositive d (List.mem_cons_of_mem c (List.mem_append_left rest hd))).le
    have hsum : 0 ≤ (first.map (·.balance)).sum := by
      refine List.sum_nonneg fun b hb => ?_
      obtain ⟨d, hd, rfl⟩ := List.mem_map.mp hb
      exact hrest d hd
    have hc := hpositive c List.mem_cons_self
    rw [List.map_cons, List.sum_cons, List.cons_append, allocate_cons (by linarith),
      min_eq_right (by linarith),
      show c.balance + (first.map (·.balance)).sum + 1 / 20000 - c.balance
        = (first.map (·.balance)).sum + 1 / 20000 by ring]
    intro p hp
    rcases List.mem_cons.mp hp with rfl | hp
    · exact not_halfUnit_of_whole (hwhole c List.mem_cons_self)
    · exact ih (fun d hd => hwhole d (List.mem_cons_of_mem c hd))
        (fun d hd => hpositive d (List.mem_cons_of_mem c hd)) (List.prefix_append first rest) p hp

/-! ## Runs that keep the balance -/

/-- The amounts of a call are positive. -/
def CreditAction.Positive : CreditAction → Prop
  | .recordCreditAward _ amount _ _ => 0 < amount
  | .debitNode _ amount _ _ => 0 < amount
  | .debitOperatorWallet _ _ amount _ _ => 0 < amount
  | _ => True

/-- **The step is exact**: what registers finds no credit that an earlier
registration has left; and half a unit is not taken of a node that has more,
neither by itself nor as one of a wallet, and not given to one that stays in
the red. -/
def Exact (db : CreditDb fold) (s : CreditStep) : Prop :=
  match s.action with
  | .recordCreditAward nodeId amount _ _ =>
    HalfUnit amount → 0 ≤ (db.accountBalance nodeId).getD 0 + amount
  | .debitNode consumerNodeId amount _ _ =>
    HalfUnit amount → ∀ balance, db.nodeBalance consumerNodeId = some balance → balance < amount
  | .debitOperatorWallet _ operatorPubkey amount _ _ =>
    HalfUnit amount →
      ((db.candidates s.now operatorPubkey).map (·.balance)).sum + 1 / 10000 < amount
        ∨ ∃ first, first <+: db.candidates s.now operatorPubkey
          ∧ amount = (first.map (·.balance)).sum + 1 / 20000
  | .register nodeId _ =>
    db.nodeBalance nodeId = none → (db.accountBalance nodeId).getD 0 = 0
  | _ => True

theorem balanced_award {db : CreditDb fold} (h : db.Balanced) {server : Server} {now : ℤ}
    {nodeId taskId nonce : String} {amount : ℚ} (hpositive : 0 < amount)
    (hexact : HalfUnit amount → 0 ≤ (db.accountBalance nodeId).getD 0 + amount) :
    (recordCreditAwardOnce round4 server now db nodeId amount taskId nonce).2.Balanced := by
  rcases recordCreditAwardOnce_cases round4 server now db nodeId amount taskId nonce with
    hsame | ⟨balance, hnode, hsettles⟩
  · rw [hsame]
    exact h
  · obtain ⟨hledger, _, hwhole⟩ := h nodeId balance hnode
    have hsum : (db.accountBalance nodeId).getD balance = balance := by
      cases haccount : db.accountBalance nodeId with
      | none => rfl
      | some ledger =>
        rw [haccount] at hledger
        exact hledger
    rw [hsum, round4_of_whole (whole_round4 _)] at hsettles
    rw [hledger] at hexact
    exact balanced_of_settles h hsettles hnode (round4_whole_add hwhole hpositive.le hexact) rfl
      (whole_round4 _)

theorem balanced_debitNode {db : CreditDb fold} (h : db.Balanced) {server : Server}
    {consumerNodeId taskId reason : String} {amount : ℚ} (hpositive : 0 < amount)
    (hexact : HalfUnit amount →
      ∀ balance, db.nodeBalance consumerNodeId = some balance → balance < amount) :
    (debitNodeOnce round4 server db consumerNodeId amount taskId reason).2.Balanced := by
  rcases debitNodeOnce_cases round4 server db consumerNodeId amount taskId reason with
    hsame | ⟨balance, ledger, hnode, haccount, _, hsettles⟩
  · rw [hsame]
    exact h
  · obtain ⟨hledger, _, hwhole⟩ := h consumerNodeId balance hnode
    rw [haccount] at hledger
    obtain rfl : ledger = balance := hledger
    refine balanced_of_settles h hsettles hnode ?_ rfl (whole_round4 _)
    rw [round4_whole_sub hwhole hpositive.le fun htie => hexact htie ledger hnode]
    exact sub_eq_add_neg _ _

theorem balanced_expire {db : CreditDb fold} (h : db.Balanced) (server : Server) (nodeId : String)
    (expectedBalance : ℚ) :
    (expireIdleCreditOnce round4 server db nodeId expectedBalance).2.Balanced := by
  rcases expireIdleCreditOnce_cases round4 server db nodeId expectedBalance with
    hsame | ⟨hnode, hsettles⟩
  · rw [hsame]
    exact h
  · obtain ⟨_, _, hwhole⟩ := h nodeId expectedBalance hnode
    refine balanced_of_settles h hsettles hnode ?_ rfl whole_zero
    show 0 = expectedBalance + -round4 expectedBalance
    rw [round4_of_whole hwhole, add_neg_cancel]

theorem balanced_allocateFree {db : CreditDb fold} (h : db.Balanced) (server : Server) (now : ℤ)
    (nodeId ip : String) :
    (maybeAllocateFreeCredits round4 server now db nodeId ip).2.Balanced := by
  rcases maybeAllocateFreeCredits_cases round4 server now db nodeId ip with
    hsame | ⟨_, hsettles⟩
  · rw [hsame]
    exact h
  · obtain ⟨balance, hnode⟩ := Option.isSome_iff_exists.mp hsettles.registered
    obtain ⟨hledger, _, hwhole⟩ := h nodeId balance hnode
    rw [hledger] at hsettles
    have hhundred : Whole 100 := ⟨1000000, by norm_num⟩
    refine balanced_of_settles h hsettles hnode ?_ rfl (whole_round4 _)
    rw [round4_of_whole (hwhole.add hhundred)]
    exact congrArg (balance + ·) (round4_of_whole hhundred).symm

theorem balanced_debitWallet {db : CreditDb fold} (h : db.Balanced) {server : Server} {now : ℤ}
    {consumerNodeId operatorPubkey taskId reason : String} {amount : ℚ}
    (hexact : HalfUnit amount →
      ((db.candidates now operatorPubkey).map (·.balance)).sum + 1 / 10000 < amount
        ∨ ∃ first, first <+: db.candidates now operatorPubkey
          ∧ amount = (first.map (·.balance)).sum + 1 / 20000) :
    (debitOperatorWalletOnce round4 server now db consumerNodeId operatorPubkey amount taskId
      reason).2.Balanced := by
  have hcandidates : ∀ c ∈ db.candidates now operatorPubkey, Whole c.balance ∧ 0 < c.balance := by
    intro c hc
    obtain ⟨n, hnode, heligible, rfl⟩ := mem_candidates_iff.mp hc
    exact ⟨(h n.id n.creditBalance (congrArg (Option.map _) hnode)).2.2, heligible.2.2.1⟩
  refine debitOperatorWalletOnce_invariant server now consumerNodeId operatorPubkey reason
    (fun hcovers mid mid' p ledger reason' hp hmid hnode haccount hsettles => ?_) h
  have htie : ¬ HalfUnit p.2 := by
    by_cases hamount : HalfUnit amount
    · rcases hexact hamount with hless | ⟨first, hfirst, rfl⟩
      · exact absurd hcovers (not_le.mpr hless)
      · exact allocate_not_halfUnit_of_drained (fun c hc => (hcandidates c hc).1)
          (fun c hc => (hcandidates c hc).2) hfirst p hp
    · exact allocate_not_halfUnit (fun c hc => (hcandidates c hc).1) hamount p hp
  have htake := (allocate_within (fun c hc => (hcandidates c hc).2) p hp).1
  obtain ⟨hledger, _, hwhole⟩ := hmid p.1.nodeId p.1.balance hnode
  rw [haccount] at hledger
  obtain rfl : ledger = p.1.balance := hledger
  refine balanced_of_settles hmid hsettles hnode ?_ rfl (whole_round4 _)
  rw [round4_whole_sub hwhole htake.le fun h => absurd h htie]
  exact sub_eq_add_neg _ _

theorem balanced_register {db : CreditDb fold} (h : db.Balanced) {nodeId : String}
    (operatorPubkey : Option String)
    (hexact : db.nodeBalance nodeId = none → (db.accountBalance nodeId).getD 0 = 0) :
    (db.registerNode nodeId operatorPubkey).Balanced := by
  intro other balance hnode
  rw [nodeBalance_registerNode] at hnode
  show (db.accountBalance other).getD 0 = balance ∧ db.entrySum other = balance ∧ _
  split at hnode
  · next hid =>
    rw [accountBalance_congr db hid, entrySum_congr db hid]
    cases hold : db.nodeBalance nodeId with
    | none =>
      rw [hold] at hnode
      obtain rfl := Option.some.inj hnode
      exact ⟨hexact hold, entrySum_of_unregistered hold, whole_zero⟩
    | some old =>
      rw [hold] at hnode
      obtain rfl := Option.some.inj hnode
      exact h nodeId old hold
  · exact h other balance hnode

theorem balanced_deregister {db : CreditDb fold} (h : db.Balanced) (nodeId : String) :
    (db.deregister nodeId).Balanced := by
  intro other balance hnode
  rw [nodeBalance_deregister] at hnode
  split at hnode
  · exact absurd hnode (by simp)
  · next hne =>
    rw [entrySum_deregister db hne]
    exact h other balance hnode

/-- **An exact step keeps the balance.** -/
theorem balanced_step {db : CreditDb fold} (h : db.Balanced) {s : CreditStep}
    (hpositive : s.action.Positive) (hexact : db.Exact s) : (step round4 db s).Balanced := by
  obtain ⟨server, now, action⟩ := s
  cases action with
  | recordCreditAward nodeId amount taskId nonce => exact balanced_award h hpositive hexact
  | debitNode consumerNodeId amount taskId reason => exact balanced_debitNode h hpositive hexact
  | debitOperatorWallet consumerNodeId operatorPubkey amount taskId reason =>
    exact balanced_debitWallet h hexact
  | expireIdleCredit nodeId expectedBalance => exact balanced_expire h server nodeId expectedBalance
  | maybeAllocateFreeCredits nodeId ip => exact balanced_allocateFree h server now nodeId ip
  | register nodeId operatorPubkey =>
    show (if _ then _ else _ : CreditDb fold).Balanced
    split
    · exact balanced_register h operatorPubkey hexact
    · exact h
  | deregister nodeId =>
    show (if _ then _ else _ : CreditDb fold).Balanced
    split
    · exact balanced_deregister h nodeId
    · exact h

/-- **Credit is conserved**: along a run of exact steps every registered node
has its three accounts agree and its summary reconcile. -/
theorem conserves_of_exact (steps : List CreditStep) (hpositive : ∀ s ∈ steps, s.action.Positive)
    (hexact : Run.Along (step round4) Exact (CreditDb.empty fold) steps) :
    ∀ first rest, steps = first ++ rest →
      let db := Run.after (step round4) (CreditDb.empty fold) first
      db.Conserves ∧ ∀ nodeId, (db.node nodeId).isSome → db.reconciles nodeId = some true := by
  rintro first rest rfl
  have hfirst := ((Run.along_append (step round4) Exact _ first rest).mp hexact).1
  have hstep : ∀ (db : CreditDb fold) s, db.Balanced → s.action.Positive ∧ db.Exact s →
      (step round4 db s).Balanced := fun _ _ h hok => balanced_step h hok.1 hok.2
  have hbalanced : (Run.after (step round4) (CreditDb.empty fold) first).Balanced :=
    Run.invariant_along hstep balanced_empty (Run.along_and (step round4)
      (fun s hs => hpositive s (List.mem_append_left rest hs)) hfirst)
  refine ⟨hbalanced.conserves, fun nodeId hnode => ?_⟩
  obtain ⟨n, hn⟩ := Option.isSome_iff_exists.mp hnode
  exact hbalanced.reconciles (congrArg (Option.map _) hn)

/-- A node registers, is given its free credit and spends half of it. -/
def spending : List CreditStep :=
  [⟨.willing, 0, .register "node" none⟩,
    ⟨.willing, 0, .maybeAllocateFreeCredits "node" "192.0.2.1"⟩,
    ⟨.willing, 0, .debitNode "node" 50 "task" "spend"⟩]

theorem conserves_spending :
    ((∀ s ∈ spending, s.action.Positive)
      ∧ Run.Along (step round4) Exact (CreditDb.empty id) spending)
      ∧ ∀ first rest, spending = first ++ rest →
        let db := Run.after (step round4) (CreditDb.empty id) first
        db.Conserves ∧ ∀ nodeId, (db.node nodeId).isSome → db.reconciles nodeId = some true := by
  have hpositive : ∀ s ∈ spending, s.action.Positive := by
    unfold spending
    simp [CreditAction.Positive]
  have hfifty : ¬ HalfUnit 50 := not_halfUnit_of_whole ⟨500000, by norm_num⟩
  have hexact : Run.Along (step round4) Exact (CreditDb.empty id) spending :=
    ⟨fun _ => rfl, trivial, fun htie => absurd htie hfifty, trivial⟩
  exact ⟨⟨hpositive, hexact⟩, conserves_of_exact spending hpositive hexact⟩

/-- A node registers, is given its free credit, is removed, and registers
again. -/
def returning : List CreditStep :=
  [⟨.willing, 0, .register "node" none⟩,
    ⟨.willing, 0, .maybeAllocateFreeCredits "node" "192.0.2.1"⟩,
    ⟨.willing, 1, .deregister "node"⟩,
    ⟨.willing, 2, .register "node" none⟩]

/-- **A node that returns finds credit it does not have.** -/
theorem not_conserves_returning :
    (Run.after (step round4) (CreditDb.empty id) returning).nodeBalance "node" = some 0
      ∧ (Run.after (step round4) (CreditDb.empty id) returning).accountBalance "node" = some 100
      ∧ ¬ (Run.after (step round4) (CreditDb.empty id) returning).Conserves := by
  have hnode : (Run.after (step round4) (CreditDb.empty id) returning).nodeBalance "node"
      = some 0 := by decide +kernel
  have haccount : (Run.after (step round4) (CreditDb.empty id) returning).accountBalance "node"
      = some 100 := by decide +kernel
  exact ⟨hnode, haccount, fun h => absurd (h "node" 0 100 hnode haccount).1 (by norm_num)⟩

end CreditDb
