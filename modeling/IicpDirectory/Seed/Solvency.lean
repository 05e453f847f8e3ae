import IicpDirectory.Seed.Conservation

/-!
# Balances in the black

What a debit is checked against and what it takes are not the same: the check
of a node grants a whole unit over the balance, and half a unit over it is
enough for the rest to be rounded below zero. A wallet takes of no node more
than it has. So the balances stay out of the red as long as no node is
debited an amount half a unit to a unit over its balance
(`solvent_of_covered`), and a single such debit puts it there
(`overdrawn_of_gap`).

What carries the argument over the runs is that a node never has more than
`credits` has for it: the two are taken of by the same amounts and set to the
same values, and a node that registers has nothing.
-/

namespace CreditDb

variable {fold : String → String}

/-- **No balance is negative.** -/
def InTheBlack (db : CreditDb fold) : Prop :=
  (∀ nodeId balance, db.nodeBalance nodeId = some balance → 0 ≤ balance)
    ∧ ∀ nodeId ledger, db.accountBalance nodeId = some ledger → 0 ≤ ledger

/-- **A node has something, and `credits` no less.** -/
structure Solvent (db : CreditDb fold) : Prop where
  node : ∀ nodeId balance, db.nodeBalance nodeId = some balance → 0 ≤ balance
  account : ∀ nodeId ledger, db.accountBalance nodeId = some ledger → 0 ≤ ledger
  le : ∀ nodeId balance ledger, db.nodeBalance nodeId = some balance →
    db.accountBalance nodeId = some ledger → balance ≤ ledger

theorem Solvent.inTheBlack {db : CreditDb fold} (h : db.Solvent) : db.InTheBlack :=
  ⟨h.node, h.account⟩

theorem solvent_empty : (CreditDb.empty fold).Solvent :=
  ⟨fun _ _ h => absurd h (Option.some_ne_none _).symm,
    fun _ _ h => absurd h (Option.some_ne_none _).symm,
    fun _ _ _ h => absurd h (Option.some_ne_none _).symm⟩

/-- A settlement that leaves its node something, and `credits` no less. -/
theorem solvent_of_settles {db db' : CreditDb fold} {e : CreditEntry} {balance ledger : ℚ}
    (h : db.Solvent) (hsettles : Settles db db' e balance ledger) (hbalance : 0 ≤ balance)
    (hle : balance ≤ ledger) : db'.Solvent := by
  refine ⟨fun nodeId b hnode => ?_, fun nodeId l haccount => ?_,
    fun nodeId b l hnode haccount => ?_⟩
  · rw [hsettles.node] at hnode
    split at hnode
    · exact Option.some.inj hnode ▸ hbalance
    · exact h.node nodeId b hnode
  · rw [hsettles.account] at haccount
    split at haccount
    · exact Option.some.inj haccount ▸ hbalance.trans hle
    · exact h.account nodeId l haccount
  · rw [hsettles.node] at hnode
    rw [hsettles.account] at haccount
    split at hnode
    · next hid =>
      rw [if_pos hid] at haccount
      exact Option.some.inj hnode ▸ Option.some.inj haccount ▸ hle
    · next hid =>
      rw [if_neg hid] at haccount
      exact h.le nodeId b l hnode haccount

/-! ## Amounts -/

/-- The amount `credits_award` awards, and debits the consumer: what is asked
for, up to the ceiling of the tokens used. -/
def awardedAmount (requested : ℚ) (tokensUsed : ℕ) : ℚ :=
  max (min requested ((tokensUsed : ℚ) / 1000 * (11 / 10))) 0

/-- An amount the handler admits: a request of less than a unit is rejected. -/
def AdmittedAmount (amount : ℚ) : Prop :=
  ∃ requested tokensUsed, 1 / 10000 ≤ requested ∧ amount = awardedAmount requested tokensUsed

theorem AdmittedAmount.nonneg {amount : ℚ} (h : AdmittedAmount amount) : 0 ≤ amount := by
  obtain ⟨requested, tokensUsed, _, rfl⟩ := h
  exact le_max_right _ _

/-- The amounts of a call are admitted. -/
def CreditAction.Admitted : CreditAction → Prop
  | .recordCreditAward _ amount _ _ => AdmittedAmount amount
  | .debitNode _ amount _ _ => AdmittedAmount amount
  | .debitOperatorWallet _ _ amount _ _ => AdmittedAmount amount
  | _ => True

/-- **The debit of a node is covered**, or refused: its amount is less than
half a unit over the balance, or more than a unit. -/
def Covered (db : CreditDb fold) (s : CreditStep) : Prop :=
  match s.action with
  | .debitNode consumerNodeId amount _ _ => ∀ balance,
    db.nodeBalance consumerNodeId = some balance →
      amount < balance + 1 / 20000 ∨ balance + 1 / 10000 < amount
  | _ => True

/-! ## Runs that stay in the black -/

theorem solvent_award {db : CreditDb fold} (h : db.Solvent) {server : Server} {now : ℤ}
    {nodeId taskId nonce : String} {amount : ℚ} (hamount : 0 ≤ amount) :
    (recordCreditAwardOnce round4 server now db nodeId amount taskId nonce).2.Solvent := by
  rcases recordCreditAwardOnce_cases round4 server now db nodeId amount taskId nonce with
    hsame | ⟨balance, hnode, hsettles⟩
  · rw [hsame]
    exact h
  · rw [round4_of_whole (whole_round4 _)] at hsettles
    refine solvent_of_settles h hsettles (round4_nonneg_iff.mpr ?_) le_rfl
    have hledger : 0 ≤ (db.accountBalance nodeId).getD balance := by
      cases haccount : db.accountBalance nodeId with
      | none => exact h.node nodeId balance hnode
      | some ledger => exact h.account nodeId ledger haccount
    linarith

theorem solvent_debitNode {db : CreditDb fold} (h : db.Solvent) {server : Server}
    {consumerNodeId taskId reason : String} {amount : ℚ}
    (hcovered : ∀ balance, db.nodeBalance consumerNodeId = some balance →
      amount < balance + 1 / 20000 ∨ balance + 1 / 10000 < amount) :
    (debitNodeOnce round4 server db consumerNodeId amount taskId reason).2.Solvent := by
  rcases debitNodeOnce_cases round4 server db consumerNodeId amount taskId reason with
    hsame | ⟨balance, ledger, hnode, haccount, hcovers, hsettles⟩
  · rw [hsame]
    exact h
  · have hle := h.le consumerNodeId balance ledger hnode haccount
    refine solvent_of_settles h hsettles (round4_nonneg_iff.mpr ?_) (round4_mono (by linarith))
    rcases hcovered balance hnode with hless | hmore
    · linarith
    · exact absurd hcovers.1 (not_le.mpr hmore)

theorem solvent_debitWallet {db : CreditDb fold} (h : db.Solvent) {server : Server} {now : ℤ}
    {consumerNodeId operatorPubkey taskId reason : String} {amount : ℚ} :
    (debitOperatorWalletOnce round4 server now db consumerNodeId operatorPubkey amount taskId
      reason).2.Solvent := by
  have hpositive : ∀ c ∈ db.candidates now operatorPubkey, 0 < c.balance := by
    intro c hc
    obtain ⟨n, _, heligible, rfl⟩ := mem_candidates_iff.mp hc
    exact heligible.2.2.1
  refine debitOperatorWalletOnce_invariant server now consumerNodeId operatorPubkey reason
    (fun _ mid mid' p ledger reason' hp hmid hnode haccount hsettles => ?_) h
  have htake := (allocate_within hpositive p hp).2
  have hle := hmid.le p.1.nodeId p.1.balance ledger hnode haccount
  exact solvent_of_settles hmid hsettles (round4_nonneg_iff.mpr (by linarith))
    (round4_mono (by linarith))

theorem solvent_expire {db : CreditDb fold} (h : db.Solvent) (server : Server) (nodeId : String)
    (expectedBalance : ℚ) :
    (expireIdleCreditOnce round4 server db nodeId expectedBalance).2.Solvent := by
  rcases expireIdleCreditOnce_cases round4 server db nodeId expectedBalance with
    hsame | ⟨_, hsettles⟩
  · rw [hsame]
    exact h
  · exact solvent_of_settles h hsettles le_rfl le_rfl

theorem solvent_allocateFree {db : CreditDb fold} (h : db.Solvent) (server : Server) (now : ℤ)
    (nodeId ip : String) :
    (maybeAllocateFreeCredits round4 server now db nodeId ip).2.Solvent := by
  rcases maybeAllocateFreeCredits_cases round4 server now db nodeId ip with
    hsame | ⟨_, hsettles⟩
  · rw [hsame]
    exact h
  · refine solvent_of_settles h hsettles (round4_nonneg_iff.mpr ?_) le_rfl
    have hledger : 0 ≤ (db.accountBalance nodeId).getD 0 := by
      cases haccount : db.accountBalance nodeId with
      | none => exact le_rfl
      | some ledger => exact h.account nodeId ledger haccount
    linarith

theorem solvent_register {db : CreditDb fold} (h : db.Solvent) (nodeId : String)
    (operatorPubkey : Option String) : (db.registerNode nodeId operatorPubkey).Solvent := by
  have hbalance : ∀ other balance,
      (db.registerNode nodeId operatorPubkey).nodeBalance other = some balance →
      0 ≤ balance ∧ ∀ ledger, db.accountBalance other = some ledger → balance ≤ ledger := by
    intro other balance hnode
    rw [nodeBalance_registerNode] at hnode
    split at hnode
    · next hid =>
      rw [← nodeBalance_congr db hid] at hnode
      cases hold : db.nodeBalance other with
      | none =>
        rw [hold] at hnode
        obtain rfl := Option.some.inj hnode
        exact ⟨le_rfl, fun ledger => h.account other ledger⟩
      | some old =>
        rw [hold] at hnode
        obtain rfl := Option.some.inj hnode
        exact ⟨h.node other old hold, fun ledger => h.le other old ledger hold⟩
    · exact ⟨h.node other balance hnode, fun ledger => h.le other balance ledger hnode⟩
  exact ⟨fun other balance hnode => (hbalance other balance hnode).1, h.account,
    fun other balance ledger hnode => (hbalance other balance hnode).2 ledger⟩

theorem solvent_deregister {db : CreditDb fold} (h : db.Solvent) (nodeId : String) :
    (db.deregister nodeId).Solvent := by
  have hbalance : ∀ other balance, (db.deregister nodeId).nodeBalance other = some balance →
      db.nodeBalance other = some balance := by
    intro other balance hnode
    rw [nodeBalance_deregister] at hnode
    split at hnode
    · exact absurd hnode (by simp)
    · exact hnode
  exact ⟨fun other balance hnode => h.node other balance (hbalance other balance hnode), h.account,
    fun other balance ledger hnode => h.le other balance ledger (hbalance other balance hnode)⟩

/-- **A covered step leaves nobody in the red.** -/
theorem solvent_step {db : CreditDb fold} (h : db.Solvent) {s : CreditStep}
    (hadmitted : s.action.Admitted) (hcovered : db.Covered s) : (step round4 db s).Solvent := by
  obtain ⟨server, now, action⟩ := s
  cases action with
  | recordCreditAward nodeId amount taskId nonce => exact solvent_award h hadmitted.nonneg
  | debitNode consumerNodeId amount taskId reason => exact solvent_debitNode h hcovered
  | debitOperatorWallet consumerNodeId operatorPubkey amount taskId reason =>
    exact solvent_debitWallet h
  | expireIdleCredit nodeId expectedBalance => exact solvent_expire h server nodeId expectedBalance
  | maybeAllocateFreeCredits nodeId ip => exact solvent_allocateFree h server now nodeId ip
  | register nodeId operatorPubkey =>
    show (if _ then _ else _ : CreditDb fold).Solvent
    split
    · exact solvent_register h nodeId operatorPubkey
    · exact h
  | deregister nodeId =>
    show (if _ then _ else _ : CreditDb fold).Solvent
    split
    · exact solvent_deregister h nodeId
    · exact h

/-- **The balances stay in the black** along a run whose debits of nodes are
covered or refused. -/
theorem solvent_of_covered (steps : List CreditStep) (hadmitted : ∀ s ∈ steps, s.action.Admitted)
    (hcovered : Run.Along (step round4) Covered (CreditDb.empty fold) steps) :
    ∀ first rest, steps = first ++ rest →
      (Run.after (step round4) (CreditDb.empty fold) first).InTheBlack := by
  rintro first rest rfl
  have hfirst := ((Run.along_append (step round4) Covered _ first rest).mp hcovered).1
  have hstep : ∀ (db : CreditDb fold) s, db.Solvent → s.action.Admitted ∧ db.Covered s →
      (step round4 db s).Solvent := fun _ _ h hok => solvent_step h hok.1 hok.2
  have hsolvent : (Run.after (step round4) (CreditDb.empty fold) first).Solvent :=
    Run.invariant_along hstep solvent_empty (Run.along_and (step round4)
      (fun s hs => hadmitted s (List.mem_append_left rest hs)) hfirst)
  exact hsolvent.inTheBlack

theorem admittedAmount_fifty : AdmittedAmount 50 :=
  ⟨50, 100000, by norm_num, by norm_num [awardedAmount]⟩

theorem solvent_spending :
    ((∀ s ∈ spending, s.action.Admitted)
      ∧ Run.Along (step round4) Covered (CreditDb.empty id) spending)
      ∧ ∀ first rest, spending = first ++ rest →
        (Run.after (step round4) (CreditDb.empty id) first).InTheBlack := by
  have hadmitted : ∀ s ∈ spending, s.action.Admitted := by
    unfold spending
    simp [CreditAction.Admitted, admittedAmount_fifty]
  have hhundred : (Run.after (step round4) (CreditDb.empty id) (spending.take 2)).nodeBalance "node"
      = some 100 := by decide +kernel
  have hcovered : Run.Along (step round4) Covered (CreditDb.empty id) spending := by
    refine ⟨trivial, trivial, fun balance hnode => Or.inl ?_, trivial⟩
    obtain rfl := Option.some.inj (hhundred.symm.trans hnode)
    norm_num
  exact ⟨⟨hadmitted, hcovered⟩, solvent_of_covered spending hadmitted hcovered⟩

/-- **In between the debit overdraws**: one that succeeds with half a unit or
more over the balance leaves the node in the red. -/
theorem overdrawn_of_gap {db : CreditDb fold} {server : Server}
    {consumerNodeId taskId reason : String} {amount balance : ℚ} {result : WalletDebitResult}
    (h : (debitNodeOnce round4 server db consumerNodeId amount taskId reason).1 = .ok result)
    (hnode : db.nodeBalance consumerNodeId = some balance) (hgap : balance + 1 / 20000 ≤ amount) :
    ¬ (debitNodeOnce round4 server db consumerNodeId amount taskId reason).2.InTheBlack := by
  obtain ⟨old, ledger, hold, _, _, hsettles⟩ := settles_of_debitNodeOnce h
  obtain rfl := Option.some.inj (hnode.symm.trans hold)
  intro hblack
  have hafter := (hsettles.node consumerNodeId).trans (if_pos rfl)
  have hnonneg := round4_nonneg_iff.mp (hblack.1 consumerNodeId _ hafter)
  linarith

/-- A node is debited a unit more than it has. -/
def overspending : List CreditStep :=
  [⟨.willing, 0, .register "node" none⟩,
    ⟨.willing, 0, .maybeAllocateFreeCredits "node" "192.0.2.1"⟩,
    ⟨.willing, 0, .debitNode "node" (1000001 / 10000) "task" "spend"⟩]

/-- **The check of a debit grants a unit that the node does not have.** -/
theorem not_inTheBlack_overspending :
    (∀ s ∈ overspending, s.action.Admitted)
      ∧ (Run.after (step round4) (CreditDb.empty id) overspending).nodeBalance "node"
        = some (-1 / 10000)
      ∧ ¬ (Run.after (step round4) (CreditDb.empty id) overspending).InTheBlack := by
  have hadmitted : AdmittedAmount (1000001 / 10000) :=
    ⟨1000001 / 10000, 100000, by norm_num, by norm_num [awardedAmount]⟩
  have hnode : (Run.after (step round4) (CreditDb.empty id) overspending).nodeBalance "node"
      = some (-1 / 10000) := by decide +kernel
  refine ⟨?_, hnode, fun hblack => absurd (hblack.1 "node" _ hnode) (by norm_num)⟩
  unfold overspending
  simp [CreditAction.Admitted, hadmitted]

end CreditDb
