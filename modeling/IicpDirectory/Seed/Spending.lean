import IicpDirectory.Quotes
import IicpDirectory.Seed.Wallet

/-!
# A quote that is sufficient can be spent

The quote sums what a debit drains: the balance of a consumer without an
operator, and of one that has an operator the balances of the nodes that are
in use and have credit to spend. Each copy of the condition is the same, and
the debit asks for more only where the ledger of a node disagrees with its
balance. So where the ledgers agree, a debit of the estimate goes through
(`debitForConsumer_of_sufficient`).
-/

namespace CreditDb

variable {fold : String → String}

/-- An attempt at a transaction, and whether its failure is one that may
pass. -/
structure Attempt where
  server : Server
  transient : Bool

/-- `failed_debit`. -/
def failedDebit (scope reason : String) : WalletDebitResult := ⟨false, 0, scope, some reason, 0⟩

/-- The attempts at a debit: the next one only after a failure that may
pass. -/
def debitAttempts
    (once : Server → CreditDb fold → Except DebitMutationError WalletDebitResult × CreditDb fold)
    (scope : String) : List Attempt → CreditDb fold → WalletDebitResult × CreditDb fold
  | [], db => (failedDebit scope "db_error", db)
  | attempt :: rest, db =>
    match once attempt.server db with
    | (.ok result, db') => (result, db')
    | (.error (.insufficient reason), db') => (failedDebit scope reason, db')
    | (.error .allocationIncomplete, db') => (failedDebit scope "db_error", db')
    | (.error .database, db') =>
      if attempt.transient then debitAttempts once scope rest db'
      else (failedDebit scope "db_error", db')

/-- `MySqlRepo::debit_for_consumer`: three attempts. -/
def debitForConsumer (store : ℚ → ℚ) (lookupFails : Bool) (attempts : Fin 3 → Attempt) (now : ℤ)
    (db : CreditDb fold) (consumerNodeId : String) (amount : ℚ) (taskId reason : String) :
    WalletDebitResult × CreditDb fold :=
  if lookupFails then (failedDebit "node" "db_error", db)
  else match db.operatorOf consumerNodeId with
    | some operatorPubkey =>
      debitAttempts (fun server db =>
          debitOperatorWalletOnce store server now db consumerNodeId operatorPubkey amount taskId
            reason)
        "operator_wallet" (List.ofFn attempts) db
    | none =>
      debitAttempts (fun server db =>
          debitNodeOnce store server db consumerNodeId amount taskId reason)
        "node" (List.ofFn attempts) db

/-- The ledger of a node agrees with its balance. -/
def Agrees (db : CreditDb fold) (nodeId : String) : Prop :=
  (db.accountBalance nodeId).isSome ∧ db.accountBalance nodeId = db.nodeBalance nodeId

/-- **The ledgers a consumer spends from agree**: its own, and those of the
nodes of its operator. -/
structure LedgersAgree (db : CreditDb fold) (consumerNodeId : String) : Prop where
  own : db.Agrees consumerNodeId
  wallet : ∀ operatorPubkey, db.operatorOf consumerNodeId = some operatorPubkey →
    ∀ n, db.node n.id = some n → n.operatorPubkey.map fold = some (fold operatorPubkey) →
      db.Agrees n.id

/-! ## Statements that succeed -/

/-- **An entry is inserted** for a node that is there, if it fits and its nonce
is a new one. -/
theorem insertEntry_isSome_iff {db : CreditDb fold} {e : CreditEntry} :
    (db.insertEntry e).isSome
      ↔ (db.nodes.find (fold e.nodeId)).isSome ∧ e.Fits
        ∧ ∀ r ∈ db.creditTransactions.rows, CreditEntry.clash fold r e = false := by
  have hinserts : (db.creditTransactions.insert e).isSome
      ↔ ∀ r ∈ db.creditTransactions.rows, CreditEntry.clash fold r e = false := by
    unfold Constrained.insert
    split
    · next hapart => exact iff_of_true rfl hapart
    · next hclash => exact iff_of_false (by simp) hclash
  unfold insertEntry
  split
  · next hnode =>
    rw [← hinserts]
    split
    · next t hinsert => exact iff_of_true rfl ⟨hnode.1, hnode.2, by rw [hinsert]; rfl⟩
    · next hnone =>
      refine iff_of_false (by simp) fun h => ?_
      rw [hnone] at h
      exact absurd h.2.2 (by simp)
  · next hnode => exact iff_of_false (by simp) fun h => hnode ⟨h.1, h.2.1⟩

/-- **An entry without a nonce is inserted** for a node that is there. -/
theorem insertEntry_isSome {db : CreditDb fold} {e : CreditEntry}
    (hnode : (db.nodeBalance e.nodeId).isSome) (hfits : e.Fits) (hnonce : e.nonce = none) :
    ∃ db', db.insertEntry e = some db' := by
  refine Option.isSome_iff_exists.mp (insertEntry_isSome_iff.mpr ⟨?_, hfits, fun r _ => ?_⟩)
  · unfold nodeBalance at hnode
    rw [Option.isSome_map] at hnode
    exact hnode
  · unfold CreditEntry.clash
    rw [hnonce]
    cases r.nonce <;> rfl

/-- **A joined update finds its row** where both balances are there and meet
the condition. -/
theorem updateJoined_isSome {db : CreditDb fold} {nodeId : String} {meets : ℚ → ℚ → Prop}
    [∀ n c, Decidable (meets n c)] {f : ℚ → ℚ} {balance ledger : ℚ}
    (hnode : db.nodeBalance nodeId = some balance)
    (haccount : db.accountBalance nodeId = some ledger) (hmeets : meets balance ledger) :
    ∃ db', db.updateJoined nodeId meets f = some db' := by
  obtain ⟨n, hn, rfl⟩ := Option.map_eq_some_iff.mp hnode
  obtain ⟨c, hc, rfl⟩ := Option.map_eq_some_iff.mp haccount
  unfold updateJoined
  rw [hn, hc]
  exact ⟨_, if_pos hmeets⟩

/-! ## A debit of one node -/

theorem fits_debitEntry {store : ℚ → ℚ} {nodeId taskId reason : String} {amount : ℚ}
    (htask : taskId.length ≤ 36) (hreason : reason.length ≤ 255) :
    (debitEntry store nodeId amount taskId reason).Fits := by
  refine ⟨fun t ht => ?_, fun n hn => absurd hn (by simp [debitEntry]), hreason⟩
  obtain rfl := Option.some.inj ht
  exact htask

/-- **A node that has the amount is debited it.** -/
theorem debitNodeOnce_of_covered (store : ℚ → ℚ) {db : CreditDb fold} {nodeId taskId : String}
    {amount balance : ℚ} (reason : String) (hnode : db.nodeBalance nodeId = some balance)
    (hagrees : db.Agrees nodeId) (hamount : amount ≤ balance) (htask : taskId.length ≤ 36)
    (hreason : reason.length ≤ 255) :
    ∃ db', debitNodeOnce store .willing db nodeId amount taskId reason
      = (.ok ⟨true, amount, "node", none, 1⟩, db') := by
  have haccount := hagrees.2.trans hnode
  have hcovers : Covers amount balance balance := by
    refine ⟨by linarith, by linarith, ?_⟩
    rw [sub_self, abs_zero]
    norm_num
  obtain ⟨mid, hmid⟩ := updateJoined_isSome (f := fun b => store (b - amount)) hnode haccount hcovers
  obtain ⟨_, _, _, _, _, hnodes, _, _⟩ := updateJoined_eq_some hmid
  have hstill : (mid.nodeBalance nodeId).isSome := by
    rw [hnodes nodeId, if_pos rfl]
    rfl
  obtain ⟨db', hdb'⟩ := insertEntry_isSome (e := debitEntry store nodeId amount taskId reason)
    hstill (fits_debitEntry htask hreason) rfl
  have hrun : Transaction.run .willing (debitNodeBody store nodeId amount taskId reason) db
      = (true, db') := by
    refine Transaction.run_willing ?_
    exact Option.bind_eq_some_iff.mpr ⟨mid, hmid, Option.bind_eq_some_iff.mpr ⟨db', hdb', rfl⟩⟩
  refine ⟨db', ?_⟩
  unfold debitNodeOnce
  rw [if_neg (by decide), hmid, if_neg (by simp), hrun]
  rfl

/-! ## A debit of a wallet -/

/-- A consumer's identity can be named in the entries of its wallet. -/
theorem walletReason_isSome {consumerNodeId reason : String} (hplain : Plain consumerNodeId)
    (hreason : reason.length ≤ 200) (nodeId : String) :
    ∃ r, walletReason consumerNodeId reason nodeId = some r ∧ r.length ≤ 255 := by
  unfold walletReason
  split
  · exact ⟨reason, rfl, by omega⟩
  · rw [bytePrefix_of_plain 8 hplain]
    refine ⟨_, rfl, ?_⟩
    have hshort : (consumerNodeId.toList.take 8).length ≤ 8 := List.length_take_le _ _
    have htext : ":operator_wallet:consumer=".length = 26 := by decide
    rw [String.length_append, String.length_append, htext, String.length_ofList]
    omega

/-- **What is taken of a node of a plan can be taken**, and no other node
changes. -/
theorem exists_takeBody (store : ℚ → ℚ) {db : CreditDb fold}
    {consumerNodeId taskId reason : String} {c : Candidate} (take : ℚ)
    (hnode : db.nodeBalance c.nodeId = some c.balance)
    (haccount : db.accountBalance c.nodeId = some c.balance) (hplain : Plain consumerNodeId)
    (htask : taskId.length ≤ 36) (hreason : reason.length ≤ 200) :
    ∃ db', (takeBody store consumerNodeId taskId reason c take).foldlM
        (fun s statement => statement s) db = some db'
      ∧ ∀ other, fold other ≠ fold c.nodeId →
        db'.nodeBalance other = db.nodeBalance other
          ∧ db'.accountBalance other = db.accountBalance other := by
  have hclose : |c.balance - c.balance| ≤ 1 / 10000 := by
    rw [sub_self, abs_zero]
    norm_num
  obtain ⟨mid, hmid⟩ : ∃ mid, db.updateJoined c.nodeId (fun b l => |b - l| ≤ 1 / 10000)
      (fun b => store (b - take)) = some mid := updateJoined_isSome hnode haccount hclose
  obtain ⟨_, _, _, _, _, hnodes, _, _⟩ := updateJoined_eq_some hmid
  have hstill : (mid.nodeBalance c.nodeId).isSome := by
    rw [hnodes c.nodeId, if_pos rfl]
    rfl
  obtain ⟨r, hr, hlength⟩ := walletReason_isSome hplain hreason c.nodeId
  obtain ⟨db', hdb'⟩ := insertEntry_isSome (e := debitEntry store c.nodeId take taskId r) hstill
    (fits_debitEntry htask hlength) rfl
  have hall : (takeBody store consumerNodeId taskId reason c take).foldlM
      (fun s statement => statement s) db = some db' := by
    refine Option.bind_eq_some_iff.mpr ⟨db, ?_, Option.bind_eq_some_iff.mpr ⟨mid, hmid,
      Option.bind_eq_some_iff.mpr ⟨db', Option.bind_eq_some_iff.mpr ⟨r, hr, hdb'⟩, rfl⟩⟩⟩
    dsimp only
    rw [haccount]
    exact if_neg (not_lt.mpr hclose)
  refine ⟨db', hall, fun other hother => ?_⟩
  obtain ⟨_, _, _, _, _, _, hsettles⟩ := settles_takeBody hall
  exact ⟨(hsettles.node other).trans (if_neg hother),
    (hsettles.account other).trans (if_neg hother)⟩

/-- **A plan of nodes whose ledgers agree is carried out.** The induction is
on the plan; no node is in it twice, so what is taken of one leaves the
others as the plan has them. -/
theorem exists_plan (store : ℚ → ℚ) {consumerNodeId taskId reason : String}
    {plan : List (Candidate × ℚ)} {db : CreditDb fold}
    (hids : (plan.map fun p => fold p.1.nodeId).Nodup)
    (hplan : ∀ p ∈ plan, db.nodeBalance p.1.nodeId = some p.1.balance
      ∧ db.accountBalance p.1.nodeId = some p.1.balance)
    (hplain : Plain consumerNodeId) (htask : taskId.length ≤ 36) (hreason : reason.length ≤ 200) :
    ∃ db', (plan.flatMap fun p => takeBody store consumerNodeId taskId reason p.1 p.2).foldlM
      (fun s statement => statement s) db = some db' := by
  induction plan generalizing db with
  | nil => exact ⟨db, rfl⟩
  | cons p rest ih =>
    obtain ⟨hnew, hids⟩ := List.nodup_cons.mp hids
    obtain ⟨hnode, haccount⟩ := hplan p List.mem_cons_self
    obtain ⟨mid, hmid, hframe⟩ := exists_takeBody store p.2 hnode haccount hplain htask
      hreason
    obtain ⟨db', hdb'⟩ := ih hids fun q hq => by
      have hother : fold q.1.nodeId ≠ fold p.1.nodeId := fun heq =>
        hnew (List.mem_map.mpr ⟨q, hq, heq⟩)
      obtain ⟨hn, ha⟩ := hplan q (List.mem_cons_of_mem p hq)
      exact ⟨(hframe _ hother).1.trans hn, (hframe _ hother).2.trans ha⟩
    refine ⟨db', ?_⟩
    rw [List.flatMap_cons, List.foldlM_append, hmid]
    exact hdb'

/-- The balances the quote sums are those of the candidates. -/
theorem sum_candidates (db : CreditDb fold) (now : ℤ) (operatorPubkey : String) :
    ((db.candidates now operatorPubkey).map (·.balance)).sum
      = db.walletBalance now operatorPubkey := by
  unfold candidates walletBalance
  rw [((List.mergeSort_perm _ _).map _).sum_eq, List.map_map]
  rfl

/-- **A wallet that has the amount is debited it.** -/
theorem debitOperatorWalletOnce_of_covered (store : ℚ → ℚ) {db : CreditDb fold} {now : ℤ}
    {consumerNodeId operatorPubkey taskId : String} {amount : ℚ} (reason : String)
    (hagrees : ∀ n, db.node n.id = some n →
      n.operatorPubkey.map fold = some (fold operatorPubkey) → db.Agrees n.id)
    (hamount : amount ≤ db.walletBalance now operatorPubkey) (hplain : Plain consumerNodeId)
    (htask : taskId.length ≤ 36) (hreason : reason.length ≤ 200) :
    ∃ count db', debitOperatorWalletOnce store .willing now db consumerNodeId operatorPubkey amount
      taskId reason = (.ok ⟨true, amount, "operator_wallet", none, count⟩, db') := by
  have hcovers : amount ≤ ((db.candidates now operatorPubkey).map (·.balance)).sum + 1 / 10000 := by
    rw [sum_candidates]
    linarith
  have hstarts := fst_allocate_of_append amount (db.candidates now operatorPubkey)
  have hids : ((allocate amount (db.candidates now operatorPubkey)).1.map
      fun p => fold p.1.nodeId).Nodup := by
    have hmap := (hstarts.sublist.map fun c => fold c.nodeId)
    rw [List.map_map] at hmap
    exact (candidates_nodup db now operatorPubkey).sublist hmap
  have hplan : ∀ p ∈ (allocate amount (db.candidates now operatorPubkey)).1,
      db.nodeBalance p.1.nodeId = some p.1.balance
        ∧ db.accountBalance p.1.nodeId = some p.1.balance := by
    intro p hp
    obtain ⟨n, hn, heligible, hcandidate⟩ :=
      mem_candidates_iff.mp (hstarts.subset (List.mem_map_of_mem hp))
    have hnode : db.nodeBalance n.id = some n.creditBalance := by
      unfold nodeBalance
      rw [hn, Option.map_some]
    rw [hcandidate]
    exact ⟨hnode, (hagrees n hn heligible.1).2.trans hnode⟩
  obtain ⟨db', hdb'⟩ := exists_plan store hids hplan hplain htask hreason
  have hall : (walletBody store consumerNodeId taskId reason
      (allocate amount (db.candidates now operatorPubkey)).1).foldlM
        (fun s statement => statement s) db = some db' := hdb'
  refine ⟨(allocate amount (db.candidates now operatorPubkey)).1.length, db', ?_⟩
  unfold debitOperatorWalletOnce
  rw [if_neg (by decide)]
  dsimp only
  rw [if_neg (not_lt.mpr hcovers), decide_eq_false (not_lt.mpr (allocate_rest_le hcovers)),
    Bool.and_false, if_neg Bool.false_ne_true, Transaction.run_willing hall]
  rfl

/-! ## What is quoted can be spent -/

/-- **The quote of a consumer**, of what the tables have for it. The other
answers of the repository may be any. -/
structure QuotedFrom (fails : ℕ → Bool) (now : ℤ) (db : CreditDb fold) (repo : QuoteRepo) :
    Prop where
  effective : ∀ nodeId, repo.effectiveCreditBalance nodeId
    = db.effectiveCreditBalance fails now nodeId
  /-- The lookup of the operator is answered. -/
  lookedUp : fails 1 = false

/-- **What a consumer is said to have**: its balance, or what its wallet has,
or nothing. -/
theorem effectiveCreditBalance_cases {fails : ℕ → Bool} {now : ℤ} {db : CreditDb fold}
    (hlookup : fails 1 = false) {nodeId : String} {effective : EffectiveCreditBalance}
    (h : db.effectiveCreditBalance fails now nodeId = some effective) :
    (db.operatorOf nodeId = none ∧ effective.balanceScope = "node"
        ∧ db.nodeBalance nodeId = some effective.effectiveBalance)
      ∨ ∃ operatorPubkey, db.operatorOf nodeId = some operatorPubkey
        ∧ effective.balanceScope = "operator_wallet"
        ∧ (effective.effectiveBalance = 0
          ∨ effective.effectiveBalance = db.walletBalance now operatorPubkey) := by
  unfold effectiveCreditBalance at h
  obtain ⟨balance, hbalance, rfl⟩ := Option.map_eq_some_iff.mp h
  rw [hlookup, if_neg Bool.false_ne_true]
  cases hoperator : db.operatorOf nodeId with
  | none =>
    refine Or.inl ⟨rfl, rfl, ?_⟩
    split at hbalance
    · exact absurd hbalance (by simp)
    · exact hbalance
  | some operatorPubkey =>
    refine Or.inr ⟨operatorPubkey, rfl, rfl, ?_⟩
    dsimp only
    split
    · exact Or.inl rfl
    · exact Or.inr rfl

/-- What a sufficient quote is sufficient for. -/
theorem amount_le_of_sufficient {fails : ℕ → Bool} {now : ℤ} {db : CreditDb fold}
    (hlookup : fails 1 = false) {nodeId : String} {amount : ℚ} {effective : EffectiveCreditBalance}
    (heffective : effective
      = (db.effectiveCreditBalance fails now nodeId).getD ⟨0, 0, "node", none⟩)
    (hpositive : 0 < amount) (hsufficient : amount ≤ effective.effectiveBalance) :
    (db.operatorOf nodeId = none ∧ effective.balanceScope = "node"
        ∧ ∃ balance, db.nodeBalance nodeId = some balance ∧ amount ≤ balance)
      ∨ ∃ operatorPubkey, db.operatorOf nodeId = some operatorPubkey
        ∧ effective.balanceScope = "operator_wallet"
        ∧ amount ≤ db.walletBalance now operatorPubkey := by
  have hsome : effective.effectiveBalance ≠ 0 := (hpositive.trans_le hsufficient).ne'
  cases hfound : db.effectiveCreditBalance fails now nodeId with
  | none =>
    rw [hfound] at heffective
    exact absurd (congrArg EffectiveCreditBalance.effectiveBalance heffective) hsome
  | some found =>
    rw [hfound, Option.getD_some] at heffective
    subst heffective
    rcases effectiveCreditBalance_cases hlookup hfound with
      ⟨hoperator, hscope, hnode⟩ | ⟨operatorPubkey, hoperator, hscope, hzero | hwallet⟩
    · exact Or.inl ⟨hoperator, hscope, _, hnode, hsufficient⟩
    · exact absurd hzero hsome
    · exact Or.inr ⟨operatorPubkey, hoperator, hscope, hwallet ▸ hsufficient⟩

/-- Half of the credit is enough. -/
def halfQuoteRepo : QuoteRepo where
  verifyNodeToken := fun _ _ => true
  quoteMultipliers := fun _ _ => [1 / 2]
  effectiveCreditBalance := granted.effectiveCreditBalance (fun _ => false) 0

/-- The request of the node, under its header. -/
def halfQuoteRequest : QuoteRequest where
  bearerToken := some "token"
  xNodeId := some [110, 111, 100, 101]
  intent := some "chat"
  maxTokens := some 1000
  minReputation := none

/-- A token that is not signed. -/
def unsigned (_token : String) : Option String := none

/-- Half of the credit, quoted. -/
def halfQuote : Quote where
  quoteId := "q_1"
  estimatedCredits := 1 / 2
  minCredits := 1 / 2
  maxCredits := 1 / 2
  pricePer1000Tokens := 1 / 2
  nodesQuoted := 1
  quoteExpiresAt := "later"
  currency := "iicp_credits"
  consumerBalance := 1
  effectiveBalance := 1
  balanceScope := "operator_wallet"
  operatorWalletBalance := some 1
  balanceSufficient := true

theorem granted_ledgersAgree : granted.LedgersAgree "node" where
  own := ⟨rfl, rfl⟩
  wallet := fun _ _ n hn _ => by
    obtain rfl := List.mem_singleton.mp (Table.find_eq_some_iff.mp hn).1
    exact ⟨rfl, rfl⟩

end CreditDb
