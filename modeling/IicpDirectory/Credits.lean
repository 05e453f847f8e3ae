import IicpDirectory.Foundations.Constrained
import IicpDirectory.Foundations.Table
import IicpDirectory.Foundations.Transaction
import IicpDirectory.Money

/-!
# Credit in MySQL

The credit of a node is kept three times: as a column of `nodes`, as a row
of `credits`, and as the entries of `credit_transactions`. Awards, debits,
the sweep of idle credit and the free allocation change them together, each
in a transaction of its own, with the rows it reads locked; a registration
inserts a node without credit, and a removal takes the node and its entries,
by cascade, and leaves the row of `credits`.

What a money column makes of a value is a parameter: `round4`, or nothing
where the arithmetic is taken to be exact. The column `amount` of an entry
is rounded on its own.
-/

/-! ## The rows -/

/-- A row of `nodes`, as far as its credit is concerned. -/
structure WalletNode where
  id : String
  operatorPubkey : Option String
  status : String
  creditBalance : ℚ
  freeCreditLastAllocationAt : Option ℤ

/-- A row of `credits`. -/
structure CreditAccount where
  nodeId : String
  balance : ℚ
  freeCreditLastAllocationAt : Option ℤ

/-- `credit_transactions.type`. -/
inductive EntryType
  | credit
  | debit
  deriving DecidableEq

/-- A row of `credit_transactions`. -/
structure CreditEntry where
  nodeId : String
  amount : ℚ
  type : EntryType
  taskId : Option String
  nonce : Option String
  reason : String
  expiresAt : Option ℤ
  deriving DecidableEq

/-- A row of `credit_ip_gates`. -/
structure IpGate where
  ipAddress : String
  lastAllocationAt : Option ℤ
  allocationCount : ℕ

namespace CreditEntry

/-- What the entry adds to its node. -/
def signed (e : CreditEntry) : ℚ :=
  match e.type with
  | .credit => e.amount
  | .debit => -e.amount

/-- The texts fit their columns. -/
def Fits (e : CreditEntry) : Prop :=
  (∀ t ∈ e.taskId, t.length ≤ 36) ∧ (∀ n ∈ e.nonce, n.length ≤ 64) ∧ e.reason.length ≤ 255

instance (e : CreditEntry) : Decidable e.Fits := inferInstanceAs (Decidable (_ ∧ _ ∧ _))

/-- Two entries have one nonce, to the collation; `NULL` is none. -/
def clash (fold : String → String) (a b : CreditEntry) : Bool :=
  match a.nonce, b.nonce with
  | some m, some n => fold m == fold n
  | _, _ => false

end CreditEntry

/-- **The tables**, under a collation. Every entry has its node, and no two
have one nonce. -/
structure CreditDb (fold : String → String) where
  nodes : Table (fun n : WalletNode => fold n.id)
  credits : Table (fun c : CreditAccount => fold c.nodeId)
  creditTransactions : Constrained (CreditEntry.clash fold)
  creditIpGates : Table (fun g : IpGate => fold g.ipAddress)
  owned : ∀ e ∈ creditTransactions.rows, (nodes.find (fold e.nodeId)).isSome

namespace CreditDb

variable {fold : String → String}

/-- The tables as the schema creates them. -/
def empty (fold : String → String) : CreditDb fold :=
  ⟨.empty _, .empty _, .empty _, .empty _, fun _ h => absurd h List.not_mem_nil⟩

/-- The row of a node. -/
def node (db : CreditDb fold) (nodeId : String) : Option WalletNode := db.nodes.find (fold nodeId)

/-- Its row of `credits`. -/
def account (db : CreditDb fold) (nodeId : String) : Option CreditAccount :=
  db.credits.find (fold nodeId)

/-- Its entries. -/
def entries (db : CreditDb fold) (nodeId : String) : List CreditEntry :=
  db.creditTransactions.rows.filter fun e => fold e.nodeId = fold nodeId

/-- `nodes.credit_balance`. -/
def nodeBalance (db : CreditDb fold) (nodeId : String) : Option ℚ :=
  (db.node nodeId).map (·.creditBalance)

/-- `credits.balance`. -/
def accountBalance (db : CreditDb fold) (nodeId : String) : Option ℚ :=
  (db.account nodeId).map (·.balance)

/-- The credits of a node less its debits. -/
def entrySum (db : CreditDb fold) (nodeId : String) : ℚ :=
  ((db.entries nodeId).map CreditEntry.signed).sum

/-! ## Statements -/

/-- `UPDATE nodes SET … WHERE id = ?`. -/
def updateNode (db : CreditDb fold) (nodeId : String) (f : WalletNode → WalletNode)
    (hf : ∀ n, (f n).id = n.id) : CreditDb fold :=
  { db with
    nodes := db.nodes.update (fold nodeId) f fun n => congrArg fold (hf n)
    owned := fun e he => by
      rw [Table.find_update]
      split
      · rw [Option.isSome_map]
        exact db.owned e he
      · exact db.owned e he }

/-- `UPDATE credits SET … WHERE node_id = ?`. -/
def updateAccount (db : CreditDb fold) (nodeId : String) (f : CreditAccount → CreditAccount)
    (hf : ∀ c, (f c).nodeId = c.nodeId) : CreditDb fold :=
  { db with credits := db.credits.update (fold nodeId) f fun c => congrArg fold (hf c) }

/-- `INSERT INTO credits … ON DUPLICATE KEY UPDATE node_id = VALUES(node_id)`. -/
def ensureAccount (db : CreditDb fold) (nodeId : String) (balance : ℚ) : CreditDb fold :=
  { db with credits := db.credits.upsert ⟨nodeId, balance, none⟩ id fun _ => rfl }

/-- `INSERT INTO credit_transactions`. -/
def insertEntry (db : CreditDb fold) (e : CreditEntry) : Option (CreditDb fold) :=
  if hnode : (db.nodes.find (fold e.nodeId)).isSome ∧ e.Fits then
    match hinsert : db.creditTransactions.insert e with
    | some t => some
        { db with
          creditTransactions := t
          owned := fun e' he' => by
            rw [Constrained.insert_eq_some_iff.mp hinsert, List.mem_append] at he'
            rcases he' with he' | he'
            · exact db.owned e' he'
            · obtain rfl := List.mem_singleton.mp he'
              exact hnode.1 }
    | none => none
  else none

/-- `UPDATE nodes n JOIN credits c ON c.node_id = n.id SET n.credit_balance = …,
c.balance = … WHERE n.id = ? AND …`. It fails to find a row where there are
not both, or the condition is not met. -/
def updateJoined (db : CreditDb fold) (nodeId : String) (meets : ℚ → ℚ → Prop)
    [∀ n c, Decidable (meets n c)] (f : ℚ → ℚ) : Option (CreditDb fold) :=
  match db.node nodeId, db.account nodeId with
  | some n, some c =>
    if meets n.creditBalance c.balance then some
      ((db.updateNode nodeId (fun n => { n with creditBalance := f n.creditBalance })
          fun _ => rfl).updateAccount nodeId (fun c => { c with balance := f c.balance })
        fun _ => rfl)
    else none
  | _, _ => none

/-! ## What a transaction does to a node -/

/-- **One node is settled**: its entries have one more, its two balances are
what is said, and nothing of another node changes. -/
structure Settles (db db' : CreditDb fold) (e : CreditEntry) (balance ledger : ℚ) : Prop where
  registered : (db.nodeBalance e.nodeId).isSome
  node : ∀ other, db'.nodeBalance other
    = if fold other = fold e.nodeId then some balance else db.nodeBalance other
  account : ∀ other, db'.accountBalance other
    = if fold other = fold e.nodeId then some ledger else db.accountBalance other
  rows : db'.creditTransactions.rows = db.creditTransactions.rows ++ [e]

theorem nodeBalance_congr (db : CreditDb fold) {a b : String} (h : fold a = fold b) :
    db.nodeBalance a = db.nodeBalance b := by
  unfold nodeBalance node
  rw [h]

theorem accountBalance_congr (db : CreditDb fold) {a b : String} (h : fold a = fold b) :
    db.accountBalance a = db.accountBalance b := by
  unfold accountBalance account
  rw [h]

theorem entrySum_congr (db : CreditDb fold) {a b : String} (h : fold a = fold b) :
    db.entrySum a = db.entrySum b := by
  unfold entrySum entries
  rw [h]

theorem nodeBalance_updateNode (db : CreditDb fold) (nodeId : String)
    {f : WalletNode → WalletNode} (hf : ∀ n, (f n).id = n.id) (other : String) :
    (db.updateNode nodeId f hf).nodeBalance other
      = if fold other = fold nodeId then (db.node other).map fun n => (f n).creditBalance
        else db.nodeBalance other := by
  show ((db.nodes.update _ f fun n => congrArg fold (hf n)).find _).map _ = _
  rw [Table.find_update]
  split
  · rw [Option.map_map]
    rfl
  · rfl

theorem accountBalance_updateAccount (db : CreditDb fold) (nodeId : String)
    {f : CreditAccount → CreditAccount} (hf : ∀ c, (f c).nodeId = c.nodeId) (other : String) :
    (db.updateAccount nodeId f hf).accountBalance other
      = if fold other = fold nodeId then (db.account other).map fun c => (f c).balance
        else db.accountBalance other := by
  show ((db.credits.update _ f fun c => congrArg fold (hf c)).find _).map _ = _
  rw [Table.find_update]
  split
  · rw [Option.map_map]
    rfl
  · rfl

theorem accountBalance_ensureAccount (db : CreditDb fold) (nodeId : String) (balance : ℚ)
    (other : String) :
    (db.ensureAccount nodeId balance).accountBalance other
      = if fold other = fold nodeId then some ((db.accountBalance nodeId).getD balance)
        else db.accountBalance other := by
  show ((db.credits.upsert _ id _).find _).map _ = _
  rw [Table.find_upsert]
  split
  · unfold accountBalance account
    cases db.credits.find (fold nodeId) <;> rfl
  · rfl

/-- **An entry is inserted** at the end, if it is. -/
theorem rows_insertEntry {db db' : CreditDb fold} {e : CreditEntry}
    (h : db.insertEntry e = some db') :
    db'.nodes = db.nodes ∧ db'.credits = db.credits ∧ db'.creditIpGates = db.creditIpGates
      ∧ db'.creditTransactions.rows = db.creditTransactions.rows ++ [e] := by
  unfold insertEntry at h
  split at h
  · split at h
    · next t hinsert =>
      obtain rfl := Option.some.inj h
      exact ⟨rfl, rfl, rfl, Constrained.insert_eq_some_iff.mp hinsert⟩
    · exact absurd h (by simp)
  · exact absurd h (by simp)

/-- One more entry adds to its node. -/
theorem entrySum_of_rows {db db' : CreditDb fold} {e : CreditEntry}
    (hrows : db'.creditTransactions.rows = db.creditTransactions.rows ++ [e]) (other : String) :
    db'.entrySum other
      = if fold other = fold e.nodeId then db.entrySum other + e.signed
        else db.entrySum other := by
  unfold entrySum entries
  rw [hrows, List.filter_append, List.map_append, List.sum_append]
  by_cases hid : fold other = fold e.nodeId
  · rw [if_pos hid, List.filter_singleton, decide_eq_true hid.symm, cond_true, List.map_singleton,
      List.sum_singleton]
  · rw [if_neg hid, List.filter_singleton, decide_eq_false (Ne.symm hid), cond_false, List.map_nil,
      List.sum_nil, add_zero]

/-- What a joined update found. -/
theorem updateJoined_eq_some {db db' : CreditDb fold} {nodeId : String} {meets : ℚ → ℚ → Prop}
    [∀ n c, Decidable (meets n c)] {f : ℚ → ℚ}
    (h : db.updateJoined nodeId meets f = some db') :
    ∃ balance ledger, db.nodeBalance nodeId = some balance
      ∧ db.accountBalance nodeId = some ledger ∧ meets balance ledger
      ∧ (∀ other, db'.nodeBalance other
          = if fold other = fold nodeId then some (f balance) else db.nodeBalance other)
      ∧ (∀ other, db'.accountBalance other
          = if fold other = fold nodeId then some (f ledger) else db.accountBalance other)
      ∧ db'.creditTransactions = db.creditTransactions := by
  unfold updateJoined at h
  split at h
  · next n c hn hc =>
    split at h
    · next hmeets =>
      obtain rfl := Option.some.inj h
      refine ⟨n.creditBalance, c.balance, congrArg _ hn, congrArg _ hc, hmeets, fun other => ?_,
        fun other => ?_, rfl⟩
      · refine (nodeBalance_updateNode db nodeId
          (f := fun n => { n with creditBalance := f n.creditBalance }) (fun _ => rfl)
          other).trans ?_
        split
        · next hid =>
          have hother : db.node other = some n := by
            unfold node at hn ⊢
            rw [hid, hn]
          rw [hother]
          rfl
        · rfl
      · rw [accountBalance_updateAccount]
        split
        · next hid =>
          have hother : db.account other = some c := by
            unfold account at hc ⊢
            rw [hid, hc]
          show (db.account other).map _ = _
          rw [hother]
          rfl
        · rfl
    · exact absurd h (by simp)
  · exact absurd h (by simp)

/-- **A joined update and an entry settle their node.** -/
theorem settles_of_updateJoined {db mid db' : CreditDb fold} {e : CreditEntry}
    {meets : ℚ → ℚ → Prop} [∀ n c, Decidable (meets n c)] {f : ℚ → ℚ}
    (hjoined : db.updateJoined e.nodeId meets f = some mid) (hentry : mid.insertEntry e = some db') :
    ∃ balance ledger, db.nodeBalance e.nodeId = some balance
      ∧ db.accountBalance e.nodeId = some ledger ∧ meets balance ledger
      ∧ Settles db db' e (f balance) (f ledger) := by
  obtain ⟨balance, ledger, hnode, haccount, hmeets, hnodes, haccounts, htransactions⟩ :=
    updateJoined_eq_some hjoined
  obtain ⟨hn, hc, _, hrows⟩ := rows_insertEntry hentry
  refine ⟨balance, ledger, hnode, haccount, hmeets, ?_, fun other => ?_, fun other => ?_, ?_⟩
  · rw [hnode]
    rfl
  · rw [← hnodes]
    unfold nodeBalance node
    rw [hn]
  · rw [← haccounts]
    unfold accountBalance account
    rw [hc]
  · rw [hrows, htransactions]

/-! ## Awards -/

/-- A day, in seconds. -/
def day : ℤ := 24 * 3600

/-- What `credits` has for a node: its row, or the balance of the node where
there is none yet. -/
def ledgerBalance (db : CreditDb fold) (n : WalletNode) : ℚ :=
  (db.accountBalance n.id).getD n.creditBalance

/-- The entry of an award. -/
def awardEntry (store : ℚ → ℚ) (now : ℤ) (nodeId : String) (amount : ℚ) (taskId nonce : String) :
    CreditEntry :=
  ⟨nodeId, store amount, .credit, some taskId, some nonce, "cip_award", some (now + 90 * day)⟩

/-- The statements of `record_credit_award_once`, of what its first two reads
found under their locks. -/
def awardBody (store : ℚ → ℚ) (now : ℤ) (nodeId : String) (amount : ℚ) (taskId nonce : String)
    (balance ledger : ℚ) : List (CreditDb fold → Option (CreditDb fold)) :=
  [some,
    fun db => some (db.ensureAccount nodeId balance),
    fun db => if 1 / 10000 < |ledger - balance| then none else some db,
    fun db => db.insertEntry (awardEntry store now nodeId amount taskId nonce),
    fun db => some (db.updateAccount nodeId
      (fun c => { c with balance := store (round4 (ledger + amount)) }) fun _ => rfl),
    fun db => some (db.updateNode nodeId
      (fun n => { n with creditBalance := store (round4 (ledger + amount)) }) fun _ => rfl)]

/-- `record_credit_award_once`. -/
def recordCreditAwardOnce (store : ℚ → ℚ) (server : Server) (now : ℤ) (db : CreditDb fold)
    (nodeId : String) (amount : ℚ) (taskId nonce : String) :
    Except CreditError ℚ × CreditDb fold :=
  if !server.begins || server.fails 0 then (.error .dbError, db)
  else match db.node nodeId with
    | none => (.error .nodeNotFound, db)
    | some n =>
      let ledger := db.ledgerBalance n
      let entry := awardEntry store now nodeId amount taskId nonce
      let r := Transaction.run server
        (awardBody store now nodeId amount taskId nonce n.creditBalance ledger) db
      -- the insertion is reached, and refused for its nonce
      let replayed := !(server.fails 1 || server.fails 2 || server.fails 3)
        && decide (|ledger - n.creditBalance| ≤ 1 / 10000) && decide entry.Fits
        && db.creditTransactions.rows.any fun e => CreditEntry.clash fold e entry
      (if r.1 then .ok (round4 (ledger + amount))
        else .error (if replayed then .nonceReplay else .dbError), r.2)

/-! ## Debits -/

/-- What a debit answers. -/
structure WalletDebitResult where
  debited : Bool
  spent : ℚ
  scope : String
  reason : Option String
  debitCount : ℕ
  deriving DecidableEq

/-- Why a debit is refused; a wallet whose nodes did not make up the amount is
told apart from the other database errors by its message. -/
inductive DebitMutationError
  | database
  | allocationIncomplete
  | insufficient (reason : String)
  deriving DecidableEq

/-- The entry of a debit. -/
def debitEntry (store : ℚ → ℚ) (nodeId : String) (amount : ℚ) (taskId reason : String) :
    CreditEntry :=
  ⟨nodeId, store amount, .debit, some taskId, none, reason, none⟩

/-- The condition of a debit of one node: each balance covers the amount, and
the two agree, to one unit. -/
def Covers (amount balance ledger : ℚ) : Prop :=
  amount ≤ balance + 1 / 10000 ∧ amount ≤ ledger + 1 / 10000 ∧ |balance - ledger| ≤ 1 / 10000

instance (amount balance ledger : ℚ) : Decidable (Covers amount balance ledger) :=
  inferInstanceAs (Decidable (_ ∧ _ ∧ _))

/-- The statements of `debit_node_once`. -/
def debitNodeBody (store : ℚ → ℚ) (consumerNodeId : String) (amount : ℚ)
    (taskId reason : String) : List (CreditDb fold → Option (CreditDb fold)) :=
  [fun db => db.updateJoined consumerNodeId (Covers amount) fun b => store (b - amount),
    fun db => db.insertEntry (debitEntry store consumerNodeId amount taskId reason)]

/-- `debit_node_once`. -/
def debitNodeOnce (store : ℚ → ℚ) (server : Server) (db : CreditDb fold)
    (consumerNodeId : String) (amount : ℚ) (taskId reason : String) :
    Except DebitMutationError WalletDebitResult × CreditDb fold :=
  if !server.begins || server.fails 0 then (.error .database, db)
  else if (db.updateJoined consumerNodeId (Covers amount) fun b => store (b - amount)).isNone then
    (.error (.insufficient "insufficient_balance"), db)
  else
    let r := Transaction.run server (debitNodeBody store consumerNodeId amount taskId reason) db
    (if r.1 then .ok ⟨true, amount, "node", none, 1⟩ else .error .database, r.2)

/-- The awards and allocations of a node. -/
def earns (db : CreditDb fold) (nodeId : String) : List CreditEntry :=
  (db.entries nodeId).filter fun e => e.type == .credit

/-- The times at which they expire. -/
def expiries (db : CreditDb fold) (nodeId : String) : List ℤ :=
  (db.earns nodeId).filterMap (·.expiresAt)

/-- A node's credit can be spent: one of its earns does not expire, or none
has a time at which it does, or the last of these is to come. -/
def Spendable (db : CreditDb fold) (now : ℤ) (nodeId : String) : Prop :=
  (∃ e ∈ db.earns nodeId, e.expiresAt = none) ∨ db.expiries nodeId = []
    ∨ ∃ t ∈ db.expiries nodeId, now < t

instance (db : CreditDb fold) (now : ℤ) (nodeId : String) : Decidable (db.Spendable now nodeId) :=
  inferInstanceAs (Decidable (_ ∨ _ ∨ _))

/-- The earliest time to come at which one of its earns expires. -/
def horizon (db : CreditDb fold) (now : ℤ) (nodeId : String) : Option ℤ :=
  ((db.expiries nodeId).filter fun t => now < t).min?

/-- A node a wallet may be debited at. -/
structure Candidate where
  nodeId : String
  balance : ℚ
  horizon : Option ℤ

/-- `ORDER BY horizon IS NULL, horizon, n.id`. -/
def Candidate.before (fold : String → String) (a b : Candidate) : Bool :=
  match a.horizon, b.horizon with
  | some s, some t => decide (s < t) || (s == t && decide (fold a.nodeId ≤ fold b.nodeId))
  | some _, none => true
  | none, some _ => false
  | none, none => decide (fold a.nodeId ≤ fold b.nodeId)

/-- The node is one of the operator's, in use, and with credit to spend. -/
def Eligible (db : CreditDb fold) (now : ℤ) (operatorPubkey : String) (n : WalletNode) : Prop :=
  n.operatorPubkey.map fold = some (fold operatorPubkey) ∧ fold n.status ≠ fold "archived"
    ∧ 0 < n.creditBalance ∧ db.Spendable now n.id

instance (db : CreditDb fold) (now : ℤ) (operatorPubkey : String) (n : WalletNode) :
    Decidable (db.Eligible now operatorPubkey n) :=
  inferInstanceAs (Decidable (_ ∧ _ ∧ _ ∧ _))

/-- The nodes of an operator's wallet, in the order they are debited. -/
def candidates (db : CreditDb fold) (now : ℤ) (operatorPubkey : String) : List Candidate :=
  ((db.nodes.rows.filter fun n => db.Eligible now operatorPubkey n).map fun n =>
      (⟨n.id, n.creditBalance, db.horizon now n.id⟩ : Candidate)).mergeSort
    (Candidate.before fold)

/-- **The allocation of an amount**: what is taken of each node in turn, until
next to nothing remains, and what remains. -/
def allocate : ℚ → List Candidate → List (Candidate × ℚ) × ℚ
  | remaining, [] => ([], remaining)
  | remaining, c :: rest =>
    if remaining ≤ 1 / 20000 then ([], remaining)
    else
      let take := min remaining c.balance
      let r := allocate (remaining - take) rest
      ((c, take) :: r.1, r.2)

/-- The first bytes of a text, if they end between two characters. -/
def bytePrefix : ℕ → List Char → Option (List Char)
  | 0, _ => some []
  | _ + 1, [] => some []
  | n + 1, c :: cs =>
    if c.utf8Size ≤ n + 1 then (bytePrefix (n + 1 - c.utf8Size) cs).map (c :: ·) else none

/-- The reason an entry of a wallet gives: where the node is not the consumer
it names the consumer, by its first eight bytes. A text that cannot be cut
there ends the call. -/
def walletReason (consumerNodeId reason nodeId : String) : Option String :=
  if nodeId = consumerNodeId then some reason
  else (bytePrefix 8 consumerNodeId.toList).map fun cs =>
    reason ++ ":operator_wallet:consumer=" ++ String.ofList cs

/-- The statements for one node: its two balances agree, the debit, the
entry. -/
def takeBody (store : ℚ → ℚ) (consumerNodeId taskId reason : String) (c : Candidate) (take : ℚ) :
    List (CreditDb fold → Option (CreditDb fold)) :=
  [fun db =>
      match db.accountBalance c.nodeId with
      | some ledger => if 1 / 10000 < |ledger - c.balance| then none else some db
      | none => none,
    fun db => db.updateJoined c.nodeId (fun b l => |b - l| ≤ 1 / 10000) fun b => store (b - take),
    fun db => (walletReason consumerNodeId reason c.nodeId).bind fun reason =>
      db.insertEntry (debitEntry store c.nodeId take taskId reason)]

/-- The statements of `debit_operator_wallet_once`, of the plan made of the
rows it locked. -/
def walletBody (store : ℚ → ℚ) (consumerNodeId taskId reason : String)
    (plan : List (Candidate × ℚ)) : List (CreditDb fold → Option (CreditDb fold)) :=
  some :: plan.flatMap fun p => takeBody store consumerNodeId taskId reason p.1 p.2

/-- `debit_operator_wallet_once`. -/
def debitOperatorWalletOnce (store : ℚ → ℚ) (server : Server) (now : ℤ) (db : CreditDb fold)
    (consumerNodeId operatorPubkey : String) (amount : ℚ) (taskId reason : String) :
    Except DebitMutationError WalletDebitResult × CreditDb fold :=
  if !server.begins || server.fails 0 then (.error .database, db)
  else
    let candidates := db.candidates now operatorPubkey
    if (candidates.map (·.balance)).sum + 1 / 10000 < amount then
      (.error (.insufficient "insufficient_operator_wallet_balance"), db)
    else
      let plan := allocate amount candidates
      let body := walletBody store consumerNodeId taskId reason plan.1
      -- the last check before the commit
      if (Transaction.reaches server body db).isSome && decide (1 / 10000 < plan.2) then
        (.error .allocationIncomplete, db)
      else
        let r := Transaction.run server body db
        (if r.1 then .ok ⟨true, amount, "operator_wallet", none, plan.1.length⟩
          else .error .database, r.2)

/-! ## Idle credit and free credit -/

/-- The statements of `expire_idle_credit_once`. -/
def expireBody (store : ℚ → ℚ) (nodeId : String) (expectedBalance : ℚ) :
    List (CreditDb fold → Option (CreditDb fold)) :=
  [fun db => db.updateJoined nodeId
      (fun b l => b = expectedBalance ∧ |b - l| ≤ 1 / 10000) fun _ => 0,
    fun db => db.insertEntry
      ⟨nodeId, store expectedBalance, .debit, none, none, "ttl_expire", none⟩]

/-- `expire_idle_credit_once`, of a balance read before: what it expired, and
nothing where it failed or found the balance another. -/
def expireIdleCreditOnce (store : ℚ → ℚ) (server : Server) (db : CreditDb fold)
    (nodeId : String) (expectedBalance : ℚ) : Option ℚ × CreditDb fold :=
  let r := Transaction.run server (expireBody store nodeId expectedBalance) db
  (if r.1 then some expectedBalance else none, r.2)

/-- A gate that was passed in the last six hours is shut. -/
def Blocked (now : ℤ) (last : Option ℤ) : Prop := ∃ t ∈ last, now - 6 * 3600 < t

instance (now : ℤ) (last : Option ℤ) : Decidable (Blocked now last) :=
  inferInstanceAs (Decidable (∃ t ∈ last, _))

/-- `INSERT INTO credit_ip_gates … ON DUPLICATE KEY UPDATE`. -/
def ensureGate (db : CreditDb fold) (ip : String) : Option (CreditDb fold) :=
  if ip.length ≤ 45 then some
    { db with creditIpGates := db.creditIpGates.upsert ⟨ip, none, 0⟩ id fun _ => rfl }
  else none

/-- `UPDATE credit_ip_gates SET last_allocation_at = NOW(), …`. -/
def passGate (db : CreditDb fold) (now : ℤ) (ip : String) : CreditDb fold :=
  let pass (g : IpGate) : IpGate :=
    { g with lastAllocationAt := some now, allocationCount := g.allocationCount + 1 }
  { db with creditIpGates := db.creditIpGates.update (fold ip) pass fun _ => rfl }

/-- The entry of a free allocation. -/
def freeEntry (store : ℚ → ℚ) (now : ℤ) (nodeId : String) : CreditEntry :=
  ⟨nodeId, store 100, .credit, none, none, "free_allocation", some (now + 90 * day)⟩

/-- The statements of `maybe_allocate_free_credits`, of the balance read under
its lock. -/
def freeBody (store : ℚ → ℚ) (now : ℤ) (nodeId ip : String) (balance : ℚ) :
    List (CreditDb fold → Option (CreditDb fold)) :=
  [fun db => some (db.ensureAccount nodeId 0),
    fun db => db.ensureGate ip,
    fun db =>
      match db.account nodeId with
      | some c =>
        if 0 < c.balance ∨ Blocked now c.freeCreditLastAllocationAt then none else some db
      | none => none,
    fun db =>
      match db.creditIpGates.find (fold ip) with
      | some g => if Blocked now g.lastAllocationAt then none else some db
      | none => none,
    fun db => some (db.updateAccount nodeId
      (fun c => { c with balance := store (balance + 100), freeCreditLastAllocationAt := some now })
      fun _ => rfl),
    fun db => db.insertEntry (freeEntry store now nodeId),
    fun db =>
      if (db.node nodeId).isSome then some (db.updateNode nodeId
        (fun n => { n with
          creditBalance := store (balance + 100)
          freeCreditLastAllocationAt := some now }) fun _ => rfl)
      else none,
    fun db => some (db.passGate now ip)]

/-- `maybe_allocate_free_credits`. -/
def maybeAllocateFreeCredits (store : ℚ → ℚ) (server : Server) (now : ℤ) (db : CreditDb fold)
    (nodeId ip : String) : ℚ × CreditDb fold :=
  let r := Transaction.run server
    (freeBody store now nodeId ip ((db.accountBalance nodeId).getD 0)) db
  (if r.1 then 100 else 0, r.2)

/-! ## Registration and removal -/

/-- `upsert_node`: a new row has no credit, an old one keeps its own. -/
def registerNode (db : CreditDb fold) (nodeId : String) (operatorPubkey : Option String) :
    CreditDb fold :=
  { db with
    nodes := db.nodes.upsert ⟨nodeId, operatorPubkey, "active", 0, none⟩
      (fun n => { n with operatorPubkey := operatorPubkey, status := "active" }) fun _ => rfl
    owned := fun e he => by
      rw [Table.find_upsert]
      split
      · rfl
      · exact db.owned e he }

/-- `MySqlRepo::deregister`: the entries go with the row, the row of `credits`
stays. -/
def deregister (db : CreditDb fold) (nodeId : String) : CreditDb fold :=
  { db with
    nodes := db.nodes.delete (fold nodeId)
    creditTransactions := db.creditTransactions.deleteWhere fun e => fold e.nodeId == fold nodeId
    owned := fun e he => by
      obtain ⟨hmem, hkept⟩ := List.mem_filter.mp he
      have hne : fold e.nodeId ≠ fold nodeId := by simpa using hkept
      rw [Table.find_delete, if_neg hne]
      exact db.owned e hmem }

end CreditDb
