import IicpDirectory.Foundations.Run
import IicpDirectory.Seed.Wallet

/-!
# What the credit transactions leave

However its server behaves, a transaction on credit leaves everything as it
was, or settles one node – a wallet, one node after the other. The lemma of
each says which entry is written, and what the two balances of the node
become; what an invariant of the ledger has to stand is no more than that.

A run is a sequence of these transactions, of registrations and of removals,
each with the server it meets. Transactions lock the rows they read, so that
the runs are the interleavings of the calls.
-/

namespace CreditDb

variable {fold : String → String}

/-! ## One transaction -/

theorem map_const_of_map {α β γ : Type*} {o : Option α} {f : α → β} {b : β} (c : γ)
    (h : o.map f = some b) : o.map (fun _ => c) = some c := by
  obtain ⟨a, rfl, _⟩ := Option.map_eq_some_iff.mp h
  rfl

/-- The row of `credits`, made where there is none and then set. -/
theorem accountBalance_set {db mid : CreditDb fold} {nodeId : String} {start new : ℚ}
    {f : CreditAccount → CreditAccount} (hf : ∀ c, (f c).nodeId = c.nodeId)
    (hnew : ∀ c, (f c).balance = new)
    (hmid : mid.credits = (db.ensureAccount nodeId start).credits) (other : String) :
    (mid.updateAccount nodeId f hf).accountBalance other
      = if fold other = fold nodeId then some new else db.accountBalance other := by
  have hbefore : mid.accountBalance other = (db.ensureAccount nodeId start).accountBalance other := by
    unfold accountBalance account
    rw [hmid]
  rw [accountBalance_ensureAccount] at hbefore
  rw [accountBalance_updateAccount]
  split
  · next hid =>
    rw [if_pos hid] at hbefore
    simp only [hnew]
    exact map_const_of_map new hbefore
  · next hid =>
    rw [if_neg hid] at hbefore
    exact hbefore

/-- **One entry and two balances set** settle their node. -/
theorem settles_of_set {db mid db' : CreditDb fold} {e : CreditEntry} {old new : ℚ}
    {f : WalletNode → WalletNode} (hf : ∀ n, (f n).id = n.id)
    (hnew : ∀ n, (f n).creditBalance = new) (hold : db.nodeBalance e.nodeId = some old)
    (hmid : mid.nodes = db.nodes) (hnodes : db'.nodes = (mid.updateNode e.nodeId f hf).nodes)
    (haccount : ∀ other, db'.accountBalance other
      = if fold other = fold e.nodeId then some new else db.accountBalance other)
    (hrows : db'.creditTransactions.rows = db.creditTransactions.rows ++ [e]) :
    Settles db db' e new new := by
  refine ⟨by rw [hold]; rfl, fun other => ?_, haccount, hrows⟩
  have hstart : mid.nodeBalance other = db.nodeBalance other := by
    unfold nodeBalance node
    rw [hmid]
  have hset : db'.nodeBalance other = (mid.updateNode e.nodeId f hf).nodeBalance other := by
    unfold nodeBalance node
    rw [hnodes]
  rw [hset, nodeBalance_updateNode]
  split
  · next hid =>
    rw [← nodeBalance_congr db hid, ← hstart] at hold
    simp only [hnew]
    exact map_const_of_map new hold
  · exact hstart

/-- The statements of an award settle its node. -/
theorem settles_awardBody {store : ℚ → ℚ} {now : ℤ} {db db' : CreditDb fold}
    {nodeId taskId nonce : String} {amount balance ledger : ℚ}
    (hnode : db.nodeBalance nodeId = some balance)
    (h : (awardBody store now nodeId amount taskId nonce balance ledger).foldlM
      (fun s statement => statement s) db = some db') :
    Settles db db' (awardEntry store now nodeId amount taskId nonce)
      (store (round4 (ledger + amount))) (store (round4 (ledger + amount))) := by
  have hbody : (if 1 / 10000 < |ledger - balance| then none
      else some (db.ensureAccount nodeId balance)).bind (fun start =>
        (start.insertEntry (awardEntry store now nodeId amount taskId nonce)).bind fun mid =>
          some ((mid.updateAccount nodeId
            (fun c => { c with balance := store (round4 (ledger + amount)) }) fun _ => rfl).updateNode
              nodeId (fun n => { n with creditBalance := store (round4 (ledger + amount)) })
                fun _ => rfl)) = some db' := h
  obtain ⟨start, hstart, hrest⟩ := Option.bind_eq_some_iff.mp hbody
  obtain ⟨mid, hentry, hlast⟩ := Option.bind_eq_some_iff.mp hrest
  obtain rfl := Option.some.inj hlast
  obtain rfl : db.ensureAccount nodeId balance = start := by
    split at hstart
    · exact absurd hstart (by simp)
    · exact Option.some.inj hstart
  obtain ⟨hnodes, hcredits, _, hrows⟩ := rows_insertEntry hentry
  have haccount := accountBalance_set
    (f := fun c => { c with balance := store (round4 (ledger + amount)) }) (fun _ => rfl)
    (fun _ => rfl) hcredits
  exact settles_of_set (e := awardEntry store now nodeId amount taskId nonce)
    (f := fun n => { n with creditBalance := store (round4 (ledger + amount)) }) (fun _ => rfl)
    (fun _ => rfl) hnode hnodes rfl haccount hrows

/-- **An award** sets both balances of its node to what `credits` has and the
amount. -/
theorem recordCreditAwardOnce_cases (store : ℚ → ℚ) (server : Server) (now : ℤ)
    (db : CreditDb fold) (nodeId : String) (amount : ℚ) (taskId nonce : String) :
    let db' := (recordCreditAwardOnce store server now db nodeId amount taskId nonce).2
    db' = db ∨ ∃ balance, db.nodeBalance nodeId = some balance
      ∧ Settles db db' (awardEntry store now nodeId amount taskId nonce)
        (store (round4 ((db.accountBalance nodeId).getD balance + amount)))
        (store (round4 ((db.accountBalance nodeId).getD balance + amount))) := by
  intro db'
  show (recordCreditAwardOnce _ _ _ _ _ _ _ _).2 = db ∨ _
  unfold db' recordCreditAwardOnce
  split
  · exact Or.inl rfl
  · cases hnode : db.node nodeId with
    | none => exact Or.inl rfl
    | some n =>
      have hid : fold n.id = fold nodeId := (Table.find_eq_some_iff.mp hnode).2
      have hbalance : db.nodeBalance nodeId = some n.creditBalance := congrArg (Option.map _) hnode
      have hledger : db.ledgerBalance n = (db.accountBalance nodeId).getD n.creditBalance := by
        unfold ledgerBalance
        rw [accountBalance_congr db hid]
      dsimp only
      rw [hledger]
      refine (Transaction.snd_run_cases server _ db).imp_right fun hrun =>
        ⟨_, hbalance, settles_awardBody hbalance hrun⟩

/-- The statements of a debit of a node settle it. -/
theorem settles_debitNodeBody {store : ℚ → ℚ} {db db' : CreditDb fold}
    {consumerNodeId taskId reason : String} {amount : ℚ}
    (h : (debitNodeBody store consumerNodeId amount taskId reason).foldlM
      (fun s statement => statement s) db = some db') :
    ∃ balance ledger, db.nodeBalance consumerNodeId = some balance
      ∧ db.accountBalance consumerNodeId = some ledger ∧ Covers amount balance ledger
      ∧ Settles db db' (debitEntry store consumerNodeId amount taskId reason)
        (store (balance - amount)) (store (ledger - amount)) := by
  obtain ⟨mid, hjoined, hrest⟩ := Option.bind_eq_some_iff.mp h
  obtain ⟨last, hentry, hlast⟩ := Option.bind_eq_some_iff.mp hrest
  obtain rfl := Option.some.inj hlast
  exact settles_of_updateJoined (e := debitEntry store consumerNodeId amount taskId reason) hjoined
    hentry

/-- **A debit of a node** takes the amount of both its balances. -/
theorem debitNodeOnce_cases (store : ℚ → ℚ) (server : Server) (db : CreditDb fold)
    (consumerNodeId : String) (amount : ℚ) (taskId reason : String) :
    let db' := (debitNodeOnce store server db consumerNodeId amount taskId reason).2
    db' = db ∨ ∃ balance ledger, db.nodeBalance consumerNodeId = some balance
      ∧ db.accountBalance consumerNodeId = some ledger ∧ Covers amount balance ledger
      ∧ Settles db db' (debitEntry store consumerNodeId amount taskId reason)
        (store (balance - amount)) (store (ledger - amount)) := by
  intro db'
  show (debitNodeOnce _ _ _ _ _ _ _).2 = db ∨ _
  unfold db' debitNodeOnce
  split
  · exact Or.inl rfl
  · split
    · exact Or.inl rfl
    · exact (Transaction.snd_run_cases server _ db).imp_right settles_debitNodeBody

/-- One that is heard of as a success has taken it. -/
theorem settles_of_debitNodeOnce {store : ℚ → ℚ} {server : Server} {db : CreditDb fold}
    {consumerNodeId taskId reason : String} {amount : ℚ} {result : WalletDebitResult}
    (h : (debitNodeOnce store server db consumerNodeId amount taskId reason).1 = .ok result) :
    ∃ balance ledger, db.nodeBalance consumerNodeId = some balance
      ∧ db.accountBalance consumerNodeId = some ledger ∧ Covers amount balance ledger
      ∧ Settles db (debitNodeOnce store server db consumerNodeId amount taskId reason).2
        (debitEntry store consumerNodeId amount taskId reason) (store (balance - amount))
        (store (ledger - amount)) := by
  unfold debitNodeOnce at h ⊢
  split at h
  · exact absurd h (by simp)
  · next hbegins =>
    rw [if_neg hbegins]
    split at h
    · exact absurd h (by simp)
    · next hjoins =>
      rw [if_neg hjoins]
      have hrun : (Transaction.run server
          (debitNodeBody store consumerNodeId amount taskId reason) db).1 = true := by
        by_contra hfails
        dsimp only at h
        rw [if_neg hfails] at h
        exact absurd h (by simp)
      have hreached := (Transaction.run_eq_true_iff.mp (Prod.ext hrun rfl)).1
      exact settles_debitNodeBody (Transaction.foldlM_of_reached hreached)

/-- **The sweep of a node** takes both its balances to zero. -/
theorem expireIdleCreditOnce_cases (store : ℚ → ℚ) (server : Server) (db : CreditDb fold)
    (nodeId : String) (expectedBalance : ℚ) :
    let db' := (expireIdleCreditOnce store server db nodeId expectedBalance).2
    db' = db ∨ db.nodeBalance nodeId = some expectedBalance
      ∧ Settles db db'
        ⟨nodeId, store expectedBalance, .debit, none, none, "ttl_expire", none⟩ 0 0 := by
  intro db'
  show (expireIdleCreditOnce _ _ _ _ _).2 = db ∨ _
  unfold db' expireIdleCreditOnce
  dsimp only
  refine (Transaction.snd_run_cases server _ db).imp_right fun hrun => ?_
  obtain ⟨mid, hjoined, hrest⟩ := Option.bind_eq_some_iff.mp hrun
  obtain ⟨last, hentry, hlast⟩ := Option.bind_eq_some_iff.mp hrest
  obtain heq := Option.some.inj hlast
  rw [← heq]
  obtain ⟨balance, ledger, hnode, _, ⟨rfl, _⟩, hsettles⟩ := settles_of_updateJoined
    (e := ⟨nodeId, store expectedBalance, .debit, none, none, "ttl_expire", none⟩) hjoined hentry
  exact ⟨hnode, hsettles⟩

/-- The row of a gate is made beside everything else. -/
theorem ensureGate_frame {db db' : CreditDb fold} {ip : String} (h : db.ensureGate ip = some db') :
    db'.nodes = db.nodes ∧ db'.credits = db.credits
      ∧ db'.creditTransactions = db.creditTransactions := by
  unfold ensureGate at h
  split at h
  · obtain rfl := Option.some.inj h
    exact ⟨rfl, rfl, rfl⟩
  · exact absurd h (by simp)

/-- A free allocation goes on where there is no credit. -/
theorem notAhead_of_some {db db' : CreditDb fold} {now : ℤ} {nodeId : String}
    (h : (match db.account nodeId with
      | some c =>
        if 0 < c.balance ∨ Blocked now c.freeCreditLastAllocationAt then none else some db
      | none => none) = some db') : (db.accountBalance nodeId).getD 0 ≤ 0 ∧ db = db' := by
  unfold accountBalance
  split at h
  · next c hc =>
    rw [hc]
    split at h
    · exact absurd h (by simp)
    · next hnot =>
      exact ⟨not_lt.mp fun hpos => hnot (Or.inl hpos), Option.some.inj h⟩
  · exact absurd h (by simp)

/-- The statements of a free allocation settle its node. -/
theorem settles_freeBody {store : ℚ → ℚ} {now : ℤ} {db db' : CreditDb fold} {nodeId ip : String}
    {balance : ℚ}
    (h : (freeBody store now nodeId ip balance).foldlM (fun s statement => statement s) db
      = some db') :
    (db.accountBalance nodeId).getD 0 ≤ 0
      ∧ Settles db db' (freeEntry store now nodeId) (store (balance + 100))
        (store (balance + 100)) := by
  obtain ⟨gated, hgated, hrest⟩ := Option.bind_eq_some_iff.mp h
  obtain ⟨open', hopen, hrest⟩ := Option.bind_eq_some_iff.mp hrest
  obtain ⟨passed, hpassed, hrest⟩ := Option.bind_eq_some_iff.mp hrest
  obtain ⟨mid, hentry, hrest⟩ := Option.bind_eq_some_iff.mp hrest
  obtain ⟨last, hlast, hrest⟩ := Option.bind_eq_some_iff.mp hrest
  obtain rfl := Option.some.inj hrest
  dsimp only at hgated hopen hpassed hentry hlast
  obtain ⟨hn, hc, ht⟩ := ensureGate_frame hgated
  obtain ⟨hledger, rfl⟩ := notAhead_of_some hopen
  obtain rfl : gated = passed := by
    split at hpassed
    · split at hpassed
      · exact absurd hpassed (by simp)
      · exact Option.some.inj hpassed
    · exact absurd hpassed (by simp)
  obtain ⟨hnodes, hcredits, _, hrows⟩ := rows_insertEntry hentry
  have hgatedBalance : gated.accountBalance nodeId = some ((db.accountBalance nodeId).getD 0) := by
    have hensured := accountBalance_ensureAccount db nodeId 0 nodeId
    rw [if_pos rfl] at hensured
    rw [← hensured]
    unfold accountBalance account
    rw [hc]
  rw [hgatedBalance] at hledger
  refine ⟨hledger, ?_⟩
  split at hlast
  · next hsome =>
    obtain rfl := Option.some.inj hlast
    have hmid : mid.nodes = db.nodes := hnodes.trans hn
    obtain ⟨n, hnode⟩ := Option.isSome_iff_exists.mp hsome
    have hold : db.nodeBalance nodeId = some n.creditBalance := by
      unfold node at hnode
      unfold nodeBalance node
      rw [← hmid, hnode]
      rfl
    have haccount := accountBalance_set
      (f := fun c => { c with
        balance := store (balance + 100)
        freeCreditLastAllocationAt := some now }) (fun _ => rfl) (fun _ => rfl) hc
    refine settles_of_set (e := freeEntry store now nodeId)
      (f := fun n => { n with
        creditBalance := store (balance + 100)
        freeCreditLastAllocationAt := some now })
      (fun _ => rfl) (fun _ => rfl) hold hmid rfl (fun other => ?_) ?_
    · rw [show (freeEntry store now nodeId).nodeId = nodeId from rfl, ← haccount other]
      show (mid.credits.find _).map _ = _
      rw [hcredits]
      rfl
    · show mid.creditTransactions.rows = _
      rw [hrows]
      show gated.creditTransactions.rows ++ _ = _
      rw [ht]
      rfl
  · exact absurd hlast (by simp)

/-- **A free allocation** adds a hundred to what `credits` has, which is not
positive. -/
theorem maybeAllocateFreeCredits_cases (store : ℚ → ℚ) (server : Server) (now : ℤ)
    (db : CreditDb fold) (nodeId ip : String) :
    let db' := (maybeAllocateFreeCredits store server now db nodeId ip).2
    db' = db ∨ (db.accountBalance nodeId).getD 0 ≤ 0
      ∧ Settles db db' (freeEntry store now nodeId)
        (store ((db.accountBalance nodeId).getD 0 + 100))
        (store ((db.accountBalance nodeId).getD 0 + 100)) := by
  intro db'
  show (maybeAllocateFreeCredits _ _ _ _ _ _).2 = db ∨ _
  unfold db' maybeAllocateFreeCredits
  exact (Transaction.snd_run_cases server _ db).imp_right settles_freeBody

/-! ## A wallet, node by node -/

/-- A plan is carried out on nodes that are as they were when it was made:
what one step has settled is no later step's. -/
theorem settled_of_plan {store : ℚ → ℚ} {consumerNodeId taskId reason : String}
    {Inv : CreditDb fold → Prop} {plan : List (Candidate × ℚ)} {db db' : CreditDb fold}
    (hids : (plan.map fun p => fold p.1.nodeId).Nodup)
    (hplan : ∀ p ∈ plan, db.nodeBalance p.1.nodeId = some p.1.balance)
    (hstep : ∀ (mid mid' : CreditDb fold) (p : Candidate × ℚ) (ledger : ℚ) (reason' : String),
      p ∈ plan → Inv mid → mid.nodeBalance p.1.nodeId = some p.1.balance →
      mid.accountBalance p.1.nodeId = some ledger →
      Settles mid mid' (debitEntry store p.1.nodeId p.2 taskId reason') (store (p.1.balance - p.2))
        (store (ledger - p.2)) → Inv mid')
    (hdb : Inv db)
    (h : (plan.flatMap fun p => takeBody store consumerNodeId taskId reason p.1 p.2).foldlM
      (fun s statement => statement s) db = some db') : Inv db' := by
  induction plan generalizing db with
  | nil =>
    obtain rfl := Option.some.inj h
    exact hdb
  | cons p rest ih =>
    rw [List.flatMap_cons, List.foldlM_append] at h
    obtain ⟨mid, hfirst, hrest⟩ := Option.bind_eq_some_iff.mp h
    obtain ⟨balance, ledger, reason', hnode, haccount, _, hsettles⟩ := settles_takeBody hfirst
    obtain ⟨hnew, hids⟩ := List.nodup_cons.mp hids
    obtain rfl := Option.some.inj (hnode.symm.trans (hplan p List.mem_cons_self))
    refine ih hids (fun q hq => ?_) (fun mid mid' q ledger reason' hq =>
      hstep mid mid' q ledger reason' (List.mem_cons_of_mem p hq)) ?_ hrest
    · have hne : fold q.1.nodeId ≠ fold p.1.nodeId := fun heq =>
        hnew (List.mem_map.mpr ⟨q, hq, heq⟩)
      exact ((hsettles.node q.1.nodeId).trans (if_neg hne)).trans
        (hplan q (List.mem_cons_of_mem p hq))
    · exact hstep db mid p ledger reason' List.mem_cons_self hdb hnode haccount hsettles

/-- The plan of a wallet names each node once, with the balance it has. -/
theorem plan_of_candidates (db : CreditDb fold) (now : ℤ) (operatorPubkey : String) (amount : ℚ) :
    (((allocate amount (db.candidates now operatorPubkey)).1.map fun p => fold p.1.nodeId).Nodup)
      ∧ ∀ p ∈ (allocate amount (db.candidates now operatorPubkey)).1,
        db.nodeBalance p.1.nodeId = some p.1.balance := by
  have hstarts := fst_allocate_of_append amount (db.candidates now operatorPubkey)
  constructor
  · have hmap := hstarts.sublist.map fun c => fold c.nodeId
    rw [List.map_map] at hmap
    exact (candidates_nodup db now operatorPubkey).sublist hmap
  · intro p hp
    obtain ⟨n, hnode, _, hcandidate⟩ := mem_candidates_iff.mp
      (hstarts.subset (List.mem_map_of_mem hp))
    rw [hcandidate]
    exact congrArg (Option.map _) hnode

/-- **A wallet is settled node by node**: what one node's settlement keeps the
debit of the wallet keeps. -/
theorem debitOperatorWalletOnce_invariant {store : ℚ → ℚ} {Inv : CreditDb fold → Prop}
    (server : Server) (now : ℤ) {db : CreditDb fold}
    (consumerNodeId operatorPubkey : String) {amount : ℚ} {taskId : String} (reason : String)
    (hstep : amount ≤ ((db.candidates now operatorPubkey).map (·.balance)).sum + 1 / 10000 →
      ∀ (mid mid' : CreditDb fold) (p : Candidate × ℚ) (ledger : ℚ) (reason' : String),
      p ∈ (allocate amount (db.candidates now operatorPubkey)).1 → Inv mid →
      mid.nodeBalance p.1.nodeId = some p.1.balance →
      mid.accountBalance p.1.nodeId = some ledger →
      Settles mid mid' (debitEntry store p.1.nodeId p.2 taskId reason') (store (p.1.balance - p.2))
        (store (ledger - p.2)) → Inv mid')
    (hdb : Inv db) :
    Inv (debitOperatorWalletOnce store server now db consumerNodeId operatorPubkey amount taskId
      reason).2 := by
  unfold debitOperatorWalletOnce
  split
  · exact hdb
  · dsimp only
    split
    · exact hdb
    · next hcovers =>
      split
      · exact hdb
      · obtain ⟨hids, hplan⟩ := plan_of_candidates db now operatorPubkey amount
        rcases Transaction.snd_run_cases server (walletBody store consumerNodeId taskId reason
          (allocate amount (db.candidates now operatorPubkey)).1) db with hsame | hrun
        · rw [hsame]
          exact hdb
        · exact settled_of_plan hids hplan (hstep (not_lt.mp hcovers)) hdb hrun

/-! ## Runs -/

/-- The calls that touch credit. -/
inductive CreditAction
  | recordCreditAward (nodeId : String) (amount : ℚ) (taskId nonce : String)
  | debitNode (consumerNodeId : String) (amount : ℚ) (taskId reason : String)
  | debitOperatorWallet (consumerNodeId operatorPubkey : String) (amount : ℚ)
      (taskId reason : String)
  | expireIdleCredit (nodeId : String) (expectedBalance : ℚ)
  | maybeAllocateFreeCredits (nodeId ip : String)
  | register (nodeId : String) (operatorPubkey : Option String)
  | deregister (nodeId : String)

/-- One of them, with the server it meets and the time there. -/
structure CreditStep where
  server : Server
  now : ℤ
  action : CreditAction

/-- **One step.** -/
def step (store : ℚ → ℚ) (db : CreditDb fold) (s : CreditStep) : CreditDb fold :=
  match s.action with
  | .recordCreditAward nodeId amount taskId nonce =>
    (recordCreditAwardOnce store s.server s.now db nodeId amount taskId nonce).2
  | .debitNode consumerNodeId amount taskId reason =>
    (debitNodeOnce store s.server db consumerNodeId amount taskId reason).2
  | .debitOperatorWallet consumerNodeId operatorPubkey amount taskId reason =>
    (debitOperatorWalletOnce store s.server s.now db consumerNodeId operatorPubkey amount taskId
      reason).2
  | .expireIdleCredit nodeId expectedBalance =>
    (expireIdleCreditOnce store s.server db nodeId expectedBalance).2
  | .maybeAllocateFreeCredits nodeId ip =>
    (maybeAllocateFreeCredits store s.server s.now db nodeId ip).2
  | .register nodeId operatorPubkey =>
    if s.server.executes then db.registerNode nodeId operatorPubkey else db
  | .deregister nodeId => if s.server.executes then db.deregister nodeId else db

end CreditDb
