import IicpDirectory.Credits
import Mathlib.Algebra.Order.BigOperators.Group.List
import Mathlib.Data.List.Sort

/-!
# The debit of an operator's wallet

An operator's nodes are one wallet: a debit takes an amount of them in the
order in which their credit expires. The plan is made of the rows the
transaction has locked (`allocate`), and carried out node by node: the two
balances of the node, and one entry.

The plan takes of each node at most what it has (`allocate_within`), goes on
to the next only from a node it has drained (`allocate_drained`), and leaves
at most a unit of the amount (`allocate_rest_le`). The call does this and
nothing else, or nothing at all (`debitOperatorWalletOnce_spec`); where the
answer to its commit is lost it does it and says that it failed.
-/

namespace CreditDb

/-! ## The plan -/

theorem fst_allocate_of_append (remaining : ℚ) (cs : List Candidate) :
    (allocate remaining cs).1.map Prod.fst <+: cs := by
  induction cs generalizing remaining with
  | nil => exact List.prefix_rfl
  | cons c rest ih =>
    unfold allocate
    split
    · exact List.nil_prefix
    · exact List.prefix_cons_inj c |>.mpr (ih _)

theorem allocate_sum (remaining : ℚ) (cs : List Candidate) :
    ((allocate remaining cs).1.map Prod.snd).sum + (allocate remaining cs).2 = remaining := by
  induction cs generalizing remaining with
  | nil => exact zero_add remaining
  | cons c rest ih =>
    unfold allocate
    split
    · exact zero_add remaining
    · have hrest := ih (remaining - min remaining c.balance)
      simp only [List.map_cons, List.sum_cons]
      linarith

theorem allocate_within {remaining : ℚ} {cs : List Candidate} (hcs : ∀ c ∈ cs, 0 < c.balance) :
    ∀ p ∈ (allocate remaining cs).1, 0 < p.2 ∧ p.2 ≤ p.1.balance := by
  induction cs generalizing remaining with
  | nil => exact fun _ h => absurd h List.not_mem_nil
  | cons c rest ih =>
    unfold allocate
    split
    · exact fun _ h => absurd h List.not_mem_nil
    · next hmore =>
      intro p hp
      rcases List.mem_cons.mp hp with rfl | hp
      · exact ⟨lt_min (by linarith) (hcs c List.mem_cons_self), min_le_right _ _⟩
      · exact ih (fun d hd => hcs d (List.mem_cons_of_mem c hd)) p hp

/-- Nothing is taken once nothing remains. -/
theorem allocate_of_le {remaining : ℚ} (h : remaining ≤ 1 / 20000) (cs : List Candidate) :
    allocate remaining cs = ([], remaining) := by
  cases cs with
  | nil => rfl
  | cons c rest => exact if_pos h

/-- Something is taken as long as something remains. -/
theorem allocate_cons {remaining : ℚ} (h : ¬ remaining ≤ 1 / 20000) (c : Candidate)
    (rest : List Candidate) :
    allocate remaining (c :: rest)
      = ((c, min remaining c.balance) :: (allocate (remaining - min remaining c.balance) rest).1,
        (allocate (remaining - min remaining c.balance) rest).2) :=
  if_neg h

/-- **A node is left only when it is drained.** -/
theorem allocate_drained (remaining : ℚ) (cs : List Candidate) :
    ∀ p ∈ (allocate remaining cs).1.dropLast, p.2 = p.1.balance := by
  induction cs generalizing remaining with
  | nil => exact fun _ h => absurd h List.not_mem_nil
  | cons c rest ih =>
    by_cases hless : remaining ≤ 1 / 20000
    · rw [allocate_of_le hless]
      exact fun _ h => absurd h List.not_mem_nil
    · rw [allocate_cons hless]
      intro p hp
      rcases le_total remaining c.balance with hle | hle
      · -- the whole of what remained was taken of this node
        rw [min_eq_left hle, sub_self, allocate_of_le (by norm_num)] at hp
        exact absurd hp List.not_mem_nil
      · rw [min_eq_right hle] at hp
        cases hrest : (allocate (remaining - c.balance) rest).1 with
        | nil =>
          rw [hrest] at hp
          exact absurd hp List.not_mem_nil
        | cons q qs =>
          rw [hrest, List.dropLast_cons_cons] at hp
          rcases List.mem_cons.mp hp with rfl | hp
          · rfl
          · exact ih _ p (hrest ▸ hp)

theorem allocate_rest_nonneg {remaining : ℚ} (h : 0 ≤ remaining) (cs : List Candidate) :
    0 ≤ (allocate remaining cs).2 := by
  induction cs generalizing remaining with
  | nil => exact h
  | cons c rest ih =>
    unfold allocate
    split
    · exact h
    · exact ih (sub_nonneg.mpr (min_le_left _ _))

/-- What remains is next to nothing, or all the nodes together lack it. -/
theorem allocate_rest (remaining : ℚ) (cs : List Candidate) :
    (allocate remaining cs).2 ≤ 1 / 20000
      ∨ (allocate remaining cs).2 = remaining - (cs.map (·.balance)).sum := by
  induction cs generalizing remaining with
  | nil => exact Or.inr (sub_zero remaining).symm
  | cons c rest ih =>
    by_cases hless : remaining ≤ 1 / 20000
    · rw [allocate_of_le hless]
      exact Or.inl hless
    · rw [allocate_cons hless]
      rcases le_total remaining c.balance with hle | hle
      · rw [min_eq_left hle, sub_self, allocate_of_le (by norm_num)]
        exact Or.inl (by norm_num)
      · rw [min_eq_right hle]
        refine (ih (remaining - c.balance)).imp_right fun hrest => hrest.trans ?_
        rw [List.map_cons, List.sum_cons, sub_sub]

/-- **A wallet that has the amount, to a unit, makes it up, to a unit.** -/
theorem allocate_rest_le {amount : ℚ} {cs : List Candidate}
    (h : amount ≤ (cs.map (·.balance)).sum + 1 / 10000) : (allocate amount cs).2 ≤ 1 / 10000 := by
  rcases allocate_rest amount cs with hrest | hrest
  · exact hrest.trans (by norm_num)
  · rw [hrest]
    linarith

/-! ## The nodes of a wallet -/

variable {fold : String → String}

theorem before_trans (a b c : Candidate) (hab : a.before fold b = true)
    (hbc : b.before fold c = true) : a.before fold c = true := by
  unfold Candidate.before at *
  cases ha : a.horizon <;> cases hb : b.horizon <;> cases hc : c.horizon
  all_goals simp only [ha, hb, hc, Bool.or_eq_true, Bool.and_eq_true, decide_eq_true_eq,
    beq_iff_eq, reduceCtorEq] at *
  · exact hab.trans hbc
  · rcases hab with hab | ⟨rfl, hab⟩
    · rcases hbc with hbc | ⟨rfl, _⟩
      · exact Or.inl (hab.trans hbc)
      · exact Or.inl hab
    · exact hbc.imp_right fun h => ⟨h.1, hab.trans h.2⟩

theorem before_total (a b : Candidate) :
    (a.before fold b || b.before fold a) = true := by
  unfold Candidate.before
  cases a.horizon <;> cases b.horizon
  all_goals simp only [Bool.or_eq_true, Bool.and_eq_true, decide_eq_true_eq, beq_iff_eq]
  · exact le_total _ _
  · exact Or.inr trivial
  · exact Or.inl trivial
  · next s t =>
    rcases lt_trichotomy s t with h | rfl | h
    · exact Or.inl (Or.inl h)
    · exact (le_total (fold a.nodeId) (fold b.nodeId)).imp (fun h => Or.inr ⟨rfl, h⟩)
        fun h => Or.inr ⟨rfl, h⟩
    · exact Or.inr (Or.inl h)

/-- **The nodes come in the order in which their credit expires.** -/
theorem candidates_sorted (db : CreditDb fold) (now : ℤ) (operatorPubkey : String) :
    (db.candidates now operatorPubkey).Pairwise fun a b => a.before fold b = true :=
  List.pairwise_mergeSort before_trans before_total _

/-- They are the rows that are eligible. -/
theorem mem_candidates_iff {db : CreditDb fold} {now : ℤ} {operatorPubkey : String}
    {c : Candidate} :
    c ∈ db.candidates now operatorPubkey ↔
      ∃ n, db.node n.id = some n ∧ db.Eligible now operatorPubkey n
        ∧ c = ⟨n.id, n.creditBalance, db.horizon now n.id⟩ := by
  unfold candidates
  rw [List.mem_mergeSort, List.mem_map]
  constructor
  · rintro ⟨n, hn, rfl⟩
    obtain ⟨hmem, heligible⟩ := List.mem_filter.mp hn
    exact ⟨n, Table.find_eq_some_iff.mpr ⟨hmem, rfl⟩, of_decide_eq_true heligible, rfl⟩
  · rintro ⟨n, hn, heligible, rfl⟩
    exact ⟨n, List.mem_filter.mpr ⟨(Table.find_eq_some_iff.mp hn).1, decide_eq_true heligible⟩,
      rfl⟩

theorem candidates_nodup (db : CreditDb fold) (now : ℤ) (operatorPubkey : String) :
    ((db.candidates now operatorPubkey).map fun c => fold c.nodeId).Nodup := by
  unfold candidates
  rw [((List.mergeSort_perm _ _).map _).nodup_iff, List.map_map]
  exact db.nodes.keys_nodup.sublist (List.filter_sublist.map _)

/-! ## The plan, carried out -/

/-- **The nodes of a plan are debited, and nothing else happens.** -/
structure Debits (db db' : CreditDb fold) (taskId : String) (plan : List (Candidate × ℚ)) :
    Prop where
  node : ∀ p ∈ plan, db'.nodeBalance p.1.nodeId = (db.nodeBalance p.1.nodeId).map (· - p.2)
  account : ∀ p ∈ plan,
    db'.accountBalance p.1.nodeId = (db.accountBalance p.1.nodeId).map (· - p.2)
  frame : ∀ other, (∀ p ∈ plan, fold other ≠ fold p.1.nodeId) →
    db'.nodeBalance other = db.nodeBalance other
      ∧ db'.accountBalance other = db.accountBalance other
  rows : ∃ es, db'.creditTransactions.rows = db.creditTransactions.rows ++ es
    ∧ List.Forall₂ (fun p e => ∃ reason, e = debitEntry id p.1.nodeId p.2 taskId reason) plan es

/-- The statements for one node settle it. -/
theorem settles_takeBody {store : ℚ → ℚ} {db db' : CreditDb fold}
    {consumerNodeId taskId reason : String} {c : Candidate} {take : ℚ}
    (h : (takeBody store consumerNodeId taskId reason c take).foldlM
      (fun s statement => statement s) db = some db') :
    ∃ balance ledger reason', db.nodeBalance c.nodeId = some balance
      ∧ db.accountBalance c.nodeId = some ledger ∧ |balance - ledger| ≤ 1 / 10000
      ∧ Settles db db' (debitEntry store c.nodeId take taskId reason') (store (balance - take))
        (store (ledger - take)) := by
  obtain ⟨start, hcheck, hrest⟩ := Option.bind_eq_some_iff.mp h
  have hstart : start = db := by
    dsimp only at hcheck
    split at hcheck
    · split at hcheck
      · exact absurd hcheck (by simp)
      · exact (Option.some.inj hcheck).symm
    · exact absurd hcheck (by simp)
  subst hstart
  obtain ⟨mid, hjoined, hrest⟩ := Option.bind_eq_some_iff.mp hrest
  obtain ⟨last, hentry, hlast⟩ := Option.bind_eq_some_iff.mp hrest
  obtain rfl := Option.some.inj hlast
  obtain ⟨reason', _, hentry⟩ := Option.bind_eq_some_iff.mp hentry
  obtain ⟨balance, ledger, hnode, haccount, hmeets, hsettles⟩ :=
    settles_of_updateJoined (e := debitEntry store c.nodeId take taskId reason') hjoined hentry
  exact ⟨balance, ledger, reason', hnode, haccount, hmeets, hsettles⟩

/-- What one node was settled of is no other node's. -/
theorem Debits.cons {db mid db' : CreditDb fold} {taskId reason : String} {c : Candidate}
    {take balance ledger : ℚ} {rest : List (Candidate × ℚ)}
    (hnode : db.nodeBalance c.nodeId = some balance)
    (haccount : db.accountBalance c.nodeId = some ledger)
    (hsettles : Settles db mid (debitEntry id c.nodeId take taskId reason) (balance - take)
      (ledger - take))
    (hrest : Debits mid db' taskId rest)
    (hids : ∀ p ∈ rest, fold c.nodeId ≠ fold p.1.nodeId) :
    Debits db db' taskId ((c, take) :: rest) := by
  obtain ⟨hcn, hca⟩ := hrest.frame c.nodeId hids
  -- nothing of the other nodes of the plan has changed yet
  have hother : ∀ other, fold c.nodeId ≠ fold other →
      mid.nodeBalance other = db.nodeBalance other
        ∧ mid.accountBalance other = db.accountBalance other := fun other hne =>
    ⟨(hsettles.node other).trans (if_neg fun h => hne h.symm),
      (hsettles.account other).trans (if_neg fun h => hne h.symm)⟩
  refine ⟨?_, ?_, fun other hfresh => ?_, ?_⟩
  · intro p hp
    rcases List.mem_cons.mp hp with rfl | hp
    · rw [hcn, hnode]
      exact (hsettles.node c.nodeId).trans (if_pos rfl)
    · rw [hrest.node p hp, (hother p.1.nodeId (hids p hp)).1]
  · intro p hp
    rcases List.mem_cons.mp hp with rfl | hp
    · rw [hca, haccount]
      exact (hsettles.account c.nodeId).trans (if_pos rfl)
    · rw [hrest.account p hp, (hother p.1.nodeId (hids p hp)).2]
  · obtain ⟨hn, ha⟩ := hrest.frame other fun p hp => hfresh p (List.mem_cons_of_mem _ hp)
    obtain ⟨hn', ha'⟩ := hother other fun h => hfresh (c, take) List.mem_cons_self h.symm
    exact ⟨hn.trans hn', ha.trans ha'⟩
  · obtain ⟨es, hrows, hes⟩ := hrest.rows
    refine ⟨debitEntry id c.nodeId take taskId reason :: es, ?_, .cons ⟨reason, rfl⟩ hes⟩
    rw [hrows, hsettles.rows, List.append_assoc]
    rfl

/-- **The plan is carried out node by node**; no node is in it twice. -/
theorem debits_of_plan {consumerNodeId taskId reason : String} {plan : List (Candidate × ℚ)}
    {db db' : CreditDb fold} (hids : (plan.map fun p => fold p.1.nodeId).Nodup)
    (h : (plan.flatMap fun p => takeBody id consumerNodeId taskId reason p.1 p.2).foldlM
      (fun s statement => statement s) db = some db') :
    Debits db db' taskId plan := by
  induction plan generalizing db with
  | nil =>
    obtain rfl := Option.some.inj h
    exact ⟨fun _ hp => absurd hp List.not_mem_nil, fun _ hp => absurd hp List.not_mem_nil,
      fun _ _ => ⟨rfl, rfl⟩, [], (List.append_nil _).symm, .nil⟩
  | cons p rest ih =>
    rw [List.flatMap_cons, List.foldlM_append] at h
    obtain ⟨mid, hfirst, hrest⟩ := Option.bind_eq_some_iff.mp h
    obtain ⟨balance, ledger, reason', hnode, haccount, _, hsettles⟩ := settles_takeBody hfirst
    obtain ⟨hnew, hids⟩ := List.nodup_cons.mp hids
    exact .cons hnode haccount hsettles (ih hids hrest) fun q hq heq =>
      hnew (List.mem_map.mpr ⟨q, hq, heq.symm⟩)

/-! ## The debit -/

/-- **A wallet is debited an amount** by a plan: of nodes of the operator that
are in use and have credit to spend, in the order in which it expires; of each
at most what it has, and all of it before the next is touched; and of the
amount no more than a unit is left. -/
structure WalletDebited (db db' : CreditDb fold) (now : ℤ) (operatorPubkey : String) (amount : ℚ)
    (taskId : String) (plan : List (Candidate × ℚ)) : Prop where
  eligible : ∀ p ∈ plan, ∃ n, db.node n.id = some n ∧ db.Eligible now operatorPubkey n
    ∧ p.1 = ⟨n.id, n.creditBalance, db.horizon now n.id⟩
  inOrder : plan.map Prod.fst <+: db.candidates now operatorPubkey
  byExpiry : (db.candidates now operatorPubkey).Pairwise fun a b => a.before fold b = true
  within : ∀ p ∈ plan, 0 < p.2 ∧ p.2 ≤ p.1.balance
  drained : ∀ p ∈ plan.dropLast, p.2 = p.1.balance
  rest : 0 ≤ amount - (plan.map Prod.snd).sum ∧ amount - (plan.map Prod.snd).sum ≤ 1 / 10000
  carried : Debits db db' taskId plan

/-- A plan that reaches its commit debits the wallet. -/
theorem walletDebited_of_reached {server : Server} {now : ℤ} {db db' : CreditDb fold}
    {consumerNodeId operatorPubkey taskId reason : String} {amount : ℚ} (hamount : 0 < amount)
    (hcovers : amount ≤ ((db.candidates now operatorPubkey).map (·.balance)).sum + 1 / 10000)
    (h : Transaction.reaches server (walletBody id consumerNodeId taskId reason
      (allocate amount (db.candidates now operatorPubkey)).1) db = some db') :
    WalletDebited db db' now operatorPubkey amount taskId
      (allocate amount (db.candidates now operatorPubkey)).1 := by
  have hstarts := fst_allocate_of_append amount (db.candidates now operatorPubkey)
  have hmem : ∀ p ∈ (allocate amount (db.candidates now operatorPubkey)).1,
      p.1 ∈ db.candidates now operatorPubkey := fun p hp =>
    hstarts.subset (List.mem_map_of_mem hp)
  have hpositive : ∀ c ∈ db.candidates now operatorPubkey, 0 < c.balance := by
    intro c hc
    obtain ⟨n, _, heligible, rfl⟩ := mem_candidates_iff.mp hc
    exact heligible.2.2.1
  have hids : ((allocate amount (db.candidates now operatorPubkey)).1.map
      fun p => fold p.1.nodeId).Nodup := by
    have hmap := (hstarts.sublist.map fun c => fold c.nodeId)
    rw [List.map_map] at hmap
    exact (candidates_nodup db now operatorPubkey).sublist hmap
  have hsum := allocate_sum amount (db.candidates now operatorPubkey)
  refine ⟨fun p hp => mem_candidates_iff.mp (hmem p hp), hstarts,
    candidates_sorted db now operatorPubkey, allocate_within hpositive,
    allocate_drained amount _, ⟨?_, ?_⟩, ?_⟩
  · have hrest := allocate_rest_nonneg hamount.le (db.candidates now operatorPubkey)
    linarith
  · have hrest := allocate_rest_le hcovers
    linarith
  · have hall := Transaction.foldlM_of_reached h
    have hrun : (List.flatMap (fun p => takeBody id consumerNodeId taskId reason p.1 p.2)
        (allocate amount (db.candidates now operatorPubkey)).1).foldlM
          (fun s statement => statement s) db = some db' := hall
    exact debits_of_plan hids hrun

/-- The wallet that made up the amount does not fail to make it up. -/
theorem not_allocationIncomplete (server : Server) (now : ℤ) (db : CreditDb fold)
    (consumerNodeId operatorPubkey taskId reason : String) (amount : ℚ) :
    (debitOperatorWalletOnce id server now db consumerNodeId operatorPubkey amount taskId reason).1
      ≠ .error .allocationIncomplete := by
  unfold debitOperatorWalletOnce
  split
  · simp
  · dsimp only
    split
    · simp
    · next hcovers =>
      have hrest := allocate_rest_le (not_lt.mp hcovers)
      rw [decide_eq_false (not_lt.mpr hrest), Bool.and_false, if_neg Bool.false_ne_true]
      split <;> simp

/-- **The debit of an operator's wallet** fails and leaves everything as it
was, or debits the wallet. It is heard of as a success just then, but for a
commit whose answer was lost; and a wallet that has the amount makes it
up. -/
theorem debitOperatorWalletOnce_spec (server : Server) (now : ℤ) (db : CreditDb fold)
    (consumerNodeId operatorPubkey taskId reason : String) (amount : ℚ) (hamount : 0 < amount) :
    let r := debitOperatorWalletOnce id server now db consumerNodeId operatorPubkey amount taskId
      reason
    r.1 ≠ .error .allocationIncomplete
      ∧ ((∃ e, r.1 = .error e ∧ r.2 = db)
        ∨ ∃ plan, WalletDebited db r.2 now operatorPubkey amount taskId plan
          ∧ (r.1 = .ok ⟨true, amount, "operator_wallet", none, plan.length⟩
            ∨ r.1 = .error .database ∧ server.commit = .lost)) := by
  intro r
  refine ⟨not_allocationIncomplete server now db consumerNodeId operatorPubkey taskId reason
    amount, ?_⟩
  show (∃ e, (debitOperatorWalletOnce _ _ _ _ _ _ _ _ _).1 = _ ∧ _) ∨ _
  unfold r debitOperatorWalletOnce
  split
  · exact Or.inl ⟨.database, rfl, rfl⟩
  · dsimp only
    split
    · exact Or.inl ⟨_, rfl, rfl⟩
    · next hcovers =>
      split
      · exact Or.inl ⟨_, rfl, rfl⟩
      · cases hreached : Transaction.reaches server (walletBody id consumerNodeId taskId reason
            (allocate amount (db.candidates now operatorPubkey)).1) db with
        | none =>
          rw [Transaction.run_of_not_reached hreached]
          exact Or.inl ⟨.database, rfl, rfl⟩
        | some db' =>
          have hdebited := walletDebited_of_reached hamount (not_lt.mp hcovers) hreached
          rw [Transaction.run_of_reached hreached]
          cases server.commit with
          | done => exact Or.inr ⟨_, hdebited, Or.inl rfl⟩
          | refused => exact Or.inl ⟨.database, rfl, rfl⟩
          | lost => exact Or.inr ⟨_, hdebited, Or.inr ⟨rfl, rfl⟩⟩

/-- A node of an operator that has credit and no entries. -/
def granted : CreditDb id where
  nodes := ⟨[⟨"node", some "operator", "active", 1, none⟩], List.nodup_singleton _⟩
  credits := ⟨[⟨"node", 1, none⟩], List.nodup_singleton _⟩
  creditTransactions := .empty _
  creditIpGates := .empty _
  owned := fun _ h => absurd h List.not_mem_nil

/-- A debit of half of what that node has. -/
def halfDebit (server : Server) : Except DebitMutationError WalletDebitResult × CreditDb id :=
  debitOperatorWalletOnce id server 0 granted "node" "operator" (1 / 2) "task" "spend"

theorem debitOperatorWalletOnce_granted :
    (0 : ℚ) < 1 / 2 ∧
    let r := debitOperatorWalletOnce id .willing 0 granted "node" "operator" (1 / 2) "task" "spend"
    r.1 ≠ .error .allocationIncomplete
      ∧ ((∃ e, r.1 = .error e ∧ r.2 = granted)
        ∨ ∃ plan, WalletDebited granted r.2 0 "operator" (1 / 2) "task" plan
          ∧ (r.1 = .ok ⟨true, 1 / 2, "operator_wallet", none, plan.length⟩
            ∨ r.1 = .error .database ∧ Server.willing.commit = .lost)) :=
  ⟨by norm_num, debitOperatorWalletOnce_spec .willing 0 granted "node" "operator" "task" "spend"
    (1 / 2) (by norm_num)⟩

theorem candidates_granted : granted.candidates 0 "operator" = [⟨"node", 1, none⟩] := by
  unfold candidates
  rw [show granted.nodes.rows.filter (fun n => granted.Eligible 0 "operator" n)
    = [⟨"node", some "operator", "active", 1, none⟩] from rfl]
  exact List.mergeSort_singleton _

/-- **The wallet takes of a node that has earned nothing**, and a commit whose
answer is lost is taken for a failure. -/
theorem debit_without_earns :
    granted.earns "node" = []
      ∧ (halfDebit .willing).1 = .ok ⟨true, 1 / 2, "operator_wallet", none, 1⟩
      ∧ (halfDebit .willing).2.nodeBalance "node" = some (1 / 2)
      ∧ (halfDebit ⟨true, fun _ => false, .lost⟩).1 = .error .database
      ∧ (halfDebit ⟨true, fun _ => false, .lost⟩).2.nodeBalance "node" = some (1 / 2) := by
  unfold halfDebit debitOperatorWalletOnce
  rw [candidates_granted]
  decide +kernel

end CreditDb
