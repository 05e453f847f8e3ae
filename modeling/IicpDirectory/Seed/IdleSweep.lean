import IicpDirectory.Foundations.Run
import IicpDirectory.Seed.Conservation

/-!
# The sweep of idle credit

Credit is forfeit once the newest earn of its node has expired. A sweep reads
the balances and the newest expiries of all nodes at once, decides of each
node whether it is idle, and goes through the idle ones afterwards, a
transaction each. What it decided is not decided again: the transaction is
guarded by the balance alone, so it takes whatever stands where it read what
it read.

A node that spends its credit and earns as much in between is taken for one
that has been idle all along. That is the only way: where a sweep finds the
balance it read, and the node has earned nothing since, the credit it takes
is idle when it is taken (`sweeps_upheld`).

The reads and the transactions of any number of sweeps come in any order
among the other calls on credit. Time is the time of the database, in
seconds, and goes forward.
-/

namespace CreditDb

/-- `credit_ttl_idle`. -/
def creditTtlIdle (maxEarnExpiresAt : Option ℤ) (balance : ℚ) (nowUnix : ℤ) : Bool :=
  maxEarnExpiresAt.any (fun exp => decide (exp < nowUnix)) && decide (0 < balance)

/-- A row that a sweep has read. The earns it was read with are kept beside
it; no step looks at them. -/
structure IdleCandidate where
  nodeId : String
  balance : ℚ
  maxEarnExpiresAt : Option ℤ
  nowUnix : ℤ
  earned : List CreditEntry

/-- The candidate is taken for idle. -/
def IdleCandidate.idle (c : IdleCandidate) : Bool :=
  creditTtlIdle c.maxEarnExpiresAt c.balance c.nowUnix

variable {fold : String → String}

/-- The rows a sweep reads: the nodes that have credit. -/
def idleCandidates (db : CreditDb fold) (now : ℤ) : List IdleCandidate :=
  (db.nodes.rows.filter fun n => 0 < n.creditBalance).map fun n =>
    ⟨n.id, n.creditBalance, (db.expiries n.id).max?, now, db.earns n.id⟩

/-- The guard of the sweep: the balance it read, and a ledger that agrees. -/
def Unmoved (expected balance ledger : ℚ) : Prop :=
  balance = expected ∧ |balance - ledger| ≤ 1 / 10000

instance (expected balance ledger : ℚ) : Decidable (Unmoved expected balance ledger) :=
  inferInstanceAs (Decidable (_ ∧ _))

/-- The attempt ends in an error: not one that finds another balance. -/
def expireFails (server : Server) (db : CreditDb fold) (c : IdleCandidate) : Bool :=
  (expireIdleCreditOnce round4 server db c.nodeId c.balance).1.isNone
    && !(server.begins && !server.fails 0
      && (db.updateJoined c.nodeId (Unmoved c.balance) fun _ => 0).isNone)

/-- **The tables and the sweeps**: what each has yet to go through, and how
often it has tried the next. -/
structure SweepState (fold : String → String) (ι : Type*) where
  db : CreditDb fold
  now : ℤ
  pending : ι → List IdleCandidate
  attempts : ι → ℕ

/-- What happens: a sweep reads, a sweep tries the next of its candidates, or
another call on credit. -/
inductive SweepAction (ι : Type*)
  | read (i : ι)
  | expire (i : ι) (transient : Bool)
  | call (action : CreditAction)

/-- An action, the server it meets, and the time since the one before. -/
structure SweepStep (ι : Type*) where
  action : SweepAction ι
  server : Server
  elapsed : ℕ

namespace SweepState

variable {ι : Type*} [DecidableEq ι]

/-- No sweep has begun. -/
def start (db : CreditDb fold) (now : ℤ) : SweepState fold ι := ⟨db, now, fun _ => [], fun _ => 0⟩

/-- A sweep reads its candidates: none, if it is not answered. -/
def read (s : SweepState fold ι) (i : ι) (server : Server) : SweepState fold ι :=
  { s with
    pending := Function.update s.pending i
      (if server.answers then s.db.idleCandidates s.now else [])
    attempts := Function.update s.attempts i 0 }

/-- A sweep is through with its next candidate. -/
def next (s : SweepState fold ι) (i : ι) (rest : List IdleCandidate) : SweepState fold ι :=
  { s with
    pending := Function.update s.pending i rest
    attempts := Function.update s.attempts i 0 }

/-- `expire_idle_node_credits`, one attempt at one candidate: it is tried again
after a failure that may pass, three times in all. -/
def expire (s : SweepState fold ι) (i : ι) (server : Server) (transient : Bool) :
    SweepState fold ι :=
  match s.pending i with
  | [] => s
  | c :: rest =>
    if !c.idle then s.next i rest
    else
      let after : SweepState fold ι :=
        { s with db := (expireIdleCreditOnce round4 server s.db c.nodeId c.balance).2 }
      if expireFails server s.db c && transient && decide (s.attempts i + 1 < 3) then
        { after with attempts := Function.update s.attempts i (s.attempts i + 1) }
      else after.next i rest

/-- **One step.** A sweep reads when it has nothing left to go through. -/
def step (s : SweepState fold ι) (t : SweepStep ι) : SweepState fold ι :=
  let s : SweepState fold ι := { s with now := s.now + t.elapsed }
  match t.action with
  | .read i => if (s.pending i).isEmpty then s.read i t.server else s
  | .expire i transient => s.expire i t.server transient
  | .call action => { s with db := CreditDb.step round4 s.db ⟨t.server, s.now, action⟩ }

/-! ## What is asked of a sweep -/

/-- **What a transaction of a sweep upholds** at its time: it takes credit only
where the newest earn has expired, none of a node with an earn that has not,
and writes one entry of what it takes, or takes nothing. -/
structure UpholdsExpiry (db db' : CreditDb fold) (now : ℤ) : Prop where
  idle : ∀ nodeId balance, db.nodeBalance nodeId = some balance →
    db'.nodeBalance nodeId ≠ some balance →
    creditTtlIdle (db.expiries nodeId).max? balance now = true
  fresh : ∀ nodeId, (∃ t ∈ db.expiries nodeId, now ≤ t) →
    db'.nodeBalance nodeId = db.nodeBalance nodeId
  entry : db' = db ∨ ∃ nodeId balance, db.nodeBalance nodeId = some balance
    ∧ Settles db db' ⟨nodeId, balance, .debit, none, none, "ttl_expire", none⟩ 0 0

/-- A step upholds it, if it is one of a sweep. -/
def Upholds (s : SweepState fold ι) (t : SweepStep ι) : Prop :=
  ∀ i transient, t.action = .expire i transient →
    UpholdsExpiry s.db (s.step t).db (s.now + t.elapsed)

/-- **The node has earned nothing since it was read**, if the sweep that took
it for idle finds the balance it read. -/
def Unearned (s : SweepState fold ι) (t : SweepStep ι) : Prop :=
  match t.action with
  | .expire i _ => ∀ c ∈ (s.pending i).head?, c.idle = true →
    s.db.nodeBalance c.nodeId = some c.balance → s.db.earns c.nodeId = c.earned
  | _ => True

instance (s : SweepState fold ι) (t : SweepStep ι) : Decidable (s.Unearned t) :=
  match t with
  | ⟨.expire i _, _, _⟩ =>
    inferInstanceAs (Decidable (∀ c ∈ (s.pending i).head?, c.idle = true →
      s.db.nodeBalance c.nodeId = some c.balance → s.db.earns c.nodeId = c.earned))
  | ⟨.read _, _, _⟩ => .isTrue trivial
  | ⟨.call _, _, _⟩ => .isTrue trivial

end SweepState

/-! ## Balances are whole -/

/-- The balances are such as a column keeps. -/
def WholeBalances (db : CreditDb fold) : Prop :=
  ∀ nodeId balance, db.nodeBalance nodeId = some balance → Whole balance

theorem wholeBalances_of_settles {db db' : CreditDb fold} {e : CreditEntry} {new ledger : ℚ}
    (h : db.WholeBalances) (hsettles : Settles db db' e new ledger) (hnew : Whole new) :
    db'.WholeBalances := by
  intro nodeId balance hnode
  rw [hsettles.node] at hnode
  split at hnode
  · exact Option.some.inj hnode ▸ hnew
  · exact h nodeId balance hnode

/-- **The balances stay whole**: what is stored is rounded. -/
theorem wholeBalances_step {db : CreditDb fold} (h : db.WholeBalances) (s : CreditStep) :
    (step round4 db s).WholeBalances := by
  obtain ⟨server, now, action⟩ := s
  cases action with
  | recordCreditAward nodeId amount taskId nonce =>
    show (recordCreditAwardOnce _ _ _ _ _ _ _ _).2.WholeBalances
    rcases recordCreditAwardOnce_cases round4 server now db nodeId amount taskId nonce with
      hsame | ⟨_, _, hsettles⟩
    · rw [hsame]
      exact h
    · exact wholeBalances_of_settles h hsettles (whole_round4 _)
  | debitNode consumerNodeId amount taskId reason =>
    show (debitNodeOnce _ _ _ _ _ _ _).2.WholeBalances
    rcases debitNodeOnce_cases round4 server db consumerNodeId amount taskId reason with
      hsame | ⟨_, _, _, _, _, hsettles⟩
    · rw [hsame]
      exact h
    · exact wholeBalances_of_settles h hsettles (whole_round4 _)
  | debitOperatorWallet consumerNodeId operatorPubkey amount taskId reason =>
    exact debitOperatorWalletOnce_invariant server now consumerNodeId operatorPubkey reason
      (fun _ _ _ _ _ _ _ hmid _ _ hsettles => wholeBalances_of_settles hmid hsettles
        (whole_round4 _)) h
  | expireIdleCredit nodeId expectedBalance =>
    show (expireIdleCreditOnce _ _ _ _ _).2.WholeBalances
    rcases expireIdleCreditOnce_cases round4 server db nodeId expectedBalance with
      hsame | ⟨_, hsettles⟩
    · rw [hsame]
      exact h
    · exact wholeBalances_of_settles h hsettles whole_zero
  | maybeAllocateFreeCredits nodeId ip =>
    show (maybeAllocateFreeCredits _ _ _ _ _ _).2.WholeBalances
    rcases maybeAllocateFreeCredits_cases round4 server now db nodeId ip with hsame | ⟨_, hsettles⟩
    · rw [hsame]
      exact h
    · exact wholeBalances_of_settles h hsettles (whole_round4 _)
  | register nodeId operatorPubkey =>
    show (if _ then _ else _ : CreditDb fold).WholeBalances
    split
    · intro other balance hnode
      rw [nodeBalance_registerNode] at hnode
      split at hnode
      · cases hold : db.nodeBalance nodeId with
        | none =>
          rw [hold] at hnode
          exact Option.some.inj hnode ▸ whole_zero
        | some old =>
          rw [hold] at hnode
          exact Option.some.inj hnode ▸ h nodeId old hold
      · exact h other balance hnode
    · exact h
  | deregister nodeId =>
    show (if _ then _ else _ : CreditDb fold).WholeBalances
    split
    · intro other balance hnode
      rw [nodeBalance_deregister] at hnode
      split at hnode
      · exact absurd hnode (by simp)
      · exact h other balance hnode
    · exact h

theorem expiries_congr (db : CreditDb fold) {a b : String} (h : fold a = fold b) :
    db.expiries a = db.expiries b := by
  unfold expiries earns entries
  rw [h]

/-! ## A transaction of a sweep -/

theorem upholdsExpiry_same (db : CreditDb fold) (now : ℤ) :
    SweepState.UpholdsExpiry db db now where
  idle := fun _ _ hnode hne => absurd hnode hne
  fresh := fun _ _ => rfl
  entry := Or.inl rfl

/-- The candidate was read before, with its earns. -/
structure IdleCandidate.Tracked (c : IdleCandidate) (now : ℤ) : Prop where
  newest : c.maxEarnExpiresAt = (c.earned.filterMap (·.expiresAt)).max?
  before : c.nowUnix ≤ now

/-- What was idle is idle, where nothing was earned since. -/
theorem idle_of_unearned {db : CreditDb fold} {c : IdleCandidate} {now : ℤ} (h : c.Tracked now)
    (hidle : c.idle = true) (hunearned : db.earns c.nodeId = c.earned) :
    creditTtlIdle (db.expiries c.nodeId).max? c.balance now = true := by
  have hnewest : (db.expiries c.nodeId).max? = c.maxEarnExpiresAt := by
    unfold expiries
    rw [hunearned, h.newest]
  unfold IdleCandidate.idle creditTtlIdle at hidle
  obtain ⟨hexpired, hpositive⟩ := Bool.and_eq_true_iff.mp hidle
  obtain ⟨expiry, hexpiry, hlt⟩ := (Option.any_eq_true _ _).mp hexpired
  unfold creditTtlIdle
  rw [hnewest, hexpiry, hpositive, Option.any_some, Bool.and_true]
  exact decide_eq_true ((of_decide_eq_true hlt).trans_le h.before)

/-- **A transaction of a sweep upholds what is asked of it** for a candidate
that has earned nothing since it was read. -/
theorem upholdsExpiry_expire {db : CreditDb fold} (hwhole : db.WholeBalances) {c : IdleCandidate}
    {now : ℤ} (h : c.Tracked now) (hidle : c.idle = true)
    (hunearned : db.nodeBalance c.nodeId = some c.balance → db.earns c.nodeId = c.earned)
    (server : Server) :
    SweepState.UpholdsExpiry db (expireIdleCreditOnce round4 server db c.nodeId c.balance).2
      now := by
  rcases expireIdleCreditOnce_cases round4 server db c.nodeId c.balance with
    hsame | ⟨hnode, hsettles⟩
  · rw [hsame]
    exact upholdsExpiry_same db now
  · rw [round4_of_whole (hwhole c.nodeId c.balance hnode)] at hsettles
    have hnow := idle_of_unearned h hidle (hunearned hnode)
    refine ⟨fun nodeId balance hbalance hchanged => ?_, fun nodeId hfresh => ?_,
      Or.inr ⟨c.nodeId, c.balance, hnode, hsettles⟩⟩
    · by_cases hid : fold nodeId = fold c.nodeId
      · rw [nodeBalance_congr db hid, hnode] at hbalance
        obtain rfl := Option.some.inj hbalance
        rw [expiries_congr db hid]
        exact hnow
      · exact absurd ((hsettles.node nodeId).trans ((if_neg hid).trans hbalance)) hchanged
    · by_cases hid : fold nodeId = fold c.nodeId
      · obtain ⟨expiry, hexpiry, hle⟩ := hfresh
        rw [expiries_congr db hid] at hexpiry
        obtain ⟨hexpired, _⟩ := Bool.and_eq_true_iff.mp hnow
        obtain ⟨newest, hnewest, hlt⟩ := (Option.any_eq_true _ _).mp hexpired
        have hmax := (List.max?_eq_some_iff.mp hnewest).2 expiry hexpiry
        exact absurd (hle.trans hmax) (not_le.mpr (of_decide_eq_true hlt))
      · exact (hsettles.node nodeId).trans (if_neg hid)

namespace SweepState

variable {ι : Type*} [DecidableEq ι]

/-! ## Sweeps -/

/-- **What an attempt does**: nothing to the tables, or one transaction for the
next candidate, if it is taken for idle; and no sweep has more to go
through. -/
theorem expire_cases (s : SweepState fold ι) (i : ι) (server : Server) (transient : Bool) :
    ((s.expire i server transient).db = s.db
        ∨ ∃ c ∈ (s.pending i).head?, c.idle = true
          ∧ (s.expire i server transient).db
            = (expireIdleCreditOnce round4 server s.db c.nodeId c.balance).2)
      ∧ (s.expire i server transient).now = s.now
      ∧ ∀ j, (s.expire i server transient).pending j ⊆ s.pending j := by
  unfold expire
  cases hpending : s.pending i with
  | nil => exact ⟨Or.inl rfl, rfl, fun j => List.Subset.refl _⟩
  | cons c rest =>
    have hnext : ∀ j, Function.update s.pending i rest j ⊆ s.pending j := by
      intro j
      by_cases hj : j = i
      · subst hj
        rw [Function.update_self, hpending]
        exact List.subset_cons_self c rest
      · rw [Function.update_of_ne hj]
        exact List.Subset.refl _
    dsimp only
    cases hidle : c.idle with
    | false => exact ⟨Or.inl rfl, rfl, hnext⟩
    | true =>
      rw [if_neg (by decide)]
      split
      · exact ⟨Or.inr ⟨c, rfl, hidle, rfl⟩, rfl, fun j => List.Subset.refl _⟩
      · exact ⟨Or.inr ⟨c, rfl, hidle, rfl⟩, rfl, hnext⟩

/-- The candidates were read before, each with its earns, and balances are
whole. -/
structure Inv (s : SweepState fold ι) : Prop where
  tracked : ∀ i, ∀ c ∈ s.pending i, c.Tracked s.now
  whole : s.db.WholeBalances

omit [DecidableEq ι] in
theorem inv_start {db : CreditDb fold} (h : db.WholeBalances) (now : ℤ) :
    (start db now : SweepState fold ι).Inv :=
  ⟨fun _ _ hc => absurd hc List.not_mem_nil, h⟩

omit [DecidableEq ι] in
/-- Time goes by. -/
theorem Inv.later {s : SweepState fold ι} (h : s.Inv) (elapsed : ℕ) :
    ({ s with now := s.now + elapsed } : SweepState fold ι).Inv where
  tracked := fun i c hc => ⟨(h.tracked i c hc).newest, by
    have hbefore := (h.tracked i c hc).before
    show c.nowUnix ≤ s.now + elapsed
    omega⟩
  whole := h.whole

theorem tracked_of_read {db : CreditDb fold} {now : ℤ} {c : IdleCandidate}
    (h : c ∈ db.idleCandidates now) : c.Tracked now := by
  obtain ⟨n, _, rfl⟩ := List.mem_map.mp h
  exact ⟨rfl, le_rfl⟩

/-- **Every step keeps it.** -/
theorem inv_step {s : SweepState fold ι} (h : s.Inv) (t : SweepStep ι) : (s.step t).Inv := by
  have hlater := h.later t.elapsed
  unfold step
  dsimp only
  split
  · next i _ =>
    split
    · refine ⟨fun j c hc => ?_, h.whole⟩
      have hread : c ∈ Function.update s.pending i
          (if t.server.answers then s.db.idleCandidates (s.now + t.elapsed) else []) j := hc
      by_cases hj : j = i
      · rw [hj, Function.update_self] at hread
        split at hread
        · exact tracked_of_read hread
        · exact absurd hread List.not_mem_nil
      · rw [Function.update_of_ne hj] at hread
        exact hlater.tracked j c hread
    · exact hlater
  · next i transient _ =>
    obtain ⟨hdb, hnow, hpending⟩ :=
      expire_cases { s with now := s.now + t.elapsed } i t.server transient
    refine ⟨fun j c hc => hnow ▸ hlater.tracked j c (hpending j hc), ?_⟩
    rcases hdb with hsame | ⟨c, _, _, hexpired⟩
    · rw [hsame]
      exact h.whole
    · rw [hexpired]
      exact wholeBalances_step h.whole ⟨t.server, s.now, .expireIdleCredit c.nodeId c.balance⟩
  · exact ⟨hlater.tracked, wholeBalances_step h.whole _⟩

/-- **A step of a sweep upholds what is asked of it** where the node has earned
nothing since it was read. -/
theorem upholds_of_unearned {s : SweepState fold ι} (h : s.Inv) {t : SweepStep ι}
    (hunearned : s.Unearned t) : s.Upholds t := by
  intro i transient haction
  have hlater := h.later t.elapsed
  have hstep : s.step t = expire { s with now := s.now + t.elapsed } i t.server transient := by
    unfold step
    rw [haction]
  have hbefore : ∀ c ∈ (s.pending i).head?, c.idle = true →
      s.db.nodeBalance c.nodeId = some c.balance → s.db.earns c.nodeId = c.earned := by
    unfold Unearned at hunearned
    rw [haction] at hunearned
    exact hunearned
  rw [hstep]
  obtain ⟨hsame | ⟨c, hc, hidle, hexpired⟩, _, _⟩ :=
    expire_cases { s with now := s.now + t.elapsed } i t.server transient
  · rw [hsame]
    exact upholdsExpiry_same s.db _
  · rw [hexpired]
    exact upholdsExpiry_expire h.whole (hlater.tracked i c (List.mem_of_mem_head? hc)) hidle
      (hbefore c hc hidle) t.server

/-- **Sweeps take only idle credit**: along every run in which no node earns
between the read of a sweep and its transaction, and is found with the
balance that was read, each transaction of a sweep takes credit only where it
has expired, and writes one entry of it. -/
theorem sweeps_upheld {db : CreditDb fold} (hwhole : db.WholeBalances) (now : ℤ)
    (steps : List (SweepStep ι)) (hunearned : Run.Along step Unearned (start db now) steps) :
    Run.Along step Upholds (start db now) steps := by
  refine Run.along_mono ?_ ?_ (inv_start hwhole now) hunearned
  · exact fun s t h _ => inv_step h t
  · exact fun s t h hs => upholds_of_unearned h hs

/-! ## Credit that is idle, and credit that is spent and earned again -/

/-- A node registers, is awarded ten credits, and is not heard of for longer
than they last. A sweep reads it. -/
def quietNode : List (SweepStep Unit) :=
  [⟨.call (.register "node" none), .willing, 0⟩,
   ⟨.call (.recordCreditAward "node" 10 "task-1" "nonce-1"), .willing, 0⟩,
   ⟨.read (), .willing, 91 * 86400⟩]

/-- The sweep takes its ten credits. -/
def sweepQuiet : SweepStep Unit := ⟨.expire () false, .willing, 1⟩

/-- The node spends its ten credits and is awarded ten others. -/
def spendAndEarn : List (SweepStep Unit) :=
  [⟨.call (.debitNode "node" 10 "task-2" "task_spend"), .willing, 1⟩,
   ⟨.call (.recordCreditAward "node" 10 "task-3" "nonce-2"), .willing, 1⟩]

theorem wholeBalances_empty : (CreditDb.empty fold).WholeBalances :=
  fun _ _ h => absurd h (Option.some_ne_none _).symm

/-- Of a node that stays quiet the sweep takes credit, and only what is idle. -/
theorem sweeps_upheld_quiet :
    (Run.Along step Unearned (start (.empty id) 0) (quietNode ++ [sweepQuiet])
        ∧ (Run.after step (start (.empty id) 0) (quietNode ++ [sweepQuiet])).db.nodeBalance "node"
          = some 0)
      ∧ Run.Along step Upholds (start (.empty id) 0) (quietNode ++ [sweepQuiet]) := by
  have hunearned : Run.Along step Unearned (start (.empty id) 0) (quietNode ++ [sweepQuiet]) := by
    decide +kernel
  exact ⟨⟨hunearned, by decide +kernel⟩, sweeps_upheld wholeBalances_empty 0 _ hunearned⟩

/-- **A sweep takes what was earned after it had read**: the balance is the same
again, and the credit lasts for ninety days to come. -/
theorem sweep_takes_fresh :
    ¬ ∀ (db : CreditDb id) (now : ℤ) (steps : List (SweepStep Unit)), db.WholeBalances →
      Run.Along step Upholds (start db now) steps := by
  intro h
  have hrun := h (.empty id) 0 (quietNode ++ spendAndEarn ++ [sweepQuiet]) wholeBalances_empty
  obtain ⟨_, hsweep, _⟩ := (Run.along_append _ _ _ (quietNode ++ spendAndEarn) _).mp hrun
  have hkept := (hsweep () false rfl).fresh "node" ⟨91 * 86400 + 2 + 90 * 86400, by decide +kernel,
    by decide +kernel⟩
  exact absurd hkept (by decide +kernel)

end SweepState

end CreditDb
