import IicpDirectory.Foundations.Gates
import IicpDirectory.Seed.Settlement
import IicpDirectory.Seed.Spending

/-!
# Free credit under concurrent heartbeats

A heartbeat may be given free credit, once in six hours a node and once in
six hours an address. `maybe_allocate_free_credits` makes the rows of the two
gates, reads them with `FOR UPDATE` and writes them, statement by statement,
in one transaction. Here each statement is a step of its own: any number of
calls are under way, each somewhere between two statements, and what one has
written others see when it commits. What keeps them apart are the row locks,
which the first two statements take, for rows that have just been made too,
and which are given back at the end.

Every other transaction on credit, and every registration and removal, is one
step, and waits while a row it writes is locked. The clock moves at any time,
also between two statements of a call, and never back.

The gates hold by the time they are stamped with (`FreeCreditPool.gated`),
not by the time of the commit, which comes later; and an allocation whose
commit is lost happens all the same, while its heartbeat is told that there
was none.
-/

/-! ## Gates in the tables -/

namespace CreditDb

variable {fold : String → String}

/-- `credits.free_credit_last_allocation_at`, of the row with a key. -/
def allocatedAt (db : CreditDb fold) (key : String) : Option ℤ :=
  (db.credits.find key).bind (·.freeCreditLastAllocationAt)

/-- `credit_ip_gates.last_allocation_at`. -/
def gatePassedAt (db : CreditDb fold) (key : String) : Option ℤ :=
  (db.creditIpGates.find key).bind (·.lastAllocationAt)

/-- What a node has in `credits`, where its row is made if it has none. -/
def ledger (db : CreditDb fold) (nodeId : String) : ℚ := (db.accountBalance nodeId).getD 0

/-- **The gates are as they were.** -/
structure SameGates (db db' : CreditDb fold) : Prop where
  nodes : ∀ key, db'.allocatedAt key = db.allocatedAt key
  ips : db'.creditIpGates = db.creditIpGates

theorem SameGates.refl (db : CreditDb fold) : SameGates db db := ⟨fun _ => rfl, rfl⟩

theorem SameGates.trans {db mid db' : CreditDb fold} (h : SameGates db mid)
    (h' : SameGates mid db') : SameGates db db' :=
  ⟨fun key => (h'.nodes key).trans (h.nodes key), h'.ips.trans h.ips⟩

theorem sameGates_updateNode (db : CreditDb fold) (nodeId : String) {f : WalletNode → WalletNode}
    (hf : ∀ n, (f n).id = n.id) : SameGates db (db.updateNode nodeId f hf) := ⟨fun _ => rfl, rfl⟩

/-- What an update of a row of `credits` makes of its gate. -/
theorem allocatedAt_updateAccount (db : CreditDb fold) (nodeId : String)
    {f : CreditAccount → CreditAccount} (hf : ∀ c, (f c).nodeId = c.nodeId) (key : String) :
    (db.updateAccount nodeId f hf).allocatedAt key
      = if key = fold nodeId then
          (db.credits.find key).bind fun c => (f c).freeCreditLastAllocationAt
        else db.allocatedAt key := by
  show ((db.credits.update _ f fun c => congrArg fold (hf c)).find key).bind _ = _
  rw [Table.find_update]
  split
  · exact Option.bind_map ..
  · rfl

/-- What passing a gate makes of the gates. -/
theorem gatePassedAt_passGate (db : CreditDb fold) (now : ℤ) (ip key : String) :
    (db.passGate now ip).gatePassedAt key
      = if key = fold ip then (db.creditIpGates.find key).map fun _ => now
        else db.gatePassedAt key := by
  unfold gatePassedAt passGate
  dsimp only
  rw [Table.find_update]
  split
  · rw [Option.bind_map]
    cases db.creditIpGates.find key <;> rfl
  · rfl

/-- An update of `nodes` takes no row away and brings none. -/
theorem isSome_node_updateNode (db : CreditDb fold) (nodeId : String) {f : WalletNode → WalletNode}
    (hf : ∀ n, (f n).id = n.id) (other : String) :
    ((db.updateNode nodeId f hf).node other).isSome = (db.node other).isSome := by
  unfold node updateNode
  dsimp only
  rw [Table.find_update]
  split
  · exact Option.isSome_map
  · rfl

theorem sameGates_updateAccount (db : CreditDb fold) (nodeId : String)
    {f : CreditAccount → CreditAccount} (hf : ∀ c, (f c).nodeId = c.nodeId)
    (hlast : ∀ c, (f c).freeCreditLastAllocationAt = c.freeCreditLastAllocationAt) :
    SameGates db (db.updateAccount nodeId f hf) := by
  refine ⟨fun key => ?_, rfl⟩
  rw [allocatedAt_updateAccount]
  split
  · exact Option.bind_congr fun c _ => hlast c
  · rfl

theorem sameGates_ensureAccount (db : CreditDb fold) (nodeId : String) (balance : ℚ) :
    SameGates db (db.ensureAccount nodeId balance) := by
  refine ⟨fun key => ?_, rfl⟩
  show ((db.credits.upsert _ id _).find key).bind _ = _
  rw [Table.find_upsert]
  split
  · next hkey =>
    unfold allocatedAt
    rw [hkey]
    cases db.credits.find (fold nodeId) <;> rfl
  · rfl

theorem sameGates_insertEntry {db db' : CreditDb fold} {e : CreditEntry}
    (h : db.insertEntry e = some db') : SameGates db db' := by
  obtain ⟨-, hcredits, hgates, -⟩ := rows_insertEntry h
  refine ⟨fun key => ?_, hgates⟩
  unfold allocatedAt
  rw [hcredits]

theorem sameGates_updateJoined {db db' : CreditDb fold} {nodeId : String} {meets : ℚ → ℚ → Prop}
    [∀ n c, Decidable (meets n c)] {f : ℚ → ℚ} (h : db.updateJoined nodeId meets f = some db') :
    SameGates db db' := by
  unfold updateJoined at h
  split at h
  · split at h
    · obtain rfl := Option.some.inj h
      exact (sameGates_updateNode db nodeId _).trans
        (sameGates_updateAccount _ nodeId _ fun _ => rfl)
    · exact absurd h (by simp)
  · exact absurd h (by simp)

/-- Statements that leave the gates leave them one after the other. -/
theorem sameGates_foldlM {body : List (CreditDb fold → Option (CreditDb fold))}
    (hbody : ∀ statement ∈ body, ∀ db db', statement db = some db' → SameGates db db')
    {db db' : CreditDb fold} (h : body.foldlM (fun s statement => statement s) db = some db') :
    SameGates db db' := by
  induction body generalizing db with
  | nil =>
    obtain rfl := Option.some.inj h
    exact .refl db
  | cons statement rest ih =>
    obtain ⟨mid, hfirst, hrest⟩ := Option.bind_eq_some_iff.mp h
    exact (hbody statement List.mem_cons_self db mid hfirst).trans
      (ih (fun s hs => hbody s (List.mem_cons_of_mem _ hs)) hrest)

/-- A transaction of such statements leaves them. -/
theorem sameGates_run {body : List (CreditDb fold → Option (CreditDb fold))}
    (hbody : ∀ statement ∈ body, ∀ db db', statement db = some db' → SameGates db db')
    (server : Server) (db : CreditDb fold) : SameGates db (Transaction.run server body db).2 := by
  rcases Transaction.snd_run_cases server body db with hsame | hrun
  · rw [hsame]
    exact .refl db
  · exact sameGates_foldlM hbody hrun

/-- A check changes nothing. -/
theorem sameGates_of_check {db db' : CreditDb fold} {p : Prop} [Decidable p]
    (h : (if p then none else some db) = some db') : SameGates db db' := by
  split at h
  · exact absurd h (by simp)
  · exact Option.some.inj h ▸ .refl db

theorem sameGates_award (store : ℚ → ℚ) (server : Server) (now : ℤ) (db : CreditDb fold)
    (nodeId : String) (amount : ℚ) (taskId nonce : String) :
    SameGates db (recordCreditAwardOnce store server now db nodeId amount taskId nonce).2 := by
  unfold recordCreditAwardOnce
  split
  · exact .refl db
  · split
    · exact .refl db
    · refine sameGates_run (fun statement hmem s s' h => ?_) server db
      simp only [awardBody, List.mem_cons, List.not_mem_nil, or_false] at hmem
      rcases hmem with rfl | rfl | rfl | rfl | rfl | rfl
      · exact Option.some.inj h ▸ .refl s
      · exact Option.some.inj h ▸ sameGates_ensureAccount s nodeId _
      · exact sameGates_of_check h
      · exact sameGates_insertEntry h
      · obtain rfl := Option.some.inj h
        exact sameGates_updateAccount s nodeId _ fun _ => rfl
      · obtain rfl := Option.some.inj h
        exact sameGates_updateNode s nodeId _

theorem sameGates_debitNode (store : ℚ → ℚ) (server : Server) (db : CreditDb fold)
    (consumerNodeId : String) (amount : ℚ) (taskId reason : String) :
    SameGates db (debitNodeOnce store server db consumerNodeId amount taskId reason).2 := by
  unfold debitNodeOnce
  split
  · exact .refl db
  · split
    · exact .refl db
    · refine sameGates_run (fun statement hmem s s' h => ?_) server db
      simp only [debitNodeBody, List.mem_cons, List.not_mem_nil, or_false] at hmem
      rcases hmem with rfl | rfl
      · exact sameGates_updateJoined h
      · exact sameGates_insertEntry h

theorem sameGates_debitOperatorWallet (store : ℚ → ℚ) (server : Server) (now : ℤ)
    (db : CreditDb fold) (consumerNodeId operatorPubkey : String) (amount : ℚ)
    (taskId reason : String) :
    SameGates db (debitOperatorWalletOnce store server now db consumerNodeId operatorPubkey amount
      taskId reason).2 := by
  unfold debitOperatorWalletOnce
  split
  · exact .refl db
  · dsimp only
    split
    · exact .refl db
    · split
      · exact .refl db
      · refine sameGates_run (fun statement hmem s s' h => ?_) server db
        rcases List.mem_cons.mp hmem with rfl | hmem
        · exact Option.some.inj h ▸ .refl s
        · obtain ⟨p, -, hmem⟩ := List.mem_flatMap.mp hmem
          simp only [takeBody, List.mem_cons, List.not_mem_nil, or_false] at hmem
          rcases hmem with rfl | rfl | rfl
          · dsimp only at h
            split at h
            · exact sameGates_of_check h
            · exact absurd h (by simp)
          · exact sameGates_updateJoined h
          · obtain ⟨reason', -, hentry⟩ := Option.bind_eq_some_iff.mp h
            exact sameGates_insertEntry hentry

theorem sameGates_expire (store : ℚ → ℚ) (server : Server) (db : CreditDb fold)
    (nodeId : String) (expectedBalance : ℚ) :
    SameGates db (expireIdleCreditOnce store server db nodeId expectedBalance).2 := by
  unfold expireIdleCreditOnce
  refine sameGates_run (fun statement hmem s s' h => ?_) server db
  simp only [expireBody, List.mem_cons, List.not_mem_nil, or_false] at hmem
  rcases hmem with rfl | rfl
  · exact sameGates_updateJoined h
  · exact sameGates_insertEntry h

/-- **The row of `credits` a call finds**: the one there is, or one that has
nothing. -/
theorem account_ensureAccount (db : CreditDb fold) (nodeId : String) :
    ∃ c, (db.ensureAccount nodeId 0).account nodeId = some c ∧ c.balance = db.ledger nodeId
      ∧ c.freeCreditLastAllocationAt = db.allocatedAt (fold nodeId) := by
  have hrow : (db.ensureAccount nodeId 0).account nodeId
      = some ((db.credits.find (fold nodeId)).getD ⟨nodeId, 0, none⟩) := by
    show (db.credits.upsert _ id _).find _ = _
    rw [Table.find_upsert, if_pos rfl, Option.map_id]
    rfl
  refine ⟨_, hrow, ?_, ?_⟩
  · unfold ledger accountBalance account
    cases db.credits.find (fold nodeId) <;> rfl
  · unfold allocatedAt
    cases db.credits.find (fold nodeId) <;> rfl

/-- The row of an address it finds is the one there is, or one never
passed. -/
theorem find_ensureGate {db db' : CreditDb fold} {ip : String} (h : db.ensureGate ip = some db') :
    ∃ g, db'.creditIpGates.find (fold ip) = some g
      ∧ g.lastAllocationAt = db.gatePassedAt (fold ip) := by
  unfold ensureGate at h
  split at h
  · obtain rfl := Option.some.inj h
    have hrow : (db.creditIpGates.upsert ⟨ip, none, 0⟩ id fun _ => rfl).find (fold ip)
        = some ((db.creditIpGates.find (fold ip)).getD ⟨ip, none, 0⟩) := by
      rw [Table.find_upsert, if_pos rfl, Option.map_id]
      rfl
    refine ⟨_, hrow, ?_⟩
    unfold gatePassedAt
    cases db.creditIpGates.find (fold ip) <;> rfl
  · exact absurd h (by simp)

/-- **A node is as it was**, if it is registered and in its balances. -/
structure SameNode (db db' : CreditDb fold) (nodeId : String) : Prop where
  node : db'.nodeBalance nodeId = db.nodeBalance nodeId
  account : db'.accountBalance nodeId = db.accountBalance nodeId

theorem SameNode.refl (db : CreditDb fold) (nodeId : String) : SameNode db db nodeId := ⟨rfl, rfl⟩

/-- What settles one node leaves the others as they were. -/
theorem SameNode.of_settles {db db' : CreditDb fold} {e : CreditEntry} {balance ledger : ℚ}
    (h : Settles db db' e balance ledger) {nodeId : String} (hne : fold nodeId ≠ fold e.nodeId) :
    SameNode db db' nodeId :=
  ⟨(h.node nodeId).trans (if_neg hne), (h.account nodeId).trans (if_neg hne)⟩

theorem sameNode_award (store : ℚ → ℚ) (server : Server) (now : ℤ) (db : CreditDb fold)
    {nodeId other : String} (amount : ℚ) (taskId nonce : String) (hne : fold other ≠ fold nodeId) :
    SameNode db (recordCreditAwardOnce store server now db nodeId amount taskId nonce).2 other := by
  rcases recordCreditAwardOnce_cases store server now db nodeId amount taskId nonce with
    hsame | ⟨_, _, hsettles⟩
  · rw [hsame]
    exact .refl db other
  · exact .of_settles hsettles hne

theorem sameNode_debitNode (store : ℚ → ℚ) (server : Server) (db : CreditDb fold)
    {consumerNodeId other : String} (amount : ℚ) (taskId reason : String)
    (hne : fold other ≠ fold consumerNodeId) :
    SameNode db (debitNodeOnce store server db consumerNodeId amount taskId reason).2 other := by
  rcases debitNodeOnce_cases store server db consumerNodeId amount taskId reason with
    hsame | ⟨_, _, _, _, _, hsettles⟩
  · rw [hsame]
    exact .refl db other
  · exact .of_settles hsettles hne

theorem sameNode_debitOperatorWallet (store : ℚ → ℚ) (server : Server) (now : ℤ)
    (db : CreditDb fold) (consumerNodeId operatorPubkey : String) (amount : ℚ)
    (taskId reason : String) {other : String}
    (hne : ∀ c ∈ db.candidates now operatorPubkey, fold other ≠ fold c.nodeId) :
    SameNode db (debitOperatorWalletOnce store server now db consumerNodeId operatorPubkey amount
      taskId reason).2 other := by
  refine @debitOperatorWalletOnce_invariant _ _ (fun s => SameNode db s other) server now db
    consumerNodeId operatorPubkey _ _ reason (fun _ => ?_) (.refl db other)
  intro mid mid' p _ _ hp hmid _ _ hsettles
  have hcandidate : p.1 ∈ db.candidates now operatorPubkey :=
    (fst_allocate_of_append amount _).subset (List.mem_map_of_mem hp)
  have hstep : SameNode mid mid' other := .of_settles hsettles (hne p.1 hcandidate)
  exact ⟨hstep.node.trans hmid.node, hstep.account.trans hmid.account⟩

theorem sameNode_expire (store : ℚ → ℚ) (server : Server) (db : CreditDb fold)
    {nodeId other : String} (expectedBalance : ℚ) (hne : fold other ≠ fold nodeId) :
    SameNode db (expireIdleCreditOnce store server db nodeId expectedBalance).2 other := by
  rcases expireIdleCreditOnce_cases store server db nodeId expectedBalance with
    hsame | ⟨_, hsettles⟩
  · rw [hsame]
    exact .refl db other
  · exact .of_settles hsettles hne

theorem node_registerNode_of_ne (db : CreditDb fold) {nodeId other : String}
    (operatorPubkey : Option String) (hne : fold other ≠ fold nodeId) :
    (db.registerNode nodeId operatorPubkey).node other = db.node other := by
  show (db.nodes.upsert _ _ _).find _ = _
  rw [Table.find_upsert]
  exact if_neg hne

theorem node_deregister_of_ne (db : CreditDb fold) {nodeId other : String}
    (hne : fold other ≠ fold nodeId) : (db.deregister nodeId).node other = db.node other := by
  show (db.nodes.delete _).find _ = _
  rw [Table.find_delete]
  exact if_neg hne

end CreditDb

/-! ## Calls under way -/

/-- What a heartbeat gives to `maybe_allocate_free_credits`. -/
structure FreeCreditRequest where
  nodeId : String
  ip : String

/-- What a call has written: the balance it read, and the times at which it
wrote the row of `credits`, the entry, the row of `nodes` and the gate. -/
structure FreeCreditWrites where
  balance : ℚ
  accountAt : ℤ
  entryAt : ℤ
  nodeAt : ℤ
  gateAt : ℤ
  deriving DecidableEq

/-- Where a call is: the statement it sends next, with what the ones before it
have found and written, or what it has returned. -/
inductive FreeCreditPhase
  | begins
  | ensuresAccount
  | ensuresGate
  | readsAccount
  | readsGate (account : Option (ℚ × Bool))
  | updatesAccount (balance : ℚ)
  | insertsEntry (balance : ℚ) (accountAt : ℤ)
  | updatesNode (balance : ℚ) (accountAt entryAt : ℤ)
  | updatesGate (balance : ℚ) (accountAt entryAt nodeAt : ℤ)
  | commits (writes : FreeCreditWrites)
  | returned (amount : ℚ)
  deriving DecidableEq

namespace FreeCreditPhase

/-- The row of `credits` is locked. -/
def LocksAccount : FreeCreditPhase → Prop
  | .begins | .ensuresAccount | .returned _ => False
  | _ => True

/-- The row of `credit_ip_gates` is locked. -/
def LocksGate : FreeCreditPhase → Prop
  | .begins | .ensuresAccount | .ensuresGate | .returned _ => False
  | _ => True

/-- The row of `nodes` is locked, first by the foreign key of the entry. -/
def LocksNode : FreeCreditPhase → Prop
  | .updatesNode .. | .updatesGate .. | .commits _ => True
  | _ => False

end FreeCreditPhase

/-- Who has which row locked, by key. -/
abbrev RowLocks (ι : Type*) := String → Option ι

namespace RowLocks

variable {ι : Type*} [DecidableEq ι]

/-- Nobody else has the row locked. -/
def freeFor (locks : RowLocks ι) (key : String) (i : ι) : Bool :=
  (locks key).all fun j => decide (j = i)

/-- The row is locked. -/
def grab (locks : RowLocks ι) (key : String) (i : ι) : RowLocks ι :=
  Function.update locks key (some i)

/-- The end of a transaction gives back what it has locked. -/
def giveBack (locks : RowLocks ι) (i : ι) : RowLocks ι := fun key =>
  (locks key).filter fun j => decide (j ≠ i)

omit [DecidableEq ι] in
theorem grab_self (locks : RowLocks ι) (key : String) (i : ι) : locks.grab key i key = some i :=
  Function.update_self key _ locks

/-- A row is not taken from another call. -/
theorem grab_of_ne {locks : RowLocks ι} {key key' : String} {i j : ι}
    (hfree : locks.freeFor key i = true) (hne : j ≠ i) (h : locks key' = some j) :
    locks.grab key i key' = some j := by
  have hkey : key' ≠ key := by
    rintro rfl
    rw [freeFor, h] at hfree
    exact hne (by simpa using hfree)
  exact (Function.update_of_ne hkey _ locks).trans h

theorem giveBack_of_ne {locks : RowLocks ι} {key : String} {i j : ι} (hne : j ≠ i)
    (h : locks key = some j) : locks.giveBack i key = some j := by
  rw [giveBack, h]
  exact if_pos (decide_eq_true hne)

end RowLocks

/-- **An allocation that was committed**: of which call, the balance in
`credits` it replaced, the times its gates were stamped with and that of its
commit, and whether the commit was answered. -/
structure FreeCreditAllocation (ι : Type*) where
  call : ι
  ledger : ℚ
  accountAt : ℤ
  gateAt : ℤ
  committedAt : ℤ
  heard : Bool

/-- **The tables, the clock and any number of calls**, with the row locks they
have. -/
structure FreeCreditPool (ι : Type*) (fold : String → String) where
  db : CreditDb fold
  now : ℤ
  phase : ι → FreeCreditPhase
  accountLocks : RowLocks ι
  gateLocks : RowLocks ι
  nodeLocks : RowLocks ι
  allocations : List (FreeCreditAllocation ι)

/-- What happens: a statement of a call, which the server may refuse, the
commit of a call, another transaction, and the clock moving on. -/
inductive FreeCreditAction (ι : Type*)
  | statement (i : ι) (fails : Bool)
  | commit (i : ι) (answer : CommitAnswer)
  | settle (server : Server) (action : CreditDb.CreditAction)
  | tick (seconds : ℕ)

namespace FreeCreditPool

variable {ι : Type*} {fold : String → String}

/-- Every call is yet to come. -/
def idle (ι : Type*) (db : CreditDb fold) (now : ℤ) : FreeCreditPool ι fold :=
  ⟨db, now, fun _ => .begins, fun _ => none, fun _ => none, fun _ => none, []⟩

variable [DecidableEq ι] (requests : ι → FreeCreditRequest) (store : ℚ → ℚ)
  (s : FreeCreditPool ι fold)

/-- A call goes on. -/
def goOn (i : ι) (phase : FreeCreditPhase) : FreeCreditPool ι fold :=
  { s with phase := Function.update s.phase i phase }

/-- A call returns, and its transaction is over. -/
def finish (i : ι) (amount : ℚ) : FreeCreditPool ι fold :=
  { s with
    phase := Function.update s.phase i (.returned amount)
    accountLocks := s.accountLocks.giveBack i
    gateLocks := s.gateLocks.giveBack i
    nodeLocks := s.nodeLocks.giveBack i }

/-- The row of `credits` as a call reads it: there, or made by the call. -/
def readAccount (r : FreeCreditRequest) : Option (ℚ × Bool) :=
  ((s.db.ensureAccount r.nodeId 0).account r.nodeId).map fun c =>
    (c.balance, decide (CreditDb.Blocked s.now c.freeCreditLastAllocationAt))

/-- The row of `credit_ip_gates` as a call reads it. -/
def readGate (r : FreeCreditRequest) : Option Bool :=
  (s.db.ensureGate r.ip).bind fun db =>
    (db.creditIpGates.find (fold r.ip)).map fun g =>
      decide (CreditDb.Blocked s.now g.lastAllocationAt)

/-- The checks between the reads and the writes. -/
def check (i : ι) (account : Option (ℚ × Bool)) (ipBlocked : Option Bool) :
    FreeCreditPool ι fold :=
  match account with
  | none => s.finish i 0
  | some (balance, nodeBlocked) =>
    if 0 < balance ∨ nodeBlocked = true ∨ ipBlocked.getD true = true then s.finish i 0
    else s.goOn i (.updatesAccount balance)

/-- **The next statement of a call.** It waits for a row that is locked; one
that is refused ends the call, but for the two reads, which then have found
nothing. -/
def statement (i : ι) (fails : Bool) : FreeCreditPool ι fold :=
  let r := requests i
  match s.phase i with
  | .begins => if fails then s.finish i 0 else s.goOn i .ensuresAccount
  | .ensuresAccount =>
    if fails then s.finish i 0
    else if s.accountLocks.freeFor (fold r.nodeId) i then
      { s.goOn i .ensuresGate with accountLocks := s.accountLocks.grab (fold r.nodeId) i }
    else s
  | .ensuresGate =>
    if fails || (s.db.ensureGate r.ip).isNone then s.finish i 0
    else if s.gateLocks.freeFor (fold r.ip) i then
      { s.goOn i .readsAccount with gateLocks := s.gateLocks.grab (fold r.ip) i }
    else s
  | .readsAccount => s.goOn i (.readsGate (if fails then none else s.readAccount r))
  | .readsGate account => s.check i account (if fails then none else s.readGate r)
  | .updatesAccount balance =>
    if fails then s.finish i 0 else s.goOn i (.insertsEntry balance s.now)
  | .insertsEntry balance accountAt =>
    if fails || (s.db.insertEntry (CreditDb.freeEntry store s.now r.nodeId)).isNone then
      s.finish i 0
    else if s.nodeLocks.freeFor (fold r.nodeId) i then
      { s.goOn i (.updatesNode balance accountAt s.now) with
        nodeLocks := s.nodeLocks.grab (fold r.nodeId) i }
    else s
  | .updatesNode balance accountAt entryAt =>
    if fails || (s.db.node r.nodeId).isNone then s.finish i 0
    else s.goOn i (.updatesGate balance accountAt entryAt s.now)
  | .updatesGate balance accountAt entryAt nodeAt =>
    if fails then s.finish i 0
    else s.goOn i (.commits ⟨balance, accountAt, entryAt, nodeAt, s.now⟩)
  | .commits _ => s
  | .returned _ => s

/-- What the writes of a call make of the tables. -/
def apply (r : FreeCreditRequest) (w : FreeCreditWrites) (db : CreditDb fold) :
    Option (CreditDb fold) :=
  ((db.ensureAccount r.nodeId 0).ensureGate r.ip).bind fun db =>
    ((db.updateAccount r.nodeId
        (fun c => { c with
          balance := store (w.balance + 100)
          freeCreditLastAllocationAt := some w.accountAt }) fun _ => rfl).insertEntry
      (CreditDb.freeEntry store w.entryAt r.nodeId)).map fun db =>
      (db.updateNode r.nodeId
        (fun n => { n with
          creditBalance := store (w.balance + 100)
          freeCreditLastAllocationAt := some w.nodeAt }) fun _ => rfl).passGate w.gateAt r.ip

/-- The commit of a call. -/
def commit (i : ι) (answer : CommitAnswer) : FreeCreditPool ι fold :=
  match s.phase i with
  | .commits w =>
    match apply store (requests i) w s.db with
    | some db =>
      if answer = .refused then s.finish i 0
      else
        { s.finish i (if answer = .done then 100 else 0) with
          db := db
          allocations :=
            ⟨i, s.db.ledger (requests i).nodeId, w.accountAt, w.gateAt, s.now,
              decide (answer = .done)⟩ :: s.allocations }
    | none => s.finish i 0
  | _ => s

omit [DecidableEq ι] in
/-- A row of this node is locked. -/
def busy (nodeId : String) : Bool :=
  (s.accountLocks (fold nodeId)).isSome || (s.nodeLocks (fold nodeId)).isSome

omit [DecidableEq ι] in
/-- A transaction waits while a row it writes is locked. Allocations are the
calls' own. -/
def waits : CreditDb.CreditAction → Bool
  | .recordCreditAward nodeId _ _ _ => s.busy nodeId
  | .debitNode consumerNodeId _ _ _ => s.busy consumerNodeId
  | .debitOperatorWallet _ operatorPubkey _ _ _ =>
    (s.db.candidates s.now operatorPubkey).any fun c => s.busy c.nodeId
  | .expireIdleCredit nodeId _ => s.busy nodeId
  | .maybeAllocateFreeCredits _ _ => true
  | .register nodeId _ => (s.nodeLocks (fold nodeId)).isSome
  | .deregister nodeId => (s.nodeLocks (fold nodeId)).isSome

/-- **One step.** -/
def step : FreeCreditAction ι → FreeCreditPool ι fold
  | .statement i fails => s.statement requests store i fails
  | .commit i answer => s.commit requests store i answer
  | .settle server action =>
    if s.waits action then s else { s with db := s.db.step store ⟨server, s.now, action⟩ }
  | .tick seconds => { s with now := s.now + seconds }

/-! ## What a call reads and writes -/

variable {requests store s}

omit [DecidableEq ι] in
theorem readAccount_eq (r : FreeCreditRequest) :
    s.readAccount r = some (s.db.ledger r.nodeId,
      decide (CreditDb.Blocked s.now (s.db.allocatedAt (fold r.nodeId)))) := by
  obtain ⟨c, hrow, hbalance, hlast⟩ := s.db.account_ensureAccount r.nodeId
  unfold readAccount
  rw [hrow, Option.map_some, hbalance, hlast]

omit [DecidableEq ι] in
theorem readGate_eq {r : FreeCreditRequest} (hfits : r.ip.length ≤ 45) :
    s.readGate r
      = some (decide (CreditDb.Blocked s.now (s.db.gatePassedAt (fold r.ip)))) := by
  have hensured : ∃ db, s.db.ensureGate r.ip = some db := ⟨_, if_pos hfits⟩
  obtain ⟨db, hdb⟩ := hensured
  obtain ⟨g, hrow, hlast⟩ := CreditDb.find_ensureGate hdb
  unfold readGate
  rw [hdb, Option.bind_some, hrow, Option.map_some, hlast]

/-- **What a call writes**: it stamps its two gates and no others, changes the
balance of its node and of no other, and no node comes or goes. -/
structure Stamped (r : FreeCreditRequest) (w : FreeCreditWrites) (db db' : CreditDb fold) :
    Prop where
  allocatedAt : ∀ key, db'.allocatedAt key
    = if key = fold r.nodeId then some w.accountAt else db.allocatedAt key
  gatePassedAt : ∀ key, db'.gatePassedAt key
    = if key = fold r.ip then some w.gateAt else db.gatePassedAt key
  account : ∀ other, fold other ≠ fold r.nodeId →
    db'.accountBalance other = db.accountBalance other
  node : ∀ other, (db'.node other).isSome = (db.node other).isSome

theorem stamped_of_apply {r : FreeCreditRequest} {w : FreeCreditWrites} {db db' : CreditDb fold}
    (h : apply store r w db = some db') : Stamped r w db db' := by
  obtain ⟨gated, hgated, hrest⟩ := Option.bind_eq_some_iff.mp h
  obtain ⟨mid, hentry, rfl⟩ := Option.map_eq_some_iff.mp hrest
  obtain ⟨hnodes, hcredits, hgates, -⟩ := CreditDb.rows_insertEntry hentry
  unfold CreditDb.ensureGate at hgated
  split at hgated
  · obtain rfl := Option.some.inj hgated
    refine ⟨fun key => ?_, fun key => ?_, fun other hne => ?_, fun other => ?_⟩
    · refine (congrArg (fun t => (Table.find t key).bind CreditAccount.freeCreditLastAllocationAt)
        hcredits).trans ?_
      refine (CreditDb.allocatedAt_updateAccount _ r.nodeId _ key).trans ?_
      show (if _ then ((db.credits.upsert _ id _).find key).bind _
        else ((db.credits.upsert _ id _).find key).bind _) = _
      rw [Table.find_upsert]
      split
      · rfl
      · rfl
    · refine (CreditDb.gatePassedAt_passGate _ w.gateAt r.ip key).trans ?_
      show (if _ then (mid.creditIpGates.find key).map _ else (mid.creditIpGates.find key).bind _) = _
      rw [hgates]
      show (if _ then ((db.creditIpGates.upsert _ id _).find key).map _
        else ((db.creditIpGates.upsert _ id _).find key).bind _) = _
      rw [Table.find_upsert]
      split
      · rfl
      · rfl
    · refine (congrArg (fun t => (Table.find t (fold other)).map CreditAccount.balance)
        hcredits).trans ?_
      refine (CreditDb.accountBalance_updateAccount _ r.nodeId _ other).trans ?_
      rw [if_neg hne]
      refine (CreditDb.accountBalance_ensureAccount db r.nodeId 0 other).trans ?_
      rw [if_neg hne]
    · show ((mid.updateNode r.nodeId (fun n => { n with
          creditBalance := store (w.balance + 100)
          freeCreditLastAllocationAt := some w.nodeAt }) fun _ => rfl).node other).isSome = _
      rw [CreditDb.isSome_node_updateNode]
      exact congrArg (fun t => (Table.find t (fold other)).isSome) hnodes
  · exact absurd hgated (by simp)

/-! ## A call that nobody is in the way of -/

section Whole

open CreditDb

/-- A request is let on: its node has no credit, and both gates are open. -/
def LetOn (db : CreditDb fold) (now : ℤ) (r : FreeCreditRequest) : Prop :=
  ¬ (0 < db.ledger r.nodeId ∨ Blocked now (db.allocatedAt (fold r.nodeId)))
    ∧ ¬ Blocked now (db.gatePassedAt (fold r.ip))

instance (db : CreditDb fold) (now : ℤ) (r : FreeCreditRequest) : Decidable (LetOn db now r) :=
  inferInstanceAs (Decidable (_ ∧ _))

/-- An entry that cannot be inserted before cannot be with the rest. -/
theorem apply_eq_none {r : FreeCreditRequest} {w : FreeCreditWrites} {db : CreditDb fold}
    (h : db.insertEntry (freeEntry store w.entryAt r.nodeId) = none) :
    apply store r w db = none := by
  by_contra hsome
  obtain ⟨db', hdb'⟩ := Option.ne_none_iff_exists'.mp hsome
  obtain ⟨gated, hgated, hrest⟩ := Option.bind_eq_some_iff.mp hdb'
  obtain ⟨mid, hentry, -⟩ := Option.map_eq_some_iff.mp hrest
  obtain ⟨hn, -, ht⟩ := ensureGate_frame hgated
  obtain ⟨hnode, hfits, hclash⟩ := insertEntry_isSome_iff.mp (Option.isSome_of_eq_some hentry)
  have hbefore : (db.insertEntry (freeEntry store w.entryAt r.nodeId)).isSome := by
    refine insertEntry_isSome_iff.mpr ⟨?_, hfits, ?_⟩
    · exact (congrArg (fun t => (Table.find t (fold r.nodeId)).isSome) hn).symm.trans hnode
    · exact (show db.creditTransactions = gated.creditTransactions from ht.symm) ▸ hclash
  rw [h] at hbefore
  exact absurd hbefore (by simp)

/-- **The statements of the whole transaction** write what a call writes, if it
is let on, and are stuck otherwise. -/
theorem foldlM_freeBody (db : CreditDb fold) (now : ℤ) (r : FreeCreditRequest) :
    (freeBody store now r.nodeId r.ip (db.ledger r.nodeId)).foldlM
        (fun s statement => statement s) db
      = if LetOn db now r then apply store r ⟨db.ledger r.nodeId, now, now, now, now⟩ db
        else none := by
  show ((db.ensureAccount r.nodeId 0).ensureGate r.ip).bind _
    = if _ then ((db.ensureAccount r.nodeId 0).ensureGate r.ip).bind _ else none
  cases hgated : (db.ensureAccount r.nodeId 0).ensureGate r.ip with
  | none => exact (ite_self _).symm
  | some gated =>
    obtain ⟨c, hc, hbalance, hlast⟩ := db.account_ensureAccount r.nodeId
    obtain ⟨g, hg, hpassed⟩ := find_ensureGate hgated
    obtain ⟨-, hcredits, -⟩ := ensureGate_frame hgated
    have hrow : gated.account r.nodeId = some c :=
      (congrArg (fun t => Table.find t (fold r.nodeId)) hcredits).trans hc
    have hgate : g.lastAllocationAt = db.gatePassedAt (fold r.ip) := hpassed
    rw [Option.bind_some, Option.bind_some]
    simp only [List.foldlM, hrow, hbalance, hlast, LetOn]
    by_cases hnode : 0 < db.ledger r.nodeId ∨ Blocked now (db.allocatedAt (fold r.nodeId))
    · simp [hnode]
    · by_cases hip : Blocked now (db.gatePassedAt (fold r.ip))
      · simp [hnode, hip, hg, hgate]
      · have hset : ∀ mid : CreditDb fold, (gated.updateAccount r.nodeId
            (fun c => { c with
              balance := store (db.ledger r.nodeId + 100)
              freeCreditLastAllocationAt := some now }) fun _ => rfl).insertEntry
              (freeEntry store now r.nodeId) = some mid → (mid.node r.nodeId).isSome := by
          intro mid hmid
          have hinserts := insertEntry_isSome_iff.mp (Option.isSome_of_eq_some hmid)
          obtain ⟨hnodes, -⟩ := rows_insertEntry hmid
          exact (congrArg (fun t => (Table.find t (fold r.nodeId)).isSome) hnodes).trans hinserts.1
        simp only [hnode, ↓reduceIte, Option.pure_def, Option.bind_eq_bind, Option.bind_fun_some,
          Option.bind_some, hg, hgate, hip, not_false_eq_true, and_self]
        rw [Option.map_eq_bind]
        refine Option.bind_congr fun mid hmid => ?_
        rw [if_pos (hset mid hmid)]
        rfl

/-- The statements of a call and its commit, one after the other. -/
def whole (server : Server) (i : ι) : List (FreeCreditAction ι) :=
  .statement i (!server.begins)
    :: ((List.range 8).map fun n => .statement i (server.fails n)) ++ [.commit i server.commit]

/-- The whole transaction gives nothing if the server does not carry it through, -/
theorem maybeAllocateFreeCredits_of_not_carried {server : Server}
    (h : server.carries 8 = false) (db : CreditDb fold) (now : ℤ) (r : FreeCreditRequest) :
    db.maybeAllocateFreeCredits store server now r.nodeId r.ip = (0, db) := by
  unfold maybeAllocateFreeCredits
  have hrun : Transaction.run server (freeBody store now r.nodeId r.ip (db.ledger r.nodeId)) db
      = (false, db) := Transaction.run_of_not_carried h db
  exact congrArg (fun p : Bool × CreditDb fold => ((if p.1 then 100 else 0 : ℚ), p.2)) hrun

/-- nor if it is not let on, or cannot write, -/
theorem maybeAllocateFreeCredits_of_stuck (server : Server) {db : CreditDb fold} {now : ℤ}
    {r : FreeCreditRequest} (h : LetOn db now r →
      apply store r ⟨db.ledger r.nodeId, now, now, now, now⟩ db = none) :
    db.maybeAllocateFreeCredits store server now r.nodeId r.ip = (0, db) := by
  have hstuck : (freeBody store now r.nodeId r.ip (db.ledger r.nodeId)).foldlM
      (fun s statement => statement s) db = none := by
    rw [foldlM_freeBody]
    split
    · next hon => exact h hon
    · rfl
  have hrun := Transaction.run_of_stuck server hstuck
  exact congrArg (fun p : Bool × CreditDb fold => ((if p.1 then 100 else 0 : ℚ), p.2)) hrun

/-- and otherwise it is in the hands of its commit. -/
theorem maybeAllocateFreeCredits_of_reached {server : Server} (hbegins : server.begins = true)
    (hfails : ∀ k < 8, server.fails k = false) {db db' : CreditDb fold} {now : ℤ}
    {r : FreeCreditRequest} (hon : LetOn db now r)
    (hwrites : apply store r ⟨db.ledger r.nodeId, now, now, now, now⟩ db = some db') :
    db.maybeAllocateFreeCredits store server now r.nodeId r.ip
      = (if server.commit = .done then 100 else 0,
          if server.commit = .refused then db else db') := by
  have hreached : Transaction.reaches server
      (freeBody store now r.nodeId r.ip (db.ledger r.nodeId)) db = some db' := by
    unfold Transaction.reaches
    rw [if_pos hbegins, Transaction.execute_eq, if_pos, foldlM_freeBody, if_pos hon, hwrites]
    refine List.all_eq_true.mpr fun k hk => ?_
    have hlt : k < 0 + 8 := (List.mem_range'_1.mp hk).2
    rw [hfails k (Nat.zero_add 8 ▸ hlt)]
    rfl
  have hrun := Transaction.run_of_reached hreached
  refine (congrArg (fun p : Bool × CreditDb fold => ((if p.1 then 100 else 0 : ℚ), p.2))
    hrun).trans ?_
  cases server.commit <;> rfl

/-- **A call that nobody is in the way of is the whole transaction**, whatever
the server fails: it returns the same and leaves the same. -/
theorem after_whole (i : ι) (server : Server) (hbegins : s.phase i = .begins)
    (haccount : s.accountLocks (fold (requests i).nodeId) = none)
    (hgate : s.gateLocks (fold (requests i).ip) = none)
    (hnode : s.nodeLocks (fold (requests i).nodeId) = none) :
    let s' := Run.after (step requests store) s (whole server i)
    let r := s.db.maybeAllocateFreeCredits store server s.now (requests i).nodeId (requests i).ip
    s'.db = r.2 ∧ s'.phase i = .returned r.1 := by
  intro s' r
  have ha : s.accountLocks.freeFor (fold (requests i).nodeId) i = true := by
    rw [RowLocks.freeFor, haccount]
    rfl
  have hg : s.gateLocks.freeFor (fold (requests i).ip) i = true := by
    rw [RowLocks.freeFor, hgate]
    rfl
  have hn : s.nodeLocks.freeFor (fold (requests i).nodeId) i = true := by
    rw [RowLocks.freeFor, hnode]
    rfl
  have hnot : ∀ {k}, k < 8 → server.fails k = true → r = (0, s.db) := fun hk hfails =>
    maybeAllocateFreeCredits_of_not_carried (Server.carries_eq_false hk hfails) s.db s.now (requests i)
  have hstuck : (LetOn s.db s.now (requests i) → apply store (requests i)
      ⟨s.db.ledger (requests i).nodeId, s.now, s.now, s.now, s.now⟩ s.db = none) →
      r = (0, s.db) := maybeAllocateFreeCredits_of_stuck server
  simp only [s', whole, List.range, List.range.loop, List.map, List.cons_append, List.nil_append,
    Run.after_cons, Run.after_nil, step]
  cases hb : server.begins with
  | false =>
    rw [show r = (0, s.db) from
      maybeAllocateFreeCredits_of_not_carried (by simp [Server.carries, hb]) s.db s.now (requests i)]
    simp [statement, hbegins, finish, commit]
  | true =>
    cases h0 : server.fails 0 with
    | true =>
      rw [hnot (by decide) h0]
      simp [statement, hbegins, goOn, finish, commit]
    | false =>
    cases h1 : server.fails 1 with
    | true =>
      rw [hnot (by decide) h1]
      simp [statement, hbegins, goOn, finish, commit, ha]
    | false =>
    by_cases hfits : (requests i).ip.length ≤ 45
    swap
    · have hensure : (s.db.ensureGate (requests i).ip).isNone = true := by
        rw [ensureGate, if_neg hfits]
        rfl
      have hwrites : ∀ w, apply store (requests i) w s.db = none := fun w => by
        unfold apply ensureGate
        rw [if_neg hfits]
        rfl
      rw [hstuck fun _ => hwrites _]
      simp [statement, hbegins, goOn, finish, commit, ha, hensure]
    have hensure : (s.db.ensureGate (requests i).ip).isNone = false := by
      rw [ensureGate, if_pos hfits]
      rfl
    cases h2 : server.fails 2 with
    | true =>
      rw [hnot (by decide) h2]
      simp [statement, hbegins, goOn, finish, commit, check, ha, hg, hensure]
    | false =>
    cases h3 : server.fails 3 with
    | true =>
      rw [hnot (by decide) h3]
      simp [statement, hbegins, goOn, finish, commit, check, ha, hg, hensure, readAccount_eq]
    | false =>
    have hreads : LetOn s.db s.now (requests i) ↔ ¬ (0 < s.db.ledger (requests i).nodeId
        ∨ Blocked s.now (s.db.allocatedAt (fold (requests i).nodeId))
        ∨ Blocked s.now (s.db.gatePassedAt (fold (requests i).ip))) := by
      unfold LetOn
      rw [← not_or, or_assoc]
    by_cases hon : LetOn s.db s.now (requests i)
    swap
    · rw [hstuck fun h => absurd h hon]
      simp [statement, hbegins, goOn, finish, commit, check, ha, hg, hensure, readAccount_eq,
        readGate_eq hfits, not_not.mp (hreads.not.mp hon)]
    have hchecks := hreads.mp hon
    cases h4 : server.fails 4 with
    | true =>
      rw [hnot (by decide) h4]
      simp [statement, hbegins, goOn, finish, commit, check, ha, hg, hensure, readAccount_eq,
        readGate_eq hfits, hchecks]
    | false =>
    cases hentry : (s.db.insertEntry (freeEntry store s.now (requests i).nodeId)).isNone with
    | true =>
      rw [hstuck fun _ => apply_eq_none (Option.isNone_iff_eq_none.mp hentry)]
      simp [statement, hbegins, goOn, finish, commit, check, ha, hg, hensure, readAccount_eq,
        readGate_eq hfits, hchecks, hentry]
    | false =>
    cases h5 : server.fails 5 with
    | true =>
      rw [hnot (by decide) h5]
      simp [statement, hbegins, goOn, finish, commit, check, ha, hg, hensure, readAccount_eq,
        readGate_eq hfits, hchecks]
    | false =>
    have hregistered : (s.db.node (requests i).nodeId).isNone = false := by
      rw [Option.isNone_eq_false_iff] at hentry ⊢
      exact (insertEntry_isSome_iff.mp hentry).1
    cases h6 : server.fails 6 with
    | true =>
      rw [hnot (by decide) h6]
      simp [statement, hbegins, goOn, finish, commit, check, ha, hg, hn, hensure, readAccount_eq,
        readGate_eq hfits, hchecks, hentry]
    | false =>
    cases h7 : server.fails 7 with
    | true =>
      rw [hnot (by decide) h7]
      simp [statement, hbegins, goOn, finish, commit, check, ha, hg, hn, hensure, readAccount_eq,
        readGate_eq hfits, hchecks, hentry, hregistered]
    | false =>
      have hfails : ∀ k < 8, server.fails k = false
        | 0, _ => h0 | 1, _ => h1 | 2, _ => h2 | 3, _ => h3
        | 4, _ => h4 | 5, _ => h5 | 6, _ => h6 | 7, _ => h7
      cases hw : apply store (requests i)
          ⟨s.db.ledger (requests i).nodeId, s.now, s.now, s.now, s.now⟩ s.db with
      | none =>
        rw [hstuck fun _ => hw]
        simp [statement, hbegins, goOn, finish, commit, check, ha, hg, hn, hensure, readAccount_eq,
          readGate_eq hfits, hchecks, hentry, hregistered, hw]
      | some db' =>
        rw [show r = _ from maybeAllocateFreeCredits_of_reached hb hfails hon hw]
        cases hcommit : server.commit <;>
          simp [statement, hbegins, goOn, finish, commit, check, ha, hg, hn, hensure,
            readAccount_eq, readGate_eq hfits, hchecks, hentry, hregistered, hw]

end Whole

/-! ## What keeps the gates -/

/-- What a call has found to go on: the balance it read is still there and not
positive, and each gate was open at a time that is past. -/
structure Passed (db : CreditDb fold) (now : ℤ) (r : FreeCreditRequest) (balance : ℚ)
    (accountAt gateAt : ℤ) : Prop where
  balance_eq : balance = db.ledger r.nodeId
  notPositive : balance ≤ 0
  accountOpen : ¬ Gates.Shut (6 * 3600) accountAt (db.allocatedAt (fold r.nodeId))
  gateOpen : ¬ Gates.Shut (6 * 3600) gateAt (db.gatePassedAt (fold r.ip))
  accountAt_le : accountAt ≤ now
  gateAt_le : gateAt ≤ now

/-- **What is so of a call**, between two statements. -/
def Checked (db : CreditDb fold) (now : ℤ) (r : FreeCreditRequest) : FreeCreditPhase → Prop
  | .readsGate (some (balance, blocked)) => balance = db.ledger r.nodeId
      ∧ (blocked = false → ¬ Gates.Shut (6 * 3600) now (db.allocatedAt (fold r.nodeId)))
  | .updatesAccount balance => Passed db now r balance now now
  | .insertsEntry balance accountAt => Passed db now r balance accountAt now
  | .updatesNode balance accountAt _ => Passed db now r balance accountAt now
  | .updatesGate balance accountAt _ _ => Passed db now r balance accountAt now
  | .commits w => Passed db now r w.balance w.accountAt w.gateAt
  | _ => True

/-- What a call has to do with the allocations: it returns a hundred for one
whose commit was answered, and nothing where it has none but for one whose
commit was not. -/
def Accounted (log : List (FreeCreditAllocation ι)) (i : ι) : FreeCreditPhase → Prop
  | .returned amount => (amount = 100 ∧ ∃ e ∈ log, e.call = i ∧ e.heard = true)
      ∨ (amount = 0 ∧ ∀ e ∈ log, e.call = i → e.heard = false)
  | _ => ∀ e ∈ log, e.call ≠ i

/-- The rows of a call in a phase are locked, and by it. -/
structure Locked (r : FreeCreditRequest) (fold : String → String) (i : ι) (p : FreeCreditPhase)
    (accountLocks gateLocks nodeLocks : RowLocks ι) : Prop where
  account : p.LocksAccount → accountLocks (fold r.nodeId) = some i
  gate : p.LocksGate → gateLocks (fold r.ip) = some i
  node : p.LocksNode → nodeLocks (fold r.nodeId) = some i

/-- What a phase of a call says of the tables. -/
structure Sound (db : CreditDb fold) (now : ℤ) (r : FreeCreditRequest) (p : FreeCreditPhase) :
    Prop where
  checked : Checked db now r p
  registered : p.LocksNode → (db.node r.nodeId).isSome
  fits : p.LocksGate → r.ip.length ≤ 45

variable (requests s)

/-- **The invariant.** -/
structure Guarded : Prop where
  locked : ∀ i, Locked (requests i) fold i (s.phase i) s.accountLocks s.gateLocks s.nodeLocks
  sound : ∀ i, Sound s.db s.now (requests i) (s.phase i)
  accounted : ∀ i, Accounted s.allocations i (s.phase i)
  nodes : Gates.Kept (6 * 3600) (fun e => fold (requests e.call).nodeId)
    FreeCreditAllocation.accountAt s.db.allocatedAt s.allocations
  ips : Gates.Kept (6 * 3600) (fun e => fold (requests e.call).ip)
    FreeCreditAllocation.gateAt s.db.gatePassedAt s.allocations
  notPositive : ∀ e ∈ s.allocations, e.ledger ≤ 0
  stamped : ∀ e ∈ s.allocations, e.accountAt ≤ e.committedAt ∧ e.gateAt ≤ e.committedAt
  once : (s.allocations.map FreeCreditAllocation.call).Nodup

variable {requests s}

theorem Passed.mono {db db' : CreditDb fold} {now now' : ℤ} {r : FreeCreditRequest} {balance : ℚ}
    {accountAt accountAt' gateAt gateAt' : ℤ} (h : Passed db now r balance accountAt gateAt)
    (hledger : db'.ledger r.nodeId = db.ledger r.nodeId)
    (haccount : db'.allocatedAt (fold r.nodeId) = db.allocatedAt (fold r.nodeId))
    (hgate : db'.gatePassedAt (fold r.ip) = db.gatePassedAt (fold r.ip))
    (haccountAt : accountAt ≤ accountAt') (hgateAt : gateAt ≤ gateAt')
    (haccountNow : accountAt' ≤ now') (hgateNow : gateAt' ≤ now') :
    Passed db' now' r balance accountAt' gateAt' where
  balance_eq := h.balance_eq.trans hledger.symm
  notPositive := h.notPositive
  accountOpen := haccount ▸ Gates.not_shut_mono h.accountOpen haccountAt
  gateOpen := hgate ▸ Gates.not_shut_mono h.gateOpen hgateAt
  accountAt_le := haccountNow
  gateAt_le := hgateNow

/-- **What is so of a call stays so** while its rows are as they were and time
goes on. -/
theorem Checked.mono {db db' : CreditDb fold} {now now' : ℤ} {r : FreeCreditRequest}
    {p : FreeCreditPhase} (h : Checked db now r p)
    (hledger : p.LocksAccount → db'.ledger r.nodeId = db.ledger r.nodeId)
    (haccount : p.LocksAccount → db'.allocatedAt (fold r.nodeId) = db.allocatedAt (fold r.nodeId))
    (hgate : p.LocksGate → db'.gatePassedAt (fold r.ip) = db.gatePassedAt (fold r.ip))
    (hnow : now ≤ now') : Checked db' now' r p := by
  cases p with
  | begins => trivial
  | ensuresAccount => trivial
  | ensuresGate => trivial
  | readsAccount => trivial
  | readsGate account =>
    cases account with
    | none => trivial
    | some found =>
      obtain ⟨balance, blocked⟩ := found
      obtain ⟨hbalance, hopen⟩ := h
      refine ⟨hbalance.trans (hledger trivial).symm, fun hblocked => ?_⟩
      rw [haccount trivial]
      exact Gates.not_shut_mono (hopen hblocked) hnow
  | updatesAccount balance =>
    exact Passed.mono h (hledger trivial) (haccount trivial) (hgate trivial) hnow hnow le_rfl le_rfl
  | insertsEntry balance accountAt =>
    have hbefore : Passed db now r balance accountAt now := h
    exact hbefore.mono (hledger trivial) (haccount trivial) (hgate trivial) le_rfl hnow
      (hbefore.accountAt_le.trans hnow) le_rfl
  | updatesNode balance accountAt entryAt =>
    have hbefore : Passed db now r balance accountAt now := h
    exact hbefore.mono (hledger trivial) (haccount trivial) (hgate trivial) le_rfl hnow
      (hbefore.accountAt_le.trans hnow) le_rfl
  | updatesGate balance accountAt entryAt nodeAt =>
    have hbefore : Passed db now r balance accountAt now := h
    exact hbefore.mono (hledger trivial) (haccount trivial) (hgate trivial) le_rfl hnow
      (hbefore.accountAt_le.trans hnow) le_rfl
  | commits w =>
    have hbefore : Passed db now r w.balance w.accountAt w.gateAt := h
    exact hbefore.mono (hledger trivial) (haccount trivial) (hgate trivial) le_rfl le_rfl
      (hbefore.accountAt_le.trans hnow) (hbefore.gateAt_le.trans hnow)
  | returned amount => trivial

omit [DecidableEq ι] in
theorem guarded_idle (db : CreditDb fold) (now : ℤ) : Guarded requests (idle ι db now) where
  locked _ := ⟨False.elim, False.elim, False.elim⟩
  sound _ := ⟨trivial, False.elim, False.elim⟩
  accounted _ _ h := absurd h List.not_mem_nil
  nodes := .nil
  ips := .nil
  notPositive _ h := absurd h List.not_mem_nil
  stamped _ h := absurd h List.not_mem_nil
  once := List.nodup_nil

/-! ## The statements -/

/-- **A call moves**, and takes no row from another. -/
theorem Guarded.moves (h : Guarded requests s) {i : ι} {p : FreeCreditPhase}
    {accountLocks gateLocks nodeLocks : RowLocks ι}
    (haccount : ∀ j ≠ i, ∀ key, s.accountLocks key = some j → accountLocks key = some j)
    (hgate : ∀ j ≠ i, ∀ key, s.gateLocks key = some j → gateLocks key = some j)
    (hnode : ∀ j ≠ i, ∀ key, s.nodeLocks key = some j → nodeLocks key = some j)
    (hlocked : Locked (requests i) fold i p accountLocks gateLocks nodeLocks)
    (hsound : Sound s.db s.now (requests i) p) (haccounted : Accounted s.allocations i p) :
    Guarded requests
      { s with
        phase := Function.update s.phase i p
        accountLocks := accountLocks
        gateLocks := gateLocks
        nodeLocks := nodeLocks } := by
  refine { h with locked := fun j => ?_, sound := fun j => ?_, accounted := fun j => ?_ }
  · dsimp only
    by_cases hj : j = i
    · subst hj
      rw [Function.update_self]
      exact hlocked
    · rw [Function.update_of_ne hj]
      have hbefore := h.locked j
      exact ⟨fun hp => haccount j hj _ (hbefore.account hp),
        fun hp => hgate j hj _ (hbefore.gate hp), fun hp => hnode j hj _ (hbefore.node hp)⟩
  · dsimp only
    by_cases hj : j = i
    · subst hj
      rw [Function.update_self]
      exact hsound
    · rw [Function.update_of_ne hj]
      exact h.sound j
  · dsimp only
    by_cases hj : j = i
    · subst hj
      rw [Function.update_self]
      exact haccounted
    · rw [Function.update_of_ne hj]
      exact h.accounted j

/-- A call that takes no lock goes on. -/
theorem Guarded.goOn (h : Guarded requests s) {i : ι} {p : FreeCreditPhase}
    (haccount : p.LocksAccount → (s.phase i).LocksAccount)
    (hgate : p.LocksGate → (s.phase i).LocksGate) (hnode : p.LocksNode → (s.phase i).LocksNode)
    (hsound : Sound s.db s.now (requests i) p) (haccounted : Accounted s.allocations i p) :
    Guarded requests (s.goOn i p) :=
  h.moves (fun _ _ _ => id) (fun _ _ _ => id) (fun _ _ _ => id)
    ⟨fun hp => (h.locked i).account (haccount hp), fun hp => (h.locked i).gate (hgate hp),
      fun hp => (h.locked i).node (hnode hp)⟩ hsound haccounted

/-- A call that has allocated nothing may end at any time. -/
theorem Guarded.finish (h : Guarded requests s) {i : ι}
    (hnone : ∀ e ∈ s.allocations, e.call ≠ i) : Guarded requests (s.finish i 0) :=
  h.moves (fun _ hj _ => RowLocks.giveBack_of_ne hj) (fun _ hj _ => RowLocks.giveBack_of_ne hj)
    (fun _ hj _ => RowLocks.giveBack_of_ne hj) ⟨False.elim, False.elim, False.elim⟩
    ⟨trivial, False.elim, False.elim⟩ (Or.inr ⟨rfl, fun e he hcall => absurd hcall (hnone e he)⟩)

/-- **The checks let on** what has no credit and finds both gates open. -/
theorem guarded_check (h : Guarded requests s) {i : ι} {account : Option (ℚ × Bool)}
    (hphase : s.phase i = .readsGate account) {ipBlocked : Option Bool}
    (hopen : ipBlocked.getD true = false →
      ¬ Gates.Shut (6 * 3600) s.now (s.db.gatePassedAt (fold (requests i).ip))) :
    Guarded requests (s.check i account ipBlocked) := by
  have hnone : ∀ e ∈ s.allocations, e.call ≠ i := by
    have haccounted := h.accounted i
    rwa [hphase] at haccounted
  have hsound := h.sound i
  rw [hphase] at hsound
  unfold check
  cases account with
  | none => exact h.finish hnone
  | some found =>
    obtain ⟨balance, nodeBlocked⟩ := found
    obtain ⟨hbalance, haccountOpen⟩ := hsound.checked
    dsimp only
    split
    · exact h.finish hnone
    · next hpasses =>
      rw [not_or, not_or, Bool.not_eq_true, Bool.not_eq_true] at hpasses
      obtain ⟨hcredit, hnodeBlocked, hipBlocked⟩ := hpasses
      refine h.goOn ?_ ?_ False.elim ⟨?_, False.elim, fun _ => hsound.fits trivial⟩ hnone
      · rw [hphase]
        exact id
      · rw [hphase]
        exact id
      · exact ⟨hbalance, not_lt.mp hcredit, haccountOpen hnodeBlocked, hopen hipBlocked, le_rfl,
          le_rfl⟩

/-- **A statement keeps the invariant.** -/
theorem guarded_statement (h : Guarded requests s) (i : ι) (fails : Bool) :
    Guarded requests (s.statement requests store i fails) := by
  have haccounted := h.accounted i
  have hsound := h.sound i
  have hlocked := h.locked i
  unfold statement
  dsimp only
  cases hphase : s.phase i with
  | begins =>
    rw [hphase] at haccounted
    dsimp only
    split
    · exact h.finish haccounted
    · exact h.goOn False.elim False.elim False.elim ⟨trivial, False.elim, False.elim⟩ haccounted
  | ensuresAccount =>
    rw [hphase] at haccounted
    dsimp only
    split
    · exact h.finish haccounted
    · split
      · next hfree =>
        exact h.moves (fun _ hj _ => RowLocks.grab_of_ne hfree hj) (fun _ _ _ => id)
          (fun _ _ _ => id) ⟨fun _ => RowLocks.grab_self .., False.elim, False.elim⟩
          ⟨trivial, False.elim, False.elim⟩ haccounted
      · exact h
  | ensuresGate =>
    rw [hphase] at haccounted hlocked
    dsimp only
    split
    · exact h.finish haccounted
    · next hmakes =>
      split
      · next hfree =>
        have hfits : (requests i).ip.length ≤ 45 := by
          by_contra hlong
          refine hmakes ?_
          rw [CreditDb.ensureGate, if_neg hlong, Option.isNone_none, Bool.or_true]
        exact h.moves (fun _ _ _ => id) (fun _ hj _ => RowLocks.grab_of_ne hfree hj)
          (fun _ _ _ => id) ⟨hlocked.account, fun _ => RowLocks.grab_self .., False.elim⟩
          ⟨trivial, False.elim, fun _ => hfits⟩ haccounted
      · exact h
  | readsAccount =>
    rw [hphase] at haccounted hsound
    refine h.goOn ?_ ?_ False.elim ⟨?_, False.elim, hsound.fits⟩ haccounted
    · rw [hphase]
      exact id
    · rw [hphase]
      exact id
    · cases fails with
      | true => trivial
      | false =>
        rw [if_neg Bool.false_ne_true, readAccount_eq]
        exact ⟨rfl, of_decide_eq_false⟩
  | readsGate account =>
    refine guarded_check h hphase fun hopen => ?_
    rw [hphase] at hsound
    cases fails with
    | true => exact absurd hopen (by simp)
    | false =>
      rw [if_neg Bool.false_ne_true, readGate_eq (hsound.fits trivial), Option.getD_some,
        decide_eq_false_iff_not] at hopen
      exact hopen
  | updatesAccount balance =>
    rw [hphase] at haccounted hsound
    dsimp only
    split
    · exact h.finish haccounted
    · refine h.goOn ?_ ?_ False.elim ⟨hsound.checked, False.elim, hsound.fits⟩ haccounted
      · rw [hphase]
        exact id
      · rw [hphase]
        exact id
  | insertsEntry balance accountAt =>
    rw [hphase] at haccounted hsound hlocked
    dsimp only
    split
    · exact h.finish haccounted
    · next hinserts =>
      split
      · next hfree =>
        have hregistered : (s.db.node (requests i).nodeId).isSome := by
          rw [Bool.or_eq_true, not_or, Bool.not_eq_true, Bool.not_eq_true,
            Option.isNone_eq_false_iff] at hinserts
          exact (CreditDb.insertEntry_isSome_iff.mp hinserts.2).1
        exact h.moves (fun _ _ _ => id) (fun _ _ _ => id)
          (fun _ hj _ => RowLocks.grab_of_ne hfree hj)
          ⟨hlocked.account, hlocked.gate, fun _ => RowLocks.grab_self ..⟩
          ⟨hsound.checked, fun _ => hregistered, hsound.fits⟩ haccounted
      · exact h
  | updatesNode balance accountAt entryAt =>
    rw [hphase] at haccounted hsound
    dsimp only
    split
    · exact h.finish haccounted
    · refine h.goOn ?_ ?_ ?_ ⟨hsound.checked, hsound.registered, hsound.fits⟩ haccounted
      · rw [hphase]
        exact id
      · rw [hphase]
        exact id
      · rw [hphase]
        exact id
  | updatesGate balance accountAt entryAt nodeAt =>
    rw [hphase] at haccounted hsound
    dsimp only
    split
    · exact h.finish haccounted
    · refine h.goOn ?_ ?_ ?_ ⟨hsound.checked, hsound.registered, hsound.fits⟩ haccounted
      · rw [hphase]
        exact id
      · rw [hphase]
        exact id
      · rw [hphase]
        exact id
  | commits w => exact h
  | returned amount => exact h

/-! ## Commits and other transactions -/

omit [DecidableEq ι] in
/-- An allocation of another call is nothing to this one. -/
theorem Accounted.cons {log : List (FreeCreditAllocation ι)} {j : ι} {p : FreeCreditPhase}
    (h : Accounted log j p) {e : FreeCreditAllocation ι} (hne : e.call ≠ j) :
    Accounted (e :: log) j p := by
  cases p with
  | returned amount =>
    refine h.imp (fun hgiven => ⟨hgiven.1, ?_⟩) fun hnot => ⟨hnot.1, ?_⟩
    · obtain ⟨e', he', hcall⟩ := hgiven.2
      exact ⟨e', List.mem_cons_of_mem _ he', hcall⟩
    · exact List.forall_mem_cons.mpr ⟨fun hcall => absurd hcall hne, hnot.2⟩
  | _ => exact List.forall_mem_cons.mpr ⟨hne, h⟩

/-- **What a commit writes keeps the invariant**: the rows it stamps are
locked, so that no other call has read them. -/
theorem Guarded.allocates (h : Guarded requests s) {i : ι} {w : FreeCreditWrites}
    (hphase : s.phase i = .commits w) {db : CreditDb fold}
    (hstamped : Stamped (requests i) w s.db db) {amount : ℚ} {heard : Bool}
    (hamount : amount = 100 ∧ heard = true ∨ amount = 0 ∧ heard = false) :
    Guarded requests
      { s.finish i amount with
        db := db
        allocations :=
          ⟨i, s.db.ledger (requests i).nodeId, w.accountAt, w.gateAt, s.now, heard⟩
            :: s.allocations } := by
  have hnone : ∀ e ∈ s.allocations, e.call ≠ i := by
    have haccounted := h.accounted i
    rwa [hphase] at haccounted
  have hpassed : Passed s.db s.now (requests i) w.balance w.accountAt w.gateAt := by
    have hsound := h.sound i
    rw [hphase] at hsound
    exact hsound.checked
  have hown : Locked (requests i) fold i (.commits w) s.accountLocks s.gateLocks s.nodeLocks := by
    have hlocked := h.locked i
    rwa [hphase] at hlocked
  -- no other call has a row of this one
  have haccountApart : ∀ j ≠ i, (s.phase j).LocksAccount →
      fold (requests j).nodeId ≠ fold (requests i).nodeId := by
    intro j hj hlocks hkey
    have hj' := (h.locked j).account hlocks
    rw [hkey, hown.account trivial] at hj'
    exact hj (Option.some.inj hj').symm
  have hgateApart : ∀ j ≠ i, (s.phase j).LocksGate →
      fold (requests j).ip ≠ fold (requests i).ip := by
    intro j hj hlocks hkey
    have hj' := (h.locked j).gate hlocks
    rw [hkey, hown.gate trivial] at hj'
    exact hj (Option.some.inj hj').symm
  refine ⟨fun j => ?_, fun j => ?_, fun j => ?_, ?_, ?_, ?_, ?_, ?_⟩
  · show Locked _ _ j (Function.update s.phase i (.returned amount) j) _ _ _
    by_cases hj : j = i
    · subst hj
      rw [Function.update_self]
      exact ⟨False.elim, False.elim, False.elim⟩
    · rw [Function.update_of_ne hj]
      have hbefore := h.locked j
      exact ⟨fun hp => RowLocks.giveBack_of_ne hj (hbefore.account hp),
        fun hp => RowLocks.giveBack_of_ne hj (hbefore.gate hp),
        fun hp => RowLocks.giveBack_of_ne hj (hbefore.node hp)⟩
  · show Sound db s.now (requests j) (Function.update s.phase i (.returned amount) j)
    by_cases hj : j = i
    · subst hj
      rw [Function.update_self]
      exact ⟨trivial, False.elim, False.elim⟩
    · rw [Function.update_of_ne hj]
      have hbefore := h.sound j
      refine ⟨hbefore.checked.mono (fun hp => ?_) (fun hp => ?_) (fun hp => ?_) le_rfl,
        fun hp => ?_, hbefore.fits⟩
      · exact congrArg (Option.getD · 0) (hstamped.account _ (haccountApart j hj hp))
      · exact (hstamped.allocatedAt _).trans (if_neg (haccountApart j hj hp))
      · exact (hstamped.gatePassedAt _).trans (if_neg (hgateApart j hj hp))
      · rw [hstamped.node]
        exact hbefore.registered hp
  · show Accounted _ j (Function.update s.phase i (.returned amount) j)
    by_cases hj : j = i
    · subst hj
      rw [Function.update_self]
      refine hamount.imp (fun ⟨ha, hh⟩ => ⟨ha, _, List.mem_cons_self, rfl, hh⟩)
        fun ⟨ha, hh⟩ => ⟨ha, List.forall_mem_cons.mpr ⟨fun _ => hh, fun e he hcall => ?_⟩⟩
      exact absurd hcall (hnone e he)
    · rw [Function.update_of_ne hj]
      exact (h.accounted j).cons (Ne.symm hj)
  · exact h.nodes.pass (by decide) hpassed.accountOpen ((hstamped.allocatedAt _).trans (if_pos rfl))
      fun key hkey => (hstamped.allocatedAt key).trans (if_neg hkey)
  · exact h.ips.pass (by decide) hpassed.gateOpen ((hstamped.gatePassedAt _).trans (if_pos rfl))
      fun key hkey => (hstamped.gatePassedAt key).trans (if_neg hkey)
  · refine List.forall_mem_cons.mpr ⟨?_, h.notPositive⟩
    rw [← hpassed.balance_eq]
    exact hpassed.notPositive
  · exact List.forall_mem_cons.mpr ⟨⟨hpassed.accountAt_le, hpassed.gateAt_le⟩, h.stamped⟩
  · refine List.nodup_cons.mpr ⟨fun hmem => ?_, h.once⟩
    obtain ⟨e, he, hcall⟩ := List.mem_map.mp hmem
    exact hnone e he hcall

theorem guarded_commit (h : Guarded requests s) (i : ι) (answer : CommitAnswer) :
    Guarded requests (s.commit requests store i answer) := by
  unfold commit
  split
  · next w hphase =>
    have hnone : ∀ e ∈ s.allocations, e.call ≠ i := by
      have haccounted := h.accounted i
      rwa [hphase] at haccounted
    split
    · next db hdb =>
      have hstamped := stamped_of_apply hdb
      cases answer with
      | refused => exact h.finish hnone
      | done => exact h.allocates hphase hstamped (Or.inl ⟨rfl, rfl⟩)
      | lost => exact h.allocates hphase hstamped (Or.inr ⟨rfl, rfl⟩)
    · exact h.finish hnone
  · exact h

omit [DecidableEq ι] in
/-- **Another transaction keeps the invariant** if it leaves the gates, and the
rows that are locked. -/
theorem Guarded.settles (h : Guarded requests s) {db : CreditDb fold}
    (hgates : CreditDb.SameGates s.db db)
    (haccount : ∀ n, (s.accountLocks (fold n)).isSome → db.accountBalance n = s.db.accountBalance n)
    (hnode : ∀ n, (s.nodeLocks (fold n)).isSome → (db.node n).isSome = (s.db.node n).isSome) :
    Guarded requests { s with db := db } := by
  have hips : ∀ key, db.gatePassedAt key = s.db.gatePassedAt key := fun key => by
    unfold CreditDb.gatePassedAt
    rw [hgates.ips]
  refine { h with
    sound := fun i => ?_
    nodes := h.nodes.congr hgates.nodes
    ips := h.ips.congr hips }
  have hbefore := h.sound i
  have hlocked := h.locked i
  refine ⟨hbefore.checked.mono (fun hp => ?_) (fun _ => hgates.nodes _) (fun _ => hips _) le_rfl,
    fun hp => ?_, hbefore.fits⟩
  · refine congrArg (Option.getD · 0) (haccount _ ?_)
    rw [hlocked.account hp]
    rfl
  · refine (hnode _ ?_).trans (hbefore.registered hp)
    rw [hlocked.node hp]
    rfl

omit [DecidableEq ι] in
/-- A row of the node is locked. -/
theorem busy_iff {nodeId : String} : s.busy nodeId = true
    ↔ (s.accountLocks (fold nodeId)).isSome ∨ (s.nodeLocks (fold nodeId)).isSome := by
  unfold busy
  rw [Bool.or_eq_true]

omit [DecidableEq ι] in
/-- A node none of whose rows is locked is not one of those that have one. -/
theorem ne_of_busy {nodeId other : String} (hfree : s.busy nodeId = false)
    (hbusy : s.busy other = true) : fold other ≠ fold nodeId := by
  intro hkey
  unfold busy at hfree hbusy
  rw [hkey, hfree] at hbusy
  exact absurd hbusy Bool.false_ne_true

omit [DecidableEq ι] in
/-- The same of one that leaves the nodes of these rows as they are. -/
theorem Guarded.settles_of_node (h : Guarded requests s) {db : CreditDb fold}
    (hgates : CreditDb.SameGates s.db db)
    (hnode : ∀ n, s.busy n = true → CreditDb.SameNode s.db db n) :
    Guarded requests { s with db := db } := by
  refine h.settles hgates (fun n hn => (hnode n (busy_iff.mpr (Or.inl hn))).account) fun n hn => ?_
  have hsame := congrArg Option.isSome (hnode n (busy_iff.mpr (Or.inr hn))).node
  unfold CreditDb.nodeBalance at hsame
  rwa [Option.isSome_map, Option.isSome_map] at hsame

omit [DecidableEq ι] in
theorem guarded_settle (h : Guarded requests s) (server : Server) {action : CreditDb.CreditAction}
    (hwaits : s.waits action = false) :
    Guarded requests { s with db := s.db.step store ⟨server, s.now, action⟩ } := by
  cases action with
  | recordCreditAward nodeId amount taskId nonce =>
    exact h.settles_of_node (CreditDb.sameGates_award store server s.now s.db nodeId amount taskId
      nonce) fun n hn => CreditDb.sameNode_award store server s.now s.db amount taskId nonce
        (ne_of_busy hwaits hn)
  | debitNode consumerNodeId amount taskId reason =>
    exact h.settles_of_node (CreditDb.sameGates_debitNode store server s.db consumerNodeId amount
      taskId reason) fun n hn => CreditDb.sameNode_debitNode store server s.db amount taskId reason
        (ne_of_busy hwaits hn)
  | debitOperatorWallet consumerNodeId operatorPubkey amount taskId reason =>
    refine h.settles_of_node (CreditDb.sameGates_debitOperatorWallet store server s.now s.db
      consumerNodeId operatorPubkey amount taskId reason) fun n hn =>
        CreditDb.sameNode_debitOperatorWallet store server s.now s.db consumerNodeId operatorPubkey
          amount taskId reason fun c hc => ne_of_busy ?_ hn
    exact Bool.eq_false_iff.mpr (List.any_eq_false.mp hwaits c hc)
  | expireIdleCredit nodeId expectedBalance =>
    exact h.settles_of_node (CreditDb.sameGates_expire store server s.db nodeId expectedBalance)
      fun n hn => CreditDb.sameNode_expire store server s.db expectedBalance (ne_of_busy hwaits hn)
  | maybeAllocateFreeCredits nodeId ip => exact absurd hwaits.symm Bool.false_ne_true
  | register nodeId operatorPubkey =>
    show Guarded requests { s with db := if server.executes then _ else _ }
    split
    · refine h.settles ⟨fun _ => rfl, rfl⟩ (fun _ _ => rfl) fun n hn => ?_
      rw [CreditDb.node_registerNode_of_ne]
      intro hkey
      rw [hkey] at hn
      exact absurd (hn.symm.trans hwaits) Bool.true_eq_false_eq_False
    · exact h
  | deregister nodeId =>
    show Guarded requests { s with db := if server.executes then _ else _ }
    split
    · refine h.settles ⟨fun _ => rfl, rfl⟩ (fun _ _ => rfl) fun n hn => ?_
      rw [CreditDb.node_deregister_of_ne]
      intro hkey
      rw [hkey] at hn
      exact absurd (hn.symm.trans hwaits) Bool.true_eq_false_eq_False
    · exact h

omit [DecidableEq ι] in
theorem guarded_tick (h : Guarded requests s) (seconds : ℕ) :
    Guarded requests { s with now := s.now + seconds } :=
  { h with
    sound := fun i =>
      ⟨(h.sound i).checked.mono (fun _ => rfl) (fun _ => rfl) (fun _ => rfl)
        (le_add_of_nonneg_right (Int.natCast_nonneg seconds)),
        (h.sound i).registered, (h.sound i).fits⟩ }

/-- **One step keeps the invariant.** -/
theorem guarded_step (h : Guarded requests s) (a : FreeCreditAction ι) :
    Guarded requests (s.step requests store a) := by
  cases a with
  | statement i fails => exact guarded_statement h i fails
  | commit i answer => exact guarded_commit h i answer
  | settle server action =>
    unfold step
    dsimp only
    split
    · exact h
    · next hwaits => exact guarded_settle h server (Bool.eq_false_iff.mpr hwaits)
  | tick seconds => exact guarded_tick h seconds

/-- It holds along every run. -/
theorem guarded_after (db : CreditDb fold) (now : ℤ) (actions : List (FreeCreditAction ι)) :
    Guarded requests (Run.after (step requests store) (idle ι db now) actions) := by
  have hstep : ∀ (s : FreeCreditPool ι fold) (a : FreeCreditAction ι), Guarded requests s →
      Guarded requests (s.step requests store a) := fun _ a h => guarded_step h a
  exact Run.invariant hstep (guarded_idle db now) actions

/-! ## The gates hold -/

variable (requests)

/-- **Free credit is given through two gates**, by a time of each for every
allocation, and by which of them are told of: no interval of six hours has two
allocations of one node, or of one address; an allocation is made where there
is no credit; and a call returns a hundred exactly for an allocation of its
own that is told of. -/
structure GatedBy (nodeTime ipTime : FreeCreditAllocation ι → ℤ)
    (told : FreeCreditAllocation ι → Bool) (s : FreeCreditPool ι fold) : Prop where
  node_once : ∀ (nodeId : String) (start : ℤ), (s.allocations.filter fun e =>
    fold (requests e.call).nodeId = fold nodeId ∧ start ≤ nodeTime e
      ∧ nodeTime e < start + 6 * 3600).length ≤ 1
  ip_once : ∀ (ip : String) (start : ℤ), (s.allocations.filter fun e =>
    fold (requests e.call).ip = fold ip ∧ start ≤ ipTime e
      ∧ ipTime e < start + 6 * 3600).length ≤ 1
  notPositive : ∀ e ∈ s.allocations, e.ledger ≤ 0
  once : (s.allocations.map FreeCreditAllocation.call).Nodup
  answered : ∀ i amount, s.phase i = .returned amount →
    (amount = 100 ↔ ∃ e ∈ s.allocations, e.call = i ∧ told e = true)

/-- The same by the time of the commit, with every allocation told of. -/
def GatedAtCommit (s : FreeCreditPool ι fold) : Prop :=
  GatedBy requests FreeCreditAllocation.committedAt FreeCreditAllocation.committedAt
    (fun _ => true) s

variable {requests}

/-- **Free credit is gated**, in every run of heartbeats, by the times its
gates are stamped with, none of them later than the commit; and a call
returns a hundred exactly for an allocation whose commit was answered. -/
theorem gated (requests : ι → FreeCreditRequest) (store : ℚ → ℚ) (db : CreditDb fold) (now : ℤ)
    (actions : List (FreeCreditAction ι)) :
    let s := Run.after (step requests store) (idle ι db now) actions
    GatedBy requests FreeCreditAllocation.accountAt FreeCreditAllocation.gateAt
        FreeCreditAllocation.heard s
      ∧ ∀ e ∈ s.allocations, e.accountAt ≤ e.committedAt ∧ e.gateAt ≤ e.committedAt := by
  intro s
  have h : Guarded requests s := guarded_after db now actions
  refine ⟨⟨fun nodeId start => h.nodes.length_window_le_one (fold nodeId) start,
    fun ip start => h.ips.length_window_le_one (fold ip) start, h.notPositive, h.once,
    fun i amount hphase => ?_⟩, h.stamped⟩
  have haccounted := h.accounted i
  rw [hphase] at haccounted
  rcases haccounted with ⟨rfl, hgiven⟩ | ⟨rfl, hnot⟩
  · exact iff_of_true rfl hgiven
  · refine iff_of_false (by norm_num) ?_
    rintro ⟨e, he, hcall, hheard⟩
    exact absurd (hheard.symm.trans (hnot e he hcall)) (by simp)

/-! ## Not by the time of the commit -/

namespace Sample

/-- Two nodes behind one address. -/
def behindOneAddress : Bool → FreeCreditRequest
  | true => ⟨"n1", "192.0.2.1"⟩
  | false => ⟨"n2", "192.0.2.1"⟩

/-- The first call commits ten seconds after it has stamped its gates, and its
commit is lost; the second is let on six hours after the stamp. -/
def sixHoursLater : List (FreeCreditAction Bool) :=
  let willing (i : Bool) : List (FreeCreditAction Bool) := List.replicate 9 (.statement i false)
  [.settle .willing (.register "n1" none), .settle .willing (.register "n2" none)]
    ++ willing true ++ [.tick 10, .commit true .lost, .tick 21590]
    ++ willing false ++ [.commit false .done]

/-- What the two calls come to. -/
def bothAllocated : FreeCreditPool Bool id :=
  Run.after (step behindOneAddress id) (idle Bool (.empty id) 0) sixHoursLater

end Sample

/-- **Within six hours of each other two commits allocate** behind one address,
and the first of the calls returns nothing. -/
theorem address_allocated_twice :
    (Sample.bothAllocated.allocations.filter fun e =>
        (Sample.behindOneAddress e.call).ip = "192.0.2.1" ∧ 10 ≤ e.committedAt
          ∧ e.committedAt < 10 + 6 * 3600).length = 2
      ∧ Sample.bothAllocated.phase true = .returned 0
      ∧ (∃ e ∈ Sample.bothAllocated.allocations, e.call = true)
      ∧ ¬ GatedAtCommit Sample.behindOneAddress Sample.bothAllocated := by
  have htwice : (Sample.bothAllocated.allocations.filter fun e =>
      (Sample.behindOneAddress e.call).ip = "192.0.2.1" ∧ 10 ≤ e.committedAt
        ∧ e.committedAt < 10 + 6 * 3600).length = 2 := by decide +kernel
  refine ⟨htwice, by decide +kernel, by decide +kernel, fun h => ?_⟩
  have hone := h.ip_once "192.0.2.1" 10
  exact absurd (htwice.symm.trans_le hone) (by decide)

end FreeCreditPool
