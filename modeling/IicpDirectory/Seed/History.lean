import IicpDirectory.Foundations.Keyed
import IicpDirectory.Seed.Heartbeats

/-!
# The history of a node that registers again

A node is known by its score, the tasks it failed and the tasks it did. A
registration over one that is there is not to give it a better name: the
tables leave these columns alone, and the repository in memory restores the
score of the record it replaces. A removal takes the row, and with it the
history. So what a node has to its name after a run of registrations and
removals is what it had, or a fresh start if the run removed it
(`history_after`).
-/

namespace History

open Heartbeats

/-- What a node has to its name. -/
structure Account where
  score : ℚ
  failed : ℕ
  completed : ℕ
  deriving DecidableEq

/-- A fresh start. -/
def Account.fresh : Account := ⟨PendingRegistration.startingScore, 0, 0⟩

/-- **No better name**: a score no higher, no fewer failures and as many
tasks. -/
def NotLaundered (before after : Account) : Prop :=
  after.score ≤ before.score ∧ before.failed ≤ after.failed ∧ after.completed = before.completed

/-- A request that registers a node, anew or again, or removes it. -/
inductive Request
  | register (p : PendingRegistration)
  | deregister (nodeId : String)

namespace Request

/-- The node a request is about. -/
def nodeId : Request → String
  | .register p => p.nodeId
  | .deregister nodeId => nodeId

/-- Whether it removes the node. -/
def removes : Request → Bool
  | .register _ => false
  | .deregister _ => true

end Request

/-- The account a request leaves, where a registration makes `renewed` of an
account that is there. -/
def accountAfter (renewed : Account → Account) (account : Option Account) (req : Request) :
    Option Account :=
  if req.removes then none else some (account.elim Account.fresh renewed)

/-- **What a run of requests about one node leaves**: a fresh start, if it
removed the node or there was none, or what there was – as far as it is kept
when an account is renewed. -/
theorem foldl_accountAfter {V : Type} {renewed : Account → Account} {seen : Account → V}
    (hrenewed : ∀ a, seen (renewed a) = seen a) {account : Option Account}
    {requests : List Request} {after : Account}
    (h : requests.foldl (accountAfter renewed) account = some after) :
    seen after = if requests.any Request.removes then seen Account.fresh
      else seen (account.getD Account.fresh) := by
  induction requests generalizing account with
  | nil =>
    obtain rfl : account = some after := h
    rfl
  | cons req rest ih =>
    rw [ih h, List.any_cons, accountAfter]
    cases req.removes with
    | true =>
      show (if _ then seen Account.fresh else seen Account.fresh) = _
      rw [ite_self]
      rfl
    | false =>
      rw [Bool.false_or, if_neg Bool.false_ne_true]
      refine congrArg (fun v => ite _ _ v) ?_
      cases account with
      | none => rfl
      | some a => exact hrenewed a

/-! ## The two repositories -/

variable {fold : String → String}

/-- The account of a row. -/
def accountOfRow (row : NodeRow) : Account := ⟨row.reputationScore, row.tasksFailed, row.tasksTotal⟩

/-- The account of a record. -/
def accountOfRecord (r : NodeRecord) : Account :=
  ⟨r.node.reputationScore, r.node.tasksFailed, r.node.completedTasksCount⟩

/-- A request to the tables. -/
def performMySql (repo : MySqlRepo fold) : Request → MySqlRepo fold
  | .register p => repo.registered p
  | .deregister nodeId => (repo.deregister nodeId).2

/-- A request to the repository in memory. -/
def performMemory (repo : InMemoryRepo) : Request → InMemoryRepo
  | .register p => repo.register p.record
  | .deregister nodeId => (repo.deregister nodeId).2

/-- What a record keeps of the one it replaces: its score. -/
def renewedInMemory (a : Account) : Account := { Account.fresh with score := a.score }

theorem score_renewedInMemory (a : Account) : (renewedInMemory a).score = a.score := rfl

theorem account_performMySql (repo : MySqlRepo fold) (req : Request) (nodeId : String) :
    ((performMySql repo req).find nodeId).map accountOfRow
      = if named fold nodeId req.nodeId then
          accountAfter id ((repo.find nodeId).map accountOfRow) req
        else (repo.find nodeId).map accountOfRow := by
  cases req with
  | register p =>
    show ((repo.registered p).find nodeId).map accountOfRow = _
    rw [MySqlRepo.find_registered]
    by_cases hnode : fold nodeId = fold p.nodeId
    · have hsame : repo.find p.nodeId = repo.find nodeId := repo.find_congr hnode.symm
      rw [if_pos hnode, hsame]
      simp only [named, Request.nodeId, hnode]
      cases repo.find nodeId with
      | none =>
        show some (⟨toF32 (1 / 2), 0, 0⟩ : Account) = some ⟨1 / 2, 0, 0⟩
        rw [toF32_half]
      | some row => rfl
    · rw [if_neg hnode]
      simp [named, Request.nodeId, hnode]
  | deregister removed =>
    show ((repo.deregister removed).2.find nodeId).map accountOfRow = _
    rw [MySqlRepo.find_deregister]
    by_cases hnode : fold nodeId = fold removed
    · rw [if_pos hnode]
      simp [named, Request.nodeId, hnode, accountAfter, Request.removes]
    · rw [if_neg hnode]
      simp [named, Request.nodeId, hnode]

theorem account_performMemory (repo : InMemoryRepo) (req : Request) (nodeId : String) :
    ((performMemory repo req).find nodeId).map accountOfRecord
      = if named id nodeId req.nodeId then
          accountAfter renewedInMemory ((repo.find nodeId).map accountOfRecord) req
        else (repo.find nodeId).map accountOfRecord := by
  cases req with
  | register p =>
    show ((repo.register p.record).find nodeId).map accountOfRecord = _
    rw [InMemoryRepo.find_register]
    rw [PendingRegistration.id_record]
    by_cases hnode : nodeId = p.nodeId
    · subst hnode
      rw [if_pos rfl]
      simp only [named, Request.nodeId]
      cases repo.find p.nodeId <;> rfl
    · rw [if_neg hnode]
      simp [named, Request.nodeId, hnode]
  | deregister removed =>
    show ((repo.deregister removed).2.find nodeId).map accountOfRecord = _
    rw [InMemoryRepo.find_deregister]
    by_cases hnode : nodeId = removed
    · rw [if_pos hnode]
      simp [named, Request.nodeId, hnode, accountAfter, Request.removes]
    · rw [if_neg hnode]
      simp [named, Request.nodeId, hnode]

/-! ## The law -/

/-- Whether a run of requests removes a node. -/
def removed (fold : String → String) (nodeId : String) (requests : List Request) : Bool :=
  requests.any (fun req => named fold nodeId req.nodeId && req.removes)

/-- **What a node has to its name after a run** of registrations and removals
of whatever nodes: a fresh start, if the run removed it or it was not there,
and else what it had. Over MySQL that is its score and its tasks, in memory
its score. -/
theorem history_after :
    (∀ {fold : String → String} (repo : MySqlRepo fold) (nodeId : String)
        (requests : List Request) (row : NodeRow),
      (Run.after performMySql repo requests).find nodeId = some row →
        accountOfRow row = if removed fold nodeId requests then Account.fresh
          else ((repo.find nodeId).map accountOfRow).getD Account.fresh)
      ∧ ∀ (repo : InMemoryRepo) (nodeId : String) (requests : List Request) (r : NodeRecord),
        (Run.after performMemory repo requests).find nodeId = some r →
          (accountOfRecord r).score = if removed id nodeId requests then Account.fresh.score
            else (((repo.find nodeId).map accountOfRecord).getD Account.fresh).score := by
  have hany : ∀ (fold : String → String) (nodeId : String) (requests : List Request),
      (requests.filter (fun req => named fold nodeId req.nodeId)).any Request.removes
        = removed fold nodeId requests := fun _ _ _ => List.any_filter
  constructor
  · intro fold repo nodeId requests row hrow
    have hview := Keyed.view_foldl (fun (repo : MySqlRepo fold) node =>
        (repo.find node).map accountOfRow)
      (fun req node => named fold node req.nodeId) (fun _ => accountAfter id)
      account_performMySql repo requests nodeId
    have hafter : (requests.filter (fun req => named fold nodeId req.nodeId)).foldl
        (accountAfter id) ((repo.find nodeId).map accountOfRow) = some (accountOfRow row) :=
      hview.symm.trans (congrArg (Option.map accountOfRow) hrow)
    have hlast := foldl_accountAfter (fun a => rfl : ∀ a : Account, id (id a) = id a) hafter
    rw [hany] at hlast
    exact hlast
  · intro repo nodeId requests r hr
    have hview := Keyed.view_foldl (fun (repo : InMemoryRepo) node =>
        (repo.find node).map accountOfRecord)
      (fun req node => named id node req.nodeId) (fun _ => accountAfter renewedInMemory)
      account_performMemory repo requests nodeId
    have hafter : (requests.filter (fun req => named id nodeId req.nodeId)).foldl
        (accountAfter renewedInMemory) ((repo.find nodeId).map accountOfRecord)
          = some (accountOfRecord r) :=
      hview.symm.trans (congrArg (Option.map accountOfRecord) hr)
    have hlast := foldl_accountAfter score_renewedInMemory hafter
    rw [hany] at hlast
    exact hlast

/-- **When a run gives no better name**, over MySQL: where it does not remove
the node, or the node had nothing to lose. -/
theorem notLaundered_iff {fold : String → String} {repo : MySqlRepo fold} {nodeId : String}
    {requests : List Request} {row row' : NodeRow} (hrow : repo.find nodeId = some row)
    (hrow' : (Run.after performMySql repo requests).find nodeId = some row') :
    NotLaundered (accountOfRow row) (accountOfRow row')
      ↔ removed fold nodeId requests = true →
        1 / 2 ≤ row.reputationScore ∧ row.tasksFailed = 0 ∧ row.tasksTotal = 0 := by
  rw [history_after.1 repo nodeId requests row' hrow', hrow]
  cases removed fold nodeId requests with
  | false =>
    refine ⟨fun _ h => absurd h Bool.false_ne_true, fun _ => ?_⟩
    exact ⟨le_refl _, le_refl _, rfl⟩
  | true =>
    rw [if_pos rfl]
    show (1 / 2 ≤ row.reputationScore ∧ row.tasksFailed ≤ 0 ∧ 0 = row.tasksTotal) ↔ _
    rw [Nat.le_zero, eq_comm (a := 0)]
    exact ⟨fun h _ => h, fun h => h rfl⟩

end History

namespace Sample

/-- The node of the tables after ten tasks that failed. -/
def failedNode : MySqlRepo lowercase :=
  Heartbeats.receive oneNode ⟨{ nodeId := "n1", tasksFailed := 10 }, 1000⟩

/-- The node in memory after ten tasks that failed. -/
def failedNodeInMemory : InMemoryRepo :=
  (Heartbeats.receive oneNodeInMemory ⟨{ nodeId := "n1", tasksFailed := 10 }, 1000⟩).repo

/-- The node is removed, and registers again. -/
def removedAndBack : List History.Request :=
  [.deregister "n1", .register (registration "n1" "https://n1.test")]

/-- The node registers again. -/
def registeredAgain : List History.Request :=
  [.register (registration "n1" "https://n1.test")]

end Sample

namespace History

/-- The node of the sample keeps its account when it registers again. -/
theorem history_after_sample :
    ∃ row row', Sample.failedNode.find "n1" = some row
      ∧ (Run.after performMySql Sample.failedNode Sample.registeredAgain).find "n1" = some row'
      ∧ accountOfRow row' = accountOfRow row :=
  ⟨_, _, rfl, rfl, history_after.1 Sample.failedNode "n1" Sample.registeredAgain _ rfl⟩

/-- **A removal launders**: a node with ten failures and no reputation is
removed, registers again, and has no failure and one half, in either
repository. -/
theorem removal_launders :
    (∃ row row', Sample.failedNode.find "n1" = some row
        ∧ (Run.after performMySql Sample.failedNode Sample.removedAndBack).find "n1" = some row'
        ∧ accountOfRow row = ⟨0, 10, 10⟩ ∧ accountOfRow row' = ⟨1 / 2, 0, 0⟩
        ∧ ¬ NotLaundered (accountOfRow row) (accountOfRow row'))
      ∧ ∃ r r', Sample.failedNodeInMemory.find "n1" = some r
        ∧ (Run.after performMemory Sample.failedNodeInMemory Sample.removedAndBack).find "n1"
          = some r'
        ∧ accountOfRecord r = ⟨0, 10, 10⟩ ∧ accountOfRecord r' = ⟨1 / 2, 0, 0⟩
        ∧ ¬ NotLaundered (accountOfRecord r) (accountOfRecord r') := by
  have hnot : ∀ before after : Account, before = ⟨0, 10, 10⟩ → after = ⟨1 / 2, 0, 0⟩ →
      before = ⟨0, 10, 10⟩ ∧ after = ⟨1 / 2, 0, 0⟩ ∧ ¬ NotLaundered before after := by
    rintro _ _ rfl rfl
    refine ⟨rfl, rfl, ?_⟩
    rintro ⟨_, hfailed, _⟩
    exact absurd hfailed (by decide)
  exact ⟨⟨_, _, rfl, rfl, hnot _ _ (by decide +kernel) (by decide +kernel)⟩,
    _, _, rfl, rfl, hnot _ _ (by decide +kernel) (by decide +kernel)⟩

end History
