import IicpDirectory.Quotes

/-!
# The ledger, page by page

A node lists its transactions in pages. The query takes the rows of the node
in the order of their times, the newest first, from an offset on; only the
free allocation gives its entry a time, so most rows are tied, and the server
may put them in another order for every page.

None of it is seen. The amounts are decimals, the rows are read into floating
point numbers, and the driver has no such reading: the other reads of the
directory cast the column first. The query is taken to have failed, and a
page is empty as soon as it has a row to show (`ledger_listed_iff`).

The offset is the product of two numbers of the caller's, in 64 bits. In a
build that checks its arithmetic a product too large ends the handler, in
another one the page is that of the remainder.
-/

namespace LedgerPages

/-! ## Rows and how they are read -/

/-- A number in a row, by the type of its column. -/
inductive SqlNumber
  | double (q : ℚ)
  | decimal (q : ℚ)

/-- **What the driver makes of a number** that is asked for as an `f64`: a
double is one, a decimal is an error. -/
structure ReadsDoubles (decodeF64 : SqlNumber → Option ℚ) : Prop where
  double : ∀ q, decodeF64 (.double q) = some q
  decimal : ∀ q, decodeF64 (.decimal q) = none

/-- A row of `credit_transactions`: its number, its entry, and its time if it
was given one. -/
structure LedgerRow where
  id : ℕ
  entry : CreditEntry
  createdAt : Option ℤ
  deriving DecidableEq

/-- `CreditTransaction`. -/
structure CreditTransaction where
  id : ℕ
  amount : ℚ
  txType : EntryType
  taskId : Option String
  reason : Option String
  createdAt : String
  deriving DecidableEq

/-- The transaction of a row, with an amount. -/
def LedgerRow.transaction (showTime : ℤ → String) (row : LedgerRow) (amount : ℚ) :
    CreditTransaction :=
  ⟨row.id, amount, row.entry.type, row.entry.taskId, some row.entry.reason,
    row.createdAt.elim "" showTime⟩

/-- A row as it is read: the column of the amount is a decimal. -/
def LedgerRow.read (decodeF64 : SqlNumber → Option ℚ) (showTime : ℤ → String)
    (row : LedgerRow) : Option CreditTransaction :=
  (decodeF64 (.decimal row.entry.amount)).map (row.transaction showTime)

/-- `ORDER BY created_at DESC`: a row without a time comes after all that have
one. -/
def LedgerRow.notAfter (a b : LedgerRow) : Prop :=
  match a.createdAt, b.createdAt with
  | some s, some t => t ≤ s
  | none, some _ => False
  | _, none => True

/-- **An order the server may give the rows of a node**: those that are tied
come in any. -/
structure Arranged (fold : String → String) (rows : List LedgerRow) (nodeId : String)
    (arranged : List LedgerRow) : Prop where
  perm : arranged.Perm (rows.filter fun row => fold row.entry.nodeId = fold nodeId)
  sorted : arranged.Pairwise LedgerRow.notAfter

/-- `MySqlRepo::credit_transactions`, of the rows as the server arranges them: a
query that fails, or a row that is not read, is no rows at all. -/
def creditTransactions (decodeF64 : SqlNumber → Option ℚ) (showTime : ℤ → String) (fails : Bool)
    (arranged : List LedgerRow) (offset limit : ℕ) : List CreditTransaction :=
  ((if fails then none
    else ((arranged.drop offset).take (min limit 100)).mapM
      (LedgerRow.read decodeF64 showTime))).getD []

/-! ## The handler -/

/-- `GET /v1/credits/transactions`: the headers and the parameters. -/
structure LedgerRequest where
  bearerToken : Option String
  xNodeId : Option Bytes
  page : Option ℕ
  perPage : Option ℕ

/-- What the handler asks of the repository. -/
structure LedgerRepo where
  verifyNodeToken : String → String → Bool
  creditTransactions : String → ℕ → ℕ → List CreditTransaction

/-- A page. -/
structure LedgerPage where
  nodeId : String
  transactions : List CreditTransaction
  count : ℕ
  page : ℕ
  perPage : ℕ
  deriving DecidableEq

/-- The size of a page. -/
def LedgerRequest.size (request : LedgerRequest) : ℕ := min (request.perPage.getD 20) 100

/-- Its number. -/
def LedgerRequest.number (request : LedgerRequest) : ℕ := max (request.page.getD 1) 1

/-- `(page - 1) * per_page`, in 64 bits: nothing where the build checks the
product and it is too large. -/
def pageOffset (overflowChecks : Bool) (page perPage : ℕ) : Option ℕ :=
  if (page - 1) * perPage < 2 ^ 64 then some ((page - 1) * perPage)
  else if overflowChecks then none
  else some ((page - 1) * perPage % 2 ^ 64)

/-- `credits_transactions`: nothing where the handler ends before its answer. -/
def creditsTransactions (overflowChecks : Bool) (verifyJwt : String → Option String)
    (repo : LedgerRepo) (request : LedgerRequest) : Option (Except Rejection LedgerPage) :=
  match request.bearerToken with
  | none => some (.error ⟨401, "unauthorized", "missing node_token"⟩)
  | some token =>
    match nodeIdFromAuth verifyJwt request.xNodeId token with
    | none => some (.error ⟨422, "validation_error", "X-Node-Id header required (or use JWT)"⟩)
    | some nodeId =>
      if !repo.verifyNodeToken nodeId token then
        some (.error ⟨401, "unauthorized", "invalid node_token"⟩)
      else
        (pageOffset overflowChecks request.number request.size).map fun offset =>
          let txs := repo.creditTransactions nodeId offset request.size
          .ok ⟨nodeId, txs, txs.length, request.number, request.size⟩

/-- The request is one of a node. -/
structure Authenticates (verifyJwt : String → Option String) (repo : LedgerRepo)
    (request : LedgerRequest) (nodeId : String) : Prop where
  bearer : ∃ token, request.bearerToken = some token
    ∧ nodeIdFromAuth verifyJwt request.xNodeId token = some nodeId
    ∧ repo.verifyNodeToken nodeId token = true

/-- **The answer to a node**: the rows of its offset, if that is computed. -/
theorem creditsTransactions_of_authenticates {overflowChecks : Bool}
    {verifyJwt : String → Option String} {repo : LedgerRepo} {request : LedgerRequest}
    {nodeId : String} (h : Authenticates verifyJwt repo request nodeId) :
    creditsTransactions overflowChecks verifyJwt repo request
      = (pageOffset overflowChecks request.number request.size).map fun offset =>
          .ok ⟨nodeId, repo.creditTransactions nodeId offset request.size,
            (repo.creditTransactions nodeId offset request.size).length, request.number,
            request.size⟩ := by
  obtain ⟨token, htoken, hnode, hverified⟩ := h.bearer
  unfold creditsTransactions
  rw [htoken]
  dsimp only
  rw [hnode]
  dsimp only
  rw [hverified, Bool.not_true, if_neg Bool.false_ne_true]

/-- **The offset is computed** where the product has 64 bits. -/
theorem pageOffset_eq_iff {overflowChecks : Bool} {page perPage : ℕ} :
    pageOffset overflowChecks page perPage = some ((page - 1) * perPage)
      ↔ (page - 1) * perPage < 2 ^ 64 := by
  unfold pageOffset
  constructor
  · intro h
    split at h
    · assumption
    · split at h
      · exact absurd h (by simp)
      · rw [← Option.some.inj h]
        exact Nat.mod_lt _ (by decide)
  · exact fun h => if_pos h

/-! ## What a node sees of its ledger -/

/-- **The pages list the ledger**: every transaction once, the newest first,
with its stored amount. -/
def ListsLedger (showTime : ℤ → String) (rows : List LedgerRow) (perPage : ℕ)
    (pages : ℕ → List CreditTransaction) : Prop :=
  ∃ listed : List LedgerRow, listed.Perm rows ∧ listed.Pairwise (fun a b => b.id < a.id)
    ∧ ∀ page, 1 ≤ page → (page - 1) * perPage < 2 ^ 64 →
      pages page = ((listed.drop ((page - 1) * perPage)).take perPage).map fun row =>
        row.transaction showTime row.entry.amount

/-- **A page with a row to show is empty**, and so is every other one. -/
theorem creditTransactions_eq_nil {decodeF64 : SqlNumber → Option ℚ}
    (hdecode : ReadsDoubles decodeF64) (showTime : ℤ → String) (fails : Bool)
    (arranged : List LedgerRow) (offset limit : ℕ) :
    creditTransactions decodeF64 showTime fails arranged offset limit = [] := by
  unfold creditTransactions
  split
  · rfl
  · cases (arranged.drop offset).take (min limit 100) with
    | nil => rfl
    | cons row rest =>
      have hread : row.read decodeF64 showTime = none := by
        unfold LedgerRow.read
        rw [hdecode.decimal]
        rfl
      rw [List.mapM_cons, hread]
      rfl

/-- The requests for the pages of one size, with the same headers. -/
def pageRequest (bearerToken : Option String) (xNodeId : Option Bytes) (perPage page : ℕ) :
    LedgerRequest :=
  ⟨bearerToken, xNodeId, some page, some perPage⟩

/-- The repository at the request for a page: the server arranges the rows anew,
and its query may fail. -/
def ledgerRepo (decodeF64 : SqlNumber → Option ℚ) (showTime : ℤ → String)
    (verifyNodeToken : String → String → Bool) (arrange : ℕ → List LedgerRow) (fails : ℕ → Bool)
    (page : ℕ) : LedgerRepo where
  verifyNodeToken := verifyNodeToken
  creditTransactions _ offset limit :=
    creditTransactions decodeF64 showTime (fails page) (arrange page) offset limit

/-- The transactions of an answer. -/
def transactionsOf (answer : Option (Except Rejection LedgerPage)) : List CreditTransaction :=
  (answer.bind Except.toOption).elim [] (·.transactions)

/-- **A node sees its ledger exactly where that is empty**, whatever order the
server gives the rows; and a request is answered from the offset it asks for
exactly where the offset has 64 bits. -/
theorem ledger_listed_iff {decodeF64 : SqlNumber → Option ℚ} (hdecode : ReadsDoubles decodeF64)
    (showTime : ℤ → String) (verifyJwt : String → Option String)
    (verifyNodeToken : String → String → Bool) (overflowChecks : Bool) :
    (∀ (fold : String → String) (rows : List LedgerRow) (nodeId : String)
      (bearerToken : Option String) (xNodeId : Option Bytes) (perPage : ℕ),
      1 ≤ perPage → perPage ≤ 100 →
      ∀ (arrange : ℕ → List LedgerRow) (fails : ℕ → Bool),
        (∀ page, Arranged fold rows nodeId (arrange page)) →
        (∀ page, Authenticates verifyJwt
          (ledgerRepo decodeF64 showTime verifyNodeToken arrange fails page)
          (pageRequest bearerToken xNodeId perPage page) nodeId) →
        (ListsLedger showTime (rows.filter fun row => fold row.entry.nodeId = fold nodeId) perPage
            (fun page => transactionsOf (creditsTransactions overflowChecks verifyJwt
              (ledgerRepo decodeF64 showTime verifyNodeToken arrange fails page)
              (pageRequest bearerToken xNodeId perPage page)))
          ↔ rows.filter (fun row => fold row.entry.nodeId = fold nodeId) = []))
    ∧ ∀ (repo : LedgerRepo) (request : LedgerRequest) (nodeId : String),
      Authenticates verifyJwt repo request nodeId →
        (creditsTransactions overflowChecks verifyJwt repo request
            = some (.ok
              ⟨nodeId, repo.creditTransactions nodeId ((request.number - 1) * request.size)
                request.size,
              (repo.creditTransactions nodeId ((request.number - 1) * request.size)
                request.size).length, request.number, request.size⟩)
          ∧ pageOffset overflowChecks request.number request.size
            = some ((request.number - 1) * request.size)
          ↔ (request.number - 1) * request.size < 2 ^ 64) := by
  constructor
  · intro fold rows nodeId bearerToken xNodeId perPage hsome hmost arrange fails harranged hauth
    have hempty : ∀ page, transactionsOf (creditsTransactions overflowChecks verifyJwt
        (ledgerRepo decodeF64 showTime verifyNodeToken arrange fails page)
        (pageRequest bearerToken xNodeId perPage page)) = [] := by
      intro page
      rw [creditsTransactions_of_authenticates (hauth page)]
      cases pageOffset overflowChecks (pageRequest bearerToken xNodeId perPage page).number
        (pageRequest bearerToken xNodeId perPage page).size with
      | none => rfl
      | some offset => exact creditTransactions_eq_nil hdecode showTime _ _ _ _
    constructor
    · rintro ⟨listed, hperm, _, hpages⟩
      have hfirst := (hempty 1).symm.trans (hpages 1 le_rfl (by simp))
      rw [Nat.sub_self, Nat.zero_mul, List.drop_zero] at hfirst
      have htake : listed.take perPage = [] := List.map_eq_nil_iff.mp hfirst.symm
      rcases List.take_eq_nil_iff.mp htake with hzero | hnone
      · exact absurd hzero (Nat.one_le_iff_ne_zero.mp hsome)
      · rw [hnone] at hperm
        exact hperm.nil_eq.symm
    · intro hnone
      rw [hnone]
      refine ⟨[], List.Perm.refl [], List.Pairwise.nil, fun page _ _ => ?_⟩
      rw [List.drop_nil, List.take_nil]
      exact hempty page
  · intro repo request nodeId hauth
    constructor
    · exact fun h => pageOffset_eq_iff.mp h.2
    · intro hsmall
      have hoffset : pageOffset overflowChecks request.number request.size
          = some ((request.number - 1) * request.size) := pageOffset_eq_iff.mpr hsmall
      refine ⟨?_, hoffset⟩
      rw [creditsTransactions_of_authenticates hauth, hoffset]
      rfl

/-! ## A node with one award -/

/-- What the driver does. -/
def decodeF64 : SqlNumber → Option ℚ
  | .double q => some q
  | .decimal _ => none

theorem decodeF64_readsDoubles : ReadsDoubles decodeF64 := ⟨fun _ => rfl, fun _ => rfl⟩

/-- The award of a node. -/
def awardRow : LedgerRow :=
  ⟨1, ⟨"n1", 1, .credit, some "task-1", some "nonce", "cip_award", none⟩, none⟩

/-- Two nodes authenticate with their tokens. -/
def knownToken (nodeId token : String) : Bool :=
  (nodeId == "n1" || nodeId == "n2") && token == "node-token"

/-- No token is signed. -/
def unsignedToken (_token : String) : Option String := none

/-- The repository with that one row. -/
def awardLedger (page : ℕ) : LedgerRepo :=
  ledgerRepo decodeF64 toString knownToken (fun _ => [awardRow]) (fun _ => false) page

/-- The repository as the other node finds it. -/
def otherLedger (page : ℕ) : LedgerRepo :=
  ledgerRepo decodeF64 toString knownToken (fun _ => []) (fun _ => false) page

theorem authenticates_n2 (page : ℕ) :
    Authenticates unsignedToken (otherLedger page)
      (pageRequest (some "node-token") (some [110, 50]) 20 page) "n2" := by
  have hname : nodeIdFromAuth unsignedToken (some [110, 50]) "node-token" = some "n2" := by decide
  exact ⟨"node-token", rfl, hname, rfl⟩

/-- The other node, which has no award, sees its ledger, and a page that is far
out is answered. -/
theorem ledger_listed_other :
    ListsLedger toString [] 20 (fun page => transactionsOf (creditsTransactions true unsignedToken
        (otherLedger page) (pageRequest (some "node-token") (some [110, 50]) 20 page)))
      ∧ creditsTransactions true unsignedToken (otherLedger 1000000)
          (pageRequest (some "node-token") (some [110, 50]) 20 1000000)
        = some (.ok ⟨"n2", [], 0, 1000000, 20⟩) := by
  have harranged : Arranged id [awardRow] "n2" [] := ⟨List.Perm.refl [], List.Pairwise.nil⟩
  have htheorem := ledger_listed_iff decodeF64_readsDoubles toString unsignedToken knownToken true
  refine ⟨(htheorem.1 id [awardRow] "n2" (some "node-token") (some [110, 50]) 20 (by decide)
      (by decide) (fun _ => []) (fun _ => false) (fun _ => harranged) authenticates_n2).mpr rfl,
    ((htheorem.2 (otherLedger 1000000) _ "n2" (authenticates_n2 1000000)).mpr (by decide)).1⟩

/-- **An award is on no page**: the first one is empty, as are the others. And
the last page number there is, times the largest size, has more than 64
bits: the handler ends there, or answers with another page. -/
theorem award_not_listed :
    Arranged id [awardRow] "n1" [awardRow]
      ∧ creditsTransactions true unsignedToken (awardLedger 1)
          (pageRequest (some "node-token") (some [110, 49]) 20 1) = some (.ok ⟨"n1", [], 0, 1, 20⟩)
      ∧ ¬ ListsLedger toString [awardRow] 20 (fun page => transactionsOf
          (creditsTransactions true unsignedToken (awardLedger page)
            (pageRequest (some "node-token") (some [110, 49]) 20 page)))
      ∧ creditsTransactions true unsignedToken (awardLedger (2 ^ 64 - 1))
          (pageRequest (some "node-token") (some [110, 49]) 100 (2 ^ 64 - 1)) = none
      ∧ pageOffset false (2 ^ 64 - 1) 100 = some (2 ^ 64 - 200) := by
  have hfirst : creditsTransactions true unsignedToken (awardLedger 1)
      (pageRequest (some "node-token") (some [110, 49]) 20 1)
        = some (.ok ⟨"n1", [], 0, 1, 20⟩) := by decide
  refine ⟨⟨List.Perm.refl _, List.pairwise_singleton _ _⟩, hfirst, ?_, by decide, by decide⟩
  rintro ⟨listed, hperm, _, hpages⟩
  obtain rfl := List.perm_singleton.mp hperm
  have hpage := hpages 1 le_rfl (by decide)
  dsimp only at hpage
  rw [hfirst] at hpage
  have hlisted : [] = [awardRow.transaction toString 1] := hpage
  exact List.cons_ne_nil _ _ hlisted.symm

end LedgerPages
