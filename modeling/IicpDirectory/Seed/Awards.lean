import IicpDirectory.Seed.Ledger
import IicpDirectory.Seed.Ownership
import IicpDirectory.Seed.Solvency
import IicpDirectory.Seed.Spending

/-!
# Awards

A node that has served a task asks for its credit with a receipt: a code
under its key over what it did, for whom, and a nonce. The handler checks the
receipt, settles who the task was for, records the award, debits the
consumer, and has the award in the log.

The handler is the same over both repositories, and is written over what it
asks of one (`AwardRepo`). The repository in memory has no ledger: it answers
and changes nothing. Over the tables each read may fail, each transaction is
tried three times, and a read that fails is a node that is not there.
-/

open CreditDb (WalletDebitResult awardedAmount)

/-- `CreditAwardRequest`. -/
structure CreditAwardRequest where
  nodeId : String
  taskId : String
  tokensUsed : ℕ
  cipParentTaskId : String
  cipSessionKey : String
  nonce : String
  responseHash : String
  signature : String
  amount : ℚ
  queryingNodeId : Option String
  deriving DecidableEq

namespace CreditAwardRequest

/-- The node the task was for: an empty name is none. -/
def querying (req : CreditAwardRequest) : Option String := req.queryingNodeId.filter (· ≠ "")

/-- What the receipt is a code of. -/
def canonical (req : CreditAwardRequest) : String :=
  req.taskId ++ ":" ++ toString req.tokensUsed ++ ":" ++ req.cipParentTaskId ++ ":"
    ++ req.cipSessionKey ++ ":" ++ req.nonce ++ ":" ++ req.responseHash
    ++ (req.querying.elim "" fun queryingNodeId => ":" ++ queryingNodeId)

end CreditAwardRequest

/-- `verify_cip_receipt`. The key may have any length. -/
def verifyCipReceipt (hmac : String → String → Bytes) (req : CreditAwardRequest)
    (hmacKey : String) : Bool :=
  match Hex.decode req.signature with
  | none => false
  | some expectedBytes => expectedBytes == hmac hmacKey req.canonical

/-- What the handler reads of a node: the operator it is bound to, if any. -/
structure BoundNode where
  nodeId : String
  operatorPubkey : Option String
  deriving DecidableEq

/-- **What the handler asks of a repository.** The number tells the reads of
one request apart. -/
structure AwardRepo (σ : Type) where
  verifyNodeToken : ℕ → σ → String → String → Bool
  nodeHmacKey : ℕ → σ → String → Option String
  get : ℕ → σ → String → Option BoundNode
  recordCreditAward : σ → String → ℚ → String → String → Except CreditError ℚ × σ
  debitForConsumer : σ → String → ℚ → String → String → WalletDebitResult × σ

/-- What a handler answers. -/
structure Response where
  status : ℕ
  body : Json

/-- `err_json`. -/
def Rejection.response (r : Rejection) : Response :=
  ⟨r.status, .object [("error", .object [("code", .string r.code), ("message", .string r.message)])]⟩

/-- An award that is to be recorded. -/
structure Admitted where
  request : CreditAwardRequest
  amount : ℚ
  attribution : String
  trustWeight : ℚ

/-- An operator is bound: an empty key is none. -/
def verifiedOperator (operatorPubkey : Option String) : Bool := operatorPubkey.any (· ≠ "")

/-- An award of a node to itself, or to another one of its operator. -/
def excludedResponse (req : CreditAwardRequest) (attribution : String) : Response :=
  ⟨200, .object
    [("node_id", .string req.nodeId), ("awarded", .number (.float 0)),
     ("spent", .number (.float 0)), ("excluded", .bool true),
     ("reason", .string "self_query_excluded"), ("attribution", .string attribution),
     ("trust_weight", .number (.float 0))]⟩

section Handler

variable {σ : Type} (hmac : String → String → Bytes) (R : AwardRepo σ)

/-- The checks on a request, up to the amount that is awarded. -/
def admitAward (s : σ) (bearerToken : Option String) (request : Option CreditAwardRequest) :
    Except Rejection (CreditAwardRequest × ℚ) :=
  match bearerToken with
  | none => .error ⟨401, "unauthorized", "missing node_token"⟩
  | some token =>
    match request with
    | none => .error ⟨422, "validation_error", "invalid credit award request"⟩
    | some req =>
      if !R.verifyNodeToken 0 s req.nodeId token then
        .error ⟨401, "unauthorized", "invalid node_token"⟩
      else if req.nonce.utf8ByteSize < 32 then
        .error ⟨422, "validation_error", "nonce must be at least 32 characters"⟩
      else
        match R.nodeHmacKey 1 s req.nodeId with
        | none => .error ⟨404, "IICP-E003", "node not found"⟩
        | some hmacKey =>
          if !verifyCipReceipt hmac req hmacKey then
            .error ⟨422, "IICP-E027", "invalid receipt signature"⟩
          else if req.amount < 1 / 10000 then
            .error ⟨422, "validation_error", "amount must be >= 0.0001"⟩
          else .ok (req, awardedAmount req.amount req.tokensUsed)

/-- Who the task was for, and what the award is worth for trust. A node that
served itself, or a node of its own operator, is answered without an award. -/
def attributeAward (s : σ) (req : CreditAwardRequest) : Except Response (String × ℚ) :=
  match req.querying with
  | none => .ok ("legacy_unattributed", 0)
  | some queryingNodeId =>
    if queryingNodeId = req.nodeId then .error (excludedResponse req "self_node")
    else
      let servingPubkey := (R.get 2 s req.nodeId).bind (·.operatorPubkey)
      match R.get 3 s queryingNodeId with
      | none =>
        .error (Rejection.response
          ⟨422, "IICP-E027", "querying_node_id does not identify a registered node"⟩)
      | some querying =>
        if verifiedOperator servingPubkey ∧ querying.operatorPubkey = servingPubkey then
          .error (excludedResponse req "self_operator")
        else if verifiedOperator servingPubkey && verifiedOperator querying.operatorPubkey then
          .ok ("attributed_cross_operator", 1)
        else .ok ("attributed_cross_node_unverified_operator", 1 / 2)

/-- A request up to the award that is to be recorded for it. -/
def acceptAward (s : σ) (bearerToken : Option String) (request : Option CreditAwardRequest) :
    Except Response Admitted :=
  match admitAward hmac R s bearerToken request with
  | .error rejection => .error rejection.response
  | .ok (req, amount) =>
    match attributeAward R s req with
    | .error response => .error response
    | .ok (attribution, trustWeight) => .ok ⟨req, amount, attribution, trustWeight⟩

/-- The event of an award. -/
def awardEvent (a : Admitted) (newBalance : ℚ) (spend : Option WalletDebitResult) : NewEvent :=
  ⟨"CREDIT_AWARD", a.request.nodeId, .object
    [("amount", .number (.float a.amount)), ("new_balance", .number (.float newBalance)),
     ("task_id", .string a.request.taskId),
     ("querying_node_id", a.request.queryingNodeId.elim .null .string),
     ("attribution", .string a.attribution), ("trust_weight", .number (.float a.trustWeight)),
     ("spent", .number (.float (spend.elim 0 (·.spent)))),
     ("spend_scope", spend.elim .null fun s => .string s.scope),
     ("debit_count", spend.elim .null fun s => .number (.posInt s.debitCount))]⟩

/-- The answer to an award. -/
def awardResponse (a : Admitted) (newBalance : ℚ) (spend : Option WalletDebitResult) : Response :=
  ⟨201, .object
    ([("node_id", .string a.request.nodeId), ("awarded", .number (.float a.amount)),
      ("balance", .number (.float newBalance)),
      ("spent", .number (.float (spend.elim 0 (·.spent)))),
      ("attribution", .string a.attribution), ("trust_weight", .number (.float a.trustWeight))]
    ++ spend.elim [] fun s =>
      [("spend_scope", .string s.scope), ("debit_count", .number (.posInt s.debitCount))]
        ++ s.reason.elim [] fun reason => [("spend_reason", .string reason)])⟩

/-- The debit of the consumer, if one is named. -/
def spendFor (s : σ) (a : Admitted) : Option WalletDebitResult × σ :=
  match a.request.querying with
  | none => (none, s)
  | some queryingNodeId =>
    let r := R.debitForConsumer s queryingNodeId a.amount a.request.taskId "task_spend"
    (some r.1, r.2)

/-- `credits_award`: the answer, what it leaves, and the event it emits. -/
def creditsAward (s : σ) (bearerToken : Option String) (request : Option CreditAwardRequest) :
    Response × σ × Option NewEvent :=
  match acceptAward hmac R s bearerToken request with
  | .error response => (response, s, none)
  | .ok a =>
    match R.recordCreditAward s a.request.nodeId a.amount a.request.taskId a.request.nonce with
    | (.ok newBalance, s') =>
      let spend := spendFor R s' a
      (awardResponse a newBalance spend.1, spend.2, some (awardEvent a newBalance spend.1))
    | (.error .nonceReplay, s') =>
      (Rejection.response ⟨409, "nonce_replay", "nonce already used"⟩, s', none)
    | (.error _, s') =>
      (Rejection.response ⟨500, "server_error", "credit award failed"⟩, s', none)

/-- The event of an award that names no consumer. -/
theorem awardEvent_unnamed (req : CreditAwardRequest) (hunnamed : req.queryingNodeId = none)
    (amount newBalance : ℚ) :
    awardEvent ⟨req, amount, "legacy_unattributed", 0⟩ newBalance none
      = creditAwardEvent req.nodeId amount newBalance req.taskId := by
  unfold awardEvent
  rw [hunnamed]
  rfl

end Handler

/-! ## What a request has to meet -/

section Checks

variable {σ : Type} {hmac : String → String → Bytes} {R : AwardRepo σ} {s : σ}
  {bearerToken : Option String} {request : Option CreditAwardRequest}

/-- **A request passes the checks**: its node is authenticated, and the receipt
is one under the key of the node. -/
structure Admits (hmac : String → String → Bytes) (R : AwardRepo σ) (s : σ)
    (bearerToken : Option String) (req : CreditAwardRequest) : Prop where
  token : ∃ token, bearerToken = some token ∧ R.verifyNodeToken 0 s req.nodeId token = true
  nonce : 32 ≤ req.nonce.utf8ByteSize
  receipt : ∃ hmacKey, R.nodeHmacKey 1 s req.nodeId = some hmacKey
    ∧ verifyCipReceipt hmac req hmacKey = true
  amount : 1 / 10000 ≤ req.amount

theorem admitAward_eq_ok_iff {admitted : CreditAwardRequest × ℚ} :
    admitAward hmac R s bearerToken request = .ok admitted
      ↔ ∃ req, request = some req ∧ Admits hmac R s bearerToken req
        ∧ admitted = (req, awardedAmount req.amount req.tokensUsed) := by
  unfold admitAward
  cases bearerToken with
  | none =>
    refine iff_of_false (by simp) ?_
    rintro ⟨_, _, hadmits, _⟩
    obtain ⟨_, h, _⟩ := hadmits.token
    exact absurd h (by simp)
  | some token =>
    cases request with
    | none => exact iff_of_false (by simp) fun ⟨_, h, _⟩ => absurd h (by simp)
    | some req =>
      dsimp only
      constructor
      · intro h
        split at h
        · exact absurd h (by simp)
        · next htoken =>
          split at h
          · exact absurd h (by simp)
          · next hnonce =>
            split at h
            · exact absurd h (by simp)
            · next hmacKey hkey =>
              split at h
              · exact absurd h (by simp)
              · next hreceipt =>
                split at h
                · exact absurd h (by simp)
                · next hamount =>
                  exact ⟨req, rfl, ⟨⟨token, rfl, by simpa using htoken⟩, not_lt.mp hnonce,
                    ⟨hmacKey, hkey, by simpa using hreceipt⟩, not_lt.mp hamount⟩,
                    (Except.ok.inj h).symm⟩
      · rintro ⟨_, hreq, hadmits, rfl⟩
        obtain rfl := Option.some.inj hreq
        obtain ⟨_, htoken, hverified⟩ := hadmits.token
        obtain rfl := Option.some.inj htoken
        obtain ⟨hmacKey, hkey, hreceipt⟩ := hadmits.receipt
        rw [hverified, Bool.not_true, if_neg Bool.false_ne_true, if_neg (not_lt.mpr hadmits.nonce),
          hkey]
        dsimp only
        rw [hreceipt, Bool.not_true, if_neg Bool.false_ne_true, if_neg (not_lt.mpr hadmits.amount)]

/-- **The receipt of a request that is accepted** is one under a key of its
node. -/
theorem acceptAward_eq_ok_iff {a : Admitted} :
    acceptAward hmac R s bearerToken request = .ok a
      ↔ ∃ req, request = some req ∧ Admits hmac R s bearerToken req
        ∧ ∃ attribution trustWeight, attributeAward R s req = .ok (attribution, trustWeight)
          ∧ a = ⟨req, awardedAmount req.amount req.tokensUsed, attribution, trustWeight⟩ := by
  unfold acceptAward
  constructor
  · intro h
    split at h
    · exact absurd h (by simp)
    · next req amount hadmit =>
      obtain ⟨req', hreq, hadmits, heq⟩ := admitAward_eq_ok_iff.mp hadmit
      obtain ⟨rfl, rfl⟩ := Prod.mk.inj heq
      split at h
      · exact absurd h (by simp)
      · next attribution trustWeight hattribute =>
        exact ⟨req, hreq, hadmits, attribution, trustWeight, hattribute, (Except.ok.inj h).symm⟩
  · rintro ⟨req, hreq, hadmits, attribution, trustWeight, hattribute, rfl⟩
    rw [admitAward_eq_ok_iff.mpr ⟨req, hreq, hadmits, rfl⟩]
    dsimp only
    rw [hattribute]

end Checks

/-! ## The two repositories -/

/-- The columns of `nodes` that authenticate a node and its receipts. -/
structure NodeSecrets where
  id : String
  nodeTokenHash : String
  nodeHmacKey : String

/-- **The tables** an award reads and writes. -/
structure AwardTables (B : Bcrypt) (fold : String → String) where
  db : CreditDb fold
  secrets : Table (fun s : NodeSecrets => fold s.id)

/-- What one request meets: which of its reads fail, and the attempts at its
two transactions. -/
structure AwardServer where
  now : ℤ
  fails : ℕ → Bool
  award : Fin 3 → CreditDb.Attempt
  debit : Fin 3 → CreditDb.Attempt

namespace CreditDb

variable {fold : String → String}

/-- The attempts at an award: the next one only after a failure that may
pass. -/
def awardAttempts (store : ℚ → ℚ) (now : ℤ) (nodeId : String) (amount : ℚ)
    (taskId nonce : String) : List Attempt → CreditDb fold → Except CreditError ℚ × CreditDb fold
  | [], db => (.error .dbError, db)
  | attempt :: rest, db =>
    match recordCreditAwardOnce store attempt.server now db nodeId amount taskId nonce with
    | (.error .dbError, db') =>
      if attempt.transient then awardAttempts store now nodeId amount taskId nonce rest db'
      else (.error .dbError, db')
    | r => r

/-- `MySqlRepo::record_credit_award`: three attempts. -/
def recordCreditAward (store : ℚ → ℚ) (attempts : Fin 3 → Attempt) (now : ℤ) (db : CreditDb fold)
    (nodeId : String) (amount : ℚ) (taskId nonce : String) : Except CreditError ℚ × CreditDb fold :=
  awardAttempts store now nodeId amount taskId nonce (List.ofFn attempts) db

end CreditDb

namespace AwardTables

variable {B : Bcrypt} {fold : String → String}

/-- `MySqlRepo::verify_node_token`, of a row that is read. -/
def verifyNodeToken (t : AwardTables B fold) (nodeId token : String) : Bool :=
  (t.secrets.find (fold nodeId)).any fun s => B.verify token s.nodeTokenHash

/-- `MySqlRepo::node_hmac_key`, of a row that is read: an empty key is none. -/
def nodeHmacKey (t : AwardTables B fold) (nodeId : String) : Option String :=
  ((t.secrets.find (fold nodeId)).map (·.nodeHmacKey)).filter (· ≠ "")

/-- `MySqlRepo::get`, of a row that is read. -/
def get (t : AwardTables B fold) (nodeId : String) : Option BoundNode :=
  (t.db.node nodeId).map fun n => ⟨n.id, n.operatorPubkey⟩

/-- `MySqlRepo`, as the handler finds it. The reads of a request are its token,
its key, its two nodes, and the operator of the consumer. -/
def awardRepo (B : Bcrypt) (fold : String → String) (store : ℚ → ℚ) (server : AwardServer) :
    AwardRepo (AwardTables B fold) where
  verifyNodeToken n t nodeId token := !server.fails n && t.verifyNodeToken nodeId token
  nodeHmacKey n t nodeId := if server.fails n then none else t.nodeHmacKey nodeId
  get n t nodeId := if server.fails n then none else t.get nodeId
  recordCreditAward t nodeId amount taskId nonce :=
    let r := t.db.recordCreditAward store server.award server.now nodeId amount taskId nonce
    (r.1, { t with db := r.2 })
  debitForConsumer t consumerNodeId amount taskId reason :=
    let r := t.db.debitForConsumer store (server.fails 4) server.debit server.now consumerNodeId
      amount taskId reason
    (r.1, { t with db := r.2 })

end AwardTables

namespace TokenMemory

/-- `InMemoryRepo::get`. -/
def bound (m : TokenMemory) (nodeId : String) : Option BoundNode :=
  (m.repo.find nodeId).map fun r => ⟨r.id, r.node.operatorPubkey⟩

/-- `InMemoryRepo::record_credit_award`: there is no ledger, and nothing is
told of the nonce. -/
def recordCreditAward (m : TokenMemory) (nodeId : String) (amount : ℚ) (_taskId _nonce : String) :
    Except CreditError ℚ × TokenMemory :=
  (if (m.repo.find nodeId).isSome then .ok amount else .error .nodeNotFound, m)

/-- `InMemoryRepo::debit_for_consumer`: nothing is there to be spent. -/
def debitForConsumer (m : TokenMemory) (consumerNodeId : String) (_amount : ℚ)
    (_taskId _reason : String) : WalletDebitResult × TokenMemory :=
  (if verifiedOperator ((m.bound consumerNodeId).bind (·.operatorPubkey)) then
      ⟨false, 0, "operator_wallet", some "insufficient_operator_wallet_balance", 0⟩
    else ⟨false, 0, "node", some "insufficient_balance", 0⟩, m)

/-- `InMemoryRepo`, as the handler finds it. -/
def awardRepo : AwardRepo TokenMemory where
  verifyNodeToken _ m := m.verifyNodeToken
  nodeHmacKey _ m nodeId := (m.repo.find nodeId).bind (·.nodeHmacKey)
  get _ m := m.bound
  recordCreditAward := recordCreditAward
  debitForConsumer := debitForConsumer

end TokenMemory
