import IicpDirectory.Credits
import IicpDirectory.Federation
import Mathlib.Algebra.Order.BigOperators.Group.List

/-!
# Quotes

What a request for so many tokens may cost is told before it is sent: an
estimate from the multipliers of the nodes that could serve it
(`computeQuote`), and whether the consumer has as much. A consumer without
an operator has its own balance; the nodes of an operator are one wallet,
and what is summed of them is what may be spent of them.

The identity of the consumer comes from its token, where that is signed, or
from a header, which is read only if it is plain text.
-/

/-! ## The estimate -/

/-- The costs at the average, the lowest and the highest multiplier. -/
structure QuoteEstimate where
  estimated : ℚ
  min : ℚ
  max : ℚ
  pricePer1000 : ℚ
  nodesQuoted : ℕ

/-- The thousands of tokens begun. -/
def baseBlocks (maxTokens : ℕ) : ℚ := ((maxTokens + 999) / 1000 : ℕ)

/-- The average of some numbers. -/
def average (multipliers : List ℚ) : ℚ := multipliers.sum / multipliers.length

/-- `compute_quote`. Where nobody serves, the rate is one. -/
def computeQuote (maxTokens : ℕ) (multipliers : List ℚ) : QuoteEstimate :=
  match multipliers.min?, multipliers.max? with
  | some lowest, some highest =>
    { estimated := round4 (baseBlocks maxTokens * average multipliers)
      min := round4 (baseBlocks maxTokens * lowest)
      max := round4 (baseBlocks maxTokens * highest)
      pricePer1000 := round4 (average multipliers)
      nodesQuoted := multipliers.length }
  | _, _ =>
    { estimated := round4 (baseBlocks maxTokens)
      min := round4 (baseBlocks maxTokens)
      max := round4 (baseBlocks maxTokens)
      pricePer1000 := 1
      nodesQuoted := 0 }

/-- An average lies between a lower and an upper bound. -/
theorem average_between {multipliers : List ℚ} (hsome : multipliers ≠ []) {lowest highest : ℚ}
    (hlowest : ∀ m ∈ multipliers, lowest ≤ m) (hhighest : ∀ m ∈ multipliers, m ≤ highest) :
    lowest ≤ average multipliers ∧ average multipliers ≤ highest := by
  have hlength : (0 : ℚ) < multipliers.length :=
    Nat.cast_pos.mpr (List.length_pos_of_ne_nil hsome)
  have hlow := List.card_nsmul_le_sum multipliers lowest hlowest
  have hhigh := List.sum_le_card_nsmul multipliers highest hhighest
  rw [nsmul_eq_mul] at hlow hhigh
  unfold average
  rw [le_div_iff₀ hlength, div_le_iff₀ hlength, mul_comm lowest, mul_comm highest]
  exact ⟨hlow, hhigh⟩

/-- **The estimate lies between the lowest and the highest cost.** -/
theorem computeQuote_between (maxTokens : ℕ) (multipliers : List ℚ) :
    (computeQuote maxTokens multipliers).min ≤ (computeQuote maxTokens multipliers).estimated
      ∧ (computeQuote maxTokens multipliers).estimated
        ≤ (computeQuote maxTokens multipliers).max := by
  unfold computeQuote
  split
  · next lowest highest hmin hmax =>
    obtain ⟨hmem, hlowest⟩ := List.min?_eq_some_iff.mp hmin
    obtain ⟨_, hhighest⟩ := List.max?_eq_some_iff.mp hmax
    obtain ⟨hlow, hhigh⟩ := average_between (List.ne_nil_of_mem hmem) hlowest hhighest
    have hblocks : 0 ≤ baseBlocks maxTokens := Nat.cast_nonneg _
    exact ⟨round4_mono (mul_le_mul_of_nonneg_left hlow hblocks),
      round4_mono (mul_le_mul_of_nonneg_left hhigh hblocks)⟩
  · exact ⟨le_rfl, le_rfl⟩

/-- The nodes quoted are as many as the multipliers. -/
theorem nodesQuoted_computeQuote (maxTokens : ℕ) (multipliers : List ℚ) :
    (computeQuote maxTokens multipliers).nodesQuoted = multipliers.length := by
  unfold computeQuote
  split
  · rfl
  · next hnone =>
    cases multipliers with
    | nil => rfl
    | cons m rest => exact (hnone _ _ List.min?_cons' List.max?_cons').elim

/-! ## What a consumer has -/

/-- `EffectiveCreditBalance`. -/
structure EffectiveCreditBalance where
  consumerBalance : ℚ
  effectiveBalance : ℚ
  balanceScope : String
  operatorWalletBalance : Option ℚ

namespace CreditDb

variable {fold : String → String}

/-- The operator a node is bound to: an empty key is none. -/
def operatorOf (db : CreditDb fold) (nodeId : String) : Option String :=
  ((db.node nodeId).bind (·.operatorPubkey)).filter (· ≠ "")

/-- `SUM(credit_balance)` over the nodes of an operator that are in use and
have credit to spend. -/
def walletBalance (db : CreditDb fold) (now : ℤ) (operatorPubkey : String) : ℚ :=
  ((db.nodes.rows.filter fun n => db.Eligible now operatorPubkey n).map (·.creditBalance)).sum

/-- `MySqlRepo::effective_credit_balance`. A lookup of the operator that fails
finds none, and a sum that fails is nothing. -/
def effectiveCreditBalance (fails : ℕ → Bool) (now : ℤ) (db : CreditDb fold) (nodeId : String) :
    Option EffectiveCreditBalance :=
  (if fails 0 then none else db.nodeBalance nodeId).map fun consumerBalance =>
    match if fails 1 then none else db.operatorOf nodeId with
    | none => ⟨consumerBalance, consumerBalance, "node", none⟩
    | some operatorPubkey =>
      let wallet := if fails 2 then 0 else db.walletBalance now operatorPubkey
      ⟨consumerBalance, wallet, "operator_wallet", some wallet⟩

end CreditDb

/-! ## The handler -/

/-- `HeaderValue::to_str`: only visible characters, blanks and tabs. -/
def headerText (value : Bytes) : Option String :=
  if value.all fun b => (32 ≤ b && b < 127) || b == 9 then
    some (String.ofList (value.map fun b => Char.ofNat b.toNat))
  else none

/-- `node_id_from_auth`: the subject of a signed token, or else the header. -/
def nodeIdFromAuth (verifyJwt : String → Option String) (xNodeId : Option Bytes)
    (token : String) : Option String :=
  (verifyJwt token).or ((xNodeId.bind headerText).filter (· ≠ ""))

/-- An error of a handler. -/
structure Rejection where
  status : ℕ
  code : String
  message : String
  deriving DecidableEq

/-- `GET /v1/credits/quote`: the headers and the parameters. -/
structure QuoteRequest where
  bearerToken : Option String
  xNodeId : Option Bytes
  intent : Option String
  maxTokens : Option ℕ
  minReputation : Option ℚ

/-- What the handler asks of the repository. -/
structure QuoteRepo where
  verifyNodeToken : String → String → Bool
  quoteMultipliers : String → ℚ → List ℚ
  effectiveCreditBalance : String → Option EffectiveCreditBalance

/-- A quote. -/
structure Quote where
  quoteId : String
  estimatedCredits : ℚ
  minCredits : ℚ
  maxCredits : ℚ
  pricePer1000Tokens : ℚ
  nodesQuoted : ℕ
  quoteExpiresAt : String
  currency : String
  consumerBalance : ℚ
  effectiveBalance : ℚ
  balanceScope : String
  operatorWalletBalance : Option ℚ
  balanceSufficient : Bool
  deriving DecidableEq

/-- `credits_quote`, under an identity and an end that are drawn. -/
def creditsQuote (verifyJwt : String → Option String) (repo : QuoteRepo)
    (quoteId expiresAt : String) (request : QuoteRequest) : Except Rejection Quote :=
  match request.bearerToken with
  | none => .error ⟨401, "unauthorized", "missing node_token"⟩
  | some token =>
    match nodeIdFromAuth verifyJwt request.xNodeId token with
    | none => .error ⟨422, "validation_error", "X-Node-Id header required (or use JWT)"⟩
    | some nodeId =>
      if !repo.verifyNodeToken nodeId token then
        .error ⟨401, "unauthorized", "invalid node_token"⟩
      else
        let intent := request.intent.getD ""
        let maxTokens := request.maxTokens.getD 0
        if intent = "" ∨ maxTokens = 0 then
          .error ⟨422, "validation_error",
            "intent and max_tokens are required (max_tokens > 0)"⟩
        else
          let minRep := max 0 (min (request.minReputation.getD 0) 1)
          let est := computeQuote maxTokens (repo.quoteMultipliers intent minRep)
          let effective := (repo.effectiveCreditBalance nodeId).getD ⟨0, 0, "node", none⟩
          .ok
            { quoteId := quoteId
              estimatedCredits := est.estimated
              minCredits := est.min
              maxCredits := est.max
              pricePer1000Tokens := est.pricePer1000
              nodesQuoted := est.nodesQuoted
              quoteExpiresAt := expiresAt
              currency := "iicp_credits"
              consumerBalance := effective.consumerBalance
              effectiveBalance := effective.effectiveBalance
              balanceScope := effective.balanceScope
              operatorWalletBalance := effective.operatorWalletBalance
              balanceSufficient := decide (est.estimated ≤ effective.effectiveBalance) }

/-- **What a quote says of the consumer**: what the repository has for it, and
whether it is as much as the estimate. -/
theorem creditsQuote_eq_ok {verifyJwt : String → Option String} {repo : QuoteRepo}
    {quoteId expiresAt : String} {request : QuoteRequest} {quote : Quote}
    (h : creditsQuote verifyJwt repo quoteId expiresAt request = .ok quote) :
    ∃ token nodeId, request.bearerToken = some token
      ∧ nodeIdFromAuth verifyJwt request.xNodeId token = some nodeId
      ∧ ∃ effective, effective = (repo.effectiveCreditBalance nodeId).getD ⟨0, 0, "node", none⟩
        ∧ quote.balanceScope = effective.balanceScope
        ∧ (quote.balanceSufficient = true
          ↔ quote.estimatedCredits ≤ effective.effectiveBalance) := by
  unfold creditsQuote at h
  split at h
  · exact absurd h (by simp)
  · next token htoken =>
    split at h
    · exact absurd h (by simp)
    · next nodeId hnode =>
      refine ⟨token, nodeId, htoken, hnode, _, rfl, ?_⟩
      split at h
      · exact absurd h (by simp)
      · dsimp only at h
        split at h
        · exact absurd h (by simp)
        · obtain rfl := Except.ok.inj h
          exact ⟨rfl, decide_eq_true_iff⟩

/-! ## Identities are plain text -/

/-- A text of one byte a character. -/
def Plain (s : String) : Prop := ∀ c ∈ s.toList, c.utf8Size = 1

/-- **A header that is read is plain text.** -/
theorem plain_headerText {value : Bytes} {s : String} (h : headerText value = some s) :
    Plain s := by
  unfold headerText at h
  split at h
  · next hall =>
    obtain rfl := Option.some.inj h
    intro c hc
    rw [String.toList_ofList] at hc
    obtain ⟨b, hb, rfl⟩ := List.mem_map.mp hc
    have hsmall : b.toNat < 128 := by
      have hb' := List.all_eq_true.mp hall b hb
      rw [Bool.or_eq_true, Bool.and_eq_true, decide_eq_true_iff, decide_eq_true_iff,
        beq_iff_eq] at hb'
      rcases hb' with ⟨_, hlt⟩ | rfl
      · have := UInt8.lt_iff_toNat_lt.mp hlt
        exact this.trans (by decide)
      · decide
    have hval : (Char.ofNat b.toNat).val.toNat = b.toNat := by
      rw [Char.ofNat, dif_pos (Or.inl (hsmall.trans (by decide)))]
      rfl
    have hle : (Char.ofNat b.toNat).val ≤ 0x7F := by
      rw [UInt32.le_iff_toNat_le, hval]
      exact Nat.le_of_lt_succ hsmall
    exact Char.utf8Size_eq_one_iff.mpr hle
  · exact absurd h (by simp)

/-- **What the directory relies on**: the subjects of the tokens it signed are
identities it issued, which are plain text. -/
def SignsPlain (verifyJwt : String → Option String) : Prop :=
  ∀ token sub, verifyJwt token = some sub → Plain sub

/-- So is the identity of a consumer. -/
theorem plain_nodeIdFromAuth {verifyJwt : String → Option String} (hjwt : SignsPlain verifyJwt)
    {xNodeId : Option Bytes} {token nodeId : String}
    (h : nodeIdFromAuth verifyJwt xNodeId token = some nodeId) :
    Plain nodeId := by
  unfold nodeIdFromAuth at h
  rcases Option.or_eq_some_iff.mp h with hsub | ⟨_, hheader⟩
  · exact hjwt token nodeId hsub
  · obtain ⟨htext, _⟩ := Option.filter_eq_some_iff.mp hheader
    obtain ⟨value, _, hvalue⟩ := Option.bind_eq_some_iff.mp htext
    exact plain_headerText hvalue

/-- A plain text can be cut anywhere. -/
theorem bytePrefix_of_plain (n : ℕ) {cs : List Char} (h : ∀ c ∈ cs, c.utf8Size = 1) :
    CreditDb.bytePrefix n cs = some (cs.take n) := by
  induction cs generalizing n with
  | nil => cases n <;> rfl
  | cons c rest ih =>
    cases n with
    | zero => rfl
    | succ n =>
      have hc := h c List.mem_cons_self
      rw [CreditDb.bytePrefix, if_pos (by omega), hc, Nat.add_sub_cancel,
        ih n fun d hd => h d (List.mem_cons_of_mem c hd)]
      rfl
