import IicpDirectory.Seed.Receipts

/-!
# A node that serves itself

An award is for what was done for somebody else: one that a node asks for a
task of its own, or of another node of its operator, is to change nothing. The
handler compares the two names as they are written. The tables look a node up
under their collation, which sees one name where the handler sees two, so a
node without an operator that writes its own name another way is paid. With an
operator it is not, since both names lead to one row; but the operator is read
from the row, and a read that fails is a node without one
(`selfDealing_unpaid`).

In memory names are compared the same way everywhere, and what is left of the
difference are operators with an empty key.
-/

/-- **A node serves itself**: what the request names as the one that asked
leads to the node that served, or to a node with the same operator. -/
def SelfDealing (lookup : String → Option BoundNode) (req : CreditAwardRequest) : Prop :=
  ∃ queryingNodeId serving querying, req.queryingNodeId = some queryingNodeId
    ∧ lookup req.nodeId = some serving ∧ lookup queryingNodeId = some querying
    ∧ (querying.nodeId = serving.nodeId
      ∨ ∃ key, querying.operatorPubkey = some key ∧ serving.operatorPubkey = some key)

/-- **The handler turns a request away** for what it names: the name is that of
the node that served, letter by letter, or the node it names is not read, or
the one that served is read and has an operator. -/
def TurnedAway (lookup : String → Option BoundNode) (fails : ℕ → Bool)
    (req : CreditAwardRequest) : Prop :=
  ∃ queryingNodeId, req.querying = some queryingNodeId
    ∧ (queryingNodeId = req.nodeId ∨ fails 3 = true
      ∨ fails 2 = false ∧ ∃ serving key, lookup req.nodeId = some serving
        ∧ serving.operatorPubkey = some key ∧ key ≠ "")

/-- Two names that lead to rows of one identity lead to one row. -/
def OneRow (lookup : String → Option BoundNode) : Prop :=
  ∀ a b row row', lookup a = some row → lookup b = some row' → row.nodeId = row'.nodeId → row = row'

theorem verifiedOperator_iff {operatorPubkey : Option String} :
    verifiedOperator operatorPubkey = true ↔ ∃ key, operatorPubkey = some key ∧ key ≠ "" := by
  cases operatorPubkey with
  | none => simp [verifiedOperator]
  | some key => simp [verifiedOperator]

section Handler

variable {σ : Type} {R : AwardRepo σ} {s : σ} {lookup : String → Option BoundNode}
  {fails : ℕ → Bool} {req : CreditAwardRequest}

/-- **Of the requests of a node that serves itself those are turned away.** -/
theorem attributeAward_error_iff
    (hget : ∀ n nodeId, R.get n s nodeId = if fails n then none else lookup nodeId)
    (hrow : OneRow lookup) (hself : SelfDealing lookup req) :
    (∃ response, attributeAward R s req = .error response) ↔ TurnedAway lookup fails req := by
  obtain ⟨queryingNodeId, serving, querying, hname, hserving, hquerying, hsame⟩ := hself
  have hkey : ∀ key, serving.operatorPubkey = some key → querying.operatorPubkey = some key := by
    intro key hserves
    rcases hsame with hid | ⟨key', hq, hs⟩
    · rw [hrow _ _ _ _ hquerying hserving hid]
      exact hserves
    · rw [hq, ← hs, hserves]
  unfold attributeAward TurnedAway
  cases hq : req.querying with
  | none => exact iff_of_false (by simp) fun ⟨_, h, _⟩ => absurd h (by simp)
  | some named =>
    obtain rfl : queryingNodeId = named := by
      have hfilter := (Option.filter_eq_some_iff.mp hq).1
      exact Option.some.inj (hname.symm.trans hfilter)
    dsimp only
    by_cases hletter : queryingNodeId = req.nodeId
    · rw [if_pos hletter]
      exact iff_of_true ⟨_, rfl⟩ ⟨_, rfl, Or.inl hletter⟩
    · rw [if_neg hletter, hget 3, hget 2]
      cases hfails : fails 3 with
      | true =>
        rw [if_pos rfl]
        exact iff_of_true ⟨_, rfl⟩ ⟨_, rfl, Or.inr (Or.inl rfl)⟩
      | false =>
        rw [if_neg Bool.false_ne_true, hquerying]
        dsimp only
        cases hread : fails 2 with
        | true =>
          rw [if_pos rfl, Option.bind_none]
          refine iff_of_false (by simp [verifiedOperator]) ?_
          rintro ⟨_, hnamed, heq | hlost | ⟨hanswered, _⟩⟩
          · exact hletter (Option.some.inj hnamed ▸ heq)
          · exact absurd hlost (by simp)
          · exact absurd hanswered (by simp)
        | false =>
          rw [if_neg Bool.false_ne_true, hserving, Option.bind_some]
          by_cases hverified : verifiedOperator serving.operatorPubkey = true
          · obtain ⟨key, hserves, hne⟩ := verifiedOperator_iff.mp hverified
            rw [if_pos ⟨hverified, (hkey key hserves).trans hserves.symm⟩]
            exact iff_of_true ⟨_, rfl⟩
              ⟨_, rfl, Or.inr (Or.inr ⟨rfl, serving, key, rfl, hserves, hne⟩)⟩
          · rw [if_neg fun h => hverified h.1]
            refine iff_of_false ?_ ?_
            · rw [Bool.not_eq_true _ |>.mp hverified]
              simp
            · rintro ⟨_, hnamed, heq | hlost | ⟨_, found, key, hfound, hserves, hne⟩⟩
              · exact hletter (Option.some.inj hnamed ▸ heq)
              · exact absurd hlost (by simp)
              · obtain rfl := Option.some.inj hfound
                exact hverified (verifiedOperator_iff.mpr ⟨key, hserves, hne⟩)

/-- **A request that does not pass the checks, or is turned away, changes
nothing.** -/
theorem creditsAward_of_refused {hmac : String → String → Bytes} {bearerToken : Option String}
    (h : ¬ Admits hmac R s bearerToken req ∨ ∃ response, attributeAward R s req = .error response) :
    (creditsAward hmac R s bearerToken (some req)).2 = (s, none) := by
  unfold creditsAward
  cases haccept : acceptAward hmac R s bearerToken (some req) with
  | error response => rfl
  | ok a =>
    obtain ⟨req', hreq, hadmits, attribution, trustWeight, hattribute, _⟩ :=
      acceptAward_eq_ok_iff.mp haccept
    obtain rfl := Option.some.inj hreq
    rcases h with hnot | ⟨response, herror⟩
    · exact absurd hadmits hnot
    · rw [hattribute] at herror
      exact absurd herror (by simp)

/-- Any other one is accepted. -/
theorem acceptAward_of_not_refused {hmac : String → String → Bytes} {bearerToken : Option String}
    (hadmits : Admits hmac R s bearerToken req)
    (hnot : ¬ ∃ response, attributeAward R s req = .error response) :
    ∃ attribution trustWeight, acceptAward hmac R s bearerToken (some req)
      = .ok ⟨req, CreditDb.awardedAmount req.amount req.tokensUsed, attribution, trustWeight⟩ := by
  cases hattribute : attributeAward R s req with
  | error response => exact absurd ⟨response, hattribute⟩ hnot
  | ok attributed =>
    exact ⟨attributed.1, attributed.2,
      acceptAward_eq_ok_iff.mpr ⟨req, rfl, hadmits, _, _, hattribute, rfl⟩⟩

end Handler

/-! ## What is recorded over the tables -/

namespace CreditDb

variable {fold : String → String}

/-- **An award can be recorded**: its node is there and the two balances of it
agree, the texts fit, and the nonce is a new one. -/
structure Recordable (store : ℚ → ℚ) (now : ℤ) (db : CreditDb fold) (nodeId : String) (amount : ℚ)
    (taskId nonce : String) : Prop where
  agrees : ∃ n, db.node nodeId = some n ∧ |db.ledgerBalance n - n.creditBalance| ≤ 1 / 10000
  fits : (awardEntry store now nodeId amount taskId nonce).Fits
  fresh : ∀ e ∈ db.creditTransactions.rows,
    CreditEntry.clash fold e (awardEntry store now nodeId amount taskId nonce) = false

/-- **One of the attempts is carried through**, and those before it fail in a
way that may pass. -/
def carriedOut : List Attempt → Bool
  | [] => false
  | attempt :: rest => attempt.server.carries 6 || (attempt.transient && carriedOut rest)

variable {store : ℚ → ℚ} {now : ℤ} {db : CreditDb fold} {nodeId taskId nonce : String} {amount : ℚ}

/-- The statements of an award can be executed exactly where it can be
recorded. -/
theorem awardBody_isSome_iff {n : WalletNode} (hnode : db.node nodeId = some n) :
    ((awardBody store now nodeId amount taskId nonce n.creditBalance (db.ledgerBalance n)).foldlM
        (fun s (statement : CreditDb fold → Option (CreditDb fold)) => statement s) db).isSome
      ↔ Recordable store now db nodeId amount taskId nonce := by
  have hfound : (db.nodes.find (fold nodeId)).isSome := by
    have hn : db.nodes.find (fold nodeId) = some n := hnode
    rw [hn]
    rfl
  have hinserts : ((db.ensureAccount nodeId n.creditBalance).insertEntry
      (awardEntry store now nodeId amount taskId nonce)).isSome
        ↔ (awardEntry store now nodeId amount taskId nonce).Fits
          ∧ ∀ e ∈ db.creditTransactions.rows,
            CreditEntry.clash fold e (awardEntry store now nodeId amount taskId nonce) = false :=
    insertEntry_isSome_iff.trans (and_iff_right hfound)
  have hbody : ((if 1 / 10000 < |db.ledgerBalance n - n.creditBalance| then none
      else some (db.ensureAccount nodeId n.creditBalance)).bind (fun start =>
        (start.insertEntry (awardEntry store now nodeId amount taskId nonce)).bind fun mid =>
          some ((mid.updateAccount nodeId
            (fun c => { c with balance := store (round4 (db.ledgerBalance n + amount)) })
              fun _ => rfl).updateNode nodeId
                (fun m => { m with creditBalance := store (round4 (db.ledgerBalance n + amount)) })
                  fun _ => rfl))).isSome ↔ Recordable store now db nodeId amount taskId nonce := by
    split
    · next hapart =>
      refine iff_of_false (by simp) fun h => ?_
      obtain ⟨n', hn', hclose⟩ := h.agrees
      obtain rfl := Option.some.inj (hnode.symm.trans hn')
      exact absurd hclose (not_le.mpr hapart)
    · next hclose =>
      rw [Option.bind_some]
      constructor
      · intro h
        have hentry : ((db.ensureAccount nodeId n.creditBalance).insertEntry
            (awardEntry store now nodeId amount taskId nonce)).isSome :=
          Option.isSome_of_isSome_bind h
        obtain ⟨hfits, hfresh⟩ := hinserts.mp hentry
        exact ⟨⟨n, hnode, not_lt.mp hclose⟩, hfits, hfresh⟩
      · intro h
        obtain ⟨mid, hmid⟩ := Option.isSome_iff_exists.mp (hinserts.mpr ⟨h.fits, h.fresh⟩)
        rw [hmid]
        rfl
  exact hbody

/-- An attempt that cannot be recorded fails and leaves nothing. -/
theorem recordCreditAwardOnce_of_unrecordable (server : Server)
    (h : ¬ Recordable store now db nodeId amount taskId nonce) :
    ∃ e, recordCreditAwardOnce store server now db nodeId amount taskId nonce = (.error e, db) := by
  unfold recordCreditAwardOnce
  split
  · exact ⟨_, rfl⟩
  · cases hnode : db.node nodeId with
    | none => exact ⟨_, rfl⟩
    | some n =>
      have hiff : _ ↔ Recordable store now db nodeId amount taskId nonce :=
        awardBody_isSome_iff hnode
      have hstuck := Option.not_isSome_iff_eq_none.mp (mt hiff.mp h)
      dsimp only
      rw [Transaction.run_of_stuck server hstuck]
      exact ⟨_, rfl⟩

/-- One that is not carried through fails in a way that may pass. -/
theorem recordCreditAwardOnce_of_uncarried {server : Server}
    (hrec : Recordable store now db nodeId amount taskId nonce) (hc : server.carries 6 = false) :
    recordCreditAwardOnce store server now db nodeId amount taskId nonce
      = (.error .dbError, db) := by
  unfold recordCreditAwardOnce
  split
  · rfl
  · obtain ⟨n, hnode, _⟩ := hrec.agrees
    have hfresh : (db.creditTransactions.rows.any fun e =>
        CreditEntry.clash fold e (awardEntry store now nodeId amount taskId nonce)) = false :=
      List.any_eq_false.mpr fun e he => by
        rw [hrec.fresh e he]
        exact Bool.false_ne_true
    have hrun : Transaction.run server
        (awardBody store now nodeId amount taskId nonce n.creditBalance (db.ledgerBalance n)) db
          = (false, db) := Transaction.run_of_not_carried hc db
    rw [hnode]
    dsimp only
    rw [hrun, hfresh, Bool.and_false]
    rfl

/-- **One that is carried through adds its nonce.** -/
theorem recordCreditAwardOnce_of_carried {server : Server}
    (hrec : Recordable store now db nodeId amount taskId nonce) (hc : server.carries 6 = true) :
    (recordCreditAwardOnce store server now db nodeId amount taskId nonce).2.nonces
      = db.nonces ++ [nonce] := by
  obtain ⟨n, hnode, _⟩ := hrec.agrees
  obtain ⟨db', hbody⟩ := Option.isSome_iff_exists.mp ((awardBody_isSome_iff hnode).mpr hrec)
  have hbalance : db.nodeBalance nodeId = some n.creditBalance := congrArg (Option.map _) hnode
  have hbegins : ¬ ((!server.begins || server.fails 0) = true) := by
    unfold Server.carries at hc
    rw [Bool.and_eq_true, Bool.and_eq_true] at hc
    have hfirst := List.all_eq_true.mp hc.1.2 0 (by decide)
    rw [hc.1.1]
    simpa using hfirst
  have hrun : (Transaction.run server
      (awardBody store now nodeId amount taskId nonce n.creditBalance (db.ledgerBalance n)) db).2
        = db' := Transaction.snd_run_of_carried hc hbody
  unfold recordCreditAwardOnce
  rw [if_neg hbegins, hnode]
  dsimp only
  rw [hrun]
  exact nonces_of_settles (settles_awardBody hbalance hbody)

/-- **Attempts leave nothing** where the award cannot be recorded, or none of
them is carried through. -/
theorem awardAttempts_of_not {attempts : List Attempt}
    (h : ¬ (Recordable store now db nodeId amount taskId nonce ∧ carriedOut attempts = true)) :
    ∃ e, awardAttempts store now nodeId amount taskId nonce attempts db = (.error e, db) := by
  induction attempts with
  | nil => exact ⟨_, rfl⟩
  | cons attempt rest ih =>
    have hrest : attempt.transient = true → ∃ e,
        awardAttempts store now nodeId amount taskId nonce rest db = (.error e, db) := by
      intro htransient
      refine ih fun ⟨hrec, hcarried⟩ => h ⟨hrec, ?_⟩
      rw [carriedOut, htransient, hcarried, Bool.and_true, Bool.or_true]
    obtain ⟨e, honce⟩ : ∃ e, recordCreditAwardOnce store attempt.server now db nodeId amount taskId
        nonce = (.error e, db) := by
      by_cases hrec : Recordable store now db nodeId amount taskId nonce
      · refine ⟨_, recordCreditAwardOnce_of_uncarried hrec ?_⟩
        refine Bool.eq_false_iff.mpr fun hcarries => h ⟨hrec, ?_⟩
        rw [carriedOut, hcarries, Bool.true_or]
      · exact recordCreditAwardOnce_of_unrecordable attempt.server hrec
    unfold awardAttempts
    rw [honce]
    cases e with
    | dbError =>
      dsimp only
      split
      · next htransient => exact hrest htransient
      · exact ⟨_, rfl⟩
    | nonceReplay => exact ⟨_, rfl⟩
    | nodeNotFound => exact ⟨_, rfl⟩

/-- **They record the award** where it can be, and one of them is carried
through. -/
theorem nonces_awardAttempts_of {attempts : List Attempt}
    (hrec : Recordable store now db nodeId amount taskId nonce) (hc : carriedOut attempts = true) :
    nonce ∈ (awardAttempts store now nodeId amount taskId nonce attempts db).2.nonces := by
  induction attempts with
  | nil => exact absurd hc Bool.false_ne_true
  | cons attempt rest ih =>
    unfold awardAttempts
    cases hcarries : attempt.server.carries 6 with
    | true =>
      -- what the first attempt has written the later ones leave
      have honce := recordCreditAwardOnce_of_carried hrec hcarries
      have hmem : nonce ∈ (recordCreditAwardOnce store attempt.server now db nodeId amount taskId
          nonce).2.nonces := by
        rw [honce]
        exact List.mem_append_right _ (List.mem_singleton_self nonce)
      split
      · next db' hfailed =>
        rw [hfailed] at hmem
        split
        · obtain ⟨k, hk⟩ := nonces_awardAttempts store now nodeId amount taskId nonce rest db'
          rw [hk]
          exact List.mem_append_left _ hmem
        · exact hmem
      · exact hmem
    | false =>
      rw [recordCreditAwardOnce_of_uncarried hrec hcarries]
      rw [carriedOut, hcarries, Bool.false_or, Bool.and_eq_true] at hc
      dsimp only
      rw [if_pos hc.1]
      exact ih hc.2

/-- A nonce that can be recorded is not in the ledger. -/
theorem Recordable.notMem_nonces (h : Recordable store now db nodeId amount taskId nonce) :
    nonce ∉ db.nonces := by
  intro hmem
  obtain ⟨e, he, hnonce⟩ := List.mem_filterMap.mp hmem
  have hclash := h.fresh e he
  unfold CreditEntry.clash at hclash
  rw [hnonce] at hclash
  simp [awardEntry] at hclash

end CreditDb

/-! ## What is paid -/

/-- **Nothing is paid**: no entry is written, no balance changes, and no event
is emitted. -/
structure Unpaid {fold : String → String} (before after : CreditDb fold)
    (emitted : Option NewEvent) : Prop where
  entries : after.creditTransactions.rows = before.creditTransactions.rows
  nodeBalance : ∀ nodeId, after.nodeBalance nodeId = before.nodeBalance nodeId
  accountBalance : ∀ nodeId, after.accountBalance nodeId = before.accountBalance nodeId
  emitted : emitted = none

theorem AwardTables.oneRow {B : Bcrypt} {fold : String → String} (t : AwardTables B fold) :
    OneRow t.get := by
  intro a b row row' ha hb hid
  obtain ⟨n, hn, rfl⟩ := Option.map_eq_some_iff.mp ha
  obtain ⟨n', hn', rfl⟩ := Option.map_eq_some_iff.mp hb
  have hkey : fold a = fold b := by
    rw [← (Table.find_eq_some_iff.mp hn).2, ← (Table.find_eq_some_iff.mp hn').2]
    exact congrArg fold hid
  unfold CreditDb.node at hn hn'
  rw [hkey, hn'] at hn
  rw [Option.some.inj hn]

theorem TokenMemory.oneRow (m : TokenMemory) : OneRow m.bound := by
  intro a b row row' ha hb hid
  obtain ⟨r, hr, rfl⟩ := Option.map_eq_some_iff.mp ha
  obtain ⟨r', hr', rfl⟩ := Option.map_eq_some_iff.mp hb
  have hname : a = b := by
    rw [← InMemoryRepo.id_of_find hr, ← InMemoryRepo.id_of_find hr']
    exact hid
  rw [hname, hr'] at hr
  rw [Option.some.inj hr]

/-- **A node that serves itself is paid nothing** exactly where its request is
refused for another reason, or turned away for what it names, or the award
cannot be recorded. In memory there is no ledger, and nothing else can refuse
an award. -/
theorem selfDealing_unpaid (hmac : String → String → Bytes) (bearerToken : Option String)
    (req : CreditAwardRequest) :
    (∀ (B : Bcrypt) (fold : String → String) (store : ℚ → ℚ) (server : AwardServer)
      (t : AwardTables B fold), SelfDealing t.get req →
        let R := AwardTables.awardRepo B fold store server
        let outcome := (creditsAward hmac R t bearerToken (some req)).2
        Unpaid t.db outcome.1.db outcome.2
          ↔ ¬ Admits hmac R t bearerToken req ∨ TurnedAway t.get server.fails req
            ∨ ¬ (CreditDb.Recordable store server.now t.db req.nodeId
                  (CreditDb.awardedAmount req.amount req.tokensUsed) req.taskId req.nonce
                ∧ CreditDb.carriedOut (List.ofFn server.award) = true))
    ∧ ∀ m : TokenMemory, SelfDealing m.bound req →
        ((creditsAward hmac TokenMemory.awardRepo m bearerToken (some req)).2 = (m, none)
          ↔ ¬ Admits hmac TokenMemory.awardRepo m bearerToken req
            ∨ TurnedAway m.bound (fun _ => false) req) := by
  constructor
  · intro B fold store server t hself R outcome
    have hgone : (∃ response, attributeAward R t req = .error response)
        ↔ TurnedAway t.get server.fails req :=
      attributeAward_error_iff (fun _ _ => rfl) t.oneRow hself
    have hnothing : (creditsAward hmac R t bearerToken (some req)).2 = (t, none) →
        Unpaid t.db outcome.1.db outcome.2 := by
      intro hsame
      unfold outcome
      rw [hsame]
      exact ⟨rfl, fun _ => rfl, fun _ => rfl, rfl⟩
    by_cases hrefused : ¬ Admits hmac R t bearerToken req ∨ TurnedAway t.get server.fails req
    · refine iff_of_true (hnothing (creditsAward_of_refused (hrefused.imp_right hgone.mpr))) ?_
      exact hrefused.imp_right Or.inl
    · obtain ⟨hadmits, hkept⟩ := not_or.mp hrefused
      obtain ⟨attribution, trustWeight, haccept⟩ :=
        acceptAward_of_not_refused (not_not.mp hadmits) (mt hgone.mp hkept)
      rw [or_iff_right hadmits, or_iff_right hkept]
      constructor
      · rintro hunpaid ⟨hrec, hcarried⟩
        have hmem := CreditDb.nonces_awardAttempts_of hrec hcarried
        have hafter : req.nonce ∈ outcome.1.db.nonces := by
          unfold outcome creditsAward
          rw [haccept]
          dsimp only
          split
          · next newBalance t' hrecorded =>
            have ht' : t'.db.nonces = (CreditDb.awardAttempts store server.now req.nodeId
                (CreditDb.awardedAmount req.amount req.tokensUsed) req.taskId req.nonce
                (List.ofFn server.award) t.db).2.nonces :=
              (congrArg (fun r => r.2.db.nonces) hrecorded).symm
            rw [← ht'] at hmem
            unfold spendFor
            split
            · exact hmem
            · dsimp only
              show req.nonce ∈ (CreditDb.debitForConsumer _ _ _ _ _ _ _ _ _).2.nonces
              rw [CreditDb.nonces_debitForConsumer]
              exact hmem
          · next t' hrecorded =>
            exact (congrArg (fun r => r.2.db.nonces) hrecorded) ▸ hmem
          · next e t' _ hrecorded =>
            exact (congrArg (fun r => r.2.db.nonces) hrecorded) ▸ hmem
        refine hrec.notMem_nonces ?_
        unfold CreditDb.nonces at hafter ⊢
        rw [← hunpaid.entries]
        exact hafter
      · intro hnot
        obtain ⟨e, hfailed⟩ := CreditDb.awardAttempts_of_not hnot
        refine hnothing ?_
        have hrecorded : R.recordCreditAward t req.nodeId
            (CreditDb.awardedAmount req.amount req.tokensUsed) req.taskId req.nonce
              = (.error e, t) := by
          show ((CreditDb.awardAttempts _ _ _ _ _ _ _ _).1,
            ({ t with db := (CreditDb.awardAttempts _ _ _ _ _ _ _ _).2 } : AwardTables B fold)) = _
          rw [hfailed]
        unfold creditsAward
        rw [haccept]
        dsimp only
        rw [hrecorded]
        cases e <;> rfl
  · intro m hself
    have hgone : (∃ response, attributeAward TokenMemory.awardRepo m req = .error response)
        ↔ TurnedAway m.bound (fun _ => false) req :=
      attributeAward_error_iff (fun _ _ => rfl) m.oneRow hself
    rw [← hgone]
    constructor
    · intro hsame
      by_contra hnot
      obtain ⟨hadmits, hkept⟩ := not_or.mp hnot
      obtain ⟨attribution, trustWeight, haccept⟩ :=
        acceptAward_of_not_refused (not_not.mp hadmits) hkept
      obtain ⟨_, serving, _, _, hserving, _⟩ := hself
      obtain ⟨r, hr, _⟩ := Option.map_eq_some_iff.mp hserving
      have hrecorded : TokenMemory.awardRepo.recordCreditAward m req.nodeId
          (CreditDb.awardedAmount req.amount req.tokensUsed) req.taskId req.nonce
            = (.ok (CreditDb.awardedAmount req.amount req.tokensUsed), m) := by
        show (if (m.repo.find req.nodeId).isSome then _ else _, m) = _
        rw [hr]
        rfl
      unfold creditsAward at hsame
      rw [haccept] at hsame
      dsimp only at hsame
      rw [hrecorded] at hsame
      exact absurd (congrArg Prod.snd hsame) (by simp)
    · exact fun h => creditsAward_of_refused h

/-! ## A node under another spelling of its name -/

namespace Sample

/-- A receipt of a task the node asked for itself, in capitals. -/
def respelledReceipt : CreditAwardRequest :=
  { plainReceipt with
    signature := "21baecc200acbd4542152f97c9fb38d13b38be021c7dea19f835eaa78448b195"
    queryingNodeId := some "N1" }

/-- The code of it. -/
def respelledHmac (key text : String) : Bytes :=
  bytes 32 (tableValue
    [(("key-one", "task-1:1000:::" ++ firstNonce ++ ":" ++ secondNonce ++ ":N1"),
      0x21baecc200acbd4542152f97c9fb38d13b38be021c7dea19f835eaa78448b195)] (key, text))

/-- The directory with the node bound to an operator, or to none. -/
def tablesOf (operatorPubkey : Option String) : AwardTables bcrypt lowercase :=
  { awardTables with
    db :=
      { awardTables.db with
        nodes := ⟨[⟨"n1", operatorPubkey, "active", 0, none⟩], List.nodup_singleton _⟩
        owned := fun _ h => absurd h List.not_mem_nil } }

/-- What the node is awarded for it. -/
def respelledOutcome (operatorPubkey : Option String) :
    Response × AwardTables bcrypt lowercase × Option NewEvent :=
  creditsAward respelledHmac (AwardTables.awardRepo bcrypt lowercase round4 willingServer)
    (tablesOf operatorPubkey) (some "node-token") (some respelledReceipt)

theorem selfDealing_respelled (operatorPubkey : Option String) :
    SelfDealing (tablesOf operatorPubkey).get respelledReceipt := by
  have hfound : ∀ name : String, lowercase "n1" = lowercase name →
      (tablesOf operatorPubkey).get name = some ⟨"n1", operatorPubkey⟩ := by
    intro name hname
    have hrow : (tablesOf operatorPubkey).db.nodes.find (lowercase name)
        = some ⟨"n1", operatorPubkey, "active", 0, none⟩ :=
      Table.find_eq_some_iff.mpr ⟨List.mem_singleton_self _, hname⟩
    exact Option.map_eq_some_iff.mpr ⟨_, hrow, rfl⟩
  exact ⟨"N1", _, _, rfl, hfound "n1" rfl, hfound "N1" (by decide), Or.inl rfl⟩

/-- A request in memory that names the node that served. -/
def ownReceipt : CreditAwardRequest := { respelledReceipt with queryingNodeId := some "n1" }

end Sample

/-- A node of an operator is turned away under any spelling of its name, and in
memory under its one name. -/
theorem selfDealing_unpaid_bound :
    Unpaid (Sample.tablesOf (some "op1")).db (Sample.respelledOutcome (some "op1")).2.1.db
        (Sample.respelledOutcome (some "op1")).2.2
      ∧ (creditsAward Sample.respelledHmac TokenMemory.awardRepo Sample.ownedInMemory.repo
          (some "node-token") (some Sample.ownReceipt)).2 = (Sample.ownedInMemory.repo, none) := by
  refine ⟨((selfDealing_unpaid Sample.respelledHmac (some "node-token")
      Sample.respelledReceipt).1 _ _ round4 Sample.willingServer _
        (Sample.selfDealing_respelled (some "op1"))).mpr (Or.inr (Or.inl ?_)),
    ((selfDealing_unpaid Sample.respelledHmac (some "node-token") Sample.ownReceipt).2
      Sample.ownedInMemory.repo ?_).mpr (Or.inr ⟨"n1", rfl, Or.inl rfl⟩)⟩
  · exact ⟨"N1", rfl, Or.inr (Or.inr ⟨rfl, ⟨"n1", some "op1"⟩, "op1", rfl, rfl, by decide⟩)⟩
  · exact ⟨"n1", ⟨"n1", some "op1"⟩, ⟨"n1", some "op1"⟩, rfl, rfl, rfl, Or.inl rfl⟩

/-- **A node without an operator is paid for serving itself** once it writes
its name in capitals: the ledger has an award and a debit, and the log an
event. -/
theorem respelled_node_paid :
    SelfDealing (Sample.tablesOf none).get Sample.respelledReceipt
      ∧ (Sample.respelledOutcome none).1.status = 201
      ∧ (Sample.respelledOutcome none).2.2.isSome = true
      ∧ (Sample.respelledOutcome none).2.1.db.creditTransactions.rows.map (·.type)
          = [.credit, .debit]
      ∧ ¬ Unpaid (Sample.tablesOf none).db (Sample.respelledOutcome none).2.1.db
          (Sample.respelledOutcome none).2.2 := by
  have hrows : (Sample.respelledOutcome none).2.1.db.creditTransactions.rows.map (·.type)
      = [.credit, .debit] := by decide +kernel
  refine ⟨Sample.selfDealing_respelled none, ?_, ?_, hrows, fun hunpaid => ?_⟩
  · decide +kernel
  · decide +kernel
  · rw [hunpaid.entries] at hrows
    exact absurd hrows (by decide)
