import IicpDirectory.Canonical
import IicpDirectory.Foundations.Delimited
import IicpDirectory.Foundations.Run
import IicpDirectory.Seed.Awards
import IicpDirectory.Seed.Challenges

/-!
# What a receipt says

A receipt is a code of seven fields put together with colons, and a field may
have colons of its own. So one code is a receipt of every request whose fields
make the same text: the end of a nonce may be the beginning of a hash. What
is told by the code is what is told by the text, and two requests that make
one text are the same where each field has as many colons as its counterpart
(`sameMeaning_iff_sameShape`).

The ledger takes a nonce once. A receipt is awarded once as long as it is
presented with one nonce, which is where the requests that present it have
one shape (`awarded_once`); one that can be read in two ways, with a nonce
long enough in each, is awarded twice.

The transactions of several requests come in any order: a request is
accepted, its award recorded, the consumer debited, and others come between.
-/

namespace Receipts

/-! ## Fields and their separators -/

/-- The colons of a text. -/
def colons (s : String) : ℕ := s.toList.count ':'

/-- **Two requests say the same** in every field the receipt is a code of. -/
structure SameMeaning (a b : CreditAwardRequest) : Prop where
  taskId : a.taskId = b.taskId
  tokensUsed : a.tokensUsed = b.tokensUsed
  cipParentTaskId : a.cipParentTaskId = b.cipParentTaskId
  cipSessionKey : a.cipSessionKey = b.cipSessionKey
  nonce : a.nonce = b.nonce
  responseHash : a.responseHash = b.responseHash
  queryingNodeId : a.queryingNodeId = b.queryingNodeId

/-- **Two requests have one shape**: as many colons in each field, and both
name a node the task was for or neither does. -/
structure SameShape (a b : CreditAwardRequest) : Prop where
  taskId : colons a.taskId = colons b.taskId
  cipParentTaskId : colons a.cipParentTaskId = colons b.cipParentTaskId
  cipSessionKey : colons a.cipSessionKey = colons b.cipSessionKey
  nonce : colons a.nonce = colons b.nonce
  responseHash : colons a.responseHash = colons b.responseHash
  named : a.queryingNodeId.isSome = b.queryingNodeId.isSome

/-- They present one signature. -/
def SameSignature (a b : CreditAwardRequest) : Prop :=
  Hex.decode a.signature = Hex.decode b.signature

theorem SameMeaning.sameShape {a b : CreditAwardRequest} (h : SameMeaning a b) : SameShape a b where
  taskId := congrArg colons h.taskId
  cipParentTaskId := congrArg colons h.cipParentTaskId
  cipSessionKey := congrArg colons h.cipSessionKey
  nonce := congrArg colons h.nonce
  responseHash := congrArg colons h.responseHash
  named := congrArg Option.isSome h.queryingNodeId

/-- What follows the hash: nothing, or the node the task was for behind a
colon. -/
def afterHash (req : CreditAwardRequest) : List Char :=
  req.querying.elim [] fun queryingNodeId => ':' :: queryingNodeId.toList

/-- The text of a receipt, field by field. -/
theorem toList_canonical (req : CreditAwardRequest) :
    req.canonical.toList
      = req.taskId.toList ++ ':' :: ((toString req.tokensUsed).toList
        ++ ':' :: (req.cipParentTaskId.toList ++ ':' :: (req.cipSessionKey.toList
        ++ ':' :: (req.nonce.toList ++ ':' :: (req.responseHash.toList ++ afterHash req))))) := by
  unfold CreditAwardRequest.canonical afterHash
  simp only [String.toList_append, List.append_assoc]
  cases req.querying with
  | none => rfl
  | some queryingNodeId =>
    simp only [Option.elim_some, String.toList_append]
    rfl

/-- Digits have no colon. -/
theorem colons_toString (n : ℕ) : (toString n).toList.count ':' = 0 := by
  refine List.count_eq_zero.mpr fun h => ?_
  exact absurd (NumberText.isDigit_of_mem h) (by decide)

/-- **The end of a receipt is read back**: the hash and the node the task was
for. -/
theorem eq_of_afterHash {a b : CreditAwardRequest}
    (hcolons : colons a.responseHash = colons b.responseHash)
    (hnamed : a.queryingNodeId.isSome = b.queryingNodeId.isSome)
    (h : a.responseHash.toList ++ afterHash a = b.responseHash.toList ++ afterHash b) :
    a.responseHash = b.responseHash ∧ a.queryingNodeId = b.queryingNodeId := by
  have hcount := congrArg (List.count ':') h
  rw [List.count_append, List.count_append] at hcount
  have hsame : a.responseHash.toList.count ':' = b.responseHash.toList.count ':' := hcolons
  unfold afterHash CreditAwardRequest.querying at h hcount
  cases ha : a.queryingNodeId.filter (· ≠ "") with
  | none =>
    cases hb : b.queryingNodeId.filter (· ≠ "") with
    | none =>
      rw [ha, hb, Option.elim_none, List.append_nil, List.append_nil] at h
      refine ⟨String.toList_inj.mp h, ?_⟩
      cases hqa : a.queryingNodeId with
      | none =>
        rw [hqa] at hnamed
        exact (Option.isNone_iff_eq_none.mp (Option.isSome_eq_false_iff.mp hnamed.symm)).symm
      | some p =>
        obtain ⟨q, hqb⟩ := Option.isSome_iff_exists.mp
          (hnamed.symm.trans (congrArg Option.isSome hqa))
        rw [hqa] at ha
        rw [hqb] at hb
        have hp : p = "" := by simpa [Option.filter_some] using ha
        have hq : q = "" := by simpa [Option.filter_some] using hb
        rw [hqb, hp, hq]
    | some q =>
      rw [ha, hb, Option.elim_none, Option.elim_some, List.count_nil, List.count_cons_self] at hcount
      omega
  | some p =>
    cases hb : b.queryingNodeId.filter (· ≠ "") with
    | none =>
      rw [ha, hb, Option.elim_none, Option.elim_some, List.count_nil, List.count_cons_self] at hcount
      omega
    | some q =>
      rw [ha, hb, Option.elim_some, Option.elim_some] at h
      obtain ⟨hhash, hquery⟩ := Delimited.append_cons_inj_of_count hsame h
      refine ⟨String.toList_inj.mp hhash, ?_⟩
      rw [(Option.filter_eq_some_iff.mp ha).1, (Option.filter_eq_some_iff.mp hb).1,
        String.toList_inj.mp hquery]

/-- **A text is read back where the shape is known.** -/
theorem SameShape.sameMeaning {a b : CreditAwardRequest} (h : SameShape a b)
    (htext : a.canonical = b.canonical) : SameMeaning a b := by
  have htask : a.taskId.toList.count ':' = b.taskId.toList.count ':' := h.taskId
  have hparent : a.cipParentTaskId.toList.count ':' = b.cipParentTaskId.toList.count ':' :=
    h.cipParentTaskId
  have hsession : a.cipSessionKey.toList.count ':' = b.cipSessionKey.toList.count ':' :=
    h.cipSessionKey
  have hnonce : a.nonce.toList.count ':' = b.nonce.toList.count ':' := h.nonce
  have hall := congrArg String.toList htext
  rw [toList_canonical, toList_canonical] at hall
  obtain ⟨h1, hall⟩ := Delimited.append_cons_inj_of_count htask hall
  obtain ⟨h2, hall⟩ := Delimited.append_cons_inj_of_count
    ((colons_toString _).trans (colons_toString _).symm) hall
  obtain ⟨h3, hall⟩ := Delimited.append_cons_inj_of_count hparent hall
  obtain ⟨h4, hall⟩ := Delimited.append_cons_inj_of_count hsession hall
  obtain ⟨h5, hall⟩ := Delimited.append_cons_inj_of_count hnonce hall
  obtain ⟨h6, h7⟩ := eq_of_afterHash h.responseHash h.named hall
  exact
    { taskId := String.toList_inj.mp h1
      tokensUsed := NumberText.natToString_inj (String.toList_inj.mp h2)
      cipParentTaskId := String.toList_inj.mp h3
      cipSessionKey := String.toList_inj.mp h4
      nonce := String.toList_inj.mp h5
      responseHash := h6
      queryingNodeId := h7 }

section Codes

variable {hmac : String → String → Bytes}

/-- A receipt is the code of what it says. -/
theorem verifyCipReceipt_iff {req : CreditAwardRequest} {hmacKey : String} :
    verifyCipReceipt hmac req hmacKey = true
      ↔ Hex.decode req.signature = some (hmac hmacKey req.canonical) := by
  unfold verifyCipReceipt
  cases Hex.decode req.signature with
  | none => simp
  | some bytes => rw [beq_iff_eq, Option.some.injEq]

/-- Where no two codes are the same, one signature is a receipt of one text. -/
theorem canonical_eq {keys texts : Set String} (hfree : CollisionFree hmac keys texts)
    {a b : CreditAwardRequest} {key key' : String} (hkey : key ∈ keys) (hkey' : key' ∈ keys)
    (ha : a.canonical ∈ texts) (hb : b.canonical ∈ texts)
    (hva : verifyCipReceipt hmac a key = true) (hvb : verifyCipReceipt hmac b key' = true)
    (hsame : SameSignature a b) : a.canonical = b.canonical := by
  have hcodes : hmac key a.canonical = hmac key' b.canonical := by
    rw [verifyCipReceipt_iff] at hva hvb
    exact Option.some.inj (hva.symm.trans (hsame.trans hvb))
  exact (hfree key hkey key' hkey' _ ha _ hb hcodes).2

/-- **One signature says one thing exactly where the requests that present it
have one shape.** -/
theorem sameMeaning_iff_sameShape {keys texts : Set String}
    (hfree : CollisionFree hmac keys texts) {a b : CreditAwardRequest} {key : String}
    (hkey : key ∈ keys) (ha : a.canonical ∈ texts) (hb : b.canonical ∈ texts)
    (hva : verifyCipReceipt hmac a key = true) (hvb : verifyCipReceipt hmac b key = true)
    (hsame : SameSignature a b) : SameMeaning a b ↔ SameShape a b :=
  ⟨SameMeaning.sameShape,
    fun h => h.sameMeaning (canonical_eq hfree hkey hkey ha hb hva hvb hsame)⟩

end Codes

end Receipts

/-! ## Nonces in the ledger -/

namespace CreditDb

variable {fold : String → String}

/-- The nonces of the entries: those of the awards. -/
def nonces (db : CreditDb fold) : List String := db.creditTransactions.rows.filterMap (·.nonce)

/-- **No nonce is there twice**, to the collation. -/
theorem nonces_pairwise (db : CreditDb fold) :
    db.nonces.Pairwise fun m n => fold m ≠ fold n := by
  unfold nonces
  rw [List.pairwise_filterMap]
  refine db.creditTransactions.apart.imp ?_
  intro a b hclash m hm n hn heq
  unfold CreditEntry.clash at hclash
  rw [hm, hn] at hclash
  exact absurd (beq_iff_eq.mpr heq) (by simpa using hclash)

/-- A settlement adds the nonce of its entry, if it has one. -/
theorem nonces_of_settles {db db' : CreditDb fold} {e : CreditEntry} {balance ledger : ℚ}
    (h : Settles db db' e balance ledger) : db'.nonces = db.nonces ++ e.nonce.toList := by
  unfold nonces
  rw [h.rows, List.filterMap_append]
  cases hnonce : e.nonce with
  | none => rw [List.filterMap_cons_none hnonce]; rfl
  | some n => rw [List.filterMap_cons_some hnonce]; rfl

/-- An award adds its nonce, each time an attempt is committed. -/
theorem nonces_awardAttempts (store : ℚ → ℚ) (now : ℤ) (nodeId : String) (amount : ℚ)
    (taskId nonce : String) (attempts : List Attempt) (db : CreditDb fold) :
    ∃ k, (awardAttempts store now nodeId amount taskId nonce attempts db).2.nonces
      = db.nonces ++ List.replicate k nonce := by
  induction attempts generalizing db with
  | nil => exact ⟨0, (List.append_nil _).symm⟩
  | cons attempt rest ih =>
    have honce : ∃ k, (recordCreditAwardOnce store attempt.server now db nodeId amount taskId
        nonce).2.nonces = db.nonces ++ List.replicate k nonce := by
      rcases recordCreditAwardOnce_cases store attempt.server now db nodeId amount taskId nonce with
        hsame | ⟨_, _, hsettles⟩
      · exact ⟨0, by rw [hsame]; exact (List.append_nil _).symm⟩
      · exact ⟨1, nonces_of_settles hsettles⟩
    unfold awardAttempts
    split
    · next db' hfailed =>
      rw [hfailed] at honce
      obtain ⟨k, hk⟩ := honce
      split
      · obtain ⟨j, hj⟩ := ih db'
        exact ⟨k + j, by rw [hj, hk, List.append_assoc, List.replicate_append_replicate]⟩
      · exact ⟨k, hk⟩
    · exact honce

/-- A debit adds none. -/
theorem nonces_debitAttempts
    {once : Server → CreditDb fold →
      Except DebitMutationError WalletDebitResult × CreditDb fold}
    (honce : ∀ server db, (once server db).2.nonces = db.nonces) (scope : String)
    (attempts : List Attempt) (db : CreditDb fold) :
    (debitAttempts once scope attempts db).2.nonces = db.nonces := by
  induction attempts generalizing db with
  | nil => rfl
  | cons attempt rest ih =>
    have hfirst := honce attempt.server db
    unfold debitAttempts
    split
    · next hdone => rw [hdone] at hfirst; exact hfirst
    · next hrefused => rw [hrefused] at hfirst; exact hfirst
    · next hincomplete => rw [hincomplete] at hfirst; exact hfirst
    · next db' hfailed =>
      rw [hfailed] at hfirst
      split
      · exact (ih db').trans hfirst
      · exact hfirst

theorem nonces_debitForConsumer (store : ℚ → ℚ) (lookupFails : Bool) (attempts : Fin 3 → Attempt)
    (now : ℤ) (db : CreditDb fold) (consumerNodeId : String) (amount : ℚ) (taskId reason : String) :
    (debitForConsumer store lookupFails attempts now db consumerNodeId amount taskId
      reason).2.nonces = db.nonces := by
  unfold debitForConsumer
  split
  · rfl
  · split
    · next operatorPubkey _ =>
      refine nonces_debitAttempts (fun server mid => ?_) _ _ _
      refine @debitOperatorWalletOnce_invariant _ _ (fun s => s.nonces = mid.nonces) server now mid
        consumerNodeId operatorPubkey _ _ reason (fun _ => ?_) rfl
      intro s s' p ledger reason' _ hs _ _ hsettles
      rw [nonces_of_settles hsettles, hs]
      exact List.append_nil _
    · refine nonces_debitAttempts (fun server mid => ?_) _ _ _
      rcases debitNodeOnce_cases store server mid consumerNodeId amount taskId reason with
        hsame | ⟨_, _, _, _, _, hsettles⟩
      · rw [hsame]
      · rw [nonces_of_settles hsettles]
        exact List.append_nil _

end CreditDb

/-! ## Runs of requests -/

namespace Receipts

variable {B : Bcrypt} {fold : String → String}

/-- **The requests in flight**: those whose award is to be recorded, those
whose consumer is to be debited, and, which no step reads, the request of
each award the ledger has taken since. -/
structure State (B : Bcrypt) (fold : String → String) where
  tables : AwardTables B fold
  admitted : List Admitted
  recorded : List Admitted
  awarded : List CreditAwardRequest

/-- No request is in flight. -/
def idle (tables : AwardTables B fold) : State B fold := ⟨tables, [], [], []⟩

/-- What a request does next. -/
inductive Action
  | accept (bearerToken : Option String) (request : Option CreditAwardRequest)
  | record (i : ℕ)
  | spend (i : ℕ)

/-- One step of a request, with the server it meets. -/
structure Step where
  server : AwardServer
  action : Action

/-- The awards a call has written. -/
def written (before after : AwardTables B fold) : ℕ :=
  after.db.nonces.length - before.db.nonces.length

/-- **One step.** -/
def step (hmac : String → String → Bytes) (store : ℚ → ℚ) (s : State B fold) (t : Step) :
    State B fold :=
  let R := AwardTables.awardRepo B fold store t.server
  match t.action with
  | .accept bearerToken request =>
    match acceptAward hmac R s.tables bearerToken request with
    | .error _ => s
    | .ok a => { s with admitted := s.admitted ++ [a] }
  | .record i =>
    match s.admitted[i]? with
    | none => s
    | some a =>
      let r := R.recordCreditAward s.tables a.request.nodeId a.amount a.request.taskId a.request.nonce
      { tables := r.2
        admitted := s.admitted.eraseIdx i
        recorded := if r.1.toOption.isSome then s.recorded ++ [a] else s.recorded
        awarded := s.awarded ++ List.replicate (written s.tables r.2) a.request }
  | .spend i =>
    match s.recorded[i]? with
    | none => s
    | some a =>
      { s with
        tables := (spendFor R s.tables a).2
        recorded := s.recorded.eraseIdx i }

/-- **A request whose steps follow each other is the handler.** -/
theorem after_creditsAward (hmac : String → String → Bytes) (store : ℚ → ℚ) (server : AwardServer)
    (tables : AwardTables B fold) (bearerToken : Option String)
    (request : Option CreditAwardRequest) :
    (Run.after (step hmac store) (idle tables)
        [⟨server, .accept bearerToken request⟩, ⟨server, .record 0⟩, ⟨server, .spend 0⟩]).tables
      = (creditsAward hmac (AwardTables.awardRepo B fold store server) tables bearerToken
          request).2.1 := by
  unfold creditsAward
  rw [Run.after_cons, step]
  dsimp only [idle]
  cases acceptAward hmac (AwardTables.awardRepo B fold store server) tables bearerToken request with
  | error response => rfl
  | ok a =>
    rw [Run.after_cons, step]
    dsimp only [List.nil_append, List.getElem?_cons_zero]
    cases (AwardTables.awardRepo B fold store server).recordCreditAward tables a.request.nodeId
      a.amount a.request.taskId a.request.nonce with
    | mk answer tables' =>
      cases answer with
      | ok newBalance => rfl
      | error e => cases e <;> rfl

/-- The requests of a run. -/
def requestsOf (steps : List Step) : Set CreditAwardRequest :=
  {req | ∃ t ∈ steps, ∃ bearerToken, t.action = .accept bearerToken (some req)}

/-- A request has a receipt under one of the keys on file. -/
def Receipted (hmac : String → String → Bytes) (keys : Set String) (req : CreditAwardRequest) :
    Prop :=
  ∃ key ∈ keys, verifyCipReceipt hmac req key = true

/-- **What holds along a run** of these requests: those in flight and those
awarded have a receipt, and the awards are the last entries with a nonce. -/
structure Orderly (hmac : String → String → Bytes) (keys : Set String)
    (requests : Set CreditAwardRequest) (s : State B fold) : Prop where
  keyed : ∀ row ∈ s.tables.secrets.rows, row.nodeHmacKey ∈ keys
  admitted : ∀ a ∈ s.admitted, a.request ∈ requests ∧ Receipted hmac keys a.request
  awarded : ∀ req ∈ s.awarded, req ∈ requests ∧ Receipted hmac keys req
  recorded : ∃ earlier, s.tables.db.nonces = earlier ++ s.awarded.map (·.nonce)

theorem orderly_idle {hmac : String → String → Bytes} {keys : Set String}
    {requests : Set CreditAwardRequest} {tables : AwardTables B fold}
    (hkeys : ∀ row ∈ tables.secrets.rows, row.nodeHmacKey ∈ keys) :
    Orderly hmac keys requests (idle tables) where
  keyed := hkeys
  admitted := fun _ h => absurd h List.not_mem_nil
  awarded := fun _ h => absurd h List.not_mem_nil
  recorded := ⟨_, (List.append_nil _).symm⟩

/-- A request that is accepted has a receipt under a key on file. -/
theorem receipted_of_accept {hmac : String → String → Bytes} {store : ℚ → ℚ} {keys : Set String}
    {tables : AwardTables B fold} {server : AwardServer}
    (hkeys : ∀ row ∈ tables.secrets.rows, row.nodeHmacKey ∈ keys) {bearerToken : Option String}
    {request : Option CreditAwardRequest} {a : Admitted}
    (h : acceptAward hmac (AwardTables.awardRepo B fold store server) tables bearerToken request
      = .ok a) :
    request = some a.request ∧ Receipted hmac keys a.request := by
  obtain ⟨req, hreq, hadmits, _, _, _, rfl⟩ := acceptAward_eq_ok_iff.mp h
  obtain ⟨key, hkey, hreceipt⟩ := hadmits.receipt
  refine ⟨hreq, key, ?_, hreceipt⟩
  have hfound : tables.nodeHmacKey req.nodeId = some key := by
    unfold AwardTables.awardRepo at hkey
    dsimp only at hkey
    split at hkey
    · exact absurd hkey (by simp)
    · exact hkey
  obtain ⟨hmap, _⟩ := Option.filter_eq_some_iff.mp hfound
  obtain ⟨row, hrow, rfl⟩ := Option.map_eq_some_iff.mp hmap
  exact hkeys row (Table.find_eq_some_iff.mp hrow).1

/-- **A step keeps it.** -/
theorem orderly_step {hmac : String → String → Bytes} {store : ℚ → ℚ} {keys : Set String}
    {requests : Set CreditAwardRequest} {s : State B fold} {t : Step}
    (h : Orderly hmac keys requests s)
    (hrequests : ∀ bearerToken req, t.action = .accept bearerToken (some req) → req ∈ requests) :
    Orderly hmac keys requests (step hmac store s t) := by
  obtain ⟨server, action⟩ := t
  cases action with
  | accept bearerToken request =>
    unfold step
    dsimp only
    split
    · exact h
    · next a haccept =>
      obtain ⟨rfl, hreceipted⟩ := receipted_of_accept h.keyed haccept
      refine { h with admitted := fun b hb => ?_ }
      rcases List.mem_append.mp hb with hb | hb
      · exact h.admitted b hb
      · obtain rfl := List.mem_singleton.mp hb
        exact ⟨hrequests bearerToken _ rfl, hreceipted⟩
  | record i =>
    unfold step
    dsimp only
    split
    · exact h
    · next a ha =>
      obtain ⟨hmem, hreceipted⟩ := h.admitted a (List.mem_of_getElem? ha)
      obtain ⟨k, hk⟩ := CreditDb.nonces_awardAttempts store server.now a.request.nodeId a.amount
        a.request.taskId a.request.nonce (List.ofFn server.award) s.tables.db
      have hwritten : written s.tables ((AwardTables.awardRepo B fold store server).recordCreditAward
          s.tables a.request.nodeId a.amount a.request.taskId a.request.nonce).2 = k := by
        have hlength := congrArg List.length hk
        rw [List.length_append, List.length_replicate] at hlength
        exact Nat.sub_eq_of_eq_add' hlength
      rw [hwritten]
      refine ⟨h.keyed, fun b hb => h.admitted b (List.mem_of_mem_eraseIdx hb), fun req hreq => ?_, ?_⟩
      · rcases List.mem_append.mp hreq with hreq | hreq
        · exact h.awarded req hreq
        · obtain rfl := List.eq_of_mem_replicate hreq
          exact ⟨hmem, hreceipted⟩
      · obtain ⟨earlier, hearlier⟩ := h.recorded
        refine ⟨earlier, ?_⟩
        rw [List.map_append, List.map_replicate, ← List.append_assoc, ← hearlier]
        exact hk
  | spend i =>
    unfold step
    dsimp only
    split
    · exact h
    · next a ha =>
      unfold spendFor
      split
      · exact { h with admitted := h.admitted }
      · next queryingNodeId _ =>
        refine { h with recorded := ?_ }
        obtain ⟨earlier, hearlier⟩ := h.recorded
        refine ⟨earlier, ?_⟩
        rw [← hearlier]
        exact CreditDb.nonces_debitForConsumer _ _ _ _ _ _ _ _ _

/-- It holds along every run. -/
theorem orderly_after {hmac : String → String → Bytes} {store : ℚ → ℚ} {keys : Set String}
    {tables : AwardTables B fold} (hkeys : ∀ row ∈ tables.secrets.rows, row.nodeHmacKey ∈ keys)
    (steps : List Step) :
    Orderly hmac keys (requestsOf steps) (Run.after (step hmac store) (idle tables) steps) := by
  have hsteps : Run.Along (step hmac store) (fun _ t => t ∈ steps) (idle tables) steps :=
    Run.along_of_forall _ (fun t ht _ => ht) _
  refine Run.invariant_along (fun s t hs ht => ?_) (orderly_idle hkeys) hsteps
  exact orderly_step hs fun bearerToken req haction => ⟨t, ht, bearerToken, haction⟩

/-- **A receipt says one thing, and is awarded once**, exactly where the
requests that present it have one shape: two that are valid for a node say
the same just then, and in a run where all that present one signature are of
one shape no signature is awarded twice. -/
theorem receipt_awarded_once {hmac : String → String → Bytes} {keys texts : Set String}
    (hfree : CollisionFree hmac keys texts) :
    (∀ key ∈ keys, ∀ a b : CreditAwardRequest, a.canonical ∈ texts → b.canonical ∈ texts →
      verifyCipReceipt hmac a key = true → verifyCipReceipt hmac b key = true →
      SameSignature a b → (SameMeaning a b ↔ SameShape a b))
    ∧ ∀ (B : Bcrypt) (fold : String → String) (store : ℚ → ℚ) (tables : AwardTables B fold),
      (∀ row ∈ tables.secrets.rows, row.nodeHmacKey ∈ keys) →
      ∀ steps : List Step, (∀ req ∈ requestsOf steps, req.canonical ∈ texts) →
        (∀ a ∈ requestsOf steps, ∀ b ∈ requestsOf steps, Receipted hmac keys a →
          Receipted hmac keys b → SameSignature a b → SameShape a b) →
        (Run.after (step hmac store) (idle tables) steps).awarded.Pairwise
          fun a b => ¬ SameSignature a b := by
  constructor
  · intro key hkey a b ha hb hva hvb hsame
    exact sameMeaning_iff_sameShape hfree hkey ha hb hva hvb hsame
  · intro B fold store tables hkeys steps htexts hshape
    have horderly := @orderly_after B fold hmac store keys tables hkeys steps
    -- the ledger has no nonce twice, so no two awards are of one nonce
    have hnonces : (Run.after (step hmac store) (idle tables) steps).awarded.Pairwise
        fun a b => fold a.nonce ≠ fold b.nonce := by
      obtain ⟨earlier, hearlier⟩ := horderly.recorded
      have hall := CreditDb.nonces_pairwise
        (Run.after (step hmac store) (idle tables) steps).tables.db
      rw [hearlier] at hall
      have hawarded := (List.pairwise_append.mp hall).2.1
      rw [List.pairwise_map] at hawarded
      exact hawarded
    refine hnonces.imp_of_mem fun {a b} ha hb hne hsame => hne ?_
    obtain ⟨harun, hareceipt⟩ := horderly.awarded a ha
    obtain ⟨hbrun, hbreceipt⟩ := horderly.awarded b hb
    have hmeaning : SameMeaning a b := by
      refine (hshape a harun b hbrun hareceipt hbreceipt hsame).sameMeaning ?_
      obtain ⟨key, hkey, hva⟩ := hareceipt
      obtain ⟨key', hkey', hvb⟩ := hbreceipt
      exact canonical_eq hfree hkey hkey' (htexts a harun) (htexts b hbrun) hva hvb hsame
    rw [hmeaning.nonce]

/-! ## A receipt that is read in two ways -/

end Receipts

namespace Sample

/-- A nonce. -/
def firstNonce : String := "aaaaaaaaaaaaaaaaaaaaaaaaaaaaaaaa"

/-- Another one. -/
def secondNonce : String := "bbbbbbbbbbbbbbbbbbbbbbbbbbbbbbbb"

/-- The codes of two receipts. -/
def receiptCodes : List ((String × String) × ℕ) :=
  [(("key-one", "task-1:1000:::" ++ firstNonce ++ ":" ++ secondNonce ++ ":cc"),
     0x51a844f07ca71a74199173fc4494dfbe3eb91174fe6f71f69e0b088cf9c0994b),
   (("key-one", "task-1:1000:::" ++ firstNonce ++ ":" ++ secondNonce),
     0x50ed62580e882f8188e725a7df00ba75da2f882542db6da2bba8adea9cc9d27d)]

/-- HMAC-SHA256 on these; zeros elsewhere. -/
def receiptHmac (key text : String) : Bytes := bytes 32 (tableValue receiptCodes (key, text))

/-- What they are codes of. -/
def receiptTexts : Set String := {text | ∃ e ∈ receiptCodes, e.1.2 = text}

/-- The request of a receipt with a hash that has no colon. -/
def plainReceipt : CreditAwardRequest where
  nodeId := "n1"
  taskId := "task-1"
  tokensUsed := 1000
  cipParentTaskId := ""
  cipSessionKey := ""
  nonce := firstNonce
  responseHash := secondNonce
  signature := "50ed62580e882f8188e725a7df00ba75da2f882542db6da2bba8adea9cc9d27d"
  amount := 1
  queryingNodeId := none

/-- The request of one with a hash that has. -/
def splitReceipt : CreditAwardRequest :=
  { plainReceipt with
    responseHash := secondNonce ++ ":cc"
    signature := "51a844f07ca71a74199173fc4494dfbe3eb91174fe6f71f69e0b088cf9c0994b" }

/-- The same receipt, with the nonce read as a part of the session and the
beginning of the hash as the nonce. -/
def shiftedReceipt : CreditAwardRequest :=
  { splitReceipt with
    cipSessionKey := ":" ++ firstNonce
    nonce := secondNonce
    responseHash := "cc" }

/-- A directory with a node that has earned nothing yet. -/
def awardTables : AwardTables bcrypt lowercase where
  db :=
    { nodes := ⟨[⟨"n1", none, "active", 0, none⟩], List.nodup_singleton _⟩
      credits := .empty _
      creditTransactions := .empty _
      creditIpGates := .empty _
      owned := fun _ h => absurd h List.not_mem_nil }
  secrets := ⟨[⟨"n1", "$2b$12$abcdefghijklmnopqrstuur5sSUnsB4uCguBXCCSmGhnkdlFwGgY6", "key-one"⟩],
    List.nodup_singleton _⟩

/-- A server that does what it is asked. -/
def willingServer : AwardServer :=
  ⟨0, fun _ => false, fun _ => ⟨.willing, false⟩, fun _ => ⟨.willing, false⟩⟩

/-- The node asks for its credit twice. -/
def presented (first second : CreditAwardRequest) : List Receipts.Step :=
  [⟨willingServer, .accept (some "node-token") (some first)⟩, ⟨willingServer, .record 0⟩,
   ⟨willingServer, .accept (some "node-token") (some second)⟩, ⟨willingServer, .record 0⟩]

theorem receiptCodes_collisionFree :
    CollisionFree receiptHmac {"key-one"} receiptTexts := by
  rintro key rfl key' rfl _ ⟨e, he, rfl⟩ _ ⟨e', he', rfl⟩ h
  refine ⟨rfl, ?_⟩
  simp only [receiptCodes, List.mem_cons, List.not_mem_nil, or_false] at he he'
  obtain rfl | rfl := he <;> obtain rfl | rfl := he' <;>
    first | rfl | exact absurd h (by decide)

end Sample

namespace Receipts

/-- A receipt without a colon in its fields is awarded once, though it is
presented twice. -/
theorem receipt_awarded_once_plain :
    (Run.after (step Sample.receiptHmac round4) (idle Sample.awardTables)
        (Sample.presented Sample.plainReceipt Sample.plainReceipt)).awarded.Pairwise
          (fun a b => ¬ SameSignature a b)
      ∧ (Run.after (step Sample.receiptHmac round4) (idle Sample.awardTables)
        (Sample.presented Sample.plainReceipt Sample.plainReceipt)).awarded
          = [Sample.plainReceipt] := by
  have hrequests : ∀ req ∈ requestsOf (Sample.presented Sample.plainReceipt Sample.plainReceipt),
      req = Sample.plainReceipt := by
    rintro req ⟨t, ht, bearerToken, haction⟩
    simp only [Sample.presented, List.mem_cons, List.not_mem_nil, or_false] at ht
    obtain rfl | rfl | rfl | rfl := ht
    · exact (Option.some.inj (Action.accept.inj haction).2).symm
    · exact absurd haction (by simp)
    · exact (Option.some.inj (Action.accept.inj haction).2).symm
    · exact absurd haction (by simp)
  refine ⟨(receipt_awarded_once Sample.receiptCodes_collisionFree).2 _ _ round4
    Sample.awardTables ?_ _ ?_ ?_, by decide +kernel⟩
  · intro row hrow
    obtain rfl := List.mem_singleton.mp hrow
    rfl
  · intro req hreq
    rw [hrequests req hreq]
    exact ⟨_, List.mem_cons_of_mem _ List.mem_cons_self, by decide⟩
  · intro a ha b hb _ _ _
    rw [hrequests a ha, hrequests b hb]
    exact ⟨rfl, rfl, rfl, rfl, rfl, rfl⟩

/-- **A receipt that is read in two ways is awarded twice**: one signature,
valid for both requests, under two nonces. -/
theorem split_receipt_awarded_twice :
    CollisionFree Sample.receiptHmac {"key-one"} Sample.receiptTexts
      ∧ Sample.splitReceipt.canonical ∈ Sample.receiptTexts
      ∧ Sample.shiftedReceipt.canonical ∈ Sample.receiptTexts
      ∧ verifyCipReceipt Sample.receiptHmac Sample.splitReceipt "key-one" = true
      ∧ verifyCipReceipt Sample.receiptHmac Sample.shiftedReceipt "key-one" = true
      ∧ Sample.splitReceipt.signature = Sample.shiftedReceipt.signature
      ∧ Sample.splitReceipt.nonce ≠ Sample.shiftedReceipt.nonce
      ∧ (Run.after (step Sample.receiptHmac round4) (idle Sample.awardTables)
          (Sample.presented Sample.splitReceipt Sample.shiftedReceipt)).awarded
        = [Sample.splitReceipt, Sample.shiftedReceipt] := by
  refine ⟨Sample.receiptCodes_collisionFree, ⟨_, List.mem_cons_self, by decide⟩,
    ⟨_, List.mem_cons_self, by decide⟩, ?_, ?_, rfl, by decide, ?_⟩
  · decide +kernel
  · decide +kernel
  · decide +kernel

end Receipts
