import IicpDirectory.MembershipLog
import IicpDirectory.Seed.Memberships

/-!
# A failed issue

A request with an assertion is refused before anything is written if the
scopes it asks for have none for peers. What is signed later are the scopes
that were granted, and a scope for peers that is not granted – `execution`,
`cip`, `federation` – is there in the first list and not in the second. Then
the row is written, the old token is gone, and the request fails.

So it does where the commit of the row, or the statement behind it, is not
heard of. `failed_issue_keeps_iff` says exactly when a request that fails has
left the rows alone.
-/

namespace RestrictedDomain

open RestrictedDomainMembership

variable (E : EvidenceLibs) {fold : String → String}

/-! ## What is signed -/

/-- A scope for peers is granted. -/
def GrantsPeers (scopes : List String) : Prop :=
  ∃ scope ∈ scopes, allowedScopes.contains scope = true ∧ isPeerScope scope = true

theorem mem_normalized {scopes : List String} {scope : String} :
    scope ∈ normalized scopes ↔ scope ∈ scopes ∧ allowedScopes.contains scope = true := by
  unfold normalized
  rw [InMemoryRepo.mem_sortDedup, List.mem_filter]

/-- The scopes that are signed. -/
theorem filter_normalized_ne_nil {scopes : List String} :
    (normalized scopes).filter isPeerScope ≠ [] ↔ GrantsPeers scopes := by
  rw [ne_eq, List.filter_eq_nil_iff]
  constructor
  · intro h
    by_contra hnone
    refine h fun scope hscope hpeer => hnone ?_
    obtain ⟨hmem, hallowed⟩ := mem_normalized.mp hscope
    exact ⟨scope, hmem, hallowed, hpeer⟩
  · rintro ⟨scope, hmem, hallowed, hpeer⟩ h
    exact h scope (mem_normalized.mpr ⟨hmem, hallowed⟩) hpeer

/-- What is validated: the two keys, and that there are scopes. -/
theorem validateSigningInputs_isOk_iff {subjectPublicKey secretKeyHex : String}
    {scopes : List String} :
    (validateSigningInputs E subjectPublicKey secretKeyHex scopes).isOk = true
      ↔ (decodePublicKey E subjectPublicKey).isSome = true
        ∧ (signingKey secretKeyHex).isSome = true ∧ scopes ≠ [] := by
  unfold validateSigningInputs
  cases decodePublicKey E subjectPublicKey with
  | none => exact iff_of_false (by simp [Except.isOk, Except.toBool]) (by simp)
  | some key =>
    cases scopes with
    | nil => exact iff_of_false (by simp [Except.isOk, Except.toBool]) (by simp)
    | cons scope rest =>
      cases signingKey secretKeyHex with
      | none => exact iff_of_false (by simp [Except.isOk, Except.toBool]) (by simp)
      | some seed => exact iff_of_true rfl (by simp)

/-- A signature is made where its inputs are valid. -/
theorem sign_isOk (hjcs : ∀ a : MembershipAssertion, (E.jcs a.toJson).isSome = true)
    (input : MembershipInput) (secretKeyHex assertionId : String) :
    (sign E input secretKeyHex assertionId).isOk
      = (validateSigningInputs E input.subjectPublicKey secretKeyHex input.scopes).isOk := by
  rw [sign_eq]
  cases validateSigningInputs E input.subjectPublicKey secretKeyHex input.scopes with
  | error e => rfl
  | ok seed =>
    obtain ⟨bytes, hbytes⟩ := Option.isSome_iff_exists.mp (hjcs (assertion input assertionId))
    unfold signingInput
    rw [hbytes]
    rfl

/-- **The signature of a request whose keys are in order** depends on the
scopes that were granted. -/
theorem sign_isOk_iff (hjcs : ∀ a : MembershipAssertion, (E.jcs a.toJson).isSome = true)
    {D : RestrictedDomainService} {q : MembershipRequest} {keys : AssertionKeys}
    (hkeys : signable E q keys = true) (draw : MembershipDraw) (t : Memberships fold) :
    (sign E (membershipInput D q keys (issuedMembership D q draw t)) keys.signingKey
        draw.assertionId).isOk = true
      ↔ GrantsPeers q.scopes := by
  unfold signable at hkeys
  obtain ⟨hpublic, hsecret, -⟩ :=
    (validateSigningInputs_isOk_iff E).mp ((Bool.and_eq_true _ _).mp hkeys).2
  rw [sign_isOk E hjcs, validateSigningInputs_isOk_iff, ← filter_normalized_ne_nil]
  exact ⟨fun h => h.2.2, fun h => ⟨hpublic, hsecret, h⟩⟩

/-! ## What is left behind -/

/-- A row has the hash of a token. -/
def Memberships.HasHash (t : Memberships fold) (hash : String) : Prop :=
  ∃ r ∈ t.rows, r.tokenHash = hash

theorem hasHash_upsert (t : Memberships fold) (row : MembershipRow) :
    Memberships.HasHash (t.upsert row row.supersede fun _ => rfl) row.tokenHash := by
  refine ⟨_, Table.mem_upsert_iff.mpr (Or.inl rfl), ?_⟩
  cases t.find (row.key fold) <;> rfl

theorem hasHash_attach {t : Memberships fold} {hash : String} (h : t.HasHash hash)
    (domainId kind subject : String) (generation : ℕ) (envelope : MembershipEnvelope) :
    (t.attach domainId kind subject generation envelope).HasHash hash := by
  obtain ⟨r, hr, rfl⟩ := h
  by_cases hkey : r.key fold = subjectKey fold domainId kind subject
  · refine ⟨r.attach generation envelope,
      Table.mem_update_iff.mpr (Or.inl ⟨r, Table.find_eq_some_iff.mpr ⟨hr, hkey⟩, rfl⟩), ?_⟩
    unfold MembershipRow.attach
    split <;> rfl
  · exact ⟨r, Table.mem_update_iff.mpr (Or.inr ⟨hr, hkey⟩), rfl⟩

variable {E} {D : RestrictedDomainService} {server server' : Server} {q : MembershipRequest}
  {keys : AssertionKeys} {draw : MembershipDraw} {t : Memberships fold}

/-- **A request that writes its row is answered with it** where its commit
is. -/
theorem fst_issueRecord (h : writes E D server q draw t = true) :
    (issueRecord E D server q draw t).1
      = if server.commit = .done then .ok (issuedMembership D q draw t)
        else .error "membership persistence failed" := by
  obtain ⟨hcheck, t', hrecord⟩ := record_of_writes E h
  have hfold := (foldlM_recordStatements E D q draw t).trans hrecord
  have hcarries : server.carries 2 = true := by
    unfold writes at h
    exact ((Bool.and_eq_true _ _).mp ((Bool.and_eq_true _ _).mp h).1).2
  have hreached := Transaction.reaches_of_carried hcarries hfold
  unfold issueRecord
  rw [hcheck]
  show (if (Transaction.run server (recordStatements E D q draw) t).1 then _ else _) = _
  rw [Transaction.run_of_reached hreached]
  cases server.commit with
  | done => rfl
  | refused => rfl
  | lost => rfl

/-- The row that is written has the hash of the new token. -/
theorem hasHash_issueRecord (hfresh : ∀ r ∈ t.rows, fold r.tokenHash ≠ fold (digest E draw.token))
    (h : writes E D server q draw t = true) :
    (issueRecord E D server q draw t).2.HasHash (digest E draw.token) := by
  obtain ⟨-, t', hrecord⟩ := record_of_writes E h
  rw [snd_issueRecord, if_pos h, hrecord]
  obtain rfl := Memberships.record_of_fresh hfresh hrecord
  exact hasHash_upsert t _

/-- **A failed request has left the rows as they were**, and what was checked
of its keys is enough to sign. -/
structure FailureKeeps (E : EvidenceLibs) (D : RestrictedDomainService) (server server' : Server)
    (q : MembershipRequest) (keys : AssertionKeys) (draw : MembershipDraw) (t : Memberships fold) :
    Prop where
  rows : ∀ e, (issueWithAssertion E D server server' q keys draw t).1 = .error e →
    (issueWithAssertion E D server server' q keys draw t).2 = t
  signs : signable E q keys = true → ∀ record, (issueRecord E D server q draw t).1 = .ok record →
    (sign E (membershipInput D q keys record) keys.signingKey draw.assertionId).isOk = true

/-- **When a failed request keeps the rows**: where a row that is written is
answered, and signed, and its envelope is written too. -/
def Completes (E : EvidenceLibs) (D : RestrictedDomainService) (server server' : Server)
    (q : MembershipRequest) (keys : AssertionKeys) (draw : MembershipDraw) (t : Memberships fold) :
    Prop :=
  signable E q keys = true → writes E D server q draw t = true →
    server.commit = .done ∧ GrantsPeers q.scopes ∧ server'.answers = true

theorem fst_issueSigned (h : signable E q keys = true) :
    (issueSigned E D server q keys draw t).1
      = (issueRecord E D server q draw t).1.bind fun record =>
          (sign E (membershipInput D q keys record) keys.signingKey draw.assertionId).map
            fun envelope => (record, envelope) := by
  unfold signable at h
  unfold issueSigned
  cases hblank : isBlank keys.subjectKeyId with
  | true =>
    rw [hblank] at h
    exact absurd h (by simp)
  | false =>
    cases hvalid : validateSigningInputs E keys.subjectPublicKey keys.signingKey
        (q.scopes.filter isPeerScope) with
    | error e =>
      rw [hvalid] at h
      exact absurd h (by simp [Except.isOk, Except.toBool])
    | ok seed => rfl

/-- A request that fails before its last statement has left what its first
transaction left. -/
theorem issueWithAssertion_of_error {e : String} (server' : Server)
    (h : (issueSigned E D server q keys draw t).1 = .error e) :
    issueWithAssertion E D server server' q keys draw t
      = (.error e, (issueSigned E D server q keys draw t).2) := by
  unfold issueWithAssertion
  rw [← Prod.mk.eta (p := issueSigned E D server q keys draw t), h]

theorem issueWithAssertion_of_ok {record : IssuedMembership} {envelope : MembershipEnvelope}
    (server' : Server) (h : (issueSigned E D server q keys draw t).1 = .ok (record, envelope)) :
    issueWithAssertion E D server server' q keys draw t
      = attachEnvelope D server' q record envelope (issueSigned E D server q keys draw t).2 := by
  unfold issueWithAssertion
  rw [← Prod.mk.eta (p := issueSigned E D server q keys draw t), h]

/-- **A request that fails behind its row has not kept the rows.** -/
theorem not_failureKeeps (hfresh : ∀ r ∈ t.rows, fold r.tokenHash ≠ fold (digest E draw.token))
    {e : String} (he : (issueWithAssertion E D server server' q keys draw t).1 = .error e)
    (hhash : (issueWithAssertion E D server server' q keys draw t).2.HasHash (digest E draw.token)) :
    ¬ FailureKeeps E D server server' q keys draw t := by
  intro h
  rw [h.rows e he] at hhash
  obtain ⟨r, hr, hsame⟩ := hhash
  exact hfresh r hr (congrArg fold hsame)

/-- **A failed request has kept the rows exactly where it wrote none of them**,
or its commit was answered, a scope for peers was granted, and the statement
behind was answered. -/
theorem failed_issue_keeps_iff (E : EvidenceLibs) (D : RestrictedDomainService)
    (server server' : Server) (q : MembershipRequest) (keys : AssertionKeys) (draw : MembershipDraw)
    (t : Memberships fold) (hjcs : ∀ a : MembershipAssertion, (E.jcs a.toJson).isSome = true)
    (hfresh : ∀ r ∈ t.rows, fold r.tokenHash ≠ fold (digest E draw.token)) :
    FailureKeeps E D server server' q keys draw t ↔ Completes E D server server' q keys draw t := by
  have hsnd := snd_issueSigned E D server q keys draw t
  have hrows := snd_issueRecord E D server q draw t
  by_cases hkeys : signable E q keys = true
  swap
  · -- refused before anything is written
    refine iff_of_true ⟨fun e he => ?_, fun h => absurd h hkeys⟩ fun h => absurd h hkeys
    cases hfst : (issueSigned E D server q keys draw t).1 with
    | error e' =>
      rw [issueWithAssertion_of_error server' hfst, hsnd, if_neg hkeys]
    | ok p => exact absurd (writes_of_issueSigned E hfst).1 hkeys
  by_cases hwrites : writes E D server q draw t = true
  swap
  · -- the transaction leaves nothing
    have hnot : ∀ record, (issueRecord E D server q draw t).1 ≠ .ok record :=
      fun record hr => hwrites (writes_of_issueRecord E hr).1
    refine iff_of_true ⟨fun e he => ?_, fun _ record hr => absurd hr (hnot record)⟩
      fun _ h => absurd h hwrites
    cases hfst : (issueSigned E D server q keys draw t).1 with
    | error e' =>
      rw [issueWithAssertion_of_error server' hfst, hsnd, if_pos hkeys, hrows, if_neg hwrites]
    | ok p => exact absurd (writes_of_issueSigned E hfst).2.1 hwrites
  have hfst : (issueSigned E D server q keys draw t).1 = _ := fst_issueSigned hkeys
  have hhash := hasHash_issueRecord hfresh hwrites
  rw [if_pos hkeys] at hsnd
  rw [fst_issueRecord hwrites] at hfst
  rw [← hsnd] at hhash
  have hsign : _ ↔ GrantsPeers q.scopes := sign_isOk_iff E hjcs (D := D) hkeys draw t
  have hfails : ∀ {e}, (issueSigned E D server q keys draw t).1 = .error e →
      ¬ FailureKeeps E D server server' q keys draw t := by
    intro e he
    have hresult := issueWithAssertion_of_error server' he
    exact not_failureKeeps hfresh (congrArg Prod.fst hresult) (by rw [hresult]; exact hhash)
  by_cases hcommit : server.commit = .done
  swap
  · rw [if_neg hcommit] at hfst
    exact iff_of_false (hfails hfst) fun h => hcommit (h hkeys hwrites).1
  rw [if_pos hcommit, Except.bind] at hfst
  cases hsigned : sign E (membershipInput D q keys (issuedMembership D q draw t)) keys.signingKey
      draw.assertionId with
  | error e =>
    rw [hsigned] at hfst hsign
    exact iff_of_false (hfails hfst) fun h => absurd (hsign.mpr (h hkeys hwrites).2.1)
      (by simp [Except.isOk, Except.toBool])
  | ok envelope =>
    have hgrants : GrantsPeers q.scopes := hsign.mp (by rw [hsigned]; rfl)
    rw [hsigned] at hfst
    have hresult := issueWithAssertion_of_ok server' hfst
    unfold attachEnvelope at hresult
    rw [Transaction.single_of_always] at hresult
    cases hanswers : server'.answers with
    | true =>
      rw [hanswers] at hresult
      refine iff_of_true ⟨fun e he => ?_, fun _ record hrecord => ?_⟩
        fun _ _ => ⟨hcommit, hgrants, hanswers⟩
      · rw [hresult] at he
        exact absurd he (by simp)
      · obtain ⟨-, rfl⟩ := writes_of_issueRecord E hrecord
        exact hsign.mpr hgrants
    | false =>
      rw [hanswers] at hresult
      refine iff_of_false (not_failureKeeps hfresh (congrArg Prod.fst hresult) ?_)
        fun h => absurd (h hkeys hwrites).2.2 (by rw [hanswers]; decide)
      rw [hresult]
      show (if server'.executes then _ else _ : Memberships fold).HasHash _
      split
      · exact hasHash_attach hhash _ _ _ _ _
      · exact hhash

namespace Sample

/-- A node that is a member. -/
def oneMember : Memberships id :=
  (issue membershipLibs domain .willing ⟨"node", "node-a", ["*"], 3600⟩ ⟨"0", "", 0, 0⟩ (.empty _)).2

/-- The keys of a request. -/
def assertionKeys : AssertionKeys where
  subjectKeyId := "node-a#key-1"
  subjectPublicKey := "0EqyMnQrtKs6E2i9RhXk5tAiSrcaAWuvhSCjMsl3hzc"
  signingKey := Hex.encode (List.replicate 32 17)

/-- The second request for the node. -/
def again (scopes : List String) : MembershipRequest := ⟨"node", "node-a", scopes, 3600⟩

/-- What it draws. -/
def againDraw : MembershipDraw := ⟨"1", "3f2b8c1e-6a4d-4e0b-9f57-0d1c2b3a4e5f", 0, 0⟩

theorem again_fresh : ∀ r ∈ oneMember.rows,
    id r.tokenHash ≠ id (digest membershipLibs againDraw.token) := by
  decide

end Sample

/-- A request for a scope that is granted and is one for peers. -/
theorem bootstrap_issue_keeps :
    FailureKeeps Sample.membershipLibs Sample.domain .willing .willing (Sample.again ["bootstrap"])
      Sample.assertionKeys Sample.againDraw Sample.oneMember :=
  (failed_issue_keeps_iff _ _ _ _ _ _ _ _ (fun _ => rfl) Sample.again_fresh).mpr
    fun _ _ => ⟨rfl, ⟨"bootstrap", List.mem_cons_self, rfl, rfl⟩, rfl⟩

/-- **A request for `execution` and `heartbeat`**: the first is for peers, the
second is granted, and the token the node had is gone. -/
theorem failed_issue_loses_token :
    (authorize Sample.membershipLibs Sample.domain 0 Sample.oneMember "iicp_mem_0" "node-a"
        "heartbeat").isSome = true
      ∧ ¬ FailureKeeps Sample.membershipLibs Sample.domain .willing .willing
        (Sample.again ["execution", "heartbeat"]) Sample.assertionKeys Sample.againDraw
        Sample.oneMember := by
  refine ⟨by decide, fun h => ?_⟩
  have hrows := h.rows "a peer-verifiable assertion requires at least one peer operation scope" rfl
  have hhashes := congrArg (fun t : Memberships id => t.rows.map MembershipRow.tokenHash) hrows
  exact absurd hhashes (by decide)

end RestrictedDomain
