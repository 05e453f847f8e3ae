import IicpDirectory.Admission
import IicpDirectory.Seed.NodeAuth
import IicpDirectory.Seed.Ownership

/-!
# The credentials of a registration

A registration is answered with two credentials: a token, which goes with the
header `X-Node-Id`, and a signed token, which says itself whose it is. The
handlers name the node first and have the repository verify the token then. The
repository knows the first token alone, and compares whatever is shown with it.

So the token authenticates its node, and no other one, until another
registration or a removal takes it away. The signed token names its node and
authenticates nobody: it never is the token on record
(`signed_token_never_works`).

What a registration replaces, a removal deletes and an anonymization overwrites
is the whole of it: nothing else writes the token of a node.
-/

/-! ## The two repositories -/

/-- **The operations of a repository on the token of a node.** -/
class CredentialRepository (σ : Type) where
  empty : σ
  verifyNodeToken : σ → String → String → Bool
  /-- Persist a registration; the salt is drawn for its token. -/
  register : σ → PendingRegistration → String → σ
  /-- `deregister`. -/
  remove : σ → String → σ
  /-- The `UPDATE nodes` of an anonymization, of the nodes it finds; the bytes are
  drawn for each. -/
  anonymize : σ → (String → Bool) → (String → Bytes) → σ

/-- The row of a node that was made anonymous: a digest of what was drawn stands for
what authenticated it, and its owner is forgotten. -/
def OwnerRow.anonymized (draws : String → Bytes) (r : OwnerRow) : OwnerRow :=
  { r with
    operatorPubkey := none
    cxPublicKey := none
    nodeTokenHash := Hex.encode (draws r.id) }

namespace OwnedTables

variable {B : Bcrypt} {fold : String → String}

/-- `MySqlRepo::deregister`. -/
def remove (t : OwnedTables B fold) (nodeId : String) : OwnedTables B fold where
  repo := (t.repo.deregister nodeId).2
  owners := t.owners.delete (fold nodeId)

/-- `apply_mysql_dsr_anonymization`, in these columns. -/
def anonymize (t : OwnedTables B fold) (hit : String → Bool) (draws : String → Bytes) :
    OwnedTables B fold :=
  { t with
    owners := t.owners.updateWhere (fun r => hit r.id) (OwnerRow.anonymized draws) fun _ => rfl }

/-- The hash that is on record for a node. -/
def hashOf (t : OwnedTables B fold) (nodeId : String) : Option String :=
  (t.owners.find (fold nodeId)).map OwnerRow.nodeTokenHash

/-- What is verified is the hash on record. -/
theorem verifyNodeToken_eq (t : OwnedTables B fold) (nodeId token : String) :
    t.verifyNodeToken nodeId token = (t.hashOf nodeId).any (B.verify token) := by
  unfold verifyNodeToken hashOf
  cases t.owners.find (fold nodeId) <;> rfl

/-- **A registration puts the hash of its token on record**, for its node. -/
theorem hashOf_register (t : OwnedTables B fold) (p : PendingRegistration) (salt nodeId : String) :
    (t.register p salt).hashOf nodeId
      = if fold nodeId = fold p.nodeId then some (B.hash p.nodeToken salt)
        else t.hashOf nodeId := by
  have hfind : (t.register p salt).owners.find (fold nodeId)
      = if fold nodeId = fold p.nodeId then
          some (((t.owners.find (fold p.nodeId)).map
            (mergeOwner p (B.hash p.nodeToken salt))).getD (newOwner p (B.hash p.nodeToken salt)))
        else t.owners.find (fold nodeId) := Table.find_upsert _ _ _ _
  unfold hashOf
  rw [hfind]
  split
  · cases t.owners.find (fold p.nodeId) <;> rfl
  · rfl

theorem hashOf_remove (t : OwnedTables B fold) (removed nodeId : String) :
    (t.remove removed).hashOf nodeId
      = if fold nodeId = fold removed then none else t.hashOf nodeId := by
  have hfind : (t.remove removed).owners.find (fold nodeId)
      = if fold nodeId = fold removed then none else t.owners.find (fold nodeId) :=
    Table.find_delete _ _ _
  unfold hashOf
  rw [hfind]
  split <;> rfl

/-- An anonymization leaves the hash of a node, or a digest in its place. -/
theorem hashOf_anonymize (t : OwnedTables B fold) (hit : String → Bool) (draws : String → Bytes)
    (nodeId : String) : (t.anonymize hit draws).hashOf nodeId
      = (t.owners.find (fold nodeId)).map fun r =>
          if hit r.id then Hex.encode (draws r.id) else r.nodeTokenHash := by
  have hfind : (t.anonymize hit draws).owners.find (fold nodeId)
      = (t.owners.find (fold nodeId)).map fun r =>
          if hit r.id then r.anonymized draws else r :=
    Table.find_updateWhere _ _ _ (f := OwnerRow.anonymized draws) fun _ => rfl
  unfold hashOf
  rw [hfind]
  cases t.owners.find (fold nodeId) with
  | none => rfl
  | some r =>
    refine congrArg some ?_
    show OwnerRow.nodeTokenHash (if hit r.id then _ else r) = if hit r.id then _ else _
    split <;> rfl

instance (B : Bcrypt) (fold : String → String) : CredentialRepository (OwnedTables B fold) where
  empty := empty B fold
  verifyNodeToken := verifyNodeToken
  register := register
  remove := remove
  anonymize := anonymize

end OwnedTables

/-- In memory an anonymization leaves the tokens as they are. -/
instance : CredentialRepository TokenMemory where
  empty := TokenMemory.verifying
  verifyNodeToken := TokenMemory.verifyNodeToken
  register m p _ := { m with repo := m.repo.register p.record }
  remove m nodeId := { m with repo := (m.repo.deregister nodeId).2 }
  anonymize m _ _ := m

/-! ## Tokens -/

/-- A random identity, in hexadecimal digits with hyphens between. -/
def IsUuid (text : String) : Prop :=
  text.toList.length = 36 ∧ ∀ c ∈ text.toList, c ∈ "-0123456789abcdef".toList

/-- A text without the zero character, as every header is. -/
def NulFree (text : String) : Prop := Char.ofNat 0 ∉ text.toList

theorem IsUuid.notMem {text : String} (h : IsUuid text) {c : Char}
    (hc : c ∉ "-0123456789abcdef".toList) : c ∉ text.toList :=
  fun hmem => hc (h.2 c hmem)

theorem IsUuid.nulFree {text : String} (h : IsUuid text) : NulFree text := h.notMem (by decide)

/-- It is thirty-six bytes. -/
theorem IsUuid.byteLength {text : String} (h : IsUuid text) : Admission.byteLength text = 36 := by
  have hone : ("-0123456789abcdef".toList.all fun c => c.utf8Size == 1) = true := by decide
  have hsizes : text.toList.map Char.utf8Size = List.replicate 36 1 :=
    List.eq_replicate_iff.mpr ⟨by rw [List.length_map, h.1], fun n hn => by
      obtain ⟨c, hc, rfl⟩ := List.mem_map.mp hn
      exact beq_iff_eq.mp (List.all_eq_true.mp hone c (h.2 c hc))⟩
  unfold Admission.byteLength
  rw [hsizes]
  rfl

/-- **`bcrypt`, as the directory relies on it**: a text of at most seventy-one
bytes is verified by itself alone among the texts without a zero, and what does
not begin like a hash verifies nothing. -/
structure Bcrypt.Sound (B : Bcrypt) : Prop where
  verify_hash : ∀ {text hashed : String} (salt : String), NulFree text → NulFree hashed →
    Admission.byteLength hashed ≤ 71 →
      (B.verify text (B.hash hashed salt) = true ↔ text = hashed)
  verify_other : ∀ {hash : String} (text : String), '$' ∉ hash.toList → B.verify text hash = false

/-- A digest does not begin like a hash. -/
theorem dollar_notMem_hex (bytes : Bytes) : '$' ∉ (Hex.encode bytes).toList := by
  intro h
  obtain ⟨n, hn, hc⟩ := Hex.exists_digit_of_mem h
  have hdigits : ∀ m < 16, '$' ≠ Hex.digit m := by decide
  exact hdigits n hn hc

/-! ## What the operations do to what is verified -/

/-- **What a repository verifies**, behind each of its operations, in the states
that verify tokens; nodes are the same under a collation. -/
structure KeepsCredentials (σ : Type) [CredentialRepository σ] (fold : String → String)
    (verifies : σ → Prop) : Prop where
  empty : verifies (CredentialRepository.empty : σ)
  register : ∀ {s : σ} (p salt), verifies s → verifies (CredentialRepository.register s p salt)
  remove : ∀ {s : σ} (nodeId), verifies s → verifies (CredentialRepository.remove s nodeId)
  anonymize : ∀ {s : σ} (hit draws), verifies s →
    verifies (CredentialRepository.anonymize s hit draws)
  verify_empty : ∀ nodeId token,
    CredentialRepository.verifyNodeToken (CredentialRepository.empty : σ) nodeId token = false
  verify_register : ∀ {s : σ} {p : PendingRegistration} (salt nodeId) {token : String},
    verifies s → IsUuid p.nodeToken → NulFree token →
      CredentialRepository.verifyNodeToken (CredentialRepository.register s p salt) nodeId token
        = if fold nodeId = fold p.nodeId then decide (token = p.nodeToken)
          else CredentialRepository.verifyNodeToken s nodeId token
  verify_remove : ∀ {s : σ} (removed nodeId token), verifies s →
    CredentialRepository.verifyNodeToken (CredentialRepository.remove s removed) nodeId token
      = (decide (fold nodeId ≠ fold removed)
        && CredentialRepository.verifyNodeToken s nodeId token)
  verify_of_anonymize : ∀ {s : σ} {hit draws} {nodeId token : String}, verifies s →
    CredentialRepository.verifyNodeToken (CredentialRepository.anonymize s hit draws) nodeId token
      = true → CredentialRepository.verifyNodeToken s nodeId token = true
  verify_anonymize : ∀ {s : σ} {hit : String → Bool} (draws) {nodeId : String} (token), verifies s →
    (∀ id, fold id = fold nodeId → hit id = false) →
    CredentialRepository.verifyNodeToken (CredentialRepository.anonymize s hit draws) nodeId token
      = CredentialRepository.verifyNodeToken s nodeId token

/-- **Over MySQL.** -/
theorem keepsCredentials_mySql {B : Bcrypt} (hB : B.Sound) (fold : String → String) :
    KeepsCredentials (OwnedTables B fold) fold (fun _ => True) where
  empty := trivial
  register _ _ _ := trivial
  remove _ _ := trivial
  anonymize _ _ _ := trivial
  verify_empty _ _ := rfl
  verify_register {s p} salt nodeId {token} _ hp htoken := by
    have hverify : B.verify token (B.hash p.nodeToken salt) = decide (token = p.nodeToken) := by
      rw [Bool.eq_iff_iff, decide_eq_true_iff]
      exact hB.verify_hash salt htoken hp.nulFree (by rw [hp.byteLength]; decide)
    show (s.register p salt).verifyNodeToken nodeId token
      = if _ then _ else s.verifyNodeToken nodeId token
    rw [OwnedTables.verifyNodeToken_eq, OwnedTables.verifyNodeToken_eq,
      OwnedTables.hashOf_register]
    split
    · exact hverify
    · rfl
  verify_remove {s} removed nodeId token _ := by
    show (s.remove removed).verifyNodeToken nodeId token = (_ && s.verifyNodeToken nodeId token)
    rw [OwnedTables.verifyNodeToken_eq, OwnedTables.verifyNodeToken_eq, OwnedTables.hashOf_remove]
    by_cases hsame : fold nodeId = fold removed
    · simp [hsame]
    · simp [hsame]
  verify_of_anonymize {s hit draws nodeId token} _ h := by
    replace h : (s.anonymize hit draws).verifyNodeToken nodeId token = true := h
    show s.verifyNodeToken nodeId token = true
    rw [OwnedTables.verifyNodeToken_eq, OwnedTables.hashOf_anonymize] at h
    rw [OwnedTables.verifyNodeToken_eq]
    unfold OwnedTables.hashOf
    cases hfind : s.owners.find (fold nodeId) with
    | none =>
      rw [hfind] at h
      exact absurd h (by simp)
    | some r =>
      rw [hfind, Option.map_some, Option.any_some] at h
      rw [Option.map_some, Option.any_some]
      split at h
      · exact absurd ((hB.verify_other token (dollar_notMem_hex (draws r.id))).symm.trans h) (by simp)
      · exact h
  verify_anonymize {s hit} draws {nodeId} token _ hmiss := by
    show (s.anonymize hit draws).verifyNodeToken nodeId token = s.verifyNodeToken nodeId token
    rw [OwnedTables.verifyNodeToken_eq, OwnedTables.verifyNodeToken_eq,
      OwnedTables.hashOf_anonymize]
    unfold OwnedTables.hashOf
    cases hfind : s.owners.find (fold nodeId) with
    | none => rfl
    | some r =>
      have hkey := Table.key_of_find (t := s.owners) hfind
      rw [Option.map_some, Option.map_some, hmiss r.id hkey]
      rfl

/-- **In memory**, where tokens are verified. -/
theorem keepsCredentials_memory :
    KeepsCredentials TokenMemory id (fun m => m.verifyTokens = true) where
  empty := rfl
  register _ _ h := h
  remove _ h := h
  anonymize _ _ h := h
  verify_empty _ _ := rfl
  verify_register {s p} salt nodeId {token} hs _ _ := by
    show (!s.verifyTokens || ((s.repo.register p.record).find nodeId).any _)
      = if nodeId = p.nodeId then _ else (!s.verifyTokens || (s.repo.find nodeId).any _)
    rw [InMemoryRepo.find_register, hs, Bool.not_true, Bool.false_or, Bool.false_or]
    by_cases hsame : nodeId = p.nodeId
    · have hid : nodeId = p.record.id := hsame
      rw [if_pos hid, if_pos hsame, Option.any_some]
      have htoken : decide (p.nodeToken = token) = decide (token = p.nodeToken) :=
        decide_eq_decide.mpr eq_comm
      rw [← htoken]
      cases s.repo.find p.record.id <;> rfl
    · have hid : ¬ nodeId = p.record.id := hsame
      rw [if_neg hid, if_neg hsame]
  verify_remove {s} removed nodeId token hs := by
    show (!s.verifyTokens || (((s.repo.deregister removed).2).find nodeId).any _)
      = (decide (nodeId ≠ removed) && (!s.verifyTokens || (s.repo.find nodeId).any _))
    rw [InMemoryRepo.find_deregister, hs, Bool.not_true, Bool.false_or, Bool.false_or]
    by_cases hsame : nodeId = removed
    · simp [hsame]
    · simp [hsame]
  verify_of_anonymize _ h := h
  verify_anonymize _ _ _ _ _ := rfl

/-! ## The runs -/

/-- What becomes of the token of a node. -/
inductive CredentialEvent
  | registered (p : PendingRegistration) (salt : String)
  | removed (nodeId : String)
  | anonymized (hit : String → Bool) (draws : String → Bytes)

namespace CredentialEvent

/-- One of them, on a repository. -/
def apply {σ : Type} [CredentialRepository σ] (s : σ) : CredentialEvent → σ
  | registered p salt => CredentialRepository.register s p salt
  | removed nodeId => CredentialRepository.remove s nodeId
  | anonymized hit draws => CredentialRepository.anonymize s hit draws

/-- The registration, if it is one. -/
def registration : CredentialEvent → Option PendingRegistration
  | registered p _ => some p
  | _ => none

/-- It is not about a node. -/
def Spares (fold : String → String) (nodeId : String) : CredentialEvent → Prop
  | registered p _ => fold nodeId ≠ fold p.nodeId
  | removed other => fold nodeId ≠ fold other
  | anonymized hit _ => ∀ id, fold id = fold nodeId → hit id = false

end CredentialEvent

/-- **A registration among other events**, which draw their tokens at random; what
comes behind it is about other nodes. -/
structure Registered (fold : String → String) (p : PendingRegistration)
    (events : List CredentialEvent) : Prop where
  drawn : ∀ q ∈ events.filterMap CredentialEvent.registration, IsUuid q.nodeToken
  fresh : ((events.filterMap CredentialEvent.registration).map PendingRegistration.nodeToken).Nodup
  current : ∃ before salt behind, events = before ++ .registered p salt :: behind
    ∧ ∀ e ∈ behind, e.Spares fold p.nodeId

namespace KeepsCredentials

variable {σ : Type} [CredentialRepository σ] {fold : String → String} {verifies : σ → Prop}

/-- The repository behind some events. -/
def after (σ : Type) [CredentialRepository σ] (events : List CredentialEvent) : σ :=
  Run.after CredentialEvent.apply CredentialRepository.empty events

theorem verifies_apply (hσ : KeepsCredentials σ fold verifies) {s : σ} (hs : verifies s)
    (e : CredentialEvent) : verifies (e.apply s) := by
  cases e with
  | registered p salt => exact hσ.register p salt hs
  | removed nodeId => exact hσ.remove nodeId hs
  | anonymized hit draws => exact hσ.anonymize hit draws hs

theorem verifies_after (hσ : KeepsCredentials σ fold verifies) (events : List CredentialEvent) :
    verifies (after σ events) := by
  have hstep : ∀ (s : σ) (e : CredentialEvent), verifies s → verifies (e.apply s) :=
    fun _ e hs => hσ.verifies_apply hs e
  exact @Run.invariant σ _ CredentialEvent.apply verifies hstep _ hσ.empty events

theorem after_append (first second : List CredentialEvent) :
    after σ (first ++ second) = Run.after CredentialEvent.apply (after σ first) second :=
  Run.after_append _ _ _ _

/-- **What is verified was drawn**, by a registration of the node. -/
theorem registration_of_verify (hσ : KeepsCredentials σ fold verifies) {nodeId token : String}
    (htoken : NulFree token) {events : List CredentialEvent}
    (hdrawn : ∀ q ∈ events.filterMap CredentialEvent.registration, IsUuid q.nodeToken)
    (h : CredentialRepository.verifyNodeToken (after σ events) nodeId token = true) :
    ∃ q ∈ events.filterMap CredentialEvent.registration,
      fold nodeId = fold q.nodeId ∧ token = q.nodeToken := by
  induction events using List.reverseRecOn with
  | nil => exact absurd ((hσ.verify_empty nodeId token).symm.trans h) (by simp)
  | append_singleton events e ih =>
    have hearlier : ∀ q ∈ events.filterMap CredentialEvent.registration,
        q ∈ (events ++ [e]).filterMap CredentialEvent.registration := by
      intro q hq
      rw [List.filterMap_append]
      exact List.mem_append_left _ hq
    have hbefore : CredentialRepository.verifyNodeToken (after σ events) nodeId token = true →
        ∃ q ∈ (events ++ [e]).filterMap CredentialEvent.registration,
          fold nodeId = fold q.nodeId ∧ token = q.nodeToken := by
      intro hverify
      obtain ⟨q, hq, hfits⟩ := ih (fun q hq => hdrawn q (hearlier q hq)) hverify
      exact ⟨q, hearlier q hq, hfits⟩
    have hs := hσ.verifies_after events
    rw [after_append] at h
    cases e with
    | registered p salt =>
      have hp : p ∈ (events ++ [CredentialEvent.registered p salt]).filterMap
          CredentialEvent.registration := by
        rw [List.filterMap_append]
        exact List.mem_append_right _ List.mem_cons_self
      replace h : CredentialRepository.verifyNodeToken
          (CredentialRepository.register (after σ events) p salt) nodeId token = true := h
      rw [hσ.verify_register salt nodeId hs (hdrawn p hp) htoken] at h
      split at h
      · next hsame => exact ⟨p, hp, hsame, of_decide_eq_true h⟩
      · exact hbefore h
    | removed other =>
      replace h : CredentialRepository.verifyNodeToken
          (CredentialRepository.remove (after σ events) other) nodeId token = true := h
      rw [hσ.verify_remove other nodeId token hs, Bool.and_eq_true] at h
      exact hbefore h.2
    | anonymized hit draws => exact hbefore (hσ.verify_of_anonymize hs h)

/-- What is about other nodes leaves a token as it is. -/
theorem verify_of_spares (hσ : KeepsCredentials σ fold verifies) {nodeId token : String}
    (htoken : NulFree token) {s : σ} (hs : verifies s) {events : List CredentialEvent}
    (hdrawn : ∀ q ∈ events.filterMap CredentialEvent.registration, IsUuid q.nodeToken)
    (hspares : ∀ e ∈ events, e.Spares fold nodeId)
    (h : CredentialRepository.verifyNodeToken s nodeId token = true) :
    CredentialRepository.verifyNodeToken (Run.after CredentialEvent.apply s events) nodeId token
      = true := by
  induction events generalizing s with
  | nil => exact h
  | cons e rest ih =>
    have hrest : ∀ q ∈ rest.filterMap CredentialEvent.registration,
        q ∈ (e :: rest).filterMap CredentialEvent.registration := by
      intro q hq
      rw [List.filterMap_cons]
      split
      · exact hq
      · exact List.mem_cons_of_mem _ hq
    refine ih (hσ.verifies_apply hs e) (fun q hq => hdrawn q (hrest q hq))
      (fun e' he' => hspares e' (List.mem_cons_of_mem _ he')) ?_
    have hspare := hspares e List.mem_cons_self
    cases e with
    | registered p salt =>
      have hp : IsUuid p.nodeToken := hdrawn p List.mem_cons_self
      exact (hσ.verify_register salt nodeId hs hp htoken).trans ((if_neg hspare).trans h)
    | removed other =>
      refine (hσ.verify_remove other nodeId token hs).trans ?_
      have hother : decide (fold nodeId ≠ fold other) = true := decide_eq_true hspare
      rw [hother, Bool.true_and]
      exact h
    | anonymized hit draws => exact (hσ.verify_anonymize draws token hs hspare).trans h

/-- **The token of a registration is verified** as long as it is the last word on
its node. -/
theorem verify_of_registered (hσ : KeepsCredentials σ fold verifies) {p : PendingRegistration}
    {events : List CredentialEvent} (hp : Registered fold p events) :
    CredentialRepository.verifyNodeToken (after σ events) p.nodeId p.nodeToken = true := by
  obtain ⟨before, salt, behind, rfl, hspares⟩ := hp.current
  have hmem : ∀ q ∈ (CredentialEvent.registered p salt :: behind).filterMap
      CredentialEvent.registration, IsUuid q.nodeToken := by
    intro q hq
    refine hp.drawn q ?_
    rw [List.filterMap_append]
    exact List.mem_append_right _ hq
  have huuid : IsUuid p.nodeToken := hmem p List.mem_cons_self
  have hs := hσ.verifies_after before
  rw [after_append]
  refine hσ.verify_of_spares huuid.nulFree (hσ.register p salt hs)
    (fun q hq => hmem q (List.mem_cons_of_mem _ hq)) hspares ?_
  rw [hσ.verify_register salt p.nodeId hs huuid huuid.nulFree, if_pos rfl]
  exact decide_eq_true rfl

end KeepsCredentials

/-! ## What a registration is answered with -/

section Answer

variable (J : NodeJwt) (secret : Bytes) (verify : String → String → Bool)

/-- **The token works**, with the header that names the node. -/
def TokenWorks (p : PendingRegistration) : Prop :=
  ∀ now xNodeId, headerText xNodeId = some p.nodeId →
    Auth.authenticated (Auth.verifyJwt J secret now) verify (some xNodeId) p.nodeToken
      = some p.nodeId

/-- **The signed token works**, alone, until it expires. -/
def SignedTokenWorks (p : PendingRegistration) (issued : ℕ) : Prop :=
  ∀ jwt, Auth.issueJwt J secret p.nodeId issued = some jwt →
    ∀ now, issued ≤ now → now ≤ issued + 3600 →
      Auth.authenticated (Auth.verifyJwt J secret now) verify none jwt = some p.nodeId

/-- **No credential is another node's**: whoever shows what was issued in a
registration is taken to be the node of it, or nobody. -/
def Separate (fold : String → String) (events : List CredentialEvent) : Prop :=
  ∀ q ∈ events.filterMap CredentialEvent.registration, ∀ token,
    token = q.nodeToken ∨ (∃ issued, Auth.issueJwt J secret q.nodeId issued = some token) →
      ∀ now xNodeId nodeId,
        Auth.authenticated (Auth.verifyJwt J secret now) verify xNodeId token = some nodeId →
          fold nodeId = fold q.nodeId

end Answer

namespace KeepsCredentials

variable {σ : Type} [CredentialRepository σ] {fold : String → String} {verifies : σ → Prop}

/-- A signed token is verified for nobody. -/
theorem not_verify_of_dotted (hσ : KeepsCredentials σ fold verifies) {nodeId token : String}
    (hdot : '.' ∈ token.toList)
    (hchars : ∀ c ∈ token.toList, c = '.' ∨ c = '-' ∨ c = '_' ∨ c.isAlphanum = true)
    {events : List CredentialEvent}
    (hdrawn : ∀ q ∈ events.filterMap CredentialEvent.registration, IsUuid q.nodeToken) :
    CredentialRepository.verifyNodeToken (after σ events) nodeId token = false := by
  have hnul : NulFree token := by
    intro hmem
    have hnone : ¬ (Char.ofNat 0 = '.' ∨ Char.ofNat 0 = '-' ∨ Char.ofNat 0 = '_'
        ∨ (Char.ofNat 0).isAlphanum = true) := by decide
    exact hnone (hchars _ hmem)
  refine Bool.eq_false_iff.mpr fun h => ?_
  obtain ⟨q, hq, -, rfl⟩ := hσ.registration_of_verify hnul hdrawn h
  exact (hdrawn q hq).notMem (by decide) hdot

/-- **The token of a registration works.** -/
theorem tokenWorks (hσ : KeepsCredentials σ fold verifies) {J : NodeJwt} (hJ : J.Lawful)
    (secret : Bytes) {p : PendingRegistration} {events : List CredentialEvent}
    (hp : Registered fold p events) (hname : p.nodeId ≠ "") :
    TokenWorks J secret (CredentialRepository.verifyNodeToken (after σ events)) p := by
  intro now xNodeId hheader
  have huuid : IsUuid p.nodeToken := by
    obtain ⟨before, salt, behind, rfl, -⟩ := hp.current
    refine hp.drawn p ?_
    rw [List.filterMap_append]
    exact List.mem_append_right _ List.mem_cons_self
  have hnode : nodeIdFromAuth (Auth.verifyJwt J secret now) (some xNodeId) p.nodeToken
      = some p.nodeId := by
    unfold nodeIdFromAuth
    rw [Auth.verifyJwt_of_notMem hJ (huuid.notMem (by decide)), Option.none_or, Option.bind_some,
      hheader]
    exact Option.filter_eq_some_iff.mpr ⟨rfl, by simpa using hname⟩
  unfold Auth.authenticated
  rw [hnode]
  exact Option.filter_eq_some_iff.mpr ⟨rfl, hσ.verify_of_registered hp⟩

/-- **No credential is another node's.** -/
theorem separate (hσ : KeepsCredentials σ fold verifies) {J : NodeJwt} (hJ : J.Lawful)
    (secret : Bytes) {p : PendingRegistration} {events : List CredentialEvent}
    (hp : Registered fold p events) :
    Separate J secret (CredentialRepository.verifyNodeToken (after σ events)) fold events := by
  intro q hq token htoken now xNodeId nodeId hauth
  obtain ⟨-, hverify⟩ := Option.filter_eq_some_iff.mp hauth
  rcases htoken with rfl | ⟨issued, hissued⟩
  · obtain ⟨q', hq', hsame, htoken⟩ :=
      hσ.registration_of_verify (hp.drawn q hq).nulFree hp.drawn hverify
    rwa [List.inj_on_of_nodup_map hp.fresh hq hq' htoken]
  · obtain ⟨hdot, hchars⟩ := Auth.dotted_of_issueJwt hJ hissued
    exact absurd ((hσ.not_verify_of_dotted hdot hchars hp.drawn).symm.trans hverify) (by simp)

/-- **The signed token of a registration does not work**: it is the token of no one. -/
theorem not_signedTokenWorks (hσ : KeepsCredentials σ fold verifies) {J : NodeJwt} (hJ : J.Lawful)
    {secret : Bytes} {p : PendingRegistration} {events : List CredentialEvent}
    (hp : Registered fold p events) {issued : ℕ}
    (hjwt : (Auth.issueJwt J secret p.nodeId issued).isSome = true) :
    ¬ SignedTokenWorks J secret (CredentialRepository.verifyNodeToken (after σ events)) p issued := by
  intro hworks
  obtain ⟨jwt, hissued⟩ := Option.isSome_iff_exists.mp hjwt
  obtain ⟨-, hverify⟩ := Option.filter_eq_some_iff.mp
    (hworks jwt hissued issued le_rfl (Nat.le_add_right _ _))
  obtain ⟨hdot, hchars⟩ := Auth.dotted_of_issueJwt hJ hissued
  exact absurd ((hσ.not_verify_of_dotted hdot hchars hp.drawn).symm.trans hverify) (by simp)

/-- **The signed token of a registration never works.** The token beside it does, and
neither is another node's. -/
theorem signed_token_never_works (hσ : KeepsCredentials σ fold verifies) {J : NodeJwt}
    (hJ : J.Lawful) {appKey : String} {p : PendingRegistration} {events : List CredentialEvent}
    (hp : Registered fold p events) (hname : p.nodeId ≠ "") {issued : ℕ}
    (hjwt : (Auth.issueJwt J (Auth.jwtSecret appKey) p.nodeId issued).isSome = true) :
    ¬ SignedTokenWorks J (Auth.jwtSecret appKey)
        (CredentialRepository.verifyNodeToken (after σ events)) p issued
      ∧ TokenWorks J (Auth.jwtSecret appKey)
        (CredentialRepository.verifyNodeToken (after σ events)) p
      ∧ Separate J (Auth.jwtSecret appKey)
        (CredentialRepository.verifyNodeToken (after σ events)) fold events :=
  ⟨hσ.not_signedTokenWorks hJ hp hjwt, hσ.tokenWorks hJ _ hp hname, hσ.separate hJ _ hp⟩

end KeepsCredentials

namespace Sample

/-- A token. -/
def drawnToken : String := "0b7c4c1e-52a1-4d8e-9c7e-3f1a2b4c5d6e"

/-- **Its hash under one salt.** Off the table a hash is the text behind two signs that
no hash begins with. -/
def hashOfDrawn (text : String) : String :=
  if text = drawnToken then "$2b$12$abcdefghijklmnopqrstuu04jEmjt6NVgBd/i/w0kIv6shc35BWBG"
  else "$$" ++ text

/-- `bcrypt`, on that token. -/
def drawnBcrypt : Bcrypt where
  hash text _ := hashOfDrawn text
  verify text hash := hash == hashOfDrawn text

theorem hashOfDrawn_inj {text text' : String} (h : hashOfDrawn text = hashOfDrawn text') :
    text = text' := by
  have hsecond : ∀ other : String, ("$$" ++ other).toList[1]? = some '$' := by
    intro other
    rw [String.toList_append]
    rfl
  have hother : ∀ other : String,
      "$2b$12$abcdefghijklmnopqrstuu04jEmjt6NVgBd/i/w0kIv6shc35BWBG" ≠ "$$" ++ other := by
    intro other heq
    have hchar := hsecond other
    rw [← heq] at hchar
    exact absurd hchar (by decide)
  unfold hashOfDrawn at h
  split at h
  · next htext =>
    split at h
    · next htext' => exact htext.trans htext'.symm
    · exact absurd h (hother _)
  · split at h
    · exact absurd h.symm (hother _)
    · have hlist := congrArg String.toList h
      rw [String.toList_append, String.toList_append] at hlist
      exact String.toList_inj.mp (List.append_cancel_left hlist)

theorem drawnBcrypt_sound : drawnBcrypt.Sound where
  verify_hash {text hashed} _ _ _ _ := by
    show (hashOfDrawn hashed == hashOfDrawn text) = true ↔ text = hashed
    rw [beq_iff_eq]
    exact ⟨fun h => (hashOfDrawn_inj h).symm, fun h => by rw [h]⟩
  verify_other {hash} text h := by
    show (hash == hashOfDrawn text) = false
    refine beq_eq_false_iff_ne.mpr fun heq => h ?_
    rw [heq]
    unfold hashOfDrawn
    split
    · decide
    · rw [String.toList_append]
      exact List.mem_append_left _ (by decide)

/-- What is signed for a node at the beginning of time, under the key
`test-app-key`. -/
def signedText : String :=
  "eyJ0eXAiOiJKV1QiLCJhbGciOiJIUzI1NiJ9.eyJzdWIiOiJub2RlLWEiLCJpc3MiOiJpaWNwLm5ldHdvcmsiLCJpYXQi"
    ++ "OjAsImV4cCI6MzYwMH0.bN9eq758A5kEiKNSQ7UH6AHTUxm1ViIvJeWERjbANyc"

/-- The library, on these claims. -/
def signedJwt : NodeJwt where
  encode claims _ := if claims = Auth.nodeClaims "node-a" 0 then some signedText else none
  decode token _ now :=
    if token = signedText ∧ now ≤ 3660 then some (Auth.nodeClaims "node-a" 0) else none

theorem signedJwt_lawful : signedJwt.Lawful where
  decode_encode {claims _ token now} h _ hnow := by
    unfold signedJwt at h ⊢
    dsimp only at h ⊢
    split at h
    · next hclaims =>
      rw [hclaims] at hnow ⊢
      exact if_pos ⟨(Option.some.inj h).symm, hnow⟩
    · exact absurd h (by simp)
  decodes_signed {claims found _ token now} h hfound := by
    unfold signedJwt at h hfound
    dsimp only at h hfound
    split at h
    · next hclaims =>
      split at hfound
      · exact (Option.some.inj hfound).symm.trans hclaims.symm
      · exact absurd hfound (by simp)
    · exact absurd h (by simp)
  dotted {token _ now found} h := by
    unfold signedJwt at h
    dsimp only at h
    split at h
    · next htoken =>
      rw [htoken.1]
      have hchars : (signedText.toList.all fun c =>
          c == '.' || c == '-' || c == '_' || c.isAlphanum) = true := by decide +kernel
      refine ⟨by decide +kernel, fun c hc => ?_⟩
      have hone := List.all_eq_true.mp hchars c hc
      rw [Bool.or_eq_true, Bool.or_eq_true, Bool.or_eq_true, beq_iff_eq, beq_iff_eq, beq_iff_eq] at hone
      rwa [or_assoc, or_assoc] at hone
    · exact absurd h (by simp)

/-- A registration. -/
def drawnRegistration : PendingRegistration :=
  { registration "node-a" "https://a.test" with nodeToken := drawnToken }

/-- It alone. -/
def registeredAlone : List CredentialEvent := [.registered drawnRegistration ""]

theorem registered_alone (fold : String → String) :
    Registered fold drawnRegistration registeredAlone where
  drawn q hq := by
    obtain rfl := List.mem_singleton.mp hq
    have hchars : (drawnToken.toList.all fun c => "-0123456789abcdef".toList.contains c) = true := by
      decide +kernel
    exact ⟨by decide +kernel, fun c hc =>
      List.contains_iff_mem.mp (List.all_eq_true.mp hchars c hc)⟩
  fresh := List.nodup_singleton _
  current := ⟨[], "", [], rfl, fun _ h => absurd h List.not_mem_nil⟩

theorem signed_isSome :
    (Auth.issueJwt signedJwt (Auth.jwtSecret "test-app-key") "node-a" 0).isSome = true := by
  decide +kernel

end Sample

namespace KeepsCredentials

/-- **The signed token of a registration is refused**, over MySQL and in memory, while
the registration stands and the token has not expired. -/
theorem signed_token_refused :
    (¬ ∀ (p : PendingRegistration) (events : List CredentialEvent), Registered id p events →
        SignedTokenWorks Sample.signedJwt (Auth.jwtSecret "test-app-key")
          (CredentialRepository.verifyNodeToken (after (OwnedTables Sample.drawnBcrypt id) events))
          p 0)
      ∧ ¬ ∀ (p : PendingRegistration) (events : List CredentialEvent), Registered id p events →
        SignedTokenWorks Sample.signedJwt (Auth.jwtSecret "test-app-key")
          (CredentialRepository.verifyNodeToken (after TokenMemory events)) p 0 := by
  have hmySql := (keepsCredentials_mySql Sample.drawnBcrypt_sound id).not_signedTokenWorks
    Sample.signedJwt_lawful (Sample.registered_alone id) Sample.signed_isSome
  have hmemory := keepsCredentials_memory.not_signedTokenWorks
    Sample.signedJwt_lawful (Sample.registered_alone id) Sample.signed_isSome
  exact ⟨fun h => hmySql (h _ _ (Sample.registered_alone id)),
    fun h => hmemory (h _ _ (Sample.registered_alone id))⟩

/-- The registration in the tables. -/
theorem signed_token_never_works_mySql :
    ¬ SignedTokenWorks Sample.signedJwt (Auth.jwtSecret "test-app-key")
        (CredentialRepository.verifyNodeToken
          (after (OwnedTables Sample.drawnBcrypt id) Sample.registeredAlone))
        Sample.drawnRegistration 0
      ∧ TokenWorks Sample.signedJwt (Auth.jwtSecret "test-app-key")
        (CredentialRepository.verifyNodeToken
          (after (OwnedTables Sample.drawnBcrypt id) Sample.registeredAlone))
        Sample.drawnRegistration
      ∧ Separate Sample.signedJwt (Auth.jwtSecret "test-app-key")
        (CredentialRepository.verifyNodeToken
          (after (OwnedTables Sample.drawnBcrypt id) Sample.registeredAlone)) id
        Sample.registeredAlone :=
  signed_token_never_works (keepsCredentials_mySql Sample.drawnBcrypt_sound id)
    Sample.signedJwt_lawful (Sample.registered_alone id) (by decide) Sample.signed_isSome

end KeepsCredentials
