import IicpDirectory.Foundations.Run
import IicpDirectory.Seed.Heartbeats

/-!
# Who may register a node again

A node that registers again shows the token it was handed the last time. A
request without it is judged by what it changes: another key is refused, and
another endpoint as long as the old one answers. Strict mode refuses every
such request on a node that is secured – that has an operator or a key on
record. Outside of strict mode a request that keeps the endpoint is an
ordinary refresh, and a refresh replaces the record: its route, its operator
and its key, and the token as well.

The guard reads the row, verifies the token, dials the endpoint, and the
write comes after all of it; between any two of these other requests come
in. `live_node_kept` is what survives every interleaving. What the guard
sees of a row is not what is stored: over MySQL the key is not selected, so
that a node secured by its key alone is not protected
(`strict_refuses_iff`).

`bcrypt` is a parameter. The other checks of `register` are between the
guard and the write and only take a request away.
-/

/-- The `bcrypt` library: the hash of a text under a salt, and the test of a
text against a hash. -/
structure Bcrypt where
  hash : String → String → String
  verify : String → String → Bool

/-- What the guard reads of a node. -/
structure Existing where
  endpoint : String
  transportEndpoint : Option String
  transportMetadata : Option Json
  publicKey : Option Json
  operatorPubkey : Option String

/-- **What a repository holds of a node**: its route, what secures it, and what
tells the token that authenticates it. -/
structure Held where
  endpoint : String
  transportEndpoint : Option String
  transportMetadata : Option Json
  cxPublicKey : Option Json
  operatorPubkey : Option String
  credential : Option String

/-- An operator or a key is on record. -/
def Held.secured (h : Held) : Bool := h.operatorPubkey.isSome || h.cxPublicKey.isSome

@[inherit_doc Held.secured]
def Existing.secured (e : Existing) : Bool := e.operatorPubkey.isSome || e.publicKey.isSome

/-- **The operations of a repository on the owner of a node**: `held` is what
it has on record. -/
class OwnedRepository (σ : Type) where
  get : σ → String → Option Existing
  verifyNodeToken : σ → String → String → Bool
  /-- Persist a registration; the salt is drawn for its token. -/
  register : σ → PendingRegistration → String → σ
  held : σ → String → Option Held

/-! ## The two repositories -/

/-- A row of `nodes`: the columns that say who owns it. -/
structure OwnerRow where
  id : String
  transportEndpoint : Option String
  transportMetadata : Option Json
  cxPublicKey : Option Json
  operatorPubkey : Option String
  nodeTokenHash : String

/-- **The tables**, with the columns that say who owns a node. -/
structure OwnedTables (B : Bcrypt) (fold : String → String) where
  repo : MySqlRepo fold
  owners : Table (fun r : OwnerRow => fold r.id)

namespace OwnedTables

variable {B : Bcrypt} {fold : String → String}

/-- The tables as the schema creates them. -/
def empty (B : Bcrypt) (fold : String → String) : OwnedTables B fold := ⟨.empty fold, .empty _⟩

/-- `MySqlRepo::get`: the column of the key is not selected, nor is the one of
the transport metadata. -/
def get (t : OwnedTables B fold) (nodeId : String) : Option Existing :=
  (t.repo.find nodeId).bind (fun row => (t.owners.find (fold nodeId)).map (fun owner =>
    { endpoint := row.endpoint
      transportEndpoint := owner.transportEndpoint
      transportMetadata := none
      publicKey := none
      operatorPubkey := owner.operatorPubkey }))

/-- `MySqlRepo::verify_node_token`. -/
def verifyNodeToken (t : OwnedTables B fold) (nodeId token : String) : Bool :=
  (t.owners.find (fold nodeId)).any (fun owner => B.verify token owner.nodeTokenHash)

/-- The owner a registration inserts. -/
def newOwner (p : PendingRegistration) (hash : String) : OwnerRow where
  id := p.nodeId
  transportEndpoint := none
  transportMetadata := none
  cxPublicKey := p.request.cxPublicKey
  operatorPubkey := p.operatorPubkey
  nodeTokenHash := hash

/-- What a registration writes over an owner: the two columns of the transport
are not among it. -/
def mergeOwner (p : PendingRegistration) (hash : String) (old : OwnerRow) : OwnerRow :=
  { old with
    cxPublicKey := p.request.cxPublicKey
    operatorPubkey := p.operatorPubkey
    nodeTokenHash := hash }

/-- `registration_store::persist`. -/
def register (t : OwnedTables B fold) (p : PendingRegistration) (salt : String) :
    OwnedTables B fold where
  repo := t.repo.registered p
  owners := t.owners.upsert (newOwner p (B.hash p.nodeToken salt))
    (mergeOwner p (B.hash p.nodeToken salt)) (fun _ => rfl)

/-- What the two rows of a node hold. -/
def held (t : OwnedTables B fold) (nodeId : String) : Option Held :=
  (t.repo.find nodeId).bind (fun row => (t.owners.find (fold nodeId)).map (fun owner =>
    { endpoint := row.endpoint
      transportEndpoint := owner.transportEndpoint
      transportMetadata := owner.transportMetadata
      cxPublicKey := owner.cxPublicKey
      operatorPubkey := owner.operatorPubkey
      credential := some owner.nodeTokenHash }))

instance (B : Bcrypt) (fold : String → String) : OwnedRepository (OwnedTables B fold) where
  get := get
  verifyNodeToken := verifyNodeToken
  register := register
  held := held

end OwnedTables

/-- **The nodes in memory**, and whether tokens are verified. -/
structure TokenMemory where
  repo : InMemoryRepo
  verifyTokens : Bool

namespace TokenMemory

/-- `InMemoryRepo::new_with_token_verification`, without a node. -/
def verifying : TokenMemory := ⟨.empty, true⟩

/-- `InMemoryRepo::verify_node_token`: every token authenticates a record that
has none. -/
def verifyNodeToken (m : TokenMemory) (nodeId token : String) : Bool :=
  !m.verifyTokens || (m.repo.find nodeId).any (fun r => r.nodeToken.all (fun t => t == token))

instance : OwnedRepository TokenMemory where
  get m nodeId := (m.repo.find nodeId).map (fun r =>
    { endpoint := r.node.endpoint
      transportEndpoint := r.node.transportEndpoint
      transportMetadata := r.node.transportMetadata
      publicKey := r.node.publicKey
      operatorPubkey := r.node.operatorPubkey })
  verifyNodeToken := verifyNodeToken
  register m p _ := { m with repo := m.repo.register p.record }
  held m nodeId := (m.repo.find nodeId).map (fun r =>
    { endpoint := r.node.endpoint
      transportEndpoint := r.node.transportEndpoint
      transportMetadata := r.node.transportMetadata
      cxPublicKey := r.node.publicKey
      operatorPubkey := r.node.operatorPubkey
      credential := r.nodeToken })

end TokenMemory

/-! ## The guard -/

namespace Ownership

/-- Why a registration is forbidden. -/
structure Rejection where
  error : String
  message : String
  deriving DecidableEq

/-- `relay_endpoint`. -/
def relayEndpoint (metadata : Option Json) : Option String :=
  metadata.bind (fun v => (v.get "relay_endpoint").bind Json.asStr)

/-- `endpoint_change_allowed`. -/
def endpointChangeAllowed (endpointChanged hasToken oldAlive : Bool) : Bool :=
  !endpointChanged || hasToken || !oldAlive

/-- `routing_change_allowed`. -/
def routingChangeAllowed (strict secured endpointChanged transportEndpointChanged
    relayEndpointChanged hasToken oldEndpointAlive : Bool) : Bool :=
  if hasToken then true
  else if strict && secured then false
  else if !(endpointChanged || transportEndpointChanged || relayEndpointChanged) then true
  else endpointChangeAllowed endpointChanged hasToken oldEndpointAlive

/-- The key is another than the one that was read. -/
def cxChanged (existing : Existing) (request : RegisterRequest) : Bool :=
  request.cxPublicKey.any (fun key =>
    !key.isNull && !existing.publicKey.any (fun old => old == key))

/-- Another key needs the token. -/
def keyRejection (existing : Existing) (request : RegisterRequest) (hasOwnership : Bool) :
    Option Rejection :=
  if cxChanged existing request && !hasOwnership then
    some ⟨"IICP-E049", "cx_public_key update requires a valid current_node_token"⟩
  else none

/-- The endpoint is dialled only where its answer decides. -/
def dials (strict : Bool) (existing : Existing) (request : RegisterRequest)
    (hasOwnership : Bool) : Bool :=
  existing.endpoint != request.endpoint && !hasOwnership && !(strict && existing.secured)

/-- What is left of the route needs the token, or a dead endpoint. -/
def routeRejection (strict : Bool) (existing : Existing) (request : RegisterRequest)
    (hasOwnership answers : Bool) : Option Rejection :=
  if routingChangeAllowed strict existing.secured (existing.endpoint != request.endpoint)
      (existing.transportEndpoint != request.transportEndpoint)
      (relayEndpoint existing.transportMetadata != relayEndpoint request.transportMetadata)
      hasOwnership (dials strict existing request hasOwnership && answers) then none
  else some ⟨"IICP-E050",
    if strict && existing.secured then
      "secured-node re-registration requires a valid current_node_token"
    else "endpoint change requires the current node_token (the existing endpoint is still "
      ++ "reachable); re-register with current_node_token to prove ownership"⟩

/-- **`registration_ownership_rejection`**, of what was read, whether the token
was verified and whether the old endpoint answers. -/
def ownershipRejection (strict : Bool) (existing : Option Existing) (request : RegisterRequest)
    (hasOwnership answers : Bool) : Option Rejection :=
  existing.bind (fun e => (keyRejection e request hasOwnership).or
    (routeRejection strict e request hasOwnership answers))

/-- Without the token strict mode refuses whatever is seen as secured. -/
theorem routeRejection_of_secured {existing : Existing} (h : existing.secured = true)
    (request : RegisterRequest) (answers : Bool) :
    (routeRejection true existing request false answers).isSome = true := by
  unfold routeRejection routingChangeAllowed
  rw [h]
  rfl

/-- **What passes without the token**, as long as the old endpoint answers: in
strict mode it is not seen as secured, and the endpoint is kept. -/
theorem of_routeRejection_none {strict : Bool} {existing : Existing} {request : RegisterRequest}
    (h : routeRejection strict existing request false true = none) :
    (strict && existing.secured) = false ∧ request.endpoint = existing.endpoint := by
  unfold routeRejection routingChangeAllowed endpointChangeAllowed dials at h
  cases hsecured : strict && existing.secured with
  | true => simp [hsecured] at h
  | false =>
    refine ⟨rfl, ?_⟩
    by_contra hother
    have hchanged : (existing.endpoint != request.endpoint) = true :=
      bne_iff_ne.mpr fun he => hother he.symm
    simp [hsecured, hchanged] at h

/-- A request that keeps the endpoint and gives no key is a refresh, unless
strict mode sees the node as secured. -/
theorem ownershipRejection_refresh {strict : Bool} {existing : Existing}
    (hsecured : (strict && existing.secured) = false) {request : RegisterRequest}
    (hendpoint : request.endpoint = existing.endpoint) (hkey : request.cxPublicKey = none)
    (answers : Bool) :
    ownershipRejection strict (some existing) request false answers = none := by
  have hsame : keyRejection existing request false = none := by
    unfold keyRejection cxChanged
    rw [hkey]
    rfl
  have hroute : routeRejection strict existing request false answers = none := by
    unfold routeRejection routingChangeAllowed endpointChangeAllowed
    rw [hsecured, hendpoint, bne_self_eq_false]
    simp
  show (keyRejection existing request false).or (routeRejection strict existing request false answers)
    = none
  rw [hsame, hroute]
  rfl

/-! ## Keys -/

/-- There is no key. -/
def Gone (key : Option Json) : Prop := ∀ v ∈ key, v.isNull = true

/-- **No other key**: none any more, the same one, or one that is equal to it
as a value. -/
def SameKey (old new : Option Json) : Prop :=
  Gone new ∨ new = old ∨ ∃ k k', old = some k ∧ new = some k' ∧ Json.beq k k' = true

theorem isNull_of_beq {v w : Json} (hv : v.isNull = true) (h : Json.beq v w = true) :
    w.isNull = true := by
  cases v with
  | null =>
    cases w with
    | null => rfl
    | _ => exact absurd h Bool.false_ne_true
  | _ => exact absurd hv Bool.false_ne_true

/-- What passes without the token gives no other key. -/
theorem sameKey_of_keyRejection_none {old : Option Json} {existing : Existing}
    {request : RegisterRequest} (hold : SameKey old existing.publicKey)
    (h : keyRejection existing request false = none) : SameKey old request.cxPublicKey := by
  have hkept : cxChanged existing request = false := by
    unfold keyRejection at h
    cases hchanged : cxChanged existing request with
    | false => rfl
    | true =>
      rw [hchanged] at h
      exact absurd h (by simp)
  unfold cxChanged at hkept
  cases hkey : request.cxPublicKey with
  | none => exact Or.inl fun v hv => absurd hv (by simp)
  | some key =>
    rw [hkey, Option.any_some, Bool.and_eq_false_iff, Bool.not_eq_false', Bool.not_eq_false'] at hkept
    rcases hkept with hnull | hequal
    · refine Or.inl fun v hv => ?_
      rwa [← Option.some.inj hv]
    · obtain ⟨c, hc, hckey⟩ := (Option.any_eq_true _ _).mp hequal
      rcases hold with hgone | hsame | ⟨k, k', hk, hk', hkk⟩
      · exact Or.inl fun v hv => by
          obtain rfl := Option.some.inj hv
          exact isNull_of_beq (hgone c hc) hckey
      · exact Or.inr (Or.inr ⟨c, key, hsame.symm.trans hc, rfl, hckey⟩)
      · obtain rfl := Option.some.inj (hk'.symm.trans hc)
        exact Or.inr (Or.inr ⟨k, key, hk, rfl, Json.beq_trans hkk hckey⟩)

/-! ## Requests in flight -/

/-- Where a request stands: what was read of the node, and with it whether the
token was verified; or it has passed the guard. -/
inductive Stage
  | read (existing : Existing)
  | verified (existing : Existing) (hasOwnership : Bool)
  | admitted

/-- A request in flight. -/
structure Attempt where
  pending : PendingRegistration
  currentNodeToken : Option String
  stage : Stage

/-- **A directory that takes registrations**: its repository, the requests in
flight, and the tokens it has handed out. -/
structure State (σ : Type) where
  repo : σ
  attempts : List Attempt
  handed : List (String × String)

/-- What happens to the requests: one comes in and reads its node, one has its
token verified or its endpoint dialled, one is committed, and one ends. -/
inductive Action
  | read (p : PendingRegistration) (currentNodeToken : Option String) (answered : Bool)
  | verify (i : ℕ) (answered : Bool)
  | probe (i : ℕ) (answers : Bool)
  | commit (i : ℕ) (salt : String) (executed : Bool)
  | drop (i : ℕ)

variable {σ : Type} [OwnedRepository σ]

/-- Whether a request shows the token of its node. -/
def hasOwnership (s : σ) (nodeId : String) (currentNodeToken : Option String) : Bool :=
  currentNodeToken.any (fun token =>
    !token.isEmpty && OwnedRepository.verifyNodeToken s nodeId token)

/-- What a request reads of its node; an error counts as no node. -/
def readNode (s : σ) (nodeId : String) (answered : Bool) : Option Existing :=
  if answered then OwnedRepository.get s nodeId else none

/-- **One step.** -/
def step (strict : Bool) (s : State σ) : Action → State σ
  | .read p token answered =>
    { s with attempts := s.attempts
        ++ [⟨p, token, (readNode s.repo p.nodeId answered).elim .admitted .read⟩] }
  | .verify i answered =>
    match s.attempts[i]? with
    | some ⟨p, token, .read existing⟩ =>
      let owns := answered && hasOwnership s.repo p.nodeId token
      { s with attempts :=
          if (keyRejection existing p.request owns).isSome then s.attempts.eraseIdx i
          else s.attempts.set i ⟨p, token, .verified existing owns⟩ }
    | _ => s
  | .probe i answers =>
    match s.attempts[i]? with
    | some ⟨p, token, .verified existing owns⟩ =>
      { s with attempts :=
          if (routeRejection strict existing p.request owns answers).isSome then
            s.attempts.eraseIdx i
          else s.attempts.set i ⟨p, token, .admitted⟩ }
    | _ => s
  | .commit i salt executed =>
    match s.attempts[i]? with
    | some ⟨p, _, .admitted⟩ =>
      if executed then
        { repo := OwnedRepository.register s.repo p salt
          attempts := s.attempts.eraseIdx i
          handed := s.handed ++ [(p.nodeId, p.nodeToken)] }
      else { s with attempts := s.attempts.eraseIdx i }
    | _ => s
  | .drop i => { s with attempts := s.attempts.eraseIdx i }

/-! ## Live nodes -/

/-- **How a repository holds its nodes**: which names are a node's, and whether
the guard sees what is held as secured. -/
structure OwnedBy (σ : Type) [OwnedRepository σ] (same : String → String → Bool)
    (seen : Held → Bool) : Prop where
  held_congr : ∀ (s : σ) a b, same a b = true →
    OwnedRepository.held s a = OwnedRepository.held s b
  held_register : ∀ (s : σ) p salt nodeId, same nodeId p.nodeId = true →
    ∃ h, OwnedRepository.held (OwnedRepository.register s p salt) nodeId = some h
      ∧ h.endpoint = p.request.endpoint ∧ h.cxPublicKey = p.request.cxPublicKey
  held_register_of_not : ∀ (s : σ) p salt nodeId, same nodeId p.nodeId = false →
    OwnedRepository.held (OwnedRepository.register s p salt) nodeId = OwnedRepository.held s nodeId
  get_of_held : ∀ (s : σ) nodeId h, OwnedRepository.held s nodeId = some h →
    ∃ existing, OwnedRepository.get s nodeId = some existing
      ∧ existing.endpoint = h.endpoint ∧ existing.secured = seen h
      ∧ (existing.publicKey = none ∨ existing.publicKey = h.cxPublicKey)

/-- **The condition on a step**: the read of the node is answered, the token
that is shown does not authenticate it, and its endpoint answers. -/
def Tokenless (same : String → String → Bool) (nodeId : String) (s : State σ) : Action → Prop
  | .read p _ answered => same nodeId p.nodeId = true → answered = true
  | .verify i _ => ∀ a, s.attempts[i]? = some a → same nodeId a.pending.nodeId = true →
      hasOwnership s.repo a.pending.nodeId a.currentNodeToken = false
  | .probe i answers => ∀ a, s.attempts[i]? = some a → same nodeId a.pending.nodeId = true →
      answers = true
  | _ => True

/-- The tokens that were handed out for a node. -/
def handedFor (same : String → String → Bool) (nodeId : String) (s : State σ) :
    List (String × String) :=
  s.handed.filter (fun e => same nodeId e.1)

/-- **What requests without the token leave of a live node**: its endpoint, and
no other key; and all of it, with no token handed out, where strict mode
sees it as secured. -/
def Kept (same : String → String → Bool) (seen : Held → Bool) (strict : Bool) (nodeId : String)
    (h : Held) (before after : State σ) : Prop :=
  ∃ h', OwnedRepository.held after.repo nodeId = some h'
    ∧ h'.endpoint = h.endpoint ∧ SameKey h.cxPublicKey h'.cxPublicKey
    ∧ (strict = true → seen h = true →
        h' = h ∧ handedFor same nodeId after = handedFor same nodeId before)

/-- A request in flight does no harm. -/
def Harmless (guarded : Prop) (h : Held) (a : Attempt) : Prop :=
  match a.stage with
  | .read existing => existing.endpoint = h.endpoint ∧ SameKey h.cxPublicKey existing.publicKey
      ∧ (guarded → existing.secured = true)
  | .verified existing owns => owns = false ∧ existing.endpoint = h.endpoint
      ∧ SameKey h.cxPublicKey a.pending.request.cxPublicKey
      ∧ (guarded → existing.secured = true)
  | .admitted => a.pending.request.endpoint = h.endpoint
      ∧ SameKey h.cxPublicKey a.pending.request.cxPublicKey ∧ ¬ guarded

/-- **The invariant**: the node is kept, and no request in flight on it does any
harm. -/
structure Inv (same : String → String → Bool) (seen : Held → Bool) (strict : Bool)
    (nodeId : String) (h : Held) (before s : State σ) : Prop where
  kept : Kept same seen strict nodeId h before s
  harmless : ∀ a ∈ s.attempts, same nodeId a.pending.nodeId = true →
    Harmless (strict = true ∧ seen h = true) h a

variable {same : String → String → Bool} {seen : Held → Bool} {strict : Bool} {nodeId : String}
  {h : Held} {before s : State σ}

/-- A step that only moves requests on. -/
theorem inv_of_attempts (hinv : Inv same seen strict nodeId h before s) {attempts : List Attempt}
    (hmoved : ∀ a ∈ attempts, a ∈ s.attempts ∨ (same nodeId a.pending.nodeId = true →
      Harmless (strict = true ∧ seen h = true) h a)) :
    Inv same seen strict nodeId h before { s with attempts := attempts } := by
  refine ⟨hinv.kept, fun a ha hsame => ?_⟩
  rcases hmoved a ha with hold | hharmless
  · exact hinv.harmless a hold hsame
  · exact hharmless hsame

/-- A request that ends. -/
theorem inv_erase (hinv : Inv same seen strict nodeId h before s) (i : ℕ) :
    Inv same seen strict nodeId h before { s with attempts := s.attempts.eraseIdx i } :=
  inv_of_attempts hinv fun _ ha => Or.inl (List.mem_of_mem_eraseIdx ha)

/-- A request that moves on. -/
theorem inv_set (hinv : Inv same seen strict nodeId h before s) (i : ℕ) {a : Attempt}
    (ha : same nodeId a.pending.nodeId = true →
      Harmless (strict = true ∧ seen h = true) h a) :
    Inv same seen strict nodeId h before { s with attempts := s.attempts.set i a } := by
  refine inv_of_attempts hinv fun b hb => ?_
  rcases List.mem_or_eq_of_mem_set hb with hold | rfl
  · exact Or.inl hold
  · exact Or.inr ha

theorem inv_read (ho : OwnedBy σ same seen) (hinv : Inv same seen strict nodeId h before s)
    (p : PendingRegistration) (token : Option String) (answered : Bool)
    (ha : Tokenless same nodeId s (.read p token answered)) :
    Inv same seen strict nodeId h before (step strict s (.read p token answered)) := by
  refine inv_of_attempts hinv fun a hmem => ?_
  rcases List.mem_append.mp hmem with hold | hnew
  · exact Or.inl hold
  · obtain rfl := List.mem_singleton.mp hnew
    refine Or.inr fun hsame => ?_
    obtain ⟨h', hheld, hendpoint, hkey, hguarded⟩ := hinv.kept
    rw [ho.held_congr s.repo nodeId p.nodeId hsame] at hheld
    obtain ⟨existing, hget, hroute, hsecured, hpublic⟩ := ho.get_of_held s.repo p.nodeId h' hheld
    have hread : readNode s.repo p.nodeId answered = some existing := by
      unfold readNode
      rw [ha hsame, if_pos rfl, hget]
    show Harmless _ h ⟨p, token, (readNode s.repo p.nodeId answered).elim .admitted .read⟩
    rw [hread]
    refine ⟨hroute.trans hendpoint, ?_, fun hboth => ?_⟩
    · rcases hpublic with hnone | hpublic
      · exact Or.inl fun v hv => absurd (hnone.symm.trans hv) (by simp)
      · rwa [hpublic]
    · rw [hsecured, (hguarded hboth.1 hboth.2).1, hboth.2]

theorem inv_verify (hinv : Inv same seen strict nodeId h before s) (i : ℕ) (answered : Bool)
    (ha : Tokenless same nodeId s (.verify i answered)) :
    Inv same seen strict nodeId h before (step strict s (.verify i answered)) := by
  unfold step
  dsimp only
  split
  · rename_i p token existing hi
    split
    · exact inv_erase hinv i
    · rename_i hpassed
      refine inv_set hinv i fun hsame => ?_
      have howns : (answered && hasOwnership s.repo p.nodeId token) = false := by
        rw [ha _ hi hsame, Bool.and_false]
      obtain ⟨hendpoint, hkey, hsecured⟩ := hinv.harmless _ (List.mem_of_getElem? hi) hsame
      rw [howns] at hpassed ⊢
      exact ⟨rfl, hendpoint,
        sameKey_of_keyRejection_none hkey (Option.not_isSome_iff_eq_none.mp hpassed), hsecured⟩
  · exact hinv

theorem inv_probe (hinv : Inv same seen strict nodeId h before s) (i : ℕ) (answers : Bool)
    (ha : Tokenless same nodeId s (.probe i answers)) :
    Inv same seen strict nodeId h before (step strict s (.probe i answers)) := by
  unfold step
  dsimp only
  split
  · rename_i p token existing owns hi
    split
    · exact inv_erase hinv i
    · rename_i hpassed
      refine inv_set hinv i fun hsame => ?_
      obtain ⟨rfl, hendpoint, hkey, hsecured⟩ := hinv.harmless _ (List.mem_of_getElem? hi) hsame
      rw [ha _ hi hsame] at hpassed
      obtain ⟨hunseen, hkept⟩ :=
        of_routeRejection_none (Option.not_isSome_iff_eq_none.mp hpassed)
      refine ⟨hkept.trans hendpoint, hkey, fun hguarded => ?_⟩
      rw [hguarded.1, hsecured hguarded] at hunseen
      exact absurd hunseen (by decide)
  · exact hinv

theorem inv_commit (ho : OwnedBy σ same seen) (hinv : Inv same seen strict nodeId h before s)
    (i : ℕ) (salt : String) (executed : Bool) :
    Inv same seen strict nodeId h before (step strict s (.commit i salt executed)) := by
  unfold step
  dsimp only
  split
  · rename_i p token hi
    split
    · refine ⟨?_, (inv_erase hinv i).harmless⟩
      obtain ⟨h', hheld, hendpoint, hkey, hguarded⟩ := hinv.kept
      cases hsame : same nodeId p.nodeId with
      | true =>
        obtain ⟨hroute, hsamekey, hnot⟩ := hinv.harmless _ (List.mem_of_getElem? hi) hsame
        obtain ⟨h'', hheld', hendpoint', hkey'⟩ := ho.held_register s.repo p salt nodeId hsame
        refine ⟨h'', hheld', hendpoint'.trans hroute, ?_, fun hstrict hseen => ?_⟩
        · rwa [hkey']
        · exact absurd ⟨hstrict, hseen⟩ hnot
      | false =>
        refine ⟨h', (ho.held_register_of_not s.repo p salt nodeId hsame).trans hheld, hendpoint,
          hkey, fun hstrict hseen => ⟨(hguarded hstrict hseen).1, ?_⟩⟩
        unfold handedFor
        rw [List.filter_append, List.filter_cons_of_neg (by simp [hsame]), List.filter_nil,
          List.append_nil]
        exact (hguarded hstrict hseen).2
    · exact inv_erase hinv i
  · exact hinv

/-- **Every step without the token keeps the invariant.** -/
theorem inv_step (ho : OwnedBy σ same seen) (s : State σ) (a : Action)
    (hinv : Inv same seen strict nodeId h before s) (ha : Tokenless same nodeId s a) :
    Inv same seen strict nodeId h before (step strict s a) := by
  cases a with
  | read p token answered => exact inv_read ho hinv p token answered ha
  | verify i answered => exact inv_verify hinv i answered ha
  | probe i answers => exact inv_probe hinv i answers ha
  | commit i salt executed => exact inv_commit ho hinv i salt executed
  | drop i => exact inv_erase hinv i

/-- **Live nodes are kept** by the requests that come in from now on without
the token. -/
def KeepsLiveNodes (σ : Type) [OwnedRepository σ] (same : String → String → Bool)
    (seen : Held → Bool) (strict : Bool) : Prop :=
  ∀ (before : State σ) (nodeId : String) (h : Held) (actions : List Action),
    OwnedRepository.held before.repo nodeId = some h →
    (∀ a ∈ before.attempts, same nodeId a.pending.nodeId = false) →
    Run.Along (step strict) (Tokenless same nodeId) before actions →
    Kept same seen strict nodeId h before (Run.after (step strict) before actions)

theorem keepsLiveNodes (ho : OwnedBy σ same seen) (strict : Bool) :
    KeepsLiveNodes σ same seen strict := by
  intro before nodeId h actions hheld hnone hrun
  have hstart : Inv same seen strict nodeId h before before :=
    ⟨⟨h, hheld, rfl, Or.inr (Or.inl rfl), fun _ _ => ⟨rfl, rfl⟩⟩,
      fun a ha hsame => absurd (hsame.symm.trans (hnone a ha)) (by decide)⟩
  exact (Run.invariant_along (inv_step ho) hstart hrun).kept

/-! ## In the tables and in memory -/

/-- Over the tables the guard sees a node as secured that has an operator. -/
theorem ownedBy_tables (B : Bcrypt) (fold : String → String) :
    OwnedBy (OwnedTables B fold) (Heartbeats.named fold) (fun h => h.operatorPubkey.isSome) where
  held_congr := by
    intro t a b hsame
    have hfold : fold a = fold b := of_decide_eq_true hsame
    show t.held a = t.held b
    unfold OwnedTables.held
    rw [t.repo.find_congr hfold, hfold]
  held_register := by
    intro t p salt nodeId hsame
    have hfold : fold nodeId = fold p.nodeId := of_decide_eq_true hsame
    have howner : (t.register p salt).owners.find (fold nodeId)
        = some (((t.owners.find (fold p.nodeId)).map
            (OwnedTables.mergeOwner p (B.hash p.nodeToken salt))).getD
              (OwnedTables.newOwner p (B.hash p.nodeToken salt))) :=
      (Table.find_upsert _ _ _ _).trans (if_pos hfold)
    have hrow := (t.repo.find_registered p nodeId).trans (if_pos hfold)
    show ∃ h, (t.register p salt).held nodeId = some h ∧ _
    unfold OwnedTables.held
    rw [howner]
    show ∃ h, ((t.repo.registered p).find nodeId).bind _ = some h ∧ _
    rw [hrow]
    refine ⟨_, rfl, ?_, ?_⟩
    · cases t.repo.find p.nodeId <;> rfl
    · cases t.owners.find (fold p.nodeId) <;> rfl
  held_register_of_not := by
    intro t p salt nodeId hsame
    have hfold : fold nodeId ≠ fold p.nodeId := of_decide_eq_false hsame
    have howner : (t.register p salt).owners.find (fold nodeId) = t.owners.find (fold nodeId) :=
      (Table.find_upsert _ _ _ _).trans (if_neg hfold)
    have hrow := (t.repo.find_registered p nodeId).trans (if_neg hfold)
    show (t.register p salt).held nodeId = t.held nodeId
    unfold OwnedTables.held
    rw [howner]
    show ((t.repo.registered p).find nodeId).bind _ = _
    rw [hrow]
  get_of_held := by
    intro t nodeId h hheld
    obtain ⟨row, hrow, hheld⟩ := Option.bind_eq_some_iff.mp
      (show (t.repo.find nodeId).bind _ = some h from hheld)
    obtain ⟨owner, howner, rfl⟩ := Option.map_eq_some_iff.mp hheld
    refine ⟨⟨row.endpoint, owner.transportEndpoint, none, none, owner.operatorPubkey⟩, ?_, rfl,
      Bool.or_false _, Or.inl rfl⟩
    show t.get nodeId = _
    unfold OwnedTables.get
    rw [hrow, Option.bind_some, howner, Option.map_some]

/-- In memory it sees what is held. -/
theorem ownedBy_memory : OwnedBy TokenMemory (Heartbeats.named id) Held.secured where
  held_congr := by
    intro m a b hsame
    rw [show a = b from of_decide_eq_true hsame]
  held_register := by
    intro m p salt nodeId hsame
    have hid : nodeId = p.record.id := of_decide_eq_true hsame
    have hrecord := (m.repo.find_register p.record nodeId).trans (if_pos hid)
    show ∃ h, ((m.repo.register p.record).find nodeId).map _ = some h ∧ _
    rw [hrecord]
    refine ⟨_, rfl, ?_, ?_⟩
    · cases m.repo.find p.record.id <;> rfl
    · cases m.repo.find p.record.id <;> rfl
  held_register_of_not := by
    intro m p salt nodeId hsame
    have hid : nodeId ≠ p.record.id := of_decide_eq_false hsame
    have hrecord := (m.repo.find_register p.record nodeId).trans (if_neg hid)
    show ((m.repo.register p.record).find nodeId).map _ = (m.repo.find nodeId).map _
    rw [hrecord]
  get_of_held := by
    intro m nodeId h hheld
    obtain ⟨r, hr, rfl⟩ := Option.map_eq_some_iff.mp
      (show (m.repo.find nodeId).map _ = some h from hheld)
    refine ⟨⟨r.node.endpoint, r.node.transportEndpoint, r.node.transportMetadata,
      r.node.publicKey, r.node.operatorPubkey⟩, ?_, rfl, rfl, Or.inr rfl⟩
    show (m.repo.find nodeId).map _ = _
    rw [hr, Option.map_some]

end Ownership

namespace Sample

open Ownership

/-- The hashes of the tokens of the sample under one salt. -/
def bcryptHashes : List (String × String) :=
  [("node-token", "$2b$12$abcdefghijklmnopqrstuur5sSUnsB4uCguBXCCSmGhnkdlFwGgY6"),
   ("other-token", "$2b$12$abcdefghijklmnopqrstuu/mkUulMk1hIj1PStX/MaVtlwYV0NBaC")]

/-- `bcrypt`, on these. -/
def bcrypt : Bcrypt where
  hash text _ := (bcryptHashes.lookup text).getD ""
  verify text hash := bcryptHashes.lookup text == some hash

/-- The node has a key, an operator and a native endpoint. -/
def owned : PendingRegistration :=
  { registration "n1" "https://n1.test" with
    request :=
      { endpoint := "https://n1.test"
        capabilities := [chat]
        transportEndpoint := some "iicpsec://n1.test"
        cxPublicKey := some (.object [("algorithm", .string "X25519"), ("key", .string "k1")]) }
    operatorPubkey := some "op1"
    operatorVerified := true }

/-- A request for it that keeps the endpoint, and nothing else. -/
def refresh : PendingRegistration :=
  { registration "n1" "https://n1.test" with
    request :=
      { endpoint := "https://n1.test"
        capabilities := [chat]
        transportEndpoint := some "iicpsec://elsewhere.test" }
    nodeToken := "other-token" }

/-- A request that names another endpoint. -/
def elsewhere : PendingRegistration :=
  { registration "n1" "https://elsewhere.test" with nodeToken := "third-token" }

/-- A directory with the node in memory. -/
def ownedInMemory : State TokenMemory :=
  ⟨OwnedRepository.register TokenMemory.verifying owned "", [], []⟩

/-- The request comes in without a token, and is committed. -/
def refreshed : List Action :=
  [.read refresh none true, .verify 0 true, .probe 0 true, .commit 0 "" true]

/-- It comes in with the one that names another endpoint. -/
def movedElsewhere : List Action :=
  [.read elsewhere none true, .read refresh none true, .verify 0 true, .verify 1 true,
   .probe 0 true, .probe 0 true, .commit 0 "" true]

end Sample

namespace Ownership

/-- A request to register, from the read to the write, and no other in
between. -/
def handle {σ : Type} [OwnedRepository σ] (strict : Bool) (s : σ) (p : PendingRegistration)
    (currentNodeToken : Option String) (answered answers : Bool) (salt : String) :
    Option Rejection × σ :=
  match ownershipRejection strict (readNode s p.nodeId answered) p.request
      (hasOwnership s p.nodeId currentNodeToken) answers with
  | some rejection => (some rejection, s)
  | none => (none, OwnedRepository.register s p salt)

/-- **The guard sees a node as it is stored**: secured or not. -/
def SeenAsStored {σ : Type} [OwnedRepository σ] (s : σ) (nodeId : String) (h : Held)
    (answered : Bool) : Prop :=
  (readNode s nodeId answered).any Existing.secured = h.secured

/-- **Strict mode protects a node**: every request on it without its token is
refused, and changes nothing. -/
def RefusesTokenless {σ : Type} [OwnedRepository σ] (same : String → String → Bool) (s : σ)
    (nodeId : String) (answered : Bool) : Prop :=
  ∀ p currentNodeToken answers salt, same nodeId p.nodeId = true →
    hasOwnership s p.nodeId currentNodeToken = false →
      (handle true s p currentNodeToken answered answers salt).1.isSome = true
        ∧ (handle true s p currentNodeToken answered answers salt).2 = s

/-- What the guard sees of a node it reads. -/
theorem readNode_of_held {σ : Type} [OwnedRepository σ] {same : String → String → Bool}
    {seen : Held → Bool} (ho : OwnedBy σ same seen) {s : σ} {nodeId : String} {h : Held}
    (hheld : OwnedRepository.held s nodeId = some h) :
    ∃ existing, readNode s nodeId true = some existing ∧ existing.endpoint = h.endpoint
      ∧ existing.secured = seen h := by
  obtain ⟨existing, hget, hendpoint, hexisting, _⟩ := ho.get_of_held s nodeId h hheld
  refine ⟨existing, ?_, hendpoint, hexisting⟩
  unfold readNode
  rw [if_pos rfl, hget]

/-- What is seen as secured is protected. -/
theorem refusesTokenless_of_seen {σ : Type} [OwnedRepository σ] {same : String → String → Bool}
    {seen : Held → Bool} (ho : OwnedBy σ same seen) {s : σ} {nodeId : String} {h : Held}
    (hheld : OwnedRepository.held s nodeId = some h) (hseen : seen h = true) :
    RefusesTokenless same s nodeId true := by
  intro p token answers salt hsame howns
  rw [ho.held_congr s nodeId p.nodeId hsame] at hheld
  obtain ⟨existing, hread, _, hexisting⟩ := readNode_of_held ho hheld
  have hrefused : (ownershipRejection true (some existing) p.request false answers).isSome
      = true := by
    unfold ownershipRejection
    rw [Option.bind_some, Option.isSome_or,
      routeRejection_of_secured (hexisting.trans hseen) p.request answers, Bool.or_true]
  obtain ⟨refusal, hrefusal⟩ := Option.isSome_iff_exists.mp hrefused
  unfold handle
  rw [howns, hread, hrefusal]
  exact ⟨rfl, rfl⟩

/-- What is not seen as secured is not: a refresh passes. -/
theorem not_refusesTokenless {σ : Type} [OwnedRepository σ] {same : String → String → Bool}
    {s : σ} {nodeId : String} {answered : Bool} (hsame : same nodeId nodeId = true)
    (hread : ∀ existing, readNode s nodeId answered = some existing → existing.secured = false) :
    ¬ RefusesTokenless same s nodeId answered := by
  intro hrefuses
  obtain ⟨endpoint, hpassed⟩ : ∃ endpoint, ownershipRejection true (readNode s nodeId answered)
      (Sample.registration nodeId endpoint).request false true = none := by
    cases hnode : readNode s nodeId answered with
    | none => exact ⟨"", rfl⟩
    | some existing =>
      exact ⟨existing.endpoint, ownershipRejection_refresh
        ((Bool.true_and _).trans (hread existing hnode)) rfl rfl true⟩
  have hrefused := (hrefuses (Sample.registration nodeId endpoint) none true "" hsame rfl).1
  unfold handle at hrefused
  rw [show hasOwnership s (Sample.registration nodeId endpoint).nodeId none = false from rfl,
    show (Sample.registration nodeId endpoint).nodeId = nodeId from rfl, hpassed] at hrefused
  exact absurd hrefused Bool.false_ne_true

/-- **When strict mode protects a secured node**: over the tables exactly if
the read of its row is answered and the row names an operator, and so with
what the guard sees of it; in memory always. -/
theorem strict_refuses_iff (B : Bcrypt) (fold : String → String) :
    (∀ (t : OwnedTables B fold) nodeId h answered, OwnedRepository.held t nodeId = some h →
        h.secured = true →
        (RefusesTokenless (Heartbeats.named fold) t nodeId answered
            ↔ answered = true ∧ h.operatorPubkey.isSome = true)
          ∧ (SeenAsStored t nodeId h answered
            ↔ answered = true ∧ h.operatorPubkey.isSome = true))
      ∧ ∀ (m : TokenMemory) nodeId h, OwnedRepository.held m nodeId = some h →
        h.secured = true →
        RefusesTokenless (Heartbeats.named id) m nodeId true ∧ SeenAsStored m nodeId h true := by
  refine ⟨fun t nodeId h answered hheld hsecured => ?_, fun m nodeId h hheld hsecured => ?_⟩
  · obtain ⟨existing, hread, _, hexisting⟩ := readNode_of_held (ownedBy_tables B fold) hheld
    by_cases hcondition : answered = true ∧ h.operatorPubkey.isSome = true
    · obtain ⟨rfl, hseen⟩ := hcondition
      refine ⟨iff_of_true (refusesTokenless_of_seen (ownedBy_tables B fold) hheld hseen)
        ⟨rfl, hseen⟩, iff_of_true ?_ ⟨rfl, hseen⟩⟩
      unfold SeenAsStored
      rw [hread, Option.any_some, hexisting, hseen, hsecured]
    · have hunseen : ∀ e, readNode t nodeId answered = some e → e.secured = false := by
        intro e he
        cases answered with
        | false => exact absurd he (by simp [readNode])
        | true =>
          obtain rfl := Option.some.inj (hread.symm.trans he)
          rw [hexisting]
          exact Bool.eq_false_iff.mpr fun hseen => hcondition ⟨rfl, hseen⟩
      refine ⟨iff_of_false (not_refusesTokenless (decide_eq_true rfl) hunseen) hcondition,
        iff_of_false ?_ hcondition⟩
      unfold SeenAsStored
      rw [hsecured]
      intro hseen
      obtain ⟨e, he, hes⟩ := (Option.any_eq_true _ _).mp hseen
      exact absurd ((hunseen e he).symm.trans hes) Bool.false_ne_true
  · obtain ⟨existing, hread, _, hexisting⟩ := readNode_of_held ownedBy_memory hheld
    refine ⟨refusesTokenless_of_seen ownedBy_memory hheld hsecured, ?_⟩
    unfold SeenAsStored
    rw [hread, Option.any_some, hexisting]

end Ownership

namespace Sample

open Ownership

/-- The node registers with a key and without an operator. -/
def keyed : PendingRegistration := { owned with operatorPubkey := none, operatorVerified := false }

/-- The tables with the node of an operator. -/
def ownedTables : OwnedTables bcrypt lowercase :=
  OwnedRepository.register (OwnedTables.empty bcrypt lowercase) owned "abcdefghijklmnopqrstuv"

/-- The tables with the node of a key. -/
def keyedTables : OwnedTables bcrypt lowercase :=
  OwnedRepository.register (OwnedTables.empty bcrypt lowercase) keyed "abcdefghijklmnopqrstuv"

end Sample

namespace Ownership

/-- A row with an operator is protected, and one with a key alone is not. -/
theorem strict_refuses_sample :
    RefusesTokenless (Heartbeats.named Sample.lowercase) Sample.ownedTables "n1" true
      ∧ ¬ RefusesTokenless (Heartbeats.named Sample.lowercase) Sample.keyedTables "n1" true := by
  obtain ⟨htables, _⟩ := strict_refuses_iff Sample.bcrypt Sample.lowercase
  refine ⟨(htables Sample.ownedTables "n1" _ true rfl (by decide)).1.mpr
    ⟨rfl, by decide⟩, fun hrefuses => ?_⟩
  have hcondition := (htables Sample.keyedTables "n1" _ true rfl (by decide)).1.mp hrefuses
  exact absurd hcondition.2 (by decide)

/-- **A key does not secure a row**: in strict mode the node is registered
again without its token, and its key is gone. -/
theorem keyed_row_unprotected :
    (OwnedRepository.held Sample.keyedTables "n1").map Held.secured = some true
      ∧ hasOwnership Sample.keyedTables "n1" none = false
      ∧ (handle true Sample.keyedTables Sample.refresh none true true
          "abcdefghijklmnopqrstuv").1 = none
      ∧ (OwnedRepository.held (handle true Sample.keyedTables Sample.refresh none true true
          "abcdefghijklmnopqrstuv").2 "n1").map (fun h => (h.cxPublicKey.isSome, h.secured))
        = some (false, false)
      ∧ OwnedRepository.verifyNodeToken (handle true Sample.keyedTables Sample.refresh none true
          true "abcdefghijklmnopqrstuv").2 "n1" "other-token" = true := by
  refine ⟨by decide, rfl, by decide, by decide, by decide⟩

end Ownership
