import IicpDirectory.Foundations.OneTime
import IicpDirectory.Foundations.Run
import IicpDirectory.Foundations.Table
import IicpDirectory.Foundations.Transaction
import IicpDirectory.Seed.Handlers

/-!
# Liveness challenges

A heartbeat answers the challenge the node was given with the one before it,
and is given the next. Whatever the answer is worth, the challenge is gone.

The two repositories differ in when they read the key. `MySqlRepo` reads the
challenge and the key in the transaction that writes the next challenge, with
the row locked, and its rotations are single-use in every run
(`ChallengeDb.singleUse`). `InMemoryRepo` reads the key under one lock and
swaps the challenge under another. A node that registers again in between has
a new key, and the answer is still checked under the old one. That is all
that goes wrong: a run in which no answer would be accepted under a key that
is no longer on file is single-use, and no other is
(`ChallengeMemory.singleUse_iff`).

The rotations are recorded as they happen, the latest first. In `MySqlRepo`
one whose commit is lost happens all the same, and its caller is told
nothing.
-/

open OneTime

/-- What a call of `verify_and_rotate_liveness_challenge` is given. -/
structure RotationRequest where
  nodeId : String
  response : Option String
  nextChallenge : String

/-- A rotation of the challenge of a node. -/
abbrev LivenessRotation := Rotation String String String String

/-- Each accepted response was checked under the key on file. -/
def CheckedOnFile (log : List LivenessRotation) : Prop :=
  ∀ e ∈ log, e.answer = some true → e.onFile = e.used

/-! ## What a response is worth -/

section Response

variable (hmac : String → String → Bytes)

/-- `verify_liveness_response`. The key may have any length. -/
def verifyLivenessResponse (key challenge response : String) : Bool :=
  match Hex.decode response with
  | none => false
  | some candidate => candidate == hmac key challenge

/-- A response is worth something if there are a challenge and a key to check
it with. -/
def livenessVerified (challenge hmacKey response : Option String) : Bool :=
  challenge.any fun challenge =>
    hmacKey.any fun key =>
      response.any fun candidate => verifyLivenessResponse hmac key challenge candidate

/-- The response is the code of the challenge under the key. -/
def AnswersChallenge (key challenge response : String) : Prop :=
  Hex.decode response = some (hmac key challenge)

/-- **No two codes are the same**, of the keys and challenges that occur. -/
def CollisionFree (keys challenges : Set String) : Prop :=
  ∀ key ∈ keys, ∀ key' ∈ keys, ∀ challenge ∈ challenges, ∀ challenge' ∈ challenges,
    hmac key challenge = hmac key' challenge' → key = key' ∧ challenge = challenge'

variable {hmac}

theorem verifyLivenessResponse_iff {key challenge response : String} :
    verifyLivenessResponse hmac key challenge response = true
      ↔ AnswersChallenge hmac key challenge response := by
  unfold verifyLivenessResponse AnswersChallenge
  cases Hex.decode response with
  | none => simp
  | some candidate => rw [beq_iff_eq, Option.some.injEq]

theorem livenessVerified_iff {challenge hmacKey response : Option String} :
    livenessVerified hmac challenge hmacKey response = true
      ↔ ∃ key c r, hmacKey = some key ∧ challenge = some c ∧ response = some r
        ∧ AnswersChallenge hmac key c r := by
  cases challenge <;> cases hmacKey <;> cases response <;>
    simp [livenessVerified, verifyLivenessResponse_iff]

/-- Where no two codes are the same, a response answers one challenge, under
one key. -/
theorem tied_of_collisionFree {keys challenges : Set String}
    (h : CollisionFree hmac keys challenges) :
    Tied (AnswersChallenge hmac) keys challenges :=
  fun key hkey key' hkey' c hc c' hc' _ hanswers hanswers' =>
    h key hkey key' hkey' c hc c' hc' (Option.some.inj (hanswers.symm.trans hanswers'))

end Response

/-! ## The repository in memory -/

/-- Where a call is: it has yet to read the key, it has read one, or it is
over. -/
inductive RotationPhase
  | ready
  | keyed (hmacKey : Option String)
  | ended
  deriving DecidableEq

/-- **The challenges in memory**, and any number of calls under way. -/
structure ChallengeMemory (ι : Type*) where
  repo : InMemoryRepo
  livenessChallenges : List (String × String)
  phase : ι → RotationPhase
  log : List LivenessRotation

/-- What happens: a registration, a removal, and the two critical sections of
a call. -/
inductive MemoryAction (ι : Type*)
  | register (rec : NodeRecord)
  | deregister (nodeId : String)
  | readKey (i : ι)
  | swapChallenge (i : ι)

/-- The action gives a node this key. -/
def MemoryAction.Gives {ι : Type*} (key : String) : MemoryAction ι → Prop
  | .register rec => rec.nodeHmacKey = some key
  | _ => False

namespace ChallengeMemory

variable {ι : Type*}

/-- No node, no challenge, and every call yet to come. -/
def empty : ChallengeMemory ι := ⟨.empty, [], fun _ => .ready, []⟩

/-- The key on file for a node. -/
def keyOnFile (s : ChallengeMemory ι) (nodeId : String) : Option String :=
  (s.repo.find nodeId).bind NodeRecord.nodeHmacKey

variable [DecidableEq ι] (hmac : String → String → Bytes) (requests : ι → RotationRequest)

/-- The first critical section: a call for a node there is not is over. -/
def readKey (s : ChallengeMemory ι) (i : ι) : ChallengeMemory ι :=
  { s with
    phase := Function.update s.phase i
      (match s.repo.find (requests i).nodeId with
        | some r => .keyed r.nodeHmacKey
        | none => .ended) }

/-- Whether the call accepts its response, with the key it has read. -/
def accepts (s : ChallengeMemory ι) (i : ι) (hmacKey : Option String) : Bool :=
  livenessVerified hmac (s.livenessChallenges.lookup (requests i).nodeId) hmacKey
    (requests i).response

/-- The rotation of a call that has read its key. -/
def rotation (s : ChallengeMemory ι) (i : ι) (hmacKey : Option String) : LivenessRotation where
  client := (requests i).nodeId
  used := hmacKey
  onFile := s.keyOnFile (requests i).nodeId
  response := (requests i).response
  next := (requests i).nextChallenge
  answer := some (s.accepts hmac requests i hmacKey)

/-- The second critical section. -/
def swapChallenge (s : ChallengeMemory ι) (i : ι) (hmacKey : Option String) :
    ChallengeMemory ι :=
  { s with
    livenessChallenges :=
      assocInsert (requests i).nodeId (requests i).nextChallenge s.livenessChallenges
    phase := Function.update s.phase i .ended
    log := s.rotation hmac requests i hmacKey :: s.log }

/-- One step of the repository. -/
def step (s : ChallengeMemory ι) : MemoryAction ι → ChallengeMemory ι
  | .register rec => { s with repo := s.repo.register rec }
  | .deregister nodeId => { s with repo := (s.repo.deregister nodeId).2 }
  | .readKey i =>
    match s.phase i with
    | .ready => s.readKey requests i
    | _ => s
  | .swapChallenge i =>
    match s.phase i with
    | .keyed hmacKey => s.swapChallenge hmac requests i hmacKey
    | _ => s

/-- **The key is kept**: a response is accepted only if the key it is checked
under is still on file. -/
def KeyKept (s : ChallengeMemory ι) : MemoryAction ι → Prop
  | .swapChallenge i =>
    match s.phase i with
    | .keyed hmacKey => s.accepts hmac requests i hmacKey = true →
        s.keyOnFile (requests i).nodeId = hmacKey
    | _ => True
  | _ => True

/-- What is so of every state of a run: the rotations are in order, and the
challenge in the map is the one issued last. -/
structure Orderly (keys : Set String) (s : ChallengeMemory ι) : Prop where
  recorded : Recorded (AnswersChallenge hmac) keys (fun i => (requests i).nextChallenge)
    (fun i => s.phase i = .ended) s.log
  challenges : ∀ nodeId, s.livenessChallenges.lookup nodeId = openFor s.log nodeId
  read : ∀ i key, s.phase i = .keyed (some key) → key ∈ keys
  onFile : ∀ nodeId key, s.keyOnFile nodeId = some key → key ∈ keys

variable {hmac requests} {keys : Set String} {s : ChallengeMemory ι}

omit [DecidableEq ι] in
theorem orderly_empty : Orderly hmac requests keys (.empty : ChallengeMemory ι) where
  recorded := .nil
  challenges _ := rfl
  read _ _ h := absurd h (by simp [empty])
  onFile _ _ h := absurd h (by simp [empty, keyOnFile, InMemoryRepo.find, InMemoryRepo.empty])

omit [DecidableEq ι] in
/-- A change of the records that brings no other key. -/
theorem Orderly.withRepo (h : Orderly hmac requests keys s) {repo : InMemoryRepo}
    (hkeys : ∀ nodeId r, repo.find nodeId = some r → ∀ key, r.nodeHmacKey = some key →
      key ∈ keys) : Orderly hmac requests keys { s with repo := repo } :=
  { h with
    onFile := fun nodeId key hkey => by
      obtain ⟨r, hr, hrkey⟩ := Option.bind_eq_some_iff.mp hkey
      exact hkeys nodeId r hr key hrkey }

omit [DecidableEq ι] in
theorem Orderly.key_of_find (h : Orderly hmac requests keys s) {nodeId : String} {r : NodeRecord}
    (hr : s.repo.find nodeId = some r) {key : String} (hkey : r.nodeHmacKey = some key) :
    key ∈ keys :=
  h.onFile nodeId key (by rw [keyOnFile, hr, Option.bind_some, hkey])

omit [DecidableEq ι] in
theorem orderly_register (h : Orderly hmac requests keys s) {rec : NodeRecord}
    (hrec : ∀ key, rec.nodeHmacKey = some key → key ∈ keys) :
    Orderly hmac requests keys { s with repo := s.repo.register rec } := by
  refine h.withRepo fun nodeId r hr key hkey => ?_
  rw [InMemoryRepo.find_register] at hr
  split at hr
  · obtain rfl := Option.some.inj hr
    refine hrec key ?_
    cases hold : s.repo.find rec.id with
    | none => rwa [hold] at hkey
    | some old => rwa [hold] at hkey
  · exact h.key_of_find hr hkey

omit [DecidableEq ι] in
theorem orderly_deregister (h : Orderly hmac requests keys s) (nodeId : String) :
    Orderly hmac requests keys { s with repo := (s.repo.deregister nodeId).2 } := by
  refine h.withRepo fun other r hr key hkey => ?_
  rw [InMemoryRepo.find_deregister] at hr
  split at hr
  · exact absurd hr (by simp)
  · exact h.key_of_find hr hkey

theorem orderly_readKey (h : Orderly hmac requests keys s) {i : ι} (hready : s.phase i = .ready) :
    Orderly hmac requests keys (s.readKey requests i) := by
  have hended : ∀ j, s.phase j = .ended → (s.readKey requests i).phase j = .ended := by
    intro j hj
    have hne : j ≠ i := by
      rintro rfl
      rw [hready] at hj
      cases hj
    show Function.update s.phase i _ j = .ended
    rw [Function.update_of_ne hne]
    exact hj
  refine ⟨h.recorded.mono hended, h.challenges, fun j key hkey => ?_, h.onFile⟩
  by_cases hj : j = i
  · subst hj
    have hphase : (s.readKey requests j).phase j
        = match s.repo.find (requests j).nodeId with
          | some r => .keyed r.nodeHmacKey
          | none => .ended := Function.update_self j _ s.phase
    rw [hphase] at hkey
    split at hkey
    · next r hr => exact h.key_of_find hr (RotationPhase.keyed.inj hkey)
    · cases hkey
  · refine h.read j key ?_
    rw [← hkey]
    exact (Function.update_of_ne hj _ s.phase).symm

/-- **A swap issues the next challenge** and records what it told. -/
theorem orderly_swapChallenge
    (hdistinct : Function.Injective fun i => (requests i).nextChallenge)
    (h : Orderly hmac requests keys s) {i : ι} {hmacKey : Option String}
    (hkeyed : s.phase i = .keyed hmacKey) :
    Orderly hmac requests keys (s.swapChallenge hmac requests i hmacKey) := by
  have hself : (s.swapChallenge hmac requests i hmacKey).phase i = .ended :=
    Function.update_self i _ s.phase
  have hother : ∀ j ≠ i, (s.swapChallenge hmac requests i hmacKey).phase j = s.phase j :=
    fun j hj => Function.update_of_ne hj _ s.phase
  refine ⟨?_, fun nodeId => ?_, fun j key hkey => ?_, h.onFile⟩
  · refine h.recorded.cons hdistinct (i := i) ?_ rfl (fun j hj => ?_) hself
      (fun haccepted => ?_) (fun key hkey => ?_) (fun key hkey => h.onFile _ key hkey)
    · rw [hkeyed]
      exact fun hended => nomatch hended
    · by_cases hji : j = i
      · exact hji ▸ hself
      · exact (hother j hji).trans hj
    · obtain ⟨key, c, r, hkey, hc, hr, hanswers⟩ :=
        livenessVerified_iff.mp (Option.some.inj haccepted)
      exact ⟨key, c, r, hkey, (h.challenges _).symm.trans hc, hr, hanswers⟩
    · exact h.read i key (hkeyed.trans (congrArg RotationPhase.keyed hkey))
  · show (assocInsert _ _ s.livenessChallenges).lookup nodeId = _
    rw [lookup_assocInsert, h.challenges]
    rfl
  · by_cases hji : j = i
    · rw [hji, hself] at hkey
      cases hkey
    · exact h.read j key ((hother j hji).symm.trans hkey)

/-- One step keeps the rotations in order. -/
theorem orderly_step (hdistinct : Function.Injective fun i => (requests i).nextChallenge)
    (h : Orderly hmac requests keys s) {a : MemoryAction ι}
    (ha : ∀ key, a.Gives key → key ∈ keys) : Orderly hmac requests keys (s.step hmac requests a) := by
  cases a with
  | register rec => exact orderly_register h ha
  | deregister nodeId => exact orderly_deregister h nodeId
  | readKey i =>
    simp only [step]
    split
    · next hready => exact orderly_readKey h hready
    · exact h
  | swapChallenge i =>
    simp only [step]
    split
    · next hmacKey hkeyed => exact orderly_swapChallenge hdistinct h hkeyed
    · exact h

/-- A step keeps this so exactly if it keeps the key. -/
theorem checkedOnFile_step (s : ChallengeMemory ι) (a : MemoryAction ι) :
    CheckedOnFile (s.step hmac requests a).log
      ↔ CheckedOnFile s.log ∧ s.KeyKept hmac requests a := by
  cases a with
  | register rec => exact (and_iff_left trivial).symm
  | deregister nodeId => exact (and_iff_left trivial).symm
  | readKey i =>
    refine Iff.trans ?_ (and_iff_left trivial).symm
    simp only [step]
    split <;> exact Iff.rfl
  | swapChallenge i =>
    simp only [step, KeyKept]
    split
    · next hmacKey hkeyed =>
      rw [and_comm]
      refine List.forall_mem_cons.trans (and_congr_left' ?_)
      show (some _ = some true → _) ↔ _
      rw [Option.some.injEq]
      exact Iff.rfl
    · exact (and_iff_left trivial).symm

end ChallengeMemory

/-! ## The repository in MySQL -/

/-- What `nodes` has of a challenge. -/
structure LivenessRow where
  id : String
  operatorPubkey : Option String
  livenessChallenge : Option String
  livenessVerifiedAtMs : Option ℤ
  nodeHmacKey : Option String

namespace LivenessRow

/-- The row a registration inserts: a node without a key has an empty one. -/
def ofRecord (rec : NodeRecord) : LivenessRow where
  id := rec.node.nodeId
  operatorPubkey := rec.node.operatorPubkey
  livenessChallenge := none
  livenessVerifiedAtMs := none
  nodeHmacKey := some (rec.nodeHmacKey.getD "")

/-- What a registration writes over a row that is there: the challenge
stays. -/
def merge (rec : NodeRecord) (old : LivenessRow) : LivenessRow :=
  { old with
    operatorPubkey := rec.node.operatorPubkey
    nodeHmacKey := some (rec.nodeHmacKey.getD "") }

/-- What an anonymization leaves of a row. -/
def anonymized (draw : String → String) (row : LivenessRow) : LivenessRow :=
  { row with
    operatorPubkey := none
    livenessChallenge := none
    livenessVerifiedAtMs := none
    nodeHmacKey := some (draw row.id) }

/-- The row with the next challenge; if the response was worth something, with
the time as well. -/
def rotated (nextChallenge : String) (verified : Bool) (nowMs : ℤ) (row : LivenessRow) :
    LivenessRow :=
  { row with
    livenessChallenge := some nextChallenge
    livenessVerifiedAtMs := if verified then some nowMs else row.livenessVerifiedAtMs }

end LivenessRow

/-- The rows, by identity in the collation. -/
abbrev LivenessTable (fold : String → String) := Table fun row : LivenessRow => fold row.id

/-- What happens: a registration, a removal, two statements on the nodes of
an operator, and a call. -/
inductive LivenessAction (ι : Type*)
  | register (rec : NodeRecord)
  | deregister (nodeId : String)
  | rotateOperator (operatorPubkey newOperatorPubkey : String)
  | anonymize (operatorPubkey : String) (draw : String → String)
  | verifyAndRotate (i : ι)

/-- An action, what the server makes of it, and the time. -/
structure LivenessStep (ι : Type*) where
  action : LivenessAction ι
  server : Server
  nowMs : ℤ

/-- The action gives a node this key. -/
def LivenessAction.Gives {ι : Type*} (key : String) : LivenessAction ι → Prop
  | .register rec => rec.nodeHmacKey.getD "" = key
  | .anonymize _ draw => ∃ nodeId, draw nodeId = key
  | _ => False

/-- **The challenges in MySQL**, and any number of calls. -/
structure ChallengeDb (fold : String → String) (ι : Type*) where
  nodes : LivenessTable fold
  ended : ι → Bool
  log : List LivenessRotation

namespace ChallengeDb

variable {fold : String → String} {ι : Type*}

/-- No node, and every call yet to come. -/
def empty : ChallengeDb fold ι := ⟨.empty _, fun _ => false, []⟩

/-- `WHERE operator_pubkey = ?`. -/
def ownedBy (fold : String → String) (operatorPubkey : String) (row : LivenessRow) : Bool :=
  row.operatorPubkey.any fun owner => fold owner == fold operatorPubkey

section Statements

variable (nodes : LivenessTable fold)

/-- `INSERT INTO nodes … ON DUPLICATE KEY UPDATE`. -/
def upsertNode (rec : NodeRecord) : LivenessTable fold :=
  nodes.upsert (.ofRecord rec) (.merge rec) fun _ => rfl

/-- The link of `rotate_operator`: the nodes go to the successor. -/
def linkOperator (operatorPubkey newOperatorPubkey : String) : LivenessTable fold :=
  nodes.updateWhere (ownedBy fold operatorPubkey)
    (fun row => { row with operatorPubkey := some newOperatorPubkey }) fun _ => rfl

/-- `apply_mysql_dsr_anonymization`, of the nodes of an operator. -/
def anonymizeNodes (operatorPubkey : String) (draw : String → String) : LivenessTable fold :=
  nodes.updateWhere (ownedBy fold operatorPubkey) (.anonymized draw) fun _ => rfl

/-- The rows with the next challenge of a node. -/
def withChallenge (request : RotationRequest) (verified : Bool) (nowMs : ℤ) :
    LivenessTable fold :=
  nodes.update (fold request.nodeId) (.rotated request.nextChallenge verified nowMs) fun _ => rfl

/-- `UPDATE nodes SET liveness_challenge`: the column takes sixty-four
characters. -/
def setChallenge (request : RotationRequest) (verified : Bool) (nowMs : ℤ) :
    Option (LivenessTable fold) :=
  if request.nextChallenge.length ≤ 64 then some (withChallenge nodes request verified nowMs)
  else none

theorem find_upsertNode (rec : NodeRecord) (k : String) :
    (upsertNode nodes rec).find k
      = if k = fold rec.node.nodeId then
          some (((nodes.find (fold rec.node.nodeId)).map (.merge rec)).getD (.ofRecord rec))
        else nodes.find k :=
  Table.find_upsert nodes (.ofRecord rec) _ k

theorem find_linkOperator (operatorPubkey newOperatorPubkey k : String) :
    (linkOperator nodes operatorPubkey newOperatorPubkey).find k
      = (nodes.find k).map fun row =>
          if ownedBy fold operatorPubkey row then
            { row with operatorPubkey := some newOperatorPubkey }
          else row :=
  Table.find_updateWhere nodes _ k _

theorem find_anonymizeNodes (operatorPubkey : String) (draw : String → String) (k : String) :
    (anonymizeNodes nodes operatorPubkey draw).find k
      = (nodes.find k).map fun row =>
          if ownedBy fold operatorPubkey row then row.anonymized draw else row :=
  Table.find_updateWhere nodes _ k _

theorem find_withChallenge (request : RotationRequest) (verified : Bool) (nowMs : ℤ)
    (k : String) :
    (withChallenge nodes request verified nowMs).find k
      = if k = fold request.nodeId then
          (nodes.find k).map (.rotated request.nextChallenge verified nowMs)
        else nodes.find k :=
  Table.find_update nodes (fold request.nodeId) k _

end Statements

variable (hmac : String → String → Bytes)

/-- What the response of a request is worth against a row. -/
def rowVerified (row : LivenessRow) (request : RotationRequest) : Bool :=
  livenessVerified hmac row.livenessChallenge row.nodeHmacKey request.response

/-- The statements of the transaction after it has read the row. -/
def rotateBody (row : LivenessRow) (request : RotationRequest) (nowMs : ℤ) :
    List (LivenessTable fold → Option (LivenessTable fold)) :=
  [some, fun nodes => setChallenge nodes request (rowVerified hmac row request) nowMs]

/-- `MySqlRepo::verify_and_rotate_liveness_challenge`: what it tells its
caller, and the rows it leaves. -/
def verifyAndRotateLivenessChallenge (server : Server) (nowMs : ℤ) (nodes : LivenessTable fold)
    (request : RotationRequest) : Option Bool × LivenessTable fold :=
  match nodes.find (fold request.nodeId) with
  | none => (none, nodes)
  | some row =>
    ((if (Transaction.run server (rotateBody hmac row request nowMs) nodes).1 then
        some (rowVerified hmac row request) else none),
      (Transaction.run server (rotateBody hmac row request nowMs) nodes).2)

/-- The rotations of a call: one, if its transaction gets to its commit and
the commit is not refused. -/
def rotations (server : Server) (nowMs : ℤ) (nodes : LivenessTable fold)
    (request : RotationRequest) : List LivenessRotation :=
  match nodes.find (fold request.nodeId) with
  | none => []
  | some row =>
    if (Transaction.reaches server (rotateBody hmac row request nowMs) nodes).isSome
        && server.commit != .refused then
      [{ client := fold request.nodeId
         used := row.nodeHmacKey
         onFile := row.nodeHmacKey
         response := request.response
         next := request.nextChallenge
         answer := (verifyAndRotateLivenessChallenge hmac server nowMs nodes request).1 }]
    else []

variable [DecidableEq ι] (requests : ι → RotationRequest)

/-- One step of the repository. -/
def step (db : ChallengeDb fold ι) (s : LivenessStep ι) : ChallengeDb fold ι :=
  match s.action with
  | .register rec =>
    { db with
      nodes := (Transaction.run s.server [fun nodes => some (upsertNode nodes rec)] db.nodes).2 }
  | .deregister nodeId =>
    { db with
      nodes := if s.server.executes then db.nodes.delete (fold nodeId) else db.nodes }
  | .rotateOperator operatorPubkey newOperatorPubkey =>
    { db with
      nodes := (Transaction.run s.server
        [fun nodes => some (linkOperator nodes operatorPubkey newOperatorPubkey)] db.nodes).2 }
  | .anonymize operatorPubkey draw =>
    { db with
      nodes := (Transaction.run s.server
        [fun nodes => some (anonymizeNodes nodes operatorPubkey draw)] db.nodes).2 }
  | .verifyAndRotate i =>
    if db.ended i then db
    else
      { nodes := (verifyAndRotateLivenessChallenge hmac s.server s.nowMs db.nodes (requests i)).2
        ended := Function.update db.ended i true
        log := rotations hmac s.server s.nowMs db.nodes (requests i) ++ db.log }

/-- What is so of every state of a run: the rotations are in order, and a
challenge in a row is the one issued last. -/
structure Orderly (keys : Set String) (db : ChallengeDb fold ι) : Prop where
  recorded : Recorded (AnswersChallenge hmac) keys (fun i => (requests i).nextChallenge)
    (fun i => db.ended i = true) db.log
  challenges : ∀ k row, db.nodes.find k = some row → ∀ c, row.livenessChallenge = some c →
    openFor db.log k = some c
  onFile : ∀ k row, db.nodes.find k = some row → ∀ key, row.nodeHmacKey = some key → key ∈ keys
  checked : CheckedOnFile db.log

variable {hmac requests} {keys : Set String} {db : ChallengeDb fold ι}

omit [DecidableEq ι] in
/-- **A call rotates the challenge of its node**, or leaves everything and
tells nothing. -/
theorem rotate_cases (server : Server) (nowMs : ℤ) (nodes : LivenessTable fold)
    (request : RotationRequest) :
    (rotations hmac server nowMs nodes request = []
        ∧ verifyAndRotateLivenessChallenge hmac server nowMs nodes request = (none, nodes))
      ∨ ∃ row told, nodes.find (fold request.nodeId) = some row
        ∧ (told = some true → rowVerified hmac row request = true)
        ∧ (verifyAndRotateLivenessChallenge hmac server nowMs nodes request).2
          = withChallenge nodes request (rowVerified hmac row request) nowMs
        ∧ rotations hmac server nowMs nodes request
          = [⟨fold request.nodeId, row.nodeHmacKey, row.nodeHmacKey, request.response,
              request.nextChallenge, told⟩] := by
  unfold rotations verifyAndRotateLivenessChallenge
  cases hrow : nodes.find (fold request.nodeId) with
  | none => exact Or.inl ⟨rfl, rfl⟩
  | some row =>
    dsimp only
    cases hreach : Transaction.reaches server (rotateBody hmac row request nowMs) nodes with
    | none =>
      rw [Transaction.run_of_not_reached hreach]
      exact Or.inl ⟨rfl, rfl⟩
    | some nodes' =>
      have hnodes' : setChallenge nodes request (rowVerified hmac row request) nowMs
          = some nodes' := by
        have hall := Transaction.foldlM_of_reached hreach
        simpa [rotateBody] using hall
      unfold setChallenge at hnodes'
      split at hnodes'
      · obtain rfl := Option.some.inj hnodes'
        rw [Transaction.run_of_reached hreach]
        cases hcommit : server.commit with
        | refused => exact Or.inl ⟨rfl, rfl⟩
        | done => exact Or.inr ⟨row, _, rfl, Option.some.inj, rfl, rfl⟩
        | lost => exact Or.inr ⟨row, none, rfl, (fun h => nomatch h), rfl, rfl⟩
      · exact absurd hnodes' (by simp)

omit [DecidableEq ι] in
theorem orderly_empty : Orderly hmac requests keys (.empty : ChallengeDb fold ι) where
  recorded := .nil
  challenges _ _ h := absurd h (by simp [empty])
  onFile _ _ h := absurd h (by simp [empty])
  checked _ h := absurd h List.not_mem_nil

omit [DecidableEq ι] in
/-- A change of the rows that brings no other key, and no challenge that was
not there. -/
theorem Orderly.withNodes (h : Orderly hmac requests keys db) {nodes : LivenessTable fold}
    (hrows : ∀ k row, nodes.find k = some row →
      (∀ key, row.nodeHmacKey = some key → key ∈ keys)
        ∧ (row.livenessChallenge = none ∨ ∃ old, db.nodes.find k = some old
          ∧ row.livenessChallenge = old.livenessChallenge)) :
    Orderly hmac requests keys { db with nodes := nodes } :=
  { h with
    challenges := fun k row hrow c hc => by
      rcases (hrows k row hrow).2 with hnone | ⟨old, hold, hsame⟩
      · exact absurd (hnone.symm.trans hc) (Option.some_ne_none c).symm
      · exact h.challenges k old hold c (hsame.symm.trans hc)
    onFile := fun k row hrow => (hrows k row hrow).1 }

omit [DecidableEq ι] in
theorem orderly_upsertNode (h : Orderly hmac requests keys db) {rec : NodeRecord}
    (hrec : rec.nodeHmacKey.getD "" ∈ keys) :
    Orderly hmac requests keys { db with nodes := upsertNode db.nodes rec } := by
  refine h.withNodes fun k row hrow => ?_
  rw [find_upsertNode] at hrow
  split at hrow
  · next hk =>
    subst hk
    obtain rfl := Option.some.inj hrow
    cases hold : db.nodes.find (fold rec.node.nodeId) with
    | none => exact ⟨fun key hkey => Option.some.inj hkey ▸ hrec, Or.inl rfl⟩
    | some old => exact ⟨fun key hkey => Option.some.inj hkey ▸ hrec, Or.inr ⟨old, rfl, rfl⟩⟩
  · exact ⟨h.onFile k row hrow, Or.inr ⟨row, hrow, rfl⟩⟩

omit [DecidableEq ι] in
theorem orderly_linkOperator (h : Orderly hmac requests keys db)
    (operatorPubkey newOperatorPubkey : String) :
    Orderly hmac requests keys
      { db with nodes := linkOperator db.nodes operatorPubkey newOperatorPubkey } := by
  refine h.withNodes fun k row hrow => ?_
  rw [find_linkOperator] at hrow
  obtain ⟨old, hold, rfl⟩ := Option.map_eq_some_iff.mp hrow
  split
  · exact ⟨h.onFile k old hold, Or.inr ⟨old, hold, rfl⟩⟩
  · exact ⟨h.onFile k old hold, Or.inr ⟨old, hold, rfl⟩⟩

omit [DecidableEq ι] in
theorem orderly_anonymizeNodes (h : Orderly hmac requests keys db) (operatorPubkey : String)
    {draw : String → String} (hdraw : ∀ nodeId, draw nodeId ∈ keys) :
    Orderly hmac requests keys { db with nodes := anonymizeNodes db.nodes operatorPubkey draw } := by
  refine h.withNodes fun k row hrow => ?_
  rw [find_anonymizeNodes] at hrow
  obtain ⟨old, hold, rfl⟩ := Option.map_eq_some_iff.mp hrow
  split
  · exact ⟨fun key hkey => Option.some.inj hkey ▸ hdraw old.id, Or.inl rfl⟩
  · exact ⟨h.onFile k old hold, Or.inr ⟨old, hold, rfl⟩⟩

omit [DecidableEq ι] in
theorem orderly_delete (h : Orderly hmac requests keys db) (nodeId : String) :
    Orderly hmac requests keys { db with nodes := db.nodes.delete (fold nodeId) } := by
  refine h.withNodes fun k row hrow => ?_
  rw [Table.find_delete] at hrow
  split at hrow
  · exact absurd hrow (by simp)
  · exact ⟨h.onFile k row hrow, Or.inr ⟨row, hrow, rfl⟩⟩

omit [DecidableEq ι] in
/-- A transaction of one statement keeps the rotations in order if its
statement does. -/
theorem orderly_run (h : Orderly hmac requests keys db) (server : Server)
    {statement : LivenessTable fold → LivenessTable fold}
    (hstatement : Orderly hmac requests keys { db with nodes := statement db.nodes }) :
    Orderly hmac requests keys
      { db with nodes := (Transaction.run server [fun nodes => some (statement nodes)] db.nodes).2 } := by
  rcases Transaction.snd_run_cases server [fun nodes => some (statement nodes)] db.nodes with
    hsame | hall
  · rw [hsame]
    exact h
  · obtain hnodes : statement db.nodes
        = (Transaction.run server [fun nodes => some (statement nodes)] db.nodes).2 := by
      simpa using hall
    rw [← hnodes]
    exact hstatement

/-- **A call issues the next challenge** and records what it told. -/
theorem orderly_verifyAndRotate
    (hdistinct : Function.Injective fun i => (requests i).nextChallenge)
    (h : Orderly hmac requests keys db) {i : ι} (hopen : db.ended i = false) (server : Server)
    (nowMs : ℤ) :
    Orderly hmac requests keys
      { nodes := (verifyAndRotateLivenessChallenge hmac server nowMs db.nodes (requests i)).2
        ended := Function.update db.ended i true
        log := rotations hmac server nowMs db.nodes (requests i) ++ db.log } := by
  have hself : Function.update db.ended i true i = true := Function.update_self i true db.ended
  have hended : ∀ j, db.ended j = true → Function.update db.ended i true j = true := by
    intro j hj
    by_cases hji : j = i
    · exact hji ▸ hself
    · rw [Function.update_of_ne hji]
      exact hj
  rcases @rotate_cases fold hmac server nowMs db.nodes (requests i) with
    ⟨hnone, hsame⟩ | ⟨row, told, hrow, htold, hnodes, hlog⟩
  · rw [hnone, hsame]
    exact ⟨h.recorded.mono hended, h.challenges, h.onFile, h.checked⟩
  · rw [hnodes, hlog]
    have hkey : ∀ key, row.nodeHmacKey = some key → key ∈ keys := h.onFile _ row hrow
    refine ⟨?_, fun k row' hrow' c hc => ?_, fun k row' hrow' => ?_, ?_⟩
    · refine h.recorded.cons hdistinct (i := i) ?_ rfl hended hself (fun haccepted => ?_) hkey hkey
      · rw [hopen]
        exact Bool.false_ne_true
      · obtain ⟨key, c, r, hk, hc, hr, hanswers⟩ := livenessVerified_iff.mp (htold haccepted)
        exact ⟨key, c, r, hk, h.challenges _ row hrow c hc, hr, hanswers⟩
    · rw [find_withChallenge] at hrow'
      show (if k = fold (requests i).nodeId then _ else _) = _
      split at hrow'
      · next hk =>
        subst hk
        rw [hrow] at hrow'
        obtain rfl := Option.some.inj hrow'
        rw [if_pos rfl]
        exact hc
      · next hk =>
        rw [if_neg hk]
        exact h.challenges k row' hrow' c hc
    · rw [find_withChallenge] at hrow'
      split at hrow'
      · next hk =>
        subst hk
        rw [hrow] at hrow'
        obtain rfl := Option.some.inj hrow'
        exact hkey
      · exact h.onFile k row' hrow'
    · exact List.forall_mem_cons.mpr ⟨fun _ => rfl, h.checked⟩

/-- One step keeps the rotations in order. -/
theorem orderly_step (hdistinct : Function.Injective fun i => (requests i).nextChallenge)
    (h : Orderly hmac requests keys db) {s : LivenessStep ι}
    (hs : ∀ key, s.action.Gives key → key ∈ keys) :
    Orderly hmac requests keys (db.step hmac requests s) := by
  obtain ⟨action, server, nowMs⟩ := s
  cases action with
  | register rec => exact orderly_run h server (orderly_upsertNode h (hs _ rfl))
  | deregister nodeId =>
    simp only [step]
    split
    · exact orderly_delete h nodeId
    · exact h
  | rotateOperator operatorPubkey newOperatorPubkey =>
    exact orderly_run h server (orderly_linkOperator h operatorPubkey newOperatorPubkey)
  | anonymize operatorPubkey draw =>
    exact orderly_run h server
      (orderly_anonymizeNodes h operatorPubkey fun nodeId => hs _ ⟨nodeId, rfl⟩)
  | verifyAndRotate i =>
    simp only [step]
    split
    · exact h
    · next hopen =>
      exact orderly_verifyAndRotate hdistinct h (Bool.eq_false_iff.mpr hopen) server nowMs

end ChallengeDb

/-! ## Single use -/

/-- The keys that are given to nodes in a run of the repository in memory. -/
def keysInMemory {ι : Type*} (steps : List (MemoryAction ι)) : Set String :=
  {key | ∃ a ∈ steps, a.Gives key}

/-- The keys that are given to nodes in a run of `MySqlRepo`. -/
def keysInDb {ι : Type*} (steps : List (LivenessStep ι)) : Set String :=
  {key | ∃ s ∈ steps, s.action.Gives key}

section SingleUse

variable {ι : Type*} [DecidableEq ι] (hmac : String → String → Bytes)
  (requests : ι → RotationRequest)

theorem ChallengeMemory.orderly_after
    (hdistinct : Function.Injective fun i => (requests i).nextChallenge)
    (steps : List (MemoryAction ι)) :
    Orderly hmac requests (keysInMemory steps)
      (Run.after (step hmac requests) .empty steps) := by
  have hstep : ∀ (s : ChallengeMemory ι) (a : MemoryAction ι),
      Orderly hmac requests (keysInMemory steps) s →
      (∀ key, a.Gives key → key ∈ keysInMemory steps) →
      Orderly hmac requests (keysInMemory steps) (s.step hmac requests a) :=
    fun _ _ h ha => orderly_step hdistinct h ha
  exact Run.invariant_along hstep orderly_empty
    (Run.along_of_forall _ (fun a ha _ key hkey => ⟨a, ha, hkey⟩) _)

theorem ChallengeDb.orderly_after {fold : String → String}
    (hdistinct : Function.Injective fun i => (requests i).nextChallenge)
    (steps : List (LivenessStep ι)) :
    Orderly hmac requests (keysInDb steps)
      (Run.after (step hmac requests) (.empty : ChallengeDb fold ι) steps) := by
  have hstep : ∀ (db : ChallengeDb fold ι) (s : LivenessStep ι),
      Orderly hmac requests (keysInDb steps) db →
      (∀ key, s.action.Gives key → key ∈ keysInDb steps) →
      Orderly hmac requests (keysInDb steps) (db.step hmac requests s) :=
    fun _ _ h hs => orderly_step hdistinct h hs
  exact Run.invariant_along hstep orderly_empty
    (Run.along_of_forall _ (fun s hs _ key hkey => ⟨s, hs, hkey⟩) _)

/-- **Liveness challenges are single-use**, in memory in the runs that keep
the keys and in no other, in MySQL in every run. -/
theorem livenessChallenges_singleUse
    (hdistinct : Function.Injective fun i => (requests i).nextChallenge) :
    (∀ steps : List (MemoryAction ι),
      CollisionFree hmac (keysInMemory steps) (Set.range fun i => (requests i).nextChallenge) →
        (SingleUse (AnswersChallenge hmac) (keysInMemory steps)
            (Run.after (ChallengeMemory.step hmac requests) .empty steps).log
          ↔ Run.Along (ChallengeMemory.step hmac requests)
              (ChallengeMemory.KeyKept hmac requests) .empty steps))
      ∧ ∀ (fold : String → String) (steps : List (LivenessStep ι)),
        CollisionFree hmac (keysInDb steps) (Set.range fun i => (requests i).nextChallenge) →
          SingleUse (AnswersChallenge hmac) (keysInDb steps)
            (Run.after (ChallengeDb.step hmac requests) (.empty : ChallengeDb fold ι) steps).log := by
  constructor
  · intro steps hfree
    have horderly := ChallengeMemory.orderly_after hmac requests hdistinct steps
    rw [horderly.recorded.singleUse_iff (tied_of_collisionFree hfree)]
    have hempty : CheckedOnFile (ChallengeMemory.empty : ChallengeMemory ι).log :=
      fun _ h => absurd h List.not_mem_nil
    have hrun := @Run.iff_along _ _ (ChallengeMemory.step hmac requests)
      (fun s => CheckedOnFile s.log) (ChallengeMemory.KeyKept hmac requests)
      ChallengeMemory.checkedOnFile_step .empty steps
    exact hrun.trans (and_iff_right hempty)
  · intro fold steps hfree
    have horderly := @ChallengeDb.orderly_after ι _ hmac requests fold hdistinct steps
    exact (horderly.recorded.singleUse_iff (tied_of_collisionFree hfree)).mpr horderly.checked

end SingleUse

/-! ## A key that is replaced between its reading and the swap -/

namespace Sample

/-- The codes of two challenges under two keys. -/
def livenessCodes : List ((String × String) × ℕ) :=
  [(("key-one", "challenge-one"),
     0xaab4c7fc7ad4ddb562e63eeb628f127f23a38bb96e580d0888dc0dc44dbc43ad),
   (("key-one", "challenge-two"),
     0x9855d7f3c15463005a56b70a49c9ab386705d22fde5d7437af8402a2b482d670),
   (("key-two", "challenge-one"),
     0x16895ad562b8829f6e744fc7389e0f9f5c84873ba63fcb7a213833d3a1edd8a1),
   (("key-two", "challenge-two"),
     0x7d0358c5ad3ef2cda8820971f27421600b2b9986bd901d7f4bf1fc45e4f62e54)]

/-- HMAC-SHA256 on these; zeros elsewhere. -/
def hmacSha256 (key message : String) : Bytes := bytes 32 (tableValue livenessCodes (key, message))

/-- Two heartbeats of a node: the first has no challenge to answer yet, the
second answers the one it was given, under the first key. -/
def livenessRequests : Bool → RotationRequest
  | false => ⟨"n1", none, "challenge-one"⟩
  | true => ⟨"n1", some (Hex.encode (hmacSha256 "key-one" "challenge-one")), "challenge-two"⟩

/-- A registration of the node with a key. -/
def keyedRecord (hmacKey : String) : NodeRecord :=
  { (registration "n1" "https://n1.test").record with nodeHmacKey := some hmacKey }

/-- The node registers again before the second heartbeat has read its key. -/
def keyReplacedBefore : List (MemoryAction Bool) :=
  [.register (keyedRecord "key-one"), .readKey false, .swapChallenge false,
   .register (keyedRecord "key-two"), .readKey true, .swapChallenge true]

/-- It registers again after that, and before the swap. -/
def keyReplacedBetween : List (MemoryAction Bool) :=
  [.register (keyedRecord "key-one"), .readKey false, .swapChallenge false, .readKey true,
   .register (keyedRecord "key-two"), .swapChallenge true]

theorem livenessRequests_distinct :
    Function.Injective fun i => (livenessRequests i).nextChallenge := by
  intro i j h
  cases i <;> cases j <;> first | rfl | exact absurd h (by decide)

/-- A registration gives the node one of the two keys. -/
def knownKey : MemoryAction Bool → Bool
  | .register rec => rec.nodeHmacKey == some "key-one" || rec.nodeHmacKey == some "key-two"
  | _ => true

theorem eq_of_knownKey {a : MemoryAction Bool} (ha : knownKey a = true) {key : String}
    (hkey : a.Gives key) : key = "key-one" ∨ key = "key-two" := by
  cases a with
  | register rec =>
    have hrec : rec.nodeHmacKey = some key := hkey
    rw [knownKey, hrec, Bool.or_eq_true, beq_iff_eq, beq_iff_eq] at ha
    exact ha.imp Option.some.inj Option.some.inj
  | deregister nodeId => exact absurd hkey id
  | readKey i => exact absurd hkey id
  | swapChallenge i => exact absurd hkey id

theorem livenessCodes_collisionFree {steps : List (MemoryAction Bool)}
    (hsteps : steps.all knownKey = true) :
    CollisionFree hmacSha256 (keysInMemory steps)
      (Set.range fun i => (livenessRequests i).nextChallenge) := by
  rw [List.all_eq_true] at hsteps
  rintro key ⟨a, ha, hkey⟩ key' ⟨a', ha', hkey'⟩ _ ⟨i, rfl⟩ _ ⟨j, rfl⟩ h
  obtain rfl | rfl := eq_of_knownKey (hsteps a ha) hkey <;>
    obtain rfl | rfl := eq_of_knownKey (hsteps a' ha') hkey' <;>
      cases i <;> cases j <;> first | exact ⟨rfl, rfl⟩ | exact absurd h (by decide)

end Sample

/-- Where the node registers again before its key is read, its challenges are
single-use, and the answer under the old key is not accepted. -/
theorem livenessChallenges_singleUse_replacedBefore :
    SingleUse (AnswersChallenge Sample.hmacSha256) (keysInMemory Sample.keyReplacedBefore)
        (Run.after (ChallengeMemory.step Sample.hmacSha256 Sample.livenessRequests) .empty
          Sample.keyReplacedBefore).log
      ∧ (Run.after (ChallengeMemory.step Sample.hmacSha256 Sample.livenessRequests) .empty
          Sample.keyReplacedBefore).log.map Rotation.answer = [some false, some false] := by
  have hkept : Run.Along (ChallengeMemory.step Sample.hmacSha256 Sample.livenessRequests)
      (ChallengeMemory.KeyKept Sample.hmacSha256 Sample.livenessRequests) .empty
      Sample.keyReplacedBefore :=
    ⟨trivial, trivial, fun h => absurd h (by decide), trivial, trivial,
      fun h => absurd h (by decide), trivial⟩
  exact ⟨((livenessChallenges_singleUse Sample.hmacSha256 Sample.livenessRequests
    Sample.livenessRequests_distinct).1 _ (Sample.livenessCodes_collisionFree (by decide))).mpr
      hkept, by decide⟩

/-- **An answer under a key that is no longer on file is accepted** where the
node registers again between the reading of the key and the swap. -/
theorem replaced_key_accepted :
    CollisionFree Sample.hmacSha256 (keysInMemory Sample.keyReplacedBetween)
        (Set.range fun i => (Sample.livenessRequests i).nextChallenge)
      ∧ Function.Injective (fun i => (Sample.livenessRequests i).nextChallenge)
      ∧ ¬ SingleUse (AnswersChallenge Sample.hmacSha256) (keysInMemory Sample.keyReplacedBetween)
          (Run.after (ChallengeMemory.step Sample.hmacSha256 Sample.livenessRequests) .empty
            Sample.keyReplacedBetween).log := by
  refine ⟨Sample.livenessCodes_collisionFree (by decide), Sample.livenessRequests_distinct,
    fun h => ?_⟩
  obtain ⟨key, c, r, hkey, hc, hr, hanswers⟩ := h.latest [] _ _ rfl (by decide)
  obtain rfl : "key-two" = key := Option.some.inj hkey
  obtain rfl : "challenge-one" = c := Option.some.inj hc
  obtain rfl := Option.some.inj hr
  rw [AnswersChallenge, Hex.decode_encode] at hanswers
  exact absurd hanswers (by decide)
