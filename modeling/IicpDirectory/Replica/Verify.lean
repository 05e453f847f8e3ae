import IicpDirectory.FederationHandlers

/-!
# What verification decides

`Replica.refusal` collects the reasons an event can be refused for, as a
function of the event and of the state before it. It is the whole story:
an event with a refusal is rejected with these words and leaves no trace
(`verifyAndApply_of_refusal`), one without is accepted
(`verifyAndApply_accepted_iff`), and a fresh one is then applied
(`verifyAndApply_of_fresh`). Everything the synchronisation loop does rests
on these.

The second half is about what the signature binds. Two events that agree on
the transcript differ at most in the `node_id` they are about and in the
`signer_did` no one reads; `verifyAndApply_determined_iff` says when the
first of these matters.
-/

namespace Replica

open Federation

/-! ## The fate of an event -/

/-- A result is the one a refusal calls for: rejected in these words with
the state untouched, or accepted. -/
def Fate {σ : Type} (reason : Option String) (repo : σ) (r : ApplyOutcome × σ) : Prop :=
  match reason with
  | some text => r = (.rejected text, repo)
  | none => r.1.accepted = true

section Fates

variable (L : Libs) {σ : Type} [NodeRepository σ]

omit [NodeRepository σ] in
theorem fate_outcomeOf (repo : σ) (r : Bool × σ) : Fate none repo (outcomeOf r) := by
  unfold Fate outcomeOf
  cases r.1 <;> rfl

/-- The refusal of the applier: what the event lacks, or a registration
that is not persisted. -/
def applyRefusal (repo : σ) (ev : FederatedEvent) : Option String :=
  (malformed ev).or (if persists repo ev then none else some "REGISTER persistence failed")

theorem applyRegister_fate (repo : σ) {ev : FederatedEvent} (ht : ev.eventType = "REGISTER") :
    Fate (applyRefusal repo ev) repo (applyRegister repo ev) := by
  unfold applyRefusal malformed persists applyRegister
  rw [if_pos ht, if_pos ht]
  cases hn : ev.nodeId with
  | none => rfl
  | some nodeId =>
    cases he : ev.payload.getStr "endpoint" with
    | none => simp [nodeFromRegister, he, Fate]
    | some endpoint =>
      obtain ⟨node, hnode⟩ : ∃ node, nodeFromRegister nodeId ev.payload = some node := by
        rw [← Option.isSome_iff_exists, nodeFromRegister_isSome, he]
        rfl
      cases hr : NodeRepository.register repo (replicatedRecord node ev.payload) with
      | ok repo' => simp [hnode, hr, Fate]
      | error e => simp [hnode, hr, Fate]

omit [NodeRepository σ] in
theorem applyNodeNumber_fate (eventType fieldName : String) (set : σ → String → ℚ → Bool × σ)
    (repo : σ) (ev : FederatedEvent) :
    Fate (if ev.nodeId.isNone then some (eventType ++ " missing node_id")
        else if ((ev.payload.get fieldName).bind Json.asF64).isNone then
          some (eventType ++ " missing " ++ fieldName)
        else none)
      repo (applyNodeNumber eventType fieldName set repo ev) := by
  unfold applyNodeNumber
  cases ev.nodeId with
  | none => rfl
  | some nodeId =>
    cases (ev.payload.get fieldName).bind Json.asF64 with
    | none => rfl
    | some x => exact fate_outcomeOf repo _

theorem applyHealth_fate (repo : σ) (ev : FederatedEvent) :
    Fate (if ev.nodeId.isNone then some "HEALTH missing node_id"
        else if (ev.payload.getStr "evaluator_did").isNone then
          some "HEALTH missing evaluator_did"
        else if ((ev.payload.get "score").bind Json.asF64).isNone then
          some "HEALTH missing score"
        else none)
      repo (applyHealth L repo ev) := by
  unfold applyHealth
  cases ev.nodeId with
  | none => rfl
  | some nodeId =>
    cases ev.payload.getStr "evaluator_did" with
    | none => rfl
    | some evaluator =>
      cases (ev.payload.get "score").bind Json.asF64 with
      | none => rfl
      | some score => exact fate_outcomeOf repo _

theorem applyReplicaRegistered_fate (repo : σ) (ev : FederatedEvent) :
    Fate (if ev.nodeId.isNone || (ev.payload.getStr "did").isNone
          || (ev.payload.getStr "endpoint").isNone then
          some "REPLICA_REGISTERED missing replica_id/did/endpoint"
        else none)
      repo (applyReplicaRegistered repo ev) := by
  unfold applyReplicaRegistered
  cases ev.nodeId with
  | none => rfl
  | some replicaId =>
    cases ev.payload.getStr "did" with
    | none => rfl
    | some did =>
      cases ev.payload.getStr "endpoint" with
      | none => rfl
      | some endpoint => exact fate_outcomeOf repo _

/-- **An applier refuses what is malformed and what is not persisted, and
nothing else.** -/
theorem applyEvent_fate (repo : σ) (ev : FederatedEvent) :
    Fate (applyRefusal repo ev) repo (applyEvent L repo ev) := by
  by_cases hreg : ev.eventType = "REGISTER"
  · have h := applyRegister_fate repo hreg
    unfold applyEvent
    rwa [if_pos hreg]
  · -- every other type asks the repository nothing it could refuse
    have hp : applyRefusal repo ev = malformed ev := by
      unfold applyRefusal persists
      rw [if_neg hreg, if_pos rfl, Option.or_none]
    rw [hp]
    unfold applyEvent malformed
    rw [if_neg hreg, if_neg hreg]
    split
    · unfold applyDeregister
      cases ev.nodeId with
      | none => rfl
      | some nodeId => exact fate_outcomeOf repo _
    split
    · exact applyHealth_fate L repo ev
    split
    · exact applyNodeNumber_fate "REPUTATION_DECAY" "new_score" NodeRepository.setReputationScore
        repo ev
    split
    · exact applyNodeNumber_fate "CREDIT_AWARD" "new_balance" NodeRepository.setCreditBalance
        repo ev
    split
    · exact applyReplicaRegistered_fate repo ev
    split
    · unfold applyReplicaDeregistered
      cases ev.nodeId with
      | none => rfl
      | some replicaId => exact fate_outcomeOf repo _
    · rfl

/-- The identity of the service that emitted an event is not a valid
one. -/
def badServiceId (ev : FederatedEvent) : Bool :=
  ev.serviceId.any (fun s => !validServiceId s)

/-- **Why an event is refused, if it is**: an invalid service identity; a
fresh event that fails verification, lacks a field its applier needs, or
asks for a registration that is not persisted. A replayed one is never
refused for anything but its service identity. -/
def refusal (repo : σ) (ev : FederatedEvent) (key : Option String) (last : ℤ)
    (expected : Option String) : Option String :=
  if badServiceId ev then some "invalid service_id"
  else if ev.seq ≤ last then none
  else (verificationRefusal L ev key expected).or (applyRefusal repo ev)

/-- **An event is rejected exactly where it has a refusal**, in its words;
the repository and the high-water mark are then as they were. -/
theorem verifyAndApply_of_refusal {repo : σ} {ev : FederatedEvent} {key : Option String}
    {last : ℤ} {expected : Option String} {reason : String}
    (h : refusal L repo ev key last expected = some reason) :
    verifyAndApply L repo ev key last expected = ((.rejected reason, last), repo) := by
  unfold refusal badServiceId at h
  unfold verifyAndApply
  split at h
  · rename_i hs
    rw [if_pos hs, ← Option.some.inj h]
  · rename_i hs
    rw [if_neg hs]
    split at h
    · exact absurd h (by simp)
    · rename_i hl
      rw [if_neg hl]
      cases hv : verificationRefusal L ev key expected with
      | some text =>
        rw [hv, Option.some_or] at h
        rw [← Option.some.inj h]
      | none =>
        rw [hv, Option.none_or] at h
        have hf := applyEvent_fate L repo ev
        rw [h] at hf
        have hf' : applyEvent L repo ev = (.rejected reason, repo) := hf
        simp [hf']

/-- A replayed event changes nothing. -/
theorem verifyAndApply_of_replayed {repo : σ} {ev : FederatedEvent} {key : Option String}
    {last : ℤ} {expected : Option String} (hs : badServiceId ev = false)
    (hl : ev.seq ≤ last) :
    verifyAndApply L repo ev key last expected = ((.skipped, last), repo) := by
  unfold badServiceId at hs
  unfold verifyAndApply
  rw [hs, if_neg Bool.false_ne_true, if_pos hl]

/-- **A fresh event with no refusal is applied**: the state is the
applier's, the mark moves to the event's number. -/
theorem verifyAndApply_of_fresh {repo : σ} {ev : FederatedEvent} {key : Option String}
    {last : ℤ} {expected : Option String}
    (h : refusal L repo ev key last expected = none) (hl : last < ev.seq) :
    verifyAndApply L repo ev key last expected
        = (((applyEvent L repo ev).1, ev.seq), (applyEvent L repo ev).2)
      ∧ (applyEvent L repo ev).1.accepted = true := by
  unfold refusal badServiceId at h
  unfold verifyAndApply
  split at h
  · exact absurd h (by simp)
  · rename_i hs
    rw [if_neg (not_le.mpr hl), Option.or_eq_none_iff] at h
    have hf := applyEvent_fate L repo ev
    rw [h.2] at hf
    have hacc : (applyEvent L repo ev).1.accepted = true := hf
    refine ⟨?_, hacc⟩
    rw [if_neg hs, if_neg (not_le.mpr hl), h.1]
    simp [hacc]

/-- The outcome is acceptance exactly where there is no refusal. -/
theorem verifyAndApply_accepted_iff {repo : σ} {ev : FederatedEvent} {key : Option String}
    {last : ℤ} {expected : Option String} :
    (verifyAndApply L repo ev key last expected).1.1.accepted = true
      ↔ refusal L repo ev key last expected = none := by
  constructor
  · intro h
    cases hr : refusal L repo ev key last expected with
    | none => rfl
    | some reason =>
      rw [verifyAndApply_of_refusal L hr] at h
      exact absurd h Bool.false_ne_true
  · intro h
    by_cases hl : ev.seq ≤ last
    · have hs : badServiceId ev = false := by
        by_contra hb
        rw [refusal, if_pos (by simpa using hb)] at h
        exact absurd h (by simp)
      rw [verifyAndApply_of_replayed L hs hl]
      rfl
    · obtain ⟨he, hacc⟩ := verifyAndApply_of_fresh L h (not_le.mp hl)
      rw [he]
      exact hacc

/-- The high-water mark after an event: its number if it was fresh and
accepted, and where it was otherwise. -/
theorem highWater_verifyAndApply {repo : σ} {ev : FederatedEvent} {key : Option String}
    {last : ℤ} {expected : Option String} :
    (verifyAndApply L repo ev key last expected).1.2
      = if refusal L repo ev key last expected = none ∧ last < ev.seq then ev.seq
        else last := by
  cases hr : refusal L repo ev key last expected with
  | some reason =>
    rw [verifyAndApply_of_refusal L hr, if_neg (by simp)]
  | none =>
    by_cases hl : last < ev.seq
    · rw [(verifyAndApply_of_fresh L hr hl).1, if_pos ⟨rfl, hl⟩]
    · have hs : badServiceId ev = false := by
        by_contra hb
        rw [refusal, if_pos (by simpa using hb)] at hr
        exact absurd hr (by simp)
      rw [verifyAndApply_of_replayed L hs (not_lt.mp hl), if_neg (fun h => hl h.2)]

end Fates

/-! ## What an accepted event proves -/

section Accepted

variable {L : Libs}

/-- An event that verifies under a key carries a signature of its
transcript, and the expected link where one is expected. -/
theorem verificationRefusal_eq_none_iff {ev : FederatedEvent} {pk : String}
    {expected : Option String} :
    verificationRefusal L ev (some pk) expected = none
      ↔ (∃ sig msg, ev.sig = some sig ∧ signingMessage L ev = some msg
          ∧ verifyEvent L pk sig msg = true)
        ∧ ∀ h, expected = some h → ev.link = h := by
  unfold verificationRefusal
  cases hsig : ev.sig with
  | none => simp
  | some sig =>
    cases hexp : expected with
    | none =>
      cases hm : signingMessage L ev with
      | none => simp
      | some msg => cases hv : verifyEvent L pk sig msg <;> simp [hv]
    | some h =>
      by_cases hl : ev.link = h
      · cases hm : signingMessage L ev with
        | none => simp [hl]
        | some msg => cases hv : verifyEvent L pk sig msg <;> simp [hv, hl]
      · simp [hl]

/-- The link is checked before the signature. -/
theorem verificationRefusal_of_broken {ev : FederatedEvent} (pk : String) {sig x : String}
    (hsig : ev.sig = some sig) (hne : ev.link ≠ x) :
    verificationRefusal L ev (some pk) (some x) = some "broken hash-chain" := by
  simp [verificationRefusal, hsig, hne]

end Accepted

/-! ## What the signature binds

The transcript has no `node_id`. Two events that agree on everything the
transcript covers are about whatever node each of them names, and the
appliers act on that name. -/

section Binding

variable (L : Libs)

/-- Two events agree on every field the signature binds, and carry the
same signature. -/
structure SameSigned (e₁ e₂ : FederatedEvent) : Prop where
  serviceId : e₂.serviceId = e₁.serviceId
  eventId : e₂.eventId = e₁.eventId
  eventType : e₂.eventType = e₁.eventType
  seq : e₂.seq = e₁.seq
  tsMs : e₂.tsMs = e₁.tsMs
  payload : e₂.payload = e₁.payload
  prevHash : e₂.prevHash = e₁.prevHash
  sig : e₂.sig = e₁.sig

/-- The event carries a signature of its transcript under the key. -/
def SignedUnder (pk : String) (ev : FederatedEvent) : Prop :=
  ∃ sig msg, ev.sig = some sig ∧ signingMessage L ev = some msg
    ∧ verifyEvent L pk sig msg = true

/-- The same event about another node. -/
def FederatedEvent.about (ev : FederatedEvent) (nodeId : Option String) : FederatedEvent :=
  { ev with nodeId := nodeId }

theorem sameSigned_about (ev : FederatedEvent) (nodeId : Option String) :
    SameSigned ev (ev.about nodeId) :=
  ⟨rfl, rfl, rfl, rfl, rfl, rfl, rfl, rfl⟩

/-- Whether the applier of an event looks at its `node_id`: those of the
node events and of a replica's retirement always do, that of a replica's
registration once the payload has what it needs. -/
def readsNodeId (ev : FederatedEvent) : Bool :=
  ev.eventType ∈ ["REGISTER", "DEREGISTER", "HEALTH", "REPUTATION_DECAY", "CREDIT_AWARD",
      "REPLICA_DEREGISTERED"]
    || (ev.eventType == "REPLICA_REGISTERED" && (ev.payload.getStr "did").isSome
      && (ev.payload.getStr "endpoint").isSome)

theorem SameSigned.signingMessage_eq {e₁ e₂ : FederatedEvent} (h : SameSigned e₁ e₂) :
    signingMessage L e₂ = signingMessage L e₁ := by
  unfold signingMessage FederatedEvent.link
  rw [h.serviceId, h.eventId, h.eventType, h.seq, h.tsMs, h.payload, h.prevHash]

/-- Verification reads nothing but what is signed. -/
theorem SameSigned.verificationRefusal_eq {e₁ e₂ : FederatedEvent} (h : SameSigned e₁ e₂)
    (key expected : Option String) :
    verificationRefusal L e₂ key expected = verificationRefusal L e₁ key expected := by
  unfold verificationRefusal
  rw [h.signingMessage_eq L, h.sig, FederatedEvent.link, h.prevHash]
  rfl

variable {L} in
theorem SignedUnder.badServiceId_eq_false {pk : String} {ev : FederatedEvent}
    (h : SignedUnder L pk ev) : badServiceId ev = false := by
  obtain ⟨_, msg, _, hmsg, _⟩ := h
  unfold badServiceId
  cases hs : ev.serviceId with
  | none => rfl
  | some serviceId =>
    have hv : validServiceId serviceId = true := by
      by_contra hv
      simp [signingMessage, hs, eventMessageWithServiceId, hv] at hmsg
    simp [hv]

variable {σ : Type} [NodeRepository σ]

variable {L} in
/-- A signed event in order is not refused: with the link that is expected,
well formed, and persisted. -/
theorem refusal_eq_none {repo : σ} {ev : FederatedEvent} {pk : String} {last : ℤ}
    {expected : Option String} (hsigned : SignedUnder L pk ev)
    (hlink : ∀ x, expected = some x → ev.link = x) (hmal : malformed ev = none)
    (hpers : persists repo ev = true) : refusal L repo ev (some pk) last expected = none := by
  rw [refusal, hsigned.badServiceId_eq_false, if_neg Bool.false_ne_true,
    verificationRefusal_eq_none_iff.mpr ⟨hsigned, hlink⟩, applyRefusal, hmal, hpers]
  split <;> rfl

/-- An applier that does not look at the `node_id` gives the same result
for every other. -/
theorem applyEvent_eq_of_not_readsNodeId {repo : σ} {e₁ e₂ : FederatedEvent}
    (h : SameSigned e₁ e₂) (hr : readsNodeId e₁ = false) :
    applyEvent L repo e₂ = applyEvent L repo e₁ := by
  simp only [readsNodeId, List.mem_cons, List.not_mem_nil, or_false, Bool.or_eq_false_iff,
    decide_eq_false_iff_not, not_or] at hr
  obtain ⟨⟨h1, h2, h3, h4, h5, h6⟩, h7⟩ := hr
  unfold applyEvent
  simp only [h.eventType, h1, h2, h3, h4, h5, h6, if_false]
  split
  · rename_i ht
    -- without a DID or an endpoint a replica is refused, whoever it is
    simp only [ht, beq_self_eq_true, Bool.true_and, Bool.and_eq_false_iff,
      Option.isSome_eq_false_iff, Option.isNone_iff_eq_none] at h7
    unfold applyReplicaRegistered
    rw [h.payload]
    obtain hd | he := h7
    · rw [hd]
      cases e₁.nodeId <;> cases e₂.nodeId <;> rfl
    · rw [he]
      cases e₁.nodeId <;> cases e₂.nodeId <;> cases e₁.payload.getStr "did" <;> rfl
  · rfl

/-- An applier that looks at the `node_id` tells an event about no node
from one about some node. -/
theorem applyRefusal_about_ne (repo : σ) {ev : FederatedEvent} (hr : readsNodeId ev = true)
    (nodeId : String) :
    ∃ reason, applyRefusal repo (ev.about none) = some reason
      ∧ applyRefusal repo (ev.about (some nodeId)) ≠ some reason := by
  unfold applyRefusal persists malformed
  simp only [readsNodeId, List.mem_cons, List.not_mem_nil, or_false, Bool.or_eq_true,
    decide_eq_true_eq, Bool.and_eq_true, beq_iff_eq] at hr
  obtain (h | h | h | h | h | h) | ⟨⟨h, hd⟩, he⟩ := hr
  · refine ⟨"REGISTER missing node_id", by simp [FederatedEvent.about, h], ?_⟩
    simp only [FederatedEvent.about, h, if_true, Option.isNone_some, Bool.false_eq_true,
      if_false]
    split
    · simp
    · rw [Option.none_or]
      split <;> simp
  · exact ⟨"DEREGISTER missing node_id", by simp [FederatedEvent.about, h],
      by simp [FederatedEvent.about, h]⟩
  · refine ⟨"HEALTH missing node_id", by simp [FederatedEvent.about, h], ?_⟩
    simp [FederatedEvent.about, h]
    split <;> simp
  · refine ⟨"REPUTATION_DECAY missing node_id", by simp [FederatedEvent.about, h], ?_⟩
    simp [FederatedEvent.about, h]
  · refine ⟨"CREDIT_AWARD missing node_id", by simp [FederatedEvent.about, h], ?_⟩
    simp [FederatedEvent.about, h]
  · exact ⟨"REPLICA_DEREGISTERED missing replica_id", by simp [FederatedEvent.about, h],
      by simp [FederatedEvent.about, h]⟩
  · obtain ⟨did, hd⟩ := Option.isSome_iff_exists.mp hd
    obtain ⟨endpoint, he⟩ := Option.isSome_iff_exists.mp he
    exact ⟨"REPLICA_REGISTERED missing replica_id/did/endpoint",
      by simp [FederatedEvent.about, h], by simp [FederatedEvent.about, h, hd, he]⟩

/-- A refusal of one event that is not the other's shows in the
outcome. -/
theorem verifyAndApply_ne_of_refusal {repo : σ} {e₁ e₂ : FederatedEvent} {key : Option String}
    {last : ℤ} {expected : Option String} {reason : String}
    (h₁ : refusal L repo e₁ key last expected = some reason)
    (h₂ : refusal L repo e₂ key last expected ≠ some reason) :
    verifyAndApply L repo e₁ key last expected ≠ verifyAndApply L repo e₂ key last expected := by
  rw [verifyAndApply_of_refusal L h₁]
  intro he
  cases hr : refusal L repo e₂ key last expected with
  | none =>
    have hacc := (verifyAndApply_accepted_iff L).mpr hr
    rw [← he] at hacc
    exact absurd hacc Bool.false_ne_true
  | some text =>
    rw [verifyAndApply_of_refusal L hr] at he
    have ht : reason = text := by simpa using he
    exact h₂ (by rw [hr, ht])

/-- **Signed content decides the effect exactly where the applier is not
reached or does not look at the `node_id`**: the event is a replay, its
link is broken, or its type ignores the node. -/
theorem verifyAndApply_determined_iff (repo : σ) (pk : String) (last : ℤ)
    (expected : Option String) (e₁ : FederatedEvent) (hsigned : SignedUnder L pk e₁) :
    (∀ e₂, SameSigned e₁ e₂ →
        verifyAndApply L repo e₂ (some pk) last expected
          = verifyAndApply L repo e₁ (some pk) last expected)
      ↔ e₁.seq ≤ last ∨ (∃ x, expected = some x ∧ e₁.link ≠ x) ∨ readsNodeId e₁ = false := by
  constructor
  · intro hsame
    by_contra hcond
    rw [not_or, not_or, Bool.not_eq_false] at hcond
    obtain ⟨hfresh, hlink, hreads⟩ := hcond
    have hver : ∀ nodeId, verificationRefusal L (e₁.about nodeId) (some pk) expected = none := by
      intro nodeId
      rw [(sameSigned_about e₁ nodeId).verificationRefusal_eq L,
        verificationRefusal_eq_none_iff]
      exact ⟨hsigned, fun x hx => by_contra fun hne => hlink ⟨x, hx, hne⟩⟩
    -- fresh and verified, the event is refused for what its applier lacks
    have href : ∀ nodeId, refusal L repo (e₁.about nodeId) (some pk) last expected
        = applyRefusal repo (e₁.about nodeId) := by
      intro nodeId
      have hb : badServiceId (e₁.about nodeId) = false := hsigned.badServiceId_eq_false
      rw [refusal, hb, hver]
      exact if_neg hfresh
    obtain ⟨reason, hnone, hsome⟩ := applyRefusal_about_ne repo hreads ""
    have hne : refusal L repo (e₁.about (some "")) (some pk) last expected ≠ some reason := by
      rwa [href]
    refine verifyAndApply_ne_of_refusal L ((href none).trans hnone) hne ?_
    rw [hsame _ (sameSigned_about e₁ none), hsame _ (sameSigned_about e₁ (some ""))]
  · rintro (hl | ⟨x, rfl, hne⟩ | hr) e₂ h
    · have hb := hsigned.badServiceId_eq_false
      rw [verifyAndApply_of_replayed L hb hl]
      refine verifyAndApply_of_replayed L ?_ (by rwa [h.seq])
      rwa [badServiceId, h.serviceId]
    · -- the link is checked before the signature, on a signed field
      obtain ⟨sig, _, hsig, _, _⟩ := hsigned
      unfold verifyAndApply
      rw [h.serviceId, h.seq, h.verificationRefusal_eq L, verificationRefusal_of_broken pk hsig hne]
    · unfold verifyAndApply
      rw [h.serviceId, h.seq, h.verificationRefusal_eq L, applyEvent_eq_of_not_readsNodeId L h hr]

end Binding

end Replica

/-! ## The sample log -/

namespace Sample

open Replica

/-- The payload of a registration at an endpoint. -/
def endpointPayload (endpoint : String) : Json := .object [("endpoint", .string endpoint)]

/-- The identity of the seed. -/
def directoryDid : String := "did:web:seed.test"

/-- The first row of the log registers `n1`. -/
def row1 : EventRow where
  seq := 1
  eventId := "evt-1"
  eventType := "REGISTER"
  nodeId := "n1"
  tsMs := 1
  payload := endpointPayload "https://n1.test"
  prevHash := some Federation.genesisRoot
  sig := some sig1

/-- The second row registers `n2`. -/
def row2 : EventRow where
  seq := 2
  eventId := "evt-2"
  eventType := "REGISTER"
  nodeId := "n2"
  tsMs := 2
  payload := endpointPayload "https://n2.test"
  prevHash := some link2
  sig := some sig2

/-- The third row removes `n1`. -/
def row3 : EventRow where
  seq := 3
  eventId := "evt-3"
  eventType := "DEREGISTER"
  nodeId := "n1"
  tsMs := 3
  payload := .object []
  prevHash := some link3
  sig := some sig3

/-- The first event of the sample. -/
def event1 : FederatedEvent := FederationHandlers.federatedEvent directoryDid row1

/-- The second event of the sample. -/
def event2 : FederatedEvent := FederationHandlers.federatedEvent directoryDid row2

/-- The third event of the sample. -/
def event3 : FederatedEvent := FederationHandlers.federatedEvent directoryDid row3

/-- A signature in two halves is read digit by digit. -/
theorem decode_halves (first last : List Char) :
    Hex.decode (String.ofList first ++ String.ofList last) = Hex.decodeChars (first ++ last) := by
  rw [Hex.decode, String.toList_append, String.toList_ofList, String.toList_ofList]

/-- What is evaluated of the samples: the bytes of the key and of the signatures,
and that each is the signature of its event. -/
structure EvaluatedLog : Prop where
  decode_pubkeyHex : Hex.decode pubkeyHex = some (publicKeyOf (List.replicate 32 17))
  decode_sig1 : Hex.decode sig1 = some (bytes 64
    0x5bb52b458fbba56b0bccf5b238c844237433119c150f729d554fe1ec4cc16a2e9e95f100e404893c17e48c2c05e409677d52dd5a8c57d955fd7faecc713fff04)
  decode_sig2 : Hex.decode sig2 = some (bytes 64
    0xfefac42846851d6ebc4eac28131c3c409adcd081ab7434a35e5915fb9e1480791fe1fd1f99e8883a9bdda4e2879a168bb9d8c2fa7f778ace106e819604e5f200)
  decode_sig3 : Hex.decode sig3 = some (bytes 64
    0x24d2c4b6b2545ecb63b909d7809191c98156efb53661bd14e5f57bd90cf1e0304373861b2a4bb4be145ea4ba706ed96f5d803b9920fcb7d1679e4c7a873b040c)
  message1 : signingMessage libs event1
    = some (bytes 32 0x092c3d050fbf89e80b753309e5ab910b2f3cdd2d4143998b86fd457d5acc0fc2)
  message2 : signingMessage libs event2
    = some (bytes 32 0x42d0af6bf293fb972039a239a3e30e92c85969d712facd4a7fdf4c84900eea62)
  message3 : signingMessage libs event3
    = some (bytes 32 0xc92f9970196650fab9b6d8c0f9378c3944415aa44bac046a365917dfbd6ff97d)

theorem evaluatedLog : EvaluatedLog where
  decode_pubkeyHex := by decide +kernel
  decode_sig1 := (decode_halves _ _).trans (by decide +kernel)
  decode_sig2 := (decode_halves _ _).trans (by decide +kernel)
  decode_sig3 := (decode_halves _ _).trans (by decide +kernel)
  message1 := by decide +kernel
  message2 := by decide +kernel
  message3 := by decide +kernel

/-- Under the key of the sample a signature verifies as its bytes do. -/
theorem signedUnder_pubkeyHex {ev : FederatedEvent} {sig : String} {n : ℕ} {message : Bytes}
    (hsig : ev.sig = some sig) (hdecode : Hex.decode sig = some (bytes 64 n))
    (hmessage : signingMessage libs ev = some message)
    (hbytes : signatureUnder (publicKeyOf (List.replicate 32 17)) message = bytes 64 n) :
    SignedUnder libs pubkeyHex ev := by
  refine ⟨sig, message, hsig, hmessage, ?_⟩
  rw [Federation.verifyEvent, hdecode, evaluatedLog.decode_pubkeyHex]
  show (decide ((bytes 32 _).length = 32) && decide ((bytes 64 n).length = 64)
    && (bytes 64 n == signatureUnder _ message)) = true
  rw [length_bytes, length_bytes, hbytes, beq_self_eq_true]
  rfl

theorem event1_signed : SignedUnder libs pubkeyHex event1 :=
  signedUnder_pubkeyHex rfl evaluatedLog.decode_sig1 evaluatedLog.message1 (by decide)

theorem event2_signed : SignedUnder libs pubkeyHex event2 :=
  signedUnder_pubkeyHex rfl evaluatedLog.decode_sig2 evaluatedLog.message2 (by decide)

theorem event3_signed : SignedUnder libs pubkeyHex event3 :=
  signedUnder_pubkeyHex rfl evaluatedLog.decode_sig3 evaluatedLog.message3 (by decide)

end Sample

namespace Replica

open Federation

/-- The first event of the sample, fresh and in order, is one whose effect
the signature does not decide. -/
theorem verifyAndApply_event1_not_determined :
    SignedUnder Sample.libs Sample.pubkeyHex Sample.event1
      ∧ ¬ ∀ e₂, SameSigned Sample.event1 e₂ →
          verifyAndApply Sample.libs InMemoryRepo.empty e₂ (some Sample.pubkeyHex) 0 none
            = verifyAndApply Sample.libs InMemoryRepo.empty Sample.event1
                (some Sample.pubkeyHex) 0 none := by
  refine ⟨Sample.event1_signed, ?_⟩
  rw [verifyAndApply_determined_iff Sample.libs InMemoryRepo.empty Sample.pubkeyHex 0 none
    Sample.event1 Sample.event1_signed]
  rintro (hl | ⟨x, hx, _⟩ | hr)
  · exact absurd hl (by decide)
  · exact absurd hx (by simp)
  · exact absurd hr (by decide)

/-- **A signed registration can be redirected**: with its `node_id`
rewritten the event still verifies, and registers the other name at the
first one's endpoint. -/
theorem redirected_register_accepted :
    SameSigned Sample.event1 (Sample.event1.about (some "n2"))
      ∧ SignedUnder Sample.libs Sample.pubkeyHex Sample.event1
      ∧ (verifyAndApply Sample.libs InMemoryRepo.empty Sample.event1
            (some Sample.pubkeyHex) 0 none).2.nodeIds = ["n1"]
      ∧ (verifyAndApply Sample.libs InMemoryRepo.empty (Sample.event1.about (some "n2"))
            (some Sample.pubkeyHex) 0 none).2.nodeIds = ["n2"] := by
  -- the signature does not cover the name, so it is one for the redirected event too
  have hredirected : SignedUnder Sample.libs Sample.pubkeyHex
      (Sample.event1.about (some "n2")) := Sample.event1_signed
  have happly : ∀ ev, SignedUnder Sample.libs Sample.pubkeyHex ev → malformed ev = none →
      0 < ev.seq → (verifyAndApply Sample.libs InMemoryRepo.empty ev (some Sample.pubkeyHex) 0
        none).2 = (applyEvent Sample.libs InMemoryRepo.empty ev).2 := by
    intro ev hsigned hmal hseq
    have hnone : refusal Sample.libs InMemoryRepo.empty ev (some Sample.pubkeyHex) 0 none = none :=
      refusal_eq_none hsigned (fun _ h => absurd h (by simp)) hmal (persists_inMemory _ _)
    rw [(verifyAndApply_of_fresh Sample.libs hnone hseq).1]
  refine ⟨sameSigned_about _ _, Sample.event1_signed, ?_, ?_⟩
  · rw [happly _ Sample.event1_signed (by decide) (by decide)]
    decide
  · rw [happly _ hredirected (by decide) (by decide)]
    decide

end Replica
