import IicpDirectory.Foundations.Run
import IicpDirectory.FederationHandlers
import IicpDirectory.Replica.Snapshot
import IicpDirectory.Replica.Verify

/-!
# The synchronisation loop

`run_replica_sync` never returns. It waits for the network at four points –
for the seed's DID document, for a snapshot, for the next tick, for a page
of events – and what it does at each is a function of its state and of
what it gets there. `step` is that function, `SyncState` the local
variables of the loop with the repository and the `ready` flag, and a run
is a list of replies.

A page is worked off row by row (`applyRow`), and `applyRow_of_refusal`,
`applyRow_of_replayed` and `applyRow_of_fresh` say what a row does: nothing;
move the link alone; move the link, the cursor and the repository. The link
is what hash-chain continuity rests on. It starts afresh with every tick,
so `link_of_consecutive` – an accepted event links to the event accepted
just before it – is a statement about one drain.
-/

namespace Replica

open Federation

/-! ## The seed's key -/

/-- The Ed25519 key of one verification method. -/
def methodKey (L : Libs) (m : Json) : Option String := do
  let jwk ← m.get "publicKeyJwk"
  guard (jwk.getStr "kty" = some "OKP" ∧ jwk.getStr "crv" = some "Ed25519")
  let x ← jwk.getStr "x"
  let raw ← L.base64UrlDecode x
  if raw.length = 32 then some (Hex.encode raw) else none

/-- The seed's public key: that of the first verification method that has
one. -/
def seedPubkeyHexFromDid (L : Libs) (did : Json) : Option String :=
  (did.getArray "verificationMethod").bind (fun methods => methods.findSome? (methodKey L))

/-- The same, from the DID document of the seed that is expected. -/
def seedPubkeyHexFromExpectedDid (L : Libs) (did : Json) (expectedDid : String) :
    Option String :=
  if did.getStr "id" = some expectedDid then seedPubkeyHexFromDid L did else none

/-! ## The state of the loop -/

/-- What the loop reads of its configuration. -/
structure ReplicaConfig where
  seedDid : String
  verificationRequired : Bool

/-- Where the loop waits for the network. -/
inductive SyncPoint
  | verifyingSeed
  | bootstrapping
  | idle
  | draining
  deriving DecidableEq

/-- **The state of the loop**: the repository, the local variables, the
`ready` flag, and where it waits. -/
structure SyncState (σ : Type) where
  repo : σ
  pubkey : Option String
  sinceSeq : ℤ
  snapshotSeq : ℤ
  prevSig : Option String
  ready : Bool
  point : SyncPoint

/-- What the network answers at a wait: the body of the request made there,
and the DID document of the seed if it is asked for. Nothing stands for a
failed request, or a body that is no JSON. -/
structure Reply where
  body : Option Json
  did : Option Json

/-- The state `run_replica_sync` starts in. -/
def SyncState.start {σ : Type} (repo : σ) : SyncState σ where
  repo := repo
  pubkey := none
  sinceSeq := 0
  snapshotSeq := 0
  prevSig := none
  ready := false
  point := .verifyingSeed

/-! ## A page of events -/

/-- One page of the seed's log. -/
inductive EventPage
  | events (rows : List FederatedEvent) (nextSeq : ℤ) (hasMore : Bool)
  | snapshotRequired
  | failed

/-- Read a page: the expired cursor first, then the rows – all of them or
none –, then what is said about the rest. -/
def fetchEvents (body : Option Json) (sinceSeq : ℤ) : EventPage :=
  match body with
  | none => .failed
  | some body =>
    if (body.get "error").bind (·.getStr "code") = some "IICP-E045" then .snapshotRequired
    else
      match (body.get "events").bind (Json.asVec FederatedEvent.ofJson) with
      | none => .failed
      | some rows =>
        .events rows (((body.get "next_seq").bind Json.asI64).getD sinceSeq)
          (((body.get "has_more").bind Json.asBool).getD false)

section Loop

variable (L : Libs) {σ : Type} [NodeRepository σ]

/-- The link the next event must carry: none is expected before the first
event of a drain. -/
def expectedLink (s : SyncState σ) : Option String :=
  s.prevSig.map (fun sig => prevHashFrom L (some sig))

/-- One row of a page: the cursor follows the high-water mark, the link
follows every row that is not rejected. -/
def applyRow (s : SyncState σ) (ev : FederatedEvent) : ApplyOutcome × SyncState σ :=
  let r := verifyAndApply L s.repo ev s.pubkey s.sinceSeq (expectedLink L s)
  (r.1.1,
    { s with
      repo := r.2
      sinceSeq := if s.sinceSeq < r.1.2 then r.1.2 else s.sinceSeq
      prevSig := if r.1.1.accepted then ev.sig else s.prevSig })

/-- The rows of a page, up to the first one whose signature is refused;
whether there was one. -/
def applyRows (s : SyncState σ) : List FederatedEvent → Bool × SyncState σ
  | [] => (false, s)
  | ev :: rest =>
    if (applyRow L s ev).1.refreshesKey then (true, (applyRow L s ev).2)
    else applyRows (applyRow L s ev).2 rest

variable (cfg : ReplicaConfig)

/-- The key the seed's document gives. -/
def resolveSeedPubkey (did : Option Json) : Option String :=
  did.bind (fun d => seedPubkeyHexFromExpectedDid L d cfg.seedDid)

/-- One iteration of the drain loop. -/
def pageStep (s : SyncState σ) (page : EventPage) (did : Option Json) : SyncState σ :=
  match page with
  | .snapshotRequired => { s with ready := false, point := .bootstrapping }
  | .failed => { s with point := .idle }
  | .events rows _ hasMore =>
    if rows.isEmpty then { s with ready := true, point := .idle }
    else
      let (refresh, s') := applyRows L s rows
      if refresh then { s' with pubkey := resolveSeedPubkey L cfg did, point := .idle }
      else if hasMore then s'
      else { s' with ready := true, point := .idle }

/-- A tick: without a key that is required nothing happens, else a drain
starts, with no link to go by. -/
def tickStep (s : SyncState σ) (did : Option Json) : SyncState σ :=
  if cfg.verificationRequired && s.pubkey.isNone then
    match resolveSeedPubkey L cfg did with
    | none => { s with pubkey := none }
    | some pk => { s with pubkey := some pk, prevSig := none, point := .draining }
  else { s with prevSig := none, point := .draining }

/-- The bootstrap: a validated snapshot is applied and sets the cursor,
anything else is tried again. -/
def bootstrapStep (s : SyncState σ) (body : Option Json) : SyncState σ :=
  match body.bind (fun b => (validatedSnapshotSeq b).map (fun seq => (seq, b))) with
  | none => s
  | some (seq, snapshot) =>
    { s with
      repo := (applySnapshot s.repo snapshot).2
      sinceSeq := seq
      snapshotSeq := seq
      point := .idle }

/-- **What the loop does with a reply**, wherever it waits. -/
def step (s : SyncState σ) (r : Reply) : SyncState σ :=
  match s.point with
  | .verifyingSeed =>
    let pubkey := resolveSeedPubkey L cfg r.did
    { s with
      pubkey := pubkey
      point := if cfg.verificationRequired && pubkey.isNone then .verifyingSeed
        else .bootstrapping }
  | .bootstrapping => bootstrapStep s r.body
  | .idle => tickStep L cfg s r.did
  | .draining => pageStep L cfg s (fetchEvents r.body s.sinceSeq) r.did

end Loop

/-! ## What a row does -/

section Rows

variable {L : Libs} {σ : Type} [NodeRepository σ]

variable (L) in
/-- Why the loop would refuse an event in a state, if it would. -/
def refusalAt (s : SyncState σ) (ev : FederatedEvent) : Option String :=
  refusal L s.repo ev s.pubkey s.sinceSeq (expectedLink L s)

/-- A row that is refused changes nothing. -/
theorem applyRow_of_refusal {s : SyncState σ} {ev : FederatedEvent} {reason : String}
    (h : refusalAt L s ev = some reason) : applyRow L s ev = (.rejected reason, s) := by
  unfold applyRow
  rw [verifyAndApply_of_refusal L h]
  simp

/-- A row that was seen before moves the link alone. -/
theorem applyRow_of_replayed {s : SyncState σ} {ev : FederatedEvent}
    (h : refusalAt L s ev = none) (hl : ev.seq ≤ s.sinceSeq) :
    applyRow L s ev = (.skipped, { s with prevSig := ev.sig }) := by
  have hs : badServiceId ev = false := by
    by_contra hb
    rw [refusalAt, refusal, if_pos (by simpa using hb)] at h
    exact absurd h (by simp)
  unfold applyRow
  rw [verifyAndApply_of_replayed L hs hl]
  simp

/-- A fresh row that is accepted moves the repository, the cursor and the
link. -/
theorem applyRow_of_fresh {s : SyncState σ} {ev : FederatedEvent}
    (h : refusalAt L s ev = none) (hl : s.sinceSeq < ev.seq) :
    applyRow L s ev
        = ((applyEvent L s.repo ev).1,
            { s with repo := (applyEvent L s.repo ev).2, sinceSeq := ev.seq, prevSig := ev.sig })
      ∧ (applyEvent L s.repo ev).1.accepted = true := by
  obtain ⟨he, hacc⟩ := verifyAndApply_of_fresh L h hl
  refine ⟨?_, hacc⟩
  unfold applyRow
  rw [he]
  simp [hacc, hl]

/-- A fresh event in order is not refused: signed under the key, with the
link that is expected, well formed, and persisted. -/
theorem refusalAt_eq_none {s : SyncState σ} {ev : FederatedEvent} {pk : String}
    (hkey : s.pubkey = some pk) (hsigned : SignedUnder L pk ev)
    (hlink : ∀ x, expectedLink L s = some x → ev.link = x) (hmal : malformed ev = none)
    (hpers : persists s.repo ev = true) : refusalAt L s ev = none := by
  rw [refusalAt, hkey]
  exact refusal_eq_none hsigned hlink hmal hpers

/-- An event seen before is not refused. -/
theorem refusalAt_of_replayed {s : SyncState σ} {ev : FederatedEvent}
    (hservice : badServiceId ev = false) (hl : ev.seq ≤ s.sinceSeq) : refusalAt L s ev = none := by
  rw [refusalAt, refusal, hservice, if_neg Bool.false_ne_true, if_pos hl]

/-- A fresh signed event with another link than the expected one is refused
for it. -/
theorem refusalAt_of_broken {s : SyncState σ} {ev : FederatedEvent} {pk sig x : String}
    (hservice : badServiceId ev = false) (hfresh : s.sinceSeq < ev.seq) (hkey : s.pubkey = some pk)
    (hsig : ev.sig = some sig) (hexp : expectedLink L s = some x) (hne : ev.link ≠ x) :
    refusalAt L s ev = some "broken hash-chain" := by
  rw [refusalAt, refusal, hservice, if_neg Bool.false_ne_true, if_neg (not_le.mpr hfresh), hkey,
    hexp, verificationRefusal_of_broken pk hsig hne]
  rfl

/-- The outcome of a row is acceptance exactly where nothing refuses it. -/
theorem applyRow_accepted_iff {s : SyncState σ} {ev : FederatedEvent} :
    (applyRow L s ev).1.accepted = true ↔ refusalAt L s ev = none :=
  verifyAndApply_accepted_iff L

/-- A page goes on after a row that is not refused. -/
theorem applyRows_cons {s : SyncState σ} {ev : FederatedEvent} (h : refusalAt L s ev = none)
    (rest : List FederatedEvent) :
    applyRows L s (ev :: rest) = applyRows L (applyRow L s ev).2 rest := by
  rw [applyRows, ApplyOutcome.refreshesKey_of_accepted (applyRow_accepted_iff.mpr h)]
  rfl

/-- The link after a row: its own if it was accepted, else as it was. -/
theorem prevSig_applyRow (s : SyncState σ) (ev : FederatedEvent) :
    (applyRow L s ev).2.prevSig
      = if (applyRow L s ev).1.accepted then ev.sig else s.prevSig := rfl

/-- A row changes neither the key nor the snapshot number, the flag or the
point. -/
theorem frame_applyRow (s : SyncState σ) (ev : FederatedEvent) :
    (applyRow L s ev).2.pubkey = s.pubkey ∧ (applyRow L s ev).2.snapshotSeq = s.snapshotSeq
      ∧ (applyRow L s ev).2.ready = s.ready ∧ (applyRow L s ev).2.point = s.point :=
  ⟨rfl, rfl, rfl, rfl⟩

/-- The cursor never moves back. -/
theorem sinceSeq_le_applyRow (s : SyncState σ) (ev : FederatedEvent) :
    s.sinceSeq ≤ (applyRow L s ev).2.sinceSeq := by
  show s.sinceSeq ≤ if s.sinceSeq < _ then _ else s.sinceSeq
  split
  · rename_i h
    exact le_of_lt h
  · exact le_refl _

end Rows

/-! ## What the seed serves, the replica reads -/

theorem mapM_ofJson_eventJson (directoryDid : String) {rows : List EventRow}
    (h : ∀ r ∈ rows, r.seq < 2 ^ 63 ∧ r.tsMs < 2 ^ 63) :
    (rows.map (FederationHandlers.eventJson directoryDid)).mapM FederatedEvent.ofJson
      = some (rows.map (FederationHandlers.federatedEvent directoryDid)) := by
  induction rows with
  | nil => rfl
  | cons r rest ih =>
    obtain ⟨hseq, hts⟩ := h r List.mem_cons_self
    rw [List.map_cons, List.mapM_cons, FederationHandlers.ofJson_eventJson hseq hts,
      ih (fun x hx => h x (List.mem_cons_of_mem _ hx))]
    rfl

/-- **A page of the tail is read as the rows it was made of.** -/
theorem fetchEvents_events (directoryDid : String) (eventsSince : ℤ → ℕ → List EventRow)
    (since : Option ℤ) (limit : Option ℕ) {rows : List EventRow}
    (hrows : eventsSince (since.getD 0) (FederationHandlers.pageLimit limit) = rows)
    (hbound : ∀ r ∈ rows, r.seq < 2 ^ 63 ∧ r.tsMs < 2 ^ 63) (hsince : since.getD 0 < 2 ^ 63)
    (cursor : ℤ) :
    fetchEvents (some (FederationHandlers.events directoryDid eventsSince since limit)) cursor
      = .events (rows.map (FederationHandlers.federatedEvent directoryDid))
          ((rows.getLast?.map EventRow.seq).getD (since.getD 0))
          (rows.length == FederationHandlers.pageLimit limit) := by
  have hlast : (rows.getLast?.map EventRow.seq).getD (since.getD 0) < 2 ^ 63 := by
    cases hl : rows.getLast? with
    | none => exact hsince
    | some r => exact (hbound r (List.mem_of_getLast? hl)).1
  have hparse := mapM_ofJson_eventJson directoryDid hbound
  subst hrows
  simp only [fetchEvents, FederationHandlers.events, Json.get_object, List.find?_cons, String.reduceBEq, Option.map_some, Option.map_none, List.find?_nil,
    Option.bind_none, Option.bind_some, Json.asVec, Json.asArray_array, hparse,
    Json.asI64_ofInt hlast, Json.asBool_bool]
  rfl

/-! ## The deliveries of a run -/

/-- A row handed to `verify_and_apply`: the state it met, and the event. -/
structure Delivery (σ : Type) where
  before : SyncState σ
  event : FederatedEvent

/-- The rows a page names, none where there is no page. -/
def EventPage.rows : EventPage → List FederatedEvent
  | .events rows _ _ => rows
  | _ => []

/-- **A run that is watched**: the state of the loop, the rows delivered in
the drain that is going on or was the last, and those delivered since the
last snapshot. -/
structure Observed (σ : Type) where
  state : SyncState σ
  drain : List (Delivery σ)
  sinceSnapshot : List (Delivery σ)

section Deliveries

variable (L : Libs) {σ : Type} [NodeRepository σ]

/-- The outcome of a delivery. -/
def Delivery.outcome (d : Delivery σ) : ApplyOutcome := (applyRow L d.before d.event).1

/-- The delivery was accepted, and its event was fresh: its effect is in the
repository, if it has one. -/
def Delivery.Taken (d : Delivery σ) : Prop :=
  (d.outcome L).accepted = true ∧ d.before.sinceSeq < d.event.seq

/-- The rows of a page that are delivered: those up to the first refused
signature. -/
def deliveries (s : SyncState σ) : List FederatedEvent → List (Delivery σ)
  | [] => []
  | ev :: rest =>
    ⟨s, ev⟩ :: if (applyRow L s ev).1.refreshesKey then [] else deliveries (applyRow L s ev).2 rest

/-- The start of a run. -/
def Observed.start (repo : σ) : Observed σ := ⟨SyncState.start repo, [], []⟩

/-- A step that is watched. A tick starts a new drain, a bootstrap a new
count. -/
def Observed.step (cfg : ReplicaConfig) (o : Observed σ) (r : Reply) : Observed σ :=
  let state := Replica.step L cfg o.state r
  match o.state.point with
  | .verifyingSeed => { o with state := state }
  | .bootstrapping => { o with state := state, sinceSnapshot := [] }
  | .idle => { o with state := state, drain := [] }
  | .draining =>
    let page := fetchEvents r.body o.state.sinceSeq
    { state := state
      drain := o.drain ++ deliveries L o.state page.rows
      sinceSnapshot := o.sinceSnapshot ++ deliveries L o.state page.rows }

/-- Watching changes nothing. -/
theorem state_observedStep (cfg : ReplicaConfig) (o : Observed σ) (r : Reply) :
    (Observed.step L cfg o r).state = step L cfg o.state r := by
  unfold Observed.step
  cases o.state.point <;> rfl

theorem observedStep_draining (cfg : ReplicaConfig) (o : Observed σ) (r : Reply) {page : EventPage}
    (hp : o.state.point = .draining) (hpage : fetchEvents r.body o.state.sinceSeq = page) :
    Observed.step L cfg o r
      = ⟨pageStep L cfg o.state page r.did, o.drain ++ deliveries L o.state page.rows,
          o.sinceSnapshot ++ deliveries L o.state page.rows⟩ := by
  simp only [Observed.step, step, hp, hpage]

theorem observedStep_idle (cfg : ReplicaConfig) (o : Observed σ) (r : Reply)
    (hp : o.state.point = .idle) :
    Observed.step L cfg o r
      = { o with state := tickStep L cfg o.state r.did, drain := [] } := by
  simp only [Observed.step, step, hp]

/-- The link after some deliveries: the signature of the last one
accepted. -/
def lastSig (sig : Option String) (ds : List (Delivery σ)) : Option String :=
  ds.foldl (fun sig d => if (d.outcome L).accepted then d.event.sig else sig) sig

/-- Every delivery met the link its predecessors left. -/
def Chained : Option String → List (Delivery σ) → Prop
  | _, [] => True
  | sig, d :: rest =>
    d.before.prevSig = sig ∧ Chained (if (d.outcome L).accepted then d.event.sig else sig) rest

variable {L}

/-- An event is taken exactly where it is fresh and nothing refuses it. -/
theorem Delivery.taken_iff {d : Delivery σ} :
    d.Taken L ↔ refusalAt L d.before d.event = none ∧ d.before.sinceSeq < d.event.seq :=
  and_congr_left fun _ => applyRow_accepted_iff

theorem chained_append {sig : Option String} {a b : List (Delivery σ)} :
    Chained L sig (a ++ b) ↔ Chained L sig a ∧ Chained L (lastSig L sig a) b := by
  induction a generalizing sig with
  | nil => simp [Chained, lastSig]
  | cons d rest ih =>
    rw [List.cons_append, Chained, Chained, ih, and_assoc]
    rfl

/-- The deliveries of a page are chained, from the link the page found to
the link it leaves. -/
theorem chained_deliveries (s : SyncState σ) (rows : List FederatedEvent) :
    Chained L s.prevSig (deliveries L s rows)
      ∧ (applyRows L s rows).2.prevSig = lastSig L s.prevSig (deliveries L s rows) := by
  induction rows generalizing s with
  | nil => exact ⟨trivial, rfl⟩
  | cons ev rest ih =>
    unfold deliveries applyRows
    split
    · exact ⟨⟨rfl, trivial⟩, rfl⟩
    · obtain ⟨hch, hlast⟩ := ih (applyRow L s ev).2
      exact ⟨⟨rfl, hch⟩, hlast⟩

/-- A row that is not refused is delivered, and the rest of the page
after it. -/
theorem deliveries_cons {s : SyncState σ} {ev : FederatedEvent} (h : refusalAt L s ev = none)
    (rest : List FederatedEvent) :
    deliveries L s (ev :: rest) = ⟨s, ev⟩ :: deliveries L (applyRow L s ev).2 rest := by
  rw [deliveries, ApplyOutcome.refreshesKey_of_accepted (applyRow_accepted_iff.mpr h)]
  rfl

/-- The invariant of a drain: its deliveries are chained from nothing, and
while it goes on the loop holds the link they leave. -/
def Linked (L : Libs) (o : Observed σ) : Prop :=
  Chained L none o.drain
    ∧ (o.state.point = .draining → o.state.prevSig = lastSig L none o.drain)

/-- A page without a refused signature and with no more to come ends the
drain, and makes the replica ready. -/
theorem pageStep_last {cfg : ReplicaConfig} {s s' : SyncState σ} {rows : List FederatedEvent}
    (hne : rows ≠ []) (h : applyRows L s rows = (false, s')) (nextSeq : ℤ) (did : Option Json) :
    pageStep L cfg s (.events rows nextSeq false) did
      = { s' with ready := true, point := .idle } := by
  simp [pageStep, hne, h]

/-- While a page leaves the drain going on, its rows decide the link. -/
theorem prevSig_pageStep {cfg : ReplicaConfig} {s : SyncState σ} {page : EventPage}
    {did : Option Json} (h : (pageStep L cfg s page did).point = .draining) :
    (pageStep L cfg s page did).prevSig = (applyRows L s page.rows).2.prevSig := by
  cases page with
  | snapshotRequired => exact absurd h (by simp [pageStep])
  | failed => exact absurd h (by simp [pageStep])
  | events rows next hasMore =>
    unfold pageStep at h ⊢
    simp only [EventPage.rows] at h ⊢
    by_cases hempty : rows.isEmpty
    · simp [hempty] at h
    · simp only [hempty, Bool.false_eq_true, if_false] at h ⊢
      cases (applyRows L s rows).1 <;> cases hasMore <;> simp_all

omit [NodeRepository σ] in
/-- A tick without a key that is required does nothing; any other starts a
drain, with no link to go by. -/
theorem tickStep_cases (cfg : ReplicaConfig) (s : SyncState σ) (did : Option Json) :
    (cfg.verificationRequired = true ∧ tickStep L cfg s did = { s with pubkey := none })
      ∨ ∃ key, (cfg.verificationRequired = true → key ≠ none)
        ∧ tickStep L cfg s did = { s with pubkey := key, prevSig := none, point := .draining } := by
  unfold tickStep
  split
  · rename_i hreq
    rw [Bool.and_eq_true] at hreq
    cases resolveSeedPubkey L cfg did with
    | none => exact Or.inl ⟨hreq.1, rfl⟩
    | some pk => exact Or.inr ⟨some pk, fun _ => by simp, rfl⟩
  · rename_i hreq
    refine Or.inr ⟨s.pubkey, fun hr hnone => hreq ?_, rfl⟩
    rw [hr, hnone]
    rfl

/-- Every step keeps the drain linked: a tick empties it, a page chains
what it delivers. -/
theorem linked_step {cfg : ReplicaConfig} {o : Observed σ} (h : Linked L o) (r : Reply) :
    Linked L (Observed.step L cfg o r) := by
  cases hp : o.state.point with
  | verifyingSeed =>
    refine ⟨by simpa [Observed.step, hp] using h.1, fun hd => ?_⟩
    simp only [Observed.step, hp, step] at hd
    split at hd <;> exact absurd hd (by simp)
  | bootstrapping =>
    refine ⟨by simpa [Observed.step, hp] using h.1, fun hd => ?_⟩
    simp only [Observed.step, hp, step, bootstrapStep] at hd
    split at hd
    · rw [hp] at hd
      exact absurd hd (by simp)
    · exact absurd hd (by simp)
  | idle =>
    refine ⟨by simp [Observed.step, hp, Chained], fun hd => ?_⟩
    simp only [Observed.step, hp, step] at hd ⊢
    obtain ⟨_, he⟩ | ⟨key, _, he⟩ := tickStep_cases (L := L) cfg o.state r.did
    · rw [he, hp] at hd
      exact absurd hd (by simp)
    · -- a drain starts without a link
      rw [he]
      rfl
  | draining =>
    obtain ⟨hch, hlink⟩ := h
    have hlink := hlink hp
    obtain ⟨hrows, hlast⟩ :=
      chained_deliveries (L := L) o.state (fetchEvents r.body o.state.sinceSeq).rows
    simp only [Linked, Observed.step, hp, step]
    refine ⟨chained_append.mpr ⟨hch, hlink ▸ hrows⟩, fun hd => ?_⟩
    rw [prevSig_pageStep hd, hlast, hlink]
    exact List.foldl_append.symm

/-- Deliveries that are rejected leave the link alone. -/
theorem lastSig_of_rejected {sig : Option String} {ds : List (Delivery σ)}
    (h : ∀ d ∈ ds, (d.outcome L).accepted = false) : lastSig L sig ds = sig := by
  induction ds with
  | nil => rfl
  | cons d rest ih =>
    have hd := h d List.mem_cons_self
    show lastSig L (if (d.outcome L).accepted then d.event.sig else sig) rest = sig
    rw [hd]
    exact ih (fun x hx => h x (List.mem_cons_of_mem _ hx))

/-- An event taken under a key is signed, and carries the link the loop
expects. -/
theorem Delivery.Taken.verified {d : Delivery σ} (h : d.Taken L) {pk : String}
    (hkey : d.before.pubkey = some pk) :
    (∃ sig, d.event.sig = some sig)
      ∧ ∀ x, expectedLink L d.before = some x → d.event.link = x := by
  have hnone := (Delivery.taken_iff.mp h).1
  rw [refusalAt, refusal] at hnone
  split at hnone
  · exact absurd hnone (by simp)
  · rw [if_neg (not_le.mpr h.2), Option.or_eq_none_iff, hkey,
      verificationRefusal_eq_none_iff] at hnone
    obtain ⟨⟨⟨sig, _, hsig, _⟩, hlink⟩, _⟩ := hnone
    exact ⟨⟨sig, hsig⟩, hlink⟩

/-- **In one drain, an event links to the event taken just before it**: in
every run, under a key, of two events taken with nothing but rejected rows
between them the later carries the digest of the earlier one's
signature. -/
theorem link_of_consecutive (L : Libs) (cfg : ReplicaConfig) (repo : σ) (replies : List Reply)
    {earlier between later : List (Delivery σ)} {d₁ d₂ : Delivery σ} {pk₁ pk₂ : String}
    (hdrain : (Run.after (Observed.step L cfg) (Observed.start repo) replies).drain
      = earlier ++ d₁ :: (between ++ d₂ :: later))
    (hkey₁ : d₁.before.pubkey = some pk₁) (hkey₂ : d₂.before.pubkey = some pk₂)
    (h₁ : d₁.Taken L) (h₂ : d₂.Taken L)
    (hbetween : ∀ d ∈ between, (d.outcome L).accepted = false) :
    d₂.event.link = prevHashFrom L d₁.event.sig := by
  have hstart : Linked L (Observed.start repo) :=
    ⟨trivial, fun h => absurd h (by simp [Observed.start, SyncState.start])⟩
  have hstep : ∀ (o : Observed σ) r, Linked L o → Linked L (Observed.step L cfg o r) :=
    fun o r h => linked_step h r
  have hinv : Linked L (Run.after (Observed.step L cfg) (Observed.start repo) replies) :=
    Run.invariant hstep hstart replies
  have hch := hinv.1
  rw [hdrain, chained_append] at hch
  obtain ⟨_, _, hrest⟩ := hch
  rw [h₁.1, if_pos rfl, chained_append, lastSig_of_rejected hbetween] at hrest
  have hprev : d₂.before.prevSig = d₁.event.sig := hrest.2.1
  obtain ⟨sig, hsig⟩ := (h₁.verified hkey₁).1
  refine (h₂.verified hkey₂).2 _ ?_
  rw [expectedLink, hprev, hsig]
  rfl

end Deliveries

end Replica

/-! ## The sample, served -/

namespace Sample

open Replica

/-- The seed's DID document. -/
def didDocument : Json :=
  .object
    [("id", .string directoryDid),
     ("verificationMethod", .array [.object
       [("publicKeyJwk", .object
         [("kty", .string "OKP"), ("crv", .string "Ed25519"),
          ("x", .string "0EqyMnQrtKs6E2i9RhXk5tAiSrcaAWuvhSCjMsl3hzc")])]])]

/-- The replica insists on verification. -/
def config : ReplicaConfig where
  seedDid := directoryDid
  verificationRequired := true

/-- The snapshot of a seed with nothing on record. -/
def emptySnapshot : Json := FederationHandlers.snapshot libs [] [] 0

/-- The replies that bring a replica to its first drain: the key, a
snapshot, a tick. -/
def joining : List Reply :=
  [⟨none, some didDocument⟩, ⟨some emptySnapshot, none⟩, ⟨none, none⟩]

/-- The state a replica joins with. -/
def joined : SyncState InMemoryRepo where
  repo := InMemoryRepo.empty
  pubkey := some pubkeyHex
  sinceSeq := 0
  snapshotSeq := 0
  prevSig := none
  ready := false
  point := .draining

/-- A page of the tail with these rows and no more. -/
def page (rows : List EventRow) : Reply :=
  ⟨some (FederationHandlers.events directoryDid (fun _ _ => rows) none none), none⟩

theorem resolve_didDocument :
    resolveSeedPubkey libs config (some didDocument) = some pubkeyHex := by decide

theorem observed_joining :
    Run.after (Observed.step libs config) (Observed.start InMemoryRepo.empty) joining
      = ⟨joined, [], []⟩ := by
  have hseq : validatedSnapshotSeq emptySnapshot = some 0 := by decide
  have happly : (applySnapshot InMemoryRepo.empty emptySnapshot).2 = InMemoryRepo.empty := rfl
  simp [joining, joined, Observed.step, Observed.start, SyncState.start, step, bootstrapStep,
    tickStep, resolve_didDocument, hseq, happly]

theorem fetchEvents_page (rows : List EventRow) (h : ∀ r ∈ rows, r.seq < 2 ^ 63 ∧ r.tsMs < 2 ^ 63)
    (hlen : rows.length < 100) (cursor : ℤ) :
    fetchEvents (page rows).body cursor
      = .events (rows.map (FederationHandlers.federatedEvent directoryDid))
          ((rows.getLast?.map EventRow.seq).getD 0) false := by
  have hfetch := fetchEvents_events directoryDid (fun _ _ => rows) none none rfl h (by decide)
    cursor
  rw [show (rows.length == FederationHandlers.pageLimit none) = false by
    simpa [FederationHandlers.pageLimit] using hlen.ne] at hfetch
  exact hfetch

theorem prevHashFrom_sig1 : Federation.prevHashFrom libs (some sig1) = link2 := by
  decide +kernel

theorem prevHashFrom_sig2 : Federation.prevHashFrom libs (some sig2) = link3 := by
  decide +kernel

/-- A sample event in order is not refused. -/
theorem refusalAt_sample {s : SyncState InMemoryRepo} {ev : FederatedEvent}
    (hkey : s.pubkey = some pubkeyHex) (hsigned : SignedUnder libs pubkeyHex ev)
    (hlink : ∀ x, expectedLink libs s = some x → ev.link = x) (hmal : malformed ev = none) :
    refusalAt libs s ev = none :=
  refusalAt_eq_none hkey hsigned hlink hmal (persists_inMemory s.repo ev)

/-- The replica that joined takes the first event. -/
theorem refusalAt_event1 : refusalAt libs joined event1 = none :=
  refusalAt_sample rfl event1_signed (by simp [expectedLink, joined]) (by decide)

/-- The replica after the first event and another tick: the link is
forgotten. -/
def resumed : SyncState InMemoryRepo :=
  { (applyRow libs joined event1).2 with ready := true, prevSig := none, point := .draining }

theorem sinceSeq_resumed : resumed.sinceSeq = 1 := by
  rw [resumed, (applyRow_of_fresh refusalAt_event1 (by decide)).1]
  rfl

theorem observed_resumed :
    Observed.step libs config (Observed.step libs config ⟨joined, [], []⟩ (page [row1]))
        ⟨none, none⟩
      = ⟨resumed, [], [⟨joined, event1⟩]⟩ := by
  have hfetch := fetchEvents_page [row1] (by decide) (by decide) joined.sinceSeq
  have hrows : applyRows libs joined [event1] = (false, (applyRow libs joined event1).2) :=
    applyRows_cons refusalAt_event1 []
  have hpage : pageStep libs config joined (.events [event1] 1 false) none
      = { (applyRow libs joined event1).2 with ready := true, point := .idle } :=
    pageStep_last (by simp) hrows 1 none
  have htick : tickStep libs config
      { (applyRow libs joined event1).2 with ready := true, point := .idle } none = resumed := by
    have hkey : (applyRow libs joined event1).2.pubkey = some pubkeyHex :=
      (frame_applyRow joined event1).1
    unfold tickStep resumed
    rw [if_neg (by simp [hkey])]
  have hdeliver : deliveries libs joined [event1] = [⟨joined, event1⟩] :=
    deliveries_cons refusalAt_event1 []
  rw [observedStep_draining libs config ⟨joined, [], []⟩ (page [row1]) rfl hfetch]
  show Observed.step libs config
    ⟨pageStep libs config joined (.events [event1] 1 false) none,
      [] ++ deliveries libs joined [event1], [] ++ deliveries libs joined [event1]⟩ _ = _
  rw [hpage, hdeliver, observedStep_idle libs config ⟨_, _, _⟩ _ rfl, htick]
  rfl

end Sample

namespace Replica

open Federation

/-- The first two events of the sample, on one page, are such a pair. -/
theorem link_of_consecutive_sample :
    ∃ d₁ d₂ : Delivery InMemoryRepo,
      (Run.after (Observed.step Sample.libs Sample.config) (Observed.start InMemoryRepo.empty)
          (Sample.joining ++ [Sample.page [Sample.row1, Sample.row2]])).drain
        = [] ++ d₁ :: ([] ++ d₂ :: [])
      ∧ d₁.Taken Sample.libs ∧ d₂.Taken Sample.libs
      ∧ d₂.event.link = prevHashFrom Sample.libs d₁.event.sig := by
  have h₁ := Sample.refusalAt_event1
  have hrow := (applyRow_of_fresh h₁ (by decide)).1
  have h₂ : refusalAt Sample.libs (applyRow Sample.libs Sample.joined Sample.event1).2
      Sample.event2 = none := by
    refine Sample.refusalAt_sample rfl Sample.event2_signed (fun x hx => ?_) (by decide)
    rw [hrow] at hx
    exact (Sample.prevHashFrom_sig1.symm.trans (Option.some.inj hx))
  have hdrain : (Run.after (Observed.step Sample.libs Sample.config)
      (Observed.start InMemoryRepo.empty)
      (Sample.joining ++ [Sample.page [Sample.row1, Sample.row2]])).drain
        = [] ++ ⟨Sample.joined, Sample.event1⟩
            :: ([] ++ ⟨(applyRow Sample.libs Sample.joined Sample.event1).2, Sample.event2⟩ :: []) := by
    rw [Run.after_append, Sample.observed_joining]
    show deliveries Sample.libs Sample.joined (fetchEvents _ 0).rows = _
    rw [Sample.fetchEvents_page _ (by decide) (by decide)]
    show deliveries Sample.libs Sample.joined [Sample.event1, Sample.event2] = _
    rw [deliveries_cons h₁, deliveries_cons h₂, deliveries, List.nil_append, List.nil_append]
  have ht₁ : Delivery.Taken Sample.libs ⟨Sample.joined, Sample.event1⟩ :=
    Delivery.taken_iff.mpr ⟨h₁, by decide⟩
  have ht₂ : Delivery.Taken Sample.libs
      ⟨(applyRow Sample.libs Sample.joined Sample.event1).2, Sample.event2⟩ :=
    Delivery.taken_iff.mpr ⟨h₂, by rw [hrow]; decide⟩
  exact ⟨_, _, hdrain, ht₁, ht₂, link_of_consecutive Sample.libs Sample.config InMemoryRepo.empty _
    hdrain rfl rfl ht₁ ht₂ (by simp)⟩

/-- **An event deleted from the log is not missed in the next tick**: the
relay serves the first event, and after a tick the third. Both are taken,
one after the other, and the third does not link to the first. -/
theorem deletion_taken_next_tick :
    ∃ d₁ d₂ : Delivery InMemoryRepo,
      (Run.after (Observed.step Sample.libs Sample.config) (Observed.start InMemoryRepo.empty)
          (Sample.joining ++ [Sample.page [Sample.row1], ⟨none, none⟩,
            Sample.page [Sample.row3]])).sinceSnapshot
        = [d₁, d₂]
      ∧ d₁.before.pubkey = some Sample.pubkeyHex ∧ d₂.before.pubkey = some Sample.pubkeyHex
      ∧ d₁.Taken Sample.libs ∧ d₂.Taken Sample.libs
      ∧ d₂.event.link ≠ prevHashFrom Sample.libs d₁.event.sig := by
  have h₃ : refusalAt Sample.libs Sample.resumed Sample.event3 = none :=
    Sample.refusalAt_sample rfl Sample.event3_signed
      (fun x hx => absurd hx (by simp [expectedLink, Sample.resumed])) (by decide)
  have hfetch := Sample.fetchEvents_page [Sample.row3] (by decide) (by decide)
    Sample.resumed.sinceSeq
  refine ⟨⟨Sample.joined, Sample.event1⟩, ⟨Sample.resumed, Sample.event3⟩, ?_, rfl, rfl,
    Delivery.taken_iff.mpr ⟨Sample.refusalAt_event1, by decide⟩,
    Delivery.taken_iff.mpr ⟨h₃, ?_⟩, ?_⟩
  · rw [Run.after_append, Sample.observed_joining, Run.after_cons, Run.after_cons,
      Sample.observed_resumed, Run.after_cons,
      observedStep_draining Sample.libs Sample.config ⟨Sample.resumed, [], _⟩ _ rfl hfetch]
    show [_] ++ deliveries Sample.libs Sample.resumed [Sample.event3] = _
    rw [deliveries_cons h₃]
    rfl
  · show Sample.resumed.sinceSeq < 3
    rw [Sample.sinceSeq_resumed]
    decide
  · show Sample.link3 ≠ prevHashFrom Sample.libs (some Sample.sig1)
    rw [Sample.prevHashFrom_sig1]
    decide

end Replica
