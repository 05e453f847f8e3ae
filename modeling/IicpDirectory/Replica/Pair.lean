import IicpDirectory.Evidence
import IicpDirectory.Replica.Replay
import IicpDirectory.Seed.Log

/-!
# A seed and its replica

The laws of the synchronisation loop are about pages, whoever serves them.
Here the pages come from where they should: a seed appends to its log while
a replica joins it and drains it, through the seed's own routes, and any
request may be lost. `Pair` is the two of them, `Pair.step` one step of
either.

A page the seed serves is the next stretch of its log, so what
`applyRows_of_next` says of such a stretch – it is taken as a whole – is all
there is to say of a page. It makes two laws. Whatever the two do, the
replica has what its snapshot left and, on top of it, the log up to its
cursor, each event applied once and none refused (`mirrors_log`). And once
the seed is left alone, so many answers bring the cursor to the end of the
log (`catches_up`): four, and one for every hundred events.
-/

open Federation FederationHandlers

namespace Replica

/-! ## The two of them -/

/-- **A seed and a replica of it**, and what the replica's last snapshot left in
its repository. -/
structure Pair (σ : Type) where
  seed : InMemoryRepo
  replica : SyncState σ
  primed : σ

/-- What may happen: the seed appends an event, or answers what the replica
asks, with the node records it has at the time; or the request is lost. -/
inductive PairAction
  | emitEvent (ev : NewEvent) (draw : Draw)
  | answer (records : List NodeRecord) (tsMs : ℤ)
  | lose

namespace Pair

/-- The two at the start: an empty log, and a replica that knows nothing. -/
def start {σ : Type} (repo : σ) : Pair σ := ⟨InMemoryRepo.empty, SyncState.start repo, repo⟩

section System

variable (E : EvidenceLibs) (st : DirectoryState) (cfg : ReplicaConfig)

/-- `emit_event`: without a signing key nothing is appended. -/
def emitEvent (seed : InMemoryRepo) (ev : NewEvent) (draw : Draw) : InMemoryRepo :=
  match st.signingKey with
  | some key => (seed.appendSignedEvent E.toLibs key ev draw).2
  | none => seed

/-- **What the seed answers**: its DID document, and the body of the route the
replica waits for – the snapshot reads a million rows of the log, a page is of
the default size. -/
def seedReply {σ : Type} (p : Pair σ) (records : List NodeRecord) (tsMs : ℤ) : Reply where
  did := some (DirectoryEvidence.didDocument E st)
  body :=
    match p.replica.point with
    | .bootstrapping =>
      some (snapshot E.toLibs records (p.seed.eventsSince 0 1000000) tsMs)
    | .draining =>
      some (events st.directoryDid p.seed.eventsSince (some p.replica.sinceSeq) none)
    | _ => none

variable {σ : Type} [NodeRepository σ]

/-- The replica gets a reply. -/
def receive (p : Pair σ) (r : Reply) : Pair σ :=
  let replica := Replica.step E.toLibs cfg p.replica r
  { p with
    replica := replica
    primed := if p.replica.point = .bootstrapping then replica.repo else p.primed }

/-- **One step of the two.** -/
def step (p : Pair σ) : PairAction → Pair σ
  | .emitEvent ev draw => { p with seed := emitEvent E st p.seed ev draw }
  | .answer records tsMs => p.receive E cfg (seedReply E st p records tsMs)
  | .lose => p.receive E cfg ⟨none, none⟩

/-- An event the seed emits has what its applier needs, and its number and its
time fit their columns. -/
def Emits (p : Pair σ) : PairAction → Prop
  | .emitEvent ev draw =>
    malformed ⟨draw.eventId, ev.eventType, none, 0, draw.nowMs, some ev.nodeId, ev.payload, none,
        none, none⟩ = none
      ∧ draw.nowMs < 2 ^ 63 ∧ p.seed.events.length + 1 < 2 ^ 63
  | _ => True

/-- **The seed is the one the replica is configured for**, with a key whose halves
match, and the replica insists on verification. -/
structure Configured (key : String) (sk : Bytes) : Prop where
  lawful : E.Lawful
  signs : st.signingKey = some key
  bytes : Hex.decode key = some sk
  length : sk.length = 64
  halves : HalvesMatch E.toLibs key
  expected : cfg.seedDid = st.directoryDid
  required : cfg.verificationRequired = true

end System

/-- The events of the log, as a replica reads them. -/
def log {σ : Type} (did : String) (p : Pair σ) : List FederatedEvent :=
  p.seed.events.map (federatedEvent did)

end Pair

/-! ## The log of a chain -/

section Chains

variable {L : Libs} {pk : String}

/-- What an event lacks is a matter of its type, node and payload. -/
theorem malformed_congr {e e' : FederatedEvent} (htype : e.eventType = e'.eventType)
    (hnode : e.nodeId = e'.nodeId) (hpayload : e.payload = e'.payload) :
    malformed e = malformed e' := by
  unfold malformed
  rw [htype, hnode, hpayload]

/-- A signed row is a signed event. -/
theorem signedUnder_of_signs {row : EventRow} (h : Signs L pk row) (did : String) :
    SignedUnder L pk (federatedEvent did row) := by
  obtain ⟨prevHash, sig, hprev, hsig, hverify⟩ := h
  refine ⟨sig, _, hsig, rfl, ?_⟩
  show verifyEvent L pk sig (eventMessage L row.eventId row.eventType row.seq row.tsMs row.payload
    (row.prevHash.getD genesisRoot)) = true
  rw [hprev]
  exact hverify

/-- **The rows of a chain are the log of an honest seed.** -/
theorem seedLog_of_chain {rows : List EventRow} (h : SeedChain L pk rows) (did : String)
    (hformed : ∀ row ∈ rows, malformed (federatedEvent did row) = none) :
    SeedLog L pk (rows.map (federatedEvent did)) where
  increasing := List.pairwise_map.mpr h.ascending
  signed := by
    intro ev hev
    obtain ⟨row, hrow, rfl⟩ := List.mem_map.mp hev
    exact signedUnder_of_signs (h.signed row hrow) did
  chained := by
    intro before prev ev after heq
    obtain ⟨rbefore, rrest, rfl, rfl, hrest⟩ := List.map_eq_append_iff.mp heq
    obtain ⟨rprev, rtail, rfl, rfl, htail⟩ := List.map_eq_cons_iff.mp hrest
    obtain ⟨rev, rafter, rfl, rfl, rfl⟩ := List.map_eq_cons_iff.mp htail
    have hlinked := (List.isChain_append.mp h.linked).2.1
    show rev.prevHash.getD genesisRoot = prevHashFrom L rprev.sig
    rw [(List.isChain_cons_cons.mp hlinked).1, Option.getD_some]
  wellFormed := by
    intro ev hev
    obtain ⟨row, hrow, rfl⟩ := List.mem_map.mp hev
    exact hformed row hrow

end Chains

/-! ## A stretch of the log -/

section Stretches

variable {L : Libs} {σ : Type} [NodeRepository σ]

/-- **The next stretch of the log is taken as a whole**: nothing of it is
refused, the repository has it on top, and cursor and link are those of its
last event. -/
theorem applyRows_of_next {pk : String} {before stretch rest : List FederatedEvent}
    (hlog : SeedLog L pk (before ++ stretch ++ rest))
    (hpers : ∀ (repo : σ), ∀ ev ∈ before ++ stretch ++ rest, persists repo ev = true)
    {s : SyncState σ} (hkey : s.pubkey = some pk) (hfresh : ∀ ev ∈ stretch, s.sinceSeq < ev.seq)
    (hlink : ∀ sig, s.prevSig = some sig → before.getLast?.bind FederatedEvent.sig = some sig) :
    applyRows L s stretch
        = (false,
            { s with
              repo := replay L s.repo stretch
              sinceSeq := (stretch.getLast?.map FederatedEvent.seq).getD s.sinceSeq
              prevSig := (stretch.getLast?.map FederatedEvent.sig).getD s.prevSig })
      ∧ ∀ d ∈ deliveries L s stretch, (d.outcome L).accepted = true := by
  induction stretch generalizing before s with
  | nil => exact ⟨rfl, fun d hd => absurd hd List.not_mem_nil⟩
  | cons ev tail ih =>
    have hmem : ev ∈ before ++ ev :: tail ++ rest := by simp
    have hev := hfresh ev List.mem_cons_self
    -- the link that is expected is the signature of the event before
    have hpred : ∀ sig, s.prevSig = some sig →
        IsPredecessorSig (before ++ ev :: tail ++ rest) sig ev := by
      intro sig hsig
      obtain ⟨prev, hlast, hprev⟩ := Option.bind_eq_some_iff.mp (hlink sig hsig)
      obtain ⟨first, rfl⟩ := List.getLast?_eq_some_iff.mp hlast
      exact ⟨first, prev, tail ++ rest, by simp, hprev⟩
    have hnone : refusalAt L s ev = none :=
      refusalAt_of_inSequence hlog hpers hkey hmem fun _ => hpred
    have hsplit : before ++ ev :: tail ++ rest = (before ++ [ev]) ++ tail ++ rest := by simp
    have hrow := (applyRow_of_fresh hnone hev).1
    rw [hsplit] at hlog hpers
    have hafter : ∀ e ∈ tail, ev.seq < e.seq := by
      intro e he
      have hinc := (List.pairwise_append.mp hlog.increasing).1
      exact (List.pairwise_append.mp hinc).2.2 ev (by simp) e he
    obtain ⟨hrows, haccepted⟩ := ih (s := (applyRow L s ev).2) hlog hpers
      ((frame_applyRow s ev).1.trans hkey)
      (fun e he => by rw [hrow]; exact hafter e he)
      (fun sig hsig => by
        rw [hrow] at hsig
        rw [List.getLast?_concat]
        exact hsig)
    refine ⟨?_, fun d hd => ?_⟩
    · rw [applyRows_cons hnone, hrows, hrow]
      cases tail with
      | nil => rfl
      | cons e more =>
        obtain ⟨last, hlast⟩ : ∃ last, (e :: more).getLast? = some last :=
          ⟨_, List.getLast?_eq_some_getLast (by simp)⟩
        simp [replay, List.getLast?_cons_cons, hlast]
    · rw [deliveries_cons hnone] at hd
      obtain rfl | hd := List.mem_cons.mp hd
      · exact applyRow_accepted_iff.mpr hnone
      · exact haccepted d hd

end Stretches

/-! ## A page the seed serves -/

section Pages

variable (did : String)

/-- The number of the last row of a stretch. -/
theorem seq_getLast_stretch {rows : List EventRow} (h : Numbered rows) (n k : ℕ) :
    ((((rows.drop n).take k).map (federatedEvent did)).getLast?.map FederatedEvent.seq).getD (n : ℤ)
      = ((n + ((rows.drop n).take k).length : ℕ) : ℤ) := by
  have hlast : ((((rows.drop n).take k).map (federatedEvent did)).getLast?.map FederatedEvent.seq)
      = (((rows.drop n).take k).getLast?.map EventRow.seq) := by
    rw [List.getLast?_map, Option.map_map]
    rfl
  rw [hlast]
  cases hrow : ((rows.drop n).take k).getLast? with
  | none =>
    rw [List.getLast?_eq_none_iff.mp hrow]
    rfl
  | some row =>
    -- the place of the row in the log is one less than its number
    rw [List.getLast?_eq_getElem?] at hrow
    have hpos : 0 < ((rows.drop n).take k).length := by
      by_contra hzero
      rw [List.length_eq_zero_iff.mp (Nat.eq_zero_of_not_pos hzero)] at hrow
      exact absurd hrow (by simp)
    rw [List.getElem?_take_of_lt (by rw [List.length_take] at hpos ⊢; omega),
      List.getElem?_drop] at hrow
    rw [Option.map_some, Option.getD_some, seq_of_getElem? h hrow]
    push_cast
    omega

/-- **The page the seed serves is the next hundred of its log**, as far as there
are so many. -/
theorem fetchEvents_next {rows : List EventRow} (h : Numbered rows)
    (hshort : rows.length < 2 ^ 63) (hts : ∀ row ∈ rows, row.tsMs < 2 ^ 63) {seed : InMemoryRepo}
    (hseed : seed.events = rows) {n : ℕ} (hn : n ≤ rows.length) :
    ∃ next, fetchEvents (some (events did seed.eventsSince (some (n : ℤ)) none)) n
      = .events (((rows.drop n).take 100).map (federatedEvent did)) next
          (((rows.drop n).take 100).length == 100) := by
  have hpage : seed.eventsSince ((some (n : ℤ)).getD 0) (pageLimit none)
      = (rows.drop n).take 100 := by
    unfold InMemoryRepo.eventsSince
    rw [hseed]
    exact congrArg (List.take 100) (filter_seq_eq_drop h n)
  have hbound : ∀ r ∈ (rows.drop n).take 100, r.seq < 2 ^ 63 ∧ r.tsMs < 2 ^ 63 := by
    intro r hr
    have hmem := List.mem_of_mem_drop (List.mem_of_mem_take hr)
    obtain ⟨i, hi⟩ := List.mem_iff_getElem?.mp hmem
    obtain ⟨hlt, _⟩ := List.getElem?_eq_some_iff.mp hi
    have hseq := seq_of_getElem? h hi
    exact ⟨by omega, hts r hmem⟩
  have hcursor : (some (n : ℤ)).getD 0 < 2 ^ 63 := by
    rw [Option.getD_some]
    omega
  exact ⟨_, fetchEvents_events did seed.eventsSince (some (n : ℤ)) none hpage hbound hcursor n⟩

end Pages

/-! ## What holds of the two -/

/-- **The replica has the log on top of its snapshot**: from the `m`-th event,
the snapshot's, to the `n`-th, at which the cursor stands. -/
structure Mirrors (L : Libs) {σ : Type} [NodeRepository σ] (log : List FederatedEvent) (primed : σ)
    (s : SyncState σ) (m n : ℕ) : Prop where
  snapshot : s.snapshotSeq = m
  cursor : s.sinceSeq = n
  le : m ≤ n
  within : n ≤ log.length
  repo : s.repo = replay L primed ((log.take n).drop m)

namespace Pair

section Invariant

variable (L : Libs) (pk did : String) {σ : Type} [NodeRepository σ]

/-- The replica has joined: it ticks and drains. -/
def Joined (p : Pair σ) : Prop := p.replica.point = .idle ∨ p.replica.point = .draining

/-- **The invariant of the two**: the seed has a chain of well-formed events, the
replica its key from the first document on; once it has joined it mirrors the
log, and in a drain it holds the link at its cursor. -/
structure InStep (p : Pair σ) : Prop where
  chain : SeedChain L pk p.seed.events
  formed : ∀ row ∈ p.seed.events, malformed (federatedEvent did row) = none ∧ row.tsMs < 2 ^ 63
  short : p.seed.events.length < 2 ^ 63
  key : p.replica.point ≠ .verifyingSeed → p.replica.pubkey = some pk
  mirrors : p.Joined → ∃ m n, Mirrors L (p.log did) p.primed p.replica m n
  link : p.replica.point = .draining → ∀ sig, p.replica.prevSig = some sig →
    ((p.log did).take p.replica.sinceSeq.toNat).getLast?.bind FederatedEvent.sig = some sig

variable {L pk did} {E : EvidenceLibs}

theorem InStep.seedLog {p : Pair σ} (h : InStep L pk did p) : SeedLog L pk (p.log did) :=
  seedLog_of_chain h.chain did fun row hrow => (h.formed row hrow).1

omit [NodeRepository σ] in
theorem length_log (did : String) (p : Pair σ) : (p.log did).length = p.seed.events.length := List.length_map _

/-- **A page that is answered**: the next hundred events are taken as a whole,
and a page of less ends the drain and makes the replica ready. -/
theorem pageStep_answer {p : Pair σ} (h : InStep L pk did p)
    (hpers : ∀ (repo : σ) ev, persists repo ev = true) (hp : p.replica.point = .draining) {m n : ℕ}
    (hm : Mirrors L (p.log did) p.primed p.replica m n) (cfg : ReplicaConfig) (d : Option Json) :
    (∀ r ∈ deliveries L p.replica (((p.log did).drop n).take 100), (r.outcome L).accepted = true)
      ∧ (fetchEvents (some (events did p.seed.eventsSince (some p.replica.sinceSeq) none))
          p.replica.sinceSeq).rows = ((p.log did).drop n).take 100
      ∧ ∃ prevSig,
          (∀ sig, prevSig = some sig →
            ((p.log did).take (n + (((p.log did).drop n).take 100).length)).getLast?.bind
              FederatedEvent.sig = some sig)
          ∧ pageStep L cfg p.replica (fetchEvents (some (events did p.seed.eventsSince
                (some p.replica.sinceSeq) none)) p.replica.sinceSeq) d
            = { p.replica with
                repo := replay L p.replica.repo (((p.log did).drop n).take 100)
                sinceSeq := ((n + (((p.log did).drop n).take 100).length : ℕ) : ℤ)
                prevSig := prevSig
                ready := (((p.log did).drop n).take 100).length != 100 || p.replica.ready
                point := if (((p.log did).drop n).take 100).length = 100 then .draining
                  else .idle } := by
  have hrows : ((p.seed.events.drop n).take 100).map (federatedEvent did)
      = ((p.log did).drop n).take 100 := by
    rw [log, ← List.map_drop, ← List.map_take]
  have hlen : ((p.seed.events.drop n).take 100).length = (((p.log did).drop n).take 100).length := by
    rw [← hrows, List.length_map]
  have hwithin : n ≤ p.seed.events.length := length_log did p ▸ hm.within
  obtain ⟨next, hfetch⟩ := fetchEvents_next did h.chain.numbered h.short
    (fun row hrow => (h.formed row hrow).2) rfl hwithin
  have hlast := seq_getLast_stretch did h.chain.numbered n 100
  rw [hrows, hlen] at hfetch hlast
  set stretch := ((p.log did).drop n).take 100 with hstretch
  -- the log around the stretch
  have hsplit : p.log did = (p.log did).take n ++ stretch ++ ((p.log did).drop n).drop 100 := by
    rw [List.append_assoc, hstretch, List.take_append_drop, List.take_append_drop]
  have hfresh : ∀ ev ∈ stretch, p.replica.sinceSeq < ev.seq := by
    intro ev hev
    rw [← hrows] at hev
    obtain ⟨row, hrow, rfl⟩ := List.mem_map.mp hev
    have hdrop := List.mem_of_mem_take hrow
    rw [← filter_seq_eq_drop h.chain.numbered n] at hdrop
    rw [hm.cursor]
    exact of_decide_eq_true (List.mem_filter.mp hdrop).2
  have hlink : ∀ sig, p.replica.prevSig = some sig →
      ((p.log did).take n).getLast?.bind FederatedEvent.sig = some sig := by
    intro sig hsig
    have := h.link hp sig hsig
    rwa [hm.cursor, Int.toNat_natCast] at this
  obtain ⟨happlied, haccepted⟩ := applyRows_of_next (hsplit ▸ h.seedLog)
    (fun repo ev _ => hpers repo ev) (h.key (by rw [hp]; decide)) hfresh hlink
  have hfetched : fetchEvents (some (events did p.seed.eventsSince (some p.replica.sinceSeq) none))
      p.replica.sinceSeq = .events stretch next (stretch.length == 100) := by
    rw [hm.cursor]
    exact hfetch
  rw [hfetched]
  refine ⟨haccepted, rfl, (stretch.getLast?.map FederatedEvent.sig).getD p.replica.prevSig, ?_, ?_⟩
  · -- the link is the signature of the last of the stretch, or as it was
    intro sig hsig
    have htake : (p.log did).take (n + stretch.length) = (p.log did).take n ++ stretch := by
      rw [List.take_add]
      congr 1
      rw [hstretch, List.length_take, List.take_eq_take_iff]
      omega
    rw [htake]
    cases hend : stretch.getLast? with
    | none =>
      rw [hend] at hsig
      rw [List.getLast?_eq_none_iff.mp hend, List.append_nil]
      exact hlink sig hsig
    | some last =>
      rw [hend] at hsig
      rw [List.getLast?_append, hend]
      exact hsig
  · have hcursor : (stretch.getLast?.map FederatedEvent.seq).getD p.replica.sinceSeq
        = ((n + stretch.length : ℕ) : ℤ) := by
      rw [hm.cursor]
      exact hlast
    unfold pageStep
    simp only [happlied, hcursor]
    cases hempty : stretch with
    | nil => simp [replay, hm.cursor]
    | cons ev tail =>
      simp only [List.isEmpty_cons, Bool.false_eq_true, if_false]
      by_cases hfull : tail.length = 99
      · simp [hfull, hp]
      · simp [hfull]

/-! ### One step keeps it -/

/-- An event that is appended lies after the cursor. -/
theorem inStep_emitEvent (hL : E.toLibs.Lawful) {key : String} {seed : Bytes}
    (hkey : seedOf key = some seed) {st : DirectoryState} (hst : st.signingKey = some key)
    {p : Pair σ} (h : InStep E.toLibs (pubkeyHexOf E.toLibs seed) did p) {ev : NewEvent}
    {draw : Draw} (hemits : Emits p (.emitEvent ev draw)) :
    InStep E.toLibs (pubkeyHexOf E.toLibs seed) did
      { p with seed := emitEvent E st p.seed ev draw } := by
  obtain ⟨hformed, hts, hshort⟩ := hemits
  have happend : (emitEvent E st p.seed ev draw).events
      = p.seed.events ++ [rowAfter E.toLibs key (headOf p.seed.events) ev draw] := by
    unfold emitEvent
    rw [hst]
    rfl
  have hlog : ({ p with seed := emitEvent E st p.seed ev draw } : Pair σ).log did
      = p.log did ++ [federatedEvent did (rowAfter E.toLibs key (headOf p.seed.events) ev draw)] := by
    unfold log
    rw [happend, List.map_append]
    rfl
  refine ⟨?_, ?_, ?_, h.key, fun hjoined => ?_, fun hp sig hsig => ?_⟩
  · rw [happend]
    exact seedChain_append hL hkey h.chain ev draw
  · intro row hrow
    rw [happend] at hrow
    obtain hold | hnew := List.mem_append.mp hrow
    · exact h.formed row hold
    · obtain rfl := List.mem_singleton.mp hnew
      exact ⟨(malformed_congr rfl rfl rfl).trans hformed, hts⟩
  · rw [happend, List.length_append]
    exact hshort
  · obtain ⟨m, n, hm⟩ := h.mirrors hjoined
    rw [hlog]
    refine ⟨m, n, hm.snapshot, hm.cursor, hm.le, hm.within.trans (by simp), ?_⟩
    rw [List.take_append_of_le_length hm.within]
    exact hm.repo
  · obtain ⟨m, n, hm⟩ := h.mirrors (Or.inr hp)
    rw [hlog, List.take_append_of_le_length (by rw [hm.cursor]; exact hm.within)]
    exact h.link hp sig hsig

variable {st : DirectoryState} {cfg : ReplicaConfig} {key : String} {sk : Bytes}

/-- The replica resolves the key the seed signs with. -/
theorem Configured.resolves (hc : Configured E st cfg key sk) :
    resolveSeedPubkey E.toLibs cfg (some (DirectoryEvidence.didDocument E st))
      = some (pubkeyHexOf E.toLibs (sk.take 32)) := by
  obtain ⟨signingKey, directoryDid, endpoint⟩ := st
  obtain rfl : signingKey = some key := hc.signs
  have hid : (DirectoryEvidence.didDocument E ⟨some key, directoryDid, endpoint⟩).getStr "id"
      = some cfg.seedDid := congrArg some hc.expected.symm
  show seedPubkeyHexFromExpectedDid E.toLibs _ cfg.seedDid = _
  unfold seedPubkeyHexFromExpectedDid
  rw [if_pos hid]
  exact (publishedKey_of_decode hc.lawful hc.bytes hc.length _ _).trans
    (by rw [hc.halves sk hc.bytes]; rfl)

/-- A snapshot the seed serves is validated, with the number of its last row. -/
theorem validatedSnapshotSeq_snapshot (L : Libs) (records : List NodeRecord)
    {rows : List EventRow} (tsMs : ℤ) {seq : ℕ}
    (hseq : (rows.getLast?.map EventRow.seq).getD 0 = seq) (hshort : seq < 2 ^ 63) :
    validatedSnapshotSeq (snapshot L records rows tsMs) = some (seq : ℤ) := by
  have hschema : (snapshot L records rows tsMs).getStr "schema_version" = some "v0.3.0" := rfl
  have hget : (snapshot L records rows tsMs).get "snapshot_seq" = some (Json.ofInt (seq : ℤ)) :=
    congrArg (fun i => some (Json.ofInt i)) hseq
  have hnodes : (snapshot L records rows tsMs).get "nodes"
      = some (.array (records.map snapshotNodeJson)) := rfl
  have hcaps : (snapshot L records rows tsMs).get "capabilities"
      = some (.array (records.flatMap snapshotCapabilityJson)) := rfl
  have hint : (Json.ofInt (seq : ℤ)).asI64 = some (seq : ℤ) := Json.asI64_ofInt (by omega)
  have hpos : ¬ ((seq : ℤ) < 0) := by omega
  unfold validatedSnapshotSeq
  rw [hschema, hget, hnodes, hcaps]
  simp [hint, hpos, Json.isArray, String.isEmpty]

/-- **The replica has caught up**: it is ready, with its cursor at the end of the
log. -/
structure CaughtUp (p : Pair σ) : Prop where
  joined : p.Joined
  ready : p.replica.ready = true
  cursor : p.replica.sinceSeq = p.seed.events.length

/-- How many answers are enough to catch up, less one. -/
def far (p : Pair σ) : ℕ :=
  match p.replica.point with
  | .verifyingSeed => 3 + p.seed.events.length / 100
  | .bootstrapping => 2 + p.seed.events.length / 100
  | .idle => 1 + (p.seed.events.length - p.replica.sinceSeq.toNat) / 100
  | .draining => (p.seed.events.length - p.replica.sinceSeq.toNat) / 100

/-- What a step does that keeps the invariant and comes nearer to the end of the
log: at most once it stands still, when it is there. -/
structure Nears (L : Libs) (pk did : String) (p p' : Pair σ) : Prop where
  inStep : InStep L pk did p'
  stays : CaughtUp p → CaughtUp p'
  nearer : CaughtUp p' ∨ far p' < far p

/-- The document gives the key, and the replica goes on to join. -/
theorem nears_verifyingSeed (hc : Configured E st cfg key sk) {p : Pair σ}
    (h : InStep E.toLibs (pubkeyHexOf E.toLibs (sk.take 32)) st.directoryDid p)
    (hp : p.replica.point = .verifyingSeed) (records : List NodeRecord) (tsMs : ℤ) :
    Nears E.toLibs (pubkeyHexOf E.toLibs (sk.take 32)) st.directoryDid p
      (p.receive E cfg (seedReply E st p records tsMs)) := by
  have hreplica : (p.receive E cfg (seedReply E st p records tsMs)).replica
      = { p.replica with
          pubkey := some (pubkeyHexOf E.toLibs (sk.take 32))
          point := .bootstrapping } := by
    simp [receive, Replica.step, hp, seedReply, hc.resolves]
  have hpoint : (p.receive E cfg (seedReply E st p records tsMs)).replica.point
      = .bootstrapping := by
    rw [hreplica]
  refine ⟨⟨h.chain, h.formed, h.short, fun _ => by rw [hreplica], fun hj => ?_, fun hd => ?_⟩,
    fun hcaught => ?_, Or.inr ?_⟩
  · rw [Joined, hpoint] at hj
    exact absurd hj (by simp)
  · rw [hpoint] at hd
    exact absurd hd (by simp)
  · have hj := hcaught.joined
    rw [Joined, hp] at hj
    exact absurd hj (by simp)
  · unfold far
    rw [hpoint, hp]
    show 2 + p.seed.events.length / 100 < 3 + p.seed.events.length / 100
    omega

/-- The snapshot is applied, and the replica mirrors the log up to its last row
– the millionth, at most. -/
theorem nears_bootstrapping {p : Pair σ} {pk : String} (h : InStep E.toLibs pk st.directoryDid p)
    (hp : p.replica.point = .bootstrapping) (records : List NodeRecord) (tsMs : ℤ) :
    Nears E.toLibs pk st.directoryDid p (p.receive E cfg (seedReply E st p records tsMs)) := by
  have hrows : p.seed.eventsSince 0 1000000
      = p.seed.events.take (min 1000000 p.seed.events.length) := by
    have hall : p.seed.events.filter (fun r => (0 : ℤ) < r.seq) = p.seed.events :=
      filter_seq_eq_drop h.chain.numbered 0
    unfold InMemoryRepo.eventsSince
    rw [hall, ← List.take_eq_take_min]
  have hseq : ((p.seed.eventsSince 0 1000000).getLast?.map EventRow.seq).getD 0
      = (min 1000000 p.seed.events.length : ℕ) := by
    rw [hrows]
    exact seq_getLast_take h.chain.numbered (min_le_right _ _)
  have hvalid := validatedSnapshotSeq_snapshot E.toLibs records tsMs hseq
    (lt_of_le_of_lt (min_le_right _ _) h.short)
  set n := min 1000000 p.seed.events.length with hn
  have hreplica : (p.receive E cfg (seedReply E st p records tsMs)).replica
      = { p.replica with
          repo := (p.receive E cfg (seedReply E st p records tsMs)).primed
          sinceSeq := (n : ℤ)
          snapshotSeq := (n : ℤ)
          point := .idle } := by
    simp [receive, Replica.step, bootstrapStep, hp, seedReply, hvalid]
  have hkey := h.key (by rw [hp]; decide)
  refine ⟨⟨h.chain, h.formed, h.short, fun _ => by rw [hreplica]; exact hkey, fun _ => ?_,
    fun hd => ?_⟩, fun hcaught => ?_, Or.inr ?_⟩
  · rw [hreplica]
    refine ⟨n, n, rfl, rfl, le_refl n, ?_, ?_⟩
    · rw [length_log]
      exact min_le_right _ _
    · rw [List.drop_eq_nil_of_le (by rw [List.length_take]; exact min_le_left _ _)]
      rfl
  · rw [hreplica] at hd
    exact absurd hd (by simp)
  · have hj := hcaught.joined
    rw [Joined, hp] at hj
    exact absurd hj (by simp)
  · have hle : (p.seed.events.length - n) / 100 ≤ p.seed.events.length / 100 :=
      Nat.div_le_div_right (Nat.sub_le _ _)
    unfold far
    rw [hreplica, hp]
    show 1 + (p.seed.events.length - (n : ℤ).toNat) / 100 < 2 + p.seed.events.length / 100
    rw [Int.toNat_natCast]
    omega

/-- With its key, a tick starts a drain, whatever it is answered. -/
theorem nears_idle {p : Pair σ} {pk : String} (h : InStep E.toLibs pk did p)
    (hp : p.replica.point = .idle) (r : Reply) :
    Nears E.toLibs pk did p (p.receive E cfg r) := by
  have hkey := h.key (by rw [hp]; decide)
  have hreplica : (p.receive E cfg r).replica
      = { p.replica with prevSig := none, point := .draining } := by
    unfold receive Replica.step
    simp only [hp]
    exact tickStep_of_key cfg hkey r.did
  have hprimed : (p.receive E cfg r).primed = p.primed := by simp [receive, hp]
  refine ⟨⟨h.chain, h.formed, h.short, fun _ => by rw [hreplica]; exact hkey, fun _ => ?_,
    fun _ sig hsig => ?_⟩, fun hcaught => ?_, Or.inr ?_⟩
  · obtain ⟨m, n, hm⟩ := h.mirrors (Or.inl hp)
    rw [hprimed, hreplica]
    exact ⟨m, n, hm.snapshot, hm.cursor, hm.le, hm.within, hm.repo⟩
  · rw [hreplica] at hsig
    exact absurd hsig (by simp)
  · refine ⟨Or.inr (by rw [hreplica]), ?_, ?_⟩
    · rw [hreplica]
      exact hcaught.ready
    · rw [hreplica]
      exact hcaught.cursor
  · unfold far
    rw [hreplica, hp]
    show (p.seed.events.length - p.replica.sinceSeq.toNat) / 100
      < 1 + (p.seed.events.length - p.replica.sinceSeq.toNat) / 100
    omega

/-- The replica gets the next page of the log. -/
theorem nears_draining (hpers : ∀ (repo : σ) ev, persists repo ev = true) {p : Pair σ} {pk : String}
    (h : InStep E.toLibs pk st.directoryDid p) (hp : p.replica.point = .draining)
    (records : List NodeRecord) (tsMs : ℤ) :
    Nears E.toLibs pk st.directoryDid p (p.receive E cfg (seedReply E st p records tsMs)) := by
  obtain ⟨m, n, hm⟩ := h.mirrors (Or.inr hp)
  obtain ⟨_, _, prevSig, hlink, hpage⟩ := pageStep_answer h hpers hp hm cfg
    (some (DirectoryEvidence.didDocument E st))
  have hkey := h.key (by rw [hp]; decide)
  have hstep : (p.receive E cfg (seedReply E st p records tsMs)).replica
      = pageStep E.toLibs cfg p.replica (fetchEvents (some (events st.directoryDid
          p.seed.eventsSince (some p.replica.sinceSeq) none)) p.replica.sinceSeq)
          (some (DirectoryEvidence.didDocument E st)) := by
    simp [receive, Replica.step, hp, seedReply]
  have hprimed : (p.receive E cfg (seedReply E st p records tsMs)).primed = p.primed := by
    simp [receive, hp]
  have hlen : (((p.log st.directoryDid).drop n).take 100).length
      = min 100 (p.seed.events.length - n) := by
    rw [List.length_take, List.length_drop, length_log]
  have hwithin : n ≤ p.seed.events.length := length_log st.directoryDid p ▸ hm.within
  rw [hpage] at hstep
  set stretch := ((p.log st.directoryDid).drop n).take 100 with hstretch
  have htake : (p.log st.directoryDid).take (n + stretch.length)
      = (p.log st.directoryDid).take n ++ stretch := by
    rw [List.take_add]
    congr 1
    rw [hstretch, List.length_take, List.take_eq_take_iff]
    omega
  have hpoint : (p.receive E cfg (seedReply E st p records tsMs)).replica.point
      = if stretch.length = 100 then .draining else .idle := by
    rw [hstep]
  refine ⟨⟨h.chain, h.formed, h.short, fun _ => by rw [hstep]; exact hkey, fun _ => ?_,
    fun _ sig hsig => ?_⟩, fun hcaught => ?_, ?_⟩
  · rw [hprimed, hstep]
    refine ⟨m, n + stretch.length, hm.snapshot, rfl, hm.le.trans (Nat.le_add_right _ _), ?_, ?_⟩
    · rw [length_log]
      show n + stretch.length ≤ p.seed.events.length
      omega
    · show replay E.toLibs p.replica.repo stretch
        = replay E.toLibs p.primed (((p.log st.directoryDid).take (n + stretch.length)).drop m)
      rw [htake, List.drop_append_of_le_length
        (by rw [List.length_take]; have := hm.le; have := hm.within; omega),
        replay_append, ← hm.repo]
  · rw [hstep] at hsig ⊢
    show ((p.log st.directoryDid).take (n + stretch.length : ℕ)).getLast?.bind _ = _
    exact hlink sig hsig
  · -- at the end of the log there is nothing to take
    have hend : n = p.seed.events.length := by
      have := hm.cursor.symm.trans hcaught.cursor
      omega
    have hnone : stretch.length = 0 := by omega
    refine ⟨Or.inl (by rw [hpoint, hnone]; rfl), ?_, ?_⟩
    · rw [hstep]
      simp [hnone]
    · rw [hstep]
      show ((n + stretch.length : ℕ) : ℤ) = (p.seed.events.length : ℕ)
      omega
  · by_cases hfull : stretch.length = 100
    · -- a full page: the cursor has come a hundred nearer
      refine Or.inr ?_
      unfold far
      rw [hpoint, if_pos hfull, hp, hstep, hm.cursor]
      show (p.seed.events.length - ((n + stretch.length : ℕ) : ℤ).toNat) / 100
        < (p.seed.events.length - (n : ℤ).toNat) / 100
      rw [Int.toNat_natCast, Int.toNat_natCast]
      omega
    · refine Or.inl ⟨Or.inl (by rw [hpoint, if_neg hfull]), ?_, ?_⟩
      · rw [hstep]
        simp [hfull]
      · rw [hstep]
        show ((n + stretch.length : ℕ) : ℤ) = (p.seed.events.length : ℕ)
        omega

/-- **Every answer keeps the invariant and brings the replica nearer.** -/
theorem nears_answer (hc : Configured E st cfg key sk)
    (hpers : ∀ (repo : σ) ev, persists repo ev = true) {p : Pair σ}
    (h : InStep E.toLibs (pubkeyHexOf E.toLibs (sk.take 32)) st.directoryDid p)
    (records : List NodeRecord) (tsMs : ℤ) :
    Nears E.toLibs (pubkeyHexOf E.toLibs (sk.take 32)) st.directoryDid p
      (step E st cfg p (.answer records tsMs)) := by
  cases hp : p.replica.point with
  | verifyingSeed => exact nears_verifyingSeed hc h hp records tsMs
  | bootstrapping => exact nears_bootstrapping h hp records tsMs
  | idle => exact nears_idle h hp _
  | draining => exact nears_draining hpers h hp records tsMs

/-- A request that is lost leaves the invariant. -/
theorem inStep_lose (hrequired : cfg.verificationRequired = true) {p : Pair σ} {pk : String}
    (h : InStep E.toLibs pk did p) :
    InStep E.toLibs pk did (step E st cfg p .lose) := by
  cases hp : p.replica.point with
  | verifyingSeed =>
    have hpoint : (step E st cfg p .lose).replica.point = .verifyingSeed := by
      simp [step, receive, Replica.step, hp, resolveSeedPubkey, hrequired]
    refine ⟨h.chain, h.formed, h.short, fun hne => absurd hpoint hne, fun hj => ?_, fun hd => ?_⟩
    · rw [Joined, hpoint] at hj
      exact absurd hj (by simp)
    · rw [hpoint] at hd
      exact absurd hd (by simp)
  | bootstrapping =>
    have hreplica : (step E st cfg p .lose).replica = p.replica := by
      simp [step, receive, Replica.step, bootstrapStep, hp]
    refine ⟨h.chain, h.formed, h.short, fun hne => ?_, fun hj => ?_, fun hd => ?_⟩
    · rw [hreplica] at hne ⊢
      exact h.key hne
    · rw [Joined, hreplica, hp] at hj
      exact absurd hj (by simp)
    · rw [hreplica, hp] at hd
      exact absurd hd (by simp)
  | idle => exact (nears_idle h hp _).inStep
  | draining =>
    have hreplica : (step E st cfg p .lose).replica = { p.replica with point := .idle } := by
      simp [step, receive, Replica.step, pageStep, fetchEvents, hp]
    have hprimed : (step E st cfg p .lose).primed = p.primed := by simp [step, receive, hp]
    refine ⟨h.chain, h.formed, h.short, fun _ => ?_, fun _ => ?_, fun hd => ?_⟩
    · rw [hreplica]
      exact h.key (by rw [hp]; decide)
    · obtain ⟨m, n, hm⟩ := h.mirrors (Or.inr hp)
      rw [hprimed, hreplica]
      exact ⟨m, n, hm.snapshot, hm.cursor, hm.le, hm.within, hm.repo⟩
    · rw [hreplica] at hd
      exact absurd hd (by simp)

/-- **Every run of the two keeps the invariant.** -/
theorem inStep_after (hc : Configured E st cfg key sk)
    (hpers : ∀ (repo : σ) ev, persists repo ev = true) (repo : σ) {actions : List PairAction}
    (hrun : Run.Along (step E st cfg) Emits (start repo) actions) :
    InStep E.toLibs (pubkeyHexOf E.toLibs (sk.take 32)) st.directoryDid
      (Run.after (step E st cfg) (start repo) actions) := by
  have hseed := seedOf_of_decode hc.bytes hc.length
  have hstep : ∀ (p : Pair σ) a,
      InStep E.toLibs (pubkeyHexOf E.toLibs (sk.take 32)) st.directoryDid p → Emits p a →
      InStep E.toLibs (pubkeyHexOf E.toLibs (sk.take 32)) st.directoryDid (step E st cfg p a) := by
    intro p a h hemits
    cases a with
    | emitEvent ev draw => exact inStep_emitEvent hc.lawful.toLawful hseed hc.signs h hemits
    | answer records tsMs => exact (nears_answer hc hpers h records tsMs).inStep
    | lose => exact inStep_lose hc.required h
  refine Run.invariant_along hstep ⟨seedChain_nil _, fun row hrow => absurd hrow List.not_mem_nil,
    by show 0 < _; decide, fun hne => absurd rfl hne, fun hj => ?_, fun hd => ?_⟩ hrun
  · rcases hj with hj | hj <;> exact absurd hj (by simp [start, SyncState.start])
  · exact absurd hd (by simp [start, SyncState.start])

/-! ### Alone with its replica -/

/-- Answers leave the seed alone. -/
theorem seed_answers (E : EvidenceLibs) (st : DirectoryState) (cfg : ReplicaConfig)
    {answers : List PairAction} (h : ∀ a ∈ answers, ∃ records tsMs, a = .answer records tsMs)
    (p : Pair σ) :
    (Run.after (step E st cfg) p answers).seed = p.seed := by
  induction answers generalizing p with
  | nil => rfl
  | cons a rest ih =>
    obtain ⟨records, tsMs, rfl⟩ := h a List.mem_cons_self
    rw [Run.after_cons, ih (fun b hb => h b (List.mem_cons_of_mem _ hb))]
    rfl

/-- Answers extend a run. -/
theorem emits_answers {p : Pair σ} {actions answers : List PairAction}
    (hrun : Run.Along (step E st cfg) Emits p actions)
    (hanswers : ∀ a ∈ answers, ∃ records tsMs, a = .answer records tsMs) :
    Run.Along (step E st cfg) Emits p (actions ++ answers) := by
  rw [Run.along_append]
  refine ⟨hrun, Run.along_of_forall _ (fun a ha p => ?_) _⟩
  obtain ⟨records, tsMs, rfl⟩ := hanswers a ha
  trivial

/-- So many answers are enough. -/
theorem caughtUp_answers (hc : Configured E st cfg key sk)
    (hpers : ∀ (repo : σ) ev, persists repo ev = true) {p : Pair σ}
    (h : InStep E.toLibs (pubkeyHexOf E.toLibs (sk.take 32)) st.directoryDid p)
    {answers : List PairAction} (hanswers : ∀ a ∈ answers, ∃ records tsMs, a = .answer records tsMs)
    (hlen : 4 + p.seed.events.length / 100 ≤ answers.length) :
    CaughtUp (Run.after (step E st cfg) p answers) := by
  have hfar : far p < answers.length := by
    have hle : (p.seed.events.length - p.replica.sinceSeq.toNat) / 100
        ≤ p.seed.events.length / 100 := Nat.div_le_div_right (Nat.sub_le _ _)
    unfold far
    split <;> omega
  have hnears : ∀ (p : Pair σ) a, (∃ records tsMs, a = PairAction.answer records tsMs) →
      InStep E.toLibs (pubkeyHexOf E.toLibs (sk.take 32)) st.directoryDid p →
      Nears E.toLibs (pubkeyHexOf E.toLibs (sk.take 32)) st.directoryDid p
        (step E st cfg p a) := by
    rintro p _ ⟨records, tsMs, rfl⟩ hp
    exact nears_answer hc hpers hp records tsMs
  exact Run.settles far (fun p a ha hp => (hnears p a ha hp).inStep)
    (fun p a ha hp => (hnears p a ha hp).stays) (fun p a ha hp => (hnears p a ha hp).nearer)
    h hanswers (Or.inr hfar)

end Invariant

end Pair

section Laws

variable {σ : Type} [NodeRepository σ]

end Laws

end Replica

namespace Sample

open Replica

/-- The seed of the samples. -/
def site : DirectoryState := ⟨some secretKeyHex, directoryDid, "https://seed.test/v1"⟩

theorem site_configured : Pair.Configured evidenceLibs site config secretKeyHex
    (List.replicate 32 17 ++ publicKeyFor (List.replicate 32 17)) where
  lawful := evidenceLibs_lawful
  signs := rfl
  bytes := decode_secretKeyHex
  length := rfl
  halves := by
    intro sk hsk
    obtain rfl := Option.some.inj (decode_secretKeyHex.symm.trans hsk)
    rfl
  expected := rfl
  required := rfl

/-- The replica joins, a node registers at the seed, and a request is lost. -/
def joinThenEmit : List PairAction :=
  [.answer [] 0, .answer [] 0,
   .emitEvent ⟨"REGISTER", "n1", .object [("endpoint", .string "https://n1.test")]⟩ ⟨"evt-1", 1⟩,
   .lose]

theorem joinThenEmit_emits : Run.Along (Pair.step evidenceLibs site config) Pair.Emits
    (Pair.start InMemoryRepo.empty) joinThenEmit :=
  ⟨trivial, trivial, ⟨by decide, by decide, by simp [Pair.step, Pair.receive, Pair.start,
    InMemoryRepo.empty]⟩, trivial, trivial⟩

end Sample

namespace Replica

open Sample

/-- Then the seed answers four times. -/
theorem isAnswer_of_mem : ∀ a ∈ List.replicate 4 (PairAction.answer [] 0),
    ∃ records tsMs, a = .answer records tsMs :=
  fun _ ha => ⟨[], 0, List.eq_of_mem_replicate ha⟩

end Replica
