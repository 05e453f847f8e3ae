import IicpDirectory.Replica.Sync

/-!
# The key in force

A replica that insists on verification holds its seed's key in a variable
that three places write: the wait for the seed at the start, a tick that
finds it empty, and the refresh after a refused signature, which may leave
it empty in the middle of a drain. It is passed to `verify_and_apply`
wherever that is called, empty or not, and an empty key turns every check
off.

A `Watched` run keeps two things the loop does not: the DID document it
fetched last, and everything that touched the repository – a row handed to
`verify_and_apply`, or a snapshot. `InForce` is the invariant. The key is
at any time what that document gives; while a drain goes on it is there,
for the refresh ends the drain; and the touches account for the repository
from the start of the run to its end (`Threads`), so there is no other way
into it.
-/

namespace Replica

open Federation

/-! ## A run that is watched -/

/-- A call of `verify_and_apply`: the row with the state it met, and the
document the loop had fetched last. -/
structure Call (σ : Type) where
  delivery : Delivery σ
  document : Option Json

/-- What touches the repository: a row of the log, or a snapshot. -/
inductive Touch (σ : Type)
  | call (c : Call σ)
  | snapshot (before after : σ)

/-- The state of the loop, the DID document it fetched last, and what
touched the repository so far. -/
structure Watched (σ : Type) where
  state : SyncState σ
  document : Option Json
  touches : List (Touch σ)

section Custody

variable (L : Libs) {σ : Type} [NodeRepository σ] (cfg : ReplicaConfig)

/-- The repository a row leaves. -/
def Delivery.after (d : Delivery σ) : σ := (applyRow L d.before d.event).2.repo

namespace Touch

/-- The repository a touch meets. -/
def before : Touch σ → σ
  | .call c => c.delivery.before.repo
  | .snapshot before _ => before

/-- The repository it leaves. -/
def after : Touch σ → σ
  | .call c => c.delivery.after L
  | .snapshot _ after => after

end Touch

/-- **The touches account for the repository**: each meets what the one
before it left. -/
def Threads : σ → List (Touch σ) → σ → Prop
  | repo, [], final => repo = final
  | repo, t :: rest, final => t.before = repo ∧ Threads (t.after L) rest final

/-- Whether the loop fetches the DID document of the seed in a step: to
start with, at a tick without the key it needs, and after a refused
signature. -/
def fetchesDid (s : SyncState σ) (r : Reply) : Bool :=
  match s.point with
  | .verifyingSeed => true
  | .bootstrapping => false
  | .idle => cfg.verificationRequired && s.pubkey.isNone
  | .draining => (applyRows L s (fetchEvents r.body s.sinceSeq).rows).1

/-- What touches the repository in a step. -/
def stepTouches (s : SyncState σ) (document : Option Json) (r : Reply) : List (Touch σ) :=
  match s.point with
  | .verifyingSeed => []
  | .bootstrapping =>
    if (r.body.bind validatedSnapshotSeq).isSome then
      [.snapshot s.repo (bootstrapStep s r.body).repo]
    else []
  | .idle => []
  | .draining =>
    (deliveries L s (fetchEvents r.body s.sinceSeq).rows).map (fun d => .call ⟨d, document⟩)

/-- The start of a run. -/
def Watched.start (repo : σ) : Watched σ := ⟨SyncState.start repo, none, []⟩

/-- A step that is watched. -/
def Watched.step (w : Watched σ) (r : Reply) : Watched σ where
  state := Replica.step L cfg w.state r
  document := if fetchesDid L cfg w.state r then r.did else w.document
  touches := w.touches ++ stepTouches L w.state w.document r

/-- **A call under the seed's key**: the document fetched last is the
configured seed's, the key passed is the one it gives, and a row that
changes the repository is signed under it. -/
def Call.UnderKey (c : Call σ) : Prop :=
  ∃ document pk, c.document = some document ∧ document.getStr "id" = some cfg.seedDid
    ∧ seedPubkeyHexFromDid L document = some pk ∧ c.delivery.before.pubkey = some pk
    ∧ (c.delivery.after L ≠ c.delivery.before.repo → SignedUnder L pk c.delivery.event)

/-- **The key in force**, and what it has let through. -/
structure InForce (repo : σ) (w : Watched σ) : Prop where
  key : w.state.pubkey = resolveSeedPubkey L cfg w.document
  draining : w.state.point = .draining → w.state.pubkey.isSome = true
  threads : Threads L repo w.touches w.state.repo
  calls : ∀ c, Touch.call c ∈ w.touches → c.UnderKey L cfg

variable {L cfg}

/-! ## The touches of a step -/

theorem threads_append {repo middle final : σ} {a b : List (Touch σ)}
    (ha : Threads L repo a middle) (hb : Threads L middle b final) :
    Threads L repo (a ++ b) final := by
  induction a generalizing repo with
  | nil =>
    obtain rfl : repo = middle := ha
    exact hb
  | cons t rest ih => exact ⟨ha.1, ih ha.2⟩

/-- The rows of a page account for the repository it leaves, whichever
document is on record. -/
theorem threads_deliveries (s : SyncState σ) (rows : List FederatedEvent)
    (document : Option Json) :
    Threads L s.repo ((deliveries L s rows).map (fun d => Touch.call ⟨d, document⟩))
      (applyRows L s rows).2.repo := by
  induction rows generalizing s with
  | nil => rfl
  | cons ev rest ih =>
    unfold deliveries applyRows
    split
    · exact ⟨rfl, rfl⟩
    · exact ⟨rfl, ih (applyRow L s ev).2⟩

/-- A page is worked off under one key. -/
theorem pubkey_of_mem_deliveries {s : SyncState σ} {rows : List FederatedEvent} {d : Delivery σ}
    (hd : d ∈ deliveries L s rows) : d.before.pubkey = s.pubkey := by
  induction rows generalizing s with
  | nil => exact absurd hd List.not_mem_nil
  | cons ev rest ih =>
    unfold deliveries at hd
    rcases List.mem_cons.mp hd with rfl | hrest
    · rfl
    · split at hrest
      · exact absurd hrest List.not_mem_nil
      · exact (ih hrest).trans (frame_applyRow s ev).1

theorem pubkey_applyRows (s : SyncState σ) (rows : List FederatedEvent) :
    (applyRows L s rows).2.pubkey = s.pubkey := by
  induction rows generalizing s with
  | nil => rfl
  | cons ev rest ih =>
    unfold applyRows
    split
    · rfl
    · exact ih (applyRow L s ev).2

/-- A row that changes the repository was taken. -/
theorem Delivery.taken_of_changed {d : Delivery σ} (h : d.after L ≠ d.before.repo) :
    d.Taken L := by
  rw [Delivery.taken_iff]
  cases href : refusalAt L d.before d.event with
  | some reason =>
    refine absurd ?_ h
    unfold Delivery.after
    rw [applyRow_of_refusal href]
  | none =>
    refine ⟨rfl, not_le.mp fun hl => h ?_⟩
    unfold Delivery.after
    rw [applyRow_of_replayed href hl]

/-- **What was taken under a key was signed under it.** -/
theorem Delivery.Taken.signed {d : Delivery σ} (h : d.Taken L) {pk : String}
    (hkey : d.before.pubkey = some pk) : SignedUnder L pk d.event := by
  have hnone := (Delivery.taken_iff.mp h).1
  rw [refusalAt, refusal] at hnone
  split at hnone
  · exact absurd hnone (by simp)
  · rw [if_neg (not_le.mpr h.2), Option.or_eq_none_iff, hkey,
      verificationRefusal_eq_none_iff] at hnone
    exact hnone.1.1

/-- A row that meets the key of the seed's document is a call under it. -/
theorem underKey_of_key {d : Delivery σ} {document : Option Json}
    (hkey : d.before.pubkey = resolveSeedPubkey L cfg document)
    (hsome : d.before.pubkey.isSome = true) : (Call.mk d document).UnderKey L cfg := by
  obtain ⟨pk, hpk⟩ := Option.isSome_iff_exists.mp hsome
  obtain ⟨doc, hdoc, hresolve⟩ := Option.bind_eq_some_iff.mp (hkey.symm.trans hpk)
  unfold seedPubkeyHexFromExpectedDid at hresolve
  split at hresolve
  · rename_i hid
    exact ⟨doc, pk, hdoc, hid, hresolve, hpk, fun hch => (Delivery.taken_of_changed hch).signed hpk⟩
  · exact absurd hresolve (by simp)

/-! ## A page of the drain -/

/-- The repository after a page is that of its rows. -/
theorem repo_pageStep (s : SyncState σ) (page : EventPage) (did : Option Json) :
    (pageStep L cfg s page did).repo = (applyRows L s page.rows).2.repo := by
  cases page with
  | snapshotRequired => rfl
  | failed => rfl
  | events rows next hasMore =>
    unfold pageStep EventPage.rows
    by_cases hempty : rows.isEmpty
    · obtain rfl := List.isEmpty_iff.mp hempty
      rfl
    · simp only [hempty, Bool.false_eq_true, if_false]
      cases (applyRows L s rows).1 <;> cases hasMore <;> rfl

/-- A page writes the key only after a refused signature, with what the
document fetched then gives. -/
theorem pubkey_pageStep (s : SyncState σ) (page : EventPage) (did : Option Json) :
    (pageStep L cfg s page did).pubkey
      = if (applyRows L s page.rows).1 then resolveSeedPubkey L cfg did else s.pubkey := by
  cases page with
  | snapshotRequired => rfl
  | failed => rfl
  | events rows next hasMore =>
    unfold pageStep EventPage.rows
    by_cases hempty : rows.isEmpty
    · obtain rfl := List.isEmpty_iff.mp hempty
      rfl
    · simp only [hempty, Bool.false_eq_true, if_false]
      have hkeep := pubkey_applyRows (L := L) s rows
      cases (applyRows L s rows).1 <;> cases hasMore <;> simp [hkeep]

/-- **The refresh ends the drain**: a page that leaves it going on had no
signature refused. -/
theorem not_refused_of_draining {s : SyncState σ} {page : EventPage} {did : Option Json}
    (h : (pageStep L cfg s page did).point = .draining) : (applyRows L s page.rows).1 = false := by
  cases page with
  | snapshotRequired => exact absurd h (by simp [pageStep])
  | failed => exact absurd h (by simp [pageStep])
  | events rows next hasMore =>
    unfold pageStep at h
    by_cases hempty : rows.isEmpty
    · simp [hempty] at h
    · simp only [hempty, Bool.false_eq_true, if_false] at h
      unfold EventPage.rows
      cases hrefused : (applyRows L s rows).1 with
      | false => rfl
      | true => simp [hrefused] at h

/-! ## The invariant -/

/-- **A step keeps the key in force.** -/
theorem inForce_step (hreq : cfg.verificationRequired = true) {repo : σ} {w : Watched σ}
    (h : InForce L cfg repo w) (r : Reply) : InForce L cfg repo (Watched.step L cfg w r) := by
  obtain ⟨hkey, hdraining, hthreads, hcalls⟩ := h
  cases hp : w.state.point with
  | verifyingSeed =>
    refine ⟨by simp [Watched.step, step, fetchesDid, hp], fun hd => ?_, ?_, ?_⟩
    · simp only [Watched.step, step, hp] at hd
      split at hd <;> exact absurd hd (by simp)
    · simpa [Watched.step, step, stepTouches, hp] using hthreads
    · simpa [Watched.step, stepTouches, hp] using hcalls
  | bootstrapping =>
    simp only [Watched.step, step, fetchesDid, stepTouches, hp, Bool.false_eq_true, if_false]
    cases hbody : r.body.bind (fun b => (validatedSnapshotSeq b).map (fun seq => (seq, b))) with
    | none =>
      have hstay : bootstrapStep w.state r.body = w.state := by
        unfold bootstrapStep
        rw [hbody]
      have hnone : (r.body.bind validatedSnapshotSeq).isSome = false := by
        cases hb : r.body with
        | none => rfl
        | some b =>
          rw [hb, Option.bind_some, Option.map_eq_none_iff] at hbody
          simp [hbody]
      rw [hstay, hnone, if_neg Bool.false_ne_true, List.append_nil]
      exact ⟨hkey, hdraining, hthreads, hcalls⟩
    | some found =>
      have hboot : bootstrapStep w.state r.body
          = { w.state with
              repo := (applySnapshot w.state.repo found.2).2
              sinceSeq := found.1
              snapshotSeq := found.1
              point := .idle } := by
        unfold bootstrapStep
        rw [hbody]
      have hsome : (r.body.bind validatedSnapshotSeq).isSome = true := by
        obtain ⟨b, hb, hmap⟩ := Option.bind_eq_some_iff.mp hbody
        obtain ⟨seq, hseq, _⟩ := Option.map_eq_some_iff.mp hmap
        rw [hb, Option.bind_some, hseq]
        rfl
      rw [hsome, if_pos rfl]
      refine ⟨by rw [hboot]; exact hkey, fun hd => ?_, threads_append hthreads ⟨rfl, rfl⟩, ?_⟩
      · rw [hboot] at hd
        exact absurd hd (by simp)
      · intro c hc
        rcases List.mem_append.mp hc with hold | hnew
        · exact hcalls c hold
        · exact absurd (List.mem_singleton.mp hnew) (by simp)
  | idle =>
    simp only [Watched.step, step, fetchesDid, stepTouches, hp, List.append_nil, hreq, Bool.true_and]
    unfold tickStep
    rw [hreq, Bool.true_and]
    cases hnone : w.state.pubkey.isNone with
    | true =>
      cases hdid : resolveSeedPubkey L cfg r.did with
      | none =>
        exact ⟨by simp [hdid], fun hd => by simp [hp] at hd, by simpa using hthreads, hcalls⟩
      | some pk =>
        exact ⟨by simp [hdid], fun _ => by simp, by simpa using hthreads, hcalls⟩
    | false =>
      have hsome : w.state.pubkey.isSome = true := by
        rw [← Bool.not_eq_true', Option.not_isNone] at hnone
        exact hnone
      exact ⟨by simpa using hkey, fun _ => by simpa using hsome, by simpa using hthreads, hcalls⟩
  | draining =>
    simp only [Watched.step, step, fetchesDid, stepTouches, hp]
    refine ⟨?_, fun hd => ?_, ?_, ?_⟩
    · rw [pubkey_pageStep]
      split
      · rfl
      · exact hkey
    · rw [pubkey_pageStep, not_refused_of_draining hd, if_neg Bool.false_ne_true]
      exact hdraining hp
    · refine threads_append hthreads ?_
      rw [repo_pageStep]
      exact threads_deliveries _ _ _
    · intro c hc
      rcases List.mem_append.mp hc with hold | hnew
      · exact hcalls c hold
      · obtain ⟨d, hd, hdc⟩ := List.mem_map.mp hnew
        obtain rfl : Call.mk d w.document = c := by simpa using hdc
        have hpub := pubkey_of_mem_deliveries hd
        exact underKey_of_key (hpub.trans hkey) (by rw [hpub]; exact hdraining hp)

/-- **Verification is never dropped**: over every run of a replica that
insists on it, whatever the network answers, the repository is accounted
for by snapshots and by rows of the log; every row was handed to
`verify_and_apply` with a key, which the document fetched last of the
configured seed gives, and every row that changed the repository was signed
under that key. -/
theorem verification_never_dropped (L : Libs) {cfg : ReplicaConfig}
    (hreq : cfg.verificationRequired = true) (repo : σ) (replies : List Reply) :
    (Run.after (Watched.step L cfg) (Watched.start repo) replies).state
        = Run.after (step L cfg) (SyncState.start repo) replies
      ∧ Threads L repo (Run.after (Watched.step L cfg) (Watched.start repo) replies).touches
          (Run.after (step L cfg) (SyncState.start repo) replies).repo
      ∧ ∀ c, Touch.call c ∈ (Run.after (Watched.step L cfg) (Watched.start repo) replies).touches →
          c.UnderKey L cfg := by
  have hstate : ∀ w : Watched σ, (Run.after (Watched.step L cfg) w replies).state
      = Run.after (step L cfg) w.state replies := by
    intro w
    induction replies generalizing w with
    | nil => rfl
    | cons r rest ih => exact ih (Watched.step L cfg w r)
  have hstart : InForce L cfg repo (Watched.start repo) :=
    ⟨rfl, fun h => absurd h (by simp [Watched.start, SyncState.start]), rfl,
      fun _ h => absurd h List.not_mem_nil⟩
  have hstep : ∀ (w : Watched σ) r, InForce L cfg repo w →
      InForce L cfg repo (Watched.step L cfg w r) := fun w r h => inForce_step hreq h r
  have hinv := Run.invariant hstep hstart replies
  have hfinal := hstate (Watched.start repo)
  exact ⟨hfinal, hfinal ▸ hinv.threads, hinv.calls⟩

end Custody

/-- The run of the sample that joins and takes the first event. -/
theorem verification_never_dropped_sample :
    Sample.config.verificationRequired = true
      ∧ ∀ c, Touch.call c ∈ (Run.after (Watched.step Sample.libs Sample.config)
          (Watched.start InMemoryRepo.empty) (Sample.joining ++ [Sample.page [Sample.row1]])).touches →
        c.UnderKey Sample.libs Sample.config :=
  ⟨rfl, (verification_never_dropped Sample.libs rfl InMemoryRepo.empty
    (Sample.joining ++ [Sample.page [Sample.row1]])).2.2⟩

end Replica
