import IicpDirectory.Replica.Drain

/-!
# Exactly-once replay

A seed's log is served in pages, over any number of ticks, and a page may
repeat rows the replica has seen. What the replica should end up with is
`replay`: each event after the cursor applied once, in the order of the
log.

A repeated row changes nothing but the link, and there the trouble lies:
the link is what the next fresh row is checked against, so a row repeated
between two fresh ones of the same drain makes the second look broken.
`replayed_of_delivered` is the law for the schedules that do not do that –
where the row accepted just before a fresh one, if there is one in the
drain, is its predecessor in the log – and `repeated_row_breaks_replay` a
schedule that does.
-/

namespace Replica

open Federation

section Spec

variable (L : Libs) {σ : Type} [NodeRepository σ]

/-- Each event applied once, in order. -/
def replay (repo : σ) (events : List FederatedEvent) : σ :=
  events.foldl (fun repo ev => (applyEvent L repo ev).2) repo

/-- The part of a log between two numbers, the second one included. -/
def between (log : List FederatedEvent) (low high : ℤ) : List FederatedEvent :=
  log.filter (fun ev => low < ev.seq && ev.seq ≤ high)

/-- **The log of an honest seed**: numbers increase, every event is signed
under the seed's key, carries the digest of its predecessor's signature, and
has what its applier needs. -/
structure SeedLog (pk : String) (log : List FederatedEvent) : Prop where
  increasing : log.Pairwise (fun a b => a.seq < b.seq)
  signed : ∀ ev ∈ log, SignedUnder L pk ev
  chained : ∀ before prev ev after, log = before ++ prev :: ev :: after →
    ev.link = prevHashFrom L prev.sig
  wellFormed : ∀ ev ∈ log, malformed ev = none

/-- Rows are delivered in order, from a cursor on: each is a row of the log,
seen before or the next one. -/
def InSequence (log : List FederatedEvent) : ℤ → List FederatedEvent → Prop
  | _, [] => True
  | since, ev :: rest =>
    ev ∈ log ∧ (since < ev.seq → ∀ e ∈ log, since < e.seq → ev.seq ≤ e.seq)
      ∧ InSequence log (max since ev.seq) rest

/-- A signature is that of the event just before another in the log. -/
def IsPredecessorSig (log : List FederatedEvent) (sig : String) (ev : FederatedEvent) : Prop :=
  ∃ before prev after, log = before ++ prev :: ev :: after ∧ prev.sig = some sig

/-- **Rows reconnect**: the row before a fresh one, on the page or before it
in the drain, is its predecessor in the log. -/
def Reconnects (log : List FederatedEvent) :
    ℤ → Option String → List FederatedEvent → Prop
  | _, _, [] => True
  | since, prevSig, ev :: rest =>
    (since < ev.seq → ∀ sig, prevSig = some sig → IsPredecessorSig log sig ev)
      ∧ Reconnects log (max since ev.seq) ev.sig rest

/-- The reply continues the schedule: while a drain goes on, its page does
not ask for a snapshot, and delivers rows in order that reconnect. -/
def Continues (log : List FederatedEvent) (o : Observed σ) (r : Reply) : Prop :=
  o.state.point = .draining →
    fetchEvents r.body o.state.sinceSeq ≠ .snapshotRequired
      ∧ InSequence log o.state.sinceSeq (fetchEvents r.body o.state.sinceSeq).rows
      ∧ Reconnects log o.state.sinceSeq o.state.prevSig
          (fetchEvents r.body o.state.sinceSeq).rows

end Spec

/-! ## The part of the log that was taken -/

section Between

variable {log : List FederatedEvent}

theorem between_self (low : ℤ) : between log low low = [] := by
  unfold between
  rw [List.filter_eq_nil_iff]
  intro ev _
  simp

/-- **The next event extends the part that was taken by one.** -/
theorem between_next (hlog : log.Pairwise (fun a b => a.seq < b.seq)) {low since : ℤ}
    {ev : FederatedEvent} (hev : ev ∈ log) (hlow : low ≤ since) (hfresh : since < ev.seq)
    (hnext : ∀ e ∈ log, since < e.seq → ev.seq ≤ e.seq) :
    between log low ev.seq = between log low since ++ [ev] := by
  -- the log around the event: all before it is passed, all after it is not yet
  obtain ⟨before, after, rfl⟩ := List.append_of_mem hev
  rw [List.pairwise_append, List.pairwise_cons] at hlog
  obtain ⟨_, ⟨hafter, _⟩, hbefore⟩ := hlog
  have hold : ∀ e ∈ before, e.seq ≤ since := by
    intro e he
    by_contra hlt
    have := hnext e (List.mem_append_left _ he) (not_le.mp hlt)
    have := hbefore e he ev List.mem_cons_self
    omega
  have hleft : before.filter (fun e => low < e.seq && e.seq ≤ ev.seq)
      = before.filter (fun e => low < e.seq && e.seq ≤ since) := by
    refine List.filter_congr fun e he => ?_
    have := hold e he
    simp only [show e.seq ≤ ev.seq by omega, this]
  have hright : ∀ high ≤ ev.seq,
      after.filter (fun e => low < e.seq && e.seq ≤ high) = [] := by
    intro high hhigh
    rw [List.filter_eq_nil_iff]
    intro e he
    have := hafter e he
    simp
    omega
  unfold between
  rw [List.filter_append, List.filter_append, List.filter_cons, List.filter_cons, hleft,
    hright ev.seq (le_refl _), hright since (le_of_lt hfresh), if_pos (by simp; omega),
    if_neg (by simp; omega), List.append_nil]

end Between

/-! ## One page -/

section Pages

variable {L : Libs} {σ : Type} [NodeRepository σ]

/-- The invariant of the replay: the repository has what lies between the
cursor at the start and the cursor now, and the cursor stands at the last of
it. -/
structure Replayed (L : Libs) (log : List FederatedEvent) (s₀ s : SyncState σ) : Prop where
  le : s₀.sinceSeq ≤ s.sinceSeq
  repo : s.repo = replay L s₀.repo (between log s₀.sinceSeq s.sinceSeq)
  cursor : s.sinceSeq
    = ((between log s₀.sinceSeq s.sinceSeq).getLast?.map FederatedEvent.seq).getD s₀.sinceSeq

/-- Nothing has been taken at the start. -/
theorem replayed_refl {log : List FederatedEvent} (s : SyncState σ) : Replayed L log s s := by
  refine ⟨le_refl _, ?_, ?_⟩
  · rw [between_self]
    rfl
  · rw [between_self]
    rfl

theorem replay_append (repo : σ) (first second : List FederatedEvent) :
    replay L repo (first ++ second) = replay L (replay L repo first) second :=
  List.foldl_append

/-- A signature of the predecessor is the link the log asks for. -/
theorem SeedLog.link_of_predecessor {pk : String} {log : List FederatedEvent}
    (hlog : SeedLog L pk log) {sig : String} {ev : FederatedEvent}
    (h : IsPredecessorSig log sig ev) : ev.link = prevHashFrom L (some sig) := by
  obtain ⟨before, prev, after, heq, hsig⟩ := h
  rw [hlog.chained before prev ev after heq, hsig]

/-- A row of the log in sequence is not refused. -/
theorem refusalAt_of_inSequence {pk : String} {log : List FederatedEvent}
    (hlog : SeedLog L pk log) (hpers : ∀ (repo : σ), ∀ ev ∈ log, persists repo ev = true)
    {s : SyncState σ} (hkey : s.pubkey = some pk) {ev : FederatedEvent} (hev : ev ∈ log)
    (hconn : s.sinceSeq < ev.seq → ∀ sig, s.prevSig = some sig → IsPredecessorSig log sig ev) :
    refusalAt L s ev = none := by
  by_cases hfresh : s.sinceSeq < ev.seq
  · refine refusalAt_eq_none hkey (hlog.signed ev hev) (fun x hx => ?_) (hlog.wellFormed ev hev)
      (hpers s.repo ev hev)
    obtain ⟨sig, hsig, rfl⟩ := Option.map_eq_some_iff.mp hx
    exact hlog.link_of_predecessor (hconn hfresh sig hsig)
  · exact refusalAt_of_replayed (hlog.signed ev hev).badServiceId_eq_false (not_lt.mp hfresh)

/-- One row in sequence keeps the replay. -/
theorem replayed_applyRow {pk : String} {log : List FederatedEvent} (hlog : SeedLog L pk log)
    {s₀ s : SyncState σ} (h : Replayed L log s₀ s) {ev : FederatedEvent} (hev : ev ∈ log)
    (hnone : refusalAt L s ev = none)
    (hnext : s.sinceSeq < ev.seq → ∀ e ∈ log, s.sinceSeq < e.seq → ev.seq ≤ e.seq) :
    Replayed L log s₀ (applyRow L s ev).2 := by
  by_cases hfresh : s.sinceSeq < ev.seq
  · have hbetween := between_next hlog.increasing hev h.le hfresh (hnext hfresh)
    rw [(applyRow_of_fresh hnone hfresh).1]
    refine ⟨h.le.trans (le_of_lt hfresh), ?_, ?_⟩
    · show (applyEvent L s.repo ev).2 = replay L s₀.repo (between log s₀.sinceSeq ev.seq)
      rw [hbetween, replay_append, ← h.repo]
      rfl
    · show ev.seq = _
      rw [hbetween]
      simp
  · rw [applyRow_of_replayed hnone (not_lt.mp hfresh)]
    exact ⟨h.le, h.repo, h.cursor⟩

/-- **A page in sequence that reconnects keeps the replay**: no row is
refused, the key stays, and the cursor passes every row. -/
theorem replayed_applyRows {pk : String} {log : List FederatedEvent} (hlog : SeedLog L pk log)
    (hpers : ∀ (repo : σ), ∀ ev ∈ log, persists repo ev = true) {s₀ s : SyncState σ}
    (h : Replayed L log s₀ s) (hkey : s.pubkey = some pk) {rows : List FederatedEvent}
    (hseq : InSequence log s.sinceSeq rows) (hconn : Reconnects log s.sinceSeq s.prevSig rows) :
    (applyRows L s rows).1 = false ∧ Replayed L log s₀ (applyRows L s rows).2
      ∧ (applyRows L s rows).2.pubkey = some pk
      ∧ ∀ d ∈ deliveries L s rows, d.event.seq ≤ (applyRows L s rows).2.sinceSeq := by
  induction rows generalizing s with
  | nil => exact ⟨rfl, h, hkey, fun d hd => absurd hd List.not_mem_nil⟩
  | cons ev rest ih =>
    obtain ⟨hev, hnext, hseq'⟩ := hseq
    obtain ⟨hpred, hconn'⟩ := hconn
    have hnone := refusalAt_of_inSequence hlog hpers hkey hev hpred
    have hsince := sinceSeq_applyRow hnone
    have hsig : (applyRow L s ev).2.prevSig = ev.sig := by
      rw [prevSig_applyRow, if_pos (applyRow_accepted_iff.mpr hnone)]
    rw [applyRows_cons hnone, deliveries_cons hnone]
    obtain ⟨hdone, hrep, hkey', hpassed⟩ := ih (replayed_applyRow hlog h hev hnone hnext)
      ((frame_applyRow s ev).1.trans hkey) (by rwa [hsince]) (by rwa [hsince, hsig])
    refine ⟨hdone, hrep, hkey', fun d hd => ?_⟩
    obtain rfl | hd := List.mem_cons.mp hd
    · have hle : ev.seq ≤ (applyRow L s ev).2.sinceSeq := hsince ▸ le_max_right _ _
      exact hle.trans (sinceSeq_le_applyRows _ rest)
    · exact hpassed d hd

/-- A page without a refused signature delivers its rows, all of them and in
order. -/
theorem map_event_deliveries {s : SyncState σ} {rows : List FederatedEvent}
    (hdone : (applyRows L s rows).1 = false) : (deliveries L s rows).map Delivery.event = rows := by
  induction rows generalizing s with
  | nil => rfl
  | cons ev rest ih =>
    rw [applyRows] at hdone
    split at hdone
    · exact absurd hdone (by simp)
    · rename_i hkey
      rw [deliveries, if_neg hkey, List.map_cons, ih hdone]

/-- A page without a refused signature leaves what its rows leave, and the
loop draining or idle. -/
theorem pageStep_of_complete (cfg : ReplicaConfig) {s : SyncState σ} {page : EventPage}
    (hpage : page ≠ .snapshotRequired) (hdone : (applyRows L s page.rows).1 = false)
    (did : Option Json) :
    (pageStep L cfg s page did).repo = (applyRows L s page.rows).2.repo
      ∧ (pageStep L cfg s page did).pubkey = (applyRows L s page.rows).2.pubkey
      ∧ ((pageStep L cfg s page did).point = .idle
          ∨ (pageStep L cfg s page did).point = s.point) := by
  cases page with
  | snapshotRequired => exact absurd rfl hpage
  | failed => exact ⟨rfl, rfl, Or.inl rfl⟩
  | events rows nextSeq hasMore =>
    have hframe := (frame_applyRows (L := L) s rows).2
    have hrows : (applyRows L s rows).1 = false := hdone
    unfold pageStep EventPage.rows
    by_cases hempty : rows = []
    · subst hempty
      exact ⟨rfl, rfl, Or.inl rfl⟩
    · cases hasMore <;> simp [hempty, hrows, hframe]

end Pages

/-! ## Whole schedules -/

section Schedules

variable {L : Libs} {σ : Type} [NodeRepository σ]

/-- The invariant of a schedule: the loop ticks and drains under the seed's
key, the replay holds, and the cursor has passed every row delivered. -/
structure OnSchedule (L : Libs) (pk : String) (log : List FederatedEvent) (s₀ : SyncState σ)
    (o : Observed σ) : Prop where
  point : o.state.point = .idle ∨ o.state.point = .draining
  key : o.state.pubkey = some pk
  replayed : Replayed L log s₀ o.state
  passed : ∀ d ∈ o.sinceSnapshot, d.event.seq ≤ o.state.sinceSeq

omit [NodeRepository σ] in
/-- With a key, a tick starts a drain. -/
theorem tickStep_of_key (cfg : ReplicaConfig) {s : SyncState σ} {pk : String}
    (h : s.pubkey = some pk) (did : Option Json) :
    tickStep L cfg s did = { s with prevSig := none, point := .draining } := by
  unfold tickStep
  rw [if_neg (by simp [h])]

/-- Every reply that continues the schedule keeps the invariant, and the
cursor does not move back. -/
theorem onSchedule_step (cfg : ReplicaConfig) {pk : String} {log : List FederatedEvent}
    (hlog : SeedLog L pk log) (hpers : ∀ (repo : σ), ∀ ev ∈ log, persists repo ev = true)
    {s₀ : SyncState σ} {o : Observed σ} (h : OnSchedule L pk log s₀ o) {r : Reply}
    (hr : Continues log o r) :
    OnSchedule L pk log s₀ (Observed.step L cfg o r)
      ∧ o.state.sinceSeq ≤ (Observed.step L cfg o r).state.sinceSeq := by
  obtain hp | hp := h.point
  · rw [observedStep_idle L cfg o r hp, tickStep_of_key cfg h.key]
    exact ⟨⟨Or.inr rfl, h.key, ⟨h.replayed.le, h.replayed.repo, h.replayed.cursor⟩, h.passed⟩,
      le_refl _⟩
  · -- a page of the drain: its rows continue the replay, and none is refused
    obtain ⟨hpage, hseq, hconn⟩ := hr hp
    obtain ⟨hdone, hrep, hkey, hpassed⟩ :=
      replayed_applyRows hlog hpers h.replayed h.key hseq hconn
    obtain ⟨hrepo, hpk, hpoint⟩ := pageStep_of_complete cfg hpage hdone r.did
    obtain ⟨hsince, _⟩ := cursor_pageStep (L := L) cfg o.state
      (fetchEvents r.body o.state.sinceSeq) r.did
    have hle := sinceSeq_le_applyRows (L := L) o.state
      (fetchEvents r.body o.state.sinceSeq).rows
    rw [observedStep_draining L cfg o r hp rfl]
    refine ⟨⟨?_, hpk.trans hkey, ⟨?_, ?_, ?_⟩, fun d hd => ?_⟩, ?_⟩
    · exact hpoint.imp id fun h => h.trans hp
    · exact hrep.le.trans (le_of_eq hsince.symm)
    · rw [hrepo, hrep.repo, hsince]
    · rw [hsince]
      exact hrep.cursor
    · rw [hsince]
      obtain hd | hd := List.mem_append.mp hd
      · exact (h.passed d hd).trans hle
      · exact hpassed d hd
    · rw [hsince]
      exact hle

/-- The schedule so far keeps the invariant, and moves the cursor on. -/
theorem onSchedule_after {cfg : ReplicaConfig} {pk : String} {log : List FederatedEvent}
    (hlog : SeedLog L pk log) (hpers : ∀ (repo : σ), ∀ ev ∈ log, persists repo ev = true)
    {s₀ : SyncState σ} {o : Observed σ} (h : OnSchedule L pk log s₀ o) {replies : List Reply}
    (hsched : Run.Along (Observed.step L cfg) (Continues log) o replies) :
    OnSchedule L pk log s₀ (Run.after (Observed.step L cfg) o replies)
      ∧ o.state.sinceSeq ≤ (Run.after (Observed.step L cfg) o replies).state.sinceSeq := by
  have hstep : ∀ (o' : Observed σ) r,
      OnSchedule L pk log s₀ o' ∧ o.state.sinceSeq ≤ o'.state.sinceSeq → Continues log o' r →
      OnSchedule L pk log s₀ (Observed.step L cfg o' r)
        ∧ o.state.sinceSeq ≤ (Observed.step L cfg o' r).state.sinceSeq := by
    rintro o' r ⟨ho', hle⟩ hr
    obtain ⟨hnext, hmono⟩ := onSchedule_step cfg hlog hpers ho' hr
    exact ⟨hnext, hle.trans hmono⟩
  exact Run.invariant_along hstep ⟨h, le_refl _⟩ hsched

/-- **Exactly-once replay.** From any state that waits for a tick under the
seed's key, over any schedule of pages that delivers rows of an honest log
in order and reconnects: the cursor never moves back, and once every row
after the first cursor has been delivered, the repository is the replay of
these rows and the cursor is the number of the last. -/
theorem replayed_of_delivered (L : Libs) (cfg : ReplicaConfig) (pk : String)
    (log : List FederatedEvent) (hlog : SeedLog L pk log)
    (hpers : ∀ (repo : σ), ∀ ev ∈ log, persists repo ev = true) (s : SyncState σ)
    (hpoint : s.point = .idle) (hkey : s.pubkey = some pk) (replies : List Reply)
    (hsched : Run.Along (Observed.step L cfg) (Continues log) ⟨s, [], []⟩ replies) :
    (∀ earlier later, replies = earlier ++ later →
        (Run.after (Observed.step L cfg) ⟨s, [], []⟩ earlier).state.sinceSeq
          ≤ (Run.after (Observed.step L cfg) ⟨s, [], []⟩ replies).state.sinceSeq)
      ∧ ((∀ ev ∈ log, s.sinceSeq < ev.seq →
            ∃ d ∈ (Run.after (Observed.step L cfg) ⟨s, [], []⟩ replies).sinceSnapshot,
              d.event = ev) →
          (Run.after (Observed.step L cfg) ⟨s, [], []⟩ replies).state.repo
              = replay L s.repo (log.filter (fun ev => s.sinceSeq < ev.seq))
            ∧ (Run.after (Observed.step L cfg) ⟨s, [], []⟩ replies).state.sinceSeq
              = ((log.filter (fun ev => s.sinceSeq < ev.seq)).getLast?.map
                  FederatedEvent.seq).getD s.sinceSeq) := by
  have hstart : OnSchedule L pk log s (⟨s, [], []⟩ : Observed σ) := by
    exact ⟨Or.inl hpoint, hkey, replayed_refl s, fun d hd => absurd hd List.not_mem_nil⟩
  constructor
  · rintro earlier later rfl
    rw [Run.along_append] at hsched
    rw [Run.after_append]
    have hmid := (onSchedule_after hlog hpers hstart hsched.1).1
    exact (onSchedule_after hlog hpers hmid hsched.2).2
  · intro hall
    obtain ⟨hon, _⟩ := onSchedule_after hlog hpers hstart hsched
    -- every fresh event was delivered, and what was delivered was passed
    have hwhole : between log s.sinceSeq
        (Run.after (Observed.step L cfg) ⟨s, [], []⟩ replies).state.sinceSeq
          = log.filter (fun ev => s.sinceSeq < ev.seq) := by
      refine List.filter_congr fun ev hev => ?_
      by_cases hfresh : s.sinceSeq < ev.seq
      · obtain ⟨d, hd, rfl⟩ := hall ev hev hfresh
        simp [hfresh, hon.passed d hd]
      · simp [hfresh]
    rw [← hwhole]
    exact ⟨hon.replayed.repo, hon.replayed.cursor⟩

end Schedules

end Replica

namespace Sample

open Replica

/-- The log of the sample. -/
def log : List FederatedEvent := [event1, event2, event3]

/-- It is the log of an honest seed. -/
theorem log_honest : SeedLog libs pubkeyHex log where
  increasing := by
    simp [log, event1, event2, event3, FederationHandlers.federatedEvent, row1, row2, row3]
  signed := by
    simp only [log, List.forall_mem_cons]
    exact ⟨event1_signed, event2_signed, event3_signed, fun _ h => absurd h List.not_mem_nil⟩
  chained := by
    intro before prev ev after h
    rcases before with _ | ⟨a, _ | ⟨b, rest⟩⟩
    · simp only [log, List.nil_append, List.cons.injEq] at h
      obtain ⟨rfl, rfl, _⟩ := h
      exact prevHashFrom_sig1.symm
    · simp only [log, List.cons_append, List.nil_append, List.cons.injEq] at h
      obtain ⟨_, rfl, rfl, _⟩ := h
      exact prevHashFrom_sig2.symm
    · have hlen := congrArg List.length h
      simp [log] at hlen
      omega
  wellFormed := by
    simp only [log, List.forall_mem_cons]
    exact ⟨by decide, by decide, by decide, fun _ h => absurd h List.not_mem_nil⟩

/-- The first event is the predecessor of the second. -/
theorem predecessor2 : IsPredecessorSig log sig1 event2 := ⟨[], event1, [event3], rfl, rfl⟩

/-- The second event is the predecessor of the third. -/
theorem predecessor3 : IsPredecessorSig log sig2 event3 := ⟨[event1], event2, [], rfl, rfl⟩

/-- The replica that joined, before its first tick. -/
def waiting : SyncState InMemoryRepo := { joined with point := .idle }

/-- The replica after the first two events, and the first once more. -/
def afterRepeat : SyncState InMemoryRepo :=
  { afterEvent1 with
    repo := (applyEvent libs afterEvent1.repo event2).2
    sinceSeq := 2
    prevSig := some sig1 }

/-- A tick, and a page that repeats the second row. -/
def schedule : List Reply := [⟨none, none⟩, page [row1, row2, row2, row3]]

end Sample

namespace Replica

open Federation

/-- The sample is replayed from a page that repeats a row where it does no
harm. -/
theorem replayed_sample :
    (Run.after (Observed.step Sample.libs Sample.config) ⟨Sample.waiting, [], []⟩
        Sample.schedule).state.repo
      = replay Sample.libs InMemoryRepo.empty Sample.log := by
  have hfetch : fetchEvents (Sample.page [Sample.row1, Sample.row2, Sample.row2, Sample.row3]).body 0
      = .events [Sample.event1, Sample.event2, Sample.event2, Sample.event3] 3 false :=
    Sample.fetchEvents_page _ (by decide) (by decide) 0
  have hseq : InSequence Sample.log 0
      [Sample.event1, Sample.event2, Sample.event2, Sample.event3] :=
    ⟨by simp [Sample.log], fun _ => by decide, by simp [Sample.log], fun _ => by decide,
      by simp [Sample.log], fun h => absurd h (by decide), by simp [Sample.log],
      fun _ => by decide, trivial⟩
  have hconn : Reconnects Sample.log 0 none
      [Sample.event1, Sample.event2, Sample.event2, Sample.event3] := by
    refine ⟨fun _ sig h => absurd h (by simp), fun _ sig h => ?_, fun h => absurd h (by decide),
      fun _ sig h => ?_, trivial⟩
    · exact Option.some.inj h ▸ Sample.predecessor2
    · exact Option.some.inj h ▸ Sample.predecessor3
  have hpers : ∀ (repo : InMemoryRepo), ∀ ev ∈ Sample.log, persists repo ev = true :=
    fun repo ev _ => persists_inMemory repo ev
  have htick : Observed.step Sample.libs Sample.config ⟨Sample.waiting, [], []⟩ ⟨none, none⟩
      = ⟨Sample.joined, [], []⟩ := rfl
  have hsched : Run.Along (Observed.step Sample.libs Sample.config) (Continues Sample.log)
      ⟨Sample.waiting, [], []⟩ Sample.schedule := by
    refine ⟨fun h => absurd h (by simp [Sample.waiting]), fun _ => ?_, trivial⟩
    rw [htick]
    show fetchEvents _ 0 ≠ _ ∧ InSequence _ 0 (fetchEvents _ 0).rows
      ∧ Reconnects _ 0 none (fetchEvents _ 0).rows
    rw [hfetch]
    exact ⟨by simp, hseq, hconn⟩
  have hmain := (replayed_of_delivered Sample.libs Sample.config Sample.pubkeyHex Sample.log
    Sample.log_honest hpers Sample.waiting rfl rfl Sample.schedule hsched).2
  refine (hmain fun ev hev _ => ?_).1
  have hdone := (replayed_applyRows (s := Sample.joined) Sample.log_honest hpers
    (replayed_refl Sample.joined) rfl hseq hconn).1
  have hdel : (Run.after (Observed.step Sample.libs Sample.config) ⟨Sample.waiting, [], []⟩
      Sample.schedule).sinceSnapshot.map Delivery.event
        = [Sample.event1, Sample.event2, Sample.event2, Sample.event3] := by
    rw [Sample.schedule, Run.after_cons, htick, Run.after_cons, Run.after_nil,
      observedStep_draining Sample.libs Sample.config ⟨Sample.joined, [], []⟩ _ rfl hfetch]
    exact map_event_deliveries hdone
  have hmem : ev ∈ [Sample.event1, Sample.event2, Sample.event2, Sample.event3] := by
    obtain rfl | rfl | rfl : ev = Sample.event1 ∨ ev = Sample.event2 ∨ ev = Sample.event3 := by
      simpa [Sample.log] using hev
    all_goals simp
  rw [← hdel, List.mem_map] at hmem
  exact hmem

/-- **A repeated row breaks the replay**: the log of an honest seed,
delivered in order, with the first row once more before the third. The
third is refused, and `n1`, which the log removes, stays. -/
theorem repeated_row_breaks_replay :
    SeedLog Sample.libs Sample.pubkeyHex Sample.log
      ∧ InSequence Sample.log 0 [Sample.event1, Sample.event2, Sample.event1, Sample.event3]
      ∧ (Run.after (Observed.step Sample.libs Sample.config) (Observed.start InMemoryRepo.empty)
          (Sample.joining
            ++ [Sample.page [Sample.row1, Sample.row2, Sample.row1, Sample.row3]])).state.sinceSeq = 2
      ∧ (Run.after (Observed.step Sample.libs Sample.config) (Observed.start InMemoryRepo.empty)
          (Sample.joining
            ++ [Sample.page [Sample.row1, Sample.row2, Sample.row1, Sample.row3]])).state.repo.nodeIds
          = ["n1", "n2"]
      ∧ (replay Sample.libs InMemoryRepo.empty Sample.log).nodeIds = ["n2"] := by
  have hfetch : fetchEvents (Sample.page [Sample.row1, Sample.row2, Sample.row1, Sample.row3]).body 0
      = .events [Sample.event1, Sample.event2, Sample.event1, Sample.event3] 3 false :=
    Sample.fetchEvents_page _ (by decide) (by decide) 0
  have hseq : InSequence Sample.log 0
      [Sample.event1, Sample.event2, Sample.event1, Sample.event3] :=
    ⟨by simp [Sample.log], fun _ => by decide, by simp [Sample.log], fun _ => by decide,
      by simp [Sample.log], fun h => absurd h (by decide), by simp [Sample.log],
      fun _ => by decide, trivial⟩
  have hrow2 := (applyRow_of_fresh Sample.refusalAt_event2
    (show Sample.afterEvent1.sinceSeq < Sample.event2.seq by rw [Sample.afterEvent1_eq]; decide)).1
  -- the repeated row leaves its own signature as the link
  have hbroken : refusalAt Sample.libs Sample.afterRepeat Sample.event3
      = some "broken hash-chain" :=
    refusalAt_of_broken rfl (by decide) rfl rfl (congrArg some Sample.prevHashFrom_sig1)
      (by decide)
  have hfinal : applyRows Sample.libs Sample.joined
      [Sample.event1, Sample.event2, Sample.event1, Sample.event3]
        = (false, Sample.afterRepeat) := by
    rw [applyRows_cons Sample.refusalAt_event1]
    show applyRows Sample.libs Sample.afterEvent1 _ = _
    rw [applyRows_cons Sample.refusalAt_event2, hrow2]
    rw [applyRows_cons (refusalAt_of_replayed rfl (by decide)),
      applyRow_of_replayed (refusalAt_of_replayed rfl (by decide)) (by decide)]
    show applyRows Sample.libs Sample.afterRepeat [Sample.event3] = _
    rw [applyRows, applyRow_of_refusal hbroken]
    rfl
  have hrepo : Sample.afterEvent1.repo
      = (applyEvent Sample.libs InMemoryRepo.empty Sample.event1).2 := by
    rw [Sample.afterEvent1_eq]
    rfl
  rw [Run.after_append, Sample.observed_joining, Run.after_cons, Run.after_nil,
    observedStep_draining Sample.libs Sample.config ⟨Sample.joined, [], []⟩ _ rfl hfetch,
    pageStep_last (by simp) hfinal]
  refine ⟨Sample.log_honest, hseq, rfl, ?_, by decide⟩
  show (applyEvent Sample.libs Sample.afterEvent1.repo Sample.event2).2.nodeIds = _
  rw [hrepo]
  decide

end Replica
