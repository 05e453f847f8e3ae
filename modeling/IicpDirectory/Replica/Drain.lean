import IicpDirectory.Replica.Sync

/-!
# The drain loop: readiness and progress

A drain fetches page after page until there is no more, and then declares
the replica ready. Two things are expected of it: that a replica which is
ready has taken what the seed served it, and that the drain ends.

Both rest on rows being taken. A row that is refused for anything but its
signature is passed over: the rest of the page goes on, the drain does not
end for it, and at the end of the page the replica is ready all the same.
`caughtUp_of_setsReady` and `drain_progress_iff` say that nothing else
stands in the way: a run in which no row of an orderly page is refused for
such a reason is caught up when it is ready, and a drain ends exactly where
no page is stalled, every row of it refused for such a reason and more to
come.
-/

namespace Replica

open Federation

section Readiness

variable (L : Libs) {σ : Type} [NodeRepository σ]

/-- The page ends with the `ready` flag being set: it is empty, or it has no
refused signature and no successor. -/
def setsReady (s : SyncState σ) : EventPage → Bool
  | .events rows _ hasMore => rows.isEmpty || (!(applyRows L s rows).1 && !hasMore)
  | _ => false

/-- The number a page ends at: that of its last row, the cursor where there
is none. -/
def pageEnd (s : SyncState σ) (rows : List FederatedEvent) : ℤ :=
  (rows.getLast?.map FederatedEvent.seq).getD s.sinceSeq

/-- **The replica is caught up to a number**: of the events served since the
snapshot, those after the snapshot and up to that number have been
accepted, and the cursor stands there. -/
def CaughtUp (o : Observed σ) (lastSeq : ℤ) : Prop :=
  (∀ d ∈ o.sinceSnapshot, o.state.snapshotSeq < d.event.seq → d.event.seq ≤ lastSeq →
      ∃ d' ∈ o.sinceSnapshot, d'.event = d.event ∧ (d'.outcome L).accepted = true)
    ∧ o.state.sinceSeq = lastSeq

/-- No row of a page that is delivered is refused for anything but its
signature. -/
def OnlySignaturesRefused (s : SyncState σ) (rows : List FederatedEvent) : Prop :=
  ∀ d ∈ deliveries L s rows, ∀ reason, refusalAt L d.before d.event = some reason →
    (ApplyOutcome.rejected reason).refreshesKey = true

/-- The rows of a page are rows of a log, in its order; they do not end
before the cursor, and leave out nothing that lies between. -/
structure InOrder (log : List FederatedEvent) (s : SyncState σ) (rows : List FederatedEvent) :
    Prop where
  subset : ∀ ev ∈ rows, ev ∈ log
  sorted : rows.Pairwise (fun a b => a.seq ≤ b.seq)
  reaches : ∀ last, rows.getLast? = some last → s.sinceSeq ≤ last.seq
  complete : ∀ last, rows.getLast? = some last →
    ∀ ev ∈ log, s.sinceSeq < ev.seq → ev.seq ≤ last.seq → ev ∈ rows

/-- A reply is orderly: while a drain goes on, the page it brings is in
order, and no row of it is refused for anything but its signature. -/
def Orderly (log : List FederatedEvent) (o : Observed σ) (r : Reply) : Prop :=
  o.state.point = .draining →
    InOrder log o.state (fetchEvents r.body o.state.sinceSeq).rows
      ∧ OnlySignaturesRefused L o.state (fetchEvents r.body o.state.sinceSeq).rows

end Readiness

/-! ## What a page takes -/

section Pages

variable {L : Libs} {σ : Type} [NodeRepository σ]

theorem event_mem_of_mem_deliveries {s : SyncState σ} {rows : List FederatedEvent}
    {d : Delivery σ} (h : d ∈ deliveries L s rows) : d.event ∈ rows := by
  induction rows generalizing s with
  | nil => exact absurd h List.not_mem_nil
  | cons ev rest ih =>
    rw [deliveries, List.mem_cons] at h
    obtain rfl | h := h
    · exact List.mem_cons_self
    · split at h
      · exact absurd h List.not_mem_nil
      · exact List.mem_cons_of_mem _ (ih h)

/-- The cursor after a row that is not refused: the row's number, or where it
was. -/
theorem sinceSeq_applyRow {s : SyncState σ} {ev : FederatedEvent} (h : refusalAt L s ev = none) :
    (applyRow L s ev).2.sinceSeq = max s.sinceSeq ev.seq := by
  by_cases hl : ev.seq ≤ s.sinceSeq
  · rw [applyRow_of_replayed h hl, max_eq_left hl]
  · have hl := not_le.mp hl
    rw [(applyRow_of_fresh h hl).1, max_eq_right (le_of_lt hl)]

/-- The cursor never moves back over a page. -/
theorem sinceSeq_le_applyRows (s : SyncState σ) (rows : List FederatedEvent) :
    s.sinceSeq ≤ (applyRows L s rows).2.sinceSeq := by
  induction rows generalizing s with
  | nil => exact le_refl _
  | cons ev rest ih =>
    unfold applyRows
    split
    · exact sinceSeq_le_applyRow s ev
    · exact (sinceSeq_le_applyRow s ev).trans (ih _)

/-- Where only signatures are refused, a page stops at its first row with
the state it found, or takes the row and goes on. -/
theorem onlySignaturesRefused_cons {s : SyncState σ} {ev : FederatedEvent}
    {rest : List FederatedEvent} (h : OnlySignaturesRefused L s (ev :: rest)) :
    applyRows L s (ev :: rest) = (true, s)
      ∨ refusalAt L s ev = none ∧ OnlySignaturesRefused L (applyRow L s ev).2 rest := by
  cases hr : refusalAt L s ev with
  | some reason =>
    have hmem : (⟨s, ev⟩ : Delivery σ) ∈ deliveries L s (ev :: rest) := List.mem_cons_self
    have hkey := h _ hmem reason hr
    refine Or.inl ?_
    rw [applyRows, applyRow_of_refusal hr, if_pos hkey]
  | none =>
    refine Or.inr ⟨rfl, fun d hd => h d ?_⟩
    rw [deliveries_cons hr]
    exact List.mem_cons_of_mem _ hd

/-- A row between the cursor before a page and the cursor after it has been
accepted. -/
theorem accepted_of_passed {s : SyncState σ} {rows : List FederatedEvent}
    (hsorted : rows.Pairwise (fun a b => a.seq ≤ b.seq))
    (honly : OnlySignaturesRefused L s rows) {ev : FederatedEvent} (hev : ev ∈ rows)
    (hfresh : s.sinceSeq < ev.seq) (hpassed : ev.seq ≤ (applyRows L s rows).2.sinceSeq) :
    ∃ d ∈ deliveries L s rows, d.event.seq = ev.seq ∧ (d.outcome L).accepted = true := by
  induction rows generalizing s with
  | nil => exact absurd hev List.not_mem_nil
  | cons first rest ih =>
    obtain hstop | ⟨hnone, honly'⟩ := onlySignaturesRefused_cons honly
    · -- a refused signature ends the page where it stands
      rw [hstop] at hpassed
      exact absurd (hfresh.trans_le hpassed) (lt_irrefl _)
    · rw [applyRows_cons hnone] at hpassed
      rw [deliveries_cons hnone]
      have hfirst : (Delivery.outcome L ⟨s, first⟩).accepted = true :=
        applyRow_accepted_iff.mpr hnone
      by_cases hpast : ev.seq ≤ (applyRow L s first).2.sinceSeq
      · -- fresh before the first row and passed after it: the first row's number
        have hge : first.seq ≤ ev.seq := by
          obtain rfl | hrest := List.mem_cons.mp hev
          · exact le_refl _
          · exact List.rel_of_pairwise_cons hsorted hrest
        rw [sinceSeq_applyRow hnone] at hpast
        refine ⟨⟨s, first⟩, List.mem_cons_self, ?_, hfirst⟩
        show first.seq = ev.seq
        omega
      · obtain rfl | hrest := List.mem_cons.mp hev
        · exact ⟨⟨s, ev⟩, List.mem_cons_self, rfl, hfirst⟩
        · obtain ⟨d, hd, hseq, hacc⟩ :=
            ih hsorted.of_cons honly' hrest (not_le.mp hpast) hpassed
          exact ⟨d, List.mem_cons_of_mem _ hd, hseq, hacc⟩

/-- A page without a refused signature takes every row: each is accepted,
and the cursor passes it. -/
theorem applyRows_complete {s : SyncState σ} {rows : List FederatedEvent}
    (honly : OnlySignaturesRefused L s rows) (hdone : (applyRows L s rows).1 = false) :
    (∀ d ∈ deliveries L s rows, (d.outcome L).accepted = true)
      ∧ ∀ ev ∈ rows, ev.seq ≤ (applyRows L s rows).2.sinceSeq := by
  induction rows generalizing s with
  | nil => exact ⟨fun d hd => absurd hd List.not_mem_nil, fun ev hev => absurd hev List.not_mem_nil⟩
  | cons first rest ih =>
    obtain hstop | ⟨hnone, honly'⟩ := onlySignaturesRefused_cons honly
    · rw [hstop] at hdone
      exact absurd hdone (by simp)
    · rw [applyRows_cons hnone] at hdone ⊢
      rw [deliveries_cons hnone]
      obtain ⟨hacc, hpassed⟩ := ih honly' hdone
      constructor
      · intro d hd
        obtain rfl | hd := List.mem_cons.mp hd
        · exact applyRow_accepted_iff.mpr hnone
        · exact hacc d hd
      · intro ev hev
        obtain rfl | hev := List.mem_cons.mp hev
        · have hle : ev.seq ≤ (applyRow L s ev).2.sinceSeq := by
            rw [sinceSeq_applyRow hnone]
            exact le_max_right _ _
          exact hle.trans (sinceSeq_le_applyRows _ rest)
        · exact hpassed ev hev

/-- A page moves the cursor to a row of its own, or not at all. -/
theorem sinceSeq_applyRows_mem (s : SyncState σ) (rows : List FederatedEvent) :
    (applyRows L s rows).2.sinceSeq = s.sinceSeq
      ∨ ∃ ev ∈ rows, (applyRows L s rows).2.sinceSeq = ev.seq := by
  induction rows generalizing s with
  | nil => exact Or.inl rfl
  | cons first rest ih =>
    have hrow : (applyRow L s first).2.sinceSeq = s.sinceSeq
        ∨ (applyRow L s first).2.sinceSeq = first.seq := by
      cases hr : refusalAt L s first with
      | some reason => exact Or.inl (by rw [applyRow_of_refusal hr])
      | none =>
        rw [sinceSeq_applyRow hr]
        exact max_choice _ _
    unfold applyRows
    split
    · exact hrow.imp id fun h => ⟨first, List.mem_cons_self, h⟩
    · obtain h | ⟨ev, hev, h⟩ := ih (applyRow L s first).2
      · rw [h]
        exact hrow.imp id fun h => ⟨first, List.mem_cons_self, h⟩
      · exact Or.inr ⟨ev, List.mem_cons_of_mem _ hev, h⟩

omit [NodeRepository σ] in
/-- The last row of an orderly page has the largest number. -/
theorem InOrder.le_last {log : List FederatedEvent} {s : SyncState σ} {rows : List FederatedEvent}
    (hord : InOrder log s rows) {last : FederatedEvent} (hlast : rows.getLast? = some last)
    {ev : FederatedEvent} (hev : ev ∈ rows) : ev.seq ≤ last.seq := by
  have hne := List.ne_nil_of_mem hev
  have hlast' : rows.getLast hne = last := by
    rwa [List.getLast?_eq_some_getLast hne, Option.some.injEq] at hlast
  have hrel := hord.sorted.rel_getLast_of_rel_getLast_getLast hev (le_refl _)
  rwa [hlast'] at hrel

/-- **Without a refused signature the cursor stands at the end of an orderly
page.** -/
theorem sinceSeq_of_inOrder {log : List FederatedEvent} {s : SyncState σ}
    {rows : List FederatedEvent} (hord : InOrder log s rows) (honly : OnlySignaturesRefused L s rows)
    (hdone : (applyRows L s rows).1 = false) :
    (applyRows L s rows).2.sinceSeq = pageEnd s rows := by
  cases hlast : rows.getLast? with
  | none =>
    rw [List.getLast?_eq_none_iff] at hlast
    subst hlast
    rfl
  | some last =>
    have hend : pageEnd s rows = last.seq := by rw [pageEnd, hlast]; rfl
    rw [hend]
    refine le_antisymm ?_ ((applyRows_complete honly hdone).2 last (List.mem_of_getLast? hlast))
    obtain h | ⟨ev, hev, h⟩ := sinceSeq_applyRows_mem (L := L) s rows
    · exact h ▸ hord.reaches last hlast
    · exact h ▸ hord.le_last hlast hev

/-- The rows of a page decide the cursor; the snapshot number stays. -/
theorem frame_applyRows (s : SyncState σ) (rows : List FederatedEvent) :
    (applyRows L s rows).2.snapshotSeq = s.snapshotSeq
      ∧ (applyRows L s rows).2.point = s.point := by
  induction rows generalizing s with
  | nil => exact ⟨rfl, rfl⟩
  | cons ev rest ih =>
    unfold applyRows
    split
    · exact ⟨rfl, rfl⟩
    · exact ih _

theorem cursor_pageStep (cfg : ReplicaConfig) (s : SyncState σ) (page : EventPage)
    (did : Option Json) :
    (pageStep L cfg s page did).sinceSeq = (applyRows L s page.rows).2.sinceSeq
      ∧ (pageStep L cfg s page did).snapshotSeq = s.snapshotSeq := by
  cases page with
  | snapshotRequired => exact ⟨rfl, rfl⟩
  | failed => exact ⟨rfl, rfl⟩
  | events rows nextSeq hasMore =>
    have hframe := (frame_applyRows (L := L) s rows).1
    unfold pageStep EventPage.rows
    by_cases hempty : rows = []
    · subst hempty
      exact ⟨rfl, rfl⟩
    · simp only [List.isEmpty_iff, hempty, if_false]
      cases (applyRows L s rows).1 <;> cases hasMore <;> simp [hframe]

end Pages

/-! ## Readiness -/

section Ready

variable {L : Libs} {σ : Type} [NodeRepository σ]

/-- The invariant of an orderly run: what is delivered is in the log, and
once a snapshot is applied every event of the log between it and the cursor
has been accepted. -/
def Covered (L : Libs) (log : List FederatedEvent) (o : Observed σ) : Prop :=
  (∀ d ∈ o.sinceSnapshot, d.event ∈ log)
    ∧ (o.state.point = .idle ∨ o.state.point = .draining →
        ∀ ev ∈ log, o.state.snapshotSeq < ev.seq → ev.seq ≤ o.state.sinceSeq →
          ∃ d ∈ o.sinceSnapshot, d.event = ev ∧ (d.outcome L).accepted = true)

/-- Two events of a log with the same number are the same. -/
theorem eq_of_seq_eq {log : List FederatedEvent} (hlog : log.Pairwise (fun a b => a.seq < b.seq))
    {a b : FederatedEvent} (ha : a ∈ log) (hb : b ∈ log) (h : a.seq = b.seq) : a = b := by
  have hnodup : (log.map FederatedEvent.seq).Nodup :=
    (List.pairwise_map.mpr hlog).imp (fun h => ne_of_lt h)
  exact List.inj_on_of_nodup_map hnodup ha hb h

/-- An event of the log that an orderly page passes is accepted on it. -/
theorem accepted_of_inOrder {log : List FederatedEvent}
    (hlog : log.Pairwise (fun a b => a.seq < b.seq)) {s : SyncState σ} {rows : List FederatedEvent}
    (hord : InOrder log s rows) (honly : OnlySignaturesRefused L s rows) {ev : FederatedEvent}
    (hev : ev ∈ log) (hfresh : s.sinceSeq < ev.seq)
    (hpassed : ev.seq ≤ (applyRows L s rows).2.sinceSeq) :
    ∃ d ∈ deliveries L s rows, d.event = ev ∧ (d.outcome L).accepted = true := by
  -- the cursor moved, so it stands at a row of the page
  obtain hsame | ⟨row, hrow, hseq⟩ := sinceSeq_applyRows_mem (L := L) s rows
  · rw [hsame] at hpassed
    exact absurd (hfresh.trans_le hpassed) (lt_irrefl _)
  · obtain ⟨last, hlast⟩ : ∃ last, rows.getLast? = some last :=
      ⟨_, List.getLast?_eq_some_getLast (List.ne_nil_of_mem hrow)⟩
    have hmem := hord.complete last hlast ev hev hfresh
      (hpassed.trans (hseq ▸ hord.le_last hlast hrow))
    obtain ⟨d, hd, hdseq, hacc⟩ := accepted_of_passed hord.sorted honly hmem hfresh hpassed
    have hdlog := hord.subset d.event (event_mem_of_mem_deliveries hd)
    exact ⟨d, hd, eq_of_seq_eq hlog hdlog hev hdseq, hacc⟩

/-- Every step of an orderly run keeps what is served covered. -/
theorem covered_step {cfg : ReplicaConfig} {log : List FederatedEvent}
    (hlog : log.Pairwise (fun a b => a.seq < b.seq)) {o : Observed σ} {r : Reply}
    (h : Covered L log o) (hr : Orderly L log o r) : Covered L log (Observed.step L cfg o r) := by
  obtain ⟨hserved, hcov⟩ := h
  cases hp : o.state.point with
  | verifyingSeed =>
    refine ⟨by simpa [Observed.step, hp] using hserved, fun hpt => ?_⟩
    simp only [Observed.step, hp, step] at hpt
    split at hpt <;> simp at hpt
  | bootstrapping =>
    refine ⟨by simp [Observed.step, hp], fun hpt ev _ hlow hhigh => ?_⟩
    simp only [Observed.step, hp, step, bootstrapStep] at hpt hlow hhigh
    split at hpt
    · rw [hp] at hpt
      simp at hpt
    · -- a fresh snapshot: nothing lies between it and the cursor
      simp_all only
      omega
  | idle =>
    rw [observedStep_idle L cfg o r hp]
    refine ⟨hserved, fun _ ev hev hlow hhigh => ?_⟩
    obtain ⟨_, he⟩ | ⟨key, _, he⟩ := tickStep_cases (L := L) cfg o.state r.did
    · rw [he] at hlow hhigh
      exact hcov (Or.inl hp) ev hev hlow hhigh
    · rw [he] at hlow hhigh
      exact hcov (Or.inl hp) ev hev hlow hhigh
  | draining =>
    obtain ⟨hord, honly⟩ := hr hp
    rw [observedStep_draining L cfg o r hp rfl]
    obtain ⟨hsince, hsnap⟩ := cursor_pageStep (L := L) cfg o.state
      (fetchEvents r.body o.state.sinceSeq) r.did
    refine ⟨fun d hd => ?_, fun _ ev hev hlow hhigh => ?_⟩
    · obtain hd | hd := List.mem_append.mp hd
      · exact hserved d hd
      · exact hord.subset d.event (event_mem_of_mem_deliveries hd)
    · rw [hsnap] at hlow
      rw [hsince] at hhigh
      -- the event was passed before this page, or by it
      by_cases hold : ev.seq ≤ o.state.sinceSeq
      · obtain ⟨d, hd, hde, hacc⟩ := hcov (Or.inr hp) ev hev hlow hold
        exact ⟨d, List.mem_append_left _ hd, hde, hacc⟩
      · obtain ⟨d, hd, hde, hacc⟩ :=
          accepted_of_inOrder hlog hord honly hev (not_le.mp hold) hhigh
        exact ⟨d, List.mem_append_right _ hd, hde, hacc⟩

/-- A page that sets the flag has no refused signature. -/
theorem applyRows_of_setsReady {s : SyncState σ} {page : EventPage}
    (h : setsReady L s page = true) : (applyRows L s page.rows).1 = false := by
  cases page with
  | snapshotRequired => exact absurd h (by simp [setsReady])
  | failed => exact absurd h (by simp [setsReady])
  | events rows nextSeq hasMore =>
    simp only [setsReady, Bool.or_eq_true, Bool.and_eq_true, Bool.not_eq_true',
      List.isEmpty_iff] at h
    obtain rfl | h := h
    · rfl
    · exact h.1

/-- It ends the drain, and the flag is set. -/
theorem pageStep_of_setsReady (cfg : ReplicaConfig) {s : SyncState σ} {page : EventPage}
    (h : setsReady L s page = true) (did : Option Json) :
    (pageStep L cfg s page did).ready = true ∧ (pageStep L cfg s page did).point = .idle := by
  cases page with
  | snapshotRequired => exact absurd h (by simp [setsReady])
  | failed => exact absurd h (by simp [setsReady])
  | events rows nextSeq hasMore =>
    simp only [setsReady, Bool.or_eq_true, Bool.and_eq_true, Bool.not_eq_true'] at h
    unfold pageStep
    obtain hempty | ⟨hdone, hmore⟩ := h
    · simp [hempty]
    · by_cases hempty : rows.isEmpty = true <;> simp [hempty, hdone, hmore]

/-- **In an orderly run, a replica is caught up when it is ready.** Where the
pages are in the order of one log and no row is refused for anything but its
signature, the page that sets the flag leaves everything served since the
snapshot and up to its end accepted, none of its own rows rejected, and the
cursor at its end. -/
theorem caughtUp_of_setsReady (L : Libs) (cfg : ReplicaConfig) (log : List FederatedEvent)
    (hlog : log.Pairwise (fun a b => a.seq < b.seq)) (repo : σ) (replies : List Reply) (r : Reply)
    (o : Observed σ) (ho : Run.after (Observed.step L cfg) (Observed.start repo) replies = o)
    (hrun : Run.Along (Observed.step L cfg) (Orderly L log) (Observed.start repo) (replies ++ [r]))
    (hpoint : o.state.point = .draining)
    (hready : setsReady L o.state (fetchEvents r.body o.state.sinceSeq) = true) :
    CaughtUp L (Observed.step L cfg o r)
        (pageEnd o.state (fetchEvents r.body o.state.sinceSeq).rows)
      ∧ (∀ d ∈ deliveries L o.state (fetchEvents r.body o.state.sinceSeq).rows,
          (d.outcome L).accepted = true)
      ∧ (Observed.step L cfg o r).state.ready = true := by
  rw [Run.along_append, ho] at hrun
  obtain ⟨hbefore, hlast, _⟩ := hrun
  have hstart : Covered L log (Observed.start repo) := by
    refine ⟨fun d hd => absurd hd List.not_mem_nil, fun hpt => ?_⟩
    simp [Observed.start, SyncState.start] at hpt
  have hstep : ∀ (o : Observed σ) r, Covered L log o → Orderly L log o r →
      Covered L log (Observed.step L cfg o r) := fun o r h hr => covered_step hlog h hr
  have hcov : Covered L log o := ho ▸ Run.invariant_along hstep hstart hbefore
  obtain ⟨hord, honly⟩ := hlast hpoint
  have hdone := applyRows_of_setsReady hready
  obtain ⟨hserved', hcov'⟩ := hstep o r hcov hlast
  obtain ⟨hflag, hidle⟩ := pageStep_of_setsReady cfg hready r.did
  obtain ⟨hsince, hsnap⟩ := cursor_pageStep (L := L) cfg o.state
    (fetchEvents r.body o.state.sinceSeq) r.did
  rw [observedStep_draining L cfg o r hpoint rfl] at hserved' hcov' ⊢
  have hcursor := hsince.trans (sinceSeq_of_inOrder hord honly hdone)
  refine ⟨⟨fun d hd hlow hhigh => ?_, hcursor⟩, (applyRows_complete honly hdone).1, hflag⟩
  exact hcov' (Or.inl hidle) d.event (hserved' d hd) hlow (hhigh.trans (le_of_eq hcursor.symm))

end Ready

end Replica

namespace Sample

open Replica

/-- Joining is orderly: nothing is delivered before the first drain. -/
theorem along_joining {ok : Observed InMemoryRepo → Reply → Prop}
    (h : ∀ o r, o.state.point ≠ .draining → ok o r) :
    Run.Along (Observed.step libs config) ok (Observed.start InMemoryRepo.empty) joining := by
  have hseq : validatedSnapshotSeq emptySnapshot = some 0 := by decide
  refine ⟨h _ _ ?_, h _ _ ?_, h _ _ ?_, trivial⟩ <;>
    simp [Observed.step, Observed.start, SyncState.start, step, bootstrapStep,
      resolve_didDocument, hseq]

/-- The replica that joined and took the first event. -/
def afterEvent1 : SyncState InMemoryRepo := (applyRow libs joined event1).2

theorem afterEvent1_eq :
    afterEvent1 = { joined with
      repo := (applyEvent libs joined.repo event1).2, sinceSeq := 1, prevSig := some sig1 } :=
  congrArg Prod.snd (applyRow_of_fresh refusalAt_event1 (by decide)).1

/-- It takes the second event next. -/
theorem refusalAt_event2 : refusalAt libs afterEvent1 event2 = none := by
  refine refusalAt_sample rfl event2_signed (fun x hx => ?_) (by decide)
  rw [afterEvent1_eq] at hx
  exact prevHashFrom_sig1.symm.trans (Option.some.inj hx)

/-- It refuses the third, which links to the second. -/
theorem refusalAt_event3 : refusalAt libs afterEvent1 event3 = some "broken hash-chain" := by
  have hexp : expectedLink libs afterEvent1 = some link2 := by
    rw [afterEvent1_eq]
    exact congrArg some prevHashFrom_sig1
  have hfresh : afterEvent1.sinceSeq < event3.seq := by
    rw [afterEvent1_eq]
    decide
  exact refusalAt_of_broken rfl hfresh rfl rfl hexp (by decide)

end Sample

namespace Replica

/-- The first two events of the sample, on one page, make an orderly run
that ends ready. -/
theorem caughtUp_sample :
    setsReady Sample.libs Sample.joined
        (fetchEvents (Sample.page [Sample.row1, Sample.row2]).body 0) = true
      ∧ CaughtUp Sample.libs
          (Observed.step Sample.libs Sample.config ⟨Sample.joined, [], []⟩
            (Sample.page [Sample.row1, Sample.row2])) 2 := by
  have hfetch := Sample.fetchEvents_page [Sample.row1, Sample.row2] (by decide) (by decide) 0
  have hrows : applyRows Sample.libs Sample.joined [Sample.event1, Sample.event2]
      = (false, (applyRow Sample.libs Sample.afterEvent1 Sample.event2).2) := by
    rw [applyRows_cons Sample.refusalAt_event1]
    exact applyRows_cons Sample.refusalAt_event2 []
  have hdel : deliveries Sample.libs Sample.joined [Sample.event1, Sample.event2]
      = [⟨Sample.joined, Sample.event1⟩, ⟨Sample.afterEvent1, Sample.event2⟩] := by
    rw [deliveries_cons Sample.refusalAt_event1]
    exact congrArg _ (deliveries_cons Sample.refusalAt_event2 [])
  have hready : setsReady Sample.libs Sample.joined
      (fetchEvents (Sample.page [Sample.row1, Sample.row2]).body 0) = true := by
    rw [hfetch]
    show (false || (!(applyRows Sample.libs Sample.joined [Sample.event1, Sample.event2]).1 && true))
      = true
    rw [hrows]
    rfl
  refine ⟨hready, ?_⟩
  have hsorted : [Sample.event1, Sample.event2].Pairwise (fun a b => a.seq < b.seq) := by
    simp [Sample.event1, Sample.event2, FederationHandlers.federatedEvent, Sample.row1,
      Sample.row2]
  have hmain := caughtUp_of_setsReady Sample.libs Sample.config [Sample.event1, Sample.event2]
    hsorted InMemoryRepo.empty Sample.joining (Sample.page [Sample.row1, Sample.row2])
    ⟨Sample.joined, [], []⟩ Sample.observed_joining ?_ rfl hready
  · have hend := hmain.1
    rw [show (Observed.state ⟨Sample.joined, [], []⟩).sinceSeq = 0 from rfl, hfetch] at hend
    exact hend
  · rw [Run.along_append, Sample.observed_joining]
    refine ⟨Sample.along_joining fun o r hne hp => absurd hp hne, fun _ => ?_, trivial⟩
    show InOrder _ Sample.joined (fetchEvents _ 0).rows
      ∧ OnlySignaturesRefused _ Sample.joined (fetchEvents _ 0).rows
    rw [hfetch]
    show InOrder [Sample.event1, Sample.event2] Sample.joined [Sample.event1, Sample.event2]
      ∧ OnlySignaturesRefused _ Sample.joined [Sample.event1, Sample.event2]
    refine ⟨⟨fun ev hev => hev, hsorted.imp le_of_lt, fun last hlast => ?_, fun _ _ ev hev _ _ => hev⟩,
      fun d hd reason hreason => ?_⟩
    · obtain rfl : Sample.event2 = last := by simpa using hlast
      decide
    · rw [hdel] at hd
      obtain rfl | rfl : d = ⟨Sample.joined, Sample.event1⟩
          ∨ d = ⟨Sample.afterEvent1, Sample.event2⟩ := by simpa using hd
      · exact absurd (Sample.refusalAt_event1.symm.trans hreason) (by simp)
      · exact absurd (Sample.refusalAt_event2.symm.trans hreason) (by simp)

/-- **A page with a rejected row makes the replica ready**: the first event
is taken, the third refused for its link, and the replica is ready with the
cursor at one. -/
theorem ready_not_caughtUp :
    setsReady Sample.libs Sample.joined
        (fetchEvents (Sample.page [Sample.row1, Sample.row3]).body 0) = true
      ∧ (Run.after (Observed.step Sample.libs Sample.config) (Observed.start InMemoryRepo.empty)
          (Sample.joining ++ [Sample.page [Sample.row1, Sample.row3]])).state.ready = true
      ∧ ¬ CaughtUp Sample.libs
          (Run.after (Observed.step Sample.libs Sample.config) (Observed.start InMemoryRepo.empty)
            (Sample.joining ++ [Sample.page [Sample.row1, Sample.row3]]))
          (pageEnd Sample.joined
            (fetchEvents (Sample.page [Sample.row1, Sample.row3]).body 0).rows) := by
  have hfetch : fetchEvents (Sample.page [Sample.row1, Sample.row3]).body 0
      = .events [Sample.event1, Sample.event3] 3 false :=
    Sample.fetchEvents_page [Sample.row1, Sample.row3] (by decide) (by decide) 0
  have hrows : applyRows Sample.libs Sample.joined [Sample.event1, Sample.event3]
      = (false, Sample.afterEvent1) := by
    rw [applyRows_cons Sample.refusalAt_event1]
    show applyRows Sample.libs Sample.afterEvent1 [Sample.event3] = _
    rw [applyRows, applyRow_of_refusal Sample.refusalAt_event3]
    rfl
  have hready : setsReady Sample.libs Sample.joined
      (.events [Sample.event1, Sample.event3] 3 false) = true := by
    rw [setsReady, hrows]
    rfl
  rw [Run.after_append, Sample.observed_joining, Run.after_cons, Run.after_nil,
    observedStep_draining Sample.libs Sample.config ⟨Sample.joined, [], []⟩ _ rfl hfetch, hfetch]
  have hflag := (pageStep_of_setsReady Sample.config hready none).1
  refine ⟨hready, hflag, fun h => ?_⟩
  have hsince := (cursor_pageStep (L := Sample.libs) Sample.config Sample.joined
    (.events [Sample.event1, Sample.event3] 3 false) none).1
  have hthree := hsince.symm.trans h.2
  rw [EventPage.rows, hrows, Sample.afterEvent1_eq] at hthree
  exact absurd hthree (by decide)

end Replica

/-! ## Progress -/

namespace Replica

section Progress

variable (L : Libs) {σ : Type} [NodeRepository σ] (cfg : ReplicaConfig)

/-- The page an honest seed serves: the next rows of its log after a number,
and whether rows remain. -/
def servePage (log : List FederatedEvent) (size : ℕ) (sinceSeq : ℤ) : EventPage :=
  let rest := log.filter (fun ev => sinceSeq < ev.seq)
  .events (rest.take size) (((rest.take size).getLast?.map FederatedEvent.seq).getD sinceSeq)
    (decide (size < rest.length))

/-- A drain against an honest seed, iteration by iteration: the page sizes
and the DID documents are whatever the seed and the network make them. Once
the loop is left nothing more happens. -/
def drainState (log : List FederatedEvent) (size : ℕ → ℕ) (did : ℕ → Option Json)
    (s : SyncState σ) : ℕ → SyncState σ
  | 0 => s
  | i + 1 =>
    let t := drainState log size did s i
    if t.point = .draining then pageStep L cfg t (servePage log (size i) t.sinceSeq) (did i)
    else t

/-- **Progress**: every iteration leaves the loop or moves the cursor on,
and the loop ends. -/
def DrainProgress (log : List FederatedEvent) (size : ℕ → ℕ) (did : ℕ → Option Json)
    (s : SyncState σ) : Prop :=
  (∀ i, (drainState L cfg log size did s i).point = .draining →
      (drainState L cfg log size did s (i + 1)).point ≠ .draining
        ∨ (drainState L cfg log size did s i).sinceSeq
            < (drainState L cfg log size did s (i + 1)).sinceSeq)
    ∧ ∃ n, (drainState L cfg log size did s n).point ≠ .draining

/-- **A page is stalled** in a state: it has rows, there are more to come,
and the state refuses every one of them for a reason other than its
signature. -/
def Stalled (s : SyncState σ) : EventPage → Prop
  | .events rows _ hasMore =>
    rows ≠ [] ∧ hasMore = true
      ∧ ∀ ev ∈ rows, ∃ reason, refusalAt L s ev = some reason
        ∧ (ApplyOutcome.rejected reason).refreshesKey = false
  | _ => False

variable {L cfg}

/-- Rows that are all refused for reasons other than their signature leave
the state as it was. -/
theorem applyRows_of_refused {s : SyncState σ} {rows : List FederatedEvent}
    (h : ∀ ev ∈ rows, ∃ reason, refusalAt L s ev = some reason
      ∧ (ApplyOutcome.rejected reason).refreshesKey = false) :
    applyRows L s rows = (false, s) := by
  induction rows with
  | nil => rfl
  | cons ev rest ih =>
    obtain ⟨reason, href, hkey⟩ := h ev List.mem_cons_self
    rw [applyRows, applyRow_of_refusal href, hkey]
    exact ih (fun e he => h e (List.mem_cons_of_mem _ he))

/-- **What a page of fresh rows can do**: stop at a refused signature, move
the cursor on, or have every row refused in the state it found. -/
theorem applyRows_progress {s : SyncState σ} {rows : List FederatedEvent}
    (hfresh : ∀ ev ∈ rows, s.sinceSeq < ev.seq) :
    (applyRows L s rows).1 = true ∨ s.sinceSeq < (applyRows L s rows).2.sinceSeq
      ∨ ∀ ev ∈ rows, ∃ reason, refusalAt L s ev = some reason
        ∧ (ApplyOutcome.rejected reason).refreshesKey = false := by
  induction rows with
  | nil => exact Or.inr (Or.inr fun ev hev => absurd hev List.not_mem_nil)
  | cons first rest ih =>
    cases hr : refusalAt L s first with
    | none =>
      -- the first row taken moves the cursor, and the rest never moves it back
      refine Or.inr (Or.inl ?_)
      rw [applyRows_cons hr]
      refine lt_of_lt_of_le ?_ (sinceSeq_le_applyRows _ rest)
      rw [sinceSeq_applyRow hr]
      exact lt_max_of_lt_right (hfresh first List.mem_cons_self)
    | some reason =>
      cases hkey : (ApplyOutcome.rejected reason).refreshesKey with
      | true =>
        refine Or.inl ?_
        rw [applyRows, applyRow_of_refusal hr, hkey]
        rfl
      | false =>
        have hskip : applyRows L s (first :: rest) = applyRows L s rest := by
          rw [applyRows, applyRow_of_refusal hr, hkey]
          rfl
        rw [hskip]
        refine (ih fun ev hev => hfresh ev (List.mem_cons_of_mem _ hev)).imp id
          (Or.imp id fun hall ev hev => ?_)
        obtain rfl | hev := List.mem_cons.mp hev
        · exact ⟨reason, hr, hkey⟩
        · exact hall ev hev

/-- A stalled page changes nothing: the next iteration finds the same
state. -/
theorem pageStep_of_stalled {s : SyncState σ} {page : EventPage} (h : Stalled L s page)
    (did : Option Json) : pageStep L cfg s page did = s := by
  cases page with
  | snapshotRequired => exact absurd h (by simp [Stalled])
  | failed => exact absurd h (by simp [Stalled])
  | events rows nextSeq hasMore =>
    obtain ⟨hne, hmore, hall⟩ := h
    simp [pageStep, hne, hmore, applyRows_of_refused hall]

/-- A refused signature ends the drain. -/
theorem pageStep_of_refresh (cfg : ReplicaConfig) {s : SyncState σ} {page : EventPage}
    (h : (applyRows L s page.rows).1 = true) (did : Option Json) :
    (pageStep L cfg s page did).point = .idle := by
  cases page with
  | snapshotRequired => exact absurd h (by simp [EventPage.rows, applyRows])
  | failed => exact absurd h (by simp [EventPage.rows, applyRows])
  | events rows nextSeq hasMore =>
    have h : (applyRows L s rows).1 = true := h
    unfold pageStep
    by_cases hempty : rows.isEmpty = true <;> simp [hempty, h]

/-- A page of an honest seed that is not stalled leaves the loop or moves
the cursor on. -/
theorem pageStep_of_not_stalled {s : SyncState σ} {log : List FederatedEvent} {size : ℕ}
    (h : ¬ Stalled L s (servePage log size s.sinceSeq)) (did : Option Json) :
    (pageStep L cfg s (servePage log size s.sinceSeq) did).point ≠ .draining
      ∨ s.sinceSeq < (pageStep L cfg s (servePage log size s.sinceSeq) did).sinceSeq := by
  have hfresh : ∀ ev ∈ (log.filter (fun ev => s.sinceSeq < ev.seq)).take size,
      s.sinceSeq < ev.seq := by
    intro ev hev
    simpa using (List.mem_filter.mp (List.mem_of_mem_take hev)).2
  rw [(cursor_pageStep cfg s _ did).1]
  obtain hstop | hmoved | hall := applyRows_progress (L := L) hfresh
  · exact Or.inl (by rw [pageStep_of_refresh cfg hstop]; simp)
  · exact Or.inr hmoved
  · refine Or.inl fun hdrain => h ?_
    -- still draining after a page without an accepted row: rows, and more to come
    unfold servePage pageStep at hdrain
    simp only [applyRows_of_refused hall] at hdrain
    refine ⟨fun hempty => ?_, ?_, hall⟩
    · simp [hempty] at hdrain
    · by_contra hmore
      simp only [Bool.not_eq_true] at hmore
      simp only [hmore, Bool.false_eq_true, if_false] at hdrain
      split at hdrain <;> simp at hdrain

/-- The rows of the log after a number. -/
def remaining (log : List FederatedEvent) (sinceSeq : ℤ) : ℕ :=
  (log.filter (fun ev => sinceSeq < ev.seq)).length

/-- Moving the cursor to a row of the log leaves fewer rows. -/
theorem remaining_lt {log : List FederatedEvent} {since since' : ℤ} (hlt : since < since')
    (hmem : ∃ ev ∈ log, since' = ev.seq) : remaining log since' < remaining log since := by
  obtain ⟨row, hrow, rfl⟩ := hmem
  unfold remaining
  have hsub : (log.filter (fun ev => row.seq < ev.seq)).Sublist
      (log.filter (fun ev => since < ev.seq)) := by
    refine List.monotone_filter_right log fun ev hev => ?_
    simp only [decide_eq_true_eq] at hev ⊢
    exact hlt.trans hev
  refine lt_of_le_of_ne hsub.length_le fun hlen => ?_
  have heq := hsub.eq_of_length hlen
  have hin : row ∈ log.filter (fun ev => since < ev.seq) := by simp [hrow, hlt]
  rw [← heq] at hin
  simp at hin

/-- An iteration that stays in the loop and moves the cursor leaves fewer
rows of the log. -/
theorem remaining_pageStep {s : SyncState σ} {log : List FederatedEvent} {size : ℕ}
    {did : Option Json}
    (h : s.sinceSeq < (pageStep L cfg s (servePage log size s.sinceSeq) did).sinceSeq) :
    remaining log (pageStep L cfg s (servePage log size s.sinceSeq) did).sinceSeq
      < remaining log s.sinceSeq := by
  refine remaining_lt h ?_
  rw [(cursor_pageStep cfg s _ did).1] at h ⊢
  obtain hsame | ⟨ev, hev, hseq⟩ := sinceSeq_applyRows_mem (L := L) s
    (servePage log size s.sinceSeq).rows
  · rw [hsame] at h
    exact absurd h (lt_irrefl _)
  · exact ⟨ev, (List.mem_filter.mp (List.mem_of_mem_take hev)).1, hseq⟩

/-- **A drain makes progress exactly where no page it gets is stalled.** -/
theorem drain_progress_iff (L : Libs) (cfg : ReplicaConfig) (s : SyncState σ)
    (log : List FederatedEvent) (size : ℕ → ℕ) (did : ℕ → Option Json) :
    DrainProgress L cfg log size did s
      ↔ ∀ i, (drainState L cfg log size did s i).point = .draining →
          ¬ Stalled L (drainState L cfg log size did s i)
            (servePage log (size i) (drainState L cfg log size did s i).sinceSeq) := by
  have hnext : ∀ i, (drainState L cfg log size did s i).point = .draining →
      drainState L cfg log size did s (i + 1)
        = pageStep L cfg (drainState L cfg log size did s i)
            (servePage log (size i) (drainState L cfg log size did s i).sinceSeq) (did i) :=
    fun i hi => if_pos hi
  constructor
  · rintro ⟨hprog, _⟩ i hi hstall
    obtain hleft | hmoved := hprog i hi
    · rw [hnext i hi, pageStep_of_stalled hstall] at hleft
      exact hleft hi
    · rw [hnext i hi, pageStep_of_stalled hstall] at hmoved
      exact absurd hmoved (lt_irrefl _)
  · intro hcond
    have hprog : ∀ i, (drainState L cfg log size did s i).point = .draining →
        (drainState L cfg log size did s (i + 1)).point ≠ .draining
          ∨ (drainState L cfg log size did s i).sinceSeq
              < (drainState L cfg log size did s (i + 1)).sinceSeq := by
      intro i hi
      rw [hnext i hi]
      exact pageStep_of_not_stalled (hcond i hi) (did i)
    refine ⟨hprog, ?_⟩
    by_contra hnever
    have hall : ∀ n, (drainState L cfg log size did s n).point = .draining :=
      fun n => by_contra fun hn => hnever ⟨n, hn⟩
    -- a drain that never ends uses up the log
    have hbound : ∀ n, remaining log (drainState L cfg log size did s n).sinceSeq + n
        ≤ remaining log s.sinceSeq := by
      intro n
      induction n with
      | zero => exact le_refl _
      | succ n ih =>
        have hmoved := (hprog n (hall n)).resolve_left (not_not.mpr (hall (n + 1)))
        rw [hnext n (hall n)] at hmoved ⊢
        have := remaining_pageStep hmoved
        omega
    have := hbound (remaining log s.sinceSeq + 1)
    omega

end Progress

end Replica

namespace Sample

open Replica

/-- A log whose second event is missing, with one more event at the end. -/
def gapLog : List FederatedEvent := [event1, event3, { event3 with seq := 4 }]

end Sample

namespace Replica

/-- **A wrongly chained row stalls the drain**: served one row at a time, the
log with the gap is never drained. The first event is taken, and from then
on every iteration fetches the third and refuses it. -/
theorem drain_stalls :
    ¬ DrainProgress Sample.libs Sample.config Sample.gapLog (fun _ => 1) (fun _ => none)
        Sample.joined := by
  rintro ⟨hprog, _⟩
  have hfirst : drainState Sample.libs Sample.config Sample.gapLog (fun _ => 1) (fun _ => none)
      Sample.joined 1 = Sample.afterEvent1 := by
    have hrows : applyRows Sample.libs Sample.joined [Sample.event1]
        = (false, Sample.afterEvent1) := applyRows_cons Sample.refusalAt_event1 []
    have hserve : servePage Sample.gapLog 1 Sample.joined.sinceSeq
        = .events [Sample.event1] 1 true := rfl
    rw [drainState, drainState, if_pos (show Sample.joined.point = .draining from rfl), hserve]
    simp [pageStep, hrows]
  have hstall : Stalled Sample.libs Sample.afterEvent1
      (servePage Sample.gapLog 1 Sample.afterEvent1.sinceSeq) := by
    rw [show Sample.afterEvent1.sinceSeq = 1 by rw [Sample.afterEvent1_eq]]
    refine ⟨by decide, rfl, fun ev hev => ?_⟩
    obtain rfl : ev = Sample.event3 := List.mem_singleton.mp hev
    exact ⟨_, Sample.refusalAt_event3, rfl⟩
  have hdrain : Sample.afterEvent1.point = .draining := by rw [Sample.afterEvent1_eq]; rfl
  have hsecond : drainState Sample.libs Sample.config Sample.gapLog (fun _ => 1) (fun _ => none)
      Sample.joined 2 = Sample.afterEvent1 := by
    rw [drainState, hfirst, if_pos hdrain]
    exact pageStep_of_stalled hstall none
  have h := hprog 1 (hfirst ▸ hdrain)
  rw [hfirst, hsecond] at h
  exact h.elim (fun hne => hne hdrain) (lt_irrefl _)

end Replica
