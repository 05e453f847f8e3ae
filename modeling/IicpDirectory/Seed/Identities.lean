import IicpDirectory.Seed.DisplayNames

/-!
# An identity goes one way

The identity of an operator is active until it is rotated, revoked or
restricted, and what it then is it is for good. A call about an identity that
is retired is refused and changes nothing, and so does every call that is
answered with an error.

This holds of the calls that look at the status where they write: a rotation
and a revocation, and an acceptance. The others – a registration, a rename in
the tables, and what a data subject asks for – look first and write later,
and between the two the identity can be retired by someone else. What they
then write they write to a retired identity, and a restriction writes over a
revocation. And there are errors that come too late: of a commit that was
carried through, and of the look at what was accepted.

`identities_one_way` is the law for the runs in which each such write finds
its identity not retired and no error comes too late.
-/

namespace Operators

variable {fold : String → String}

/-- **What is retired stays as it is.** -/
def Lasting (t t' : Operators fold) : Prop :=
  ∀ key status, status ≠ .active → t.status key = some status → t'.status key = some status

/-- Every row but that of one operator stays. -/
def KeepsOthers (operatorPubkey : String) (t t' : Operators fold) : Prop :=
  ∀ key ≠ fold operatorPubkey, ∀ r, t.find key = some r → t'.find key = some r

theorem Lasting.refl (t : Operators fold) : t.Lasting t := fun _ _ _ h => h

theorem KeepsOthers.refl (operatorPubkey : String) (t : Operators fold) :
    KeepsOthers operatorPubkey t t := fun _ _ _ h => h

theorem KeepsOthers.trans {operatorPubkey : String} {t mid t' : Operators fold}
    (h : KeepsOthers operatorPubkey t mid) (h' : KeepsOthers operatorPubkey mid t') :
    KeepsOthers operatorPubkey t t' := fun key hne r hr => h' key hne r (h key hne r hr)

/-- **An operation on an identity that is not retired leaves the retired
ones.** -/
theorem KeepsOthers.lasting {operatorPubkey : String} {t t' : Operators fold}
    (h : KeepsOthers operatorPubkey t t') (hactive : ¬ t.Retired operatorPubkey) : t.Lasting t' := by
  intro key status hstatus hkey
  obtain ⟨r, hr, rfl⟩ := Option.map_eq_some_iff.mp hkey
  have hne : key ≠ fold operatorPubkey := by
    rintro rfl
    exact hactive ⟨r, hr, hstatus⟩
  unfold Operators.status
  rw [h key hne r hr]
  rfl

theorem keepsOthers_set (t : Operators fold) (operatorPubkey : String)
    (f : OperatorRow → OperatorRow) (hf : ∀ r, (f r).operatorPubkey = r.operatorPubkey) :
    KeepsOthers operatorPubkey t (t.set operatorPubkey f hf) := by
  intro key hne r hr
  rw [find_set, if_neg hne]
  exact hr

theorem keepsOthers_insertNew (operatorPubkey : String) (t : Operators fold) (r : OperatorRow) :
    KeepsOthers operatorPubkey t (t.insertNew r) := by
  intro key _ old hold
  rw [find_insertNew]
  split
  · next hkey =>
    unfold row
    rw [← hkey, hold]
    rfl
  · exact hold

theorem keepsOthers_delete (operatorPubkey : String) (t : Operators fold) :
    KeepsOthers operatorPubkey t (Table.delete t (fold operatorPubkey)) := by
  intro key hne r hr
  rw [Table.find_delete, if_neg hne]
  exact hr

/-- Another key takes the row, if it is free or the same. -/
theorem keepsOthers_put {operatorPubkey : String} {t : Operators fold} {r : OperatorRow}
    (h : fold r.operatorPubkey = fold operatorPubkey ∨ t.row r.operatorPubkey = none) :
    KeepsOthers operatorPubkey t (t.put r) := by
  intro key hne old hold
  rw [find_put, if_neg]
  · exact hold
  · rintro rfl
    rcases h with hsame | hfree
    · exact hne hsame
    · exact absurd (hold.symm.trans hfree) (by simp)

/-- An update that does not touch the status. -/
theorem lasting_set (t : Operators fold) (operatorPubkey : String) (f : OperatorRow → OperatorRow)
    (hf : ∀ r, (f r).operatorPubkey = r.operatorPubkey)
    (hstatus : ∀ r, (f r).identityStatus = r.identityStatus) :
    t.Lasting (t.set operatorPubkey f hf) := by
  intro key status _ hkey
  obtain ⟨r, hr, rfl⟩ := Option.map_eq_some_iff.mp hkey
  unfold Operators.status
  rw [find_set, hr]
  split
  · exact congrArg some (hstatus r)
  · rfl

theorem lasting_insertNew (t : Operators fold) (r : OperatorRow) : t.Lasting (t.insertNew r) := by
  intro key status _ hkey
  obtain ⟨old, hold, rfl⟩ := Option.map_eq_some_iff.mp hkey
  unfold Operators.status
  rw [find_insertNew]
  split
  · next hsame =>
    unfold row
    rw [← hsame, hold]
    rfl
  · rw [hold]
    rfl

theorem lasting_upsertOperator (t : Operators id) (r : OperatorRegistration) (nowMs : ℤ) :
    t.Lasting (t.upsertOperator r nowMs) := by
  unfold upsertOperator
  cases t.row r.operatorPubkey with
  | none => exact lasting_insertNew t _
  | some row =>
    cases r.displayName with
    | none => exact .refl t
    | some name => exact lasting_set t _ (OperatorRow.named name) (fun _ => rfl) fun _ => rfl

/-- A rotation leaves every row but the old one's. -/
theorem keepsOthers_rotated (t : Operators fold) (old : String) (succ : OperatorRow)
    (f : OperatorRow → OperatorRow) (hf : ∀ r, (f r).operatorPubkey = r.operatorPubkey) :
    KeepsOthers old t ((t.insertNew succ).set old f hf) :=
  (keepsOthers_insertNew old t succ).trans (keepsOthers_set _ old f hf)

instance (t : Operators fold) (operatorPubkey : String) : Decidable (t.Retired operatorPubkey) :=
  decidable_of_iff ((t.row operatorPubkey).any fun r => r.identityStatus ≠ .active) (by
    unfold Retired
    cases t.row operatorPubkey with
    | none => simp
    | some r => simp)

/-- **What is to be said of one step of a call** that is about an operator:
what is retired stays; where that operator is retired, and it is not the call
that retired it, nothing changes, and a call that has written nothing does not
succeed; and a call that has an error to answer has changed nothing. -/
structure OneWay {σ : Type} (operators : σ → Operators fold) (s s' : σ) (about : Option String)
    (moved spotless spotless' : Prop) : Prop where
  lasting : (operators s).Lasting (operators s')
  refused : ∀ operatorPubkey ∈ about, (operators s).Retired operatorPubkey → ¬ moved →
    s' = s ∧ (spotless → spotless')
  traceless : spotless' → spotless ∧ s' = s

section OneWay

variable {σ : Type} {operators : σ → Operators fold} {s s' : σ} {about : Option String}
  {moved spotless spotless' : Prop}

/-- A step that writes nothing. -/
theorem OneWay.idle (h : s' = s) (hback : spotless' → spotless)
    (hrefused : ∀ operatorPubkey ∈ about, (operators s).Retired operatorPubkey →
      spotless → spotless') :
    OneWay operators s s' about moved spotless spotless' where
  lasting := h ▸ .refl _
  refused operatorPubkey hmem hretired _ := ⟨h, hrefused operatorPubkey hmem hretired⟩
  traceless hspotless := ⟨hback hspotless, h⟩

/-- A step that writes. -/
theorem OneWay.wrote (hin : ∀ operatorPubkey ∈ about, (operators s).Retired operatorPubkey → moved)
    (hlasting : (operators s).Lasting (operators s')) (hspot : ¬ spotless') :
    OneWay operators s s' about moved spotless spotless' where
  lasting := hlasting
  refused operatorPubkey hmem hretired hmoved :=
    absurd (hin operatorPubkey hmem hretired) hmoved
  traceless hspotless := absurd hspotless hspot

end OneWay

end Operators

/-! ## In memory -/

namespace MemoryPhase

/-- The operator a call is about, until it has returned. -/
def about : MemoryPhase → Option String
  | .ready call => some call.operatorPubkey
  | .checked r => some r.operatorPubkey
  | .free r => some r.operatorPubkey
  | .persisted r => some r.operatorPubkey
  | .rotating old _ _ => some old
  | .revoking operatorPubkey => some operatorPubkey
  | .subject operatorPubkey _ => some operatorPubkey
  | .cleared operatorPubkey _ => some operatorPubkey
  | .nodesCleared operatorPubkey _ => some operatorPubkey
  | .removed operatorPubkey _ _ => some operatorPubkey
  | .returned _ => none

/-- The call has itself rotated or revoked the identity, or taken its row
away. -/
def Moved : MemoryPhase → Prop
  | .rotating _ _ _ => True
  | .revoking _ => True
  | .removed _ _ _ => True
  | _ => False

/-- The call has written nothing, and if it has returned it has failed. -/
def Spotless : MemoryPhase → Prop
  | .ready _ => True
  | .checked _ => True
  | .free _ => True
  | .subject _ _ => True
  | .returned answer => answer.failed = true
  | _ => False

theorem not_spotless {answer : OperatorAnswer} (h : answer.failed = false) :
    ¬ (MemoryPhase.returned answer).Spotless := by
  show ¬ answer.failed = true
  rw [h]
  exact Bool.false_ne_true

/-- **What the next section writes it writes in time**: where it does not
look at the status itself, the identity is not retired; and a row that is kept
under another key does not take the place of one that was rotated or
revoked. -/
def InTime (L : OperatorLibs) (t : Operators id) : MemoryPhase → Prop
  | .free r => ¬ t.Retired r.operatorPubkey
  | .persisted r => r.displayName.isSome → ¬ t.Retired r.operatorPubkey
  | .subject operatorPubkey _ => ¬ t.Retired operatorPubkey
  | .cleared operatorPubkey _ => ¬ t.Retired operatorPubkey
  | .nodesCleared operatorPubkey _ => ¬ t.Retired operatorPubkey
  | .removed operatorPubkey _ receipt =>
    ∀ status ∈ t.status (Operators.anonymousPubkey L receipt.trackingId operatorPubkey),
      status = .active ∨ status = .restricted
  | _ => True

instance (L : OperatorLibs) (t : Operators id) (p : MemoryPhase) : Decidable (p.InTime L t) := by
  cases p <;> unfold InTime <;> infer_instance

end MemoryPhase

namespace OperatorMemory

open Operators

/-- What is said of one section of a call. -/
abbrev SectionOneWay (m m' : OperatorMemory) (p p' : MemoryPhase) : Prop :=
  OneWay OperatorMemory.operators m m' p.about p.Moved p.Spotless p'.Spotless

theorem oneWay_start (t : MemoryStep) (m : OperatorMemory) (call : OperatorCall) :
    SectionOneWay m (m.start t call).1 (.ready call) (m.start t call).2 := by
  -- one that is answered at once, with an error or without
  have hidle : ∀ p' : MemoryPhase, (m.operators.Retired call.operatorPubkey → p'.Spotless) →
      SectionOneWay m m (.ready call) p' := fun p' h =>
    .idle rfl (fun _ => trivial) fun operatorPubkey hmem hretired _ => by
      obtain rfl := Option.mem_some_iff.mp hmem
      exact h hretired
  -- and one that finds its operator active and writes
  have hwrote : ∀ (operators : Operators id) (p' : MemoryPhase) (r : OperatorRow),
      m.operators.activeRow call.operatorPubkey = .ok r → m.operators.Lasting operators →
        ¬ p'.Spotless → SectionOneWay m { m with operators := operators } (.ready call) p' :=
    fun operators p' r hactive hlasting hspot =>
      .wrote (fun operatorPubkey hmem hretired => by
        obtain rfl := Option.mem_some_iff.mp hmem
        exact absurd hretired (not_retired_of_activeRow hactive)) hlasting hspot
  unfold start
  cases call with
  | register r =>
    dsimp only
    split
    · exact hidle _ fun _ => rfl
    · exact hidle _ fun _ => trivial
  | rename operatorPubkey displayName =>
    unfold renameOperator
    dsimp only
    split
    · exact hidle _ fun _ => rfl
    · next r hactive =>
      exact hwrote _ _ r hactive (lasting_set _ _ (OperatorRow.named displayName) (fun _ => rfl)
        fun _ => rfl) (MemoryPhase.not_spotless rfl)
  | rotate old new requestedEpoch reasonClass =>
    dsimp only
    split
    · exact hidle _ fun _ => rfl
    · next hrotated =>
      obtain ⟨r, hactive, -, -, rfl⟩ := rotateIdentity_eq_ok hrotated
      exact hwrote _ _ r hactive ((keepsOthers_rotated _ old _ (OperatorRow.rotated _)
        fun _ => rfl).lasting
        (not_retired_of_activeRow hactive)) id
  | revoke operatorPubkey reasonClass =>
    dsimp only
    split
    · exact hidle _ fun _ => rfl
    · next hrevoked =>
      obtain ⟨r, hactive, rfl⟩ := revokeIdentity_eq_ok hrevoked
      exact hwrote _ _ r hactive ((keepsOthers_set _ operatorPubkey OperatorRow.revoked
        fun _ => rfl).lasting (not_retired_of_activeRow hactive)) id
  | accept operatorPubkey termsVersion dpaVersion nonceSha256 =>
    unfold acceptGovernance
    dsimp only
    split
    · exact hidle _ fun _ => rfl
    · next r hactive =>
      exact hwrote _ _ r hactive (lasting_set _ _ (OperatorRow.accepted _ _ _ _) (fun _ => rfl)
        fun _ => rfl) (MemoryPhase.not_spotless rfl)
  | dsr operatorPubkey action trackingId =>
    dsimp only
    split
    · exact hidle _ fun _ => rfl
    · next hactive =>
      split
      · exact hidle _ fun hretired => absurd hretired (not_retired_of_activeRow hactive)
      · exact hidle _ fun _ => trivial

/-- **What is said of a section holds of every one that writes in time.** -/
theorem oneWay_advance (L : OperatorLibs) (t : MemoryStep) (m : OperatorMemory) (p : MemoryPhase)
    (h : p.InTime L m.operators) :
    SectionOneWay m (m.advance L t p).1 p (m.advance L t p).2 := by
  -- a section of an operator that is not retired
  have hin : ∀ {operatorPubkey : String}, ¬ m.operators.Retired operatorPubkey → ∀ key : String,
      key ∈ some operatorPubkey → m.operators.Retired key → p.Moved := by
    intro operatorPubkey hactive key hmem hretired
    obtain rfl := Option.mem_some_iff.mp hmem
    exact absurd hretired hactive
  unfold advance
  cases p with
  | ready call => exact oneWay_start t m call
  | checked r =>
    dsimp only
    split
    · exact .idle rfl (fun _ => trivial) fun _ _ _ _ => rfl
    · exact .idle rfl (fun _ => trivial) fun _ _ _ _ => trivial
  | free r => exact .wrote (hin h) (.refl _) id
  | persisted r =>
    refine ⟨lasting_upsertOperator _ r t.nowMs, fun operatorPubkey hmem hretired _ => ⟨?_, False.elim⟩,
      fun hspot => absurd hspot (MemoryPhase.not_spotless rfl)⟩
    obtain rfl := Option.mem_some_iff.mp hmem
    -- it comes with no display name, and there is a row
    have hname : r.displayName = none := by
      rw [← Option.not_isSome_iff_eq_none]
      exact fun hname => h hname hretired
    obtain ⟨row, hrow, -⟩ := hretired
    dsimp only
    unfold upsertOperator
    rw [hrow, hname]
    rfl
  | rotating old new epoch =>
    exact .wrote (fun _ _ _ => trivial) (.refl _)
      (MemoryPhase.not_spotless rfl)
  | revoking operatorPubkey =>
    exact .wrote (fun _ _ _ => trivial) (.refl _)
      (MemoryPhase.not_spotless rfl)
  | subject operatorPubkey receipt =>
    dsimp only
    split
    · exact .idle rfl (fun _ => trivial) fun _ _ _ _ => rfl
    · exact .wrote (hin h) (lasting_set _ _ OperatorRow.cleared (fun _ => rfl) fun _ => rfl) id
  | cleared operatorPubkey receipt =>
    refine .wrote (hin h) (.refl _) ?_
    dsimp only
    split
    · exact id
    · exact MemoryPhase.not_spotless rfl
  | nodesCleared operatorPubkey receipt =>
    dsimp only
    split
    · exact .idle rfl (fun h => absurd h (MemoryPhase.not_spotless rfl)) fun _ _ _ h => h.elim
    · exact .wrote (hin h) ((keepsOthers_delete operatorPubkey _).lasting h) id
  | removed operatorPubkey r receipt =>
    refine .wrote (fun _ _ _ => trivial) ?_ (MemoryPhase.not_spotless rfl)
    intro key status hstatus hkey
    show Operators.status (Operators.put _ _) key = _
    unfold Operators.status
    rw [find_put]
    split
    · next hsame =>
      rw [hsame] at hkey
      rcases h status hkey with hactive | hrestricted
      · exact absurd hactive hstatus
      · exact congrArg some hrestricted.symm
    · exact hkey
  | returned answer => exact .idle rfl id fun _ hmem => absurd hmem (by simp [MemoryPhase.about])

end OperatorMemory

namespace MemoryPool

open Operators

/-- **What is to be said of a run**: what is retired at any time is so at the
end; a section about a retired operator changes nothing, unless it is that of
the call that retired it, and a call that has written nothing does not come to
succeed by it; and a call that is answered with an error in the end has
changed nothing in any of its sections. -/
structure RunsOneWay (L : OperatorLibs) (s : MemoryPool) (steps : List MemoryStep) : Prop where
  lasting : ∀ n key status, status ≠ .active →
    (Run.after (step L) s (steps.take n)).memory.operators.status key = some status →
      (Run.after (step L) s steps).memory.operators.status key = some status
  refused : Run.Along (step L) (fun s t => ∀ operatorPubkey ∈ (s.calls t.call).about,
    s.memory.operators.Retired operatorPubkey → ¬ (s.calls t.call).Moved →
      (step L s t).memory = s.memory
        ∧ ((s.calls t.call).Spotless → ((step L s t).calls t.call).Spotless)) s steps
  traceless : ∀ i answer, (Run.after (step L) s steps).calls i = .returned answer →
    answer.failed = true →
      Run.Along (step L) (fun s t => t.call = i → (step L s t).memory = s.memory) s steps

/-- What the next section of a call writes it writes in time. -/
def InTime (L : OperatorLibs) (s : MemoryPool) (t : MemoryStep) : Prop :=
  (s.calls t.call).InTime L s.memory.operators

instance (L : OperatorLibs) (s : MemoryPool) (t : MemoryStep) : Decidable (s.InTime L t) :=
  inferInstanceAs (Decidable ((s.calls t.call).InTime L s.memory.operators))

theorem oneWay_step (L : OperatorLibs) {s : MemoryPool} {t : MemoryStep} (h : s.InTime L t) :
    OperatorMemory.SectionOneWay s.memory (step L s t).memory (s.calls t.call)
      ((step L s t).calls t.call) := by
  rw [calls_step_self]
  exact OperatorMemory.oneWay_advance L t s.memory (s.calls t.call) h

/-- **In memory an identity goes one way** along the runs that write in
time. -/
theorem runsOneWay (L : OperatorLibs) {s : MemoryPool} {steps : List MemoryStep}
    (h : Run.Along (step L) (InTime L) s steps) : RunsOneWay L s steps where
  lasting n key status hstatus hkey := by
    have hstep : ∀ (s : MemoryPool) (t : MemoryStep),
        s.memory.operators.status key = some status → s.InTime L t →
          (step L s t).memory.operators.status key = some status :=
      fun s t hs hin => (oneWay_step L hin).lasting key status hstatus hs
    exact Run.invariant_from hstep h n hkey
  refused := by
    have hkeep : ∀ (s : MemoryPool) (t : MemoryStep), True → s.InTime L t → True :=
      fun _ _ _ _ => trivial
    exact Run.along_mono hkeep (fun s t _ hin => (oneWay_step L hin).refused) trivial h
  traceless i answer hreturned hfailed := by
    have hspotless : ((Run.after (step L) s steps).calls i).Spotless := by
      rw [hreturned]
      exact hfailed
    have hstep : ∀ (s : MemoryPool) (t : MemoryStep), s.InTime L t →
        ((step L s t).calls i).Spotless → (s.calls i).Spotless
          ∧ (t.call = i → (step L s t).memory = s.memory) := by
      intro s t hin hspot
      by_cases hcall : t.call = i
      · subst hcall
        obtain ⟨hbefore, hsame⟩ := (oneWay_step L hin).traceless hspot
        exact ⟨hbefore, fun _ => hsame⟩
      · rw [calls_step_of_ne L s t fun h => hcall h.symm] at hspot
        exact ⟨hspot, fun h => absurd h hcall⟩
    have hrun := Run.along_of_after (P := fun s : MemoryPool => (s.calls i).Spotless) hstep h
      hspotless
    exact hrun.2

end MemoryPool

/-! ## In the tables -/

namespace TablesPhase

/-- The operator a call is about, until it has returned. -/
def about : TablesPhase → Option String
  | .ready call => some call.operatorPubkey
  | .checked r => some r.operatorPubkey
  | .free r => some r.operatorPubkey
  | .persisted r => some r.operatorPubkey
  | .looked r _ => some r.operatorPubkey
  | .found operatorPubkey _ => some operatorPubkey
  | .accepted operatorPubkey => some operatorPubkey
  | .acceptRefused operatorPubkey => some operatorPubkey
  | .subject operatorPubkey _ _ _ => some operatorPubkey
  | .returned _ => none

/-- The call has written nothing, and if it has returned it has failed. -/
def Spotless : TablesPhase → Prop
  | .ready _ => True
  | .checked _ => True
  | .free _ => True
  | .found _ _ => True
  | .acceptRefused _ => True
  | .subject _ _ _ _ => True
  | .returned answer => answer.failed = true
  | _ => False

theorem not_spotless {answer : OperatorAnswer} (h : answer.failed = false) :
    ¬ (TablesPhase.returned answer).Spotless := by
  show ¬ answer.failed = true
  rw [h]
  exact Bool.false_ne_true

/-- **What the next step writes it writes in time, and what it answers it
answers in time**: no commit is lost; where a write does not look at the
status itself, the identity is not retired; and what was accepted is still
there to be read, and is. -/
def InTime {fold : String → String} (t : Turn) (db : OperatorTables fold) (p : TablesPhase) : Prop :=
  t.server.commit ≠ .lost ∧ match p with
    | .free r => ¬ db.operators.Retired r.operatorPubkey
    | .looked r true => ∀ name ∈ r.displayName, t.server.executes && OperatorTables.nameFits name →
      ¬ db.operators.Retired r.operatorPubkey
    | .found operatorPubkey _ => ¬ db.operators.Retired operatorPubkey
    | .accepted operatorPubkey => t.server.answersRead 0
      ∧ ((db.operators.row operatorPubkey).bind OperatorRow.termsAcceptedAt).isSome
    | .subject operatorPubkey _ _ _ => ¬ db.operators.Retired operatorPubkey
    | _ => True

instance {fold : String → String} (t : Turn) (db : OperatorTables fold) (p : TablesPhase) :
    Decidable (p.InTime t db) := by
  unfold InTime
  split <;> infer_instance

end TablesPhase

namespace OperatorTables

open Operators

variable {fold : String → String}

/-- What is said of one step of a call. -/
abbrev TurnOneWay (db db' : OperatorTables fold) (p p' : TablesPhase) : Prop :=
  OneWay OperatorTables.operators db db' p.about False p.Spotless p'.Spotless

/-- A step that writes nothing, of a call that has written nothing and is not
answered unless with an error. -/
theorem turnOneWay_idle (db : OperatorTables fold) {p p' : TablesPhase} (hp : p.Spotless)
    (hp' : ∀ operatorPubkey ∈ p.about, db.operators.Retired operatorPubkey → p'.Spotless) :
    TurnOneWay db db p p' :=
  .idle rfl (fun _ => hp) fun operatorPubkey hmem hretired _ => hp' operatorPubkey hmem hretired

/-- **A transaction about an operator that is not retired**, with what the
call makes of its outcome. -/
theorem turnOneWay_run {server : Server} (hcommit : server.commit ≠ .lost)
    {body : List (OperatorTables fold → Option (OperatorTables fold))} {db : OperatorTables fold}
    {p p' : TablesPhase} (hp : p.Spotless)
    (hactive : ∀ operatorPubkey ∈ p.about, ¬ db.operators.Retired operatorPubkey)
    (hlasting : db.operators.Lasting (Transaction.run server body db).2.operators)
    (hfail : (Transaction.run server body db).1 = false → p'.Spotless)
    (hdone : (Transaction.run server body db).1 = true → ¬ p'.Spotless) :
    TurnOneWay db (Transaction.run server body db).2 p p' := by
  cases hrun : (Transaction.run server body db).1 with
  | false =>
    rw [Transaction.snd_run_of_refused hcommit hrun]
    exact turnOneWay_idle db hp fun _ _ _ => hfail hrun
  | true =>
    exact .wrote (fun operatorPubkey hmem hretired => hactive operatorPubkey hmem hretired)
      hlasting (hdone hrun)

theorem keepsOthers_rekey {operatorPubkey anonymous : String} {db db' : OperatorTables fold}
    (h : db.rekey operatorPubkey anonymous = some db') :
    KeepsOthers operatorPubkey db.operators db'.operators := by
  unfold rekey at h
  split at h
  · exact Option.some.inj h ▸ .refl _ _
  · next r _ =>
    split at h
    · exact absurd h (by simp)
    · next hfree =>
      obtain rfl := Option.some.inj h
      refine (keepsOthers_delete operatorPubkey db.operators).trans (keepsOthers_put ?_)
      by_cases hsame : fold anonymous = fold operatorPubkey
      · exact Or.inl hsame
      · refine Or.inr ?_
        have hnone : db.operators.row anonymous = none := by
          rw [← Option.not_isSome_iff_eq_none]
          exact fun hsome => hfree ⟨hsame, hsome⟩
        show Table.find (Table.delete db.operators (fold operatorPubkey)) (fold anonymous) = none
        rw [Table.find_delete, if_neg hsame]
        exact hnone

/-- What a data subject asks for leaves every row but that of the operator. -/
theorem keepsOthers_run_dsrBody (L : OperatorLibs) (server : Server) (db : OperatorTables fold)
    (operatorPubkey : String) (action : DsrAction) (trackingId : String) (ids : List String)
    (nowMs : ℤ) (a : DataSubjectAction) :
    KeepsOthers operatorPubkey db.operators (Transaction.run server
      (dsrBody L operatorPubkey action trackingId ids nowMs ++ [insertDsrAction a])
        db).2.operators := by
  refine Transaction.run_rel
    (R := fun db db' : OperatorTables fold => KeepsOthers operatorPubkey db.operators db'.operators)
    (fun db => .refl _ _) (fun h h' => h.trans h') (fun statement hmem db db' h => ?_) server db
  rcases List.mem_append.mp hmem with hbody | hrecord
  · rcases mem_dsrBody hbody h with hsame | hset | hrekey
    · rw [hsame]
      exact .refl _ _
    · rw [hset]
      exact keepsOthers_set _ _ (restrictedRow action) fun _ => rfl
    · exact keepsOthers_rekey hrekey
  · obtain rfl := List.mem_singleton.mp hrecord
    unfold insertDsrAction at h
    split at h
    · exact absurd h (by simp)
    · exact Option.some.inj h ▸ .refl _ _

theorem oneWay_rotate (L : OperatorLibs) {t : Turn} (hcommit : t.server.commit ≠ .lost)
    (db : OperatorTables fold) (old new : String) (requestedEpoch : Option ℕ)
    (reasonClass : String) :
    let r := db.rotateOperatorIdentity L t old new requestedEpoch reasonClass
    TurnOneWay db r.2 (.ready (.rotate old new requestedEpoch reasonClass))
      (.returned (.lifecycle r.1)) := by
  have hidle : ∀ e : OperatorLifecycleError,
      TurnOneWay db db (.ready (.rotate old new requestedEpoch reasonClass))
        (.returned (.lifecycle (.error e))) :=
    fun _ => turnOneWay_idle db trivial fun _ _ _ => rfl
  dsimp only
  unfold rotateOperatorIdentity
  split
  · exact hidle _
  · split
    · exact hidle _
    · split
      · exact hidle _
      · next r hactive =>
        split
        · exact hidle _
        · split
          · exact hidle _
          · have hin := not_retired_of_activeRow hactive
            refine turnOneWay_run hcommit trivial (fun operatorPubkey hmem => ?_) ?_ (fun h => ?_)
              fun h => ?_
            · obtain rfl := Option.mem_some_iff.mp hmem
              exact hin
            · rcases run_rotateBody L old new r
                (OperatorRow.nextEpoch r.rotationEpoch requestedEpoch) reasonClass t db with
                hsame | ⟨successorSha256, hoperators⟩
              · rw [hsame]
                exact .refl _
              · rw [hoperators]
                exact (keepsOthers_rotated _ old _ (rotatedRow _ successorSha256 reasonClass)
                  fun _ => rfl).lasting hin
            · dsimp only
              rw [h]
              rfl
            · dsimp only
              rw [h]
              exact TablesPhase.not_spotless rfl

theorem oneWay_revoke (L : OperatorLibs) {t : Turn} (hcommit : t.server.commit ≠ .lost)
    (db : OperatorTables fold) (operatorPubkey reasonClass : String) :
    let r := db.revokeOperatorIdentity L t operatorPubkey reasonClass
    TurnOneWay db r.2 (.ready (.revoke operatorPubkey reasonClass))
      (.returned (.lifecycle r.1)) := by
  have hidle : ∀ e : OperatorLifecycleError,
      TurnOneWay db db (.ready (.revoke operatorPubkey reasonClass))
        (.returned (.lifecycle (.error e))) :=
    fun _ => turnOneWay_idle db trivial fun _ _ _ => rfl
  dsimp only
  unfold revokeOperatorIdentity
  split
  · exact hidle _
  · split
    · exact hidle _
    · next hactive =>
      have hin := not_retired_of_activeRow hactive
      refine turnOneWay_run hcommit trivial (fun key hmem => ?_) ?_ (fun h => ?_) fun h => ?_
      · obtain rfl := Option.mem_some_iff.mp hmem
        exact hin
      · rcases run_revokeBody L operatorPubkey reasonClass t db with hsame | hoperators
        · rw [hsame]
          exact .refl _
        · rw [hoperators]
          exact (keepsOthers_set _ operatorPubkey (revokedRow t.nowMs reasonClass)
            fun _ => rfl).lasting hin
      · dsimp only
        rw [h]
        rfl
      · dsimp only
        rw [h]
        exact TablesPhase.not_spotless rfl

theorem oneWay_accept {t : Turn} (hcommit : t.server.commit ≠ .lost) (L : OperatorLibs)
    (db : OperatorTables fold) (operatorPubkey termsVersion dpaVersion nonceSha256 : String) :
    let r := db.start L t (.accept operatorPubkey termsVersion dpaVersion nonceSha256)
    TurnOneWay db r.1 (.ready (.accept operatorPubkey termsVersion dpaVersion nonceSha256)) r.2 := by
  dsimp only [start]
  unfold acceptTerms
  rw [Server.answers_eq_executes hcommit]
  cases hactive : db.operators.activeRow operatorPubkey with
  | error e =>
    refine turnOneWay_idle db trivial fun _ _ _ => ?_
    split
    · exact rfl
    · exact trivial
  | ok r =>
    have hin : ∀ key ∈ some operatorPubkey, db.operators.Retired key → False := by
      intro key hmem hretired
      obtain rfl := Option.mem_some_iff.mp hmem
      exact not_retired_of_activeRow hactive hretired
    cases t.server.executes with
    | false => exact turnOneWay_idle db trivial fun _ _ _ => rfl
    | true =>
      exact .wrote hin (lasting_set _ _ (OperatorRow.accepted _ _ _ _) (fun _ => rfl)
        fun _ => rfl) id

/-- A display name that is written to an operator leaves every status. -/
theorem lasting_setDisplayName (server : Server) (operatorPubkey name : String)
    (db : OperatorTables fold) :
    db.operators.Lasting (db.setDisplayName server operatorPubkey name).operators := by
  unfold setDisplayName
  split
  · exact lasting_set _ _ (OperatorRow.named name) (fun _ => rfl) fun _ => rfl
  · exact .refl _

theorem oneWay_start (L : OperatorLibs) {t : Turn} (hcommit : t.server.commit ≠ .lost)
    (db : OperatorTables fold) (call : OperatorCall) :
    TurnOneWay db (db.start L t call).1 (.ready call) (db.start L t call).2 := by
  cases call with
  | register r =>
    dsimp only [start]
    split
    · exact turnOneWay_idle db trivial fun _ _ _ => rfl
    · exact turnOneWay_idle db trivial fun _ _ _ => trivial
  | rename operatorPubkey displayName =>
    dsimp only [start]
    split
    · exact turnOneWay_idle db trivial fun _ _ _ => trivial
    · exact turnOneWay_idle db trivial fun _ _ _ => rfl
  | rotate old new requestedEpoch reasonClass =>
    exact oneWay_rotate L hcommit db old new requestedEpoch reasonClass
  | revoke operatorPubkey reasonClass => exact oneWay_revoke L hcommit db operatorPubkey reasonClass
  | accept operatorPubkey termsVersion dpaVersion nonceSha256 =>
    exact oneWay_accept hcommit L db operatorPubkey termsVersion dpaVersion nonceSha256
  | dsr operatorPubkey action trackingId =>
    dsimp only [start]
    unfold loadDsrSubject
    split
    · exact turnOneWay_idle db trivial fun _ _ _ => rfl
    · next ids hloaded =>
      have hin : ¬ db.operators.Retired operatorPubkey := by
        split at hloaded
        · exact absurd hloaded (by simp)
        · split at hloaded
          · exact absurd hloaded (by simp)
          · next hactive => exact not_retired_of_activeRow hactive
      have hretired : ∀ p' : TablesPhase, ∀ key ∈ some operatorPubkey, db.operators.Retired key →
          p'.Spotless := by
        intro p' key hmem hretired
        obtain rfl := Option.mem_some_iff.mp hmem
        exact absurd hretired hin
      split
      · exact turnOneWay_idle db trivial (hretired _)
      · exact turnOneWay_idle db trivial (hretired _)

/-- **What is said of a step holds of every one that is in time.** -/
theorem oneWay_advance (L : OperatorLibs) (t : Turn) (db : OperatorTables fold) (p : TablesPhase)
    (h : p.InTime t db) : TurnOneWay db (db.advance L t p).1 p (db.advance L t p).2 := by
  obtain ⟨hcommit, hin⟩ := h
  -- a step about an operator that is not retired
  have honly : ∀ {operatorPubkey : String}, ¬ db.operators.Retired operatorPubkey →
      ∀ key ∈ some operatorPubkey, ¬ db.operators.Retired key := by
    intro operatorPubkey hactive key hmem
    obtain rfl := Option.mem_some_iff.mp hmem
    exact hactive
  unfold advance
  cases p with
  | ready call => exact oneWay_start L hcommit db call
  | checked r =>
    dsimp only
    split
    · exact turnOneWay_idle db trivial fun _ _ _ => rfl
    · exact turnOneWay_idle db trivial fun _ _ _ => trivial
  | free r =>
    refine turnOneWay_run hcommit trivial (honly hin) ?_ (fun h => ?_) fun h => ?_
    · rcases Transaction.snd_run_cases t.server
        [fun db : OperatorTables fold => some (db.persist r.pending)] db with hsame | hpersisted
      · rw [hsame]
        exact .refl _
      · rw [← Option.some.inj hpersisted]
        exact .refl _
    · dsimp only
      rw [h]
      rfl
    · dsimp only
      rw [h]
      exact id
  | persisted r => exact .idle rfl id fun _ _ _ => id
  | looked r found =>
    cases found with
    | true =>
      dsimp only
      cases hname : r.displayName with
      | none =>
        exact .idle rfl (fun h => absurd h (TablesPhase.not_spotless rfl)) fun _ _ _ => False.elim
      | some name =>
        refine ⟨lasting_setDisplayName _ _ _ db, fun operatorPubkey hmem hretired _ =>
          ⟨?_, False.elim⟩, fun h => absurd h (TablesPhase.not_spotless rfl)⟩
        obtain rfl := Option.mem_some_iff.mp hmem
        show db.setDisplayName t.server r.operatorPubkey name = db
        unfold setDisplayName
        exact if_neg fun hwritten => hin name hname hwritten hretired
    | false =>
      refine ⟨?_, fun operatorPubkey hmem hretired _ => ⟨?_, False.elim⟩,
        fun h => absurd h (TablesPhase.not_spotless rfl)⟩
      · show db.operators.Lasting (db.insertFirst t.server (r.firstRow t.nowMs)).operators
        unfold insertFirst
        split
        · exact lasting_insertNew _ _
        · exact .refl _
      · obtain rfl := Option.mem_some_iff.mp hmem
        obtain ⟨row, hrow, -⟩ := hretired
        -- there is a row, and the key takes no other
        have hthere : (db.operators.row (r.firstRow t.nowMs).operatorPubkey).isSome = true := by
          rw [show (r.firstRow t.nowMs).operatorPubkey = r.operatorPubkey from rfl, hrow]
          rfl
        show db.insertFirst t.server (r.firstRow t.nowMs) = db
        unfold insertFirst
        rw [insertNew_of_isSome hthere, ite_self]
  | found operatorPubkey displayName =>
    exact .wrote (honly hin) (lasting_setDisplayName _ _ _ db) (TablesPhase.not_spotless rfl)
  | accepted operatorPubkey =>
    obtain ⟨hread, hthere⟩ := hin
    obtain ⟨acceptedAt, haccepted⟩ := Option.isSome_iff_exists.mp hthere
    dsimp only
    rw [haccepted, hread]
    exact .idle rfl (fun h => absurd h (TablesPhase.not_spotless rfl)) fun _ _ _ => False.elim
  | acceptRefused operatorPubkey => exact turnOneWay_idle db trivial fun _ _ _ => rfl
  | subject operatorPubkey action trackingId ids =>
    refine turnOneWay_run hcommit trivial (honly hin)
      ((keepsOthers_run_dsrBody L t.server db operatorPubkey action trackingId ids t.nowMs _).lasting
        hin) (fun h => ?_) fun h => ?_
    · unfold mutateDsr
      dsimp only
      rw [h, if_neg Bool.false_ne_true]
      show OperatorAnswer.failed (.dsr (ite _ _ _)) = true
      split <;> rfl
    · unfold mutateDsr
      dsimp only
      rw [h]
      exact TablesPhase.not_spotless rfl
  | returned answer => exact .idle rfl id fun _ hmem => absurd hmem (by simp [TablesPhase.about])

end OperatorTables

namespace OperatorPool

open Operators

variable {fold : String → String}

/-- What the step of a call does it does in time. -/
def InTime (s : OperatorPool fold) : PoolAction → Prop
  | .advance call t => (s.calls call).InTime t s.tables
  | _ => True

instance (s : OperatorPool fold) (action : PoolAction) : Decidable (s.InTime action) := by
  cases action <;> unfold InTime <;> infer_instance

/-- **What is to be said of a run**, as in memory; here no call is under way
that has retired its operator and not returned. -/
structure RunsOneWay (L : OperatorLibs) (s : OperatorPool fold) (actions : List PoolAction) :
    Prop where
  lasting : ∀ n key status, status ≠ .active →
    (Run.after (step L) s (actions.take n)).tables.operators.status key = some status →
      (Run.after (step L) s actions).tables.operators.status key = some status
  refused : Run.Along (step L) (fun s action => ∀ call t, action = .advance call t →
    ∀ operatorPubkey ∈ (s.calls call).about, s.tables.operators.Retired operatorPubkey →
      (step L s action).tables = s.tables
        ∧ ((s.calls call).Spotless → ((step L s action).calls call).Spotless)) s actions
  traceless : ∀ i answer, (Run.after (step L) s actions).calls i = .returned answer →
    answer.failed = true →
      Run.Along (step L) (fun s action => (∃ t, action = .advance i t) →
        (step L s action).tables = s.tables) s actions

theorem oneWay_step (L : OperatorLibs) {s : OperatorPool fold} {call : ℕ} {t : Turn}
    (h : (s.calls call).InTime t s.tables) :
    OperatorTables.TurnOneWay s.tables (step L s (.advance call t)).tables (s.calls call)
      ((step L s (.advance call t)).calls call) := by
  show OperatorTables.TurnOneWay _ _ _ (Function.update s.calls call _ call)
  rw [Function.update_self]
  exact OperatorTables.oneWay_advance L t s.tables (s.calls call) h

theorem lasting_step (L : OperatorLibs) {s : OperatorPool fold} {action : PoolAction}
    (h : s.InTime action) : s.tables.operators.Lasting (step L s action).tables.operators := by
  cases action with
  | advance call t => exact (oneWay_step L h).lasting
  | heartbeat req nowMs => exact .refl _
  | applyProbeRouteState nodeId passed nowMs => exact .refl _
  | selectStale nowMs => exact .refl _
  | markDormant nowMs => exact .refl _
  | archiveDormant nowMs days => exact .refl _

/-- A call that has nothing to show for itself after a step had nothing
before it, and did nothing in it. -/
theorem spotless_step (L : OperatorLibs) {s : OperatorPool fold} {action : PoolAction} {i : ℕ}
    (h : s.InTime action) (hspot : ((step L s action).calls i).Spotless) :
    (s.calls i).Spotless
      ∧ ((∃ t, action = .advance i t) → (step L s action).tables = s.tables) := by
  cases action with
  | advance call t =>
    by_cases hcall : call = i
    · subst hcall
      obtain ⟨hbefore, hsame⟩ := (oneWay_step L h).traceless hspot
      exact ⟨hbefore, fun _ => hsame⟩
    · have hother : (step L s (.advance call t)).calls i = s.calls i :=
        Function.update_of_ne (fun h => hcall h.symm) ..
      rw [hother] at hspot
      refine ⟨hspot, fun ⟨t', h⟩ => ?_⟩
      injection h with hsame
      exact absurd hsame hcall
  | heartbeat req nowMs => exact ⟨hspot, fun ⟨_, h⟩ => absurd h (by simp)⟩
  | applyProbeRouteState nodeId passed nowMs => exact ⟨hspot, fun ⟨_, h⟩ => absurd h (by simp)⟩
  | selectStale nowMs => exact ⟨hspot, fun ⟨_, h⟩ => absurd h (by simp)⟩
  | markDormant nowMs => exact ⟨hspot, fun ⟨_, h⟩ => absurd h (by simp)⟩
  | archiveDormant nowMs days => exact ⟨hspot, fun ⟨_, h⟩ => absurd h (by simp)⟩

/-- **In the tables an identity goes one way** along the runs that are in
time. -/
theorem runsOneWay (L : OperatorLibs) {s : OperatorPool fold} {actions : List PoolAction}
    (h : Run.Along (step L) InTime s actions) : RunsOneWay L s actions where
  lasting n key status hstatus hkey := by
    have hstep : ∀ (s : OperatorPool fold) (action : PoolAction),
        s.tables.operators.status key = some status → s.InTime action →
          (step L s action).tables.operators.status key = some status :=
      fun s action hs hin => lasting_step L hin key status hstatus hs
    exact Run.invariant_from hstep h n hkey
  refused := by
    have hkeep : ∀ (s : OperatorPool fold) (action : PoolAction), True → s.InTime action → True :=
      fun _ _ _ _ => trivial
    refine Run.along_mono hkeep (fun s action _ hin => ?_) trivial h
    rintro call t rfl operatorPubkey hmem hretired
    exact (oneWay_step L hin).refused operatorPubkey hmem hretired id
  traceless i answer hreturned hfailed := by
    have hspotless : ((Run.after (step L) s actions).calls i).Spotless := by
      rw [hreturned]
      exact hfailed
    have hrun := Run.along_of_after (P := fun s : OperatorPool fold => (s.calls i).Spotless)
      (fun s action hin hspot => spotless_step L hin hspot) h hspotless
    exact hrun.2

end OperatorPool

/-- **An identity goes one way**, in either repository, along every run in
which what a call writes it writes in time: to an identity that is not
retired, where it does not look at the status itself, and before an answer
that is an error. -/
theorem identities_one_way (L : OperatorLibs) :
    (∀ (s : MemoryPool) (steps : List MemoryStep),
      Run.Along (MemoryPool.step L) (MemoryPool.InTime L) s steps → s.RunsOneWay L steps)
      ∧ ∀ (fold : String → String) (s : OperatorPool fold) (actions : List PoolAction),
        Run.Along (OperatorPool.step L) OperatorPool.InTime s actions → s.RunsOneWay L actions :=
  ⟨fun _ _ h => MemoryPool.runsOneWay L h, fun _ _ _ h => OperatorPool.runsOneWay L h⟩

namespace Sample

/-- One operator, and no node. -/
def oneOperator : OperatorTables id :=
  { OperatorTables.empty id with
    operators := Operators.insertNew (.empty _) (Operators.firstRow "key-1" none none none 0) }

/-- A data subject asks to be restricted while its key is revoked. -/
def restrictedAndRevoked : OperatorPool id :=
  ⟨oneOperator, [], fun
    | 0 => .ready (.dsr "key-1" .restrict "dsr-1")
    | _ => .ready (.revoke "key-1" "compromised")⟩

/-- An operator registers, is revoked, and asks for another name. -/
def revokedThenNamed : ℕ → OperatorCall
  | 0 => .register (operatorRegistration "n1" "key-1" "Ada")
  | 1 => .revoke "key-1" "compromised"
  | _ => .rename "key-1" "Eve"

end Sample

/-- The law, for an operator that registers, is revoked, and is refused
another name. -/
theorem revoked_stays_revoked :
    MemoryPool.RunsOneWay Sample.operatorLibs
        ⟨⟨.empty, .empty _⟩, fun i => .ready (Sample.revokedThenNamed i)⟩
        ([0, 0, 0, 0, 1, 1, 2].map fun i => ⟨i, 0, ""⟩)
      ∧ OperatorPool.RunsOneWay Sample.operatorLibs
        (⟨.empty id, [], fun i => .ready (Sample.revokedThenNamed i)⟩ : OperatorPool id)
        ([0, 0, 0, 0, 0, 1, 2].map fun i => .advance i ⟨.willing, 0, ""⟩) :=
  ⟨(identities_one_way Sample.operatorLibs).1 _ _ (by decide),
    (identities_one_way Sample.operatorLibs).2 id _ _ (by decide)⟩

/-- **A restriction over a revocation.** The operator is found active, revoked
by another call, and then restricted: both calls succeed, and the identity is
not what it was retired as. -/
theorem restricted_after_revoked :
    let step := @OperatorPool.step id Sample.operatorLibs
    let actions := [0, 1, 0].map fun i => PoolAction.advance i ⟨.willing, 0, ""⟩
    (Run.after step Sample.restrictedAndRevoked (actions.take 2)).tables.operators.status "key-1"
        = some .revoked
      ∧ (Run.after step Sample.restrictedAndRevoked actions).tables.operators.status "key-1"
        = some .restricted
      ∧ ¬ Sample.restrictedAndRevoked.RunsOneWay Sample.operatorLibs actions := by
  intro step actions
  refine ⟨by decide, by decide, fun h => ?_⟩
  exact absurd (h.lasting 2 "key-1" .revoked (by decide) (by decide)) (by decide)
