import IicpDirectory.Seed.OperatorTables

/-!
# Whose handle it is

A display name is a public handle, and an operator that registers under one
that another active operator has is turned away. That is a look at the table,
and the name is written later, in another step; and it is the one look there
is. A rename writes the name without it.

What becomes of the handles is the same in both repositories: a step takes a
handle or it does not (`Handled`), and one that does not – a rotation passes
the handle on, a revocation or a restriction gives it up – leaves the handles
of the active operators apart. So they stay apart exactly along the runs that
take free handles only (`handles_apart_iff`).
-/

namespace Operators

variable {fold : String → String} (lower : Char → List Char)

/-- **No two active operators have display names with one normal form.** -/
def HandlesApart (t : Operators fold) : Prop :=
  ∀ a ∈ t.rows, ∀ b ∈ t.rows, a.isActive → b.isActive →
    ∀ name ∈ a.displayName, ∀ name' ∈ b.displayName,
      normalizeOperatorDisplayName lower name = normalizeOperatorDisplayName lower name' →
        fold a.operatorPubkey = fold b.operatorPubkey

/-- An active operator with a display name holds its normal form. -/
theorem held_eq_some_iff {t : Operators fold} {key : String} {handle : Option String} :
    t.held lower key = some handle
      ↔ ∃ r ∈ t.rows, fold r.operatorPubkey = key ∧ r.isActive = true
        ∧ ∃ name ∈ r.displayName, normalizeOperatorDisplayName lower name = handle := by
  unfold held
  rw [Option.bind_eq_some_iff]
  constructor
  · rintro ⟨r, hrow, hholds⟩
    obtain ⟨hmem, hkey⟩ := Table.find_eq_some_iff.mp hrow
    unfold OperatorRow.holds at hholds
    split at hholds
    · next hactive =>
      obtain ⟨name, hname, hnormal⟩ := Option.map_eq_some_iff.mp hholds
      exact ⟨r, hmem, hkey, hactive, name, hname, hnormal⟩
    · exact absurd hholds (by simp)
  · rintro ⟨r, hmem, hkey, hactive, name, hname, hnormal⟩
    refine ⟨r, Table.find_eq_some_iff.mpr ⟨hmem, hkey⟩, ?_⟩
    unfold OperatorRow.holds
    rw [if_pos hactive, Option.mem_def.mp hname]
    exact congrArg some hnormal

instance (t : Operators fold) : Decidable (t.HandlesApart lower) := by
  unfold HandlesApart
  infer_instance

theorem handlesApart_iff {t : Operators fold} :
    t.HandlesApart lower ↔ Exclusive (t.held lower) := by
  constructor
  · intro h
    refine Exclusive.of_eq fun k k' handle hk hk' => ?_
    obtain ⟨a, ha, rfl, hactive, name, hname, hnormal⟩ := (held_eq_some_iff lower).mp hk
    obtain ⟨b, hb, rfl, hactive', name', hname', hnormal'⟩ := (held_eq_some_iff lower).mp hk'
    exact h a ha b hb hactive hactive' name hname name' hname' (hnormal.trans hnormal'.symm)
  · intro h a ha b hb hactive hactive' name hname name' hname' hsame
    exact h.eq ((held_eq_some_iff lower).mpr ⟨a, ha, rfl, hactive, name, hname, hsame⟩)
      ((held_eq_some_iff lower).mpr ⟨b, hb, rfl, hactive', name', hname', rfl⟩)

/-- **The handle is free**: no other active operator has it. -/
def Free (t : Operators fold) (taken : Option (String × Option String)) : Prop :=
  ∀ operatorPubkey handle, taken = some (operatorPubkey, handle) →
    ∀ r ∈ t.rows, r.isActive → fold r.operatorPubkey ≠ fold operatorPubkey →
      ∀ name ∈ r.displayName, normalizeOperatorDisplayName lower name ≠ handle

/-- **What a step does to the handles**: it takes one for an operator, or it
takes none, and then they stay apart. -/
inductive Handled (t t' : Operators fold) : Option (String × Option String) → Prop
  | took (operatorPubkey : String) (handle : Option String)
      (h : t'.held lower = Function.update (t.held lower) (fold operatorPubkey) (some handle)) :
      Handled t t' (some (operatorPubkey, handle))
  | kept (h : Exclusive (t.held lower) → Exclusive (t'.held lower)) : Handled t t' none

variable {lower}

/-- **The handles stay apart exactly where the one that is taken is free.** -/
theorem Handled.apart_iff {t t' : Operators fold} {taken : Option (String × Option String)}
    (h : Handled lower t t' taken) (hapart : t.HandlesApart lower) :
    t'.HandlesApart lower ↔ t.Free lower taken := by
  rw [handlesApart_iff] at hapart ⊢
  cases h with
  | took operatorPubkey handle heq =>
    rw [heq, hapart.take_iff]
    constructor
    · intro hfree operatorPubkey' handle' htaken r hmem hactive hne name hname hnormal
      obtain ⟨rfl, rfl⟩ := Prod.mk.inj (Option.some.inj htaken)
      exact hfree _ hne
        ((held_eq_some_iff lower).mpr ⟨r, hmem, rfl, hactive, name, hname, hnormal⟩)
    · intro hfree key hne hheld
      obtain ⟨r, hmem, rfl, hactive, name, hname, hnormal⟩ := (held_eq_some_iff lower).mp hheld
      exact hfree operatorPubkey handle rfl r hmem hactive hne name hname hnormal
  | kept hkept => exact iff_of_true (hkept hapart) fun _ _ htaken => absurd htaken (by simp)

theorem Handled.same (t : Operators fold) : Handled lower t t none := .kept fun h => h

/-- An update after which the operator holds what it held. -/
theorem Handled.set_same (t : Operators fold) (operatorPubkey : String)
    (f : OperatorRow → OperatorRow) (hf : ∀ r, (f r).operatorPubkey = r.operatorPubkey)
    (hholds : ∀ r, (f r).holds lower = r.holds lower) :
    Handled lower t (t.set operatorPubkey f hf) none := by
  refine .kept fun h => ?_
  have heq : (t.set operatorPubkey f hf).held lower = t.held lower := by
    rw [held_set, funext hholds]
    exact Function.update_eq_self _ _
  rwa [heq]

/-- One after which it holds nothing. -/
theorem Handled.set_release (t : Operators fold) (operatorPubkey : String)
    (f : OperatorRow → OperatorRow) (hf : ∀ r, (f r).operatorPubkey = r.operatorPubkey)
    (hholds : ∀ r, (f r).holds lower = none) :
    Handled lower t (t.set operatorPubkey f hf) none := by
  refine .kept fun h => ?_
  rw [held_set, funext hholds, Option.bind_fun_none]
  exact h.release _

theorem Handled.deleted (t : Operators fold) (key : String) :
    Handled lower t (Table.delete t key) none := by
  refine .kept fun h => ?_
  rw [held_delete]
  exact h.release key

/-- A row that comes restricted holds nothing. -/
theorem Handled.put_restricted (t : Operators fold) (r : OperatorRow) (anonymous : String) :
    Handled lower t (t.put (r.anonymized anonymous)) none := by
  refine .kept fun h => ?_
  rw [held_put, OperatorRow.holds_of_not_active (by simp [OperatorRow.anonymized])]
  exact h.release _

/-- **A rotation passes the handle on.** -/
theorem Handled.rotated {t : Operators fold} {old new : String} {r succ : OperatorRow}
    (hold : t.row old = some r) (hnew : t.row new = none) (hkey : succ.operatorPubkey = new)
    (hholds : succ.holds lower = r.holds lower) {f : OperatorRow → OperatorRow}
    (hf : ∀ r, (f r).operatorPubkey = r.operatorPubkey) (hnone : ∀ r, (f r).holds lower = none) :
    Handled lower t ((t.insertNew succ).set old f hf) none := by
  subst hkey
  have hne : fold succ.operatorPubkey ≠ fold old := by
    intro heq
    unfold row at hold hnew
    rw [heq, hold] at hnew
    exact absurd hnew (by simp)
  refine .kept fun h => ?_
  have hheld : t.held lower (fold old) = r.holds lower := by
    show (t.row old).bind _ = _
    rw [hold]
    rfl
  rw [held_set, held_insertNew, funext hnone, Option.bind_fun_none, hnew, Option.getD_none, hholds,
    ← hheld]
  exact h.pass hne

/-- **A rename takes a handle** for an operator that is active, and none for
one that is not. -/
theorem Handled.renamed (t : Operators fold) (operatorPubkey name : String) :
    Handled lower t (t.rename operatorPubkey name)
      (if (t.row operatorPubkey).any OperatorRow.isActive then
        some (operatorPubkey, normalizeOperatorDisplayName lower name)
      else none) := by
  have hheld := held_set lower t operatorPubkey (f := OperatorRow.named name) fun _ => rfl
  have hnamed : ∀ r : OperatorRow, (r.named name).holds lower
      = if r.isActive then some (normalizeOperatorDisplayName lower name) else none := fun _ => rfl
  rw [funext hnamed] at hheld
  cases hrow : t.row operatorPubkey with
  | none =>
    rw [hrow] at hheld
    refine .kept fun h => ?_
    rw [show (t.rename operatorPubkey name).held lower = _ from hheld]
    exact h.release _
  | some r =>
    rw [hrow, Option.bind_some] at hheld
    rw [Option.any_some]
    split
    · next hactive =>
      rw [if_pos hactive] at hheld
      exact .took operatorPubkey _ hheld
    · next hactive =>
      rw [if_neg hactive] at hheld
      refine .kept fun h => ?_
      rw [show (t.rename operatorPubkey name).held lower = _ from hheld]
      exact h.release _

/-- **A first registration takes the handle it comes with.** -/
theorem Handled.inserted {t : Operators fold} {r : OperatorRow} (hnone : t.row r.operatorPubkey = none)
    (hactive : r.isActive = true) :
    Handled lower t (t.insertNew r)
      (r.displayName.map fun name =>
        (r.operatorPubkey, normalizeOperatorDisplayName lower name)) := by
  have hheld := held_insertNew lower t r
  have hholds : r.holds lower = r.displayName.map (normalizeOperatorDisplayName lower) := if_pos hactive
  rw [hnone, Option.getD_none, hholds] at hheld
  cases hname : r.displayName with
  | none =>
    rw [hname] at hheld
    refine .kept fun h => ?_
    rw [hheld]
    exact h.release _
  | some name =>
    rw [hname] at hheld
    exact .took r.operatorPubkey _ hheld

end Operators

/-! ## In memory -/

section Memory

open Operators

variable {lower : Char → List Char}

/-- **The handle the next section takes**: that of a rename of an active
operator, or that of a registration whose operator is active or new. -/
def MemoryPhase.takes (lower : Char → List Char) (t : Operators id) :
    MemoryPhase → Option (String × Option String)
  | .ready (.rename operatorPubkey name) =>
    if (t.row operatorPubkey).any OperatorRow.isActive then
      some (operatorPubkey, normalizeOperatorDisplayName lower name)
    else none
  | .persisted r =>
    if (t.row r.operatorPubkey).all OperatorRow.isActive then
      r.displayName.map fun name => (r.operatorPubkey, normalizeOperatorDisplayName lower name)
    else none
  | _ => none

theorem handled_renameOperator (t : Operators id) (operatorPubkey name : String) :
    Handled lower t (t.renameOperator operatorPubkey name).2
      (if (t.row operatorPubkey).any OperatorRow.isActive then
        some (operatorPubkey, normalizeOperatorDisplayName lower name)
      else none) := by
  unfold renameOperator
  split
  · next hinactive =>
    rw [any_isActive_of_error hinactive]
    exact .same t
  · exact .renamed t operatorPubkey name

theorem handled_upsertOperator (t : Operators id) (r : OperatorRegistration) (nowMs : ℤ) :
    Handled lower t (t.upsertOperator r nowMs)
      (if (t.row r.operatorPubkey).all OperatorRow.isActive then
        r.displayName.map fun name => (r.operatorPubkey, normalizeOperatorDisplayName lower name)
      else none) := by
  unfold upsertOperator
  cases hrow : t.row r.operatorPubkey with
  | none => exact Handled.inserted hrow rfl
  | some row =>
    cases hname : r.displayName with
    | none =>
      rw [Option.map_none, ite_self]
      exact .same t
    | some name =>
      have hrenamed : Handled lower t _ _ := Handled.renamed t r.operatorPubkey name
      rw [hrow] at hrenamed
      exact hrenamed

/-- **What a section does to the handles.** -/
theorem handled_advance (L : OperatorLibs) (t : MemoryStep) (m : OperatorMemory) (p : MemoryPhase) :
    Handled L.lower m.operators (m.advance L t p).1.operators (p.takes L.lower m.operators) := by
  cases p with
  | ready call =>
    cases call with
    | register r =>
      show Handled _ _ (ite _ _ _ : OperatorMemory × MemoryPhase).1.operators none
      split <;> exact .same _
    | rename operatorPubkey name => exact handled_renameOperator m.operators operatorPubkey name
    | rotate old new requestedEpoch reasonClass =>
      show Handled _ _ (m.start t (.rotate old new requestedEpoch reasonClass)).1.operators none
      unfold OperatorMemory.start
      dsimp only
      split
      · exact .same _
      · next hrotated =>
        obtain ⟨r, hactive, -, hnew, rfl⟩ := rotateIdentity_eq_ok hrotated
        obtain ⟨hrow, hr⟩ := activeRow_eq_ok hactive
        refine Handled.rotated (f := OperatorRow.rotated _) hrow hnew rfl ?_ (fun _ => rfl) fun _ => rfl
        unfold OperatorRow.holds
        rw [if_pos hr]
        rfl
    | revoke operatorPubkey reasonClass =>
      show Handled _ _ (m.start t (.revoke operatorPubkey reasonClass)).1.operators none
      unfold OperatorMemory.start
      dsimp only
      split
      · exact .same _
      · next hrevoked =>
        obtain ⟨r, -, rfl⟩ := revokeIdentity_eq_ok hrevoked
        exact .set_release _ _ OperatorRow.revoked (fun _ => rfl) fun _ => rfl
    | accept operatorPubkey termsVersion dpaVersion nonceSha256 =>
      show Handled _ _ (m.operators.acceptGovernance _ _ _ _ _).2 none
      unfold acceptGovernance
      split
      · exact .same _
      · exact .set_same _ _ (OperatorRow.accepted _ _ _ _) (fun _ => rfl) fun _ => rfl
    | dsr operatorPubkey action trackingId =>
      show Handled _ _ (m.start t (.dsr operatorPubkey action trackingId)).1.operators none
      unfold OperatorMemory.start
      dsimp only
      split
      · exact .same _
      · split <;> exact .same _
  | checked r =>
    show Handled _ _ (ite _ _ _ : OperatorMemory × MemoryPhase).1.operators none
    split <;> exact .same _
  | free r => exact .same _
  | persisted r => exact handled_upsertOperator m.operators r t.nowMs
  | rotating old new epoch => exact .same _
  | revoking operatorPubkey => exact .same _
  | subject operatorPubkey receipt =>
    show Handled _ _ (m.advance L t (.subject operatorPubkey receipt)).1.operators none
    unfold OperatorMemory.advance
    dsimp only
    split
    · exact .same _
    · refine .set_release _ _ OperatorRow.cleared (fun _ => rfl) fun r => ?_
      unfold OperatorRow.holds
      exact ite_self _
  | cleared operatorPubkey receipt => exact .same _
  | nodesCleared operatorPubkey receipt =>
    show Handled _ _ (m.advance L t (.nodesCleared operatorPubkey receipt)).1.operators none
    unfold OperatorMemory.advance
    dsimp only
    split
    · exact .same _
    · exact .deleted _ _
  | removed operatorPubkey r receipt => exact .put_restricted _ r _
  | returned answer => exact .same _

/-- **In memory the handles stay apart exactly along the runs that take free
ones.** -/
theorem MemoryPool.handles_always_apart_iff (L : OperatorLibs) (s : MemoryPool)
    (steps : List MemoryStep) :
    (∀ n, (Run.after (MemoryPool.step L) s (steps.take n)).memory.operators.HandlesApart L.lower)
      ↔ s.memory.operators.HandlesApart L.lower
        ∧ Run.Along (MemoryPool.step L) (fun s t => s.memory.operators.Free L.lower
            ((s.calls t.call).takes L.lower s.memory.operators)) s steps := by
  have hstep : ∀ (s : MemoryPool) (t : MemoryStep), s.memory.operators.HandlesApart L.lower →
      ((MemoryPool.step L s t).memory.operators.HandlesApart L.lower
        ↔ s.memory.operators.Free L.lower ((s.calls t.call).takes L.lower s.memory.operators)) :=
    fun s t hs => (handled_advance L t s.memory (s.calls t.call)).apart_iff hs
  exact Run.always_iff hstep s steps

/-- A handle that the check of a registration does not find taken is free. -/
theorem free_of_not_claimed {t : Operators id} {operatorPubkey handle : String}
    (h : t.claimedByOther lower operatorPubkey handle = false) :
    t.Free lower (some (operatorPubkey, some handle)) := by
  intro key handle' htaken r hmem hactive hne name hname hnormal
  obtain ⟨rfl, rfl⟩ := Prod.mk.inj (Option.some.inj htaken)
  have hclaimed : t.claimedByOther lower operatorPubkey handle = true := by
    refine List.any_eq_true.mpr ⟨r, hmem, ?_⟩
    rw [Option.mem_def.mp hname, Option.bind_some, hnormal, hactive, beq_self_eq_true]
    simpa using hne
  rw [h] at hclaimed
  exact absurd hclaimed Bool.false_ne_true

/-- **A registration that nothing comes between keeps the handles apart**, if
its display name is not blank. -/
theorem MemoryPool.apart_of_undisturbed (L : OperatorLibs) {s : MemoryPool}
    (h : s.memory.operators.HandlesApart L.lower) (t : MemoryStep) {r : OperatorRegistration}
    (hcall : s.calls t.call = .checked r) (hname : (r.handle L.lower).isSome) :
    (Run.after (MemoryPool.step L) s [t, t, t]).memory.operators.HandlesApart L.lower := by
  obtain ⟨handle, hhandle⟩ := Option.isSome_iff_exists.mp hname
  obtain ⟨name, hgiven, hnormal⟩ := Option.bind_eq_some_iff.mp hhandle
  have hadvance : s.memory.advance L t (.checked r)
      = if s.memory.operators.claimedByOther L.lower r.operatorPubkey handle then
          (s.memory, .returned .handleClaimed)
        else (s.memory, .free r) := by
    show ite _ _ _ = _
    rw [hhandle, Option.any_some]
  rw [Run.after_cons, MemoryPool.step, hcall, hadvance]
  cases hclaimed : s.memory.operators.claimedByOther L.lower r.operatorPubkey handle with
  | true =>
    -- it is turned away
    simp only [if_true, Run.after_cons, Run.after_nil, MemoryPool.step, Function.update_self,
      OperatorMemory.advance]
    exact h
  | false =>
    simp only [Bool.false_eq_true, if_false, Run.after_cons, Run.after_nil, MemoryPool.step,
      Function.update_self, OperatorMemory.advance]
    refine ((handled_upsertOperator s.memory.operators r t.nowMs).apart_iff h).mpr ?_
    split
    · rw [hgiven, Option.map_some, hnormal]
      exact free_of_not_claimed hclaimed
    · exact fun _ _ htaken => absurd htaken (by simp)

end Memory

/-! ## In the tables -/

namespace OperatorTables

open Operators

variable {fold : String → String} {lower : Char → List Char}

/-- **The handle the next step of a call takes**: a rename that found its
operator active, and a registration, write a name that fits for an operator
that is active or new – not for one that has been retired since. -/
def takes (lower : Char → List Char) (t : Turn) (db : OperatorTables fold) :
    TablesPhase → Option (String × Option String)
  | .found operatorPubkey name =>
    if t.server.executes && nameFits name
        && (db.operators.row operatorPubkey).any OperatorRow.isActive then
      some (operatorPubkey, normalizeOperatorDisplayName lower name)
    else none
  | .looked r true => r.displayName.bind fun name =>
    if t.server.executes && nameFits name
        && (db.operators.row r.operatorPubkey).any OperatorRow.isActive then
      some (r.operatorPubkey, normalizeOperatorDisplayName lower name)
    else none
  | .looked r false =>
    if t.server.executes && rowFits (r.firstRow t.nowMs)
        && (db.operators.row r.operatorPubkey).isNone then
      r.displayName.map fun name => (r.operatorPubkey, normalizeOperatorDisplayName lower name)
    else none
  | _ => none

theorem handled_setDisplayName (server : Server) (operatorPubkey name : String)
    (db : OperatorTables fold) :
    Handled lower db.operators (db.setDisplayName server operatorPubkey name).operators
      (if server.executes && nameFits name
          && (db.operators.row operatorPubkey).any OperatorRow.isActive then
        some (operatorPubkey, normalizeOperatorDisplayName lower name)
      else none) := by
  unfold setDisplayName
  cases server.executes && nameFits name with
  | false => exact .same _
  | true => exact .renamed db.operators operatorPubkey name

theorem handled_insertFirst (server : Server) (r : OperatorRow) (hactive : r.isActive = true)
    (db : OperatorTables fold) :
    Handled lower db.operators (db.insertFirst server r).operators
      (if server.executes && rowFits r && (db.operators.row r.operatorPubkey).isNone then
        r.displayName.map fun name => (r.operatorPubkey, normalizeOperatorDisplayName lower name)
      else none) := by
  unfold insertFirst
  cases server.executes && rowFits r with
  | false => exact .same _
  | true =>
    cases hrow : db.operators.row r.operatorPubkey with
    | none => exact .inserted hrow hactive
    | some row =>
      rw [if_pos rfl]
      show Handled _ _ (db.operators.insertNew r) none
      rw [insertNew_of_isSome (by rw [hrow]; rfl)]
      exact .same _

/-- **A transaction none of whose statements takes a handle** takes none. -/
theorem handled_run {body : List (OperatorTables fold → Option (OperatorTables fold))}
    (hbody : ∀ statement ∈ body, ∀ db db', statement db = some db' →
      Handled lower db.operators db'.operators none)
    (server : Server) (db : OperatorTables fold) :
    Handled lower db.operators (Transaction.run server body db).2.operators none := by
  refine .kept (Transaction.run_rel
    (R := fun db db' : OperatorTables fold => Exclusive (db.operators.held lower) →
      Exclusive (db'.operators.held lower))
    (fun _ h => h) (fun h h' hapart => h' (h hapart)) (fun statement hmem db db' h => ?_) server db)
  cases hbody statement hmem db db' h with
  | kept hkept => exact hkept

theorem handled_rotate (L : OperatorLibs) (t : Turn) (db : OperatorTables fold) (old new : String)
    (requestedEpoch : Option ℕ) (reasonClass : String) :
    Handled lower db.operators
      (db.rotateOperatorIdentity L t old new requestedEpoch reasonClass).2.operators none := by
  rcases rotateOperatorIdentity_cases L t db old new requestedEpoch reasonClass with
    hsame | ⟨r, epoch, successorSha256, hactive, hnew, hoperators⟩
  · rw [hsame]
    exact .same _
  · rw [hoperators]
    obtain ⟨hrow, hr⟩ := activeRow_eq_ok hactive
    refine Handled.rotated (f := rotatedRow epoch successorSha256 reasonClass) hrow hnew rfl ?_
      (fun _ => rfl) fun _ => rfl
    unfold OperatorRow.holds
    rw [if_pos hr]
    rfl

theorem handled_revoke (L : OperatorLibs) (t : Turn) (db : OperatorTables fold)
    (operatorPubkey reasonClass : String) :
    Handled lower db.operators
      (db.revokeOperatorIdentity L t operatorPubkey reasonClass).2.operators none := by
  unfold revokeOperatorIdentity
  split
  · exact .same _
  · split
    · exact .same _
    · rcases run_revokeBody L operatorPubkey reasonClass t db with hsame | hoperators
      · dsimp only
        rw [hsame]
        exact .same _
      · dsimp only
        rw [hoperators]
        exact .set_release _ _ (revokedRow _ _) (fun _ => rfl) fun _ => rfl

theorem handled_rekey {operatorPubkey anonymous : String} {db db' : OperatorTables fold}
    (h : db.rekey operatorPubkey anonymous = some db') :
    Handled lower db.operators db'.operators none := by
  unfold rekey at h
  split at h
  · exact Option.some.inj h ▸ .same _
  · next r _ =>
    split at h
    · exact absurd h (by simp)
    · obtain rfl := Option.some.inj h
      refine .kept fun hapart => ?_
      have hdeleted : Handled lower db.operators _ none :=
        Handled.deleted db.operators (fold operatorPubkey)
      have hput : Handled lower _ _ none := Handled.put_restricted
        (db.operators.delete (fold operatorPubkey) : Operators fold) r anonymous
      cases hdeleted with
      | kept hdeleted =>
        cases hput with
        | kept hput => exact hput (hdeleted hapart)

theorem handled_mutateDsr (L : OperatorLibs) (t : Turn) (db : OperatorTables fold)
    (operatorPubkey : String) (action : DsrAction) (trackingId : String) (ids : List String) :
    Handled lower db.operators
      (db.mutateDsr L t operatorPubkey action trackingId ids).2.operators none := by
  refine handled_run (fun statement hmem db db' h => ?_) t.server db
  rcases List.mem_append.mp hmem with hbody | hrecord
  · rcases mem_dsrBody hbody h with hsame | hset | hrekey
    · rw [hsame]
      exact .same _
    · rw [hset]
      exact .set_release _ _ (restrictedRow action) (fun _ => rfl) fun _ => rfl
    · exact handled_rekey hrekey
  · obtain rfl := List.mem_singleton.mp hrecord
    unfold insertDsrAction at h
    split at h
    · exact absurd h (by simp)
    · exact Option.some.inj h ▸ .same _

theorem handled_acceptTerms (t : Turn)
    (operatorPubkey termsVersion dpaVersion nonceSha256 : String) (db : OperatorTables fold) :
    Handled lower db.operators
      (db.acceptTerms t operatorPubkey termsVersion dpaVersion nonceSha256).operators none := by
  unfold acceptTerms
  split
  · exact .same _
  · split
    · exact .set_same _ _ (OperatorRow.accepted _ _ _ _) (fun _ => rfl) fun _ => rfl
    · exact .same _

/-- **What a step of a call does to the handles.** -/
theorem handled_advance (L : OperatorLibs) (t : Turn) (db : OperatorTables fold) (p : TablesPhase) :
    Handled lower db.operators (db.advance L t p).1.operators (db.takes lower t p) := by
  cases p with
  | ready call =>
    cases call with
    | register r =>
      show Handled _ _ (ite _ _ _ : OperatorTables fold × TablesPhase).1.operators none
      split <;> exact .same _
    | rename operatorPubkey name =>
      show Handled _ _ (ite _ _ _ : OperatorTables fold × TablesPhase).1.operators none
      split <;> exact .same _
    | rotate old new requestedEpoch reasonClass =>
      exact handled_rotate L t db old new requestedEpoch reasonClass
    | revoke operatorPubkey reasonClass => exact handled_revoke L t db operatorPubkey reasonClass
    | accept operatorPubkey termsVersion dpaVersion nonceSha256 =>
      exact handled_acceptTerms t operatorPubkey termsVersion dpaVersion nonceSha256 db
    | dsr operatorPubkey action trackingId =>
      show Handled _ _ (db.start L t (.dsr operatorPubkey action trackingId)).1.operators none
      unfold start
      dsimp only
      split
      · exact .same _
      · split <;> exact .same _
  | checked r =>
    show Handled _ _ (ite _ _ _ : OperatorTables fold × TablesPhase).1.operators none
    split <;> exact .same _
  | free r =>
    refine handled_run (fun statement hmem db db' h => ?_) t.server db
    obtain rfl := List.mem_singleton.mp hmem
    exact Option.some.inj h ▸ .same _
  | persisted r => exact .same _
  | looked r found =>
    cases found with
    | true =>
      show Handled _ _ (r.displayName.elim db fun name =>
        db.setDisplayName t.server r.operatorPubkey name).operators (r.displayName.bind _)
      cases r.displayName with
      | none => exact .same _
      | some name => exact handled_setDisplayName t.server r.operatorPubkey name db
    | false => exact handled_insertFirst t.server (r.firstRow t.nowMs) rfl db
  | found operatorPubkey name => exact handled_setDisplayName t.server operatorPubkey name db
  | accepted operatorPubkey => exact .same _
  | acceptRefused operatorPubkey => exact .same _
  | subject operatorPubkey action trackingId ids =>
    exact handled_mutateDsr L t db operatorPubkey action trackingId ids
  | returned answer => exact .same _

end OperatorTables

namespace OperatorPool

open Operators

variable {fold : String → String}

/-- The handle a step takes. -/
def takes (lower : Char → List Char) (s : OperatorPool fold) :
    PoolAction → Option (String × Option String)
  | .advance call t => s.tables.takes lower t (s.calls call)
  | _ => none

theorem handled_step (L : OperatorLibs) (s : OperatorPool fold) (action : PoolAction) :
    Handled L.lower s.tables.operators (step L s action).tables.operators
      (s.takes L.lower action) := by
  cases action with
  | advance call t => exact OperatorTables.handled_advance L t s.tables (s.calls call)
  | heartbeat req nowMs => exact .same _
  | applyProbeRouteState nodeId passed nowMs => exact .same _
  | selectStale nowMs => exact .same _
  | markDormant nowMs => exact .same _
  | archiveDormant nowMs days => exact .same _

/-- **And so they do in the tables.** -/
theorem handles_always_apart_iff (L : OperatorLibs) (s : OperatorPool fold)
    (actions : List PoolAction) :
    (∀ n, (Run.after (step L) s (actions.take n)).tables.operators.HandlesApart L.lower)
      ↔ s.tables.operators.HandlesApart L.lower
        ∧ Run.Along (step L) (fun s action =>
            s.tables.operators.Free L.lower (s.takes L.lower action)) s actions := by
  have hstep : ∀ (s : OperatorPool fold) (action : PoolAction),
      s.tables.operators.HandlesApart L.lower →
        ((step L s action).tables.operators.HandlesApart L.lower
          ↔ s.tables.operators.Free L.lower (s.takes L.lower action)) :=
    fun s action hs => (handled_step L s action).apart_iff hs
  exact Run.always_iff hstep s actions

end OperatorPool

/-- **Whose handle it is.** In either repository, and over every run, no two
active operators have display names with one normal form, exactly where none
have at the start and each step that gives an active operator a display name
finds no other active operator with that normal form. -/
theorem handles_apart_iff (L : OperatorLibs) :
    (∀ (s : MemoryPool) (steps : List MemoryStep),
      (∀ n, (Run.after (MemoryPool.step L) s (steps.take n)).memory.operators.HandlesApart L.lower)
        ↔ s.memory.operators.HandlesApart L.lower
          ∧ Run.Along (MemoryPool.step L) (fun s t => s.memory.operators.Free L.lower
              ((s.calls t.call).takes L.lower s.memory.operators)) s steps)
      ∧ ∀ (fold : String → String) (s : OperatorPool fold) (actions : List PoolAction),
        (∀ n, (Run.after (OperatorPool.step L) s
            (actions.take n)).tables.operators.HandlesApart L.lower)
          ↔ s.tables.operators.HandlesApart L.lower
            ∧ Run.Along (OperatorPool.step L) (fun s action =>
                s.tables.operators.Free L.lower (s.takes L.lower action)) s actions :=
  ⟨MemoryPool.handles_always_apart_iff L,
    fun _ s actions => OperatorPool.handles_always_apart_iff L s actions⟩

namespace Sample

/-- The libraries of the sample: Latin letters, and one digest for all. -/
def operatorLibs : OperatorLibs where
  lower c := [c.toLower]
  sqlNormalize := lowercase
  sha256 _ := List.replicate 32 0
  base64Decode _ := some (List.replicate 32 0)

/-- A registration under the delegation of an operator. -/
def operatorRegistration (nodeId operatorPubkey displayName : String) : OperatorRegistration where
  pending :=
    { registration nodeId "https://n1.test" with
      operatorPubkey := some operatorPubkey
      operatorVerified := true }
  operatorPubkey := operatorPubkey
  displayName := some displayName
  attestedCreatedAt := none
  integrityHash := none
  delegated := rfl

/-- Two operators register; then the second takes another display name. -/
def renameAfter (first second renamed : String) : ℕ → OperatorCall
  | 0 => .register (operatorRegistration "n1" "key-1" first)
  | 1 => .register (operatorRegistration "n2" "key-2" second)
  | _ => .rename "key-2" renamed

end Sample

/-- **Two operators with one handle.** In memory the second renames itself to
what the first is called; in the tables both register at once under one name,
and each is checked before either is written. -/
theorem handle_taken_twice :
    ¬ (Run.after (MemoryPool.step Sample.operatorLibs)
        ⟨⟨.empty, .empty _⟩, fun i => .ready (Sample.renameAfter "Ada" "Bob" "ADA " i)⟩
        ([0, 0, 0, 0, 1, 1, 1, 1, 2].map fun i => ⟨i, 0, ""⟩)).memory.operators.HandlesApart
          Sample.operatorLibs.lower
      ∧ ¬ (Run.after (OperatorPool.step Sample.operatorLibs)
        (⟨.empty id, [], fun i => .ready (Sample.renameAfter "Ada" "Ada" "Ada" i)⟩ : OperatorPool id)
        ([0, 0, 1, 1, 0, 0, 0, 1, 1, 1].map fun i => .advance i ⟨.willing, 0, ""⟩)
          ).tables.operators.HandlesApart Sample.operatorLibs.lower := by
  decide
