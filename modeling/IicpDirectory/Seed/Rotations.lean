import IicpDirectory.Seed.Identities
import IicpDirectory.Seed.Leaderboard

/-!
# Chains of rotations

An operator may rotate its key, and the successor may be rotated again. Each
rotation leaves the row of the predecessor as evidence, with an epoch: one more
than the epoch that was in the row, or the one asked for if that is later. But
the row of a successor starts without an epoch, and a row that is active has
none otherwise; so the epoch of a chain does not count on.

Recognition goes with the row: the successor gets the ordinal, and the
predecessor keeps it. The board of the founders lists both.

What is asked of a sequence of rotations (`Recognised`) is so in every state of
it exactly where it is so at the start, and each rotation that is carried
through is in order (`InOrder`): a successor asks for an epoch that is later
than the one recorded before it, and nobody who is listed is rotated
(`rotations_recognised_iff`).
-/

/-- **A rotation that is asked for.** -/
structure IdentityRotation where
  old : String
  new : String
  requestedEpoch : Option ℕ
  reasonClass : String
  deriving DecidableEq

namespace Operators

variable {fold : String → String}

/-- The epoch recorded for an operator. -/
def epoch (t : Operators fold) (operatorPubkey : String) : Option ℕ :=
  (t.row operatorPubkey).bind OperatorRow.rotationEpoch

/-- **A rotation may be carried through**: its operator is active, and the key
of the successor is free. -/
def mayRotate (t : Operators fold) (q : IdentityRotation) : Bool :=
  decide (q.old ≠ q.new) && (t.row q.old).any OperatorRow.isActive && (t.row q.new).isNone

/-! ## What a rotation leaves -/

/-- **What a rotation makes of the table**: a successor with the ordinal and
without an epoch, and the old row as evidence. -/
structure Rotates (t t' : Operators fold) (q : IdentityRotation) (r succ : OperatorRow)
    (f : OperatorRow → OperatorRow) : Prop where
  active : t.activeRow q.old = .ok r
  free : t.row q.new = none
  key : succ.operatorPubkey = q.new
  inherited : succ.ordinal = r.ordinal
  fresh : succ.rotationEpoch = none
  kept : ∀ x, (f x).ordinal = x.ordinal
  recorded : (f r).rotationEpoch = some (OperatorRow.nextEpoch r.rotationEpoch q.requestedEpoch)
  retired : (f r).isActive = false
  same : ∀ x, (f x).operatorPubkey = x.operatorPubkey
  eq : t' = (t.insertNew succ).set q.old f same

theorem activeRow_of_row {t : Operators fold} {operatorPubkey : String} {r : OperatorRow}
    (h : t.row operatorPubkey = some r) (hactive : r.isActive = true) :
    t.activeRow operatorPubkey = .ok r := by
  unfold activeRow
  rw [h]
  exact if_pos hactive

theorem mayRotate_iff {t : Operators fold} {q : IdentityRotation} :
    t.mayRotate q = true
      ↔ q.old ≠ q.new ∧ (∃ r, t.activeRow q.old = .ok r) ∧ t.row q.new = none := by
  unfold mayRotate
  rw [Bool.and_eq_true, Bool.and_eq_true, decide_eq_true_eq, Option.any_eq_true,
    Option.isNone_iff_eq_none, and_assoc]
  refine and_congr_right fun _ => and_congr_left fun _ => ?_
  constructor
  · rintro ⟨r, hrow, hactive⟩
    exact ⟨r, activeRow_of_row hrow hactive⟩
  · rintro ⟨r, hr⟩
    exact ⟨r, activeRow_eq_ok hr⟩

namespace Rotates

variable {t t' : Operators fold} {q : IdentityRotation} {r succ : OperatorRow}
  {f : OperatorRow → OperatorRow} (h : Rotates t t' q r succ f)

include h

theorem row_old : t.row q.old = some r := (activeRow_eq_ok h.active).1

/-- The two keys are different ones to the collation. -/
theorem keys_ne : fold q.new ≠ fold q.old := by
  intro hkey
  have hfree : t.find (fold q.new) = none := h.free
  have hold : t.find (fold q.old) = some r := h.row_old
  rw [hkey, hold] at hfree
  exact absurd hfree (by simp)

/-- The row that stays as evidence, -/
theorem row_old_after : t'.row q.old = some (f r) := by
  have hold : t.find (fold q.old) = some r := h.row_old
  unfold row
  rw [h.eq, find_set, if_pos rfl, find_insertNew, h.key, if_neg (Ne.symm h.keys_ne), hold]
  rfl

/-- and that of the successor. -/
theorem row_new_after : t'.row q.new = some succ := by
  unfold row
  rw [h.eq, find_set, if_neg h.keys_ne, find_insertNew, h.key, if_pos rfl, h.free]
  rfl

/-- Every other row is the same. -/
theorem find_of_ne {key : String} (hold : key ≠ fold q.old) (hnew : key ≠ fold q.new) :
    t'.find key = t.find key := by
  rw [h.eq, find_set, if_neg hold, find_insertNew, h.key, if_neg hnew]

/-- **A row that is there stays.** -/
theorem keepsOthers : KeepsOthers q.old t t' := by
  rw [h.eq]
  exact keepsOthers_rotated t q.old succ f h.same

/-- **An ordinal is there once more.** -/
theorem ordinals_perm : t'.ordinals.Perm (r.ordinal.toList ++ t.ordinals) := by
  have hfree : (fun x : OperatorRow => fold x.operatorPubkey) succ
      ∉ t.rows.map fun x => fold x.operatorPubkey := by
    intro hmem
    have hsome := Table.find_isSome_iff.mpr hmem
    have hnone : t.find (fold succ.operatorPubkey) = none := h.key.symm ▸ h.free
    rw [hnone] at hsome
    exact absurd hsome (by simp)
  have hrows : (t.insertNew succ).rows = t.rows ++ [succ] := by
    show (Table.upsert t succ id fun _ => rfl).rows = _
    unfold Table.upsert
    rw [dif_neg hfree]
  have hset : t'.ordinals = (t.insertNew succ).ordinals := by
    rw [h.eq]
    show ((t.insertNew succ).rows.map _).filterMap _ = (t.insertNew succ).rows.filterMap _
    rw [List.filterMap_map]
    refine congrArg (fun g => (t.insertNew succ).rows.filterMap g) (funext fun x => ?_)
    show (if _ then f x else x).ordinal = x.ordinal
    split
    · exact h.kept x
    · rfl
  have hsucc : [succ].filterMap OperatorRow.ordinal = r.ordinal.toList := by
    rw [← h.inherited]
    cases hordinal : succ.ordinal with
    | none => exact List.filterMap_cons_none hordinal
    | some ordinal => exact List.filterMap_cons_some hordinal
  rw [hset]
  unfold ordinals
  rw [hrows, List.filterMap_append, hsucc]
  exact List.perm_append_comm

end Rotates

/-! ## What is asked of the recognition -/

/-- **Founders are numbered**: no ordinal is listed twice, and none exceeds the
number of those listed. -/
structure Numbered (t : Operators fold) : Prop where
  once : (Ranking.lowest 100 t.ordinals).Nodup
  within : ∀ ordinal ∈ Ranking.lowest 100 t.ordinals,
    ordinal ≤ (Ranking.lowest 100 t.ordinals).length

/-- **The epochs of a chain are ordered**: of two rotations that were carried
through, the second of the successor of the first, the second has the later
epoch. -/
def Ordered (t : Operators fold) (done : List IdentityRotation) : Prop :=
  ∀ p ∈ done, ∀ q ∈ done, fold p.new = fold q.old →
    ∃ e e', t.epoch p.old = some e ∧ t.epoch q.old = some e' ∧ e < e'

/-- **What the rotations are to keep.** -/
structure Recognised (t : Operators fold) (done : List IdentityRotation) : Prop where
  ordered : t.Ordered done
  numbered : t.Numbered

/-- **A rotation is in order**: its operator has no ordinal, or there are as
many lower ones as are listed before the last; and if it is a successor itself
it asks for a later epoch than the one recorded before it. -/
structure InOrder (t : Operators fold) (done : List IdentityRotation) (q : IdentityRotation) :
    Prop where
  unlisted : ∀ ordinal ∈ (t.row q.old).bind OperatorRow.ordinal,
    99 ≤ t.ordinals.countP fun other => decide (other < ordinal)
  later : ∀ p ∈ done, fold p.new = fold q.old → ∀ e ∈ t.epoch p.old, e < q.requestedEpoch.getD 0

/-- What is known of the rotations that were carried through: the old row is
retired and has an epoch, and the successor has none while it is active. -/
def Traced (t : Operators fold) (done : List IdentityRotation) : Prop :=
  ∀ p ∈ done,
    (∃ r e, t.row p.old = some r ∧ r.isActive = false ∧ r.rotationEpoch = some e ∧ 0 < e)
      ∧ ∀ r, t.activeRow p.new = .ok r → r.rotationEpoch = none

theorem nextEpoch_pos (prior requested : Option ℕ) : 0 < OperatorRow.nextEpoch prior requested :=
  lt_max_of_lt_left (lt_min (Nat.succ_pos _) (by decide))

/-- The epoch of a row that has none. -/
theorem lt_nextEpoch_none_iff {e : ℕ} {requested : Option ℕ} (h : 0 < e) :
    e < OperatorRow.nextEpoch none requested ↔ e < requested.getD 0 := by
  unfold OperatorRow.nextEpoch
  rw [lt_max_iff]
  refine or_iff_right fun hlt => ?_
  have hone := lt_of_lt_of_le hlt (min_le_left _ _)
  rw [Option.getD_none] at hone
  omega

namespace Rotates

variable {t t' : Operators fold} {q : IdentityRotation} {r succ : OperatorRow}
  {f : OperatorRow → OperatorRow} {done : List IdentityRotation} (h : Rotates t t' q r succ f)

include h

theorem epoch_after :
    t'.epoch q.old = some (OperatorRow.nextEpoch r.rotationEpoch q.requestedEpoch) := by
  unfold epoch
  rw [h.row_old_after]
  exact h.recorded

/-- A row that is retired is not the one that is rotated. -/
theorem ne_of_retired {operatorPubkey : String} {x : OperatorRow}
    (hrow : t.row operatorPubkey = some x) (hretired : x.isActive = false) :
    fold operatorPubkey ≠ fold q.old := by
  intro hkey
  have hfind : t.find (fold operatorPubkey) = some x := hrow
  have hold : t.find (fold q.old) = some r := h.row_old
  rw [hkey, hold] at hfind
  obtain rfl := Option.some.inj hfind
  exact Bool.false_ne_true (hretired.symm.trans (activeRow_eq_ok h.active).2)

/-- A retired row stays, -/
theorem row_of_retired {operatorPubkey : String} {x : OperatorRow}
    (hrow : t.row operatorPubkey = some x) (hretired : x.isActive = false) :
    t'.row operatorPubkey = some x :=
  h.keepsOthers _ (h.ne_of_retired hrow hretired) x hrow

/-- **and with it its epoch.** -/
theorem epoch_of_traced (htraced : t.Traced done) {p : IdentityRotation} (hp : p ∈ done) :
    ∃ e, 0 < e ∧ t.epoch p.old = some e ∧ t'.epoch p.old = some e := by
  obtain ⟨x, e, hrow, hretired, hepoch, hpos⟩ := (htraced p hp).1
  refine ⟨e, hpos, ?_, ?_⟩
  · unfold epoch
    rw [hrow]
    exact hepoch
  · unfold epoch
    rw [h.row_of_retired hrow hretired]
    exact hepoch

/-- A successor of before that is rotated had no epoch. -/
theorem epoch_of_successor (htraced : t.Traced done) {p : IdentityRotation} (hp : p ∈ done)
    (hkey : fold p.new = fold q.old) : r.rotationEpoch = none := by
  refine (htraced p hp).2 r ?_
  have hactive := h.active
  unfold activeRow row at hactive ⊢
  rw [hkey]
  exact hactive

theorem traced (htraced : t.Traced done) : t'.Traced (q :: done) := by
  refine List.forall_mem_cons.mpr ⟨⟨?_, ?_⟩, fun p hp => ⟨?_, ?_⟩⟩
  · exact ⟨f r, _, h.row_old_after, h.retired, h.recorded, nextEpoch_pos _ _⟩
  · intro x hx
    obtain rfl := Option.some.inj (h.row_new_after.symm.trans (activeRow_eq_ok hx).1)
    exact h.fresh
  · obtain ⟨x, e, hrow, hretired, hepoch⟩ := (htraced p hp).1
    exact ⟨x, e, h.row_of_retired hrow hretired, hretired, hepoch⟩
  · intro x hx
    obtain ⟨hrow, hactive⟩ := activeRow_eq_ok hx
    have hfind : t'.find (fold p.new) = some x := hrow
    by_cases hold : fold p.new = fold q.old
    · -- it was rotated, and is not active
      have hafter : t'.find (fold q.old) = some (f r) := h.row_old_after
      rw [hold, hafter] at hfind
      obtain rfl := Option.some.inj hfind
      exact absurd hactive (by rw [h.retired]; exact Bool.false_ne_true)
    · by_cases hnew : fold p.new = fold q.new
      · have hafter : t'.find (fold q.new) = some succ := h.row_new_after
        rw [hnew, hafter] at hfind
        obtain rfl := Option.some.inj hfind
        exact h.fresh
      · rw [h.find_of_ne hold hnew] at hfind
        exact (htraced p hp).2 x (activeRow_of_row hfind hactive)

/-- **A rotation keeps the epochs in order** exactly if it asks for a later one
than the one before it. -/
theorem ordered_iff (htraced : t.Traced done) (hordered : t.Ordered done) :
    t'.Ordered (q :: done)
      ↔ ∀ p ∈ done, fold p.new = fold q.old → ∀ e ∈ t.epoch p.old, e < q.requestedEpoch.getD 0 := by
  constructor
  · intro hafter p hp hkey e he
    obtain ⟨e₁, e₂, hfirst, hsecond, hlt⟩ :=
      hafter p (List.mem_cons_of_mem q hp) q List.mem_cons_self hkey
    obtain ⟨e', hpos, hbefore, hkept⟩ := h.epoch_of_traced htraced hp
    obtain rfl := Option.some.inj (hbefore.symm.trans he)
    obtain rfl := Option.some.inj (hkept.symm.trans hfirst)
    obtain rfl := Option.some.inj (h.epoch_after.symm.trans hsecond)
    rw [h.epoch_of_successor htraced hp hkey] at hlt
    exact (lt_nextEpoch_none_iff hpos).mp hlt
  · intro hlater
    refine List.forall_mem_cons.mpr ⟨fun p hp hkey => ?_, fun p hp p' hp' hkey => ?_⟩
    · -- the successor of this rotation was not there, so that nothing was rotated before it
      obtain rfl | hp := List.mem_cons.mp hp
      · exact absurd hkey h.keys_ne
      · obtain ⟨x, -, hrow, -⟩ := (htraced p hp).1
        have hfree : t.find (fold q.new) = none := h.free
        have hfind : t.find (fold p.old) = some x := hrow
        rw [← hkey, hfree] at hfind
        exact absurd hfind (by simp)
    · obtain ⟨e, hpos, hbefore, hkept⟩ := h.epoch_of_traced htraced hp
      obtain rfl | hp' := List.mem_cons.mp hp'
      · refine ⟨e, _, hkept, h.epoch_after, ?_⟩
        rw [h.epoch_of_successor htraced hp hkey]
        exact (lt_nextEpoch_none_iff hpos).mpr (hlater p hp hkey e hbefore)
      · obtain ⟨e₁, e₂, hfirst, hsecond, hlt⟩ := hordered p hp p' hp' hkey
        obtain ⟨e', -, hbefore', hkept'⟩ := h.epoch_of_traced htraced hp'
        obtain rfl := Option.some.inj (hbefore.symm.trans hfirst)
        obtain rfl := Option.some.inj (hbefore'.symm.trans hsecond)
        exact ⟨e, e', hkept, hkept', hlt⟩

/-- **It keeps the founders numbered** exactly if its operator is not listed. -/
theorem numbered_iff (hnumbered : t.Numbered) :
    t'.Numbered
      ↔ ∀ ordinal ∈ r.ordinal, 99 ≤ t.ordinals.countP fun other => decide (other < ordinal) := by
  have hlowest := (Ranking.lowest_eq_of_perm h.ordinals_perm : Ranking.lowest 100 _ = _)
  have hmem : ∀ ordinal ∈ r.ordinal, ordinal ∈ t.ordinals := fun ordinal hordinal =>
    List.mem_filterMap.mpr ⟨r, (Table.find_eq_some_iff.mp h.row_old).1, hordinal⟩
  cases hr : r.ordinal with
  | none =>
    rw [hr] at hlowest
    have hsame : Ranking.lowest 100 t'.ordinals = Ranking.lowest 100 t.ordinals := hlowest
    refine iff_of_true ⟨?_, ?_⟩ fun _ hmem => absurd hmem (by simp)
    · rw [hsame]
      exact hnumbered.once
    · rw [hsame]
      exact hnumbered.within
  | some ordinal =>
    rw [hr] at hlowest hmem
    have hthere : ordinal ∈ t.ordinals := hmem ordinal rfl
    have hmore : Ranking.lowest 100 t'.ordinals = Ranking.lowest 100 (ordinal :: t.ordinals) :=
      hlowest
    have honce : (Ranking.lowest 100 t'.ordinals).Nodup
        ↔ 99 ≤ t.ordinals.countP fun other => decide (other < ordinal) := by
      rw [hmore, Ranking.nodup_lowest_cons_iff hthere hnumbered.once]
      exact Nat.succ_le_succ_iff
    constructor
    · intro hafter other hother
      obtain rfl := Option.mem_some_iff.mp hother
      exact honce.mp hafter.once
    · intro hall
      refine ⟨honce.mpr (hall ordinal rfl), fun other hother => ?_⟩
      rw [hmore] at hother ⊢
      have hle := hnumbered.within other (Ranking.mem_lowest_of_mem_cons hthere hother)
      rw [Ranking.length_lowest] at hle ⊢
      rw [List.length_cons]
      omega

/-- **What a rotation is to keep it keeps** exactly if it is in order. -/
theorem recognised_iff (htraced : t.Traced done) (hrec : t.Recognised done) :
    t'.Recognised (q :: done) ↔ t.InOrder done q := by
  have hordered := h.ordered_iff htraced hrec.ordered
  have hnumbered := h.numbered_iff hrec.numbered
  constructor
  · intro hafter
    refine ⟨fun ordinal hordinal => hnumbered.mp hafter.numbered ordinal ?_,
      hordered.mp hafter.ordered⟩
    rwa [h.row_old] at hordinal
  · intro horder
    refine ⟨hordered.mpr horder.later, hnumbered.mpr fun ordinal hordinal => ?_⟩
    refine horder.unlisted ordinal ?_
    rw [h.row_old]
    exact hordinal

end Rotates

end Operators

/-! ## Runs of rotations -/

/-- **A repository, and the rotations that were carried through in it**, the
last one first. -/
structure Rotating (σ : Type) where
  repo : σ
  done : List IdentityRotation := []

namespace Rotating

variable {σ ρ : Type} {fold : String → String} {operators : σ → Operators fold}
  {rotate : σ → ρ → σ} {carries : σ → ρ → Option IdentityRotation}

/-- A rotation is asked for. -/
def step (rotate : σ → ρ → σ) (carries : σ → ρ → Option IdentityRotation) (s : Rotating σ) (i : ρ) :
    Rotating σ where
  repo := rotate s.repo i
  done := (carries s.repo i).elim s.done (· :: s.done)

/-- **Which requests are carried through, and what they make of the
operators.** -/
def Carries (operators : σ → Operators fold) (rotate : σ → ρ → σ)
    (carries : σ → ρ → Option IdentityRotation) : Prop :=
  ∀ s i, (carries s i = none ∧ operators (rotate s i) = operators s)
    ∨ ∃ q r succ f, carries s i = some q
      ∧ Operators.Rotates (operators s) (operators (rotate s i)) q r succ f

/-- **The law along every run**: the rotations keep what they are to keep in
every state exactly where it is so at the start, and each that is carried
through is in order. -/
theorem recognised_iff (hcarries : Carries operators rotate carries) (s : σ) (requests : List ρ) :
    (∀ n, (operators (Run.after (step rotate carries) ⟨s, []⟩ (requests.take n)).repo).Recognised
        (Run.after (step rotate carries) ⟨s, []⟩ (requests.take n)).done)
      ↔ (operators s).Numbered
        ∧ Run.Along (step rotate carries)
            (fun s i => ∀ q ∈ carries s.repo i, (operators s.repo).InOrder s.done q) ⟨s, []⟩
            requests := by
  have hstep : ∀ (s : Rotating σ) (i : ρ), (operators s.repo).Traced s.done →
      (operators s.repo).Recognised s.done →
        (operators (step rotate carries s i).repo).Traced (step rotate carries s i).done
          ∧ ((operators (step rotate carries s i).repo).Recognised (step rotate carries s i).done
            ↔ ∀ q ∈ carries s.repo i, (operators s.repo).InOrder s.done q) := by
    intro s i htraced hrec
    unfold step
    dsimp only
    rcases hcarries s.repo i with ⟨hnone, hsame⟩ | ⟨q, r, succ, f, hsome, hrotates⟩
    · rw [hnone, hsame]
      exact ⟨htraced, iff_of_true hrec fun _ hq => absurd hq (by simp)⟩
    · rw [hsome]
      refine ⟨hrotates.traced htraced, (hrotates.recognised_iff htraced hrec).trans ?_⟩
      exact ⟨fun horder _ hq => Option.mem_some_iff.mp hq ▸ horder, fun hall => hall q rfl⟩
  have hstart : (operators s).Recognised [] ↔ (operators s).Numbered :=
    ⟨fun h => h.numbered, fun h => ⟨fun _ hp => absurd hp List.not_mem_nil, h⟩⟩
  have hrun : (operators s).Recognised [] → ((∀ n, _) ↔ _) := fun h =>
    @Run.always_iff_of_seen (Rotating σ) ρ (step rotate carries)
      (fun s => (operators s.repo).Traced s.done ∧ (operators s.repo).Recognised s.done)
      (fun s => (operators s.repo).Recognised s.done) (fun _ _ => True)
      (fun s i => ∀ q ∈ carries s.repo i, (operators s.repo).InOrder s.done q)
      (fun _ h => h.2)
      (fun s i _ h hok => ⟨(hstep s i h.1 h.2).1, (hstep s i h.1 h.2).2.mpr hok⟩)
      (fun s i _ h hseen => (hstep s i h.1 h.2).2.mp hseen) ⟨s, []⟩ requests
      ⟨fun _ hp => absurd hp List.not_mem_nil, h⟩ (Run.along_of_forall _ (fun _ _ _ => trivial) _)
  constructor
  · intro hall
    have h := hstart.mp (hall 0)
    exact ⟨h, (hrun (hstart.mpr h)).mp hall⟩
  · rintro ⟨h, halong⟩
    exact (hrun (hstart.mpr h)).mpr halong

end Rotating

/-! ## In memory -/

namespace OperatorMemory

/-- `InMemoryRepo::rotate_operator_identity`: the map, and then the nodes. -/
def rotateOperatorIdentity (m : OperatorMemory) (q : IdentityRotation) :
    Except OperatorLifecycleError OperatorLifecycleResult × OperatorMemory :=
  match m.operators.rotateIdentity q.old q.new q.requestedEpoch with
  | .error e => (.error e, m)
  | .ok (epoch, operators) =>
    (.ok ⟨m.repo.linkedNodes q.old, some epoch, none⟩,
      { repo := m.repo.mapNodes (Node.rebound q.old q.new) (Node.nodeId_rebound q.old q.new)
        operators := operators })

/-- A rotation, whatever it answers. -/
def rotate (m : OperatorMemory) (q : IdentityRotation) : OperatorMemory :=
  (m.rotateOperatorIdentity q).2

/-- The rotation that is carried through. -/
def carries (m : OperatorMemory) (q : IdentityRotation) : Option IdentityRotation :=
  if m.operators.mayRotate q then some q else none

theorem carries_rotate : Rotating.Carries OperatorMemory.operators rotate carries := by
  intro m q
  unfold rotate rotateOperatorIdentity carries
  cases hmay : m.operators.mayRotate q with
  | true =>
    obtain ⟨hne, ⟨r, hactive⟩, hfree⟩ := Operators.mayRotate_iff.mp hmay
    have hrotated : m.operators.rotateIdentity q.old q.new q.requestedEpoch
        = .ok (OperatorRow.nextEpoch r.rotationEpoch q.requestedEpoch,
            (m.operators.insertNew (Operators.successor q.new r)).set q.old
              (OperatorRow.rotated (OperatorRow.nextEpoch r.rotationEpoch q.requestedEpoch))
              fun _ => rfl) := by
      unfold Operators.rotateIdentity
      rw [if_neg hne, hactive, hfree]
      rfl
    rw [hrotated]
    exact Or.inr ⟨q, r, Operators.successor q.new r, OperatorRow.rotated _, rfl,
      ⟨hactive, hfree, rfl, rfl, rfl, fun _ => rfl, rfl, rfl, fun _ => rfl, rfl⟩⟩
  | false =>
    refine Or.inl ⟨rfl, ?_⟩
    cases hrotated : m.operators.rotateIdentity q.old q.new q.requestedEpoch with
    | error e => rfl
    | ok done =>
      obtain ⟨epoch, operators⟩ := done
      obtain ⟨r, hactive, hne, hfree, -⟩ := Operators.rotateIdentity_eq_ok hrotated
      rw [Operators.mayRotate_iff.mpr ⟨hne, ⟨r, hactive⟩, hfree⟩] at hmay
      exact absurd hmay (by simp)

end OperatorMemory

/-! ## In the tables -/

namespace OperatorTables

variable {fold : String → String}

/-- A rotation in the tables, and the server it meets. -/
structure Rotation where
  request : IdentityRotation
  turn : Turn

/-- A rotation, whatever it answers. -/
def rotate (L : OperatorLibs) (db : OperatorTables fold) (q : Rotation) : OperatorTables fold :=
  (db.rotateOperatorIdentity L q.turn q.request.old q.request.new q.request.requestedEpoch
    q.request.reasonClass).2

/-- The rotation that is carried through: both keys are keys, and the server
commits it. -/
def carries (L : OperatorLibs) (db : OperatorTables fold) (q : Rotation) : Option IdentityRotation :=
  if db.operators.mayRotate q.request && (policyKeySha256 L q.request.new).isSome
      && (policyKeySha256 L q.request.old).isSome && q.turn.server.carries 6 then
    some q.request
  else none

/-- **The statements of a rotation are executed** where the key of the
successor is free and both keys are keys, -/
theorem rotateBody_executes (L : OperatorLibs) {old new : String} (r : OperatorRow) (epoch : ℕ)
    (reasonClass : String) {db : OperatorTables fold} (hfree : db.operators.row new = none)
    (hnew : (policyKeySha256 L new).isSome = true) (hold : (policyKeySha256 L old).isSome = true) :
    ∃ db', (rotateBody L old new r epoch reasonClass).foldlM (fun s statement => statement s) db
      = some db' := by
  obtain ⟨successorSha256, hnew⟩ := Option.isSome_iff_exists.mp hnew
  obtain ⟨predecessorSha256, hold⟩ := Option.isSome_iff_exists.mp hold
  have hinsert : insertOperator (successor new r) db
      = some { db with operators := db.operators.insertNew (successor new r) } := by
    unfold insertOperator
    show (if (db.operators.row new).isSome then none else _) = _
    rw [hfree]
    rfl
  unfold rotateBody
  simp [hinsert, hnew, hold]

/-- and nowhere else. -/
theorem rotateBody_stuck (L : OperatorLibs) {old new : String} (r : OperatorRow) (epoch : ℕ)
    (reasonClass : String) {db : OperatorTables fold}
    (h : ((policyKeySha256 L new).isSome && (policyKeySha256 L old).isSome) = false) :
    (rotateBody L old new r epoch reasonClass).foldlM (fun s statement => statement s) db
      = none := by
  unfold rotateBody
  cases hinsert : insertOperator (successor new r) db with
  | none => simp [hinsert]
  | some inserted =>
    cases hnew : policyKeySha256 L new with
    | none => simp
    | some successorSha256 =>
      cases hold : policyKeySha256 L old with
      | none => simp
      | some predecessorSha256 =>
        rw [hnew, hold] at h
        exact absurd h (by simp)

/-- **What is left of a rotation that may be carried through** is what its
transaction leaves, if it is begun. -/
theorem snd_rotateOperatorIdentity (L : OperatorLibs) (t : Turn) {db : OperatorTables fold}
    {q : IdentityRotation} {r : OperatorRow} (hne : q.old ≠ q.new)
    (hactive : db.operators.activeRow q.old = .ok r) (hfree : db.operators.row q.new = none) :
    (db.rotateOperatorIdentity L t q.old q.new q.requestedEpoch q.reasonClass).2
      = if t.server.answersRead 0 && t.server.answersRead 1 then
          (Transaction.run t.server (rotateBody L q.old q.new r
            (OperatorRow.nextEpoch r.rotationEpoch q.requestedEpoch) q.reasonClass) db).2
        else db := by
  unfold rotateOperatorIdentity
  rw [if_neg hne, hactive, hfree]
  cases t.server.answersRead 0 with
  | false => rfl
  | true => cases t.server.answersRead 1 <;> rfl

theorem answersRead_of_carries {server : Server} (h : server.carries 6 = true) {n : ℕ}
    (hn : n < 6) : server.answersRead n = true := by
  unfold Server.carries at h
  rw [Bool.and_eq_true, Bool.and_eq_true, List.all_eq_true] at h
  unfold Server.answersRead
  rw [h.1.1, h.1.2 n (List.mem_range'_1.mpr ⟨Nat.zero_le n, by omega⟩)]
  rfl

theorem carries_rotate (L : OperatorLibs) :
    Rotating.Carries (@OperatorTables.operators fold) (rotate L) (carries L) := by
  intro db q
  unfold rotate carries
  cases hmay : db.operators.mayRotate q.request with
  | false =>
    refine Or.inl ⟨rfl, ?_⟩
    rcases rotateOperatorIdentity_cases L q.turn db q.request.old q.request.new
      q.request.requestedEpoch q.request.reasonClass with hsame | ⟨r, -, -, hactive, hfree, -⟩
    · rw [hsame]
    · have hne : q.request.old ≠ q.request.new := by
        intro hsame
        have hrow := (Operators.activeRow_eq_ok hactive).1
        rw [hsame, hfree] at hrow
        exact absurd hrow (by simp)
      rw [Operators.mayRotate_iff.mpr ⟨hne, ⟨r, hactive⟩, hfree⟩] at hmay
      exact absurd hmay (by simp)
  | true =>
    obtain ⟨hne, ⟨r, hactive⟩, hfree⟩ := Operators.mayRotate_iff.mp hmay
    rw [snd_rotateOperatorIdentity L q.turn hne hactive hfree, Bool.true_and]
    cases hkeys : (policyKeySha256 L q.request.new).isSome
        && (policyKeySha256 L q.request.old).isSome with
    | false =>
      refine Or.inl ⟨rfl, ?_⟩
      rw [Transaction.run_of_stuck q.turn.server (rotateBody_stuck L r _ _ hkeys), ite_self]
    | true =>
      rw [Bool.true_and]
      cases hcommits : q.turn.server.carries 6 with
      | false =>
        refine Or.inl ⟨rfl, ?_⟩
        have hleft : Transaction.run q.turn.server (rotateBody L q.request.old q.request.new r
            (OperatorRow.nextEpoch r.rotationEpoch q.request.requestedEpoch)
            q.request.reasonClass) db = (false, db) := Transaction.run_of_not_carried hcommits db
        rw [hleft, ite_self]
      | true =>
        obtain ⟨hnew, hold⟩ := (Bool.and_eq_true _ _).mp hkeys
        obtain ⟨db', hbody⟩ := rotateBody_executes L r
          (OperatorRow.nextEpoch r.rotationEpoch q.request.requestedEpoch) q.request.reasonClass
          hfree hnew hold
        obtain ⟨successorSha256, hoperators⟩ := of_rotateBody hbody
        rw [answersRead_of_carries hcommits (by decide : 0 < 6),
          answersRead_of_carries hcommits (by decide : 1 < 6), Bool.and_self, if_pos rfl,
          Transaction.snd_run_of_carried hcommits hbody]
        exact Or.inr ⟨q.request, r, successor q.request.new r, rotatedRow _ _ _, rfl,
          ⟨hactive, hfree, rfl, rfl, rfl, fun _ => rfl, rfl, rfl, fun _ => rfl, hoperators⟩⟩

end OperatorTables

/-! ## The board -/

/-- **The board is sound whenever it is read**, whoever is pending, exactly if
the founders are numbered. -/
theorem sound_iff_numbered {Look : Type} {fold : String → String} {t : Operators fold}
    {founders : Look → List FounderEntry} {pending : Look → List PendingFounderEntry}
    {nowMs : Look → ℤ} (hread : ∀ look, founders look = t.listFounders 100 ∨ founders look = [])
    (hpending : ∃ look, founders look = t.listFounders 100 ∧ pending look ≠ []) :
    (∀ look, (foundersBoard (founders look) (pending look) (nowMs look)).Sound) ↔ t.Numbered := by
  have hlength : (t.listFounders 100).length = (Ranking.lowest 100 t.ordinals).length := by
    rw [← Operators.ordinal_listFounders, List.length_map]
  constructor
  · intro hall
    obtain ⟨look, hlook, hsome⟩ := hpending
    have hsound := hall look
    rw [hlook] at hsound
    have honce := hsound.once
    have hbeyond := (beyond_foundersBoard_iff _ _ _).mp hsound.beyond
    rw [ordinal_foundersBoard, Operators.ordinal_listFounders] at honce
    rw [Operators.ordinal_listFounders, hlength] at hbeyond
    exact ⟨honce, hbeyond.resolve_left hsome⟩
  · intro hnumbered look
    rcases hread look with hlook | hlook
    · rw [hlook]
      refine ⟨?_, (beyond_foundersBoard_iff _ _ _).mpr (Or.inr ?_)⟩
      · rw [ordinal_foundersBoard, Operators.ordinal_listFounders]
        exact hnumbered.once
      · rw [Operators.ordinal_listFounders, hlength]
        exact hnumbered.within
    · rw [hlook]
      refine ⟨?_, (beyond_foundersBoard_iff _ _ _).mpr (Or.inr ?_)⟩
      · rw [ordinal_foundersBoard]
        exact List.nodup_nil
      · exact fun _ hmem => absurd hmem List.not_mem_nil

/-- **What is asked of a sequence of rotations**: the epochs of a chain are in
order, and the board is sound whenever it is read. -/
structure Operators.Lawful {Look : Type} {fold : String → String} (t : Operators fold)
    (done : List IdentityRotation) (board : Look → Leaderboard) : Prop where
  ordered : t.Ordered done
  sound : ∀ look, (board look).Sound

/-- Two epochs that are the same are not in order. -/
theorem Operators.not_ordered {fold : String → String} {t : Operators fold}
    {done : List IdentityRotation} {p q : IdentityRotation} (hp : p ∈ done) (hq : q ∈ done)
    (hkey : fold p.new = fold q.old) (hsame : t.epoch p.old = t.epoch q.old) :
    ¬ t.Ordered done := by
  intro hordered
  obtain ⟨e, e', he, he', hlt⟩ := hordered p hp q hq hkey
  obtain rfl := Option.some.inj (he.symm.trans (hsame.trans he'))
  exact absurd hlt (lt_irrefl e)

theorem Operators.lawful_iff {Look : Type} {fold : String → String} {t : Operators fold}
    {done : List IdentityRotation} {board : Look → Leaderboard}
    (h : (∀ look, (board look).Sound) ↔ t.Numbered) : t.Lawful done board ↔ t.Recognised done :=
  ⟨fun hlaw => ⟨hlaw.ordered, h.mp hlaw.sound⟩, fun hrec => ⟨hrec.ordered, h.mpr hrec.numbered⟩⟩

/-- When the pending ones are read in memory: some state, later or not. -/
structure MemoryLook where
  later : OperatorMemory
  nowMs : ℤ

/-- And in the tables, with the servers of the two queries. -/
structure TablesLook (fold : String → String) where
  server : Server
  later : OperatorTables fold
  turn : Turn

/-- The board in memory. -/
def OperatorMemory.board (m : OperatorMemory) (look : MemoryLook) : Leaderboard :=
  foundersBoard (m.operators.listFounders 100) (look.later.listPendingFounders 25) look.nowMs

/-- The board in the tables. -/
def OperatorTables.board {fold : String → String} (db : OperatorTables fold)
    (look : TablesLook fold) : Leaderboard :=
  foundersBoard (db.listFounders look.server 100) (look.later.listPendingFounders look.turn 25)
    look.turn.nowMs

namespace Sample

/-- A node of an operator without an ordinal, that serves. -/
def servingNode : NodeRecord :=
  let r := (registration "n1" "https://n1.test").record
  { r with
    node := { r.node with
      operatorPubkey := some "latecomer"
      operatorVerified := true
      available := true } }

/-- The operator. -/
def latecomer : OperatorRow := Operators.firstRow "latecomer" none none none 0

/-- Both in memory, -/
def servingMemory : OperatorMemory where
  repo := { InMemoryRepo.empty with
    records := [servingNode]
    ids_nodup := List.nodup_singleton _ }
  operators := ⟨[latecomer], List.nodup_singleton _⟩

/-- and in the tables. -/
def servingTables (fold : String → String) : OperatorTables fold :=
  { OperatorTables.empty fold with
    repo := { MySqlRepo.empty fold with
      nodes := ⟨[{ MySqlRepo.newRow servingNode "default" with publicReachable := true }],
        List.nodup_singleton _⟩ }
    bindings := ⟨[⟨"n1", some "latecomer", true, none, none, true, none⟩], List.nodup_singleton _⟩
    operators := ⟨[latecomer], List.nodup_singleton _⟩ }

end Sample

/-- Whatever the collation, it is pending. -/
theorem Sample.serves_servingTables (fold : String → String) :
    (servingTables fold).serves 0 "latecomer" = true := by
  have hfind : (servingTables fold).repo.find "n1"
      = some { MySqlRepo.newRow servingNode "default" with publicReachable := true } :=
    Table.find_eq_some_iff.mpr ⟨List.mem_singleton_self _, rfl⟩
  show (OperatorTables.boundTo fold "latecomer" _ && true && ((servingTables fold).repo.find "n1").any _
    || false) = true
  rw [hfind]
  show (fold "latecomer" == fold "latecomer" && true && true || false) = true
  rw [beq_self_eq_true]
  rfl

theorem OperatorMemory.sound_board_iff (m : OperatorMemory) :
    (∀ look, (m.board look).Sound) ↔ m.operators.Numbered :=
  sound_iff_numbered (fun _ => Or.inl rfl) ⟨⟨Sample.servingMemory, 0⟩, rfl, by decide⟩

theorem OperatorTables.sound_board_iff {fold : String → String} (db : OperatorTables fold) :
    (∀ look, (db.board look).Sound) ↔ db.operators.Numbered := by
  refine sound_iff_numbered (fun look => ?_)
    ⟨⟨.willing, Sample.servingTables fold, ⟨.willing, 0, ""⟩⟩, rfl, ?_⟩
  · unfold OperatorTables.listFounders
    split
    · exact Or.inl rfl
    · exact Or.inr rfl
  · have hpending : (Sample.servingTables fold).listPendingFounders ⟨.willing, 0, ""⟩ 25
        = [OperatorRow.pendingEntry Sample.latecomer] := by
      have hfilter : [Sample.latecomer].filter (fun r =>
          r.ordinal.isNone && (Sample.servingTables fold).serves 0 r.operatorPubkey)
            = [Sample.latecomer] :=
        List.filter_eq_self.mpr (List.forall_mem_singleton.mpr (Sample.serves_servingTables fold))
      show ((([Sample.latecomer].filter fun r =>
        r.ordinal.isNone && (Sample.servingTables fold).serves 0 r.operatorPubkey).map
          _).insertionSort _).take 25 = _
      rw [hfilter]
      rfl
    show (Sample.servingTables fold).listPendingFounders ⟨.willing, 0, ""⟩ 25 ≠ []
    rw [hpending]
    exact List.cons_ne_nil _ _

/-- **Where chains of rotations are ordered and recognition is not duplicated.**
In either repository and over every run of rotations, the epochs of every chain
are in order and the board is sound whenever it is read, exactly where the
founders are numbered at the start, and each rotation that is carried through
is in order. -/
theorem rotations_lawful_iff (L : OperatorLibs) :
    (∀ (m : OperatorMemory) (requests : List IdentityRotation),
      (∀ n,
          let s := Run.after (Rotating.step OperatorMemory.rotate OperatorMemory.carries) ⟨m, []⟩
            (requests.take n)
          s.repo.operators.Lawful s.done s.repo.board)
        ↔ m.operators.Numbered
          ∧ Run.Along (Rotating.step OperatorMemory.rotate OperatorMemory.carries)
              (fun s q => ∀ carried ∈ s.repo.carries q, s.repo.operators.InOrder s.done carried)
              ⟨m, []⟩ requests)
      ∧ ∀ (fold : String → String) (db : OperatorTables fold)
          (requests : List OperatorTables.Rotation),
        (∀ n,
            let s := Run.after (Rotating.step (OperatorTables.rotate L) (OperatorTables.carries L))
              ⟨db, []⟩ (requests.take n)
            s.repo.operators.Lawful s.done s.repo.board)
          ↔ db.operators.Numbered
            ∧ Run.Along (Rotating.step (OperatorTables.rotate L) (OperatorTables.carries L))
                (fun s q => ∀ carried ∈ s.repo.carries L q,
                  s.repo.operators.InOrder s.done carried)
                ⟨db, []⟩ requests := by
  constructor
  · intro m requests
    rw [← Rotating.recognised_iff OperatorMemory.carries_rotate m requests]
    exact forall_congr' fun n => Operators.lawful_iff (OperatorMemory.sound_board_iff _)
  · intro fold db requests
    rw [← Rotating.recognised_iff (OperatorTables.carries_rotate L) db requests]
    exact forall_congr' fun n => Operators.lawful_iff (OperatorTables.sound_board_iff _)

namespace Sample

/-- Three keys of an operator, in Base64. -/
def rotationKeys : List String :=
  ["PT09PT09PT09PT09PT09PT09PT09PT09PT09PT09PT0=",
   "Pj4+Pj4+Pj4+Pj4+Pj4+Pj4+Pj4+Pj4+Pj4+Pj4+Pj4=",
   "Pz8/Pz8/Pz8/Pz8/Pz8/Pz8/Pz8/Pz8/Pz8/Pz8/Pz8="]

/-- Base64 and SHA-256, of them. -/
def rotationLibs : OperatorLibs where
  lower c := [c]
  sqlNormalize := id
  base64Decode text := (rotationKeys.zip
    [List.replicate 32 61, List.replicate 32 62, List.replicate 32 63]).lookup text
  sha256 text := (
    [(List.replicate 32 61,
        bytes 32 0x8795d57b31051f613c241a9052e3ce50ceffeff88b73db7362d69d52eec17afe),
     (List.replicate 32 62,
        bytes 32 0xb59550bb3e711f3f1f8f2fe77c140278dfa7476a17547d41caf2e161f5c14437),
     (List.replicate 32 63,
        bytes 32 0xe5c03599e473b1796057ca9454d330d391e4703344cf2ac5662ca2dee0c2610d)].lookup
      text).getD []

/-- The first key rotates to the second, and that to the third. -/
def twoRotations : List IdentityRotation :=
  [⟨rotationKeys[0], rotationKeys[1], none, "operator_rotation"⟩,
   ⟨rotationKeys[1], rotationKeys[2], none, "operator_rotation"⟩]

/-- The operator is the first founder. -/
def firstFounder : Operators id :=
  ⟨[{ Operators.firstRow rotationKeys[0] none none none 0 with ordinal := some 1 }],
    List.nodup_singleton _⟩

/-- In memory, -/
def rotatedMemory : Rotating OperatorMemory :=
  Run.after (Rotating.step OperatorMemory.rotate OperatorMemory.carries)
    ⟨⟨.empty, firstFounder⟩, []⟩ twoRotations

/-- and in the tables. -/
def rotatedTables : Rotating (OperatorTables id) :=
  Run.after (Rotating.step (OperatorTables.rotate rotationLibs) (OperatorTables.carries rotationLibs))
    ⟨{ OperatorTables.empty id with operators := firstFounder }, []⟩
    (twoRotations.map fun q => ⟨q, .willing, 0, ""⟩)

end Sample

/-- **The epoch of a chain does not count on, and its ordinal is listed three
times.** After two rotations that ask for no epoch, both predecessors have the
first. -/
theorem rotation_chain_disordered :
    ((Sample.rotatedMemory.repo.operators.epoch Sample.rotationKeys[0],
          Sample.rotatedMemory.repo.operators.epoch Sample.rotationKeys[1]) = (some 1, some 1)
        ∧ ¬ Sample.rotatedMemory.repo.operators.Ordered Sample.rotatedMemory.done
        ∧ (Sample.rotatedMemory.repo.operators.listFounders 100).map FounderEntry.ordinal
          = [1, 1, 1])
      ∧ (Sample.rotatedTables.repo.operators.epoch Sample.rotationKeys[0],
          Sample.rotatedTables.repo.operators.epoch Sample.rotationKeys[1]) = (some 1, some 1)
        ∧ ¬ Sample.rotatedTables.repo.operators.Ordered Sample.rotatedTables.done
        ∧ (Sample.rotatedTables.repo.operators.listFounders 100).map FounderEntry.ordinal
          = [1, 1, 1] := by
  refine ⟨⟨by decide +kernel, ?_, by decide +kernel⟩, by decide +kernel, ?_, by decide +kernel⟩
  · refine Operators.not_ordered (p := Sample.twoRotations[0]) (q := Sample.twoRotations[1]) ?_ ?_
      rfl ?_ <;> decide +kernel
  · refine Operators.not_ordered (p := Sample.twoRotations[0]) (q := Sample.twoRotations[1]) ?_ ?_
      rfl ?_ <;> decide +kernel
