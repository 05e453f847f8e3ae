import IicpDirectory.Foundations.Locks
import IicpDirectory.Seed.Replicas

/-!
# The locks of the replicas in memory

In memory the replicas are kept behind three mutexes: their rows, the
digests of their tokens, and the identities that were retired. Each
operation is a program over these locks, step by step as the source takes
and drops its guards. Run alone it computes what the operation does
(`alone_program`).

A guard bound by `let` lives to the end of its block, and so a second lock
is taken under it in two operations, in opposite orders: `upsert_replica`
has the rows when it takes the retired ones, `all_replicas` has the retired
ones when it takes the rows. The guard of a condition or of an operand of
`&&` is dropped with it, and the other operations never have two locks.

Without `all_replicas` no calls wait in a circle (`no_circle_of_ordered`).
With it, two calls come to wait for each other exactly by the step that
takes the first lock of one of the two while the other has its own
(`mutualWait_step_iff`), and then neither ever ends.
-/

open Locks

namespace InMemoryRepo

/-- The mutexes of the replicas. -/
inductive ReplicaLock
  | replicas
  | replicaTokenHashes
  | decommissionedReplicas
  deriving DecidableEq

/-- A call of one of the operations. -/
inductive ReplicaCall
  | upsertReplica (replicaId did endpoint trustTier : String)
  | setReplicaTokenHash (replicaId tokenHash : String)
  | replicaTokenHash (replicaId : String)
  | replicaIsActive (replicaId : String)
  | decommissionReplica (replicaId : String)
  | allReplicas
  | replicaIdByDid (did : String)
  deriving DecidableEq

/-- What a call answers. -/
inductive ReplicaAnswer
  | flag (b : Bool)
  | text (s : Option String)
  | rows (rs : List ReplicaEntry)

/-- The programs of the replica operations. -/
abbrev ReplicaProg := Prog ReplicaLock InMemoryRepo ReplicaAnswer

/-- The rows `all_replicas` answers with. -/
def activeRows (repo : InMemoryRepo) : List ReplicaEntry :=
  repo.replicas.filter (fun r => r.replicaId ∉ repo.decommissionedReplicas)

/-- What is left of an `upsert_replica` that has the rows. -/
def upsertRest (replicaId : String) : ReplicaProg :=
  .acquire .decommissionedReplicas
    (fun repo => { repo with
      decommissionedReplicas := repo.decommissionedReplicas.filter (· ≠ replicaId) }) fun _ =>
  .release .decommissionedReplicas <|
  .release .replicas <|
  .done (.flag true)

/-- What is left of an `all_replicas` that has the retired identities. -/
def allRest : ReplicaProg :=
  .acquire .replicas id fun repo =>
  .release .decommissionedReplicas <|
  .release .replicas <|
  .done (.rows repo.activeRows)

/-- **The operations as programs over their locks.** -/
def program : ReplicaCall → ReplicaProg
  | .upsertReplica replicaId did endpoint trustTier =>
    -- the guard of the rows is bound, and lives to the end of the call
    .acquire .replicas
      (fun repo => { repo with
        replicas := upsertReplicaEntry ⟨replicaId, did, endpoint, trustTier, repo.clock⟩
          repo.replicas }) fun _ =>
    upsertRest replicaId
  | .setReplicaTokenHash replicaId tokenHash =>
    -- the guard of the condition is dropped before the branch
    .acquire .replicas id fun repo =>
    .release .replicas <|
    if repo.knowsReplica replicaId then
      .acquire .replicaTokenHashes
        (fun repo => { repo with
          replicaTokenHashes := assocInsert replicaId tokenHash repo.replicaTokenHashes }) fun _ =>
      .release .replicaTokenHashes <|
      .done (.flag true)
    else .done (.flag false)
  | .replicaTokenHash replicaId =>
    .acquire .replicaTokenHashes id fun repo =>
    .release .replicaTokenHashes <|
    .done (.text (repo.replicaTokenHash replicaId))
  | .replicaIsActive replicaId =>
    -- each operand of `&&` drops its own guard
    .acquire .replicas id fun repo =>
    .release .replicas <|
    if repo.knowsReplica replicaId then
      .acquire .decommissionedReplicas id fun repo =>
      .release .decommissionedReplicas <|
      .done (.flag (!decide (replicaId ∈ repo.decommissionedReplicas)))
    else .done (.flag false)
  | .decommissionReplica replicaId =>
    .acquire .replicas id fun repo =>
    .release .replicas <|
    if repo.knowsReplica replicaId then
      .acquire .replicaTokenHashes
        (fun repo => { repo with
          replicaTokenHashes := repo.replicaTokenHashes.filter (fun e => e.1 ≠ replicaId) }) fun _ =>
      .release .replicaTokenHashes <|
      .acquire .decommissionedReplicas
        (fun repo => { repo with
          decommissionedReplicas :=
            if replicaId ∈ repo.decommissionedReplicas then repo.decommissionedReplicas
            else repo.decommissionedReplicas ++ [replicaId] }) fun _ =>
      .release .decommissionedReplicas <|
      .done (.flag true)
    else .done (.flag false)
  | .allReplicas =>
    -- the guard of the retired identities is bound, and the rows are taken under it
    .acquire .decommissionedReplicas id fun _ => allRest
  | .replicaIdByDid did =>
    .acquire .replicas id fun repo =>
    .release .replicas <|
    .done (.text (repo.replicaIdByDid did))

/-- What a call does, with nobody else about. -/
def perform (repo : InMemoryRepo) : ReplicaCall → ReplicaAnswer × InMemoryRepo
  | .upsertReplica replicaId did endpoint trustTier =>
    let r := repo.upsertReplica replicaId did endpoint trustTier
    (.flag r.1, r.2)
  | .setReplicaTokenHash replicaId tokenHash =>
    let r := repo.setReplicaTokenHash replicaId tokenHash
    (.flag r.1, r.2)
  | .replicaTokenHash replicaId => (.text (repo.replicaTokenHash replicaId), repo)
  | .replicaIsActive replicaId => (.flag (repo.replicaIsActive replicaId), repo)
  | .decommissionReplica replicaId =>
    let r := repo.decommissionReplica replicaId
    (.flag r.1, r.2)
  | .allReplicas => (.rows repo.activeRows, repo)
  | .replicaIdByDid did => (.text (repo.replicaIdByDid did), repo)

/-- **A program run alone is its operation.** -/
theorem alone_program (call : ReplicaCall) (repo : InMemoryRepo) :
    (program call).alone repo = perform repo call := by
  cases call with
  | upsertReplica replicaId did endpoint trustTier => rfl
  | replicaTokenHash replicaId => rfl
  | allReplicas => rfl
  | replicaIdByDid did => rfl
  | setReplicaTokenHash replicaId tokenHash =>
    by_cases hknows : repo.knowsReplica replicaId <;>
      simp [program, Prog.alone, perform, setReplicaTokenHash, hknows]
  | replicaIsActive replicaId =>
    by_cases hknows : repo.knowsReplica replicaId <;>
      simp [program, Prog.alone, perform, replicaIsActive, hknows]
  | decommissionReplica replicaId =>
    have hany : repo.replicas.any (fun r => r.replicaId == replicaId)
        = repo.knowsReplica replicaId := rfl
    by_cases hknows : repo.knowsReplica replicaId <;>
      simp [program, Prog.alone, perform, decommissionReplica, hany, hknows]

/-! ## Which locks are nested -/

/-- The call is one of `upsert_replica`. -/
def ReplicaCall.Upserts : ReplicaCall → Prop
  | .upsertReplica .. => True
  | _ => False

/-- The locks a call takes under another. -/
def ReplicaCall.nesting : ReplicaCall → ReplicaLock → ReplicaLock → Prop
  | .upsertReplica .., l, l' => l = .replicas ∧ l' = .decommissionedReplicas
  | .allReplicas, l, l' => l = .decommissionedReplicas ∧ l' = .replicas
  | _, _, _ => False

theorem nestsOnly_program (call : ReplicaCall) : (program call).NestsOnly call.nesting [] := by
  cases call with
  | upsertReplica replicaId did endpoint trustTier =>
    simp [program, upsertRest, Prog.NestsOnly, ReplicaCall.nesting]
  | replicaTokenHash replicaId => simp [program, Prog.NestsOnly]
  | allReplicas => simp [program, allRest, Prog.NestsOnly, ReplicaCall.nesting]
  | replicaIdByDid did => simp [program, Prog.NestsOnly]
  | setReplicaTokenHash replicaId tokenHash =>
    refine ⟨by simp, fun repo => ?_⟩
    show (if repo.knowsReplica replicaId then _ else _ : ReplicaProg).NestsOnly _ _
    split <;> simp [Prog.NestsOnly]
  | replicaIsActive replicaId =>
    refine ⟨by simp, fun repo => ?_⟩
    show (if repo.knowsReplica replicaId then _ else _ : ReplicaProg).NestsOnly _ _
    split <;> simp [Prog.NestsOnly]
  | decommissionReplica replicaId =>
    refine ⟨by simp, fun repo => ?_⟩
    show (if repo.knowsReplica replicaId then _ else _ : ReplicaProg).NestsOnly _ _
    split <;> simp [Prog.NestsOnly]

/-- A call that nests two locks takes these two and no more. -/
theorem takesTwo_of_nesting {call : ReplicaCall} {l l' : ReplicaLock} (h : call.nesting l l') :
    (program call).TakesTwo l l' := by
  cases call with
  | upsertReplica replicaId did endpoint trustTier =>
    obtain ⟨rfl, rfl⟩ := h
    exact ⟨_, _, _, rfl, fun _ => trivial⟩
  | allReplicas =>
    obtain ⟨rfl, rfl⟩ := h
    exact ⟨_, _, _, rfl, fun _ => trivial⟩
  | _ => exact absurd h id

/-- Opposite nestings are of different calls. -/
theorem ne_of_nesting {call call' : ReplicaCall} {l l' : ReplicaLock} (h : call.nesting l l')
    (h' : call'.nesting l' l) : call ≠ call' := by
  rintro rfl
  cases call with
  | upsertReplica replicaId did endpoint trustTier => exact absurd (h.1.symm.trans h'.2) (by simp)
  | allReplicas => exact absurd (h.1.symm.trans h'.2) (by simp)
  | _ => exact absurd h id

/-! ## When two calls wait for each other -/

section Pools

variable {ι : Type*}

/-- Any number of calls on the replicas. -/
abbrev ReplicaPool (ι : Type*) := Pool ι ReplicaLock InMemoryRepo ReplicaAnswer

/-- **The next step of a call crosses another**: it is its first, to take a
lock under which it will take another, and that one is held by a call about
to take the first. -/
def Crosses (calls : ι → ReplicaCall) (s : ReplicaPool ι) (i : ι) : Prop :=
  ∃ j l l', (calls i).nesting l l' ∧ (calls j).nesting l' l
    ∧ s.prog i = program (calls i) ∧ s.holder l' = some j ∧ (s.prog j).WillTake l

/-- Of two calls that cross one is an `upsert_replica`, the other an
`all_replicas`. -/
theorem upserts_of_crosses {calls : ι → ReplicaCall} {s : ReplicaPool ι} {i : ι}
    (h : Crosses calls s i) :
    ∃ j, (calls i = .allReplicas ∧ (calls j).Upserts)
      ∨ ((calls i).Upserts ∧ calls j = .allReplicas) := by
  obtain ⟨j, l, l', hi, hj, _⟩ := h
  refine ⟨j, ?_⟩
  cases hcall : calls i <;> cases hcall' : calls j <;>
    simp_all [ReplicaCall.nesting, ReplicaCall.Upserts]

variable [DecidableEq ι]

/-- The call that takes the step is one of two that wait for each other after it. -/
theorem crosses_of_waits {calls : ι → ReplicaCall} {s s' : ReplicaPool ι} {i j : ι}
    (hs : s.Underway fun i => program (calls i)) (h : s.step i = some s') (hne : i ≠ j)
    (hij : s'.Waits i j) (hji : s'.Waits j i) : Crosses calls s i := by
  obtain ⟨l', hwill, hhas⟩ := hij
  obtain ⟨l, hwill', hhas'⟩ := hji
  have hs' := Pool.underway_step hs h
  have hi : (calls i).nesting l l' := Prog.rel_of_nests (nestsOnly_program _)
    (Pool.nests_of_underway hs' hhas' hwill)
  have hj : (calls j).nesting l' l := Prog.rel_of_nests (nestsOnly_program _)
    (Pool.nests_of_underway hs' hhas hwill')
  refine ⟨j, l, l', hi, hj, ?_, (Pool.holder_step h hne l').mp hhas, ?_⟩
  · exact Pool.begins_of_willTake hs h (takesTwo_of_nesting hi) hwill
  · rw [← Pool.prog_step h hne]
    exact hwill'

/-- After a step that crosses, the two calls wait for each other. -/
theorem mutualWait_of_crosses {calls : ι → ReplicaCall} {s s' : ReplicaPool ι} {i : ι}
    (h : s.step i = some s') (hcross : Crosses calls s i) : s'.MutualWait := by
  obtain ⟨j, l, l', hi, hj, hstart, hhas, hwill⟩ := hcross
  have hne : i ≠ j := fun heq => ne_of_nesting hi hj (congrArg calls heq)
  obtain ⟨effect, effect', next, hprog, _⟩ := takesTwo_of_nesting hi
  obtain ⟨k, effect₀, next₀, htaken, hfree, hs'⟩ | ⟨k, next₀, htaken, _⟩ := Pool.step_cases h
  · obtain ⟨rfl, rfl, rfl⟩ := Prog.acquire.inj (htaken.symm.trans (hstart.trans hprog))
    refine ⟨i, j, hne, ⟨l', ?_, (Pool.holder_step h hne l').mpr hhas⟩, ⟨k, ?_, ?_⟩⟩
    · rw [hs']
      show (Function.update s.prog i _ i).WillTake l'
      rw [Function.update_self]
      exact Prog.willTake_acquire.mpr rfl
    · rw [Pool.prog_step h hne]
      exact hwill
    · rw [hs']
      exact Function.update_self k _ _
  · cases htaken.symm.trans (hstart.trans hprog)

/-- **What a step does to the waiting**: two calls wait for each other after it
if two did before, or if it crosses. -/
theorem mutualWait_step_iff {calls : ι → ReplicaCall} {s s' : ReplicaPool ι} {i : ι}
    (hs : s.Underway fun i => program (calls i)) (h : s.step i = some s') :
    s'.MutualWait ↔ s.MutualWait ∨ Crosses calls s i := by
  constructor
  · rintro ⟨a, b, hne, hab, hba⟩
    rcases eq_or_ne i a with rfl | ha
    · exact Or.inr (crosses_of_waits hs h hne hab hba)
    rcases eq_or_ne i b with rfl | hb
    · exact Or.inr (crosses_of_waits hs h hne.symm hba hab)
    exact Or.inl ⟨a, b, hne, (Pool.waits_step h ha hb).mp hab, (Pool.waits_step h hb ha).mp hba⟩
  · rintro (⟨a, b, hne, hab, hba⟩ | hcross)
    · obtain ⟨hab', hba'⟩ := Pool.mutualWait_step h hab hba
      exact ⟨a, b, hne, hab', hba'⟩
    · exact mutualWait_of_crosses h hcross

/-- The calls, none of them begun. -/
def startCalls (repo : InMemoryRepo) (calls : ι → ReplicaCall) : ReplicaPool ι :=
  Pool.start repo fun i => program (calls i)

theorem underway_run {calls : ι → ReplicaCall} {repo : InMemoryRepo} {schedule : List ι}
    {s : ReplicaPool ι} (h : (startCalls repo calls).run schedule = some s) :
    s.Underway fun i => program (calls i) :=
  Pool.run_invariant (Pool.Underway fun i => program (calls i))
    (fun _ _ _ hs hstep => Pool.underway_step hs hstep) (Pool.underway_start _ _) h

/-- **When calls on the replicas come to wait for each other**: the state a
schedule reaches has no two calls waiting for each other exactly when none
of its steps crossed another call. -/
theorem not_mutualWait_iff (repo : InMemoryRepo) (calls : ι → ReplicaCall) (schedule : List ι)
    (s : ReplicaPool ι) (h : (startCalls repo calls).run schedule = some s) :
    ¬ s.MutualWait ↔ ∀ first i rest t, schedule = first ++ i :: rest →
      (startCalls repo calls).run first = some t → ¬ Crosses calls t i := by
  induction schedule using List.reverseRecOn generalizing s with
  | nil =>
    obtain rfl := Option.some.inj h
    refine iff_of_true ?_ fun first i rest t hsplit => absurd hsplit (by simp)
    rintro ⟨i, j, _, ⟨l, _, hhas⟩, _⟩
    exact Option.some_ne_none j hhas.symm
  | append_singleton before i ih =>
    rw [Pool.run_concat] at h
    obtain ⟨t, ht, hstep⟩ := Option.bind_eq_some_iff.mp h
    rw [mutualWait_step_iff (underway_run ht) hstep, not_or, ih t ht]
    constructor
    · rintro ⟨hbefore, hlast⟩ first k rest u hsplit hu
      rcases List.eq_nil_or_concat' rest with rfl | ⟨rest', last, rfl⟩
      · obtain ⟨rfl, hk⟩ := List.append_inj' hsplit rfl
        obtain rfl := (List.cons.inj hk).1
        obtain rfl := Option.some.inj (ht.symm.trans hu)
        exact hlast
      · rw [← List.cons_append, ← List.append_assoc] at hsplit
        obtain ⟨rfl, _⟩ := List.append_inj' hsplit rfl
        exact hbefore first k rest' u rfl hu
    · intro hall
      refine ⟨fun first k rest u hsplit hu => ?_, hall before i [] t rfl ht⟩
      exact hall first k (rest ++ [i]) u (by rw [hsplit, List.append_assoc]; rfl) hu

/-- Two calls that wait for each other never end, whatever the others do. -/
theorem waits_for_good {s s' : ReplicaPool ι} {i j : ι} {schedule : List ι} (hij : s.Waits i j)
    (hji : s.Waits j i) (h : s.run schedule = some s') : s'.Waits i j ∧ s'.Waits j i :=
  Pool.run_invariant (fun t => t.Waits i j ∧ t.Waits j i)
    (fun _ _ _ ht hstep => Pool.mutualWait_step hstep ht.1 ht.2) ⟨hij, hji⟩ h

/-- **Without `all_replicas` no calls ever wait in a circle**, of two calls or
of more: the other operations take the retired identities under the rows
alone. -/
theorem no_circle_of_ordered {repo : InMemoryRepo} {calls : ι → ReplicaCall}
    (hcalls : ∀ i, calls i ≠ .allReplicas) {schedule : List ι} {s : ReplicaPool ι}
    (h : (startCalls repo calls).run schedule = some s) (i : ι) :
    ¬ Relation.TransGen s.Waits i i := by
  let rank : ReplicaLock → ℕ
    | .replicas => 0
    | _ => 1
  refine Pool.no_circle (underway_run h) rank (fun j l l' hnests => ?_) i
  have hnesting := Prog.rel_of_nests (nestsOnly_program (calls j)) hnests
  cases hcall : calls j with
  | upsertReplica replicaId did endpoint trustTier =>
    rw [hcall] at hnesting
    obtain ⟨rfl, rfl⟩ := hnesting
    exact Nat.zero_lt_one
  | allReplicas => exact absurd hcall (hcalls j)
  | _ =>
    rw [hcall] at hnesting
    exact absurd hnesting id

end Pools

/-- A registration of a replica, and lists of the replicas. -/
def registerAndList (i : ℕ) : ReplicaCall :=
  if i = 0 then .upsertReplica "r1" "did:web:r1.test" "https://r1.test" "bronze"
  else .allReplicas

/-- Registrations of one replica cross no other call: the second waits for the
first, and not the first for it. -/
theorem registrations_served :
    ∃ s, (startCalls InMemoryRepo.empty fun _ : ℕ => registerAndList 0).run [0, 0] = some s
      ∧ ¬ s.MutualWait := by
  refine ⟨_, rfl, (not_mutualWait_iff InMemoryRepo.empty (fun _ => registerAndList 0) [0, 0] _
    rfl).mpr fun first i rest t _ _ hcross => ?_⟩
  obtain ⟨_, ⟨hcall, _⟩ | ⟨_, hcall⟩⟩ := upserts_of_crosses hcross
  · exact ReplicaCall.noConfusion hcall
  · exact ReplicaCall.noConfusion hcall

/-- **A registration and a listing hang each other**: each has taken its first
lock, and waits for the other's. -/
theorem registerAndList_hang :
    ¬ ∀ (repo : InMemoryRepo) (calls : ℕ → ReplicaCall) (schedule : List ℕ) (s : ReplicaPool ℕ),
      (startCalls repo calls).run schedule = some s → ¬ s.MutualWait := by
  intro hnever
  refine hnever InMemoryRepo.empty registerAndList [0, 1] _ rfl ⟨0, 1, by decide, ?_, ?_⟩
  · exact ⟨.decommissionedReplicas, rfl, rfl⟩
  · exact ⟨.replicas, rfl, rfl⟩

end InMemoryRepo
