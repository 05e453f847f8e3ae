import Mathlib.Data.List.Nodup
import Mathlib.Logic.Function.Basic
import Mathlib.Logic.Relation
import Mathlib.Order.Basic

/-!
# Calls that share data under locks

A call is a program whose steps take a lock and give it back; what it does
to the shared data it does under the locks it has, so its work is written
at the step that takes the lock, and the way on may depend on what it
found. A pool has any number of calls, and a schedule interleaves their
steps in any order.

A call waits for another when its next step is to take a lock that the
other has. Two rules say which calls can wait for each other. They have to
nest the same two locks in opposite orders (`Pool.nested_of_mutualWait`),
and where every program nests its locks upwards in some order, no circle of
waiting calls is ever reached (`Pool.no_circle`). Two calls that wait for
each other do so for good (`Pool.mutualWait_step`).
-/

namespace Locks

/-- A program of a call: it ends in an answer, takes a lock and works on the
data, or gives a lock back. -/
inductive Prog (L σ α : Type*)
  | done (answer : α)
  | acquire (l : L) (effect : σ → σ) (next : σ → Prog L σ α)
  | release (l : L) (next : Prog L σ α)

namespace Prog

variable {L σ α : Type*}

/-- The program run with nobody else about. -/
def alone : Prog L σ α → σ → α × σ
  | done answer, s => (answer, s)
  | acquire _ effect next, s => (next s).alone (effect s)
  | release _ next, s => next.alone s

/-- The next step is to take this lock. -/
def WillTake (p : Prog L σ α) (l : L) : Prop :=
  match p with
  | acquire l' _ _ => l' = l
  | _ => False

theorem willTake_acquire {l l' : L} {effect : σ → σ} {next : σ → Prog L σ α} :
    (acquire l effect next).WillTake l' ↔ l = l' := Iff.rfl

theorem eq_acquire_of_willTake {p : Prog L σ α} {l : L} (h : p.WillTake l) :
    ∃ effect next, p = acquire l effect next := by
  cases p with
  | done answer => exact absurd h id
  | release l' next => exact absurd h id
  | acquire l' effect next =>
    obtain rfl : l' = l := h
    exact ⟨effect, next, rfl⟩

/-- **What is left of a program** part of the way through it, with the locks
it then has. -/
inductive Left [DecidableEq L] (p : Prog L σ α) : List L → Prog L σ α → Prop
  | start : Left p [] p
  | acquire {held : List L} {l : L} {effect : σ → σ} {next : σ → Prog L σ α} (s : σ) :
      Left p held (acquire l effect next) → Left p (l :: held) (next s)
  | release {held : List L} {l : L} {next : Prog L σ α} :
      Left p held (release l next) → Left p (held.erase l) next

/-- The program may have one lock when it takes another. -/
def Nests [DecidableEq L] (p : Prog L σ α) (l l' : L) : Prop :=
  ∃ held q, Left p held q ∧ l ∈ held ∧ q.WillTake l'

/-- With some locks already taken, the program takes a lock under another
only where a relation allows it. -/
def NestsOnly [DecidableEq L] (R : L → L → Prop) : Prog L σ α → List L → Prop
  | done _, _ => True
  | acquire l _ next, held => (∀ h ∈ held, R h l) ∧ ∀ s, (next s).NestsOnly R (l :: held)
  | release l next, held => next.NestsOnly R (held.erase l)

theorem nestsOnly_of_left [DecidableEq L] {R : L → L → Prop} {p q : Prog L σ α} {held : List L}
    (hp : p.NestsOnly R []) (h : Left p held q) : q.NestsOnly R held := by
  induction h with
  | start => exact hp
  | acquire s _ ih => exact ih.2 s
  | release _ ih => exact ih

/-- **The locks a program nests are read off its text.** -/
theorem rel_of_nests [DecidableEq L] {R : L → L → Prop} {p : Prog L σ α} {l l' : L}
    (hp : p.NestsOnly R []) (h : p.Nests l l') : R l l' := by
  obtain ⟨held, q, hleft, hmem, hwill⟩ := h
  obtain ⟨effect, next, rfl⟩ := eq_acquire_of_willTake hwill
  exact (nestsOnly_of_left hp hleft).1 l hmem

/-- The program takes no lock any more. -/
def TakesNone : Prog L σ α → Prop
  | done _ => True
  | acquire _ _ _ => False
  | release _ next => next.TakesNone

theorem not_willTake_of_takesNone {p : Prog L σ α} (hp : p.TakesNone) (l : L) :
    ¬ p.WillTake l := fun h => by
  obtain ⟨effect, next, rfl⟩ := eq_acquire_of_willTake h
  exact hp

/-- The program takes one lock, a second one under it, and no more. -/
def TakesTwo (p : Prog L σ α) (l l' : L) : Prop :=
  ∃ effect effect' next, p = acquire l effect (fun _ => acquire l' effect' next)
    ∧ ∀ s, (next s).TakesNone

/-- What is left of such a program is all of it, what follows its first step,
or takes no lock. -/
theorem left_of_takesTwo [DecidableEq L] {p q : Prog L σ α} {l l' : L} (hp : p.TakesTwo l l')
    {held : List L} (h : Left p held q) :
    q = p ∨ (∃ effect' next, q = acquire l' effect' next ∧ ∀ s, (next s).TakesNone)
      ∨ q.TakesNone := by
  obtain ⟨effect, effect', next, rfl, hnext⟩ := hp
  induction h with
  | start => exact Or.inl rfl
  | acquire s _ ih =>
    rcases ih with hq | ⟨_, _, hq, hnone⟩ | hnone
    · obtain ⟨_, _, rfl⟩ := acquire.inj hq
      exact Or.inr (Or.inl ⟨effect', next, rfl, hnext⟩)
    · obtain ⟨_, _, rfl⟩ := acquire.inj hq
      exact Or.inr (Or.inr (hnone s))
    · exact absurd hnone id
  | release _ ih =>
    rcases ih with hq | ⟨_, _, hq, _⟩ | hnone
    · cases hq
    · cases hq
    · exact Or.inr (Or.inr hnone)

end Prog

/-- **A pool of calls**: the data they share, what is left of each, and which
call has a lock. -/
structure Pool (ι L σ α : Type*) where
  store : σ
  prog : ι → Prog L σ α
  holder : L → Option ι

namespace Pool

variable {ι L σ α : Type*}

/-- Nothing has happened yet. -/
def start (store : σ) (calls : ι → Prog L σ α) : Pool ι L σ α := ⟨store, calls, fun _ => none⟩

/-- One call waits for another: its next step is to take a lock the other
has. -/
def Waits (s : Pool ι L σ α) (i j : ι) : Prop :=
  ∃ l, (s.prog i).WillTake l ∧ s.holder l = some j

/-- **Two calls wait for each other.** -/
def MutualWait (s : Pool ι L σ α) : Prop :=
  ∃ i j, i ≠ j ∧ s.Waits i j ∧ s.Waits j i

variable [DecidableEq L]

/-- The pool is part of the way through its calls: what each has left is left
of its program, with the locks it has. -/
def Underway (calls : ι → Prog L σ α) (s : Pool ι L σ α) : Prop :=
  ∀ i, ∃ held, Prog.Left (calls i) held (s.prog i) ∧ held.Nodup
    ∧ ∀ l, s.holder l = some i ↔ l ∈ held

theorem underway_start (store : σ) (calls : ι → Prog L σ α) :
    (start store calls).Underway calls :=
  fun i => ⟨[], Prog.Left.start, List.nodup_nil, fun l => by simp [start]⟩

/-- A call that has a lock and takes another nests the two. -/
theorem nests_of_underway {calls : ι → Prog L σ α} {s : Pool ι L σ α} (hs : s.Underway calls)
    {i : ι} {l l' : L} (hhas : s.holder l = some i) (hwill : (s.prog i).WillTake l') :
    (calls i).Nests l l' := by
  obtain ⟨held, hleft, _, hheld⟩ := hs i
  exact ⟨held, s.prog i, hleft, (hheld l).mp hhas, hwill⟩

/-- **Programs that nest their locks upwards never wait in a circle.** -/
theorem no_circle {β : Type*} [Preorder β] {calls : ι → Prog L σ α} {s : Pool ι L σ α}
    (hs : s.Underway calls) (rank : L → β)
    (hrank : ∀ i l l', (calls i).Nests l l' → rank l < rank l') (i : ι) :
    ¬ Relation.TransGen s.Waits i i := by
  -- along a chain of waiting calls, the lock waited for goes up
  have hchain : ∀ j, Relation.TransGen s.Waits i j →
      ∃ l l', (s.prog i).WillTake l ∧ s.holder l' = some j ∧ rank l ≤ rank l' := by
    intro j hj
    induction hj with
    | single h =>
      obtain ⟨l, hwill, hhas⟩ := h
      exact ⟨l, l, hwill, hhas, le_rfl⟩
    | tail _ h ih =>
      obtain ⟨l, l', hwill, hhas, hle⟩ := ih
      obtain ⟨l'', hwill', hhas'⟩ := h
      have hlt := hrank _ _ _ (nests_of_underway hs hhas hwill')
      exact ⟨l, l'', hwill, hhas', hle.trans hlt.le⟩
  intro h
  obtain ⟨l, l', hwill, hhas, hle⟩ := hchain i h
  exact (hrank _ _ _ (nests_of_underway hs hhas hwill)).not_ge hle

variable [DecidableEq ι]

/-- One step of one call. A lock is taken when it is free, and given back by
the call that has it. -/
def step (s : Pool ι L σ α) (i : ι) : Option (Pool ι L σ α) :=
  match s.prog i with
  | .done _ => none
  | .acquire l effect next =>
    match s.holder l with
    | some _ => none
    | none => some
        { store := effect s.store
          prog := Function.update s.prog i (next s.store)
          holder := Function.update s.holder l (some i) }
  | .release l next =>
    if s.holder l = some i then some
        { store := s.store
          prog := Function.update s.prog i next
          holder := Function.update s.holder l none }
    else none

/-- **What a step can be**: it takes a free lock, or gives one back. -/
theorem step_cases {s s' : Pool ι L σ α} {i : ι} (h : s.step i = some s') :
    (∃ l effect next, s.prog i = .acquire l effect next ∧ s.holder l = none
      ∧ s' = ⟨effect s.store, Function.update s.prog i (next s.store),
          Function.update s.holder l (some i)⟩)
      ∨ ∃ l next, s.prog i = .release l next ∧ s.holder l = some i
        ∧ s' = ⟨s.store, Function.update s.prog i next, Function.update s.holder l none⟩ := by
  unfold step at h
  split at h
  · exact absurd h (by simp)
  · next l effect next hprog =>
    split at h
    · exact absurd h (by simp)
    · next hfree => exact Or.inl ⟨l, effect, next, hprog, hfree, (Option.some.inj h).symm⟩
  · next l next hprog =>
    split at h
    · next hmine => exact Or.inr ⟨l, next, hprog, hmine, (Option.some.inj h).symm⟩
    · exact absurd h (by simp)

/-- A run of a schedule, as far as every step of it can be taken. -/
def run (s : Pool ι L σ α) (schedule : List ι) : Option (Pool ι L σ α) :=
  schedule.foldlM step s

@[simp] theorem run_nil (s : Pool ι L σ α) : s.run [] = some s := rfl

theorem run_append (s : Pool ι L σ α) (first second : List ι) :
    s.run (first ++ second) = (s.run first).bind (fun t => t.run second) :=
  List.foldlM_append

theorem run_concat (s : Pool ι L σ α) (first : List ι) (i : ι) :
    s.run (first ++ [i]) = (s.run first).bind (fun t => t.step i) := by
  rw [run_append]
  congr 1
  funext t
  show (t.step i).bind some = t.step i
  cases t.step i <;> rfl

/-- **An invariant of the step holds wherever a schedule gets.** -/
theorem run_invariant (Inv : Pool ι L σ α → Prop)
    (hstep : ∀ s i s', Inv s → step s i = some s' → Inv s') {s s' : Pool ι L σ α}
    {schedule : List ι} (hs : Inv s) (h : s.run schedule = some s') : Inv s' := by
  induction schedule generalizing s with
  | nil =>
    obtain rfl := Option.some.inj h
    exact hs
  | cons i rest ih =>
    obtain ⟨t, ht, hrest⟩ := Option.bind_eq_some_iff.mp h
    exact ih (hstep s i t hs ht) hrest

theorem underway_step {calls : ι → Prog L σ α} {s s' : Pool ι L σ α} {i : ι}
    (hs : s.Underway calls) (h : s.step i = some s') : s'.Underway calls := by
  intro j
  obtain ⟨held, hleft, hnodup, hheld⟩ := hs j
  obtain ⟨l, effect, next, hprog, hfree, rfl⟩ | ⟨l, next, hprog, hmine, rfl⟩ := step_cases h
  · have hnot : l ∉ held := fun hmem => by
      rw [(hheld l).mpr hmem] at hfree
      exact Option.some_ne_none j hfree
    rcases eq_or_ne j i with rfl | hne
    · refine ⟨l :: held, ?_, List.nodup_cons.mpr ⟨hnot, hnodup⟩, fun l' => ?_⟩
      · show Prog.Left (calls j) _ (Function.update s.prog j (next s.store) j)
        rw [Function.update_self]
        exact Prog.Left.acquire s.store (hprog ▸ hleft)
      · show Function.update s.holder l (some j) l' = some j ↔ _
        rcases eq_or_ne l' l with rfl | hl
        · rw [Function.update_self]
          exact iff_of_true rfl List.mem_cons_self
        · rw [Function.update_of_ne hl, hheld, List.mem_cons]
          exact ⟨Or.inr, fun h => h.resolve_left hl⟩
    · refine ⟨held, ?_, hnodup, fun l' => ?_⟩
      · show Prog.Left (calls j) _ (Function.update s.prog i (next s.store) j)
        rw [Function.update_of_ne hne]
        exact hleft
      · show Function.update s.holder l (some i) l' = some j ↔ _
        rcases eq_or_ne l' l with rfl | hl
        · rw [Function.update_self]
          exact iff_of_false (fun h => hne (Option.some.inj h).symm) hnot
        · rw [Function.update_of_ne hl, hheld]
  · rcases eq_or_ne j i with rfl | hne
    · refine ⟨held.erase l, ?_, hnodup.erase l, fun l' => ?_⟩
      · show Prog.Left (calls j) _ (Function.update s.prog j next j)
        rw [Function.update_self]
        exact Prog.Left.release (hprog ▸ hleft)
      · show Function.update s.holder l none l' = some j ↔ _
        rcases eq_or_ne l' l with rfl | hl
        · rw [Function.update_self]
          exact iff_of_false (Option.some_ne_none j).symm hnodup.not_mem_erase
        · rw [Function.update_of_ne hl, hheld, List.mem_erase_of_ne hl]
    · refine ⟨held, ?_, hnodup, fun l' => ?_⟩
      · show Prog.Left (calls j) _ (Function.update s.prog i next j)
        rw [Function.update_of_ne hne]
        exact hleft
      · show Function.update s.holder l none l' = some j ↔ _
        rcases eq_or_ne l' l with rfl | hl
        · have hother : s.holder l' ≠ some j := fun h =>
            hne (Option.some.inj (h.symm.trans hmine))
          rw [Function.update_self]
          exact iff_of_false (Option.some_ne_none j).symm (mt (hheld l').mpr hother)
        · rw [Function.update_of_ne hl, hheld]

/-- A call that waits has no step. -/
theorem step_eq_none_of_waits {s : Pool ι L σ α} {i j : ι} (h : s.Waits i j) :
    s.step i = none := by
  obtain ⟨l, hwill, hhas⟩ := h
  obtain ⟨effect, next, hprog⟩ := Prog.eq_acquire_of_willTake hwill
  unfold step
  rw [hprog]
  show (match s.holder l with
    | some _ => none
    | none => some _) = none
  rw [hhas]

/-- A step leaves the other programs. -/
theorem prog_step {s s' : Pool ι L σ α} {i k : ι} (h : s.step k = some s') (hi : k ≠ i) :
    s'.prog i = s.prog i := by
  obtain ⟨l, effect, next, _, _, rfl⟩ | ⟨l, next, _, _, rfl⟩ := step_cases h
  · exact Function.update_of_ne hi.symm _ _
  · exact Function.update_of_ne hi.symm _ _

/-- A step leaves the others their locks. -/
theorem holder_step {s s' : Pool ι L σ α} {j k : ι} (h : s.step k = some s') (hj : k ≠ j)
    (l' : L) : s'.holder l' = some j ↔ s.holder l' = some j := by
  obtain ⟨l, effect, next, _, hfree, rfl⟩ | ⟨l, next, _, hmine, rfl⟩ := step_cases h
  · show Function.update s.holder l (some k) l' = some j ↔ _
    rcases eq_or_ne l' l with rfl | hl
    · rw [Function.update_self, hfree]
      exact iff_of_false (fun h => hj (Option.some.inj h)) (Option.some_ne_none j).symm
    · rw [Function.update_of_ne hl]
  · show Function.update s.holder l none l' = some j ↔ _
    rcases eq_or_ne l' l with rfl | hl
    · rw [Function.update_self, hmine]
      exact iff_of_false (Option.some_ne_none j).symm (fun h => hj (Option.some.inj h))
    · rw [Function.update_of_ne hl]

/-- A step of a third call changes nothing for a call that waits. -/
theorem waits_step {s s' : Pool ι L σ α} {i j k : ι} (h : s.step k = some s') (hi : k ≠ i)
    (hj : k ≠ j) : s'.Waits i j ↔ s.Waits i j := by
  unfold Waits
  rw [prog_step h hi]
  exact exists_congr fun l' => and_congr_right' (holder_step h hj l')

/-- **Calls that wait for each other do so for good.** -/
theorem mutualWait_step {s s' : Pool ι L σ α} {i j k : ι} (h : s.step k = some s')
    (hij : s.Waits i j) (hji : s.Waits j i) : s'.Waits i j ∧ s'.Waits j i := by
  have hki : k ≠ i := fun hk => by
    rw [hk, step_eq_none_of_waits hij] at h
    exact Option.some_ne_none s' h.symm
  have hkj : k ≠ j := fun hk => by
    rw [hk, step_eq_none_of_waits hji] at h
    exact Option.some_ne_none s' h.symm
  exact ⟨(waits_step h hki hkj).mpr hij, (waits_step h hkj hki).mpr hji⟩

/-- A call of two locks that has one and is to take one has just taken its first. -/
theorem begins_of_willTake {calls : ι → Prog L σ α} {s s' : Pool ι L σ α} {i : ι}
    (hs : s.Underway calls) (h : s.step i = some s') {l₁ l₂ l : L}
    (htwo : (calls i).TakesTwo l₁ l₂) (hwill : (s'.prog i).WillTake l) :
    s.prog i = calls i := by
  obtain ⟨held, hleft, _, _⟩ := hs i
  rcases Prog.left_of_takesTwo htwo hleft with hq | ⟨effect', next', hq, hnone⟩ | hnone
  · exact hq
  · obtain ⟨l', effect, next, hprog, _, rfl⟩ | ⟨l', next, hprog, _, _⟩ := step_cases h
    · obtain ⟨_, _, rfl⟩ := Prog.acquire.inj (hq.symm.trans hprog)
      change (Function.update s.prog i (next' s.store) i).WillTake l at hwill
      rw [Function.update_self] at hwill
      exact absurd hwill (Prog.not_willTake_of_takesNone (hnone s.store) l)
    · cases hq.symm.trans hprog
  · obtain ⟨l', effect, next, hprog, _, _⟩ | ⟨l', next, hprog, _, rfl⟩ := step_cases h
    · rw [hprog] at hnone
      exact absurd hnone id
    · rw [hprog] at hnone
      change (Function.update s.prog i next i).WillTake l at hwill
      rw [Function.update_self] at hwill
      exact absurd hwill (Prog.not_willTake_of_takesNone (p := next) hnone l)

end Pool

end Locks
