import Mathlib.Data.List.Basic

/-!
# Runs of a deterministic machine

A machine is a step function `S → I → S`; a run feeds it a list of inputs.
Two rules carry the safety arguments: an invariant of the step is an
invariant of every run (`Run.invariant`), and one that a step keeps only
under a condition on the state before it and on its input holds along the
runs whose steps all meet the condition (`Run.invariant_along`). One carries
the arguments about progress: a goal that stays and a measure that drops
until it is met (`Run.settles`). What a state holds can be traced to the step
that brought it (`Run.origin`), and inputs that a view does not see can be left
out (`Run.unwinding`).
-/

namespace Run

variable {S I : Type*} (step : S → I → S)

/-- The state a run ends in. -/
def after (s : S) (inputs : List I) : S := inputs.foldl step s

@[simp] theorem after_nil (s : S) : after step s [] = s := rfl

@[simp] theorem after_cons (s : S) (i : I) (inputs : List I) :
    after step s (i :: inputs) = after step (step s i) inputs := rfl

@[simp] theorem after_append (s : S) (first second : List I) :
    after step s (first ++ second) = after step (after step s first) second :=
  List.foldl_append

/-- Every step of a run meets a condition on the state before it and on its
input. -/
def Along (ok : S → I → Prop) : S → List I → Prop
  | _, [] => True
  | s, i :: rest => ok s i ∧ Along ok (step s i) rest

/-- A condition that can be decided of each step can be decided of a run. -/
instance decidableAlong (ok : S → I → Prop) [∀ s i, Decidable (ok s i)] :
    (s : S) → (inputs : List I) → Decidable (Along step ok s inputs)
  | _, [] => .isTrue trivial
  | s, i :: rest =>
    have : Decidable (Along step ok (step s i) rest) := decidableAlong ok (step s i) rest
    inferInstanceAs (Decidable (ok s i ∧ Along step ok (step s i) rest))

theorem along_append (ok : S → I → Prop) (s : S) (first second : List I) :
    Along step ok s (first ++ second)
      ↔ Along step ok s first ∧ Along step ok (after step s first) second := by
  induction first generalizing s with
  | nil => simp [Along]
  | cons i rest ih =>
    rw [List.cons_append, Along, Along, ih, and_assoc]
    rfl

/-- A condition that every input meets in every state. -/
theorem along_of_forall {ok : S → I → Prop} {inputs : List I}
    (h : ∀ i ∈ inputs, ∀ s, ok s i) (s : S) : Along step ok s inputs := by
  induction inputs generalizing s with
  | nil => exact trivial
  | cons i rest ih =>
    exact ⟨h i List.mem_cons_self s, ih (fun j hj => h j (List.mem_cons_of_mem i hj)) _⟩

/-- What is true of every input may be added to the condition. -/
theorem along_and {ok : S → I → Prop} {P : I → Prop} {s : S} {inputs : List I}
    (hP : ∀ i ∈ inputs, P i) (h : Along step ok s inputs) :
    Along step (fun s i => P i ∧ ok s i) s inputs := by
  induction inputs generalizing s with
  | nil => exact trivial
  | cons i rest ih =>
    exact ⟨⟨hP i List.mem_cons_self, h.1⟩, ih (fun j hj => hP j (List.mem_cons_of_mem i hj)) h.2⟩

variable {step}

/-- **An invariant of the step is an invariant of every run.** -/
theorem invariant {Inv : S → Prop} (hstep : ∀ s i, Inv s → Inv (step s i)) {s : S}
    (h : Inv s) (inputs : List I) : Inv (after step s inputs) := by
  induction inputs generalizing s with
  | nil => exact h
  | cons i rest ih => exact ih (hstep s i h)

/-- **An invariant the step keeps under a condition holds along every run
that meets it.** -/
theorem invariant_along {Inv : S → Prop} {ok : S → I → Prop}
    (hstep : ∀ s i, Inv s → ok s i → Inv (step s i)) {s : S} {inputs : List I}
    (h : Inv s) (hrun : Along step ok s inputs) : Inv (after step s inputs) := by
  induction inputs generalizing s with
  | nil => exact h
  | cons i rest ih => exact ih (hstep s i h hrun.1) hrun.2

/-- Along a run that meets one condition another is met, if an invariant that
the step keeps under the first gives it. -/
theorem along_mono {Inv : S → Prop} {ok ok' : S → I → Prop}
    (hstep : ∀ s i, Inv s → ok s i → Inv (step s i))
    (himp : ∀ s i, Inv s → ok s i → ok' s i) {s : S} {inputs : List I} (h : Inv s)
    (hrun : Along step ok s inputs) : Along step ok' s inputs := by
  induction inputs generalizing s with
  | nil => exact trivial
  | cons i rest ih => exact ⟨himp s i h hrun.1, ih (hstep s i h hrun.1) hrun.2⟩

/-- Where the step keeps an invariant exactly under a condition, the invariant
holds after exactly the runs that meet it. -/
theorem iff_along {Inv : S → Prop} {ok : S → I → Prop}
    (hstep : ∀ s i, Inv (step s i) ↔ Inv s ∧ ok s i) (s : S) (inputs : List I) :
    Inv (after step s inputs) ↔ Inv s ∧ Along step ok s inputs := by
  induction inputs generalizing s with
  | nil => exact (and_iff_left trivial).symm
  | cons i rest ih =>
    rw [after_cons, ih, hstep, and_assoc]
    rfl

/-- **Where the step keeps an invariant exactly under a condition, the
invariant holds in every state of a run** exactly where it holds at the start
and each step meets the condition; here along the runs of steps of one
kind, -/
theorem always_iff_of_kind {Inv : S → Prop} {kind ok : S → I → Prop}
    (hstep : ∀ s i, kind s i → Inv s → (Inv (step s i) ↔ ok s i)) {s : S} {inputs : List I}
    (hkind : Along step kind s inputs) :
    (∀ n, Inv (after step s (inputs.take n))) ↔ Inv s ∧ Along step ok s inputs := by
  induction inputs generalizing s with
  | nil =>
    refine ⟨fun h => ⟨h 0, trivial⟩, fun h n => ?_⟩
    rw [List.take_nil]
    exact h.1
  | cons i rest ih =>
    constructor
    · intro h
      obtain ⟨hnext, hrest⟩ := (ih hkind.2).mp fun n => h (n + 1)
      exact ⟨h 0, (hstep s i hkind.1 (h 0)).mp hnext, hrest⟩
    · rintro ⟨h, hok, hrest⟩ n
      cases n with
      | zero => exact h
      | succ n => exact (ih hkind.2).mpr ⟨(hstep s i hkind.1 h).mpr hok, hrest⟩ n

/-- and here along every run. -/
theorem always_iff {Inv : S → Prop} {ok : S → I → Prop}
    (hstep : ∀ s i, Inv s → (Inv (step s i) ↔ ok s i)) (s : S) (inputs : List I) :
    (∀ n, Inv (after step s (inputs.take n))) ↔ Inv s ∧ Along step ok s inputs :=
  have hkind : Along step (fun _ _ => True) s inputs := along_of_forall step (fun _ _ _ => trivial) s
  always_iff_of_kind (fun s i _ h => hstep s i h) hkind

/-- **What stays once it holds, and is nearer after every step until it does,
holds after as many steps as it was far away.** -/
theorem settles {Inv Goal : S → Prop} {kind : I → Prop} (far : S → ℕ)
    (hinv : ∀ s i, kind i → Inv s → Inv (step s i))
    (hstay : ∀ s i, kind i → Inv s → Goal s → Goal (step s i))
    (hnearer : ∀ s i, kind i → Inv s → Goal (step s i) ∨ far (step s i) < far s) {s : S}
    {inputs : List I} (hs : Inv s) (hkind : ∀ i ∈ inputs, kind i)
    (hfar : Goal s ∨ far s < inputs.length) : Goal (after step s inputs) := by
  induction inputs generalizing s with
  | nil => exact hfar.resolve_right (Nat.not_lt_zero _)
  | cons i rest ih =>
    have hi := hkind i List.mem_cons_self
    refine ih (hinv s i hi hs) (fun j hj => hkind j (List.mem_cons_of_mem i hj)) ?_
    rcases hfar with hgoal | hlt
    · exact Or.inl (hstay s i hi hs hgoal)
    · rcases hnearer s i hi hs with hgoal | hdrop
      · exact Or.inl hgoal
      · rw [List.length_cons] at hlt
        exact Or.inr (by omega)

/-- **What can be seen of an invariant tells where it is kept**: where the
step keeps it under a condition, and shows where the condition is not met, all
states of a run look as they should exactly if each step meets it. -/
theorem always_iff_of_seen {Inv P : S → Prop} {kind ok : S → I → Prop}
    (hseen : ∀ s, Inv s → P s) (hstep : ∀ s i, kind s i → Inv s → ok s i → Inv (step s i))
    (hshown : ∀ s i, kind s i → Inv s → P (step s i) → ok s i) {s : S} {inputs : List I}
    (h : Inv s) (hkind : Along step kind s inputs) :
    (∀ n, P (after step s (inputs.take n))) ↔ Along step ok s inputs := by
  induction inputs generalizing s with
  | nil =>
    refine ⟨fun _ => trivial, fun _ n => ?_⟩
    rw [List.take_nil]
    exact hseen s h
  | cons i rest ih =>
    constructor
    · intro hall
      have hok : ok s i := hshown s i hkind.1 h (hall 1)
      exact ⟨hok, (ih (hstep s i hkind.1 h hok) hkind.2).mp fun n => hall (n + 1)⟩
    · rintro ⟨hok, hrest⟩ n
      cases n with
      | zero => exact hseen s h
      | succ n => exact (ih (hstep s i hkind.1 h hok) hkind.2).mpr hrest n

/-- What holds in one state of a run holds at its end. -/
theorem invariant_from {Inv : S → Prop} {ok : S → I → Prop}
    (hstep : ∀ s i, Inv s → ok s i → Inv (step s i)) {s : S} {inputs : List I}
    (hrun : Along step ok s inputs) (n : ℕ) (h : Inv (after step s (inputs.take n))) :
    Inv (after step s inputs) := by
  rw [← List.take_append_drop n inputs, along_append] at hrun
  have hend := invariant_along hstep h hrun.2
  rwa [← after_append, List.take_append_drop] at hend

/-- **What the end of a run shows of its steps**: a state that can only come
of such a state, by a step of one kind, comes of a run of such steps. -/
theorem along_of_after {P : S → Prop} {ok ok' : S → I → Prop}
    (hstep : ∀ s i, ok s i → P (step s i) → P s ∧ ok' s i) {s : S} {inputs : List I}
    (hrun : Along step ok s inputs) (h : P (after step s inputs)) :
    P s ∧ Along step ok' s inputs := by
  induction inputs generalizing s with
  | nil => exact ⟨h, trivial⟩
  | cons i rest ih =>
    obtain ⟨hnext, hrest⟩ := ih hrun.2 h
    obtain ⟨hs, hok⟩ := hstep s i hrun.1 hnext
    exact ⟨hs, hok, hrest⟩

/-- **Unwinding**: inputs a view does not see, and does not come to see, can be
left out of a run. -/
theorem unwinding {V : Type*} {view : S → V} (keep : I → Bool)
    (hunseen : ∀ s i, keep i = false → view (step s i) = view s)
    (hcongr : ∀ s t i, view s = view t → view (step s i) = view (step t i)) {s t : S}
    (h : view s = view t) (inputs : List I) :
    view (after step s inputs) = view (after step t (inputs.filter keep)) := by
  induction inputs generalizing s t with
  | nil => exact h
  | cons i rest ih =>
    cases hkeep : keep i with
    | true =>
      rw [List.filter_cons_of_pos hkeep]
      exact ih (hcongr s t i h)
    | false =>
      rw [List.filter_cons_of_neg (by rw [hkeep]; decide)]
      exact ih ((hunseen s i hkeep).trans h)

/-- **What a state holds was there at the start, or a step of the run brought
it**, where every step leaves what there was or says what it brings. -/
theorem origin {X : Type*} {Inv : S → Prop} {ok : S → I → Prop} {Holds : S → X → Prop}
    {Brings : S → I → X → Prop} (hinv : ∀ s i, Inv s → ok s i → Inv (step s i))
    (hstep : ∀ s i x, Inv s → ok s i → Holds (step s i) x → Holds s x ∨ Brings s i x) {s : S}
    {inputs : List I} (hs : Inv s) (hrun : Along step ok s inputs) {x : X}
    (h : Holds (after step s inputs) x) :
    Holds s x ∨ ∃ before i rest, inputs = before ++ i :: rest
      ∧ Brings (after step s before) i x := by
  induction inputs generalizing s with
  | nil => exact Or.inl h
  | cons i rest ih =>
    rcases ih (hinv s i hs hrun.1) hrun.2 h with hnext | ⟨before, j, later, rfl, hbrings⟩
    · rcases hstep s i x hs hrun.1 hnext with hheld | hbrings
      · exact Or.inl hheld
      · exact Or.inr ⟨[], i, rest, rfl, hbrings⟩
    · exact Or.inr ⟨i :: before, j, later, rfl, hbrings⟩

/-- **What is seen of the state turns into something with the last step of a
run**, which starts with something else to be seen. -/
structure Ends {V : Type*} (step : S → I → S) (view : S → V) (first last : V) (s : S)
    (before : List I) (i : I) : Prop where
  starts : view s = first
  still : view (after step s before) ≠ last
  ends : view (step (after step s before) i) = last

/-- What is so at the start, and what a step leaves so, is so before the last
step. -/
theorem Ends.before {V : Type*} {view : S → V} {first last : V} {s : S} {before : List I} {i : I}
    (h : Ends step view first last s before i) {P : V → Prop} (hfirst : P first)
    (hstep : ∀ s i, P (view s) → P (view (step s i))) : P (view (after step s before)) := by
  have hstart : P (view s) := h.starts ▸ hfirst
  exact @invariant S I step (fun s => P (view s)) hstep s hstart before

end Run
