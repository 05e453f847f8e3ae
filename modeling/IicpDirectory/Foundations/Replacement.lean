import Mathlib.Logic.Function.Basic
import IicpDirectory.Foundations.Run

/-!
# Replacing a file by renaming

A writer that must not be seen halfway writes its text to a file of its own
and then renames that file to the one that is read. Here any number of writers
do so for one name, a system call at a time and in any order; any call may
fail, after which the writer removes its own file, if that succeeds, and
gives up; and a writer may be gone at any moment, with whatever it left.

A file is under the name that is read either since the start or because a
writer renamed it there, and what a writer renames it has written to the end
(`Sound`). So whoever reads finds a text that some writer set out to write,
whole (`carries_step`), and last touched by a call of some writer
(`touched_step`).

The names of the writers' own files are a parameter. They have to be
different, and none may be the name that is read.
-/

namespace Replacement

variable {ω π χ : Type*}

/-- A file: its text, and the time of the last call that wrote to it. -/
structure File (χ : Type*) where
  text : List χ
  modified : ℕ

/-- **Where a writer stands** with the text it writes. -/
inductive Stage (χ : Type*)
  | idle
  | preparing (text : List χ)
  | opening (text : List χ)
  | writing (text left : List χ)
  | syncing (text : List χ)
  | renaming (text : List χ)
  | cleaning

/-- The text a writer has set out to write. -/
def Stage.text : Stage χ → Option (List χ)
  | .idle => none
  | .preparing text => some text
  | .opening text => some text
  | .writing text _ => some text
  | .syncing text => some text
  | .renaming text => some text
  | .cleaning => none

/-- The files under their names, and the writers. -/
structure Disk (ω π χ : Type*) where
  files : π → Option (File χ)
  stages : ω → Stage χ

/-- What can happen: a writer sets out, its next system call returns – it
succeeds or not, a write with so many symbols written – or it is gone. -/
inductive Call (ω χ : Type*)
  | begin (w : ω) (text : List χ)
  | returns (w : ω) (ok : Bool) (written : ℕ)
  | gone (w : ω)

namespace Disk

section Files

variable [DecidableEq π]

/-- A file is written to. -/
def store (d : Disk ω π χ) (name : π) (f : Option (File χ)) : Disk ω π χ :=
  { d with files := Function.update d.files name f }

@[simp] theorem stages_store (d : Disk ω π χ) (name : π) (f : Option (File χ)) :
    (d.store name f).stages = d.stages := rfl

@[simp] theorem files_store_self (d : Disk ω π χ) (name : π) (f : Option (File χ)) :
    (d.store name f).files name = f := Function.update_self ..

theorem files_store_of_ne (d : Disk ω π χ) {name other : π} (h : other ≠ name)
    (f : Option (File χ)) : (d.store name f).files other = d.files other :=
  Function.update_of_ne h ..

/-- What is stored under a name is what there was, or what is stored. -/
theorem files_store_eq_some {d : Disk ω π χ} {name other : π} {f : Option (File χ)} {g : File χ}
    (h : (d.store name f).files other = some g) : d.files other = some g ∨ f = some g := by
  by_cases heq : other = name
  · subst heq
    rw [files_store_self] at h
    exact Or.inr h
  · rw [files_store_of_ne d heq] at h
    exact Or.inl h

end Files

section Stages

variable [DecidableEq ω]

/-- A writer moves on. -/
def goto (d : Disk ω π χ) (w : ω) (stage : Stage χ) : Disk ω π χ :=
  { d with stages := Function.update d.stages w stage }

@[simp] theorem files_goto (d : Disk ω π χ) (w : ω) (stage : Stage χ) :
    (d.goto w stage).files = d.files := rfl

@[simp] theorem stages_goto_self (d : Disk ω π χ) (w : ω) (stage : Stage χ) :
    (d.goto w stage).stages w = stage := Function.update_self ..

theorem stages_goto_of_ne (d : Disk ω π χ) {w v : ω} (h : v ≠ w) (stage : Stage χ) :
    (d.goto w stage).stages v = d.stages v := Function.update_of_ne h ..

end Stages

end Disk

section Writers

variable [DecidableEq ω] [DecidableEq π] (path : π) (own : ω → π)

/-- **The next call of a writer.** A call that fails sends it to remove its own
file, but for the first, before there is one. -/
def advance (now : ℕ) (d : Disk ω π χ) (w : ω) (ok : Bool) (written : ℕ) : Disk ω π χ :=
  match d.stages w, ok with
  | .idle, _ => d
  | .preparing text, true => d.goto w (.opening text)
  | .preparing _, false => d.goto w .idle
  | .opening text, true => (d.store (own w) (some ⟨[], now⟩)).goto w (.writing text text)
  | .writing text left, true =>
    (d.store (own w) ((d.files (own w)).map fun f => ⟨f.text ++ left.take written, now⟩)).goto w
      (if left.drop written = [] then .syncing text else .writing text (left.drop written))
  | .syncing text, true => d.goto w (.renaming text)
  | .renaming _, true =>
    match d.files (own w) with
    | some f => ((d.store path (some f)).store (own w) none).goto w .idle
    | none => d.goto w .cleaning
  | .cleaning, true => (d.store (own w) none).goto w .idle
  | .cleaning, false => d.goto w .idle
  | _, false => d.goto w .cleaning

/-- **One step.** A writer that is not idle does not set out anew. -/
def step (now : ℕ) (d : Disk ω π χ) : Call ω χ → Disk ω π χ
  | .begin w text =>
    match d.stages w with
    | .idle => d.goto w (.preparing text)
    | _ => d
  | .returns w ok written => advance path own now d w ok written
  | .gone w => d.goto w .idle

/-- Whose step it is. -/
def Call.writer : Call ω χ → ω
  | .begin w _ => w
  | .returns w _ _ => w
  | .gone w => w

/-- A writer's own file is as far as the writer is. -/
def Stage.Matches (f : Option (File χ)) : Stage χ → Prop
  | .writing text left => ∃ file, f = some file ∧ file.text ++ left = text
  | .syncing text => ∃ file, f = some file ∧ file.text = text
  | .renaming text => ∃ file, f = some file ∧ file.text = text
  | _ => True

/-- **The invariant**: every writer's own file is as far as the writer is. -/
def Sound (d : Disk ω π χ) : Prop := ∀ w, (d.stages w).Matches (d.files (own w))

variable {path own}

/-! ## What a step leaves alone -/

/-- Another writer stands where it stood. -/
theorem stages_step_of_ne (now : ℕ) (d : Disk ω π χ) (c : Call ω χ) {v : ω} (h : v ≠ c.writer) :
    (step path own now d c).stages v = d.stages v := by
  cases c with
  | begin w text =>
    unfold step
    dsimp only
    split
    · exact Disk.stages_goto_of_ne d h _
    · rfl
  | returns w ok written =>
    show (advance path own now d w ok written).stages v = d.stages v
    unfold advance
    split
    case h_7 =>
      split
      · exact Disk.stages_goto_of_ne _ h _
      · exact Disk.stages_goto_of_ne _ h _
    all_goals first
      | rfl
      | exact Disk.stages_goto_of_ne _ h _
  | gone w => exact Disk.stages_goto_of_ne d h _

/-- A file that is neither the writer's own nor the one that is read stays. -/
theorem files_step_of_ne (now : ℕ) (d : Disk ω π χ) (c : Call ω χ) {name : π}
    (hown : name ≠ own c.writer) (hpath : name ≠ path) :
    (step path own now d c).files name = d.files name := by
  cases c with
  | begin w text =>
    unfold step
    dsimp only
    split <;> rfl
  | returns w ok written =>
    have hname : name ≠ own w := hown
    show (advance path own now d w ok written).files name = d.files name
    unfold advance
    split
    case h_7 =>
      split
      · rw [Disk.files_goto, Disk.files_store_of_ne _ hname, Disk.files_store_of_ne _ hpath]
      · rfl
    all_goals first
      | rfl
      | exact Disk.files_store_of_ne _ hname _
  | gone w => rfl

/-! ## The invariant -/

/-- The writer's own file is as far as the writer gets. -/
theorem matches_advance (now : ℕ) {d : Disk ω π χ} {w : ω} (ok : Bool) (written : ℕ)
    (h : (d.stages w).Matches (d.files (own w))) :
    ((advance path own now d w ok written).stages w).Matches
      ((advance path own now d w ok written).files (own w)) := by
  unfold advance
  split
  case h_4 text hstage =>
    rw [Disk.stages_goto_self, Disk.files_goto, Disk.files_store_self]
    exact ⟨⟨[], now⟩, rfl, rfl⟩
  case h_5 text left hstage =>
    rw [hstage] at h
    obtain ⟨file, hfile, htext⟩ := h
    rw [hfile, Disk.stages_goto_self, Disk.files_goto, Disk.files_store_self, Option.map_some]
    split
    · -- the last of the text is written
      rename_i hdone
      refine ⟨_, rfl, ?_⟩
      show file.text ++ left.take written = text
      rw [← htext, ← List.take_append_drop written left, hdone, List.append_nil, List.take_take,
        Nat.min_self]
    · refine ⟨_, rfl, ?_⟩
      show file.text ++ left.take written ++ left.drop written = text
      rw [List.append_assoc, List.take_append_drop, htext]
  case h_6 text hstage =>
    rw [hstage] at h
    rw [Disk.stages_goto_self]
    exact h
  case h_1 hstage => exact h
  case h_7 =>
    split
    · rw [Disk.stages_goto_self]
      trivial
    · rw [Disk.stages_goto_self]
      trivial
  all_goals
    rw [Disk.stages_goto_self]
    trivial

/-- **Every step keeps the invariant**, if the writers' own files are different
and none is the one that is read. -/
theorem sound_step (hinj : Function.Injective own) (hpath : ∀ w, own w ≠ path) (now : ℕ)
    {d : Disk ω π χ} (h : Sound own d) (c : Call ω χ) : Sound own (step path own now d c) := by
  intro v
  by_cases hv : v = c.writer
  · cases c with
    | begin w text =>
      obtain rfl : v = w := hv
      unfold step
      dsimp only
      split
      · rw [Disk.stages_goto_self]
        trivial
      · exact h v
    | returns w ok written =>
      obtain rfl : v = w := hv
      exact matches_advance now ok written (h v)
    | gone w =>
      obtain rfl : v = w := hv
      show ((d.goto v .idle).stages v).Matches _
      rw [Disk.stages_goto_self]
      trivial
  · rw [stages_step_of_ne now d c hv, files_step_of_ne now d c (hinj.ne hv) (hpath v)]
    exact h v

/-! ## Where a text comes from -/

/-- **A text is under way**: it is what is read, or what a writer has set out to
write. -/
def Carries (path : π) (d : Disk ω π χ) (text : List χ) : Prop :=
  (∃ f, d.files path = some f ∧ f.text = text) ∨ ∃ w, (d.stages w).text = some text

omit [DecidableEq π] in
/-- A writer that moves on with the text it has brings none. -/
theorem carries_of_goto {d d' : Disk ω π χ} {w : ω} {stage : Stage χ} {text : List χ}
    (hstages : d'.stages = d.stages) (hfiles : d'.files path = d.files path)
    (hstage : ∀ t, stage.text = some t → (d.stages w).text = some t)
    (h : Carries path (d'.goto w stage) text) : Carries path d text := by
  rcases h with ⟨f, hf, htext⟩ | ⟨v, hv⟩
  · rw [Disk.files_goto, hfiles] at hf
    exact Or.inl ⟨f, hf, htext⟩
  · by_cases heq : v = w
    · subst heq
      rw [Disk.stages_goto_self] at hv
      exact Or.inr ⟨v, hstage _ hv⟩
    · rw [Disk.stages_goto_of_ne _ heq, hstages] at hv
      exact Or.inr ⟨v, hv⟩

/-- A call brings no text: what it renames is what the writer has written. -/
theorem carries_advance (hpath : ∀ w, own w ≠ path) (now : ℕ) {d : Disk ω π χ} {w : ω}
    (hsound : (d.stages w).Matches (d.files (own w))) (ok : Bool) (written : ℕ) {text : List χ}
    (h : Carries path (advance path own now d w ok written) text) : Carries path d text := by
  have hne : path ≠ own w := (hpath w).symm
  unfold advance at h
  split at h
  case h_1 => exact h
  case h_4 t hstage =>
    refine carries_of_goto (by rfl) (Disk.files_store_of_ne d hne _) (fun t' ht' => ?_) h
    rw [hstage]
    exact ht'
  case h_5 t left hstage =>
    refine carries_of_goto (by rfl) (Disk.files_store_of_ne d hne _) (fun t' ht' => ?_) h
    rw [hstage]
    split at ht'
    · exact ht'
    · exact ht'
  case h_7 t hstage =>
    rw [hstage] at hsound
    obtain ⟨file, hfile, htext⟩ := hsound
    rw [hfile] at h
    rcases h with ⟨f, hf, hft⟩ | ⟨v, hv⟩
    · rw [Disk.files_goto, Disk.files_store_of_ne _ hne, Disk.files_store_self] at hf
      obtain rfl := Option.some.inj hf
      refine Or.inr ⟨w, ?_⟩
      rw [hstage, ← hft, htext]
      rfl
    · by_cases heq : v = w
      · subst heq
        rw [Disk.stages_goto_self] at hv
        exact absurd hv (by simp [Stage.text])
      · rw [Disk.stages_goto_of_ne _ heq] at hv
        exact Or.inr ⟨v, hv⟩
  case h_8 => exact carries_of_goto (by rfl) (Disk.files_store_of_ne d hne _) (fun _ ht => by cases ht) h
  case h_2 t hstage =>
    refine carries_of_goto rfl rfl (fun t' ht' => ?_) h
    rw [hstage]
    exact ht'
  case h_6 t hstage =>
    refine carries_of_goto rfl rfl (fun t' ht' => ?_) h
    rw [hstage]
    exact ht'
  all_goals exact carries_of_goto rfl rfl (fun _ ht => by cases ht) h

/-- **Every text under way was so before, or a writer sets out to write it.** -/
theorem carries_step (hpath : ∀ w, own w ≠ path) (now : ℕ) {d : Disk ω π χ} (hsound : Sound own d)
    (c : Call ω χ) {text : List χ} (h : Carries path (step path own now d c) text) :
    Carries path d text ∨ ∃ w, c = .begin w text ∧ (d.stages w).text = none := by
  cases c with
  | begin w t =>
    unfold step at h
    dsimp only at h
    split at h
    · rename_i hidle
      by_cases ht : t = text
      · subst ht
        exact Or.inr ⟨w, rfl, by rw [hidle]; rfl⟩
      · refine Or.inl ?_
        rcases h with hf | ⟨v, hv⟩
        · exact Or.inl hf
        · by_cases heq : v = w
          · subst heq
            rw [Disk.stages_goto_self] at hv
            exact absurd (Option.some.inj hv) ht
          · rw [Disk.stages_goto_of_ne _ heq] at hv
            exact Or.inr ⟨v, hv⟩
    · exact Or.inl h
  | returns w ok written => exact Or.inl (carries_advance hpath now (hsound w) ok written h)
  | gone w => exact Or.inl (carries_of_goto rfl rfl (fun _ ht => by cases ht) h)

/-! ## When a file was last written to -/

/-- **A time some file was last written to.** -/
def Touched (d : Disk ω π χ) (time : ℕ) : Prop :=
  ∃ name f, d.files name = some f ∧ f.modified = time

/-- What is stored under a name is a file there was, or a new one. -/
theorem touched_of_store {d : Disk ω π χ} {name : π} {f : Option (File χ)} {w : ω}
    {stage : Stage χ} {time : ℕ} (h : Touched ((d.store name f).goto w stage) time) :
    Touched d time ∨ ∃ g, f = some g ∧ g.modified = time := by
  obtain ⟨other, g, hg, htime⟩ := h
  rw [Disk.files_goto] at hg
  rcases Disk.files_store_eq_some hg with hold | hnew
  · exact Or.inl ⟨other, g, hold, htime⟩
  · exact Or.inr ⟨g, hnew, htime⟩

/-- **Every file was last written to before, or a call of a writer with a text
returns now.** -/
theorem touched_step (now : ℕ) {d : Disk ω π χ} (c : Call ω χ) {time : ℕ}
    (h : Touched (step path own now d c) time) :
    Touched d time ∨ time = now ∧ ∃ w written, c = .returns w true written
      ∧ ((d.stages w).text).isSome := by
  cases c with
  | begin w text =>
    unfold step at h
    dsimp only at h
    split at h <;> exact Or.inl h
  | gone w => exact Or.inl h
  | returns w ok written =>
    have hcall : Touched (advance path own now d w ok written) time := h
    unfold advance at hcall
    split at hcall
    case h_4 text hstage =>
      rcases touched_of_store hcall with hold | ⟨g, hg, htime⟩
      · exact Or.inl hold
      · obtain rfl := Option.some.inj hg
        exact Or.inr ⟨htime.symm, w, written, rfl, by rw [hstage]; rfl⟩
    case h_5 text left hstage =>
      rcases touched_of_store hcall with hold | ⟨g, hg, htime⟩
      · exact Or.inl hold
      · obtain ⟨f, _, rfl⟩ := Option.map_eq_some_iff.mp hg
        exact Or.inr ⟨htime.symm, w, written, rfl, by rw [hstage]; rfl⟩
    case h_7 text hstage =>
      split at hcall
      · rename_i f hf
        rcases touched_of_store hcall with hold | ⟨g, hg, _⟩
        · -- the file is the writer's own, renamed
          obtain ⟨other, g, hg, htime⟩ := hold
          rcases Disk.files_store_eq_some hg with hkept | hnew
          · exact Or.inl ⟨other, g, hkept, htime⟩
          · obtain rfl := Option.some.inj hnew
            exact Or.inl ⟨own w, f, hf, htime⟩
        · cases hg
      · exact Or.inl hcall
    case h_8 =>
      rcases touched_of_store hcall with hold | ⟨g, hg, _⟩
      · exact Or.inl hold
      · cases hg
    all_goals exact Or.inl hcall

end Writers

end Replacement
