import Mathlib.Algebra.Order.Group.Int
import Mathlib.Data.List.Basic
import Mathlib.Tactic.Linarith

/-!
# Gates that stay shut for a while

A gate remembers when it was last passed, and is shut until a span of time
has gone by. There is one for each key, and passes go through the gate of
their key and leave their time on it.

However the passes of different keys are mixed, two through one gate are a
span apart (`Kept.spaced`), so that no interval as long as the span has two
of them (`Kept.length_window_le_one`).
-/

namespace Gates

variable {α K : Type*}

/-- A gate that was passed within the span before now is shut. -/
def Shut (span now : ℤ) (last : Option ℤ) : Prop := ∃ t ∈ last, now - span < t

/-- A gate that is open stays open until it is passed. -/
theorem not_shut_mono {span now now' : ℤ} {last : Option ℤ} (h : ¬ Shut span now last)
    (hnow : now ≤ now') : ¬ Shut span now' last := by
  rintro ⟨t, ht, hlt⟩
  exact h ⟨t, ht, by linarith⟩

/-- **The passes through the gates**, the latest first: two with one key are a
span apart, and the gate remembers a pass or a later one. -/
structure Kept (span : ℤ) (key : α → K) (time : α → ℤ) (last : K → Option ℤ) (log : List α) :
    Prop where
  spaced : log.Pairwise fun later earlier => key later = key earlier →
    time earlier + span ≤ time later
  remembered : ∀ e ∈ log, ∃ t ∈ last (key e), time e ≤ t

variable {span : ℤ} {key : α → K} {time : α → ℤ} {last last' : K → Option ℤ} {log : List α}

theorem Kept.nil : Kept span key time last [] :=
  ⟨List.Pairwise.nil, fun _ h => absurd h List.not_mem_nil⟩

/-- The passes are about what the gates remember and nothing else. -/
theorem Kept.congr (h : Kept span key time last log) (hlast : ∀ k, last' k = last k) :
    Kept span key time last' log where
  spaced := h.spaced
  remembered e he := hlast (key e) ▸ h.remembered e he

/-- **One more pass**, through a gate that is open, leaves its time there. -/
theorem Kept.pass (h : Kept span key time last log) (hspan : 0 ≤ span) {e : α}
    (hopen : ¬ Shut span (time e) (last (key e))) (hself : last' (key e) = some (time e))
    (hother : ∀ k ≠ key e, last' k = last k) : Kept span key time last' (e :: log) := by
  -- the gate remembers a time that is over
  have hover : ∀ e' ∈ log, key e = key e' → time e' + span ≤ time e := by
    intro e' he' hkey
    obtain ⟨t, ht, hle⟩ := h.remembered e' he'
    by_contra hlt
    exact hopen ⟨t, hkey ▸ ht, by linarith⟩
  refine ⟨List.pairwise_cons.mpr ⟨hover, h.spaced⟩, fun e' he' => ?_⟩
  rcases List.mem_cons.mp he' with rfl | hmem
  · exact ⟨time e', hself, le_refl _⟩
  · by_cases hkey : key e' = key e
    · refine ⟨time e, hkey ▸ hself, ?_⟩
      have hspaced := hover e' hmem hkey.symm
      linarith
    · rw [hother _ hkey]
      exact h.remembered e' hmem

/-- **No interval as long as the span has two passes** through one gate. -/
theorem Kept.length_window_le_one [DecidableEq K] (h : Kept span key time last log) (k : K)
    (start : ℤ) :
    (log.filter fun e => key e = k ∧ start ≤ time e ∧ time e < start + span).length ≤ 1 := by
  have hspaced := h.spaced.sublist
    (List.filter_sublist (p := fun e => key e = k ∧ start ≤ time e ∧ time e < start + span))
  have hwindow : ∀ e ∈ log.filter fun e => key e = k ∧ start ≤ time e ∧ time e < start + span,
      key e = k ∧ start ≤ time e ∧ time e < start + span := fun e he => by
    simpa using (List.mem_filter.mp he).2
  generalize log.filter (fun e => key e = k ∧ start ≤ time e ∧ time e < start + span) = inside
    at hspaced hwindow
  match inside with
  | [] => exact Nat.zero_le 1
  | [_] => exact Nat.le_refl 1
  | later :: earlier :: _ =>
    obtain ⟨hlater, -, hbefore⟩ := hwindow later List.mem_cons_self
    obtain ⟨hearlier, hafter, -⟩ := hwindow earlier (List.mem_cons_of_mem _ List.mem_cons_self)
    have hapart := (List.pairwise_cons.mp hspaced).1 earlier List.mem_cons_self
      (hlater.trans hearlier.symm)
    linarith

end Gates
