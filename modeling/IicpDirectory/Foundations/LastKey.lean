import Mathlib.Data.List.Nodup

/-!
# Remembering the last key

A receiver of messages that may come more than once can tell a repeat by
its key. One that remembers only the key it took last takes a message
unless that is its key. What it takes has no repeats exactly when no key
returns once another has come (`nodup_taken_iff`): a repeat that comes at
once is passed over, a late one is taken again.

The receiver may be a part of a machine that does other things as well;
`taken_run` reads what it takes off a run of the machine.
-/

namespace LastKey

variable {K : Type*}

/-- **No key returns** once another has come. -/
def NoReturn (keys : List K) : Prop :=
  ∀ before a b after, keys = before ++ a :: b :: after → a ≠ b → a ∉ after

theorem noReturn_nil : NoReturn ([] : List K) := by
  intro before a b after h
  exact absurd h (by simp)

theorem noReturn_singleton (a : K) : NoReturn [a] := by
  intro before x y after h
  have hlen := congrArg List.length h
  simp only [List.length_cons, List.length_nil, List.length_append] at hlen
  omega

theorem noReturn_cons_cons (a b : K) (rest : List K) :
    NoReturn (a :: b :: rest) ↔ (a ≠ b → a ∉ rest) ∧ NoReturn (b :: rest) := by
  constructor
  · intro h
    refine ⟨h [] a b rest rfl, fun before x y after heq => ?_⟩
    exact h (a :: before) x y after (by rw [heq]; rfl)
  · rintro ⟨hhead, htail⟩ before x y after heq
    cases before with
    | nil =>
      obtain ⟨rfl, rfl, rfl⟩ : a = x ∧ b = y ∧ rest = after := by simpa using heq
      exact hhead
    | cons first before =>
      obtain ⟨rfl, hrest⟩ : a = first ∧ b :: rest = before ++ x :: y :: after := by
        simpa using heq
      exact htail before x y after hrest

variable [DecidableEq K]

/-- **The keys that are taken**: each that is not the one taken last. -/
def taken : Option K → List K → List K
  | _, [] => []
  | last, k :: rest => if last = some k then taken last rest else k :: taken (some k) rest

theorem mem_of_mem_taken {last : Option K} {keys : List K} {k : K} (h : k ∈ taken last keys) :
    k ∈ keys := by
  induction keys generalizing last with
  | nil => exact h
  | cons x rest ih =>
    rw [taken] at h
    split at h
    · exact List.mem_cons_of_mem x (ih h)
    · rcases List.mem_cons.mp h with rfl | hrest
      · exact List.mem_cons_self
      · exact List.mem_cons_of_mem x (ih hrest)

/-- Every key that comes is taken, unless it is the one taken last. -/
theorem mem_taken {last : Option K} {keys : List K} {k : K} (h : k ∈ keys) (hne : last ≠ some k) :
    k ∈ taken last keys := by
  induction keys generalizing last with
  | nil => exact h
  | cons x rest ih =>
    rw [taken]
    rcases List.mem_cons.mp h with rfl | hrest
    · rw [if_neg hne]
      exact List.mem_cons_self
    · split
      · exact ih hrest hne
      · by_cases hx : x = k
        · rw [hx]
          exact List.mem_cons_self
        · exact List.mem_cons_of_mem x (ih hrest (fun he => hx (Option.some.inj he)))

/-- What is taken after a key has no repeats, and not that key, exactly when
no key returns. -/
theorem nodup_cons_taken_iff (a : K) (keys : List K) :
    (a :: taken (some a) keys).Nodup ↔ NoReturn (a :: keys) := by
  induction keys generalizing a with
  | nil => exact ⟨fun _ => noReturn_singleton a, fun _ => List.nodup_singleton a⟩
  | cons k rest ih =>
    rw [noReturn_cons_cons, taken]
    by_cases hk : a = k
    · subst hk
      rw [if_pos rfl, ih a]
      exact ⟨fun h => ⟨fun hne => absurd rfl hne, h⟩, fun h => h.2⟩
    · have hmem : a ∉ k :: taken (some k) rest ↔ a ∉ rest := by
        rw [List.mem_cons, not_or]
        constructor
        · rintro ⟨_, htaken⟩ hrest
          exact htaken (mem_taken hrest (fun he => hk (Option.some.inj he).symm))
        · exact fun hrest => ⟨hk, fun htaken => hrest (mem_of_mem_taken htaken)⟩
      rw [if_neg (fun he => hk (Option.some.inj he)), List.nodup_cons, hmem, ih k]
      exact ⟨fun h => ⟨fun _ => h.1, h.2⟩, fun h => ⟨h.1 hk, h.2⟩⟩

/-- **What is taken has no repeats**, and none of what was remembered,
exactly when no key returns. -/
theorem nodup_taken_iff (last : Option K) (keys : List K) :
    (last.toList ++ taken last keys).Nodup ↔ NoReturn (last.toList ++ keys) := by
  cases last with
  | some a => exact nodup_cons_taken_iff a keys
  | none =>
    cases keys with
    | nil => exact ⟨fun _ => noReturn_nil, fun _ => List.nodup_nil⟩
    | cons k rest => exact nodup_cons_taken_iff k rest

section Run

variable {S I : Type*}

/-- What a machine takes in a run, if it takes the key of an input unless it
remembers it. -/
def takenAlong (step : S → I → S) (last : S → Option K) (key : I → Option K) :
    S → List I → List K
  | _, [] => []
  | s, i :: rest =>
    (if last s = key i then [] else (key i).toList) ++ takenAlong step last key (step s i) rest

/-- **A run takes what its keys say**, if each step remembers the key of its
input. -/
theorem taken_run {step : S → I → S} {last : S → Option K} {key : I → Option K} {Inv : S → Prop}
    (hstep : ∀ s i, Inv s → last (step s i) = (key i).or (last s) ∧ Inv (step s i)) {s : S}
    (h : Inv s) (inputs : List I) :
    takenAlong step last key s inputs = taken (last s) (inputs.filterMap key) := by
  induction inputs generalizing s with
  | nil => rfl
  | cons i rest ih =>
    obtain ⟨hlast, hinv⟩ := hstep s i h
    rw [takenAlong, ih hinv, hlast]
    cases hkey : key i with
    | none =>
      rw [List.filterMap_cons_none hkey]
      exact congrArg (· ++ _) (ite_self [])
    | some k =>
      rw [List.filterMap_cons_some hkey, taken]
      by_cases hk : last s = some k
      · rw [if_pos hk, if_pos hk, hk]
        rfl
      · rw [if_neg hk, if_neg hk]
        rfl

end Run

end LastKey
