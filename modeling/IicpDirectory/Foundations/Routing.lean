import Mathlib.Data.List.Forall2
import Mathlib.Data.List.Basic

/-!
# Tables of routes

A route has a pattern: a list of segments, each of which is a word or stands for
any word but the empty one. A path is a list of words, and a pattern takes it if
they are as long as each other and each segment takes its word.

Two patterns that differ in a word at some place take no path in common
(`not_takes_of_parted`). If any two routes of a table are parted in this way,
the order of the table does not matter: what is found for a path is what is
listed under a pattern that takes it (`lookup_eq_some_iff`).
-/

namespace Routing

variable {σ β : Type*}

/-- A segment of a pattern. -/
inductive Segment (σ : Type*)
  | word (w : σ)
  | parameter
  deriving DecidableEq

variable [DecidableEq σ]

/-- A segment takes a word. -/
def Segment.takes (empty : σ) : Segment σ → σ → Bool
  | word w, s => s == w
  | parameter, s => s != empty

/-- **A pattern takes a path.** -/
def takes (empty : σ) (pattern : List (Segment σ)) (path : List σ) : Bool :=
  match pattern, path with
  | [], [] => true
  | p :: pattern, s :: path => p.takes empty s && takes empty pattern path
  | _, _ => false

/-- Two patterns are parted: by their lengths, or by a place where they have two
words. -/
def parted : List (Segment σ) → List (Segment σ) → Bool
  | [], [] => false
  | .word w :: p, .word w' :: q => w != w' || parted p q
  | _ :: p, _ :: q => parted p q
  | _, _ => true

/-- **Parted patterns take no path in common.** -/
theorem not_takes_of_parted {empty : σ} {p q : List (Segment σ)} (h : parted p q = true)
    {path : List σ} (hp : takes empty p path = true) : takes empty q path = false := by
  induction p generalizing q path with
  | nil =>
    cases path with
    | cons s path => exact absurd hp (by simp [takes])
    | nil =>
      cases q with
      | nil => exact absurd h (by simp [parted])
      | cons b q => rfl
  | cons a p ih =>
    cases path with
    | nil => exact absurd hp (by simp [takes])
    | cons s path =>
      cases q with
      | nil => rfl
      | cons b q =>
        rw [takes, Bool.and_eq_true] at hp
        rw [takes, Bool.and_eq_false_iff]
        cases a with
        | parameter => exact Or.inr (ih (by cases b <;> exact h) hp.2)
        | word w =>
          cases b with
          | parameter => exact Or.inr (ih h hp.2)
          | word w' =>
            rw [parted, Bool.or_eq_true, bne_iff_ne] at h
            rcases h with hne | h
            · have hs : s = w := by simpa [Segment.takes] using hp.1
              exact Or.inl (by simpa [Segment.takes, hs] using hne)
            · exact Or.inr (ih h hp.2)

/-- A pattern without parameters takes one path. -/
theorem takes_words_iff {empty : σ} {words path : List σ} :
    takes empty (words.map .word) path = true ↔ path = words := by
  induction words generalizing path with
  | nil => cases path <;> simp [takes]
  | cons w words ih =>
    cases path with
    | nil => simp [takes]
    | cons s path => simp [takes, Segment.takes, ih]

/-! ## Tables -/

/-- **What is found for a path**: what the first pattern that takes it has. -/
def lookup (empty : σ) (table : List (List (Segment σ) × β)) (path : List σ) : Option β :=
  (table.find? fun e => takes empty e.1 path).map Prod.snd

/-- **The order of a table does not matter**, if any two of its patterns are
parted. -/
theorem lookup_eq_some_iff {empty : σ} {table : List (List (Segment σ) × β)}
    (h : table.Pairwise fun e e' => parted e.1 e'.1 = true) {path : List σ} {b : β} :
    lookup empty table path = some b ↔ ∃ p, (p, b) ∈ table ∧ takes empty p path = true := by
  unfold lookup
  induction table with
  | nil => simp
  | cons e rest ih =>
    rw [List.pairwise_cons] at h
    rw [List.find?_cons]
    cases htakes : takes empty e.1 path with
    | true =>
      constructor
      · intro hb
        obtain rfl : e.2 = b := Option.some.inj hb
        exact ⟨e.1, List.mem_cons_self, htakes⟩
      · rintro ⟨p, hmem, hp⟩
        rcases List.mem_cons.mp hmem with rfl | hrest
        · rfl
        · have hnot := not_takes_of_parted (h.1 _ hrest) htakes
          exact absurd (hp.symm.trans hnot) (by simp)
    | false =>
      rw [ih h.2]
      constructor
      · rintro ⟨p, hrest, hp⟩
        exact ⟨p, List.mem_cons_of_mem e hrest, hp⟩
      · rintro ⟨p, hmem, hp⟩
        rcases List.mem_cons.mp hmem with rfl | hrest
        · exact absurd (hp.symm.trans htakes) (by simp)
        · exact ⟨p, hrest, hp⟩

end Routing
