import Mathlib.Data.List.Nodup
import Mathlib.Data.Set.Operations

/-!
# Challenges that are answered once

One challenge is open for each client. A response is checked against it under
a key, and the challenge is replaced by a new one whatever the response is
worth. What is observed of this is the list of the rotations, the latest one
first, with what was used and what was told.

Two things are asked of such a list (`SingleUse`). A response is accepted only
if it answers the challenge of the rotation before, under the key that is on
file for the client. And from a rotation on no response is accepted to a
challenge issued before it.

The second is for free (`spent_of_sound`): new challenges are distinct, and
two of them are not answered by one response. The first depends on the key.
Where each accepted response answers the open challenge under *some* key, the
list is single-use exactly when that was the key on file (`singleUse_iff`).
-/

namespace OneTime

/-- **A rotation**: the key the response was checked under, the key on file
for the client at that moment, the challenge that was issued, and what was
told of the response. -/
structure Rotation (N K C R : Type*) where
  client : N
  used : Option K
  onFile : Option K
  response : Option R
  next : C
  answer : Option Bool

variable {N K C R : Type*}

/-- The challenge that is open for a client: the one issued last. -/
def openFor [DecidableEq N] : List (Rotation N K C R) → N → Option C
  | [], _ => none
  | e :: before, n => if n = e.client then some e.next else openFor before n

/-- The challenges that were issued. -/
def issued (log : List (Rotation N K C R)) : List C := log.map Rotation.next

variable [DecidableEq N]

theorem mem_issued_of_openFor {log : List (Rotation N K C R)} {n : N} {c : C}
    (h : openFor log n = some c) : c ∈ issued log := by
  induction log with
  | nil => exact absurd h (Option.some_ne_none c).symm
  | cons e before ih =>
    rw [openFor] at h
    split at h
    · exact Option.some.inj h ▸ List.mem_cons_self
    · exact List.mem_cons_of_mem _ (ih h)

/-- What is open for the client of a rotation was issued then or later. -/
theorem openFor_append {after : List (Rotation N K C R)} {e : Rotation N K C R}
    {before : List (Rotation N K C R)} {c : C}
    (h : openFor (after ++ e :: before) e.client = some c) : c ∈ issued (after ++ [e]) := by
  induction after with
  | nil =>
    rw [List.nil_append, openFor, if_pos rfl] at h
    exact Option.some.inj h ▸ List.mem_cons_self
  | cons later rest ih =>
    rw [List.cons_append, openFor] at h
    split at h
    · exact Option.some.inj h ▸ List.mem_cons_self
    · exact List.mem_cons_of_mem _ (ih h)

variable (answers : K → C → R → Prop)

/-- If a rotation accepts a response, it answers the challenge open before,
under this key. -/
def Answered (key : Option K) (e : Rotation N K C R) (before : List (Rotation N K C R)) : Prop :=
  e.answer = some true → ∃ k c r, key = some k ∧ openFor before e.client = some c
    ∧ e.response = some r ∧ answers k c r

/-- **Every accepted response answers the open challenge**, under the key
read off its rotation. -/
def Sound (key : Rotation N K C R → Option K) (log : List (Rotation N K C R)) : Prop :=
  ∀ after e before, log = after ++ e :: before → Answered answers (key e) e before

/-- **No challenge is answered twice**: from a rotation on, no response of the
client is accepted that answers a challenge issued before it. -/
def Spent (keys : Set K) (log : List (Rotation N K C R)) : Prop :=
  ∀ after e before, log = after ++ e :: before →
    ∀ later ∈ after, later.client = e.client → later.answer = some true →
      ∀ c ∈ issued before, ∀ k ∈ keys, ∀ r, later.response = some r → ¬ answers k c r

/-- **Challenges are single-use.** -/
structure SingleUse (keys : Set K) (log : List (Rotation N K C R)) : Prop where
  latest : Sound answers Rotation.onFile log
  spent : Spent answers keys log

/-- **Responses are tied to their challenge and key**, among those that
occur. -/
def Tied (keys : Set K) (challenges : Set C) : Prop :=
  ∀ k ∈ keys, ∀ k' ∈ keys, ∀ c ∈ challenges, ∀ c' ∈ challenges, ∀ r,
    answers k c r → answers k' c' r → k = k' ∧ c = c'

variable {answers}

theorem sound_nil (key : Rotation N K C R → Option K) : Sound answers key [] :=
  fun after e before h => absurd h (by simp)

theorem sound_cons {key : Rotation N K C R → Option K} {e : Rotation N K C R}
    {before : List (Rotation N K C R)} :
    Sound answers key (e :: before)
      ↔ Answered answers (key e) e before ∧ Sound answers key before := by
  constructor
  · intro h
    exact ⟨h [] e before rfl, fun after e' rest hlog =>
      h (e :: after) e' rest (congrArg (List.cons e) hlog)⟩
  · rintro ⟨hfirst, hrest⟩ after e' rest hlog
    cases after with
    | nil =>
      obtain ⟨rfl, rfl⟩ := List.cons.inj hlog
      exact hfirst
    | cons later after =>
      obtain ⟨-, htail⟩ := List.cons.inj hlog
      exact hrest after e' rest htail

variable {keys : Set K} {log : List (Rotation N K C R)}

/-- **Distinct challenges are spent** by the rotation that replaces them. -/
theorem spent_of_sound (hsound : Sound answers Rotation.used log)
    (hused : ∀ e ∈ log, ∀ k, e.used = some k → k ∈ keys) (hnodup : (issued log).Nodup)
    (htied : Tied answers keys {c | c ∈ issued log}) : Spent answers keys log := by
  rintro after e before rfl later hlater hclient haccepted c hc k hk r hr hanswers
  obtain ⟨latest, between, rfl⟩ := List.append_of_mem hlater
  have hlog : latest ++ later :: between ++ e :: before
      = latest ++ later :: (between ++ e :: before) := by simp
  obtain ⟨k', c', r', hk', hc', hr', hanswers'⟩ :=
    hsound latest later (between ++ e :: before) hlog haccepted
  obtain rfl : r = r' := Option.some.inj (hr.symm.trans hr')
  rw [hclient] at hc'
  have hopen := openFor_append hc'
  -- the challenge that was open is not one issued before `e`
  have hne : c ≠ c' := by
    rintro rfl
    rw [hlog, issued, List.map_append, List.map_cons] at hnodup
    have hrest := (List.nodup_cons.mp (List.nodup_append.mp hnodup).2.1).2
    have happ : between ++ e :: before = (between ++ [e]) ++ before := by simp
    rw [happ, List.map_append] at hrest
    exact (List.nodup_append.mp hrest).2.2 c hopen c hc rfl
  refine hne (htied k hk k' (hused later (by simp) k' hk') c ?_ c' ?_ r hanswers hanswers').2
  · show c ∈ issued _
    rw [issued, List.map_append, List.map_cons]
    exact List.mem_append_right _ (List.mem_cons_of_mem _ hc)
  · show c' ∈ issued _
    rw [hlog, issued, List.map_append, List.map_cons]
    exact List.mem_append_right _ (List.mem_cons_of_mem _ (mem_issued_of_openFor hc'))

/-- **Single use is a matter of the key**: the list is single-use exactly when
each accepted response was checked under the key on file. -/
theorem singleUse_iff (hsound : Sound answers Rotation.used log)
    (hused : ∀ e ∈ log, ∀ k, e.used = some k → k ∈ keys)
    (honFile : ∀ e ∈ log, ∀ k, e.onFile = some k → k ∈ keys) (hnodup : (issued log).Nodup)
    (htied : Tied answers keys {c | c ∈ issued log}) :
    SingleUse answers keys log ↔ ∀ e ∈ log, e.answer = some true → e.onFile = e.used := by
  constructor
  · intro h e he haccepted
    obtain ⟨after, before, rfl⟩ := List.append_of_mem he
    obtain ⟨k, c, r, hk, hc, hr, hanswers⟩ := hsound after e before rfl haccepted
    obtain ⟨k', c', r', hk', hc', hr', hanswers'⟩ := h.latest after e before rfl haccepted
    obtain rfl : c = c' := Option.some.inj (hc.symm.trans hc')
    obtain rfl : r = r' := Option.some.inj (hr.symm.trans hr')
    have hmem : c ∈ issued (after ++ e :: before) := by
      rw [issued, List.map_append, List.map_cons]
      exact List.mem_append_right _ (List.mem_cons_of_mem _ (mem_issued_of_openFor hc))
    have hkey : k = k' :=
      (htied k (hused e he k hk) k' (honFile e he k' hk') c hmem c hmem r hanswers hanswers').1
    rw [hk, hk', hkey]
  · intro h
    refine ⟨fun after e before hlog haccepted => ?_, spent_of_sound hsound hused hnodup htied⟩
    obtain ⟨k, c, r, hk, hc, hr, hanswers⟩ := hsound after e before hlog haccepted
    have he : e ∈ log := hlog ▸ List.mem_append_right _ List.mem_cons_self
    exact ⟨k, c, r, (h e he haccepted).trans hk, hc, hr, hanswers⟩

/-! ## Rotations that are asked for -/

/-- **A record of rotations**: they are sound, each was asked for by a call
that has finished, no two by one, and no key occurs but these. -/
structure Recorded {ι : Type*} (answers : K → C → R → Prop) (keys : Set K) (next : ι → C)
    (finished : ι → Prop) (log : List (Rotation N K C R)) : Prop where
  sound : Sound answers Rotation.used log
  asked : ∀ e ∈ log, ∃ i, finished i ∧ e.next = next i
  nodup : (issued log).Nodup
  used : ∀ e ∈ log, ∀ k, e.used = some k → k ∈ keys
  onFile : ∀ e ∈ log, ∀ k, e.onFile = some k → k ∈ keys

namespace Recorded

variable {ι : Type*} {next : ι → C} {finished finished' : ι → Prop}

theorem nil : Recorded answers keys next finished ([] : List (Rotation N K C R)) :=
  ⟨sound_nil _, fun _ h => absurd h List.not_mem_nil, List.nodup_nil,
    fun _ h => absurd h List.not_mem_nil, fun _ h => absurd h List.not_mem_nil⟩

/-- More calls have finished. -/
theorem mono (h : Recorded answers keys next finished log)
    (hfinished : ∀ i, finished i → finished' i) : Recorded answers keys next finished' log :=
  { h with
    asked := fun e he => by
      obtain ⟨i, hi, hnext⟩ := h.asked e he
      exact ⟨i, hfinished i hi, hnext⟩ }

/-- **A call that finishes adds its rotation.** -/
theorem cons (h : Recorded answers keys next finished log) (hnext : Function.Injective next)
    {e : Rotation N K C R} {i : ι} (hopen : ¬ finished i) (he : e.next = next i)
    (hfinished : ∀ j, finished j → finished' j) (hi : finished' i)
    (hanswered : Answered answers e.used e log) (hused : ∀ k, e.used = some k → k ∈ keys)
    (honFile : ∀ k, e.onFile = some k → k ∈ keys) :
    Recorded answers keys next finished' (e :: log) where
  sound := sound_cons.mpr ⟨hanswered, h.sound⟩
  asked := fun e' he' => by
    rcases List.mem_cons.mp he' with rfl | hmem
    · exact ⟨i, hi, he⟩
    · exact (h.mono hfinished).asked e' hmem
  nodup := by
    refine List.nodup_cons.mpr ⟨fun hmem => ?_, h.nodup⟩
    obtain ⟨e', he', heq⟩ := List.mem_map.mp hmem
    obtain ⟨j, hj, hnext'⟩ := h.asked e' he'
    -- two calls issue no challenge twice
    obtain rfl : j = i := hnext (hnext'.symm.trans (heq.trans he))
    exact hopen hj
  used := List.forall_mem_cons.mpr ⟨hused, h.used⟩
  onFile := List.forall_mem_cons.mpr ⟨honFile, h.onFile⟩

/-- **A record is single-use** exactly when each accepted response was checked
under the key on file. -/
theorem singleUse_iff (h : Recorded answers keys next finished log)
    (htied : Tied answers keys (Set.range next)) :
    SingleUse answers keys log ↔ ∀ e ∈ log, e.answer = some true → e.onFile = e.used := by
  refine OneTime.singleUse_iff h.sound h.used h.onFile h.nodup ?_
  have hissued : ∀ c ∈ issued log, c ∈ Set.range next := by
    intro c hc
    obtain ⟨e, he, rfl⟩ := List.mem_map.mp hc
    obtain ⟨i, -, hnext⟩ := h.asked e he
    exact ⟨i, hnext.symm⟩
  exact fun k hk k' hk' c hc c' hc' => htied k hk k' hk' c (hissued c hc) c' (hissued c' hc')

end Recorded

end OneTime
