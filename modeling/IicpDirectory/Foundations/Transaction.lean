import Mathlib.Data.List.Forall2
import Mathlib.Data.Nat.Notation
import Mathlib.Logic.Basic

/-!
# Transactions under a server that may fail

A transaction is a list of statements, run in order on one state. A
statement may be refused by the state itself – a constraint – or by the
server; either way the transaction is rolled back. Its commit is a request
like any other and may be refused too, or be persisted and answered with an
error all the same, when the connection is lost in between.

What a caller can rely on is that a transaction it sees succeed has run
every statement (`run_eq_true_iff`), and that one it sees fail has left
nothing (`snd_run_of_refused`) – unless its commit was lost.
-/

/-- How the server answers a commit. -/
inductive CommitAnswer
  | done
  | refused
  | lost
  deriving DecidableEq

/-- **What a server makes of one transaction**: whether it begins, which
statements fail, and what becomes of the commit. -/
structure Server where
  begins : Bool
  fails : ℕ → Bool
  commit : CommitAnswer

namespace Server

/-- The server that does what it is asked. -/
def willing : Server := ⟨true, fun _ => false, .done⟩

/-- A single statement is executed, whatever is heard of it. -/
def executes (server : Server) : Bool :=
  server.begins && !server.fails 0 && (server.commit != .refused)

/-- A single statement is executed and answered. -/
def answers (server : Server) : Bool :=
  server.begins && !server.fails 0 && (server.commit == .done)

theorem executes_of_answers {server : Server} (h : server.answers = true) :
    server.executes = true := by
  unfold answers at h
  unfold executes
  rw [Bool.and_eq_true, beq_iff_eq] at h
  rw [h.1, h.2]
  rfl

/-- Where no answer is lost the two are the same. -/
theorem answers_eq_executes {server : Server} (h : server.commit ≠ .lost) :
    server.answers = server.executes := by
  unfold answers executes
  cases hcommit : server.commit with
  | done => rfl
  | refused => rfl
  | lost => exact absurd hcommit h

/-- A transaction of so many statements is carried through, whatever is heard
of it. -/
def carries (server : Server) (n : ℕ) : Bool :=
  server.begins && (List.range' 0 n).all (fun i => !server.fails i)
    && (server.commit != .refused)

/-- One that has a statement the server fails is not. -/
theorem carries_eq_false {server : Server} {k n : ℕ} (hk : k < n)
    (h : server.fails k = true) : server.carries n = false := by
  unfold carries
  have hall : ((List.range' 0 n).all fun i => !server.fails i) = false := by
    rw [List.all_eq_false]
    exact ⟨k, List.mem_range'_1.mpr ⟨Nat.zero_le k, by omega⟩, by rw [h]; decide⟩
  rw [hall, Bool.and_false, Bool.false_and]

end Server

namespace Transaction

variable {S : Type*}

/-- The statements from the `n`-th on, up to the first that fails. -/
def execute (fails : ℕ → Bool) : ℕ → List (S → Option S) → S → Option S
  | _, [], s => some s
  | n, statement :: rest, s =>
    if fails n then none else (statement s).bind (execute fails (n + 1) rest)

/-- **A transaction**: whether it is seen to succeed, and the state it
leaves. -/
def run (server : Server) (body : List (S → Option S)) (s : S) : Bool × S :=
  if server.begins then
    match execute server.fails 0 body s with
    | none => (false, s)
    | some s' =>
      match server.commit with
      | .done => (true, s')
      | .refused => (false, s)
      | .lost => (false, s')
  else (false, s)

/-- **The transaction gets as far as its commit**: it begins, and no
statement fails. -/
def reaches (server : Server) (body : List (S → Option S)) (s : S) : Option S :=
  if server.begins then execute server.fails 0 body s else none

/-- A transaction that does not get to its commit leaves nothing. -/
theorem run_of_not_reached {server : Server} {body : List (S → Option S)} {s : S}
    (h : reaches server body s = none) : run server body s = (false, s) := by
  unfold reaches at h
  unfold run
  split
  · rename_i hbegins
    rw [if_pos hbegins] at h
    rw [h]
  · rfl

/-- One that does is in the hands of the commit. -/
theorem run_of_reached {server : Server} {body : List (S → Option S)} {s s' : S}
    (h : reaches server body s = some s') :
    run server body s = match server.commit with
      | .done => (true, s')
      | .refused => (false, s)
      | .lost => (false, s') := by
  unfold reaches at h
  unfold run
  split at h
  · rename_i hbegins
    rw [if_pos hbegins, h]
  · exact absurd h (by simp)

/-- **It is seen to succeed** where it got to its commit and the commit was
done. -/
theorem run_eq_true_iff {server : Server} {body : List (S → Option S)} {s s' : S} :
    run server body s = (true, s') ↔ reaches server body s = some s' ∧ server.commit = .done := by
  cases h : reaches server body s with
  | none => simp [run_of_not_reached h]
  | some t =>
    rw [run_of_reached h]
    cases server.commit <;> simp

/-- **A transaction seen to fail left nothing**, unless its commit was
lost. -/
theorem snd_run_of_refused {server : Server} {body : List (S → Option S)} {s : S}
    (hcommit : server.commit ≠ .lost) (h : (run server body s).1 = false) :
    (run server body s).2 = s := by
  cases hr : reaches server body s with
  | none => rw [run_of_not_reached hr]
  | some t =>
    rw [run_of_reached hr] at h ⊢
    cases hc : server.commit with
    | done => exact absurd h (by simp [hc])
    | refused => rfl
    | lost => exact absurd hc hcommit

/-- **The statements run one after the other** where the server fails none of
them; where it fails one nothing comes of it. -/
theorem execute_eq (fails : ℕ → Bool) (body : List (S → Option S)) (n : ℕ) (s : S) :
    execute fails n body s
      = if (List.range' n body.length).all (fun i => !fails i) then
          body.foldlM (fun s statement => statement s) s
        else none := by
  induction body generalizing n s with
  | nil => rfl
  | cons statement rest ih =>
    rw [execute, List.length_cons, List.range'_succ, List.all_cons, List.foldlM_cons]
    cases hn : fails n with
    | true => rfl
    | false =>
      rw [if_neg Bool.false_ne_true, Bool.not_false, Bool.true_and]
      show (statement s).bind _ = if _ then (statement s).bind _ else none
      cases statement s with
      | none => split <;> rfl
      | some s' => exact ih (n + 1) s'

/-- What gets to its commit has run every statement. -/
theorem foldlM_of_reached {server : Server} {body : List (S → Option S)} {s s' : S}
    (h : reaches server body s = some s') :
    body.foldlM (fun s statement => statement s) s = some s' := by
  unfold reaches at h
  split at h
  · rw [execute_eq] at h
    split at h
    · exact h
    · exact absurd h (by simp)
  · exact absurd h (by simp)

/-- A willing server commits what can be executed. -/
theorem run_willing {body : List (S → Option S)} {s s' : S}
    (h : body.foldlM (fun s statement => statement s) s = some s') :
    run .willing body s = (true, s') := by
  have hall : ((List.range' 0 body.length).all fun i => !Server.willing.fails i) = true :=
    List.all_eq_true.mpr fun _ _ => rfl
  refine run_eq_true_iff.mpr ⟨?_, rfl⟩
  unfold reaches
  rw [if_pos (show Server.willing.begins = true from rfl), execute_eq, if_pos hall]
  exact h

/-- **A transaction leaves what was, or what all its statements make.** -/
theorem snd_run_cases (server : Server) (body : List (S → Option S)) (s : S) :
    (run server body s).2 = s
      ∨ body.foldlM (fun s statement => statement s) s = some (run server body s).2 := by
  cases h : reaches server body s with
  | none => exact Or.inl (congrArg Prod.snd (run_of_not_reached h))
  | some s' =>
    rw [run_of_reached h]
    cases server.commit with
    | refused => exact Or.inl rfl
    | done => exact Or.inr (foldlM_of_reached h)
    | lost => exact Or.inr (foldlM_of_reached h)

/-- **What each statement keeps, in a relation that can be strung together, a
transaction keeps.** -/
theorem run_rel {R : S → S → Prop} (hrefl : ∀ s, R s s)
    (htrans : ∀ {s mid s'}, R s mid → R mid s' → R s s') {body : List (S → Option S)}
    (hbody : ∀ statement ∈ body, ∀ s s', statement s = some s' → R s s') (server : Server) (s : S) :
    R s (run server body s).2 := by
  have hfold : ∀ {rest : List (S → Option S)}, (∀ statement ∈ rest, statement ∈ body) →
      ∀ {s s'}, rest.foldlM (fun s statement => statement s) s = some s' → R s s' := by
    intro rest
    induction rest with
    | nil =>
      intro _ s s' h
      exact Option.some.inj h ▸ hrefl s
    | cons statement rest ih =>
      intro hmem s s' h
      obtain ⟨mid, hfirst, hrest⟩ := Option.bind_eq_some_iff.mp h
      exact htrans (hbody statement (hmem _ List.mem_cons_self) s mid hfirst)
        (ih (fun other hother => hmem _ (List.mem_cons_of_mem _ hother)) hrest)
  rcases snd_run_cases server body s with hsame | hrun
  · rw [hsame]
    exact hrefl s
  · exact hfold (fun _ h => h) hrun

/-- A transaction the server does not carry through leaves nothing, -/
theorem run_of_not_carried {server : Server} {body : List (S → Option S)}
    (h : server.carries body.length = false) (s : S) : run server body s = (false, s) := by
  unfold Server.carries at h
  unfold run
  rw [execute_eq]
  cases hbegins : server.begins with
  | false => rfl
  | true =>
    rw [hbegins, Bool.true_and] at h
    rw [if_pos rfl]
    cases hall : (List.range' 0 body.length).all fun i => !server.fails i with
    | false => rfl
    | true =>
      rw [hall, Bool.true_and] at h
      rw [if_pos rfl]
      have hrefused : server.commit = .refused := by simpa using h
      cases body.foldlM (fun s statement => statement s) s with
      | none => rfl
      | some s' => rw [hrefused]

/-- nor does one that cannot be executed, -/
theorem run_of_stuck (server : Server) {body : List (S → Option S)} {s : S}
    (h : body.foldlM (fun s statement => statement s) s = none) :
    run server body s = (false, s) := by
  refine run_of_not_reached ?_
  cases hr : reaches server body s with
  | none => rfl
  | some s' => exact absurd ((foldlM_of_reached hr).symm.trans h) (by simp)

/-- One that is carried through gets to its commit, -/
theorem reaches_of_carried {server : Server} {body : List (S → Option S)} {s s' : S}
    (hc : server.carries body.length = true)
    (h : body.foldlM (fun s statement => statement s) s = some s') :
    reaches server body s = some s' := by
  unfold Server.carries at hc
  rw [Bool.and_eq_true, Bool.and_eq_true] at hc
  unfold reaches
  rw [if_pos hc.1.1, execute_eq, if_pos hc.1.2]
  exact h

/-- **and leaves what its statements make.** -/
theorem snd_run_of_carried {server : Server} {body : List (S → Option S)} {s s' : S}
    (hc : server.carries body.length = true)
    (h : body.foldlM (fun s statement => statement s) s = some s') :
    (run server body s).2 = s' := by
  have hcommit : (server.commit != .refused) = true := by
    unfold Server.carries at hc
    exact ((Bool.and_eq_true _ _).mp hc).2
  rw [run_of_reached (reaches_of_carried hc h)]
  cases hanswer : server.commit with
  | refused => exact absurd hanswer (by simpa using hcommit)
  | done => rfl
  | lost => rfl

/-- A statement outside any transaction: what it answers, and what it
leaves. -/
def single (server : Server) (statement : S → Option (Bool × S)) (s : S) : Bool × S :=
  if server.begins && !server.fails 0 then
    match statement s with
    | none => (false, s)
    | some (answer, s') =>
      match server.commit with
      | .done => (answer, s')
      | .refused => (false, s)
      | .lost => (false, s')
  else (false, s)

/-- **What a single statement leaves**: what it writes, if it is executed. -/
theorem snd_single (server : Server) (statement : S → Option (Bool × S)) (s : S) :
    (single server statement s).2
      = if server.executes then ((statement s).map Prod.snd).getD s else s := by
  unfold single Server.executes
  cases server.begins && !server.fails 0 with
  | false => rfl
  | true =>
    rw [if_pos rfl, Bool.true_and]
    cases statement s with
    | none => exact (ite_self s).symm
    | some r => cases server.commit <;> rfl

/-- **What it answers**: what it has to, if it is heard of. -/
theorem fst_single (server : Server) (statement : S → Option (Bool × S)) (s : S) :
    (single server statement s).1 = (server.answers && ((statement s).map Prod.fst).getD false) := by
  unfold single Server.answers
  cases server.begins && !server.fails 0 with
  | false => rfl
  | true =>
    rw [if_pos rfl, Bool.true_and]
    cases statement s with
    | none => exact (Bool.and_false _).symm
    | some r =>
      obtain ⟨answer, s'⟩ := r
      cases server.commit <;> rfl

/-- **A statement that is never refused by the state**: whether it is heard
of, and what it leaves. -/
theorem single_of_always (server : Server) (f : S → S) (s : S) :
    single server (fun s => some (true, f s)) s
      = (server.answers, if server.executes then f s else s) :=
  Prod.ext ((fst_single server _ s).trans (Bool.and_true _)) (snd_single server _ s)

/-- What is not executed is not heard of. -/
theorem single_of_not_executed {server : Server} (h : server.executes = false) (f : S → S) (s : S) :
    single server (fun s => some (true, f s)) s = (false, s) := by
  have hanswers : server.answers = false :=
    Bool.eq_false_iff.mpr fun ha => Bool.eq_false_iff.mp h (Server.executes_of_answers ha)
  rw [single_of_always, h, hanswers]
  rfl

/-! ## A part of the state -/

section Part

variable {T : Type*} (part : S → T)

/-- The statements that one after the other do to a part of the state what
others do. -/
theorem map_execute {body : List (S → Option S)} {body' : List (T → Option T)}
    (h : List.Forall₂ (fun statement statement' =>
      ∀ s, (statement s).map part = statement' (part s)) body body')
    (fails : ℕ → Bool) (n : ℕ) (s : S) :
    (execute fails n body s).map part = execute fails n body' (part s) := by
  induction h generalizing n s with
  | nil => rfl
  | @cons statement statement' rest rest' hfirst hrest ih =>
    unfold execute
    cases fails n with
    | true => rfl
    | false =>
      rw [if_neg Bool.false_ne_true, if_neg Bool.false_ne_true, ← hfirst s]
      cases statement s with
      | none => rfl
      | some s' => exact ih (n + 1) s'

/-- **What statements that are executed leave of a part of the state** is what
each of them does to it, one after the other. -/
theorem part_of_foldlM {body : List (S → Option S)} {effects : List (T → T)}
    (h : List.Forall₂ (fun statement effect =>
      ∀ s s', statement s = some s' → part s' = effect (part s)) body effects)
    {s s' : S} (hrun : body.foldlM (fun s statement => statement s) s = some s') :
    part s' = effects.foldl (fun t effect => effect t) (part s) := by
  induction h generalizing s with
  | nil =>
    obtain rfl := Option.some.inj hrun
    rfl
  | @cons statement effect rest effects hfirst hrest ih =>
    obtain ⟨mid, hmid, hrun⟩ := Option.bind_eq_some_iff.mp hrun
    rw [ih hrun, hfirst s mid hmid]
    rfl

/-- **A transaction does to a part of the state** what the transaction of that
part does. -/
theorem map_run {body : List (S → Option S)} {body' : List (T → Option T)}
    (h : List.Forall₂ (fun statement statement' =>
      ∀ s, (statement s).map part = statement' (part s)) body body')
    (server : Server) (s : S) :
    ((run server body s).1, part (run server body s).2) = run server body' (part s) := by
  have hexecute := map_execute part h server.fails 0 s
  unfold run
  cases server.begins with
  | false => rfl
  | true =>
    rw [if_pos rfl, if_pos rfl, ← hexecute]
    cases execute server.fails 0 body s with
    | none => rfl
    | some s' => cases server.commit <;> rfl

end Part

end Transaction
