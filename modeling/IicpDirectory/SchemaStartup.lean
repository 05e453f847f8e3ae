import IicpDirectory.Foundations.Run
import IicpDirectory.SchemaGate
import Mathlib.Logic.Function.Basic

/-!
# Directories that start on one database

A directory that starts counts the base tables of its database. If there is none
it executes the baseline, statement by statement and without a transaction;
otherwise it only looks. Then it reads the catalogue, with three queries, and
serves if that has what the contract asks for. An operational command does the
same but for the baseline.

Any number of them may start on one database at once, any statement may fail,
the answer to it may be lost, and any process may be gone at any moment and
start again. Still nobody serves from a database that does not conform, and only
one process ever completes the baseline (`starts_are_sound`); a database that has
a table is not touched, and so nothing ever mends one that was left behind half
made, nor serves from it (`populated_is_untouched`).
-/

namespace SchemaGate

/-! ## The baseline -/

/-- A statement of `baseline-v1.sql`. -/
inductive BaselineStatement
  | setForeignKeyChecks (on : Bool)
  | createTable (t : TableDef)
  | insertChainHead (chainId : String)

namespace Database

/-- The database has a table of that name. -/
def HasTable (db : Database) (name : String) : Prop := name ∈ db.tables.map TableDef.name

instance (db : Database) (name : String) : Decidable (db.HasTable name) :=
  inferInstanceAs (Decidable (name ∈ _))

/-- `CREATE TABLE`, where there is none of the name. -/
def createTable (db : Database) (t : TableDef) : Option Database :=
  if h : db.HasTable t.name then none
  else
    some
      { db with
        tables := db.tables ++ [t]
        names_nodup := by
          rw [List.map_append, List.nodup_append]
          refine ⟨db.names_nodup, List.nodup_singleton _, fun a ha b hb hab => h ?_⟩
          obtain rfl := List.mem_singleton.mp hb
          exact hab ▸ ha }

/-- **A statement is executed**, if the server can. -/
def execute (db : Database) : BaselineStatement → Option Database
  | .setForeignKeyChecks _ => some db
  | .createTable t => db.createTable t
  | .insertChainHead chainId =>
    if db.HasTable "node_event_chain_heads" ∧ chainId ∉ db.chainHeads then
      some { db with chainHeads := db.chainHeads ++ [chainId] }
    else none

/-- **A statement only adds.** -/
theorem subset_of_execute {db db' : Database} {statement : BaselineStatement}
    (h : db.execute statement = some db') : db.tables ⊆ db'.tables := by
  cases statement with
  | setForeignKeyChecks on => exact (Option.some.inj h) ▸ List.Subset.refl _
  | createTable t =>
    simp only [execute, createTable] at h
    split at h
    · exact absurd h (by simp)
    · exact (Option.some.inj h) ▸ List.subset_append_left _ _
  | insertChainHead chainId =>
    simp only [execute] at h
    split at h
    · exact (Option.some.inj h) ▸ List.Subset.refl _
    · exact absurd h (by simp)

theorem HasTable.mono {db db' : Database} (hle : db.tables ⊆ db'.tables) {name : String}
    (h : db.HasTable name) : db'.HasTable name := by
  obtain ⟨t, ht, rfl⟩ := List.mem_map.mp h
  exact List.mem_map_of_mem (hle ht)

/-- A table that was created was not there, and is. -/
theorem of_execute_createTable {db db' : Database} {t : TableDef}
    (h : db.execute (.createTable t) = some db') :
    ¬ db.HasTable t.name ∧ db'.HasTable t.name := by
  simp only [execute, createTable] at h
  split at h
  · exact absurd h (by simp)
  · next hnone =>
    obtain rfl := Option.some.inj h
    refine ⟨hnone, ?_⟩
    show t.name ∈ (db.tables ++ [t]).map TableDef.name
    rw [List.map_append]
    exact List.mem_append_right _ List.mem_cons_self

end Database

/-! ## The processes -/

/-- `SchemaStatus`. -/
inductive SchemaStatus
  | bootstrappedEmpty
  | verifiedExisting
  deriving DecidableEq

/-- **Where a process stands.** One that is not there counts as failed; one that
starts may bootstrap, or is a command and may not. -/
inductive Phase
  | failed
  | counting (bootstraps : Bool)
  | bootstrapping (next : ℕ)
  | readingColumns (status : SchemaStatus)
  | readingIndexes (status : SchemaStatus) (columns : List ColumnRow)
  | readingForeignKeys (status : SchemaStatus) (columns : List ColumnRow) (indexes : List IndexRow)
  | passed (status : SchemaStatus)

/-- **What happens to a process.** The answer to a statement may be lost, and at any
time a query may fail or the process go. -/
inductive StartAction
  | start (bootstraps : Bool)
  | count
  | statement (lost : Bool)
  | columns (rows : List ColumnRow)
  | indexes (rows : List IndexRow)
  | foreignKeys (rows : List ForeignKeyRow)
  | fail

variable {ι : Type*} [DecidableEq ι]

/-- The database and its processes. -/
structure Starts (ι : Type*) where
  db : Database
  phase : ι → Phase

/-- Nobody has started. -/
def Starts.quiet (db : Database) : Starts ι := ⟨db, fun _ => .failed⟩

variable (contract : Contract) (baseline : List BaselineStatement)

/-- **What a process does in its phase**: where it stands then, and the database. -/
def advance (db : Database) : Phase → StartAction → Phase × Database
  | _, .start bootstraps => (.counting bootstraps, db)
  | _, .fail => (.failed, db)
  | .counting bootstraps, .count =>
    (if db.tables.isEmpty then
        if bootstraps then .bootstrapping 0 else .failed
      else .readingColumns .verifiedExisting, db)
  | .bootstrapping next, .statement lost =>
    match baseline[next]? with
    | none => (.readingColumns .bootstrappedEmpty, db)
    | some statement =>
      match db.execute statement with
      | none => (.failed, db)
      | some db' => (if lost then .failed else .bootstrapping (next + 1), db')
  | .readingColumns status, .columns rows => (.readingIndexes status rows, db)
  | .readingIndexes status columns, .indexes rows =>
    (.readingForeignKeys status columns rows, db)
  | .readingForeignKeys status columns indexes, .foreignKeys rows =>
    (if (compareContract contract (loadActualSchema columns indexes rows)).isEmpty then
        .passed status
      else .failed, db)
  | phase, _ => (phase, db)

/-- **One step of a process.** -/
def step (s : Starts ι) (a : ι × StartAction) : Starts ι where
  db := (advance contract baseline s.db (s.phase a.1) a.2).2
  phase := Function.update s.phase a.1 (advance contract baseline s.db (s.phase a.1) a.2).1

theorem phase_step_self (s : Starts ι) (a : ι × StartAction) :
    (step contract baseline s a).phase a.1
      = (advance contract baseline s.db (s.phase a.1) a.2).1 := Function.update_self _ _ _

theorem phase_step_of_ne (s : Starts ι) (a : ι × StartAction) {i : ι} (hi : i ≠ a.1) :
    (step contract baseline s a).phase i = s.phase i := Function.update_of_ne hi _ _

/-- **A query is answered with the rows of the catalogue.** -/
def StartAction.Answers (db : Database) : StartAction → Prop
  | .columns rows => db.ReadsColumns rows
  | .indexes rows => db.ReadsIndexes rows
  | .foreignKeys rows => db.ReadsForeignKeys rows
  | _ => True

/-- As it is then. -/
def Answered (s : Starts ι) (a : ι × StartAction) : Prop := a.2.Answers s.db

/-! ## What a process knows -/

/-- What the rows a process has read are of: a database of before. -/
def Phase.Knows (contract : Contract) (db : Database) : Phase → Prop
  | .readingIndexes _ columns =>
    ∃ db₁ : Database, db₁.tables ⊆ db.tables ∧ db₁.ReadsColumns columns
  | .readingForeignKeys _ columns indexes =>
    ∃ db₁ db₂ : Database, db₁.tables ⊆ db₂.tables ∧ db₂.tables ⊆ db.tables
      ∧ db₁.ReadsColumns columns ∧ db₂.ReadsIndexes indexes
  | .passed _ => Conforms contract db
  | _ => True

variable {contract baseline}

/-- It is of before still when tables have come. -/
theorem Phase.Knows.mono {db db' : Database} (hle : db.tables ⊆ db'.tables) {phase : Phase}
    (h : phase.Knows contract db) : phase.Knows contract db' := by
  cases phase with
  | readingIndexes status columns =>
    obtain ⟨db₁, hsub, hreads⟩ := h
    exact ⟨db₁, List.Subset.trans hsub hle, hreads⟩
  | readingForeignKeys status columns indexes =>
    obtain ⟨db₁, db₂, h₁₂, hsub, hreads⟩ := h
    exact ⟨db₁, db₂, h₁₂, List.Subset.trans hsub hle, hreads⟩
  | passed status => exact Conforms.mono h hle
  | failed => trivial
  | counting bootstraps => trivial
  | bootstrapping next => trivial
  | readingColumns status => trivial

/-- **A process only adds to the database.** -/
theorem subset_of_advance (db : Database) (phase : Phase) (action : StartAction) :
    db.tables ⊆ (advance contract baseline db phase action).2.tables := by
  unfold advance
  split
  case h_4 next lost =>
    split
    · exact List.Subset.refl _
    · split
      · exact List.Subset.refl _
      · next hexecute => exact Database.subset_of_execute hexecute
  all_goals exact List.Subset.refl _

/-- **A process knows what it is entitled to.** -/
theorem knows_advance {db : Database} {phase : Phase} {action : StartAction}
    (h : phase.Knows contract db) (hanswer : action.Answers db) :
    (advance contract baseline db phase action).1.Knows contract
      (advance contract baseline db phase action).2 := by
  unfold advance
  split
  · trivial
  · trivial
  · dsimp only
    split
    · split <;> trivial
    · trivial
  · split
    · trivial
    · split
      · trivial
      · dsimp only
        split <;> trivial
  · exact ⟨db, List.Subset.refl _, hanswer⟩
  · obtain ⟨db₁, hsub, hreads⟩ := h
    exact ⟨db₁, db, hsub, List.Subset.refl _, hreads, hanswer⟩
  · obtain ⟨db₁, db₂, h₁₂, h₂₃, hcolumns, hindexes⟩ := h
    dsimp only
    split
    · next hnone =>
      exact conforms_of_compareContract h₁₂ h₂₃ hcolumns hindexes hanswer
        (List.isEmpty_iff.mp hnone)
    · trivial
  · exact h

/-- **Every step leaves every process with what it is entitled to.** -/
theorem knows_step {s : Starts ι} (h : ∀ i, (s.phase i).Knows contract s.db)
    {a : ι × StartAction} (hanswer : Answered s a) (i : ι) :
    ((step contract baseline s a).phase i).Knows contract (step contract baseline s a).db := by
  by_cases hi : i = a.1
  · rw [hi, phase_step_self]
    exact knows_advance (h a.1) hanswer
  · rw [phase_step_of_ne contract baseline s a hi]
    exact (h i).mono (subset_of_advance s.db (s.phase a.1) a.2)

/-! ## Who completes the baseline -/

/-- The process has got past a statement of the baseline. -/
def Phase.past (n : ℕ) : Phase → Bool
  | .bootstrapping next => decide (n < next)
  | .readingColumns status => status == .bootstrappedEmpty
  | .readingIndexes status _ => status == .bootstrappedEmpty
  | .readingForeignKeys status _ _ => status == .bootstrappedEmpty
  | .passed status => status == .bootstrappedEmpty
  | .failed => false
  | .counting _ => false

/-- **Who gets past the creation of a table has made it**, or was past it. -/
theorem past_advance {n : ℕ} {t : TableDef} (hn : baseline[n]? = some (.createTable t))
    {db : Database} {phase : Phase} {action : StartAction}
    (h : (advance contract baseline db phase action).1.past n = true) :
    phase.past n = true ∨ ¬ db.HasTable t.name
      ∧ (advance contract baseline db phase action).2.HasTable t.name := by
  unfold advance at h ⊢
  split at h
  · exact absurd h Bool.false_ne_true
  · exact absurd h Bool.false_ne_true
  · split at h
    · split at h
      · exact absurd h (by simp [Phase.past])
      · exact absurd h Bool.false_ne_true
    · exact absurd h (by simp [Phase.past])
  · next next lost =>
    cases hnext : baseline[next]? with
    | none =>
      have hlt : n < next := by
        have hlen := List.getElem?_eq_none_iff.mp hnext
        obtain ⟨hin, -⟩ := List.getElem?_eq_some_iff.mp hn
        omega
      exact Or.inl (decide_eq_true hlt)
    | some statement =>
      rw [hnext] at h
      dsimp only at h ⊢
      cases hexecute : db.execute statement with
      | none =>
        rw [hexecute] at h
        exact absurd h Bool.false_ne_true
      | some db' =>
        rw [hexecute] at h
        dsimp only at h ⊢
        split at h
        · exact absurd h Bool.false_ne_true
        · have hle : n < next + 1 := of_decide_eq_true h
          by_cases hlt : n < next
          · exact Or.inl (decide_eq_true hlt)
          · obtain rfl : n = next := by omega
            obtain rfl := Option.some.inj (hn.symm.trans hnext)
            exact Or.inr (Database.of_execute_createTable hexecute)
  · exact Or.inl h
  · exact Or.inl h
  · split at h
    · exact Or.inl h
    · exact absurd h Bool.false_ne_true
  · exact Or.inl h

/-- **Only one process is past the creation of a table**, and the table is there. -/
structure OnePast (n : ℕ) (t : TableDef) (s : Starts ι) : Prop where
  made : ∀ i, (s.phase i).past n = true → s.db.HasTable t.name
  one : ∀ i j, (s.phase i).past n = true → (s.phase j).past n = true → i = j

theorem onePast_step {n : ℕ} {t : TableDef} (hn : baseline[n]? = some (.createTable t))
    {s : Starts ι} (h : OnePast n t s) (a : ι × StartAction) :
    OnePast n t (step contract baseline s a) := by
  have hsub : s.db.tables ⊆ (step contract baseline s a).db.tables :=
    subset_of_advance s.db (s.phase a.1) a.2
  -- who is past it now was before, or has just made the table
  have hpast : ∀ i, ((step contract baseline s a).phase i).past n = true →
      (s.phase i).past n = true ∨ i = a.1 ∧ ¬ s.db.HasTable t.name
        ∧ (step contract baseline s a).db.HasTable t.name := by
    intro i hi
    by_cases hia : i = a.1
    · rw [hia, phase_step_self] at hi
      rw [hia]
      exact (past_advance hn hi).imp_right fun hmade => ⟨rfl, hmade⟩
    · rw [phase_step_of_ne contract baseline s a hia] at hi
      exact Or.inl hi
  refine ⟨fun i hi => ?_, fun i j hi hj => ?_⟩
  · rcases hpast i hi with hold | ⟨-, -, hmade⟩
    · exact (h.made i hold).mono hsub
    · exact hmade
  · rcases hpast i hi with hiold | ⟨hia, hnone, -⟩
    · rcases hpast j hj with hjold | ⟨-, hnone, -⟩
      · exact h.one i j hiold hjold
      · exact absurd (h.made i hiold) hnone
    · rcases hpast j hj with hjold | ⟨hja, -, -⟩
      · exact absurd (h.made j hjold) hnone
      · exact hia.trans hja.symm

/-- **The outcome of many starts**: who serves does so from a database that
conforms, and one at most has made it. -/
structure StartsSound (contract : Contract) (s : Starts ι) : Prop where
  conforms : ∀ i status, s.phase i = .passed status → Conforms contract s.db
  once : ∀ i j, s.phase i = .passed .bootstrappedEmpty →
    s.phase j = .passed .bootstrappedEmpty → i = j

namespace Sample

/-- A table of one column. -/
def nodesTable : TableDef where
  name := "nodes"
  columns := [⟨"id", "CHAR(36)", false, none, ""⟩]
  indexes := []
  foreignKeys := []
  columns_ne := List.cons_ne_nil _ _
  columns_nodup := List.nodup_singleton _
  indexes_nodup := List.nodup_nil
  foreignKeys_nodup := List.nodup_nil

/-- The contract asks for it. -/
def nodesContract : Contract := ⟨[("nodes", ⟨[("id", ⟨"char(36)", false, none, ""⟩)], [], []⟩)]⟩

/-- A database without tables. -/
def noTables : Database := ⟨[], [], List.nodup_nil⟩

/-- One with the table. -/
def oneTable : Database := ⟨[nodesTable], [], List.nodup_singleton _⟩

/-- What the catalogue has of it. -/
def nodesRows : List ColumnRow := [⟨"nodes", "id", "CHAR(36)", "NO", none, ""⟩]

/-- The catalogue of a database with that table alone. -/
theorem reads_nodes {db : Database} (h : db.tables = [nodesTable]) :
    db.ReadsColumns nodesRows ∧ db.ReadsIndexes [] ∧ db.ReadsForeignKeys [] := by
  unfold Database.ReadsColumns Database.ReadsIndexes Database.ReadsForeignKeys Database.parts
  rw [h]
  exact ⟨⟨List.Perm.refl _, List.pairwise_singleton _ _⟩, ⟨List.Perm.nil, List.Pairwise.nil⟩,
    ⟨List.Perm.nil, List.Pairwise.nil⟩⟩

/-- Two processes find no table; one is faster, and the other fails. -/
def twoStarts : List (Bool × StartAction) :=
  [(true, .start true), (false, .start true), (true, .count), (false, .count),
    (true, .statement false), (false, .statement false), (true, .statement false),
    (true, .columns nodesRows), (true, .indexes []), (true, .foreignKeys [])]

end Sample

-- the faster one serves
example : ((Run.after (step Sample.nodesContract [.createTable Sample.nodesTable])
      (Starts.quiet Sample.noTables) Sample.twoStarts).phase true).past 0 = true := by
  decide +kernel

/-! ## A database that has tables -/

/-- The process has only looked at the database, and has found tables. -/
def Phase.Looking : Phase → Prop
  | .bootstrapping _ => False
  | .readingColumns status => status = .verifiedExisting
  | .readingIndexes status _ => status = .verifiedExisting
  | .readingForeignKeys status _ _ => status = .verifiedExisting
  | .passed status => status = .verifiedExisting
  | .failed => True
  | .counting _ => True

/-- **Who finds tables leaves them alone.** -/
theorem looking_advance {db : Database} (hpopulated : db.tables ≠ []) {phase : Phase}
    (h : phase.Looking) (action : StartAction) :
    (advance contract baseline db phase action).1.Looking
      ∧ (advance contract baseline db phase action).2 = db := by
  unfold advance
  split
  · exact ⟨trivial, rfl⟩
  · exact ⟨trivial, rfl⟩
  · refine ⟨?_, rfl⟩
    rw [if_neg (by simpa using hpopulated)]
    rfl
  · exact absurd h id
  · exact ⟨h, rfl⟩
  · exact ⟨h, rfl⟩
  · refine ⟨?_, rfl⟩
    dsimp only
    split
    · exact h
    · trivial
  · exact ⟨h, rfl⟩

/-- A start that is not interrupted. -/
def wholeStart (i : ι) (bootstraps : Bool) (columns : List ColumnRow) (indexes : List IndexRow)
    (foreignKeys : List ForeignKeyRow) : List (ι × StartAction) :=
  [(i, .start bootstraps), (i, .count), (i, .columns columns), (i, .indexes indexes),
    (i, .foreignKeys foreignKeys)]

/-- A process does what it does whoever else there is. -/
theorem after_own (s : Starts ι) (i : ι) (actions : List StartAction) :
    ((Run.after (step contract baseline) s (actions.map (Prod.mk i))).phase i,
        (Run.after (step contract baseline) s (actions.map (Prod.mk i))).db)
      = actions.foldl (fun p a => advance contract baseline p.2 p.1 a) (s.phase i, s.db) := by
  induction actions generalizing s with
  | nil => rfl
  | cons a rest ih =>
    rw [List.map_cons, Run.after_cons, ih, List.foldl_cons]
    refine congrArg (fun p => rest.foldl _ p) (Prod.ext ?_ rfl)
    exact Function.update_self _ _ _

/-- **A whole start on a database with tables ends well just if that conforms.** -/
theorem passed_iff_conforms {s : Starts ι} (hpopulated : s.db.tables ≠ []) (i : ι)
    (bootstraps : Bool) {columns : List ColumnRow} {indexes : List IndexRow}
    {foreignKeys : List ForeignKeyRow} (hcolumns : s.db.ReadsColumns columns)
    (hindexes : s.db.ReadsIndexes indexes) (hkeys : s.db.ReadsForeignKeys foreignKeys) :
    (Run.after (step contract baseline) s
        (wholeStart i bootstraps columns indexes foreignKeys)).phase i
        = .passed .verifiedExisting
      ↔ Conforms contract s.db := by
  have hown := congrArg Prod.fst (@after_own ι _ contract baseline s i
    [.start bootstraps, .count, .columns columns, .indexes indexes, .foreignKeys foreignKeys])
  have hempty : s.db.tables.isEmpty = false := by simpa using hpopulated
  refine (Eq.congr_left hown).trans ?_
  rw [← compareContract_eq_nil_iff hcolumns hindexes hkeys, ← List.isEmpty_iff]
  simp only [List.foldl_cons, List.foldl_nil, advance, hempty, Bool.false_eq_true, if_false]
  split
  · next h => exact iff_of_true rfl h
  · next h => exact iff_of_false (by simp) h

/-- **The database is as it was**, and every process has only looked at it. -/
structure Untouched (contract : Contract) (db : Database) (s : Starts ι) : Prop where
  db_eq : s.db = db
  looking : ∀ i, (s.phase i).Looking
  knows : ∀ i, (s.phase i).Knows contract db

theorem untouched_step {db : Database} (hpopulated : db.tables ≠ []) {s : Starts ι}
    (h : Untouched contract db s) {a : ι × StartAction} (hanswer : Answered s a) :
    Untouched contract db (step contract baseline s a) := by
  obtain ⟨rfl, hlooking, hknows⟩ := h
  obtain ⟨hlook, hsame⟩ := @looking_advance contract baseline s.db hpopulated _ (hlooking a.1) a.2
  refine ⟨hsame, fun i => ?_, fun i => ?_⟩
  · by_cases hi : i = a.1
    · rw [hi, phase_step_self]
      exact hlook
    · rw [phase_step_of_ne contract baseline s a hi]
      exact hlooking i
  · have hstep := @knows_step ι _ contract baseline s hknows a hanswer i
    have hdb : (step contract baseline s a).db = s.db := hsame
    rwa [hdb] at hstep

/-- **A database that has a table is untouched**, and the starts on it tell what it
is: in every run it stays as it was, who serves has only verified it and finds it
conforming, and a whole start of any process, at any time, ends well just if it
conforms. -/
theorem populated_is_untouched {db : Database} (hpopulated : db.tables ≠ [])
    {actions : List (ι × StartAction)}
    (hrun : Run.Along (step contract baseline) Answered (Starts.quiet db) actions) :
    let s := Run.after (step contract baseline) (Starts.quiet db) actions
    s.db = db
      ∧ (∀ i status, s.phase i = .passed status →
        status = .verifiedExisting ∧ Conforms contract db)
      ∧ ∀ i bootstraps columns indexes foreignKeys, db.ReadsColumns columns →
        db.ReadsIndexes indexes → db.ReadsForeignKeys foreignKeys →
        ((Run.after (step contract baseline) s
            (wholeStart i bootstraps columns indexes foreignKeys)).phase i
            = .passed .verifiedExisting
          ↔ Conforms contract db) := by
  intro s
  have hinv : Untouched contract db s := by
    have hstep : ∀ (s : Starts ι) (a : ι × StartAction), Untouched contract db s →
        Answered s a → Untouched contract db (step contract baseline s a) :=
      fun s a h hanswer => untouched_step hpopulated h hanswer
    exact Run.invariant_along hstep ⟨rfl, fun _ => trivial, fun _ => trivial⟩ hrun
  obtain ⟨hdb, hlooking, hknows⟩ := hinv
  refine ⟨hdb, fun i status hi => ?_, ?_⟩
  · have hlook := hlooking i
    have hknow := hknows i
    rw [hi] at hlook hknow
    exact ⟨hlook, hknow⟩
  · intro i bootstraps columns indexes foreignKeys hcolumns hindexes hkeys
    rw [← hdb] at hpopulated hcolumns hindexes hkeys ⊢
    exact passed_iff_conforms hpopulated i bootstraps hcolumns hindexes hkeys

theorem populated_is_untouched_sample :
    Sample.oneTable.tables ≠ []
      ∧ (Run.after (step Sample.nodesContract []) (Starts.quiet Sample.oneTable)
        [(true, .start true), (true, .count)]).db = Sample.oneTable :=
  have hrun : Run.Along (step Sample.nodesContract []) Answered (Starts.quiet Sample.oneTable)
      [(true, .start true), (true, .count)] := ⟨trivial, trivial, trivial⟩
  ⟨List.cons_ne_nil _ _, (populated_is_untouched (List.cons_ne_nil _ _) hrun).1⟩

end SchemaGate
