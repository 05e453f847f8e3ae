import IicpDirectory.Foundations.Catalogue
import IicpDirectory.Foundations.Keyed
import IicpDirectory.Operators
import Mathlib.Data.Int.ConditionallyCompleteOrder

/-!
# The contract of the database schema

A directory serves from a database only if that has what its contract asks for:
every table, with every column, index and foreign key as they are described.
It reads the catalogue of the database, three lists of rows one after the
other, builds up the tables from them in three loops, and compares these with the
contract. What the database has beside is let be.

The comparison finds nothing just if the database conforms to the contract
(`compareContract_eq_nil_iff`), in whatever order the rows come that a query with
that `ORDER BY` may return. The three lists need not be of one moment: if the
database only gains tables in between, it conforms when nothing is found.
-/

open Catalogue

namespace SchemaGate

/-! ## The database -/

/-- A column. -/
structure Column where
  name : String
  columnType : String
  nullable : Bool
  default : Option String
  extra : String

/-- An index: its columns, in their order. -/
structure Index where
  name : String
  unique : Bool
  columns : List String
  columns_ne : columns ≠ []

/-- A foreign key: its columns, each with the one it refers to. -/
structure ForeignKey where
  name : String
  referencedTable : String
  columns : List (String × String)
  columns_ne : columns ≠ []

/-- **A table.** -/
structure TableDef where
  name : String
  columns : List Column
  indexes : List Index
  foreignKeys : List ForeignKey
  columns_ne : columns ≠ []
  columns_nodup : (columns.map Column.name).Nodup
  indexes_nodup : (indexes.map Index.name).Nodup
  foreignKeys_nodup : (foreignKeys.map ForeignKey.name).Nodup

/-- **A database**: its base tables, and the chains that have a head in
`node_event_chain_heads`. -/
structure Database where
  tables : List TableDef
  chainHeads : List String
  names_nodup : (tables.map TableDef.name).Nodup

/-! ## The catalogue -/

/-- A row of `information_schema.columns`. -/
structure ColumnRow where
  tableName : String
  columnName : String
  columnType : String
  isNullable : String
  columnDefault : Option String
  extra : String

/-- A row of `information_schema.statistics`. -/
structure IndexRow where
  tableName : String
  indexName : String
  nonUnique : ℤ
  seqInIndex : ℤ
  columnName : String

/-- A row of `information_schema.key_column_usage`. -/
structure ForeignKeyRow where
  tableName : String
  constraintName : String
  ordinalPosition : ℤ
  columnName : String
  referencedTableName : String
  referencedColumnName : String

/-- The row of a column. -/
def Column.rows (e : String × Column) : List ColumnRow :=
  [⟨e.1, e.2.name, e.2.columnType, if e.2.nullable then "YES" else "NO", e.2.default, e.2.extra⟩]

/-- The rows of an index. -/
def Index.rows (e : String × Index) : List IndexRow :=
  e.2.columns.zipIdx.map fun c => ⟨e.1, e.2.name, if e.2.unique then 0 else 1, c.2 + 1, c.1⟩

/-- The rows of a foreign key. -/
def ForeignKey.rows (e : String × ForeignKey) : List ForeignKeyRow :=
  e.2.columns.zipIdx.map fun c =>
    ⟨e.1, e.2.name, c.2 + 1, c.1.1, e.2.referencedTable, c.1.2⟩

/-- The parts of the tables, each with the name of its table. -/
def Database.parts {π : Type} (db : Database) (of : TableDef → List π) : List (String × π) :=
  db.tables.flatMap fun t => (of t).map fun p => (t.name, p)

/-- What a part is found by: its table and its name. -/
def keyed {π : Type} (name : π → String) (e : String × π) : String × String := (e.1, name e.2)

def ColumnRow.key (r : ColumnRow) : String × String := (r.tableName, r.columnName)

def IndexRow.key (r : IndexRow) : String × String := (r.tableName, r.indexName)

def ForeignKeyRow.key (r : ForeignKeyRow) : String × String := (r.tableName, r.constraintName)

/-- **What the query for the columns may return.** -/
def Database.ReadsColumns (db : Database) (rows : List ColumnRow) : Prop :=
  Reads (db.parts TableDef.columns) Column.rows ColumnRow.key (fun _ => (0 : ℤ)) rows

/-- **What the query for the indexes may return**, ordered by the position in the
index. -/
def Database.ReadsIndexes (db : Database) (rows : List IndexRow) : Prop :=
  Reads (db.parts TableDef.indexes) Index.rows IndexRow.key IndexRow.seqInIndex rows

/-- **What the query for the foreign keys may return**, ordered by the position
in the key. -/
def Database.ReadsForeignKeys (db : Database) (rows : List ForeignKeyRow) : Prop :=
  Reads (db.parts TableDef.foreignKeys) ForeignKey.rows ForeignKeyRow.key
    ForeignKeyRow.ordinalPosition rows

theorem mem_parts {π : Type} {db : Database} {of : TableDef → List π} {e : String × π} :
    e ∈ db.parts of ↔ ∃ t ∈ db.tables, t.name = e.1 ∧ e.2 ∈ of t := by
  unfold Database.parts
  rw [List.mem_flatMap]
  refine exists_congr fun t => and_congr_right fun _ => ?_
  rw [List.mem_map]
  constructor
  · rintro ⟨p, hp, rfl⟩
    exact ⟨rfl, hp⟩
  · rintro ⟨hname, hp⟩
    exact ⟨e.2, hp, Prod.ext hname rfl⟩

/-- The parts of a table that is found. -/
theorem exists_of_parts {π : Type} {db : Database} {of : TableDef → List π} {name : π → String}
    {k : String × String} {P : π → Prop} :
    (∃ e ∈ db.parts of, keyed name e = k ∧ P e.2)
      ↔ ∃ t ∈ db.tables, t.name = k.1 ∧ ∃ p ∈ of t, name p = k.2 ∧ P p := by
  constructor
  · rintro ⟨e, he, rfl, hp⟩
    obtain ⟨t, ht, hname, hmem⟩ := mem_parts.mp he
    exact ⟨t, ht, hname, e.2, hmem, rfl, hp⟩
  · rintro ⟨t, ht, hname, p, hmem, hpname, hp⟩
    exact ⟨(k.1, p), mem_parts.mpr ⟨t, ht, hname, hmem⟩, Prod.ext rfl hpname, hp⟩

/-- Parts of distinct names in tables of distinct names. -/
theorem nodup_parts {π : Type} (db : Database) {of : TableDef → List π} {name : π → String}
    (h : ∀ t ∈ db.tables, ((of t).map name).Nodup) : ((db.parts of).map (keyed name)).Nodup := by
  unfold Database.parts
  rw [List.map_flatMap, List.nodup_flatMap]
  constructor
  · intro t ht
    rw [List.map_map]
    have hpair : (keyed name ∘ fun p => (t.name, p)) = Prod.mk t.name ∘ name := rfl
    rw [hpair, ← List.map_map]
    exact (h t ht).map (Prod.mk_right_injective t.name)
  · have htables := db.names_nodup
    rw [List.Nodup, List.pairwise_map] at htables
    refine htables.imp fun {t t'} hne => List.disjoint_left.mpr ?_
    intro k hk hk'
    simp only [List.map_map] at hk hk'
    obtain ⟨p, -, rfl⟩ := List.mem_map.mp hk
    obtain ⟨p', -, heq⟩ := List.mem_map.mp hk'
    exact hne (congrArg Prod.fst heq).symm

/-- The columns are a catalogue. -/
theorem lists_columns (db : Database) :
    Lists (db.parts TableDef.columns) (keyed Column.name) Column.rows ColumnRow.key
      (fun _ => (0 : ℤ)) where
  names := nodup_parts db fun t _ => t.columns_nodup
  named := by
    intro e _ r hr
    obtain rfl := List.mem_singleton.mp hr
    rfl
  numbered _ _ := List.pairwise_singleton _ _

/-- The numbers of the columns of an index go up. -/
theorem pairwise_zipIdx {α β : Type} (l : List α) {f : α × ℕ → β} {number : β → ℤ}
    (h : ∀ c, number (f c) = c.2 + 1) :
    (l.zipIdx.map f).Pairwise fun r r' => number r < number r' := by
  have hnumbers : (l.zipIdx.map Prod.snd).Pairwise (· < ·) := by
    rw [List.zipIdx_map_snd]
    exact List.pairwise_lt_range'
  rw [List.pairwise_map] at hnumbers ⊢
  refine hnumbers.imp fun hlt => ?_
  rw [h, h]
  omega

/-- So are the indexes. -/
theorem lists_indexes (db : Database) :
    Lists (db.parts TableDef.indexes) (keyed Index.name) Index.rows IndexRow.key
      IndexRow.seqInIndex where
  names := nodup_parts db fun t _ => t.indexes_nodup
  named := by
    intro e _ r hr
    obtain ⟨c, -, rfl⟩ := List.mem_map.mp hr
    rfl
  numbered e _ := pairwise_zipIdx e.2.columns fun _ => rfl

/-- And the foreign keys. -/
theorem lists_foreignKeys (db : Database) :
    Lists (db.parts TableDef.foreignKeys) (keyed ForeignKey.name) ForeignKey.rows
      ForeignKeyRow.key ForeignKeyRow.ordinalPosition where
  names := nodup_parts db fun t _ => t.foreignKeys_nodup
  named := by
    intro e _ r hr
    obtain ⟨c, -, rfl⟩ := List.mem_map.mp hr
    rfl
  numbered e _ := pairwise_zipIdx e.2.columns fun _ => rfl

/-! ## The contract -/

/-- `ColumnContract`. -/
structure ColumnContract where
  columnType : String
  nullable : Bool
  default : Option String
  extra : String

/-- `IndexContract`. -/
structure IndexContract where
  unique : Bool
  columns : List String

/-- `ForeignKeyContract`. -/
structure ForeignKeyContract where
  columns : List String
  referencedTable : String
  referencedColumns : List String

/-- `TableContract`. -/
structure TableContract where
  columns : List (String × ColumnContract)
  indexes : List (String × IndexContract)
  foreignKeys : List (String × ForeignKeyContract)

/-- **`Contract`.** -/
structure Contract where
  tables : List (String × TableContract)

/-- `normalize`. -/
def normalize (value : String) : String :=
  String.ofList ((trimChars value.toList).map Char.toLower)

/-- `str::replace`, of what is not empty: what is found is skipped. -/
def replaceFrom (found new : List Char) : ℕ → List Char → List Char
  | _, [] => []
  | skip + 1, _ :: rest => replaceFrom found new skip rest
  | 0, c :: rest =>
    if found.isPrefixOf (c :: rest) then new ++ replaceFrom found new (found.length - 1) rest
    else c :: replaceFrom found new 0 rest

/-- `normalize_default`. -/
def normalizeDefault (value : String) : String :=
  String.ofList (replaceFrom "current_timestamp()".toList "current_timestamp".toList 0
    (normalize value).toList)

/-! ## Loading -/

/-- `ActualTable`. -/
structure ActualTable where
  columns : String → Option ColumnContract
  indexes : String → Option IndexContract
  foreignKeys : String → Option ForeignKeyContract

/-- `ActualTable::default`. -/
def ActualTable.empty : ActualTable := ⟨fun _ => none, fun _ => none, fun _ => none⟩

/-- The tables that were built up, by their names. -/
abbrev ActualSchema : Type := String → Option ActualTable

/-- What a row of a column is entered as. -/
def ColumnRow.contract (row : ColumnRow) : ColumnContract where
  columnType := normalize row.columnType
  nullable := row.isNullable == "YES"
  default := row.columnDefault.map normalizeDefault
  extra := normalize row.extra

/-- `load_columns`. -/
def loadColumns (rows : List ColumnRow) (actual : ActualSchema) : ActualSchema :=
  rows.foldl (fun actual row => entry actual row.tableName .empty fun table =>
    { table with
      columns := Function.update table.columns row.columnName (some row.contract) }) actual

/-- The index of a row, without columns. -/
def IndexRow.opened (row : IndexRow) : IndexContract := ⟨row.nonUnique == 0, []⟩

/-- A row adds its column to an index. -/
def IndexRow.push (row : IndexRow) (index : IndexContract) : IndexContract :=
  { index with columns := index.columns ++ [row.columnName] }

/-- `load_indexes`. -/
def loadIndexes (rows : List IndexRow) (actual : ActualSchema) : ActualSchema :=
  rows.foldl (fun actual row => entry actual row.tableName .empty fun table =>
    { table with
      indexes := entry table.indexes row.indexName row.opened row.push }) actual

/-- The foreign key of a row, without columns. -/
def ForeignKeyRow.opened (row : ForeignKeyRow) : ForeignKeyContract :=
  ⟨[], row.referencedTableName, []⟩

/-- A row adds its columns to a foreign key. -/
def ForeignKeyRow.push (row : ForeignKeyRow) (key : ForeignKeyContract) : ForeignKeyContract :=
  { key with
    columns := key.columns ++ [row.columnName]
    referencedColumns := key.referencedColumns ++ [row.referencedColumnName] }

/-- `load_foreign_keys`. -/
def loadForeignKeys (rows : List ForeignKeyRow) (actual : ActualSchema) : ActualSchema :=
  rows.foldl (fun actual row => entry actual row.tableName .empty fun table =>
    { table with
      foreignKeys := entry table.foreignKeys row.constraintName row.opened row.push }) actual

/-- **`load_actual_schema`**, of what the three queries return. -/
def loadActualSchema (columns : List ColumnRow) (indexes : List IndexRow)
    (foreignKeys : List ForeignKeyRow) : ActualSchema :=
  loadForeignKeys foreignKeys (loadIndexes indexes (loadColumns columns fun _ => none))

/-! ## Comparing -/

/-- `compare_column_shape`. -/
def compareColumnShape (tableName columnName : String) (expected found : ColumnContract) :
    List String :=
  (if normalize expected.columnType ≠ found.columnType then
      ["column type mismatch " ++ tableName ++ "." ++ columnName] else [])
    ++ if expected.nullable ≠ found.nullable then
      ["column nullability mismatch " ++ tableName ++ "." ++ columnName] else []

/-- `compare_column_storage`. -/
def compareColumnStorage (tableName columnName : String) (expected found : ColumnContract) :
    List String :=
  (if expected.default.map normalizeDefault ≠ found.default.map normalizeDefault then
      ["column default mismatch " ++ tableName ++ "." ++ columnName] else [])
    ++ if normalize expected.extra ≠ found.extra then
      ["column extra mismatch " ++ tableName ++ "." ++ columnName] else []

/-- `compare_columns`. -/
def compareColumns (tableName : String) (expected : List (String × ColumnContract))
    (actual : ActualTable) : List String :=
  expected.flatMap fun e =>
    match actual.columns e.1 with
    | some found =>
      compareColumnShape tableName e.1 e.2 found ++ compareColumnStorage tableName e.1 e.2 found
    | none => ["missing column " ++ tableName ++ "." ++ e.1]

/-- `index_matches`. -/
def indexMatches (found expected : IndexContract) : Bool :=
  decide ((found.unique, found.columns) = (expected.unique, expected.columns))

/-- `compare_indexes`. -/
def compareIndexes (tableName : String) (expected : List (String × IndexContract))
    (actual : ActualTable) : List String :=
  expected.flatMap fun e =>
    match actual.indexes e.1 with
    | some found =>
      if indexMatches found e.2 then [] else ["index mismatch " ++ tableName ++ "." ++ e.1]
    | none => ["missing index " ++ tableName ++ "." ++ e.1]

/-- `foreign_key_matches`. -/
def foreignKeyMatches (found expected : ForeignKeyContract) : Bool :=
  decide ((found.columns, found.referencedTable, found.referencedColumns)
    = (expected.columns, expected.referencedTable, expected.referencedColumns))

/-- `compare_foreign_keys`. -/
def compareForeignKeys (tableName : String) (expected : List (String × ForeignKeyContract))
    (actual : ActualTable) : List String :=
  expected.flatMap fun e =>
    match actual.foreignKeys e.1 with
    | some found =>
      if foreignKeyMatches found e.2 then []
      else ["foreign key mismatch " ++ tableName ++ "." ++ e.1]
    | none => ["missing foreign key " ++ tableName ++ "." ++ e.1]

/-- `compare_table`. -/
def compareTable (tableName : String) (expected : TableContract) (actual : ActualTable) :
    List String :=
  compareColumns tableName expected.columns actual
    ++ compareIndexes tableName expected.indexes actual
    ++ compareForeignKeys tableName expected.foreignKeys actual

/-- **`compare_contract`.** -/
def compareContract (contract : Contract) (actual : ActualSchema) : List String :=
  contract.tables.flatMap fun e =>
    match actual e.1 with
    | some table => compareTable e.1 e.2 table
    | none => ["missing table " ++ e.1]

/-! ## What is loaded -/

/-- A column as it is loaded. -/
def Column.contract (c : Column) : ColumnContract where
  columnType := normalize c.columnType
  nullable := c.nullable
  default := c.default.map normalizeDefault
  extra := normalize c.extra

/-- An index as it is loaded. -/
def Index.contract (i : Index) : IndexContract := ⟨i.unique, i.columns⟩

/-- A foreign key as it is loaded. -/
def ForeignKey.contract (k : ForeignKey) : ForeignKeyContract :=
  ⟨k.columns.map Prod.fst, k.referencedTable, k.columns.map Prod.snd⟩

/-- The column that is found. -/
def columnOf (actual : ActualSchema) (k : String × String) : Option ColumnContract :=
  (actual k.1).bind fun table => table.columns k.2

/-- The index that is found. -/
def indexOf (actual : ActualSchema) (k : String × String) : Option IndexContract :=
  (actual k.1).bind fun table => table.indexes k.2

/-- The foreign key that is found. -/
def foreignKeyOf (actual : ActualSchema) (k : String × String) : Option ForeignKeyContract :=
  (actual k.1).bind fun table => table.foreignKeys k.2

/-- A row concerns what has its table and its name. -/
theorem ite_key {β : Type} (k : String × String) (tableName name : String) (a b : β) :
    (if k.1 = tableName then if k.2 = name then a else b else b)
      = if decide ((tableName, name) = k) = true then a else b := by
  obtain ⟨t, n⟩ := k
  rw [← ite_and]
  refine if_congr ?_ rfl rfl
  rw [decide_eq_true_eq, Prod.mk.injEq]
  exact and_congr eq_comm eq_comm

/-- The columns that are found after the rows of columns: the last row counts. -/
theorem columnOf_loadColumns (rows : List ColumnRow) (actual : ActualSchema)
    (k : String × String) :
    columnOf (loadColumns rows actual) k
      = (rows.filter fun r => r.key = k).foldl (fun _ r => some r.contract) (columnOf actual k) := by
  refine Keyed.view_foldl columnOf (fun r k => decide (r.key = k)) (fun _ _ r => some r.contract)
    (fun actual r k => ?_) actual rows k
  have hview : ∀ b : ActualTable, Function.update b.columns r.columnName (some r.contract) k.2
      = if k.2 = r.columnName then some r.contract else b.columns k.2 :=
    fun b => Function.update_apply _ _ _ _
  unfold columnOf
  rw [bind_entry (g := fun v => if k.2 = r.columnName then some r.contract else v) rfl hview]
  exact ite_key k r.tableName r.columnName _ _

/-- A row changes an index that is there, or opens it. -/
def IndexRow.enter (row : IndexRow) (v : Option IndexContract) : Option IndexContract :=
  some (row.push (v.getD row.opened))

/-- The indexes that are found after the rows of indexes. -/
theorem indexOf_loadIndexes (rows : List IndexRow) (actual : ActualSchema) (k : String × String) :
    indexOf (loadIndexes rows actual) k
      = (rows.filter fun r => r.key = k).foldl (fun v r => r.enter v) (indexOf actual k) := by
  refine Keyed.view_foldl indexOf (fun r k => decide (r.key = k)) (fun _ v r => r.enter v)
    (fun actual r k => ?_) actual rows k
  have hview : ∀ b : ActualTable, entry b.indexes r.indexName r.opened r.push k.2
      = if k.2 = r.indexName then r.enter (b.indexes k.2) else b.indexes k.2 :=
    fun b => entry_apply _ _ _ _ _
  unfold indexOf
  rw [bind_entry (g := fun v => if k.2 = r.indexName then r.enter v else v) rfl hview]
  exact ite_key k r.tableName r.indexName _ _

/-- A row changes a foreign key that is there, or opens it. -/
def ForeignKeyRow.enter (row : ForeignKeyRow) (v : Option ForeignKeyContract) :
    Option ForeignKeyContract :=
  some (row.push (v.getD row.opened))

/-- The foreign keys that are found after the rows of foreign keys. -/
theorem foreignKeyOf_loadForeignKeys (rows : List ForeignKeyRow) (actual : ActualSchema)
    (k : String × String) :
    foreignKeyOf (loadForeignKeys rows actual) k
      = (rows.filter fun r => r.key = k).foldl (fun v r => r.enter v) (foreignKeyOf actual k) := by
  refine Keyed.view_foldl foreignKeyOf (fun r k => decide (r.key = k)) (fun _ v r => r.enter v)
    (fun actual r k => ?_) actual rows k
  have hview : ∀ b : ActualTable, entry b.foreignKeys r.constraintName r.opened r.push k.2
      = if k.2 = r.constraintName then r.enter (b.foreignKeys k.2) else b.foreignKeys k.2 :=
    fun b => entry_apply _ _ _ _ _
  unfold foreignKeyOf
  rw [bind_entry (g := fun v => if k.2 = r.constraintName then r.enter v else v) rfl hview]
  exact ite_key k r.tableName r.constraintName _ _

/-! ### What the other loops leave -/

/-- Rows that change another part of the tables. -/
theorem bind_foldl_entry {ρ γ : Type} {tableName : ρ → String} {f : ρ → ActualTable → ActualTable}
    {view : ActualTable → Option γ} (habsent : view .empty = none)
    (hf : ∀ r b, view (f r b) = view b) (rows : List ρ) (actual : ActualSchema) (t : String) :
    (rows.foldl (fun actual r => entry actual (tableName r) .empty (f r)) actual t).bind view
      = (actual t).bind view := by
  induction rows generalizing actual with
  | nil => rfl
  | cons r rest ih =>
    rw [List.foldl_cons, ih, bind_entry (g := id) habsent (hf r)]
    exact ite_self _

theorem bind_loadColumns {γ : Type} (view : ActualTable → Option γ) (habsent : view .empty = none)
    (hkept : ∀ (b : ActualTable) x, view { b with columns := x } = view b)
    (rows : List ColumnRow) (actual : ActualSchema) (t : String) :
    (loadColumns rows actual t).bind view = (actual t).bind view :=
  bind_foldl_entry habsent (fun _ b => hkept b _) rows actual t

theorem bind_loadIndexes {γ : Type} (view : ActualTable → Option γ) (habsent : view .empty = none)
    (hkept : ∀ (b : ActualTable) x, view { b with indexes := x } = view b)
    (rows : List IndexRow) (actual : ActualSchema) (t : String) :
    (loadIndexes rows actual t).bind view = (actual t).bind view :=
  bind_foldl_entry habsent (fun _ b => hkept b _) rows actual t

theorem bind_loadForeignKeys {γ : Type} (view : ActualTable → Option γ)
    (habsent : view .empty = none)
    (hkept : ∀ (b : ActualTable) x, view { b with foreignKeys := x } = view b)
    (rows : List ForeignKeyRow) (actual : ActualSchema) (t : String) :
    (loadForeignKeys rows actual t).bind view = (actual t).bind view :=
  bind_foldl_entry habsent (fun _ b => hkept b _) rows actual t

/-- A table is found if it was, or if a row is of it. -/
theorem isSome_foldl_entry {ρ : Type} {tableName : ρ → String}
    {f : ρ → ActualTable → ActualTable} (rows : List ρ) (actual : ActualSchema) (t : String) :
    (rows.foldl (fun actual r => entry actual (tableName r) .empty (f r)) actual t).isSome
      = ((actual t).isSome || rows.any fun r => tableName r == t) := by
  induction rows generalizing actual with
  | nil => exact (Bool.or_false _).symm
  | cons r rest ih =>
    rw [List.foldl_cons, ih, isSome_entry, List.any_cons, Bool.or_comm (decide _), Bool.or_assoc]
    refine congrArg (fun b => _ || (b || _)) ?_
    rw [Bool.eq_iff_iff, decide_eq_true_eq, beq_iff_eq, eq_comm]

/-! ### The parts of a database -/

section Load

variable {db : Database} {columns : List ColumnRow} {indexes : List IndexRow}
  {foreignKeys : List ForeignKeyRow}

/-- **The columns that are found are those of the database.** -/
theorem columnOf_load (hcolumns : db.ReadsColumns columns) {k : String × String}
    {found : ColumnContract} :
    columnOf (loadActualSchema columns indexes foreignKeys) k = some found
      ↔ ∃ t ∈ db.tables, t.name = k.1
        ∧ ∃ c ∈ t.columns, c.name = k.2 ∧ c.contract = found := by
  have hload : columnOf (loadActualSchema columns indexes foreignKeys) k
      = columnOf (loadColumns columns fun _ => none) k :=
    (bind_loadForeignKeys (fun table => table.columns k.2) rfl (fun _ _ => rfl) _ _ _).trans
      (bind_loadIndexes (fun table => table.columns k.2) rfl (fun _ _ => rfl) _ _ _)
  rw [hload, columnOf_loadColumns]
  refine (foldl_filter_eq_some_iff (lists_columns db) hcolumns fun e _ => ?_).trans
    (exists_of_parts (P := fun c : Column => c.contract = found))
  refine congrArg some ?_
  show (⟨normalize e.2.columnType, (if e.2.nullable then "YES" else "NO") == "YES",
    e.2.default.map normalizeDefault, normalize e.2.extra⟩ : ColumnContract) = _
  unfold Column.contract
  cases e.2.nullable <;> rfl

/-- The columns of an index are entered one after the other. -/
theorem foldl_enter_index (t name : String) (unique : Bool) (cols before : List String) (n : ℕ) :
    ((cols.zipIdx n).map fun c =>
        (⟨t, name, if unique then 0 else 1, c.2 + 1, c.1⟩ : IndexRow)).foldl
        (fun v r => r.enter v) (some ⟨unique, before⟩)
      = some ⟨unique, before ++ cols⟩ := by
  induction cols generalizing before n with
  | nil => rw [List.append_nil]; rfl
  | cons c rest ih =>
    rw [List.zipIdx_cons, List.map_cons, List.foldl_cons]
    refine (ih (before ++ [c]) (n + 1)).trans ?_
    rw [List.append_assoc]
    rfl

/-- **The indexes that are found are those of the database**, with their columns
in order. -/
theorem indexOf_load (hindexes : db.ReadsIndexes indexes) {k : String × String}
    {found : IndexContract} :
    indexOf (loadActualSchema columns indexes foreignKeys) k = some found
      ↔ ∃ t ∈ db.tables, t.name = k.1
        ∧ ∃ i ∈ t.indexes, i.name = k.2 ∧ i.contract = found := by
  have hload : indexOf (loadActualSchema columns indexes foreignKeys) k
      = indexOf (loadIndexes indexes (loadColumns columns fun _ => none)) k :=
    bind_loadForeignKeys (fun table => table.indexes k.2) rfl (fun _ _ => rfl) _ _ _
  have hstart : indexOf (loadColumns columns fun _ => none) k = none :=
    bind_loadColumns (fun table => table.indexes k.2) rfl (fun _ _ => rfl) _ _ _
  rw [hload, indexOf_loadIndexes, hstart]
  refine (foldl_filter_eq_some_iff (lists_indexes db) hindexes fun e _ => ?_).trans
    (exists_of_parts (P := fun i : Index => i.contract = found))
  unfold Index.rows Index.contract
  obtain ⟨c, rest, hcolumns⟩ := List.exists_cons_of_ne_nil e.2.columns_ne
  rw [hcolumns, List.zipIdx_cons, List.map_cons, List.foldl_cons]
  refine Eq.trans ?_ (foldl_enter_index e.1 e.2.name e.2.unique rest [c] 1)
  congr 1
  show some (⟨(if e.2.unique then (0 : ℤ) else 1) == 0, [c]⟩ : IndexContract) = _
  cases e.2.unique <;> rfl

/-- The columns of a foreign key are entered one after the other. -/
theorem foldl_enter_foreignKey (t name referenced : String) (cols : List (String × String))
    (before before' : List String) (n : ℕ) :
    ((cols.zipIdx n).map fun c =>
        (⟨t, name, c.2 + 1, c.1.1, referenced, c.1.2⟩ : ForeignKeyRow)).foldl
        (fun v r => r.enter v) (some ⟨before, referenced, before'⟩)
      = some ⟨before ++ cols.map Prod.fst, referenced, before' ++ cols.map Prod.snd⟩ := by
  induction cols generalizing before before' n with
  | nil =>
    rw [List.map_nil, List.map_nil, List.append_nil, List.append_nil]
    rfl
  | cons c rest ih =>
    rw [List.zipIdx_cons, List.map_cons, List.foldl_cons]
    refine (ih (before ++ [c.1]) (before' ++ [c.2]) (n + 1)).trans ?_
    rw [List.append_assoc, List.append_assoc]
    rfl

/-- **The foreign keys that are found are those of the database**, with their
columns in order. -/
theorem foreignKeyOf_load (hkeys : db.ReadsForeignKeys foreignKeys) {k : String × String}
    {found : ForeignKeyContract} :
    foreignKeyOf (loadActualSchema columns indexes foreignKeys) k = some found
      ↔ ∃ t ∈ db.tables, t.name = k.1
        ∧ ∃ key ∈ t.foreignKeys, key.name = k.2 ∧ key.contract = found := by
  have hstart : foreignKeyOf (loadIndexes indexes (loadColumns columns fun _ => none)) k = none :=
    (bind_loadIndexes (fun table => table.foreignKeys k.2) rfl (fun _ _ => rfl) _ _ _).trans
      (bind_loadColumns (fun table => table.foreignKeys k.2) rfl (fun _ _ => rfl) _ _ _)
  rw [loadActualSchema, foreignKeyOf_loadForeignKeys, hstart]
  refine (foldl_filter_eq_some_iff (lists_foreignKeys db) hkeys fun e _ => ?_).trans
    (exists_of_parts (P := fun key : ForeignKey => key.contract = found))
  unfold ForeignKey.rows ForeignKey.contract
  obtain ⟨c, rest, hcolumns⟩ := List.exists_cons_of_ne_nil e.2.columns_ne
  rw [hcolumns, List.zipIdx_cons, List.map_cons, List.foldl_cons]
  exact foldl_enter_foreignKey e.1 e.2.name e.2.referencedTable rest [c.1] [c.2] 1

/-- **A table is found** if a column, an index or a foreign key of it is. -/
theorem isSome_load (columns : List ColumnRow) (indexes : List IndexRow)
    (foreignKeys : List ForeignKeyRow) (t : String) :
    (loadActualSchema columns indexes foreignKeys t).isSome = true
      ↔ (∃ r ∈ columns, r.tableName = t) ∨ (∃ r ∈ indexes, r.tableName = t)
        ∨ ∃ r ∈ foreignKeys, r.tableName = t := by
  unfold loadActualSchema loadForeignKeys loadIndexes loadColumns
  rw [isSome_foldl_entry, isSome_foldl_entry, isSome_foldl_entry, Option.isSome_none,
    Bool.false_or, Bool.or_eq_true, Bool.or_eq_true, List.any_eq_true, List.any_eq_true,
    List.any_eq_true, or_assoc]
  simp only [beq_iff_eq]

end Load

/-! ## What conforms -/

/-- A column is as it is described, in small letters and without blanks around it,
and with one spelling of the current time. -/
structure ColumnConforms (expected : ColumnContract) (c : Column) : Prop where
  columnType : normalize expected.columnType = normalize c.columnType
  nullable : expected.nullable = c.nullable
  default : expected.default.map normalizeDefault
    = (c.default.map normalizeDefault).map normalizeDefault
  extra : normalize expected.extra = normalize c.extra

/-- **A table has what is asked for.** -/
structure TableConforms (expected : TableContract) (t : TableDef) : Prop where
  columns : ∀ e ∈ expected.columns, ∃ c ∈ t.columns, c.name = e.1 ∧ ColumnConforms e.2 c
  indexes : ∀ e ∈ expected.indexes, ∃ i ∈ t.indexes, i.name = e.1 ∧ i.contract = e.2
  foreignKeys : ∀ e ∈ expected.foreignKeys,
    ∃ k ∈ t.foreignKeys, k.name = e.1 ∧ k.contract = e.2

/-- **A database conforms to a contract.** -/
def Conforms (contract : Contract) (db : Database) : Prop :=
  ∀ e ∈ contract.tables, ∃ t ∈ db.tables, t.name = e.1 ∧ TableConforms e.2 t

/-- A database that has gained tables still conforms. -/
theorem Conforms.mono {contract : Contract} {db db' : Database} (h : Conforms contract db)
    (hle : db.tables ⊆ db'.tables) : Conforms contract db' := fun e he =>
  (h e he).imp fun _ ht => ⟨hle ht.1, ht.2⟩

/-- Problems in a list of ones. -/
theorem ite_eq_nil {p : Prop} [Decidable p] {problem : String} :
    (if p then [problem] else []) = [] ↔ ¬ p := by
  split
  · next h => exact iff_of_false (List.cons_ne_nil _ _) (not_not.mpr h)
  · next h => exact iff_of_true rfl h

theorem compareColumn_eq_nil_iff {tableName columnName : String} {expected : ColumnContract}
    {c : Column} :
    compareColumnShape tableName columnName expected c.contract
        ++ compareColumnStorage tableName columnName expected c.contract = []
      ↔ ColumnConforms expected c := by
  unfold compareColumnShape compareColumnStorage
  rw [List.append_eq_nil_iff, List.append_eq_nil_iff, List.append_eq_nil_iff, ite_eq_nil,
    ite_eq_nil, ite_eq_nil, ite_eq_nil, not_not, not_not, not_not, not_not]
  constructor
  · rintro ⟨⟨htype, hnullable⟩, hdefault, hextra⟩
    exact ⟨htype, hnullable, hdefault, hextra⟩
  · rintro ⟨htype, hnullable, hdefault, hextra⟩
    exact ⟨⟨htype, hnullable⟩, hdefault, hextra⟩

theorem indexMatches_iff {found expected : IndexContract} :
    indexMatches found expected = true ↔ found = expected := by
  unfold indexMatches
  rw [decide_eq_true_eq, Prod.mk.injEq]
  cases found
  cases expected
  exact IndexContract.mk.injEq _ _ _ _ ▸ Iff.rfl

theorem foreignKeyMatches_iff {found expected : ForeignKeyContract} :
    foreignKeyMatches found expected = true ↔ found = expected := by
  unfold foreignKeyMatches
  rw [decide_eq_true_eq, Prod.mk.injEq, Prod.mk.injEq]
  cases found
  cases expected
  exact ForeignKeyContract.mk.injEq _ _ _ _ _ _ ▸ Iff.rfl

/-- Tables of one name are one. -/
theorem Database.eq_of_name (db : Database) {t t' : TableDef} (ht : t ∈ db.tables)
    (ht' : t' ∈ db.tables) (h : t.name = t'.name) : t = t' :=
  List.inj_on_of_nodup_map db.names_nodup ht ht' h

section Gate

variable {db₁ db₂ db₃ : Database} {contract : Contract} {columns : List ColumnRow}
  {indexes : List IndexRow} {foreignKeys : List ForeignKeyRow}

/-- A table that is found is in the last database, if tables only come. -/
theorem exists_of_isSome (h₁₂ : db₁.tables ⊆ db₂.tables) (h₂₃ : db₂.tables ⊆ db₃.tables)
    (hcolumns : db₁.ReadsColumns columns) (hindexes : db₂.ReadsIndexes indexes)
    (hkeys : db₃.ReadsForeignKeys foreignKeys) {t : String}
    (h : (loadActualSchema columns indexes foreignKeys t).isSome = true) :
    ∃ table ∈ db₃.tables, table.name = t := by
  rcases (isSome_load columns indexes foreignKeys t).mp h with
    ⟨r, hr, rfl⟩ | ⟨r, hr, rfl⟩ | ⟨r, hr, rfl⟩
  · obtain ⟨e, he, -, hname⟩ := exists_of_mem (lists_columns db₁) hcolumns hr
    obtain ⟨table, htable, hsame, -⟩ := mem_parts.mp he
    exact ⟨table, h₂₃ (h₁₂ htable), hsame.trans (congrArg Prod.fst hname).symm⟩
  · obtain ⟨e, he, -, hname⟩ := exists_of_mem (lists_indexes db₂) hindexes hr
    obtain ⟨table, htable, hsame, -⟩ := mem_parts.mp he
    exact ⟨table, h₂₃ htable, hsame.trans (congrArg Prod.fst hname).symm⟩
  · obtain ⟨e, he, -, hname⟩ := exists_of_mem (lists_foreignKeys db₃) hkeys hr
    obtain ⟨table, htable, hsame, -⟩ := mem_parts.mp he
    exact ⟨table, htable, hsame.trans (congrArg Prod.fst hname).symm⟩

/-- **A comparison that finds nothing speaks for the database as it is last**, if
tables only come between the three queries. -/
theorem conforms_of_compareContract (h₁₂ : db₁.tables ⊆ db₂.tables)
    (h₂₃ : db₂.tables ⊆ db₃.tables) (hcolumns : db₁.ReadsColumns columns)
    (hindexes : db₂.ReadsIndexes indexes) (hkeys : db₃.ReadsForeignKeys foreignKeys)
    (h : compareContract contract (loadActualSchema columns indexes foreignKeys) = []) :
    Conforms contract db₃ := by
  intro e he
  have hfound := List.flatMap_eq_nil_iff.mp h e he
  split at hfound
  case h_2 => exact absurd hfound (List.cons_ne_nil _ _)
  next table htable =>
  obtain ⟨t, ht, hname⟩ := exists_of_isSome h₁₂ h₂₃ hcolumns hindexes hkeys
    (Option.isSome_iff_exists.mpr ⟨table, htable⟩)
  unfold compareTable at hfound
  rw [List.append_eq_nil_iff, List.append_eq_nil_iff] at hfound
  obtain ⟨⟨hcols, hidx⟩, hfks⟩ := hfound
  have hsame : ∀ t' ∈ db₃.tables, t'.name = e.1 → t' = t := fun t' ht' hn =>
    db₃.eq_of_name ht' ht (hn.trans hname.symm)
  refine ⟨t, ht, hname, fun c hc => ?_, fun i hi => ?_, fun k hk => ?_⟩
  · have hcol := List.flatMap_eq_nil_iff.mp hcols c hc
    split at hcol
    case h_2 => exact absurd hcol (List.cons_ne_nil _ _)
    next found hfound =>
    have hof : columnOf (loadActualSchema columns indexes foreignKeys) (e.1, c.1) = some found := by
      unfold columnOf
      rw [htable]
      exact hfound
    obtain ⟨t', ht', hn, col, hcol', hcn, rfl⟩ := (columnOf_load hcolumns).mp hof
    obtain rfl := hsame t' (h₂₃ (h₁₂ ht')) hn
    exact ⟨col, hcol', hcn, compareColumn_eq_nil_iff.mp hcol⟩
  · have hix := List.flatMap_eq_nil_iff.mp hidx i hi
    split at hix
    case h_2 => exact absurd hix (List.cons_ne_nil _ _)
    next found hfound =>
    have hof : indexOf (loadActualSchema columns indexes foreignKeys) (e.1, i.1) = some found := by
      unfold indexOf
      rw [htable]
      exact hfound
    obtain ⟨t', ht', hn, index, hindex, hin, rfl⟩ := (indexOf_load hindexes).mp hof
    obtain rfl := hsame t' (h₂₃ ht') hn
    refine ⟨index, hindex, hin, ?_⟩
    by_contra hne
    rw [if_neg fun hmatch => hne (indexMatches_iff.mp hmatch)] at hix
    exact absurd hix (List.cons_ne_nil _ _)
  · have hfk := List.flatMap_eq_nil_iff.mp hfks k hk
    split at hfk
    case h_2 => exact absurd hfk (List.cons_ne_nil _ _)
    next found hfound =>
    have hof : foreignKeyOf (loadActualSchema columns indexes foreignKeys) (e.1, k.1)
        = some found := by
      unfold foreignKeyOf
      rw [htable]
      exact hfound
    obtain ⟨t', ht', hn, key, hkey, hkn, rfl⟩ := (foreignKeyOf_load hkeys).mp hof
    obtain rfl := hsame t' ht' hn
    refine ⟨key, hkey, hkn, ?_⟩
    by_contra hne
    rw [if_neg fun hmatch => hne (foreignKeyMatches_iff.mp hmatch)] at hfk
    exact absurd hfk (List.cons_ne_nil _ _)

/-- A table that is there is found: it has a column. -/
theorem isSome_of_mem {db : Database} (hcolumns : db.ReadsColumns columns) {t : TableDef}
    (ht : t ∈ db.tables) : (loadActualSchema columns indexes foreignKeys t.name).isSome = true := by
  obtain ⟨c, rest, hcons⟩ := List.exists_cons_of_ne_nil t.columns_ne
  refine (isSome_load columns indexes foreignKeys t.name).mpr (Or.inl ?_)
  have hpart : (t.name, c) ∈ db.parts TableDef.columns :=
    mem_parts.mpr ⟨t, ht, rfl, hcons ▸ List.mem_cons_self⟩
  refine ⟨_, hcolumns.perm.mem_iff.mpr (List.mem_flatMap.mpr ⟨_, hpart, List.mem_cons_self⟩), rfl⟩

/-- **The comparison finds nothing just if the database conforms.** -/
theorem compareContract_eq_nil_iff {db : Database} (hcolumns : db.ReadsColumns columns)
    (hindexes : db.ReadsIndexes indexes) (hkeys : db.ReadsForeignKeys foreignKeys) :
    compareContract contract (loadActualSchema columns indexes foreignKeys) = []
      ↔ Conforms contract db := by
  refine ⟨conforms_of_compareContract (List.Subset.refl _) (List.Subset.refl _) hcolumns hindexes
    hkeys, fun h => ?_⟩
  refine List.flatMap_eq_nil_iff.mpr fun e he => ?_
  obtain ⟨t, ht, hname, hconforms⟩ := h e he
  obtain ⟨table, htable⟩ := Option.isSome_iff_exists.mp
    (@isSome_of_mem columns indexes foreignKeys db hcolumns t ht)
  rw [hname] at htable
  rw [htable]
  have hview : ∀ {γ : Type} (view : ActualTable → Option γ),
      (loadActualSchema columns indexes foreignKeys e.1).bind view = view table := fun view => by
    rw [htable, Option.bind_some]
  show compareTable e.1 e.2 table = []
  unfold compareTable
  rw [List.append_eq_nil_iff, List.append_eq_nil_iff]
  refine ⟨⟨List.flatMap_eq_nil_iff.mpr fun c hc => ?_, List.flatMap_eq_nil_iff.mpr fun i hi => ?_⟩,
    List.flatMap_eq_nil_iff.mpr fun k hk => ?_⟩
  · obtain ⟨col, hcol, hcn, hconforms⟩ := hconforms.columns c hc
    have hfound : table.columns c.1 = some col.contract :=
      (hview fun table => table.columns c.1).symm.trans ((columnOf_load (k := (e.1, c.1))
        hcolumns).mpr ⟨t, ht, hname, col, hcol, hcn, rfl⟩)
    rw [hfound]
    exact compareColumn_eq_nil_iff.mpr hconforms
  · obtain ⟨index, hindex, hin, hcontract⟩ := hconforms.indexes i hi
    have hfound : table.indexes i.1 = some index.contract :=
      (hview fun table => table.indexes i.1).symm.trans ((indexOf_load (k := (e.1, i.1))
        hindexes).mpr ⟨t, ht, hname, index, hindex, hin, rfl⟩)
    rw [hfound]
    exact if_pos (indexMatches_iff.mpr hcontract)
  · obtain ⟨key, hkey, hkn, hcontract⟩ := hconforms.foreignKeys k hk
    have hfound : table.foreignKeys k.1 = some key.contract :=
      (hview fun table => table.foreignKeys k.1).symm.trans ((foreignKeyOf_load (k := (e.1, k.1))
        hkeys).mpr ⟨t, ht, hname, key, hkey, hkn, rfl⟩)
    rw [hfound]
    exact if_pos (foreignKeyMatches_iff.mpr hcontract)

end Gate

end SchemaGate
