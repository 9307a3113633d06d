import Mathlib.Data.List.Basic
import Mathlib.Data.List.Infix

/-!
# Tables of numbered rows

A table has named columns and its rows in the order in which they came.  A row has a
value for every column; its number is its place, counted from one, and can be asked for
like a column.
-/

namespace SqlCsvServer
namespace Foundation

structure NumberedTable (column value : Type) where
  columns : List column
  rows : List (column -> value)

/-- What can be asked of a row. -/
inductive Attribute (column : Type) where
  | number
  | of (name : column)

namespace NumberedTable

variable {column value : Type}

def numbered (table : NumberedTable column value) : List ((column -> value) × Nat) :=
  table.rows.zipIdx 1

/-- The value of an attribute, where a number is printed. -/
def cell (print : Nat -> value) (row : (column -> value) × Nat) :
    Attribute column -> value
  | .number => print row.2
  | .of name => row.1 name

def select (print : Nat -> value) (attributes : List (Attribute column))
    (wanted : (column -> value) × Nat -> Bool) (table : NumberedTable column value) :
    List (List value) :=
  (table.numbered.filter wanted).map fun row => attributes.map (cell print row)

def insert (row : column -> value) (table : NumberedTable column value) :
    NumberedTable column value :=
  { table with rows := table.rows ++ [row] }

structure Extends (old new : NumberedTable column value) : Prop where
  columns : new.columns = old.columns
  rows : old.rows <+: new.rows

variable {table old new : NumberedTable column value} {row : column -> value}

theorem extends_refl (table : NumberedTable column value) : Extends table table :=
  ⟨rfl, List.prefix_rfl⟩

theorem Extends.trans {first : NumberedTable column value} (h : Extends first old)
    (hmore : Extends old new) : Extends first new :=
  ⟨hmore.columns.trans h.columns, h.rows.trans hmore.rows⟩

theorem extends_insert (row : column -> value) (table : NumberedTable column value) :
    Extends table (table.insert row) :=
  ⟨rfl, List.prefix_append _ _⟩

theorem mem_numbered_insert :
    (row, table.rows.length + 1) ∈ (table.insert row).numbered := by
  unfold numbered insert
  rw [List.zipIdx_append, Nat.add_comm]
  exact List.mem_append_right _ List.mem_cons_self

theorem Extends.mem_numbered (h : Extends old new) {number : Nat}
    (hrow : (row, number) ∈ old.numbered) : (row, number) ∈ new.numbered := by
  rcases h.rows with ⟨more, hmore⟩
  unfold numbered at hrow ⊢
  rw [← hmore, List.zipIdx_append]
  exact List.mem_append_left _ hrow

theorem filter_number_of_lt {rows : List (column -> value)} {start number : Nat}
    (h : number < start) :
    (rows.zipIdx start).filter (fun row => decide (row.2 = number)) = [] := by
  rw [List.filter_eq_nil_iff]
  rintro ⟨row, found⟩ hmem
  have hle := (List.mem_zipIdx hmem).1
  rw [decide_eq_true_iff]
  omega

theorem filter_number {rows : List (column -> value)} {start number : Nat}
    (h : (row, number) ∈ rows.zipIdx start) :
    (rows.zipIdx start).filter (fun row => decide (row.2 = number)) = [(row, number)] := by
  induction rows generalizing start with
  | nil => cases h
  | cons first rows ih =>
      rw [List.zipIdx_cons] at h ⊢
      rcases List.mem_cons.mp h with hfirst | hmore
      · cases hfirst
        simp only [List.filter_cons, decide_true, if_true,
          filter_number_of_lt (Nat.lt_succ_self number)]
      · have hlt := (List.mem_zipIdx hmore).1
        rw [List.filter_cons_of_neg, ih hmore]
        rw [decide_eq_true_iff]
        show start ≠ number
        omega

theorem select_number {number : Nat} (h : (row, number) ∈ table.numbered)
    (print : Nat -> value) (attributes : List (Attribute column)) :
    table.select print attributes (fun row => decide (row.2 = number)) =
      [attributes.map (cell print (row, number))] := by
  unfold select
  unfold numbered at h ⊢
  rw [filter_number h]
  rfl

end NumberedTable

end Foundation
end SqlCsvServer
