import SqlCsvServer.Execution.Select
import SqlCsvServer.Sql.Parser

/-!
# The slots of `selected_indexes`

`execute_select` allocates one slot for each column of the schema, and
`build_select_indexes` stores one index for each column of the statement.
-/

namespace SqlCsvServer
namespace Execution

open Foundation Common Storage Sql

def selectStoresLoop (schema : Schema) : Nat -> List Bytes -> List Nat
  | _, [] => []
  | index, column :: columns =>
      if column = ascii "id" then
        index :: selectStoresLoop schema (index + 1) columns
      else
        match schemaFindColumn schema column with
        -- the loop returns before the store
        | none => []
        | some _ => index :: selectStoresLoop schema (index + 1) columns

/-- The slots `build_select_indexes` stores to. -/
def selectStores (statement : SelectStatement) (schema : Schema) : List Nat :=
  if statement.selectAll then List.range schema.columns.length
  else selectStoresLoop schema 0 statement.columns

/-- The slots `select_row_buffer_push` reads for each row it stores. -/
def selectReads (statement : SelectStatement) (schema : Schema) : List Nat :=
  match buildSelectIndexes statement schema with
  | .error _ => []
  | .ok selected => List.range selected.length

/-- Every slot that is stored to or read is one of the allocated ones. -/
def SlotsInBounds (statement : SelectStatement) (schema : Schema) : Prop :=
  (forall slot, slot ∈ selectStores statement schema ->
    slot < schema.columns.length) ∧
    forall slot, slot ∈ selectReads statement schema ->
      slot < schema.columns.length

def Selectable (schema : Schema) (column : Bytes) : Prop :=
  column = ascii "id" ∨ column ∈ schema.columns

instance (schema : Schema) : DecidablePred (Selectable schema) :=
  fun column =>
    inferInstanceAs (Decidable (column = ascii "id" ∨ column ∈ schema.columns))

def knownColumns (statement : SelectStatement) (schema : Schema) : List Bytes :=
  statement.columns.takeWhile fun column => decide (Selectable schema column)

/-- The list asks for no more columns than the schema has. -/
def FitsSchema (statement : SelectStatement) (schema : Schema) : Prop :=
  statement.selectAll = true ∨
    (knownColumns statement schema).length ≤ schema.columns.length

section Stores

variable {schema : Schema}

theorem selectStoresLoop_eq (columns : List Bytes) (index : Nat) :
    selectStoresLoop schema index columns =
      List.range' index
        (columns.takeWhile
          (fun column => decide (Selectable schema column))).length := by
  induction columns generalizing index with
  | nil => rfl
  | cons column columns ih =>
      unfold selectStoresLoop
      by_cases hid : column = ascii "id"
      · have hknown : Selectable schema column := Or.inl hid
        simp [hid, ih, List.range'_succ, Selectable]
      · rw [if_neg hid]
        cases hfound : schemaFindColumn schema column with
        | none =>
            have hunknown : ¬ Selectable schema column := by
              rintro (hname | hmem)
              · exact hid hname
              · exact schemaFindColumn_eq_none_iff.mp hfound hmem
            simp [hunknown]
        | some schemaIndex =>
            have hknown : Selectable schema column := by
              apply Or.inr
              by_contra habsent
              rw [← schemaFindColumn_eq_none_iff, hfound] at habsent
              cases habsent
            simp [hknown, ih, List.range'_succ]

theorem selectColumnsLoop_length {columns : List Bytes}
    {selected : List SelectedColumn}
    (h : selectColumnsLoop schema columns = .ok selected) :
    selected.length = columns.length ∧
      columns.takeWhile (fun column => decide (Selectable schema column)) =
        columns := by
  induction columns generalizing selected with
  | nil =>
      simp only [selectColumnsLoop, Except.ok.injEq] at h
      subst h
      exact ⟨rfl, rfl⟩
  | cons column columns ih =>
      unfold selectColumnsLoop at h
      by_cases hid : column = ascii "id"
      · simp only [hid, if_true] at h
        cases hrest : selectColumnsLoop schema columns with
        | error text => simp [hrest] at h
        | ok rest =>
            simp only [hrest, Except.ok.injEq] at h
            rcases ih hrest with ⟨hlength, hknown⟩
            have hcolumn : Selectable schema (ascii "id") := Or.inl rfl
            rw [← h, hid, List.takeWhile_cons, decide_eq_true hcolumn, hknown]
            simp [hlength]
      · simp only [hid, if_false] at h
        cases hfound : schemaFindColumn schema column with
        | none => simp [hfound] at h
        | some schemaIndex =>
            have hcolumn : Selectable schema column := by
              apply Or.inr
              by_contra habsent
              rw [← schemaFindColumn_eq_none_iff, hfound] at habsent
              cases habsent
            cases hrest : selectColumnsLoop schema columns with
            | error text => simp [hfound, hrest] at h
            | ok rest =>
                simp only [hfound, hrest, Except.ok.injEq] at h
                rcases ih hrest with ⟨hlength, hknown⟩
                rw [← h, List.takeWhile_cons, decide_eq_true hcolumn, hknown]
                simp [hlength]

theorem selectReads_subset (statement : SelectStatement) (slot : Nat)
    (h : slot ∈ selectReads statement schema) :
    slot ∈ selectStores statement schema := by
  unfold selectReads at h
  cases hbuild : buildSelectIndexes statement schema with
  | error text => simp [hbuild] at h
  | ok selected =>
      rw [hbuild] at h
      unfold buildSelectIndexes at hbuild
      unfold selectStores
      by_cases hall : statement.selectAll = true
      · rw [if_pos hall, Except.ok.injEq] at hbuild
        rw [if_pos hall]
        rw [← hbuild] at h
        simpa using h
      · rw [if_neg hall] at hbuild
        rw [if_neg hall, selectStoresLoop_eq]
        rcases selectColumnsLoop_length hbuild with ⟨hlength, hknown⟩
        rw [hknown, ← hlength]
        simpa [List.range_eq_range'] using h

end Stores

/--
Every slot that is stored to or read is allocated exactly when the statement is
`SELECT *` or lists, in front of the first unknown name, no more columns
than the schema has.
-/
theorem slotsInBounds_iff (statement : SelectStatement) (schema : Schema) :
    SlotsInBounds statement schema <-> FitsSchema statement schema := by
  have hstores :
      SlotsInBounds statement schema <->
        forall slot, slot ∈ selectStores statement schema ->
          slot < schema.columns.length := by
    constructor
    · exact fun h => h.1
    · intro h
      constructor
      · exact h
      · intro slot hslot
        exact h slot (selectReads_subset statement slot hslot)
  rw [hstores]
  unfold selectStores FitsSchema
  by_cases hall : statement.selectAll = true
  · simp [hall]
  · simp only [hall, if_false, selectStoresLoop_eq, Bool.false_eq_true,
      false_or]
    change (forall slot,
      slot ∈ List.range' 0 (knownColumns statement schema).length -> _) <-> _
    constructor
    · intro h
      by_contra hlong
      have hlast := h schema.columns.length (by simp; omega)
      omega
    · intro h slot hslot
      simp only [List.mem_range'_1] at hslot
      omega

/-- A schema with one column. -/
def oneColumnSchema : Schema :=
  { tableName := ascii "t"
    storageName := ascii "t"
    columns := [ascii "name"] }

/-- A column named twice is stored to a slot that was not allocated. -/
theorem repeated_column_out_of_bounds :
    exists tokens statement,
      lexSql (ascii "SELECT name, name FROM t;") = .ok tokens ∧
        parseStatement tokens = .ok (.selectStatement statement) ∧
        ¬ SlotsInBounds statement oneColumnSchema := by
  have hlex : lexSql (ascii "SELECT name, name FROM t;") =
      .ok ((lexSql (ascii "SELECT name, name FROM t;")).toOption.getD []) := by
    decide
  have hparse : parseStatement
      ((lexSql (ascii "SELECT name, name FROM t;")).toOption.getD []) =
        .ok (.selectStatement
          { tableName := ascii "t"
            selectAll := false
            columns := [ascii "name", ascii "name"]
            condition := none }) := by
    decide
  refine ⟨_, _, hlex, hparse, ?_⟩
  intro h
  have hslot := h.1 1 (by decide)
  exact absurd hslot (by decide)

end Execution
end SqlCsvServer
