import SqlCsvServer.Execution.Insert
import SqlCsvServer.Storage.Append

/-!
# The row an INSERT builds

`givenValue` says which value a statement gives for a position of the
schema.  The loops of the executor are compared with it here.
-/

namespace SqlCsvServer
namespace Execution

open Foundation Common Storage Index Sql

def givenValue (schema : Schema) (schemaIndex : Nat) :
    List (Bytes × Bytes) -> Option Bytes
  | [] => none
  | (column, value) :: rest =>
      if schemaFindColumn schema column = some schemaIndex then some value
      else givenValue schema schemaIndex rest

def expectedRow (statement : InsertStatement) (schema : Schema) : List Bytes :=
  (List.range schema.columns.length).map fun schemaIndex =>
    (givenValue schema schemaIndex
      (statement.columns.zip statement.values)).getD []

section Loops

variable {schema : Schema}

theorem schemaFindColumn_lt {column : Bytes} {schemaIndex : Nat}
    (h : schemaFindColumn schema column = some schemaIndex) :
    schemaIndex < schema.columns.length := by
  unfold schemaFindColumn stringListIndexOf at h
  exact (List.findIdx?_eq_some_iff_getElem.mp h).1

theorem validateColumnsLoop_ok {pairs : List (Bytes × Bytes)}
    (h : validateColumnsLoop schema pairs = none) :
    forall pair, pair ∈ pairs ->
      pair.1 ∈ schema.columns ∧ containsNewline pair.2 = false := by
  induction pairs with
  | nil => simp
  | cons head pairs ih =>
      rcases head with ⟨column, value⟩
      unfold validateColumnsLoop at h
      split at h
      · simp at h
      · split at h
        · simp at h
        · rename_i hfound
          split at h
          · simp at h
          · rename_i hnewline
            intro pair hpair
            rcases List.mem_cons.mp hpair with rfl | hpair
            · refine ⟨?_, by simpa using hnewline⟩
              by_contra habsent
              rw [← schemaFindColumn_eq_none_iff] at habsent
              simp [habsent] at hfound
            · exact ih h pair hpair

theorem assignLoop_ok {pairs : List (Bytes × Bytes)} :
    forall {assigned : List Bool} {rowValues row : List Bytes},
      assigned.length = schema.columns.length ->
      rowValues.length = schema.columns.length ->
      assignLoop schema pairs assigned rowValues = .ok row ->
        row.length = schema.columns.length ∧
          forall schemaIndex,
            (assigned.getD schemaIndex false = true ->
              givenValue schema schemaIndex pairs = none) ∧
            row.getD schemaIndex [] =
              (givenValue schema schemaIndex pairs).getD
                (rowValues.getD schemaIndex []) := by
  induction pairs with
  | nil =>
      intro assigned rowValues row _ hlength h
      simp only [assignLoop, Except.ok.injEq] at h
      subst h
      exact ⟨hlength, fun _ => ⟨fun _ => rfl, rfl⟩⟩
  | cons head pairs ih =>
      intro assigned rowValues row hassigned hlength h
      rcases head with ⟨column, value⟩
      unfold assignLoop at h
      cases hfound : schemaFindColumn schema column with
      | none => simp [hfound] at h
      | some found =>
          have hlt := schemaFindColumn_lt hfound
          simp only [hfound] at h
          split at h
          · simp at h
          · rename_i hfree
            rcases ih (by simp [hassigned]) (by simp [hlength]) h with
              ⟨hrow, hrest⟩
            refine ⟨hrow, ?_⟩
            intro schemaIndex
            rcases hrest schemaIndex with ⟨hnone, hvalue⟩
            by_cases hindex : found = schemaIndex
            · subst hindex
              have hset : (assigned.set found true).getD found false = true := by
                simp [List.getD_eq_getElem?_getD, hassigned, hlt]
              refine ⟨fun htaken => absurd htaken hfree, ?_⟩
              rw [hvalue, hnone hset]
              simp [givenValue, hfound, List.getD_eq_getElem?_getD, hlength, hlt]
            · have hne : ¬ some found = some schemaIndex := by simpa using hindex
              have hset : (assigned.set found true).getD schemaIndex false =
                  assigned.getD schemaIndex false := by
                simp [List.getD_eq_getElem?_getD, List.getElem?_set_ne hindex]
              have hslot : (rowValues.set found value).getD schemaIndex [] =
                  rowValues.getD schemaIndex [] := by
                simp [List.getD_eq_getElem?_getD, List.getElem?_set_ne hindex]
              rw [hset] at hnone
              rw [hslot] at hvalue
              simpa [givenValue, hfound, hne] using And.intro hnone hvalue

theorem givenValue_mem {schemaIndex : Nat} {pairs : List (Bytes × Bytes)}
    {value : Bytes} (h : givenValue schema schemaIndex pairs = some value) :
    exists column, (column, value) ∈ pairs := by
  induction pairs with
  | nil => simp [givenValue] at h
  | cons head pairs ih =>
      rcases head with ⟨column, first⟩
      unfold givenValue at h
      split at h
      · rw [← Option.some.inj h]
        exact ⟨column, List.mem_cons_self ..⟩
      · rcases ih h with ⟨found, hfound⟩
        exact ⟨found, List.mem_cons_of_mem _ hfound⟩

end Loops

section Row

variable {statement : InsertStatement} {schema : Schema} {row : List Bytes}

theorem buildInsertRow_eq_expectedRow
    (h : buildInsertRow statement schema = .ok row) :
    row = expectedRow statement schema := by
  unfold buildInsertRow at h
  rcases assignLoop_ok (by simp) (by simp) h with ⟨hlength, hslots⟩
  apply List.ext_getElem
  · simp [expectedRow, hlength]
  · intro i hi hi'
    have hslot := (hslots i).2
    have hrange : i < schema.columns.length := hlength ▸ hi
    have hempty :
        (List.replicate schema.columns.length ([] : Bytes)).getD i [] = [] := by
      simp [List.getD_eq_getElem?_getD, hrange]
    rw [hempty, List.getD_eq_getElem?_getD, List.getElem?_eq_getElem hi,
      Option.getD_some] at hslot
    rw [hslot]
    simp [expectedRow]

theorem expectedRow_length :
    (expectedRow statement schema).length = schema.columns.length := by
  simp [expectedRow]

theorem mem_expectedRow {value : Bytes}
    (h : value ∈ expectedRow statement schema) :
    value = [] ∨
      exists column, (column, value) ∈ statement.columns.zip statement.values := by
  unfold expectedRow at h
  rcases List.mem_map.mp h with ⟨schemaIndex, _, hvalue⟩
  cases hgiven :
      givenValue schema schemaIndex (statement.columns.zip statement.values) with
  | none =>
      rw [hgiven] at hvalue
      exact Or.inl hvalue.symm
  | some given =>
      rw [hgiven] at hvalue
      rw [← hvalue]
      exact Or.inr (givenValue_mem hgiven)

theorem expectedRow_text
    (hvalid : validateInsertColumns statement schema = none)
    (hnul : statement.ValuesNulFree) :
    forall value, value ∈ expectedRow statement schema ->
      NulFree value ∧ value.any isLineEnding = false := by
  intro value hvalue
  rcases mem_expectedRow hvalue with rfl | ⟨column, hpair⟩
  · exact ⟨by simp [NulFree], rfl⟩
  · unfold validateInsertColumns at hvalid
    split at hvalid
    · simp at hvalid
    · exact ⟨hnul value (List.of_mem_zip hpair).2,
        (validateColumnsLoop_ok hvalid _ hpair).2⟩

theorem expectedRow_ne_nil (haccepted : SchemaAccepted schema) :
    expectedRow statement schema ≠ [] := by
  intro hnil
  have hlength := congrArg List.length hnil
  rw [expectedRow_length] at hlength
  exact haccepted.columns_ne_nil (List.eq_nil_of_length_eq_zero hlength)

end Row

end Execution
end SqlCsvServer
