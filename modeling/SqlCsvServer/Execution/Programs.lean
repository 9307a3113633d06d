import SqlCsvServer.Execution.Select
import SqlCsvServer.Index.PointerRuns

/-!
# The executor step by step

The same functions as `executeInsert` and `executeSelect`, cut where
they touch the files, the mutex of the registry, or an entry of the index.  Run
without interruption they do the same.
-/

namespace SqlCsvServer
namespace Execution

open Foundation Common Storage Index Sql

/-!
## The programs
-/

def failedResult (text : Bytes) : ExecResult :=
  { ok := false, affectedRows := 0, message := text }

/-- `append_row_csv` as a step. -/
def appendStep (storageName : Bytes) (rowValues : List Bytes)
    (append : Option AppendFault) (memory : EngineMemory) :
    EngineMemory × StorageResult :=
  let appended := appendRowCsv memory.dataDir storageName rowValues append
  ({ memory with dataDir := appended.1 }, appended.2)

/-- `execute_insert` from the row on. -/
def storeRowProgram (storageName : Bytes) (nextId : Int)
    (rowValues : List Bytes) (append : Option AppendFault)
    (available : Option Nat) : IndexProgram ExecResult :=
  .call (appendStep storageName rowValues append) fun storageResult =>
    if storageResult.ok then
      (registerRowProgram storageName nextId storageResult.rowOffset
          available).andThen fun
        | some text =>
            (invalidateProgram storageName).andThen fun _ =>
              .done (failedResult text)
        | none =>
            .done
              { ok := true
                affectedRows := storageResult.affectedRows
                message := storageResult.message }
    else .done (execError storageResult.message)

/-- `execute_insert`. -/
def executeInsertProgram (schemaDir : SchemaDir) (statement : InsertStatement)
    (faults : Faults) : IndexProgram ExecResult :=
  .read (fun memory => loadSchema schemaDir memory.dataDir statement.tableName)
    fun
    | .error text => .done (execError text)
    | .ok schema =>
        match validateInsertColumns statement schema with
        | some text => .done (failedResult text)
        | none =>
            (getNextIdProgram schema.storageName faults.memory).andThen fun
              | (.error text, _) => .done (failedResult text)
              | (.ok nextId, available) =>
                  match buildInsertRow statement schema with
                  | .error text => .done (failedResult text)
                  | .ok rowValues =>
                      storeRowProgram schema.storageName nextId rowValues
                        faults.append available

/-- The row `execute_index_select` makes of the fields at an offset. -/
def rowAtOffset (schema : Schema) (selected : List SelectedColumn)
    (whereId : Int) : Except Bytes (List Bytes) -> Except Bytes ResultTable
  | .error text => .error text
  | .ok fields =>
      if fields.length ≠ schema.columns.length then
        .error (ascii "CSV row does not match schema column count")
      else .ok (resultTable selected [selectedRow selected fields whereId])

/-- `execute_index_select`. -/
def indexSelectProgram (schema : Schema) (selected : List SelectedColumn)
    (whereValue : Bytes) (memory : Option Nat) :
    IndexProgram (Except Bytes ResultTable) :=
  match parseIntStrict whereValue with
  | none => .done (.error (ascii "WHERE id value must be an integer"))
  | some whereId =>
      (findRowProgram schema.storageName whereId memory).andThen fun
        | .error text => .done (.error text)
        | .ok none => .done (.ok (resultTable selected []))
        | .ok (some rowOffset) =>
            .read (fun memory =>
                readRowAtOffsetCsv memory.dataDir schema.storageName rowOffset)
              fun fields => .done (rowAtOffset schema selected whereId fields)

/-- `execute_select`. -/
def executeSelectProgram (schemaDir : SchemaDir) (statement : SelectStatement)
    (memory : Option Nat) : IndexProgram (Except Bytes ResultTable) :=
  .read (fun memory => loadSchema schemaDir memory.dataDir statement.tableName)
    fun
    | .error text => .done (.error text)
    | .ok schema =>
        match buildSelectIndexes statement schema with
        | .error text => .done (.error text)
        | .ok [] => .done (.error [])
        | .ok (first :: more) =>
            match resolveWhereIndex statement schema with
            | .error text => .done (.error text)
            | .ok whereIndex =>
                match whereIdValue statement with
                | some whereValue =>
                    indexSelectProgram schema (first :: more) whereValue memory
                | none =>
                    .read (fun memory =>
                        scanSelectRows statement schema (first :: more) whereIndex
                          memory.dataDir)
                      fun rows =>
                        .done (rows.map (resultTable (first :: more)))

/-- `execute_statement`. -/
def executeStatementProgram (schemaDir : SchemaDir) (statement : Statement)
    (faults : Faults) : IndexProgram (ExecResult × Bytes) :=
  match statement with
  | .insertStatement statement =>
      (executeInsertProgram schemaDir statement faults).andThen fun result =>
        .done (result, [])
  | .selectStatement statement =>
      (executeSelectProgram schemaDir statement faults.memory).andThen
        fun table => .done (selectResult table)

/-!
## All steps in a row
-/

/-- The files and the index in a memory. -/
def engineOf (memory : EngineMemory) : EngineState :=
  { dataDir := memory.dataDir, index := memory.indexMemory.index }

def memoryOf (state : EngineState) (freed : Nat -> List TableIndex) :
    EngineMemory :=
  { dataDir := state.dataDir
    indexMemory := { index := state.index, freed := freed } }

section Run

variable (schemaDir : SchemaDir) (memory : EngineMemory)

theorem storeRowProgram_run (schema : Schema) (nextId : Int)
    (rowValues : List Bytes) (append : Option AppendFault)
    (available : Option Nat) :
    exists freed,
      (storeRowProgram schema.storageName nextId rowValues append
          available).run memory =
        (memoryOf (appendAndRegister schema nextId rowValues append
            (engineOf memory) available).1 freed,
          (appendAndRegister schema nextId rowValues append (engineOf memory)
            available).2) := by
  unfold storeRowProgram appendAndRegister
  rw [LockProgram.run_call]
  unfold appendStep engineOf
  simp only
  rcases appendRowCsv memory.dataDir schema.storageName rowValues append with
    ⟨dataDir, storageResult⟩
  by_cases hok : storageResult.ok = true
  · simp only [hok, if_true, LockProgram.run_andThen]
    rcases hregister : tableIndexRegisterRow dataDir schema nextId
        storageResult.rowOffset memory.indexMemory.index available with
      ⟨index, result, left⟩
    rcases registerRowProgram_run schema { memory with dataDir := dataDir }
        available nextId storageResult.rowOffset hregister with
      ⟨freed, hrun⟩
    rw [hrun]
    refine ⟨freed, ?_⟩
    cases result with
    | none => rfl
    | some text =>
        simp only [LockProgram.run_andThen]
        rw [invalidateProgram_run]
        rfl
  · simp only [hok]
    exact ⟨memory.indexMemory.freed, rfl⟩

theorem executeInsertProgram_run (statement : InsertStatement)
    (faults : Faults) :
    exists freed,
      (executeInsertProgram schemaDir statement faults).run memory =
        (memoryOf (executeInsert schemaDir statement faults
            (engineOf memory)).1 freed,
          (executeInsert schemaDir statement faults (engineOf memory)).2) := by
  have hsame : forall result : ExecResult,
      exists freed, (memory, result) = (memoryOf (engineOf memory) freed, result) :=
    fun result => ⟨memory.indexMemory.freed, rfl⟩
  unfold executeInsertProgram executeInsert
  rw [LockProgram.run_read]
  simp only [engineOf]
  cases loadSchema schemaDir memory.dataDir statement.tableName with
  | error text => exact hsame _
  | ok schema =>
      simp only
      cases validateInsertColumns statement schema with
      | some text => exact hsame _
      | none =>
          simp only [LockProgram.run_andThen]
          rcases hnext : tableIndexGetNextId memory.dataDir schema
              memory.indexMemory.index faults.memory with
            ⟨index, result, available⟩
          rcases getNextIdProgram_run schema memory faults.memory hnext with
            ⟨freed, hrun⟩
          rw [hrun]
          cases result with
          | error text => exact ⟨freed, rfl⟩
          | ok nextId =>
              simp only
              cases buildInsertRow statement schema with
              | error text => exact ⟨freed, rfl⟩
              | ok rowValues =>
                  exact storeRowProgram_run (memory.withIndex index freed) schema
                    nextId rowValues faults.append available

theorem indexSelectProgram_run (schema : Schema)
    (selected : List SelectedColumn) (whereValue : Bytes)
    (available : Option Nat) :
    exists freed,
      (indexSelectProgram schema selected whereValue available).run memory =
        (memoryOf (indexSelectRows schema selected whereValue (engineOf memory)
            available).1 freed,
          (indexSelectRows schema selected whereValue (engineOf memory)
            available).2.map (resultTable selected)) := by
  unfold indexSelectProgram indexSelectRows
  cases parseIntStrict whereValue with
  | none => exact ⟨memory.indexMemory.freed, rfl⟩
  | some whereId =>
      simp only [LockProgram.run_andThen, engineOf]
      rcases hfind : tableIndexFindRow memory.dataDir schema whereId
          memory.indexMemory.index available with
        ⟨index, result, left⟩
      rcases findRowProgram_run schema memory available whereId hfind with
        ⟨freed, hrun⟩
      rw [hrun]
      refine ⟨freed, ?_⟩
      rcases result with text | _ | rowOffset
      · rfl
      · rfl
      · simp only [LockProgram.run_read, LockProgram.run_done,
          EngineMemory.withIndex]
        cases readRowAtOffsetCsv memory.dataDir schema.storageName rowOffset with
        | error text => rfl
        | ok fields =>
            unfold rowAtOffset
            by_cases hlength : fields.length ≠ schema.columns.length
            · simp [hlength, Except.map, memoryOf]
            · simp [hlength, Except.map, memoryOf]

theorem executeSelectProgram_run (statement : SelectStatement)
    (available : Option Nat) :
    exists freed,
      (executeSelectProgram schemaDir statement available).run memory =
        (memoryOf (selectTable schemaDir statement available
            (engineOf memory)).1 freed,
          (selectTable schemaDir statement available (engineOf memory)).2) := by
  have hsame : forall result : Except Bytes ResultTable,
      exists freed, (memory, result) = (memoryOf (engineOf memory) freed, result) :=
    fun result => ⟨memory.indexMemory.freed, rfl⟩
  unfold executeSelectProgram selectTable
  rw [LockProgram.run_read]
  simp only [engineOf]
  cases loadSchema schemaDir memory.dataDir statement.tableName with
  | error text => exact hsame _
  | ok schema =>
      simp only
      cases buildSelectIndexes statement schema with
      | error text => exact hsame _
      | ok selected =>
          cases selected with
          | nil => exact hsame _
          | cons first more =>
              simp only
              cases resolveWhereIndex statement schema with
              | error text => exact hsame _
              | ok whereIndex =>
                  simp only
                  cases whereIdValue statement with
                  | none => exact hsame _
                  | some whereValue =>
                      exact indexSelectProgram_run memory schema (first :: more)
                        whereValue available

theorem executeStatementProgram_run (statement : Statement) (faults : Faults) :
    exists freed,
      (executeStatementProgram schemaDir statement faults).run memory =
        (memoryOf (executeStatement schemaDir statement faults
            (engineOf memory)).1 freed,
          (executeStatement schemaDir statement faults (engineOf memory)).2) := by
  cases statement with
  | insertStatement statement =>
      rcases executeInsertProgram_run schemaDir memory statement faults with
        ⟨freed, hrun⟩
      refine ⟨freed, ?_⟩
      simp only [executeStatementProgram, executeStatement,
        LockProgram.run_andThen, hrun, LockProgram.run_done]
  | selectStatement statement =>
      rcases executeSelectProgram_run schemaDir memory statement faults.memory
        with ⟨freed, hrun⟩
      refine ⟨freed, ?_⟩
      simp only [executeStatementProgram, executeStatement, executeSelect,
        LockProgram.run_andThen, hrun, LockProgram.run_done]

end Run

end Execution
end SqlCsvServer
