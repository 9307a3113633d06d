import SqlCsvServer.Index.TableIndex
import SqlCsvServer.Sql.Ast

/-!
# INSERT in `execution/executor.c`
-/

namespace SqlCsvServer
namespace Execution

open Foundation Common Storage Index Sql

/-- What a statement runs on: the data directory and the index registry. -/
structure EngineState where
  dataDir : DataDir
  index : IndexState

/--
What goes wrong in the environment of one statement: the allocations that are
left for the index, and a failing call while a row is appended.
-/
structure Faults where
  memory : Option Nat
  append : Option AppendFault

/-- Memory never runs out and every write succeeds. -/
def noFaults : Faults :=
  { memory := none, append := none }

structure ExecResult where
  ok : Bool
  affectedRows : Nat
  message : Bytes
deriving DecidableEq

/-- `set_exec_error`. -/
def execError (text : Bytes) : ExecResult :=
  { ok := false, affectedRows := 0, message := message text }

/-!
## Building the row
-/

def containsNewline (value : Bytes) : Bool :=
  value.any isLineEnding

/-- The loop of `validate_insert_columns`; the result is the error. -/
def validateColumnsLoop (schema : Schema) :
    List (Bytes × Bytes) -> Option Bytes
  | [] => none
  | (column, value) :: rest =>
      if column = ascii "id" then
        some (ascii "explicit id column is not allowed")
      else if (schemaFindColumn schema column).isNone then
        some (message (ascii "unknown column in INSERT: " ++ column))
      else if containsNewline value then
        some (ascii "newline in value is not supported")
      else validateColumnsLoop schema rest

def validateInsertColumns (statement : InsertStatement) (schema : Schema) :
    Option Bytes :=
  if statement.columns.length ≠ statement.values.length then
    some (ascii "column count and value count do not match")
  else validateColumnsLoop schema (statement.columns.zip statement.values)

/-- The second loop of `build_insert_row`. -/
def assignLoop (schema : Schema) :
    List (Bytes × Bytes) -> List Bool -> List Bytes -> Except Bytes (List Bytes)
  | [], _, rowValues => .ok rowValues
  | (column, value) :: rest, assigned, rowValues =>
      match schemaFindColumn schema column with
      | none => .error (message (ascii "unknown column in INSERT: " ++ column))
      | some schemaIndex =>
          if assigned.getD schemaIndex false then
            .error (message (ascii "duplicate column in INSERT: " ++ column))
          else
            assignLoop schema rest (assigned.set schemaIndex true)
              (rowValues.set schemaIndex value)

def buildInsertRow (statement : InsertStatement) (schema : Schema) :
    Except Bytes (List Bytes) :=
  assignLoop schema (statement.columns.zip statement.values)
    (List.replicate schema.columns.length false)
    (List.replicate schema.columns.length [])

/-!
## Running the statement
-/

/-- The steps of `execute_insert` from `append_row_csv` on. -/
def appendAndRegister (schema : Schema) (nextId : Int) (rowValues : List Bytes)
    (append : Option AppendFault) (state : EngineState)
    (available : Option Nat) : EngineState × ExecResult :=
  match appendRowCsv state.dataDir schema.storageName rowValues append with
  | (dataDir, storageResult) =>
      if storageResult.ok then
        match tableIndexRegisterRow dataDir schema nextId storageResult.rowOffset
            state.index available with
        | (index, some text, _) =>
            ({ dataDir := dataDir
               index := tableIndexInvalidate index schema.storageName },
              { ok := false, affectedRows := 0, message := text })
        | (index, none, _) =>
            ({ dataDir := dataDir, index := index },
              { ok := true
                affectedRows := storageResult.affectedRows
                message := storageResult.message })
      else ({ state with dataDir := dataDir }, execError storageResult.message)

def executeInsert (schemaDir : SchemaDir) (statement : InsertStatement)
    (faults : Faults) (state : EngineState) : EngineState × ExecResult :=
  match loadSchema schemaDir state.dataDir statement.tableName with
  | .error text => (state, execError text)
  | .ok schema =>
      match validateInsertColumns statement schema with
      | some text =>
          (state, { ok := false, affectedRows := 0, message := text })
      | none =>
          match tableIndexGetNextId state.dataDir schema state.index
              faults.memory with
          | (index, .error text, _) =>
              ({ state with index := index },
                { ok := false, affectedRows := 0, message := text })
          | (index, .ok nextId, available) =>
              match buildInsertRow statement schema with
              | .error text =>
                  ({ state with index := index },
                    { ok := false, affectedRows := 0, message := text })
              | .ok rowValues =>
                  appendAndRegister schema nextId rowValues faults.append
                    { state with index := index } available

end Execution
end SqlCsvServer
