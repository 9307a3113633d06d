import SqlCsvServer.Execution.Insert

/-!
# SELECT in `execution/executor.c`

`selectTable` finds the headers and rows that `execute_select` hands
to its table printer; `executeSelect` prints them.
-/

namespace SqlCsvServer
namespace Execution

open Foundation Common Storage Index Sql

/-!
## Choosing columns and rows
-/

/-- A column of the result; `none` is `INTERNAL_ID_SELECT_INDEX`. -/
structure SelectedColumn where
  header : Bytes
  index : Option Nat
deriving DecidableEq

/-- The loop of `build_select_indexes` over an explicit column list. -/
def selectColumnsLoop (schema : Schema) :
    List Bytes -> Except Bytes (List SelectedColumn)
  | [] => .ok []
  | column :: columns =>
      let selected : Except Bytes SelectedColumn :=
        if column = ascii "id" then .ok { header := ascii "id", index := none }
        else
          match schemaFindColumn schema column with
          | none => .error (message (ascii "unknown column in SELECT: " ++ column))
          | some schemaIndex =>
              .ok { header := column, index := some schemaIndex }
      match selected with
      | .error text => .error text
      | .ok selected =>
          match selectColumnsLoop schema columns with
          | .error text => .error text
          | .ok rest => .ok (selected :: rest)

def buildSelectIndexes (statement : SelectStatement) (schema : Schema) :
    Except Bytes (List SelectedColumn) :=
  if statement.selectAll then
    .ok (schema.columns.zipIdx.map fun column =>
      { header := column.1, index := some column.2 })
  else selectColumnsLoop schema statement.columns

def resolveWhereIndex (statement : SelectStatement) (schema : Schema) :
    Except Bytes (Option Nat) :=
  match statement.condition with
  | none => .ok none
  | some condition =>
      if condition.whereColumn = ascii "id" then .ok none
      else
        match schemaFindColumn schema condition.whereColumn with
        | none =>
            .error (message
              (ascii "unknown column in WHERE: " ++ condition.whereColumn))
        | some whereIndex => .ok (some whereIndex)

def rowMatchesWhere (statement : SelectStatement) (fields : List Bytes)
    (whereIndex : Option Nat) : Bool :=
  match statement.condition, whereIndex with
  | some condition, some whereIndex =>
      decide (fields.getD whereIndex [] = condition.whereValue)
  | _, _ => true

/-- The row that `select_row_buffer_push` stores. -/
def selectedRow (selected : List SelectedColumn) (fields : List Bytes)
    (internalId : Int) : List Bytes :=
  selected.map fun column =>
    match column.index with
    | none => decimalInt internalId
    | some index => fields.getD index []

/-- The headers and rows that are printed. -/
structure ResultTable where
  headers : List Bytes
  rows : List (List Bytes)
deriving DecidableEq

def resultTable (selected : List SelectedColumn) (rows : List (List Bytes)) :
    ResultTable :=
  { headers := selected.map SelectedColumn.header, rows := rows }

/-!
## The two read paths
-/

/-- `execute_index_select` up to the table printer. -/
def indexSelectRows (schema : Schema) (selected : List SelectedColumn)
    (whereValue : Bytes) (state : EngineState) (memory : Option Nat) :
    EngineState × Except Bytes (List (List Bytes)) :=
  match parseIntStrict whereValue with
  | none => (state, .error (ascii "WHERE id value must be an integer"))
  | some whereId =>
      match tableIndexFindRow state.dataDir schema whereId state.index memory with
      | (index, .error text, _) => ({ state with index := index }, .error text)
      | (index, .ok none, _) => ({ state with index := index }, .ok [])
      | (index, .ok (some rowOffset), _) =>
          ({ state with index := index },
            match readRowAtOffsetCsv state.dataDir schema.storageName
                rowOffset with
            | .error text => .error text
            | .ok fields =>
                if fields.length ≠ schema.columns.length then
                  .error (ascii "CSV row does not match schema column count")
                else .ok [selectedRow selected fields whereId])

/-- The loop of `execute_select` over the lines behind the header. -/
def selectLoop (statement : SelectStatement) (schema : Schema)
    (selected : List SelectedColumn) (whereIndex : Option Nat) :
    List Bytes -> Int -> Except Bytes (List (List Bytes))
  | [], _ => .ok []
  | line :: lines, currentInternalId =>
      if lineText line = [] then
        selectLoop statement schema selected whereIndex lines currentInternalId
      else
        match csvParseLine (lineText line) with
        | .error text => .error text
        | .ok fields =>
            if fields.length ≠ schema.columns.length then
              .error (ascii "CSV row does not match schema column count")
            else
              match selectLoop statement schema selected whereIndex lines
                  (currentInternalId + 1) with
              | .error text => .error text
              | .ok rows =>
                  if rowMatchesWhere statement fields whereIndex then
                    .ok (selectedRow selected fields currentInternalId :: rows)
                  else .ok rows

/-- The scan of `execute_select` on an open file. -/
def scanSelect (statement : SelectStatement) (schema : Schema)
    (selected : List SelectedColumn) (whereIndex : Option Nat)
    (contents : Bytes) : Except Bytes (List (List Bytes)) :=
  match fgets lineSize contents with
  | none => .error (ascii "table data file is empty")
  | some (_, rest) =>
      selectLoop statement schema selected whereIndex (readLines lineSize rest) 1

/-- The full scan of `execute_select`. -/
def scanSelectRows (statement : SelectStatement) (schema : Schema)
    (selected : List SelectedColumn) (whereIndex : Option Nat)
    (dataDir : DataDir) : Except Bytes (List (List Bytes)) :=
  match dataDir.files schema.storageName with
  | .error errno =>
      .error (formatSystemError (ascii "failed to open table data file")
        (buildPath dataDir.path schema.storageName (ascii ".csv")) errno)
  | .ok file =>
      scanSelect statement schema selected whereIndex file.contents

def whereIdValue (statement : SelectStatement) : Option Bytes :=
  match statement.condition with
  | none => none
  | some condition =>
      if condition.whereColumn = ascii "id" then some condition.whereValue
      else none

/-- `execute_select` up to the table printer. -/
def selectTable (schemaDir : SchemaDir) (statement : SelectStatement)
    (memory : Option Nat) (state : EngineState) :
    EngineState × Except Bytes ResultTable :=
  match loadSchema schemaDir state.dataDir statement.tableName with
  | .error text => (state, .error text)
  | .ok schema =>
      match buildSelectIndexes statement schema with
      | .error text => (state, .error text)
      -- a count of 0 leaves the message of the zeroed result
      | .ok [] => (state, .error [])
      | .ok (first :: more) =>
          let selected := first :: more
          match resolveWhereIndex statement schema with
          | .error text => (state, .error text)
          | .ok whereIndex =>
              match whereIdValue statement with
              | some whereValue =>
                  let read :=
                    indexSelectRows schema selected whereValue state memory
                  (read.1, read.2.map (resultTable selected))
              | none =>
                  (state,
                    (scanSelectRows statement schema selected whereIndex
                      state.dataDir).map (resultTable selected))

/-!
## Printing the table
-/

def computeTableWidths (table : ResultTable) : List Nat :=
  table.headers.zipIdx.map fun header =>
    table.rows.foldl
      (fun width row => max width (utf8DisplayWidth (row.getD header.2 [])))
      (utf8DisplayWidth header.1)

/-- `print_table_border`. -/
def tableBorder (columnWidths : List Nat) : Bytes :=
  ascii "+" ++
    columnWidths.flatMap
      (fun width => List.replicate (width + 2) 0x2D ++ ascii "+") ++
    ascii "\n"

/-- `print_table_row`. -/
def tableRow (row : List Bytes) (columnWidths : List Nat) : Bytes :=
  ascii "|" ++
    (row.zip columnWidths).flatMap
      (fun cell =>
        ascii " " ++ cell.1 ++
          List.replicate (cell.2 - utf8DisplayWidth cell.1) Byte.space ++
          ascii " |") ++
    ascii "\n"

def printResultTable (table : ResultTable) : Bytes :=
  let columnWidths := computeTableWidths table
  tableBorder columnWidths ++ tableRow table.headers columnWidths ++
    tableBorder columnWidths ++
    table.rows.flatMap (fun row => tableRow row columnWidths) ++
    tableBorder columnWidths

/-!
## Statements
-/

def selectResult : Except Bytes ResultTable -> ExecResult × Bytes
  | .error text => (execError text, [])
  | .ok table =>
      ({ ok := true
         affectedRows := table.rows.length
         message := ascii "SELECT " ++ decimalNat table.rows.length },
        printResultTable table)

def executeSelect (schemaDir : SchemaDir) (statement : SelectStatement)
    (memory : Option Nat) (state : EngineState) :
    EngineState × ExecResult × Bytes :=
  let read := selectTable schemaDir statement memory state
  (read.1, selectResult read.2)

/-- `execute_statement`: the state, the result, and the bytes put on out. -/
def executeStatement (schemaDir : SchemaDir) (statement : Statement)
    (faults : Faults) (state : EngineState) : EngineState × ExecResult × Bytes :=
  match statement with
  | .insertStatement statement =>
      match executeInsert schemaDir statement faults state with
      | (state, result) => (state, result, [])
  | .selectStatement statement =>
      executeSelect schemaDir statement faults.memory state

def executionRuntimeReset (state : EngineState) : EngineState :=
  { state with index := tableIndexRegistryReset state.index }

end Execution
end SqlCsvServer
