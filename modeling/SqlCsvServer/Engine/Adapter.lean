import SqlCsvServer.Engine.ErrorCode
import SqlCsvServer.Execution.Select
import SqlCsvServer.Sql.Parser

/-!
# From SQL text to an engine result: `engine/sql_engine_adapter.c`

`adapterBody` is what `sql_engine_adapter_execute` does while it holds
the lock of its table; `sqlEngineAdapterExecute` is a whole call with nobody
else around.
-/

namespace SqlCsvServer
namespace Engine

open Foundation Common Storage Index Sql Execution

/-!
## Configuration, environment and result
-/

/-- `SqlEngineAdapterConfig`; the data directory is part of the state. -/
structure SqlEngineAdapterConfig where
  schemaDir : SchemaDir
  sqlLengthLimit : Nat

/-- What the environment does to one call. -/
structure CallEnvironment where
  faults : Faults
  /-- `tmpfile` fails. -/
  tmpfileFails : Bool
  /-- The message with which `read_stream_to_string` fails. -/
  captureError : Option Bytes
  /--
  What `set_error` finds of a message that stands in the very buffer it writes to.
  The C standard leaves this open.
  -/
  selfCopy : Bytes -> Bytes
  /-- The two measured times, in thousandths of a millisecond. -/
  elapsedMs : Int
  wallElapsedMs : Int

/-- `SqlEngineAdapterResult`; `none` is an output of `NULL`. -/
structure SqlEngineAdapterResult where
  ok : Bool
  errorCode : SqlEngineErrorCode
  errorMessage : Bytes
  statementType : Bytes
  affectedRows : Nat
  summary : Bytes
  output : Option Bytes
  elapsedMs : Int
  wallElapsedMs : Int
deriving DecidableEq

def zeroResult : SqlEngineAdapterResult :=
  { ok := false
    errorCode := .none
    errorMessage := []
    statementType := []
    affectedRows := 0
    summary := []
    output := none
    elapsedMs := 0
    wallElapsedMs := 0 }

def setError (result : SqlEngineAdapterResult) (code : SqlEngineErrorCode)
    (text : Bytes) : SqlEngineAdapterResult :=
  { result with ok := false, errorCode := code, errorMessage := message text }

def statementTypeName : Statement -> Bytes
  | .insertStatement _ => ascii "insert"
  | .selectStatement _ => ascii "select"

def statementTableName : Statement -> Bytes
  | .insertStatement statement => statement.tableName
  | .selectStatement statement => statement.tableName

/-!
## Before the lock
-/

def isBlankSql (sql : Bytes) : Bool :=
  (cString sql).all fun b =>
    b == Byte.space || b == Byte.tab || b == Byte.carriageReturn ||
      b == Byte.lineFeed

/-- The code for a statement that `parse_statement` refuses. -/
def parseErrorCode (text : Bytes) : SqlEngineErrorCode :=
  if strstr text (ascii "only INSERT and SELECT are supported") ∨
      strstr text (ascii "AND/OR conditions are not supported") then
    .unsupportedSql
  else .sqlParseError

/-- The steps of a call up to `load_schema`; `none` is a NULL text. -/
def prepareSql (config : SqlEngineAdapterConfig) (environment : CallEnvironment) :
    Option Bytes -> Except SqlEngineAdapterResult Statement
  | none =>
      .error (setError zeroResult .invalidSqlArgument
        (ascii "SQL statement must not be blank"))
  | some sql =>
      if isBlankSql sql then
        .error (setError zeroResult .invalidSqlArgument
          (ascii "SQL statement must not be blank"))
      else if 0 < config.sqlLengthLimit ∧
          config.sqlLengthLimit < (cString sql).length then
        .error (setError zeroResult .payloadTooLarge
          (ascii "SQL statement exceeds configured length limit"))
      else
        match lexSql sql with
        | .error text =>
            .error (setError zeroResult .sqlLexError (environment.selfCopy text))
        | .ok tokens =>
            match parseStatement tokens with
            | .error text => .error (setError zeroResult (parseErrorCode text) text)
            | .ok statement => .ok statement

def classifySchemaLoadError (text : Bytes) : SqlEngineErrorCode :=
  if strstr text (ascii "failed to open table data file") ∨
      strstr text (ascii "table data file is empty") ∨
      strstr text (ascii "failed to open schema meta file") then
    .storageIoError
  else .schemaLoadError

def schemaError (text : Bytes) : SqlEngineAdapterResult :=
  setError zeroResult (classifySchemaLoadError text) text

/-!
## Under the lock
-/

def comparesId : Statement -> Bool
  | .insertStatement _ => false
  | .selectStatement statement => (whereIdValue statement).isSome

/-- The messages of `classify_execution_error` that blame the statement. -/
def argumentErrors : List Bytes :=
  [ascii "WHERE id value must be an integer",
    ascii "explicit id column is not allowed",
    ascii "unknown column in INSERT",
    ascii "unknown column in SELECT",
    ascii "unknown column in WHERE",
    ascii "column count and value count do not match",
    ascii "duplicate column in INSERT",
    ascii "newline in value is not supported"]

/-- The messages of `classify_execution_error` that blame the files. -/
def storageErrors : List Bytes :=
  [ascii "failed to open table data file",
    ascii "table data file is empty",
    ascii "failed to open table file"]

def classifyExecutionError (statement : Statement) (text : Bytes) :
    SqlEngineErrorCode :=
  if argumentErrors.any (strstr text) then .invalidSqlArgument
  else if storageErrors.any (strstr text) then .storageIoError
  else if comparesId statement ∨
      strstr text (ascii "forced index registration failure") then
    .indexRebuildError
  else .engineExecutionError

/-- The test hooks of the adapter. -/
structure TestHooks where
  forcedNextError : SqlEngineErrorCode
  delayAfterLockMs : Nat

def forcedErrorMessage : SqlEngineErrorCode -> Bytes
  | .engineExecutionError => ascii "forced engine execution failure"
  | .internalError => ascii "forced internal adapter failure"
  | .indexRebuildError => ascii "forced index rebuild failure"
  | .schemaLoadError => ascii "forced schema load failure"
  | _ => ascii "forced adapter failure"

/-- Everything the calls share: files, index and test hooks. -/
structure World where
  engine : EngineState
  hooks : TestHooks

def consumeForcedNextError (world : World) : World × SqlEngineErrorCode :=
  ({ world with hooks := { world.hooks with forcedNextError := .none } },
    world.hooks.forcedNextError)

def executedResult (statement : Statement) (environment : CallEnvironment)
    (executed : ExecResult) (printed : Bytes) : SqlEngineAdapterResult :=
  if executed.ok then
    let result : SqlEngineAdapterResult :=
      { zeroResult with
        ok := true
        statementType := snprintf 16 (statementTypeName statement)
        affectedRows := executed.affectedRows
        summary := message executed.message }
    let timed := fun (output : Bytes) =>
      { result with
        output := some output
        elapsedMs := environment.elapsedMs
        wallElapsedMs := environment.wallElapsedMs }
    match statement, environment.captureError with
    | .insertStatement _, _ => timed []
    | .selectStatement _, none => timed (cString printed)
    | .selectStatement _, some text =>
        setError result .internalError (environment.selfCopy text)
  else
    setError zeroResult (classifyExecutionError statement executed.message)
      executed.message

/-- `sql_engine_adapter_execute` behind the two test hooks. -/
def executeUnderLock (config : SqlEngineAdapterConfig) (statement : Statement)
    (environment : CallEnvironment) (world : World) :
    World × SqlEngineAdapterResult :=
  let executed :=
    executeStatement config.schemaDir statement environment.faults world.engine
  ({ world with engine := executed.1 },
    executedResult statement environment executed.2.1 executed.2.2)

/-- `sql_engine_adapter_execute` between acquire and release. -/
def adapterBody (config : SqlEngineAdapterConfig) (statement : Statement)
    (environment : CallEnvironment) (world : World) :
    World × SqlEngineAdapterResult :=
  match consumeForcedNextError world with
  | (world, forcedError) =>
      if forcedError ≠ .none then
        (world,
          setError zeroResult forcedError (forcedErrorMessage forcedError))
      else if environment.tmpfileFails then
        (world,
          setError zeroResult .internalError
            (ascii "failed to create SQL output buffer"))
      else executeUnderLock config statement environment world

/-!
## The whole call
-/

def acquireFailed (environment : CallEnvironment) (text : Bytes) :
    SqlEngineAdapterResult :=
  setError zeroResult .internalError (environment.selfCopy text)

/--
`sql_engine_adapter_execute`; `acquireError` is the message with which
`engine_lock_manager_acquire` fails, if it does.
-/
def sqlEngineAdapterExecute (config : SqlEngineAdapterConfig)
    (environment : CallEnvironment) (acquireError : Option Bytes)
    (sql : Option Bytes) (world : World) : World × SqlEngineAdapterResult :=
  match prepareSql config environment sql with
  | .error result => (world, result)
  | .ok statement =>
      match loadSchema config.schemaDir world.engine.dataDir
          (statementTableName statement) with
      | .error text => (world, schemaError text)
      | .ok _ =>
          match acquireError with
          | some text => (world, acquireFailed environment text)
          | none => adapterBody config statement environment world

end Engine
end SqlCsvServer
