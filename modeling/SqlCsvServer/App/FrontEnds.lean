import SqlCsvServer.App.Main
import SqlCsvServer.Execution.IndexRun

/-!
# Two ways in, one engine

A statement that is typed at the prompt and one that is sent to the adapter of the server
go the same way through lexer, parser and executor.  So a session leaves the engine as the
same statements sent to the server would, and shows the same tables and errors.
-/

namespace SqlCsvServer
namespace App

open Foundation Common Storage Index Sql Execution Engine

/-!
## One statement
-/

/-- A statement, as it is typed and as it is sent. -/
structure SharedCall where
  sql : Bytes
  typed : CliCall
  sent : CallEnvironment

/-- Nothing but the faults of the executor, the same on both sides, is in the way. -/
structure SharedCall.Undisturbed (call : SharedCall) (config : SqlEngineAdapterConfig) :
    Prop where
  faults : call.sent.faults = call.typed.faults
  tmpfile : call.sent.tmpfileFails = false
  capture : call.sent.captureError = none
  notBlank : isBlankString call.sql = false
  inLimit : config.sqlLengthLimit = 0 ∨
    (cString call.sql).length ≤ config.sqlLengthLimit

section Statement

variable {schemaDir : SchemaDir} {statement : Statement} {faults : Faults}
  {state : EngineState}

end Statement

section Agreement

variable {config : SqlEngineAdapterConfig} {call : SharedCall} {world : World}

end Agreement

/-!
## A session
-/

/-- A line of the session that is taken as the statement it is. -/
structure PlainLine (environment : CliEnvironment) (sql : Bytes) : Prop where
  nulFree : NulFree sql
  oneLine : containsNewline sql = false
  trimmed : trimWhitespace sql = sql
  short : sql.length + 1 ≤ replLineSize - 1
  isStatement : lineKind sql = .execute sql
  noFile : forall dataDir, resolveBareArgumentFile environment dataDir sql = .ok false

section Lines

variable {environment : CliEnvironment} {sql : Bytes}

theorem PlainLine.lineKind (h : PlainLine environment sql) :
    lineKind (sql ++ [Byte.lineFeed]) = .execute sql := by
  rw [← h.isStatement]
  unfold App.lineKind
  rw [lineText_append_lineFeed]

theorem PlainLine.execute (h : PlainLine environment sql) (call : CliCall)
    (state : EngineState) :
    executeArgumentOrSql environment call sql false state =
      match executeSqlText environment.schemaDir call sql state with
      | (after, printed, none) => ({ state := after, out := printed, err := [] }, true)
      | (after, printed, some text) =>
          ({ state := after, out := printed, err := errorLine text }, false) := by
  unfold executeArgumentOrSql loadSqlFromArgument
  rw [h.noFile]
  rfl

end Lines

end App
end SqlCsvServer
