import SqlCsvServer.Engine.Adapter
import SqlCsvServer.Engine.LockManager
import SqlCsvServer.Execution.Programs
import SqlCsvServer.Foundation.LockOrder

/-!
# `sql_engine_adapter_execute` step by step

A call finds its schema, acquires the lock of its table, works under it, and gives
it back, whichever way it leaves.  Any number of calls may do so at once.
-/

namespace SqlCsvServer
namespace Engine

open Foundation Common Storage Index Sql Execution

/-!
## The program of a call
-/

/-- What the calls share. -/
structure EngineShared where
  lockManager : EngineLockManager
  memory : EngineMemory
  hooks : TestHooks

def EngineShared.setMemory (shared : EngineShared) (memory : EngineMemory) :
    EngineShared :=
  { shared with memory := memory }

def EngineShared.setLockManager (shared : EngineShared)
    (lockManager : EngineLockManager) : EngineShared :=
  { shared with lockManager := lockManager }

abbrev EngineProgram (ρ : Type) : Type :=
  LockProgram EngineLock IndexPointer EngineShared ρ

def currentDelayAfterLockMs : EngineProgram Nat :=
  .lock .testHook
    (.read (fun shared => shared.hooks.delayAfterLockMs) fun delay =>
      .unlock .testHook (.done delay))

/-- `consume_forced_next_error` under its mutex. -/
def takeForcedNextError (shared : EngineShared) :
    EngineShared × SqlEngineErrorCode :=
  ({ shared with hooks := { shared.hooks with forcedNextError := .none } },
    shared.hooks.forcedNextError)

/-- `consume_forced_next_error`. -/
def consumeForcedNextErrorProgram : EngineProgram SqlEngineErrorCode :=
  .lock .testHook
    (.call takeForcedNextError fun code => .unlock .testHook (.done code))

/-- `sql_engine_adapter_execute` between acquire and release. -/
def adapterBodyProgram (config : SqlEngineAdapterConfig) (statement : Statement)
    (environment : CallEnvironment) : EngineProgram SqlEngineAdapterResult :=
  currentDelayAfterLockMs.andThen fun _ =>
    consumeForcedNextErrorProgram.andThen fun forcedError =>
      if forcedError ≠ .none then
        .done (setError zeroResult forcedError (forcedErrorMessage forcedError))
      else if environment.tmpfileFails then
        .done (setError zeroResult .internalError
          (ascii "failed to create SQL output buffer"))
      else
        ((executeStatementProgram config.schemaDir statement
            environment.faults).lift EngineShared.memory
            EngineShared.setMemory).andThen fun executed =>
          .done (executedResult statement environment executed.1 executed.2)

/-- `sql_engine_adapter_execute` from the acquire on. -/
def lockedProgram (config : SqlEngineAdapterConfig) (statement : Statement)
    (environment : CallEnvironment) (storageName : Bytes) :
    EngineProgram SqlEngineAdapterResult :=
  (engineLockManagerAcquire EngineShared.lockManager
      EngineShared.setLockManager storageName).andThen fun
    | .error text => .done (acquireFailed environment text)
    | .ok entry =>
        (adapterBodyProgram config statement environment).andThen fun result =>
          (engineLockManagerRelease entry).andThen fun _ => .done result

/-- `sql_engine_adapter_execute`. -/
def adapterProgram (config : SqlEngineAdapterConfig)
    (environment : CallEnvironment) (sql : Option Bytes) :
    EngineProgram SqlEngineAdapterResult :=
  match prepareSql config environment sql with
  | .error result => .done result
  | .ok statement =>
      .read (fun shared =>
          loadSchema config.schemaDir shared.memory.dataDir
            (statementTableName statement))
        fun
        | .error text => .done (schemaError text)
        | .ok schema =>
            lockedProgram config statement environment schema.storageName

end Engine
end SqlCsvServer
