import SqlCsvServer.Common.EngineLock
import SqlCsvServer.Foundation.LockSystem
import SqlCsvServer.Foundation.Bytes

/-!
# Table locks: `engine/engine_lock_manager.c`

One list of entries, each the key of a table and a mutex of its own.  The mutex of
the manager guards the list; it is given back before the mutex of the entry is
taken.
-/

namespace SqlCsvServer
namespace Engine

open Foundation Common

structure EngineTableLockEntry where
  tableKey : Bytes
  mutex : Nat
deriving DecidableEq

/-- `EngineLockManager`, from its head on. -/
structure EngineLockManager where
  entries : List EngineTableLockEntry

def engineLockManagerInit : EngineLockManager :=
  { entries := [] }

def findEntry (manager : EngineLockManager) (tableKey : Bytes) : Option Nat :=
  (manager.entries.find? fun entry => decide (entry.tableKey = tableKey)).map
    EngineTableLockEntry.mutex

def addEntry (manager : EngineLockManager) (tableKey : Bytes) :
    EngineLockManager × Nat :=
  ({ entries :=
       { tableKey := tableKey, mutex := manager.entries.length } ::
         manager.entries },
    manager.entries.length)

section Acquire

variable {μ σ : Type} (get : σ -> EngineLockManager)
  (set : σ -> EngineLockManager -> σ)

/-- The end of `engine_lock_manager_acquire`: the mutex of the entry. -/
def lockEntry (entry : Nat) : LockProgram EngineLock μ σ (Except Bytes Nat) :=
  .choose fun refused =>
    if refused then .done (.error (ascii "failed to acquire table lock"))
    else .lock (.table entry) (.done (.ok entry))

def creationFails (text : Bytes) :
    LockProgram EngineLock μ σ (Except Bytes Nat) :=
  .unlock .manager (.done (.error text))

/-- The part of `engine_lock_manager_acquire` that creates an entry. -/
def createEntry (tableKey : Bytes) :
    LockProgram EngineLock μ σ (Except Bytes Nat) :=
  .choose fun refused =>
    if refused then
      creationFails (ascii "out of memory while creating table lock")
    else
      .choose fun refused =>
        if refused then
          creationFails (ascii "out of memory while copying table lock key")
        else
          .choose fun refused =>
            if refused then
              creationFails (ascii "failed to initialize table lock mutex")
            else
              .call
                (fun s =>
                  (set s (addEntry (get s) tableKey).1,
                    (addEntry (get s) tableKey).2))
                fun entry => .unlock .manager (lockEntry entry)

def engineLockManagerAcquire (tableKey : Bytes) :
    LockProgram EngineLock μ σ (Except Bytes Nat) :=
  .choose fun refused =>
    if refused then
      .done (.error (ascii "failed to acquire engine lock manager mutex"))
    else
      .lock .manager
        (.read (fun s => findEntry (get s) tableKey) fun
          | some entry => .unlock .manager (lockEntry entry)
          | none => createEntry get set tableKey)

def engineLockManagerRelease (entry : Nat) : LockProgram EngineLock μ σ Unit :=
  .unlock (.table entry) (.done ())

end Acquire

end Engine
end SqlCsvServer
