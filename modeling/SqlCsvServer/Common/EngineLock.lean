/-!
# The mutexes of the engine

A call of the engine takes the mutex of the lock manager to find the entry of its
table, then the mutex of that entry, and under it the mutexes of the index registry
and of the test hooks.
-/

namespace SqlCsvServer
namespace Common

inductive EngineLock where
  /-- `manager->mutex`. -/
  | manager
  /-- The mutex of the entry of the lock manager with this number. -/
  | table (entry : Nat)
  /-- `registry_mutex`. -/
  | registry
  /-- `test_hook_mutex`. -/
  | testHook
deriving DecidableEq

def EngineLock.rank : EngineLock -> Nat
  | .manager => 0
  | .table _ => 1
  | .registry => 2
  | .testHook => 2

def EngineLock.tableWeight : EngineLock -> Nat
  | .table _ => 1
  | _ => 0

theorem EngineLock.rank_lt (lock : EngineLock) : lock.rank < 3 := by
  cases lock with
  | manager => decide
  | table entry => exact Nat.succ_lt_succ (Nat.zero_lt_succ 1)
  | registry => decide
  | testHook => decide

end Common
end SqlCsvServer
