import SqlCsvServer.Common.Util
import SqlCsvServer.Foundation.Ledger

/-!
# What the server owns: `sqlapi_server_create` to `sqlapi_server_destroy`

Memory, mutexes, sockets and threads are taken when the server is created, started and
used, and given back when a step fails or at the end.  What they are used for in between
is the subject of other modules.
-/

namespace SqlCsvServer
namespace Server
namespace Lifecycle

open Foundation Common Ledger

/-!
## Resources
-/

/-- What the server takes, by the names under which the source holds it. -/
inductive Resource where
  | server
  | host
  | schemaDir
  | dataDir
  | stateMutex
  | queueItems
  | queueMutex
  | queueNotEmpty
  | registryMutex
  | registryItems (capacity : Nat)
  | tableName (table : Nat)
  | managerMutex
  | lockEntry (key : Nat)
  | lockKey (key : Nat)
  | lockMutex (key : Nat)
  | addresses
  | socket (candidate : Nat)
  | workerThreads
  | worker (index : Nat)
  | acceptThread
deriving DecidableEq

@[ext]
structure SqlApiServerConfig where
  host : Bytes
  port : Int
  workerCount : Int
  queueCapacity : Int
  schemaDir : Bytes
  dataDir : Bytes
  requestBodyLimit : Nat
  sqlLengthLimit : Nat
  headerLimit : Nat
deriving DecidableEq

/-- What the operating system answers while the server is created and started. -/
structure StartEnvironment where
  directoryExists : Bytes -> Bool
  fails : Resource -> Bool
  /-- The number of addresses that `getaddrinfo` lists. -/
  candidates : Nat
  /-- `bind` or `listen` fails on the socket of this candidate. -/
  bindFails : Nat -> Bool
  socketErrno : Errno

/--
The gaps in which a signal comes, from the creation of the server on.  While the threads
run it comes as an event of `serve`.
-/
structure Signals where
  beforeStart : Bool
  /-- Behind `open_listen_socket`. -/
  listening : Bool
  /-- Behind `server_worker_pool_start`. -/
  poolStarted : Bool
  /-- In `sqlapi_server_destroy`, behind so many calls that give something back. -/
  ending : Nat -> Bool

/-- `SqlApiServer` with its pool, lock manager and index registry: what they own. -/
structure SqlApiServer where
  workerCount : Nat
  listenSocket : Option Nat
  shuttingDown : Bool
  started : Bool
  /-- A thread is held by a client that never answers. -/
  silentClient : Bool
  /-- The keys of the entries of the lock manager, from its head. -/
  lockEntries : List Nat
  registryCapacity : Nat
  /-- The tables of the entries of the index registry. -/
  tables : List Nat

/-!
## Creating
-/

section Create

variable (fails : Resource -> Bool)

def serverTaskQueueInit : Ledger Resource (Except Bytes Unit) := do
  if ← acquire fails .queueItems then
    if ← acquire fails .queueMutex then
      if ← acquire fails .queueNotEmpty then
        return .ok ()
      else
        releaseAll [.queueMutex, .queueItems]
        return .error (ascii "failed to initialize task queue condition")
    else
      release .queueItems
      return .error (ascii "failed to initialize task queue mutex")
  else
    return .error (ascii "out of memory while creating task queue")

/-- The message with which `engine_lock_manager_init` fails. -/
def managerError : Bytes :=
  ascii "failed to initialize engine lock manager mutex"

def engineLockManagerInit : Ledger Resource (Except Bytes Unit) := do
  if ← acquire fails .managerMutex then
    return .ok ()
  else
    return .error managerError

def freeTaken (taken : Bool) (resource : Resource) : Ledger Resource Unit :=
  if taken then release resource else return

end Create

def serverTaskQueueClose : Ledger Resource Unit := do
  touch .queueMutex
  touch .queueNotEmpty

/-- `sql_platform_shutdown_socket` and `sql_platform_close_socket`. -/
def closeListenSocket : Option Nat -> Ledger Resource Unit
  | some candidate => release (.socket candidate)
  | none => return

def sqlapiServerRequestShutdown (server : SqlApiServer) :
    Ledger Resource SqlApiServer := do
  touch .stateMutex
  if server.shuttingDown then
    return server
  else
    closeListenSocket server.listenSocket
    serverTaskQueueClose
    return { server with shuttingDown := true, listenSocket := none }

/-- The loop of `open_listen_socket` over the addresses. -/
def tryCandidates (environment : StartEnvironment) :
    Nat -> Nat -> Ledger Resource (Option Nat)
  | 0, _ => return none
  | remaining + 1, candidate => do
      if ← acquire environment.fails (.socket candidate) then
        if environment.bindFails candidate then
          release (.socket candidate)
          tryCandidates environment remaining (candidate + 1)
        else
          return some candidate
      else
        tryCandidates environment remaining (candidate + 1)

def openListenSocket (environment : StartEnvironment) :
    Ledger Resource (Except Bytes Nat) := do
  if ← acquire environment.fails .addresses then
    match ← tryCandidates environment environment.candidates 0 with
    | some candidate =>
        release .addresses
        return .ok candidate
    | none =>
        release .addresses
        return .error
          (message (ascii "failed to bind or listen: " ++ strerror environment.socketErrno))
  else
    return .error (ascii "failed to resolve listen address")

/-- What happens while the server runs, as far as something is taken, given back or held. -/
inductive ServerEvent where
  /-- `engine_lock_manager_acquire`. -/
  | lockTable (key : Nat) (fails : Resource -> Bool)
  /-- `get_or_create_table_index`. -/
  | loadTable (table : Nat) (fails : Resource -> Bool)
  /-- A connection is queued whose client never answers: it will hold a worker. -/
  | silentClient
  | requestShutdown

/-- `engine_lock_manager_acquire`: the entry of a key that has none. -/
def createLockEntry (fails : Resource -> Bool) (key : Nat) (server : SqlApiServer) :
    Ledger Resource SqlApiServer := do
  if ← acquire fails (.lockEntry key) then
    if ← acquire fails (.lockKey key) then
      if ← acquire fails (.lockMutex key) then
        touch (.lockMutex key)
        return { server with lockEntries := key :: server.lockEntries }
      else
        releaseAll [.lockKey key, .lockEntry key]
        return server
    else
      release (.lockEntry key)
      return server
  else
    return server

/-- `get_or_create_table_index` from `copy_string` on. -/
def addTable (fails : Resource -> Bool) (table : Nat) (server : SqlApiServer) :
    Ledger Resource SqlApiServer := do
  touch (.registryItems server.registryCapacity)
  if ← acquire fails (.tableName table) then
    return { server with tables := server.tables ++ [table] }
  else
    return server

/-- `get_or_create_table_index` for a table that has no entry. -/
def createTableIndex (fails : Resource -> Bool) (table : Nat) (server : SqlApiServer) :
    Ledger Resource SqlApiServer := do
  if server.tables.length = server.registryCapacity then
    let capacity := if server.registryCapacity = 0 then 4 else server.registryCapacity * 2
    if ← acquire fails (.registryItems capacity) then
      -- realloc gives the old block back
      freeTaken (server.registryCapacity != 0) (.registryItems server.registryCapacity)
      addTable fails table { server with registryCapacity := capacity }
    else
      return server
  else
    addTable fails table server

def ServerEvent.run (server : SqlApiServer) : ServerEvent -> Ledger Resource SqlApiServer
  | .lockTable key fails => do
      touch .managerMutex
      if key ∈ server.lockEntries then
        touch (.lockMutex key)
        return server
      else
        createLockEntry fails key server
  | .loadTable table fails => do
      touch .registryMutex
      if table ∈ server.tables then
        return server
      else
        createTableIndex fails table server
  | .silentClient => do
      touch .queueMutex
      if server.shuttingDown then
        return server
      else
        return { server with silentClient := true }
  | .requestShutdown => sqlapiServerRequestShutdown server

/-- Everything that happens until the threads have ended. -/
def serve (events : List ServerEvent) (server : SqlApiServer) :
    Ledger Resource SqlApiServer :=
  match events with
  | [] => return server
  | event :: events => do
      let server ← event.run server
      serve events server

/-!
## Ending
-/

def tableIndexRegistryReset (server : SqlApiServer) : Ledger Resource Unit := do
  touch .registryMutex
  releaseAll (server.tables.map Resource.tableName)
  freeTaken (server.registryCapacity != 0) (.registryItems server.registryCapacity)

end Lifecycle
end Server
end SqlCsvServer
