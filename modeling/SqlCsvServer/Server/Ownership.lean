import Mathlib.Data.List.Basic
import SqlCsvServer.Server.Lifecycle

/-!
# Who owns what the server takes

For each function of the server's life there is a triple: what it is handed, and what is
held when it returns, by its result.  Where a function that fails keeps something,
the triple says what.
-/

namespace SqlCsvServer
namespace Server
namespace Lifecycle

open Foundation Common Ledger

variable {may : Stop -> Prop} {fails : Resource -> Bool} {environment : StartEnvironment}

/-!
## Creating
-/

/-- What `sqlapi_server_create` takes in all. -/
def serverParts : Multiset Resource :=
  ↑[Resource.server, .host, .schemaDir, .dataDir, .stateMutex, .queueItems, .queueMutex,
    .queueNotEmpty, .registryMutex, .managerMutex]

def listens (environment : StartEnvironment) (candidate : Nat) : Bool :=
  !environment.fails (.socket candidate) && !environment.bindFails candidate

def boundCandidate (environment : StartEnvironment) : Option Nat :=
  (List.range environment.candidates).find? (listens environment)

def socketOf : Option Nat -> Multiset Resource
  | none => 0
  | some candidate => {.socket candidate}

def workers (count : Nat) : Multiset Resource :=
  (List.range count).map Resource.worker

/-- What `engine_lock_manager_acquire` takes for a key. -/
def lockParts (key : Nat) : Multiset Resource :=
  ↑[Resource.lockMutex key, .lockKey key, .lockEntry key]

def registryBlock (capacity : Nat) : Multiset Resource :=
  ifTaken (capacity != 0) (.registryItems capacity)

def tableNames (tables : List Nat) : Multiset Resource :=
  tables.map Resource.tableName

def SqlApiServer.owned (server : SqlApiServer) : Multiset Resource :=
  serverParts + socketOf server.listenSocket + (server.lockEntries.map lockParts).sum +
    tableNames server.tables + registryBlock server.registryCapacity

/-- The threads of a server, and the array that the pool keeps of its workers. -/
def threads (workerCount : Nat) : Multiset Resource :=
  {.workerThreads} + {.acceptThread} + workers workerCount

section Owned

variable {server : SqlApiServer} {resource : Resource}

end Owned

section ShuttingDown

variable {server : SqlApiServer}

/-- The server after `sqlapi_server_request_shutdown`. -/
def SqlApiServer.shutDown (server : SqlApiServer) : SqlApiServer :=
  if server.shuttingDown then server
  else { server with shuttingDown := true, listenSocket := none }

def SqlApiServer.signalled (server : SqlApiServer) (comes : Bool) : SqlApiServer :=
  if comes then server.shutDown else server

structure Signalled (server after : SqlApiServer) (comes : Bool) : Prop where
  workerCount : after.workerCount = server.workerCount
  started : after.started = server.started
  silentClient : after.silentClient = server.silentClient
  tables : after.tables = server.tables
  registryCapacity : after.registryCapacity = server.registryCapacity
  shuttingDown : after.shuttingDown = (server.shuttingDown || comes)
  listenSocket : after.listenSocket =
    if comes && !server.shuttingDown then none else server.listenSocket

theorem signalled_signalled (server : SqlApiServer) (comes : Bool) :
    Signalled server (server.signalled comes) comes := by
  unfold SqlApiServer.signalled SqlApiServer.shutDown
  cases comes with
  | false => exact ⟨rfl, rfl, rfl, rfl, rfl, (Bool.or_false _).symm, rfl⟩
  | true =>
      rw [if_pos rfl]
      cases hdown : server.shuttingDown with
      | false => exact ⟨rfl, rfl, rfl, rfl, rfl, by rw [hdown]; rfl, by rw [hdown]; rfl⟩
      | true => exact ⟨rfl, rfl, rfl, rfl, rfl, by rw [hdown]; exact hdown, by rw [hdown]; rfl⟩

end ShuttingDown

/-!
## The start as a whole
-/

section Start

variable {server : SqlApiServer} {signals : Signals}

/-- The server that `sqlapi_server_start` makes of it. -/
def SqlApiServer.startedAt (server : SqlApiServer) (signals : Signals) (candidate : Nat) :
    SqlApiServer :=
  { ({ server with listenSocket := some candidate : SqlApiServer }.signalled
      signals.listening).signalled signals.poolStarted with started := true }

end Start

/-!
## Running
-/

section Running

variable {server : SqlApiServer}

/--
A server whose threads run.  Once a shutdown is requested, the socket that it still has
is `kept`, and nothing will close it.
-/
structure Serving (kept : Option Nat) (workerCount : Nat) (server : SqlApiServer) :
    Prop where
  started : server.started = true
  workerCount_eq : server.workerCount = workerCount
  /-- The tables fit into the block of the registry. -/
  fits : server.tables.length ≤ server.registryCapacity
  listening : server.shuttingDown = false -> kept = none
  left : server.shuttingDown = true -> server.listenSocket = kept

variable {kept : Option Nat} {workerCount : Nat} {silent : Prop}

theorem Serving.shutDown (h : Serving kept workerCount server) :
    Serving kept workerCount server.shutDown := by
  unfold SqlApiServer.shutDown
  cases hdown : server.shuttingDown with
  | true => exact h
  | false =>
      exact
        { started := h.started
          workerCount_eq := h.workerCount_eq
          fits := h.fits
          listening := fun hopen => nomatch hopen
          left := fun _ => (h.listening hdown).symm }

end Running

/-!
## Ending
-/

section Ending

variable {server : SqlApiServer}

variable {signals : Nat -> Bool} {calls : List (Ledger Resource Unit)} {index : Nat}

end Ending

end Lifecycle
end Server
end SqlCsvServer
