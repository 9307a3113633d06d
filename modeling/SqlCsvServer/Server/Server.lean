import Mathlib.Logic.Function.Basic
import SqlCsvServer.Engine.ErrorCode
import SqlCsvServer.Foundation.Transition
import SqlCsvServer.Server.TaskQueue

/-!
# Accept thread, workers and shutdown: `server/server.c`

One step of the system is one step of one thread: a critical section of the queue
mutex, one access under the state mutex, or one call on a socket.  What the threads
did to the connections is recorded beside the state, where no step looks at it.
-/

namespace SqlCsvServer
namespace Server

open Foundation
open Engine

/-!
## What a thread does with one connection
-/

/-- The calls on a client socket, and the look at the queue depth in between. -/
inductive SocketAction where
  | readRequest
  | sendSimpleError (code : SqlEngineErrorCode)
  | sendResponse
  | queueDepth
  | closeClientSocket
deriving DecidableEq

/--
`handle_client_request`, where `http_read_request` fails with a code or
succeeds, and where `http_route_request` then makes a response or not.
-/
def handleClientRequest (readError : Option SqlEngineErrorCode)
    (routed : Bool) : List SocketAction :=
  match readError with
  | some code => [.readRequest, .sendSimpleError code, .closeClientSocket]
  | none =>
      [.readRequest, .queueDepth,
        if routed then .sendResponse else .sendSimpleError .internalError,
        .closeClientSocket]

/-- The calls of `server_accept_main` on a connection it cannot queue. -/
def rejectClient : List SocketAction :=
  [.sendSimpleError .queueFull, .closeClientSocket]

/-!
## Where the threads stand
-/

/-- `server_accept_main`. -/
inductive AcceptState where
  /-- Before the test of the loop. -/
  | checking
  /-- Before the call of `accept`. -/
  | accepting
  /-- `accept` failed; before the second look at `shutting_down`. -/
  | failed
  /-- Before `server_task_queue_try_push`. -/
  | pushing (socket : Socket)
  | rejecting (socket : Socket) (actions : List SocketAction)
  | ended

/-- `server_worker_main`. -/
inductive WorkerState where
  /-- Before a pass through `server_task_queue_pop`. -/
  | popping
  /-- In `pthread_cond_wait`, woken or not. -/
  | asleep (signalled : Bool)
  | handling (socket : Socket) (actions : List SocketAction)
  | ended

/-- One call of `sqlapi_server_request_shutdown`. -/
inductive ShutdownState where
  | calling
  /-- Holds the state mutex; before the test of `shutting_down`. -/
  | locked
  /-- Has set the flag; before the test of `listen_socket`. -/
  | flagged
  /-- Has shut the listen socket down; before closing it. -/
  | shutDown
  /-- Has closed it; before storing `SQL_INVALID_SOCKET`. -/
  | closed
  /-- Before `server_task_queue_close`. -/
  | closingQueue
  | unlocking
  | returned
deriving DecidableEq

/-- What happened to the connections so far. -/
structure History (workerCount : Nat) where
  /-- accept has returned the connections below this number. -/
  accepted : Nat
  queued : List Socket
  rejected : List Socket
  /-- Which worker took which connection from the queue. -/
  handled : List (Fin workerCount × Socket)
  closed : List Socket
  errorsSent : List (Socket × SqlEngineErrorCode)
  listenCloses : Nat

/-- `struct SqlApiServer` with its threads. -/
structure ServerState (workerCount capacity : Nat) where
  acceptThread : AcceptState
  workers : Fin workerCount -> WorkerState
  callers : Nat -> ShutdownState
  /-- The shutdown call that holds `state_mutex`. -/
  stateMutex : Option Nat
  shuttingDown : Bool
  /-- `listen_socket` is not `SQL_INVALID_SOCKET`. -/
  listenSocket : Bool
  taskQueue : ServerTaskQueue capacity
  history : History workerCount

variable {workerCount capacity : Nat}

/-- The server as `sqlapi_server_start` leaves it. -/
def startedServer (workerCount : Nat) {capacity : Nat}
    (hcapacity : 0 < capacity) : ServerState workerCount capacity :=
  { acceptThread := .checking
    workers := fun _ => .popping
    callers := fun _ => .calling
    stateMutex := none
    shuttingDown := false
    listenSocket := true
    taskQueue := serverTaskQueueInit hcapacity
    history :=
      { accepted := 0
        queued := []
        rejected := []
        handled := []
        closed := []
        errorsSent := []
        listenCloses := 0 } }

/-!
## Effects
-/

def History.record (history : History workerCount) (socket : Socket) :
    SocketAction -> History workerCount
  | .sendSimpleError code =>
      { history with errorsSent := (socket, code) :: history.errorsSent }
  | .closeClientSocket =>
      { history with closed := socket :: history.closed }
  | .readRequest => history
  | .sendResponse => history
  | .queueDepth => history

/-- `pthread_cond_signal`: it wakes at least one thread if any waits. -/
structure Signals (before after : Fin workerCount -> WorkerState) : Prop where
  only_wakes : forall w, after w = before w ∨
    (before w = .asleep false ∧ after w = .asleep true)
  wakes_one : forall w, before w = .asleep false ->
    exists woken, before woken = .asleep false ∧ after woken = .asleep true

/-- `pthread_cond_broadcast`. -/
def broadcast (workers : Fin workerCount -> WorkerState) :
    Fin workerCount -> WorkerState :=
  fun w =>
    match workers w with
    | .asleep _ => .asleep true
    | other => other

def ServerState.setWorker (server : ServerState workerCount capacity)
    (worker : Fin workerCount) (next : WorkerState) :
    ServerState workerCount capacity :=
  { server with workers := Function.update server.workers worker next }

def ServerState.setCaller (server : ServerState workerCount capacity)
    (caller : Nat) (next : ShutdownState) : ServerState workerCount capacity :=
  { server with callers := Function.update server.callers caller next }

def ServerState.setAccept (server : ServerState workerCount capacity)
    (next : AcceptState) : ServerState workerCount capacity :=
  { server with acceptThread := next }

def ServerState.record (server : ServerState workerCount capacity)
    (socket : Socket) (action : SocketAction) :
    ServerState workerCount capacity :=
  { server with history := server.history.record socket action }

/-!
## Steps
-/

/-- A step of `server_accept_main`. -/
inductive AcceptStep (server : ServerState workerCount capacity) :
    ServerState workerCount capacity -> Prop where
  | keepRunning (hat : server.acceptThread = .checking)
      (hmutex : server.stateMutex = none)
      (hflag : server.shuttingDown = false) :
      AcceptStep server (server.setAccept .accepting)
  | leaveLoop (hat : server.acceptThread = .checking)
      (hmutex : server.stateMutex = none)
      (hflag : server.shuttingDown = true) :
      AcceptStep server (server.setAccept .ended)
  | acceptFails (hat : server.acceptThread = .accepting) :
      AcceptStep server (server.setAccept .failed)
  | breakLoop (hat : server.acceptThread = .failed)
      (hmutex : server.stateMutex = none)
      (hflag : server.shuttingDown = true) :
      AcceptStep server (server.setAccept .ended)
  | tryAgain (hat : server.acceptThread = .failed)
      (hmutex : server.stateMutex = none)
      (hflag : server.shuttingDown = false) :
      AcceptStep server (server.setAccept .checking)
  -- accept may still return a connection while the listen socket is being closed
  | acceptReturns (hat : server.acceptThread = .accepting) :
      AcceptStep server
        { server with
          acceptThread := .pushing server.history.accepted
          history :=
            { server.history with accepted := server.history.accepted + 1 } }
  | push {socket : Socket} {queue : ServerTaskQueue capacity}
      {workers : Fin workerCount -> WorkerState}
      (hat : server.acceptThread = .pushing socket)
      (hpush : serverTaskQueueTryPush server.taskQueue
        { clientSocket := socket } = (queue, true))
      (hsignal : Signals server.workers workers) :
      AcceptStep server
        { server with
          acceptThread := .checking
          workers := workers
          taskQueue := queue
          history :=
            { server.history with queued := server.history.queued ++ [socket] } }
  | pushFails {socket : Socket} {queue : ServerTaskQueue capacity}
      (hat : server.acceptThread = .pushing socket)
      (hpush : serverTaskQueueTryPush server.taskQueue
        { clientSocket := socket } = (queue, false)) :
      AcceptStep server
        { server with
          acceptThread := .rejecting socket rejectClient
          taskQueue := queue
          history :=
            { server.history with
              rejected := server.history.rejected ++ [socket] } }
  | act {socket : Socket} {action : SocketAction} {actions : List SocketAction}
      (hat : server.acceptThread = .rejecting socket (action :: actions)) :
      AcceptStep server
        ((server.record socket action).setAccept (.rejecting socket actions))
  | acted {socket : Socket}
      (hat : server.acceptThread = .rejecting socket []) :
      AcceptStep server (server.setAccept .checking)

/-- A step of `server_worker_main` in one worker. -/
inductive WorkerStep (server : ServerState workerCount capacity)
    (worker : Fin workerCount) : ServerState workerCount capacity -> Prop where
  | wait (hat : server.workers worker = .popping)
      (hpop : serverTaskQueuePop server.taskQueue = .wait) :
      WorkerStep server worker (server.setWorker worker (.asleep false))
  -- with or without a signal
  | wake {signalled : Bool}
      (hat : server.workers worker = .asleep signalled) :
      WorkerStep server worker (server.setWorker worker .popping)
  | leaveLoop (hat : server.workers worker = .popping)
      (hpop : serverTaskQueuePop server.taskQueue = .finished) :
      WorkerStep server worker (server.setWorker worker .ended)
  | take {task : ServerTask} {left : ServerTaskQueue capacity}
      (readError : Option SqlEngineErrorCode) (routed : Bool)
      (hat : server.workers worker = .popping)
      (hpop : serverTaskQueuePop server.taskQueue = .popped task left) :
      WorkerStep server worker
        { server with
          workers := Function.update server.workers worker
            (.handling task.clientSocket (handleClientRequest readError routed))
          taskQueue := left
          history :=
            { server.history with
              handled := server.history.handled ++
                [(worker, task.clientSocket)] } }
  | act {socket : Socket} {action : SocketAction} {actions : List SocketAction}
      (hat : server.workers worker = .handling socket (action :: actions)) :
      WorkerStep server worker
        ((server.record socket action).setWorker worker
          (.handling socket actions))
  | acted {socket : Socket}
      (hat : server.workers worker = .handling socket []) :
      WorkerStep server worker (server.setWorker worker .popping)

/-- A step of one call of `sqlapi_server_request_shutdown`. -/
inductive ShutdownStep (server : ServerState workerCount capacity)
    (caller : Nat) : ServerState workerCount capacity -> Prop where
  | lock (hat : server.callers caller = .calling)
      (hmutex : server.stateMutex = none) :
      ShutdownStep server caller
        { server.setCaller caller .locked with stateMutex := some caller }
  | repeated (hat : server.callers caller = .locked)
      (hflag : server.shuttingDown = true) :
      ShutdownStep server caller (server.setCaller caller .unlocking)
  | setFlag (hat : server.callers caller = .locked)
      (hflag : server.shuttingDown = false) :
      ShutdownStep server caller
        { server.setCaller caller .flagged with shuttingDown := true }
  | noListenSocket (hat : server.callers caller = .flagged)
      (hlisten : server.listenSocket = false) :
      ShutdownStep server caller (server.setCaller caller .closingQueue)
  | shutDownListenSocket (hat : server.callers caller = .flagged)
      (hlisten : server.listenSocket = true) :
      ShutdownStep server caller (server.setCaller caller .shutDown)
  | closeListenSocket (hat : server.callers caller = .shutDown) :
      ShutdownStep server caller
        { server.setCaller caller .closed with
          history :=
            { server.history with
              listenCloses := server.history.listenCloses + 1 } }
  | forgetListenSocket (hat : server.callers caller = .closed) :
      ShutdownStep server caller
        { server.setCaller caller .closingQueue with listenSocket := false }
  | closeQueue (hat : server.callers caller = .closingQueue) :
      ShutdownStep server caller
        { server.setCaller caller .unlocking with
          workers := broadcast server.workers
          taskQueue := serverTaskQueueClose server.taskQueue }
  | unlock (hat : server.callers caller = .unlocking) :
      ShutdownStep server caller
        { server.setCaller caller .returned with stateMutex := none }

/-- A step of any thread. -/
inductive ServerStep (server : ServerState workerCount capacity) :
    ServerState workerCount capacity -> Prop where
  | accept {next} (h : AcceptStep server next) : ServerStep server next
  | worker (worker : Fin workerCount) {next}
      (h : WorkerStep server worker next) : ServerStep server next
  | shutdown (caller : Nat) {next} (h : ShutdownStep server caller next) :
      ServerStep server next

/-- The server from its start on. -/
def serverSystem (workerCount : Nat) {capacity : Nat}
    (hcapacity : 0 < capacity) :
    Transition (ServerState workerCount capacity) :=
  { start := fun server => server = startedServer workerCount hcapacity
    step := ServerStep }

end Server
end SqlCsvServer
