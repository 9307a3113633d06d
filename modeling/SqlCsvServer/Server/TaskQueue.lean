import SqlCsvServer.Foundation.RingBuffer

/-!
# The bounded task queue: `server/task_queue.c`

Every function holds the mutex of the queue from its first to its last access, so
each is one step; only `server_task_queue_pop` gives the mutex up in between,
and `serverTaskQueuePop` is one pass through its loop.
-/

namespace SqlCsvServer
namespace Server

open Foundation

/-- A client connection, numbered in the order in which accept returns them. -/
abbrev Socket := Nat

structure ServerTask where
  clientSocket : Socket
deriving DecidableEq

/-- `ServerTaskQueue`; the ring buffer carries the bounds of its indices. -/
structure ServerTaskQueue (capacity : Nat) extends
    RingBuffer ServerTask capacity where
  closed : Bool

variable {capacity : Nat}

/-- The tasks that wait in the queue, the oldest first. -/
def ServerTaskQueue.waiting (queue : ServerTaskQueue capacity) :
    List ServerTask :=
  queue.toRingBuffer.toList

def serverTaskQueueInit (hcapacity : 0 < capacity) : ServerTaskQueue capacity :=
  { toRingBuffer := RingBuffer.empty { clientSocket := 0 } hcapacity
    closed := false }

/-- `server_task_queue_try_push`: the queue afterwards and `pushed`. -/
def serverTaskQueueTryPush (queue : ServerTaskQueue capacity)
    (task : ServerTask) : ServerTaskQueue capacity × Bool :=
  if h : queue.closed = false ∧ queue.count < capacity then
    ({ queue with toRingBuffer := queue.toRingBuffer.push task h.2 }, true)
  else (queue, false)

/-- What one pass through `server_task_queue_pop` comes to. -/
inductive PopOutcome (capacity : Nat) where
  /-- The caller has to wait on `not_empty`. -/
  | wait
  /-- The call returns 0. -/
  | finished
  /-- The call returns 1 with this task. -/
  | popped (task : ServerTask) (left : ServerTaskQueue capacity)

/-- `server_task_queue_pop` with the mutex held. -/
def serverTaskQueuePop (queue : ServerTaskQueue capacity) :
    PopOutcome capacity :=
  if h : queue.count = 0 then
    if queue.closed = false then .wait else .finished
  else
    .popped queue.front
      { queue with
        toRingBuffer := queue.toRingBuffer.pop (Nat.pos_of_ne_zero h) }

def serverTaskQueueClose (queue : ServerTaskQueue capacity) :
    ServerTaskQueue capacity :=
  { queue with closed := true }

def serverTaskQueueDepth (queue : ServerTaskQueue capacity) : Nat :=
  queue.count

/-!
## What the operations do to the waiting tasks
-/

@[simp] theorem waiting_init (hcapacity : 0 < capacity) :
    (serverTaskQueueInit hcapacity).waiting = [] :=
  RingBuffer.toList_empty _ hcapacity

@[simp] theorem waiting_close (queue : ServerTaskQueue capacity) :
    (serverTaskQueueClose queue).waiting = queue.waiting :=
  rfl

theorem waiting_eq_nil_iff (queue : ServerTaskQueue capacity) :
    queue.waiting = [] <-> queue.count = 0 :=
  queue.toRingBuffer.toList_eq_nil_iff

theorem tryPush_cases (queue : ServerTaskQueue capacity) (task : ServerTask) :
    ((serverTaskQueueTryPush queue task).2 = true ∧ queue.closed = false ∧
        queue.count < capacity ∧
        (serverTaskQueueTryPush queue task).1.waiting =
          queue.waiting ++ [task] ∧
        (serverTaskQueueTryPush queue task).1.closed = false) ∨
      ((serverTaskQueueTryPush queue task).2 = false ∧
        ¬ (queue.closed = false ∧ queue.count < capacity) ∧
        (serverTaskQueueTryPush queue task).1 = queue) := by
  unfold serverTaskQueueTryPush
  split
  · rename_i h
    exact Or.inl ⟨rfl, h.1, h.2, queue.toRingBuffer.toList_push task h.2, h.1⟩
  · rename_i h
    exact Or.inr ⟨rfl, h, rfl⟩

theorem pop_popped {queue left : ServerTaskQueue capacity} {task : ServerTask}
    (h : serverTaskQueuePop queue = .popped task left) :
    queue.waiting = task :: left.waiting ∧ left.closed = queue.closed := by
  unfold serverTaskQueuePop at h
  split at h
  · split at h <;> cases h
  · rename_i hcount
    cases h
    exact ⟨queue.toRingBuffer.toList_pop (Nat.pos_of_ne_zero hcount), rfl⟩

theorem pop_waits {queue : ServerTaskQueue capacity}
    (h : serverTaskQueuePop queue = .wait) :
    queue.closed = false ∧ queue.count = 0 := by
  unfold serverTaskQueuePop at h
  split at h
  · rename_i hcount
    split at h
    · rename_i hopen
      exact ⟨hopen, hcount⟩
    · cases h
  · cases h

theorem pop_finished {queue : ServerTaskQueue capacity}
    (h : serverTaskQueuePop queue = .finished) :
    queue.closed = true ∧ queue.count = 0 := by
  unfold serverTaskQueuePop at h
  split at h
  · rename_i hcount
    split at h
    · cases h
    · rename_i hclosed
      exact ⟨by simpa using hclosed, hcount⟩
  · cases h

end Server
end SqlCsvServer
