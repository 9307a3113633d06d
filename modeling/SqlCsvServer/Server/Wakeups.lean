import SqlCsvServer.Foundation.ThreadSum
import SqlCsvServer.Server.Server

/-!
# Waking the workers

Workers sleep on the condition variable of the queue.  A push signals it, a close
broadcasts it, and a worker may wake without either.  However these fall, there
are never fewer workers on their feet than tasks to be taken, unless all are.
-/

namespace SqlCsvServer
namespace Server

open Foundation

variable {workerCount capacity : Nat}

/-!
## The workers and their queue
-/

/-- The part of the server the workers run on. -/
structure Pool (workerCount capacity : Nat) where
  workers : Fin workerCount -> WorkerState
  taskQueue : ServerTaskQueue capacity

def Pool.setWorker (pool : Pool workerCount capacity)
    (worker : Fin workerCount) (next : WorkerState) : Pool workerCount capacity :=
  { pool with workers := Function.update pool.workers worker next }

def freshPool (workerCount : Nat) {capacity : Nat} (hcapacity : 0 < capacity) :
    Pool workerCount capacity :=
  { workers := fun _ => .popping
    taskQueue := serverTaskQueueInit hcapacity }

/-- A step of the loop of `server_worker_main` in one worker. -/
inductive PoolWorkerStep (pool : Pool workerCount capacity)
    (worker : Fin workerCount) : Pool workerCount capacity -> Prop where
  | wait (hat : pool.workers worker = .popping)
      (hpop : serverTaskQueuePop pool.taskQueue = .wait) :
      PoolWorkerStep pool worker (pool.setWorker worker (.asleep false))
  -- with or without a signal
  | wake {signalled : Bool} (hat : pool.workers worker = .asleep signalled) :
      PoolWorkerStep pool worker (pool.setWorker worker .popping)
  | leaveLoop (hat : pool.workers worker = .popping)
      (hpop : serverTaskQueuePop pool.taskQueue = .finished) :
      PoolWorkerStep pool worker (pool.setWorker worker .ended)
  | take {task : ServerTask} {left : ServerTaskQueue capacity}
      (actions : List SocketAction) (hat : pool.workers worker = .popping)
      (hpop : serverTaskQueuePop pool.taskQueue = .popped task left) :
      PoolWorkerStep pool worker
        { workers := Function.update pool.workers worker
            (.handling task.clientSocket actions)
          taskQueue := left }
  | act {socket : Socket} {action : SocketAction} {actions : List SocketAction}
      (hat : pool.workers worker = .handling socket (action :: actions)) :
      PoolWorkerStep pool worker
        (pool.setWorker worker (.handling socket actions))
  | acted {socket : Socket} (hat : pool.workers worker = .handling socket []) :
      PoolWorkerStep pool worker (pool.setWorker worker .popping)

/-- A push, a close, or a step of a worker. -/
inductive PoolStep (pool : Pool workerCount capacity) :
    Pool workerCount capacity -> Prop where
  | push {task : ServerTask} {queue : ServerTaskQueue capacity}
      {workers : Fin workerCount -> WorkerState}
      (hpush : serverTaskQueueTryPush pool.taskQueue task = (queue, true))
      (hsignal : Signals pool.workers workers) :
      PoolStep pool { workers := workers, taskQueue := queue }
  | pushFails {task : ServerTask} {queue : ServerTaskQueue capacity}
      (hpush : serverTaskQueueTryPush pool.taskQueue task = (queue, false)) :
      PoolStep pool { pool with taskQueue := queue }
  | close :
      PoolStep pool
        { workers := broadcast pool.workers
          taskQueue := serverTaskQueueClose pool.taskQueue }
  | worker (worker : Fin workerCount) {next : Pool workerCount capacity}
      (h : PoolWorkerStep pool worker next) : PoolStep pool next

/-- Workers on a queue that anybody may push to and close at any time. -/
def poolSystem (workerCount : Nat) {capacity : Nat} (hcapacity : 0 < capacity) :
    Transition (Pool workerCount capacity) :=
  { start := fun pool => pool = freshPool workerCount hcapacity
    step := PoolStep }

/-!
## Counting the workers
-/

/-- 1 for a worker that has not left its loop. -/
def WorkerState.live : WorkerState -> Nat
  | .ended => 0
  | _ => 1

/-- 1 for a live worker that does not sleep without a signal. -/
def WorkerState.onFeet : WorkerState -> Nat
  | .ended => 0
  | .asleep false => 0
  | _ => 1

theorem onFeet_le_live (worker : WorkerState) : worker.onFeet ≤ worker.live := by
  cases worker with
  | popping => exact Nat.le_refl _
  | asleep signalled => cases signalled <;> decide
  | handling socket actions => exact Nat.le_refl _
  | ended => exact Nat.le_refl _

theorem live_le_one (worker : WorkerState) : worker.live ≤ 1 := by
  cases worker with
  | popping => exact Nat.le_refl _
  | asleep signalled => exact Nat.le_refl _
  | handling socket actions => exact Nat.le_refl _
  | ended => exact Nat.zero_le _

theorem onFeet_eq_live {worker : WorkerState} (h : worker ≠ .asleep false) :
    worker.onFeet = worker.live := by
  cases worker with
  | popping => rfl
  | asleep signalled =>
      cases signalled with
      | false => exact absurd rfl h
      | true => rfl
  | handling socket actions => rfl
  | ended => rfl

/-- The number of live workers. -/
def Pool.live (pool : Pool workerCount capacity) : Nat :=
  threadSum WorkerState.live pool.workers

/-- The number of live workers that do not sleep without a signal. -/
def Pool.onFeet (pool : Pool workerCount capacity) : Nat :=
  threadSum WorkerState.onFeet pool.workers

structure NoneForgotten (pool : Pool workerCount capacity) : Prop where
  enough : min pool.taskQueue.count pool.live ≤ pool.onFeet
  closed : pool.taskQueue.closed = true ->
    forall worker, pool.workers worker ≠ .asleep false

section Counting

variable {pool : Pool workerCount capacity}

theorem live_setWorker (worker : Fin workerCount) (next : WorkerState) :
    (pool.setWorker worker next).live + (pool.workers worker).live =
      pool.live + next.live :=
  threadSum_update WorkerState.live pool.workers worker next

theorem onFeet_setWorker (worker : Fin workerCount) (next : WorkerState) :
    (pool.setWorker worker next).onFeet + (pool.workers worker).onFeet =
      pool.onFeet + next.onFeet :=
  threadSum_update WorkerState.onFeet pool.workers worker next

theorem Pool.onFeet_eq_live
    (h : forall worker, pool.workers worker ≠ .asleep false) :
    pool.onFeet = pool.live :=
  threadSum_congr fun worker => Server.onFeet_eq_live (h worker)

end Counting

/-!
## Signals and broadcasts
-/

section Wakes

variable {before after : Fin workerCount -> WorkerState}

theorem Signals.onFeet_le (h : Signals before after) (worker : Fin workerCount) :
    (before worker).onFeet ≤ (after worker).onFeet := by
  rcases h.only_wakes worker with hsame | ⟨hbefore, hafter⟩
  · rw [hsame]
  · rw [hbefore, hafter]
    decide

theorem Signals.live_eq (h : Signals before after) (worker : Fin workerCount) :
    (after worker).live = (before worker).live := by
  rcases h.only_wakes worker with hsame | ⟨hbefore, hafter⟩
  · rw [hsame]
  · rw [hbefore, hafter]
    rfl

theorem broadcast_ne_asleep (workers : Fin workerCount -> WorkerState)
    (worker : Fin workerCount) : broadcast workers worker ≠ .asleep false := by
  unfold broadcast
  cases workers worker <;> simp

theorem Signals.onFeet_grows (h : Signals before after) :
    threadSum WorkerState.onFeet before < threadSum WorkerState.onFeet after ∨
      threadSum WorkerState.onFeet before = threadSum WorkerState.live before := by
  by_cases hsleeper : exists worker, before worker = .asleep false
  · rcases hsleeper with ⟨worker, hworker⟩
    rcases h.wakes_one worker hworker with ⟨woken, hbefore, hafter⟩
    apply Or.inl
    apply threadSum_lt h.onFeet_le
    rw [hbefore, hafter]
    decide
  · apply Or.inr
    apply threadSum_congr
    intro worker
    exact onFeet_eq_live fun hworker => hsleeper ⟨worker, hworker⟩

end Wakes

/-!
## Steps
-/

theorem noneForgotten_fresh (hcapacity : 0 < capacity) :
    NoneForgotten (freshPool workerCount hcapacity) := by
  constructor
  · exact Nat.le_trans (Nat.min_le_left _ _) (Nat.zero_le _)
  · intro hclosed
    cases hclosed

theorem noneForgotten_push {pool : Pool workerCount capacity}
    {task : ServerTask} {queue : ServerTaskQueue capacity}
    {workers : Fin workerCount -> WorkerState} (h : NoneForgotten pool)
    (hpush : serverTaskQueueTryPush pool.taskQueue task = (queue, true))
    (hsignal : Signals pool.workers workers) :
    NoneForgotten { workers := workers, taskQueue := queue } := by
  rcases tryPush_cases pool.taskQueue task with
    ⟨_, _, _, hwaiting, hopen⟩ | ⟨hrefused, _⟩
  · rw [hpush] at hwaiting hopen
    constructor
    · have hcount : queue.count = pool.taskQueue.count + 1 := by
        have hlength := congrArg List.length hwaiting
        simpa [ServerTaskQueue.waiting] using hlength
      have hlive : threadSum WorkerState.live workers = pool.live :=
        threadSum_congr hsignal.live_eq
      have hkept : pool.onFeet ≤ threadSum WorkerState.onFeet workers :=
        threadSum_le hsignal.onFeet_le
      have henough := h.enough
      change min queue.count (threadSum WorkerState.live workers) ≤
        threadSum WorkerState.onFeet workers
      rw [hcount, hlive]
      rcases hsignal.onFeet_grows with hmore | hall
      · change pool.onFeet < _ at hmore
        omega
      · change pool.onFeet = pool.live at hall
        omega
    · intro hclosed
      rw [hopen] at hclosed
      cases hclosed
  · rw [hpush] at hrefused
    cases hrefused

theorem noneForgotten_close (pool : Pool workerCount capacity) :
    NoneForgotten
      { workers := broadcast pool.workers
        taskQueue := serverTaskQueueClose pool.taskQueue } where
  enough := by
    rw [Pool.onFeet_eq_live (broadcast_ne_asleep pool.workers)]
    exact Nat.min_le_right _ _
  closed := fun _ => broadcast_ne_asleep pool.workers

theorem noneForgotten_stays {pool : Pool workerCount capacity}
    (h : NoneForgotten pool) (worker : Fin workerCount) {next : WorkerState}
    {queue : ServerTaskQueue capacity} (hcount : queue.count ≤ pool.taskQueue.count)
    (hclosed : queue.closed = pool.taskQueue.closed)
    (hlive : next.live = (pool.workers worker).live)
    (hup : next.onFeet = 1) :
    NoneForgotten
      { workers := Function.update pool.workers worker next
        taskQueue := queue } := by
  have hmovedLive := @live_setWorker workerCount capacity pool worker next
  have hmovedUp := @onFeet_setWorker workerCount capacity pool worker next
  have hwasUp := Server.onFeet_le_live (pool.workers worker)
  have hatMost := live_le_one next
  constructor
  · have henough := h.enough
    change min queue.count (pool.setWorker worker next).live ≤
      (pool.setWorker worker next).onFeet
    omega
  · intro hnow other
    by_cases hother : other = worker
    · rw [hother]
      change Function.update pool.workers worker next worker ≠ .asleep false
      rw [Function.update_self]
      intro hasleep
      rw [hasleep] at hup
      cases hup
    · change Function.update pool.workers worker next other ≠ .asleep false
      rw [Function.update_of_ne hother]
      exact h.closed (hclosed ▸ hnow) other

theorem noneForgotten_worker {pool next : Pool workerCount capacity}
    {worker : Fin workerCount} (h : NoneForgotten pool)
    (hstep : PoolWorkerStep pool worker next) : NoneForgotten next := by
  cases hstep with
  | wait hat hpop =>
      rcases pop_waits hpop with ⟨hopen, hcount⟩
      constructor
      · change min pool.taskQueue.count _ ≤ _
        rw [hcount]
        exact Nat.le_trans (Nat.min_le_left _ _) (Nat.zero_le _)
      · intro hclosed
        change pool.taskQueue.closed = true at hclosed
        rw [hopen] at hclosed
        cases hclosed
  | wake hat =>
      exact noneForgotten_stays h worker (Nat.le_refl _) rfl
        (by rw [hat]; rfl) rfl
  | leaveLoop hat hpop =>
      rcases pop_finished hpop with ⟨hclosed, hcount⟩
      constructor
      · change min pool.taskQueue.count _ ≤ _
        rw [hcount]
        exact Nat.le_trans (Nat.min_le_left _ _) (Nat.zero_le _)
      · intro _ other
        by_cases hother : other = worker
        · rw [hother]
          change Function.update pool.workers worker .ended worker ≠ _
          rw [Function.update_self]
          exact fun hfalse => by cases hfalse
        · change Function.update pool.workers worker .ended other ≠ _
          rw [Function.update_of_ne hother]
          exact h.closed hclosed other
  | take actions hat hpop =>
      rcases pop_popped hpop with ⟨hwaiting, hclosed⟩
      have hlength := congrArg List.length hwaiting
      simp only [ServerTaskQueue.waiting, RingBuffer.toList_length,
        List.length_cons] at hlength
      exact noneForgotten_stays h worker (by omega) hclosed
        (by rw [hat]; rfl) rfl
  | act hat =>
      exact noneForgotten_stays h worker (Nat.le_refl _) rfl
        (by rw [hat]; rfl) rfl
  | acted hat =>
      exact noneForgotten_stays h worker (Nat.le_refl _) rfl
        (by rw [hat]; rfl) rfl

theorem noneForgotten_kept (hcapacity : 0 < capacity) :
    (poolSystem workerCount hcapacity).Kept NoneForgotten := by
  intro pool next h hstep
  cases hstep with
  | push hpush hsignal => exact noneForgotten_push h hpush hsignal
  | @pushFails task queue hpush =>
      rcases tryPush_cases pool.taskQueue task with
        ⟨haccepted, _⟩ | ⟨_, _, hsame⟩
      · rw [hpush] at haccepted
        cases haccepted
      · rw [hpush] at hsame
        rw [show queue = pool.taskQueue from hsame]
        exact h
  | close => exact noneForgotten_close pool
  | worker worker hworker => exact noneForgotten_worker h hworker

/--
In every reachable state as many live workers are up as there are tasks, or all
of them; and once the queue is closed none sleeps without a signal.
-/
theorem no_lost_wakeup (hcapacity : 0 < capacity)
    {pool : Pool workerCount capacity}
    (hreach : (poolSystem workerCount hcapacity).Reachable pool) :
    min pool.taskQueue.count pool.live ≤ pool.onFeet ∧
      (pool.taskQueue.closed = true ->
        forall worker, pool.workers worker ≠ .asleep false) := by
  have h := (noneForgotten_kept hcapacity).reachable
    (fun pool hstart => by
      change pool = freshPool workerCount hcapacity at hstart
      rw [hstart]
      exact noneForgotten_fresh hcapacity)
    hreach
  exact ⟨h.enough, h.closed⟩

theorem no_lost_wakeup_sample :
    exists pool : Pool 1 1,
      (poolSystem 1 Nat.one_pos).Reachable pool ∧ pool.taskQueue.count = 1 ∧
        min pool.taskQueue.count pool.live ≤ pool.onFeet := by
  have hsleeps : PoolStep (freshPool 1 Nat.one_pos)
      ((freshPool 1 Nat.one_pos).setWorker 0 (.asleep false)) :=
    .worker 0 (.wait rfl rfl)
  have hpushed : PoolStep
      ((freshPool 1 Nat.one_pos).setWorker 0 (.asleep false))
      { workers := fun _ => .asleep true
        taskQueue :=
          (serverTaskQueueTryPush (serverTaskQueueInit Nat.one_pos)
            { clientSocket := 7 }).1 } := by
    apply PoolStep.push
    · rfl
    · constructor
      · intro worker
        exact Or.inr ⟨by rw [Subsingleton.elim worker 0]; rfl, rfl⟩
      · intro worker hworker
        exact ⟨worker, hworker, rfl⟩
  have hreach : (poolSystem 1 Nat.one_pos).Reachable _ :=
    ⟨freshPool 1 Nat.one_pos, rfl, (Relation.ReflTransGen.single hsleeps).tail
      hpushed⟩
  exact ⟨_, hreach, rfl, (no_lost_wakeup Nat.one_pos hreach).1⟩

/-!
## The workers of the server
-/

/-- The workers and the queue of a server. -/
def ServerState.pool (server : ServerState workerCount capacity) :
    Pool workerCount capacity :=
  { workers := server.workers, taskQueue := server.taskQueue }

theorem workerStep_pool {server next : ServerState workerCount capacity}
    {worker : Fin workerCount} (h : WorkerStep server worker next) :
    PoolWorkerStep server.pool worker next.pool := by
  cases h with
  | wait hat hpop => exact .wait hat hpop
  | wake hat => exact .wake hat
  | leaveLoop hat hpop => exact .leaveLoop hat hpop
  | take readError routed hat hpop =>
      exact .take (handleClientRequest readError routed) hat hpop
  | act hat => exact .act hat
  | acted hat => exact .acted hat

theorem serverStep_pool {server next : ServerState workerCount capacity}
    (h : ServerStep server next) :
    next.pool = server.pool ∨ PoolStep server.pool next.pool := by
  cases h with
  | accept haccept =>
      cases haccept with
      | push hat hpush hsignal => exact Or.inr (.push hpush hsignal)
      | pushFails hat hpush => exact Or.inr (.pushFails hpush)
      | keepRunning hat hmutex hflag => exact Or.inl rfl
      | leaveLoop hat hmutex hflag => exact Or.inl rfl
      | acceptFails hat => exact Or.inl rfl
      | breakLoop hat hmutex hflag => exact Or.inl rfl
      | tryAgain hat hmutex hflag => exact Or.inl rfl
      | acceptReturns hat => exact Or.inl rfl
      | act hat => exact Or.inl rfl
      | acted hat => exact Or.inl rfl
  | worker worker hworker => exact Or.inr (.worker worker (workerStep_pool hworker))
  | shutdown caller hshutdown =>
      cases hshutdown with
      | closeQueue hat => exact Or.inr .close
      | lock hat hmutex => exact Or.inl rfl
      | repeated hat hflag => exact Or.inl rfl
      | setFlag hat hflag => exact Or.inl rfl
      | noListenSocket hat hlisten => exact Or.inl rfl
      | shutDownListenSocket hat hlisten => exact Or.inl rfl
      | closeListenSocket hat => exact Or.inl rfl
      | forgetListenSocket hat => exact Or.inl rfl
      | unlock hat => exact Or.inl rfl

theorem serverSystem_pool (hcapacity : 0 < capacity)
    {server : ServerState workerCount capacity}
    (hreach : (serverSystem workerCount hcapacity).Reachable server) :
    (poolSystem workerCount hcapacity).Reachable server.pool := by
  apply hreach.view
  · intro first hfirst
    change first = startedServer workerCount hcapacity at hfirst
    rw [hfirst]
    rfl
  · intro s t hstep
    exact serverStep_pool hstep

end Server
end SqlCsvServer
