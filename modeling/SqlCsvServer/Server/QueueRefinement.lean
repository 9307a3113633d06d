import SqlCsvServer.Foundation.BoundedFifo
import SqlCsvServer.Server.TaskQueue

/-!
# The task queue is a bounded queue

Each call holds the mutex of the queue, so the calls of all threads happen one
after another.  In whatever order they come, the ring buffer answers as the list
of the waiting tasks does.
-/

namespace SqlCsvServer
namespace Server

open Foundation

variable {capacity : Nat}

/-- A call of a queue function; `none` is a pop that would wait. -/
def queueStep (queue : ServerTaskQueue capacity) :
    FifoOperation ServerTask ->
      Option (ServerTaskQueue capacity × FifoAnswer ServerTask)
  | .tryPush task =>
      let pushed := serverTaskQueueTryPush queue task
      some (pushed.1, .pushed pushed.2)
  | .pop =>
      match serverTaskQueuePop queue with
      | .wait => none
      | .finished => some (queue, .popped none)
      | .popped task left => some (left, .popped (some task))
  | .close => some (serverTaskQueueClose queue, .closed)
  | .depth => some (queue, .depth (serverTaskQueueDepth queue))

/-- The list that a ring buffer stands for. -/
def ServerTaskQueue.fifo (queue : ServerTaskQueue capacity) :
    BoundedFifo ServerTask capacity :=
  { waiting := queue.waiting
    closed := queue.closed
    waiting_le := by
      unfold ServerTaskQueue.waiting
      rw [RingBuffer.toList_length]
      exact queue.count_le }

theorem waiting_length (queue : ServerTaskQueue capacity) :
    queue.waiting.length = queue.count :=
  queue.toRingBuffer.toList_length

theorem fifo_init (hcapacity : 0 < capacity) :
    (serverTaskQueueInit hcapacity).fifo = BoundedFifo.empty ServerTask capacity :=
  BoundedFifo.ext (waiting_init hcapacity) rfl

/-!
## One call
-/

section Step

variable (queue : ServerTaskQueue capacity)

theorem tryPush_accepts_iff (task : ServerTask) :
    (serverTaskQueueTryPush queue task).2 = true <->
      queue.closed = false ∧ queue.waiting.length < capacity := by
  rw [waiting_length]
  rcases tryPush_cases queue task with
    ⟨haccepted, hopen, hroom, _, _⟩ | ⟨hrefused, hfull, _⟩
  · simp [haccepted, hopen, hroom]
  · simp [hrefused, hfull]

theorem pop_cases :
    (serverTaskQueuePop queue = .wait ∧ queue.waiting = [] ∧
        queue.closed = false) ∨
      (serverTaskQueuePop queue = .finished ∧ queue.waiting = [] ∧
        queue.closed = true) ∨
      exists task left,
        serverTaskQueuePop queue = .popped task left ∧
          queue.waiting = task :: left.waiting ∧ left.closed = queue.closed := by
  cases hpop : serverTaskQueuePop queue with
  | wait =>
      rcases pop_waits hpop with ⟨hopen, hcount⟩
      exact Or.inl ⟨rfl, (waiting_eq_nil_iff queue).mpr hcount, hopen⟩
  | finished =>
      rcases pop_finished hpop with ⟨hclosed, hcount⟩
      exact Or.inr (Or.inl
        ⟨rfl, (waiting_eq_nil_iff queue).mpr hcount, hclosed⟩)
  | popped task left =>
      exact Or.inr (Or.inr ⟨task, left, rfl, pop_popped hpop⟩)

theorem queueStep_fifo (operation : FifoOperation ServerTask) :
    (queueStep queue operation).map (Prod.map ServerTaskQueue.fifo id) =
      queue.fifo.step operation := by
  cases operation with
  | tryPush task =>
      rcases tryPush_cases queue task with
        ⟨haccepted, hopen, hroom, hwaiting, hstill⟩ | ⟨hrefused, hfull, hsame⟩
      · have hfits : queue.fifo.waiting.length < capacity := by
          change queue.waiting.length < capacity
          rw [waiting_length]
          exact hroom
        have hview : (serverTaskQueueTryPush queue task).1.fifo =
            queue.fifo.push task hfits :=
          BoundedFifo.ext hwaiting (hstill.trans hopen.symm)
        rw [BoundedFifo.step_push_accepted hopen hfits, ← hview]
        simp [queueStep, haccepted]
      · have hrefuses : ¬ (queue.fifo.closed = false ∧
            queue.fifo.waiting.length < capacity) := by
          change ¬ (queue.closed = false ∧ queue.waiting.length < capacity)
          rw [waiting_length]
          exact hfull
        rw [BoundedFifo.step_push_refused hrefuses]
        simp [queueStep, hrefused, hsame]
  | pop =>
      rcases pop_cases queue with
        ⟨hpop, hnone, hopen⟩ | ⟨hpop, hnone, hclosed⟩ |
          ⟨task, left, hpop, hwaiting, hsame⟩
      · rw [BoundedFifo.step_pop_blocks hnone hopen]
        simp only [queueStep, hpop]
        rfl
      · rw [BoundedFifo.step_pop_finished hnone hclosed]
        simp only [queueStep, hpop]
        rfl
      · have hview : left.fifo = queue.fifo.tail := by
          apply BoundedFifo.ext
          · change left.waiting = queue.waiting.tail
            rw [hwaiting]
            rfl
          · exact hsame
        rw [BoundedFifo.step_pop_item hwaiting, ← hview]
        simp only [queueStep, hpop]
        rfl
  | close => rfl
  | depth =>
      have hcount : queue.fifo.waiting.length = serverTaskQueueDepth queue :=
        waiting_length queue
      simp only [queueStep, BoundedFifo.step, hcount]
      rfl

end Step

/-!
## Runs of calls
-/

/--
From a fresh queue of any capacity, every run of calls answers as the bounded
queue does.  After it, the accepted tasks are the popped ones followed by those
that wait, and these decide what every further call returns.
-/
theorem queue_refines_bounded_fifo (hcapacity : 0 < capacity)
    (operations : List (FifoOperation ServerTask)) :
    (runOperations queueStep operations (serverTaskQueueInit hcapacity)).map
        (Prod.map ServerTaskQueue.fifo id) =
      runOperations BoundedFifo.step operations
        (BoundedFifo.empty ServerTask capacity) ∧
    forall queue answers,
      runOperations queueStep operations (serverTaskQueueInit hcapacity) =
          some (queue, answers) ->
        acceptedItems operations answers =
            poppedItems answers ++ queue.waiting ∧
          (queue.closed = true <-> FifoOperation.close ∈ operations) ∧
          (forall task,
            (serverTaskQueueTryPush queue task).2 = true <->
              queue.closed = false ∧
                (acceptedItems operations answers).length <
                  (poppedItems answers).length + capacity) ∧
          (serverTaskQueuePop queue = .wait <->
            queue.closed = false ∧
              acceptedItems operations answers = poppedItems answers) ∧
          (serverTaskQueuePop queue = .finished <->
            queue.closed = true ∧
              acceptedItems operations answers = poppedItems answers) ∧
          (forall task left,
            serverTaskQueuePop queue = .popped task left ->
              acceptedItems operations answers =
                poppedItems answers ++ task :: left.waiting) ∧
          (poppedItems answers).length + serverTaskQueueDepth queue =
            (acceptedItems operations answers).length ∧
          queue.count ≤ capacity ∧
          queue.tail = (queue.head + queue.count) % capacity := by
  have hview := runOperations_view queueStep_fifo operations
    (serverTaskQueueInit hcapacity)
  rw [fifo_init] at hview
  refine ⟨hview, ?_⟩
  intro queue answers hrun
  rw [hrun] at hview
  rcases BoundedFifo.runOperations_conserves operations hview.symm with
    ⟨hitems, hclosed⟩
  have haccepted : acceptedItems operations answers =
      poppedItems answers ++ queue.waiting := hitems
  have hlength := congrArg List.length haccepted
  rw [List.length_append, waiting_length] at hlength
  have hdrained :
      acceptedItems operations answers = poppedItems answers <->
        queue.waiting = [] := by
    simp [haccepted]
  refine ⟨haccepted, ?_, ?_, ?_, ?_, ?_, hlength.symm, queue.count_le,
    queue.tail_eq⟩
  · exact hclosed.trans (by simp [BoundedFifo.empty])
  · intro task
    rw [tryPush_accepts_iff, waiting_length, hlength, Nat.add_lt_add_iff_left]
  · rw [hdrained]
    rcases pop_cases queue with
      ⟨hpop, hnone, hopen⟩ | ⟨hpop, hnone, hshut⟩ |
        ⟨task, left, hpop, hwaiting, _⟩
    · simp [hpop, hnone, hopen]
    · simp [hpop, hshut]
    · simp [hpop, hwaiting]
  · rw [hdrained]
    rcases pop_cases queue with
      ⟨hpop, hnone, hopen⟩ | ⟨hpop, hnone, hshut⟩ |
        ⟨task, left, hpop, hwaiting, _⟩
    · simp [hpop, hopen]
    · simp [hpop, hnone, hshut]
    · simp [hpop, hwaiting]
  · intro task left hpop
    rw [haccepted, (pop_popped hpop).1]

def sampleOperations : List (FifoOperation ServerTask) :=
  [.tryPush { clientSocket := 1 }, .tryPush { clientSocket := 2 }, .pop,
    .tryPush { clientSocket := 3 }, .close]

theorem queue_refines_bounded_fifo_sample :
    exists queue answers,
      runOperations queueStep sampleOperations
          (@serverTaskQueueInit 1 Nat.one_pos) = some (queue, answers) ∧
        (poppedItems answers).length + serverTaskQueueDepth queue =
          (acceptedItems sampleOperations answers).length := by
  have hrun : (runOperations queueStep sampleOperations
      (@serverTaskQueueInit 1 Nat.one_pos)).isSome = true := by
    decide
  rcases Option.isSome_iff_exists.mp hrun with ⟨⟨queue, answers⟩, hqueue⟩
  exists queue, answers
  constructor
  · exact hqueue
  · exact ((queue_refines_bounded_fifo Nat.one_pos _).2 queue answers
      hqueue).2.2.2.2.2.2.1

end Server
end SqlCsvServer
