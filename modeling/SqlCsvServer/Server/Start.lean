import SqlCsvServer.Server.Wakeups

/-!
# Starting the server: `sqlapi_server_start`

The starting thread creates the workers of `server/worker_pool.c` and then the
accept thread.  When a creation fails it joins the workers it has created: behind
a closed queue if the accept thread was missing, and behind an open one if a worker
was.  A worker that waits on an open queue does not end.
-/

namespace SqlCsvServer
namespace Server

open Foundation

/-!
## Where the starting thread stands
-/

/-- Which call of `pthread_create` has failed. -/
inductive CreateFailure where
  | worker
  | acceptThread
deriving DecidableEq

/-- `sqlapi_server_start` with the two functions of the pool it calls. -/
inductive StartState where
  /-- Before `sql_platform_network_init`. -/
  | networkInit
  /-- Before `open_listen_socket`. -/
  | openListenSocket
  /-- In `server_worker_pool_start`, before `calloc`. -/
  | allocating
  /-- Before the test of its loop. -/
  | creating (index : Nat)
  /-- Before the creation of the accept thread. -/
  | creatingAccept
  /-- The accept thread is missing; before `server_task_queue_close`. -/
  | closingQueue
  /-- In `server_worker_pool_join`, before the test of its loop. -/
  | joining (failure : CreateFailure) (count index : Nat)
  /-- Before `sql_platform_close_socket`. -/
  | closingListenSocket
  | returned (started : Bool)
deriving DecidableEq

/-- The server while it is being started. -/
structure StartingServer (workerCount capacity : Nat) where
  starter : StartState
  /-- The workers below this number exist. -/
  created : Nat
  pool : Pool workerCount capacity
  listenSocket : Bool

variable {workerCount capacity : Nat}

/-- The server as `sqlapi_server_create` leaves it. -/
def createdServer (workerCount : Nat) {capacity : Nat}
    (hcapacity : 0 < capacity) : StartingServer workerCount capacity :=
  { starter := .networkInit
    created := 0
    pool := freshPool workerCount hcapacity
    listenSocket := false }

/-!
## Steps
-/

inductive StarterStep (failing : Option Nat)
    (server : StartingServer workerCount capacity) :
    StartingServer workerCount capacity -> Prop where
  | networkFails (hat : server.starter = .networkInit) :
      StarterStep failing server { server with starter := .returned false }
  | networkReady (hat : server.starter = .networkInit) :
      StarterStep failing server { server with starter := .openListenSocket }
  | listenFails (hat : server.starter = .openListenSocket) :
      StarterStep failing server { server with starter := .returned false }
  | listens (hat : server.starter = .openListenSocket) :
      StarterStep failing server
        { server with starter := .allocating, listenSocket := true }
  | outOfMemory (hat : server.starter = .allocating) :
      StarterStep failing server { server with starter := .closingListenSocket }
  | allocates (hat : server.starter = .allocating) :
      StarterStep failing server { server with starter := .creating 0 }
  | creates {index : Nat} (hat : server.starter = .creating index)
      (hmore : index < workerCount) (hcreates : failing ≠ some index) :
      StarterStep failing server
        { server with starter := .creating (index + 1), created := index + 1 }
  | createFails {index : Nat} (hat : server.starter = .creating index)
      (hmore : index < workerCount) (hfails : failing = some index) :
      StarterStep failing server
        { server with starter := .joining .worker index 0 }
  | createdAll {index : Nat} (hat : server.starter = .creating index)
      (hall : workerCount ≤ index) :
      StarterStep failing server { server with starter := .creatingAccept }
  | starts (hat : server.starter = .creatingAccept) :
      StarterStep failing server { server with starter := .returned true }
  | acceptFails (hat : server.starter = .creatingAccept) :
      StarterStep failing server { server with starter := .closingQueue }
  | closesQueue (hat : server.starter = .closingQueue) :
      StarterStep failing server
        { server with
          starter := .joining .acceptThread workerCount 0
          pool :=
            { workers := broadcast server.pool.workers
              taskQueue := serverTaskQueueClose server.pool.taskQueue } }
  -- pthread_join returns when the thread has ended
  | joins {failure : CreateFailure} {count : Nat} {worker : Fin workerCount}
      (hat : server.starter = .joining failure count worker)
      (hmore : worker < count) (hended : server.pool.workers worker = .ended) :
      StarterStep failing server
        { server with starter := .joining failure count (worker + 1) }
  | joinedAll {failure : CreateFailure} {count index : Nat}
      (hat : server.starter = .joining failure count index)
      (hall : count ≤ index) :
      StarterStep failing server { server with starter := .closingListenSocket }
  | closesListenSocket (hat : server.starter = .closingListenSocket) :
      StarterStep failing server
        { server with starter := .returned false, listenSocket := false }

/-- A step of any thread. -/
inductive StartStep (failing : Option Nat)
    (server : StartingServer workerCount capacity) :
    StartingServer workerCount capacity -> Prop where
  | starter {next : StartingServer workerCount capacity}
      (h : StarterStep failing server next) : StartStep failing server next
  | worker {worker : Fin workerCount} {pool : Pool workerCount capacity}
      (hexists : worker < server.created)
      (h : PoolWorkerStep server.pool worker pool) :
      StartStep failing server { server with pool := pool }
  -- the accept thread pushes and shutdown closes only once the server runs
  | running {pool : Pool workerCount capacity}
      (hat : server.starter = .returned true) (h : PoolStep server.pool pool) :
      StartStep failing server { server with pool := pool }

/-- A start in which the creation of worker `failing` fails, if any. -/
def startSystem (workerCount : Nat) {capacity : Nat} (hcapacity : 0 < capacity)
    (failing : Option Nat) : Transition (StartingServer workerCount capacity) :=
  { start := fun server => server = createdServer workerCount hcapacity
    step := StartStep failing }

/-!
## Waiting for a worker that waits
-/

def StartState.GivenUp : StartState -> Prop
  | .joining .worker _ _ => True
  | .closingListenSocket => True
  | .returned false => True
  | _ => False

/--
The starting thread joins a worker that waits, and so do all workers, on an empty
queue that is open.
-/
structure StuckInJoin (server : StartingServer workerCount capacity) : Prop where
  joins : exists (count : Nat) (worker : Fin workerCount),
    server.starter = .joining .worker count worker ∧ worker < count ∧
      server.pool.workers worker = .asleep false
  waits : forall worker : Fin workerCount, worker < server.created ->
    server.pool.workers worker = .asleep false
  empty : server.pool.taskQueue.count = 0
  isOpen : server.pool.taskQueue.closed = false

/-- Every state after the failure leads to the return, and none is stuck. -/
def ReachesFailureReturn (workerCount : Nat) {capacity : Nat}
    (hcapacity : 0 < capacity) (failing : Nat) : Prop :=
  forall server,
    (startSystem workerCount hcapacity (some failing)).Reachable server ->
      server.starter.GivenUp ->
        ¬ StuckInJoin server ∧
          exists last,
            (startSystem workerCount hcapacity (some failing)).Runs server last ∧
              last.starter = .returned false

structure HopelessJoin (worker : Fin workerCount) (count : Nat)
    (server : StartingServer workerCount capacity) : Prop where
  joins : server.starter = .joining .worker count worker
  more : worker < count
  alive : server.pool.workers worker ≠ .ended
  empty : server.pool.taskQueue.count = 0
  isOpen : server.pool.taskQueue.closed = false

section Hopeless

variable {worker : Fin workerCount} {count : Nat} {failing : Option Nat}
  {server next : StartingServer workerCount capacity}

theorem pop_of_empty_open {queue : ServerTaskQueue capacity}
    (hempty : queue.count = 0) (hopen : queue.closed = false) :
    serverTaskQueuePop queue = .wait := by
  unfold serverTaskQueuePop
  rw [dif_pos hempty, if_pos hopen]

theorem poolWorkerStep_hopeless {other : Fin workerCount}
    {pool moved : Pool workerCount capacity}
    (hempty : pool.taskQueue.count = 0) (hopen : pool.taskQueue.closed = false)
    (h : PoolWorkerStep pool other moved) :
    moved.taskQueue = pool.taskQueue ∧
      forall w, pool.workers w ≠ .ended -> moved.workers w ≠ .ended := by
  have hwaits := pop_of_empty_open hempty hopen
  have hstays : forall {place : WorkerState}, place ≠ .ended ->
      forall w, pool.workers w ≠ .ended ->
        Function.update pool.workers other place w ≠ .ended := by
    intro place hplace w hw
    by_cases hsame : w = other
    · rw [hsame, Function.update_self]
      exact hplace
    · rw [Function.update_of_ne hsame]
      exact hw
  cases h with
  | wait hat hpop => exact ⟨rfl, hstays fun hfalse => by cases hfalse⟩
  | wake hat => exact ⟨rfl, hstays fun hfalse => by cases hfalse⟩
  | leaveLoop hat hpop =>
      rw [hwaits] at hpop
      cases hpop
  | take actions hat hpop =>
      rw [hwaits] at hpop
      cases hpop
  | act hat => exact ⟨rfl, hstays fun hfalse => by cases hfalse⟩
  | acted hat => exact ⟨rfl, hstays fun hfalse => by cases hfalse⟩

theorem hopelessJoin_step (h : HopelessJoin worker count server)
    (hstep : StartStep failing server next) : HopelessJoin worker count next := by
  cases hstep with
  | starter hstarter =>
      have hjoins := h.joins
      cases hstarter with
      | joins hat hmore hended =>
          rw [hjoins] at hat
          injection hat with _ _ hworker
          rw [← Fin.ext hworker] at hended
          exact absurd hended h.alive
      | joinedAll hat hall =>
          rw [hjoins] at hat
          injection hat with _ hcount hindex
          have hmore := h.more
          omega
      | networkFails hat => rw [hjoins] at hat; cases hat
      | networkReady hat => rw [hjoins] at hat; cases hat
      | listenFails hat => rw [hjoins] at hat; cases hat
      | listens hat => rw [hjoins] at hat; cases hat
      | outOfMemory hat => rw [hjoins] at hat; cases hat
      | allocates hat => rw [hjoins] at hat; cases hat
      | creates hat hmore hcreates => rw [hjoins] at hat; cases hat
      | createFails hat hmore hfails => rw [hjoins] at hat; cases hat
      | createdAll hat hall => rw [hjoins] at hat; cases hat
      | starts hat => rw [hjoins] at hat; cases hat
      | acceptFails hat => rw [hjoins] at hat; cases hat
      | closesQueue hat => rw [hjoins] at hat; cases hat
      | closesListenSocket hat => rw [hjoins] at hat; cases hat
  | worker hexists hworker =>
      rcases poolWorkerStep_hopeless h.empty h.isOpen hworker with
        ⟨hqueue, halive⟩
      exact
        { joins := h.joins
          more := h.more
          alive := halive worker h.alive
          empty := hqueue ▸ h.empty
          isOpen := hqueue ▸ h.isOpen }
  | running hat hpool =>
      rw [h.joins] at hat
      cases hat

theorem stuckInJoin_forever {hcapacity : 0 < capacity}
    (h : StuckInJoin server)
    (hrun : (startSystem workerCount hcapacity failing).Runs server next) :
    next.starter = server.starter := by
  rcases h.joins with ⟨count, worker, hjoins, hmore, hwaits⟩
  have hhopeless : HopelessJoin worker count server :=
    { joins := hjoins
      more := hmore
      alive := by
        rw [hwaits]
        exact fun hfalse => by cases hfalse
      empty := h.empty
      isOpen := h.isOpen }
  have hkept : (startSystem workerCount hcapacity failing).Kept
      (HopelessJoin worker count) :=
    fun _ _ hs hstep => hopelessJoin_step hs hstep
  rw [(hkept.runs hhopeless hrun).joins, hjoins]

end Hopeless

/-!
## A stuck start
-/

def sleepingWorkers (workerCount asleep : Nat) :
    Fin workerCount -> WorkerState :=
  fun worker => if worker < asleep then .asleep false else .popping

def startingServer (hcapacity : 0 < capacity) (starter : StartState)
    (created asleep : Nat) : StartingServer workerCount capacity :=
  { starter := starter
    created := created
    pool :=
      { workers := sleepingWorkers workerCount asleep
        taskQueue := serverTaskQueueInit hcapacity }
    listenSocket := true }

section Stuck

variable {failing : Nat} (hcapacity : 0 < capacity)

theorem sleepingWorkers_succ {asleep : Nat} (h : asleep < workerCount) :
    Function.update (sleepingWorkers workerCount asleep) ⟨asleep, h⟩
        (.asleep false) =
      sleepingWorkers workerCount (asleep + 1) := by
  funext worker
  by_cases hworker : worker = ⟨asleep, h⟩
  · rw [hworker, Function.update_self]
    exact (if_pos (Nat.lt_succ_self asleep)).symm
  · have hne : worker.val ≠ asleep := fun heq => hworker (Fin.ext heq)
    rw [Function.update_of_ne hworker]
    unfold sleepingWorkers
    by_cases hless : worker.val < asleep
    · rw [if_pos hless, if_pos (by omega)]
    · rw [if_neg hless, if_neg (by omega)]

theorem startSystem_creates {index : Nat} (hindex : index ≤ failing)
    (hfailing : failing < workerCount) :
    (startSystem workerCount hcapacity (some failing)).Reachable
      (startingServer hcapacity (.creating index) index 0) := by
  induction index with
  | zero =>
      have hstart : (startSystem workerCount hcapacity (some failing)).Reachable
          (createdServer workerCount hcapacity) :=
        ⟨_, rfl, .refl⟩
      have hready := hstart.step (.starter (.networkReady rfl))
      have hlistens := hready.step (.starter (.listens rfl))
      exact hlistens.step (.starter (.allocates rfl))
  | succ index ih =>
      have hbefore := ih (Nat.le_of_succ_le hindex)
      apply hbefore.step
      apply StartStep.starter
      apply StarterStep.creates rfl
      · omega
      · intro heq
        injection heq with heq
        omega

theorem startSystem_sleeps {asleep : Nat} (hasleep : asleep ≤ failing)
    (hfailing : failing < workerCount) :
    (startSystem workerCount hcapacity (some failing)).Reachable
      (startingServer hcapacity (.joining .worker failing 0) failing asleep) := by
  induction asleep with
  | zero =>
      have hbefore :=
        startSystem_creates hcapacity (Nat.le_refl failing) hfailing
      exact hbefore.step (.starter (.createFails rfl hfailing rfl))
  | succ asleep ih =>
      have hbefore := ih (Nat.le_of_succ_le hasleep)
      have hworker : asleep < workerCount := by omega
      have hpopping : sleepingWorkers workerCount asleep ⟨asleep, hworker⟩ =
          .popping :=
        if_neg (Nat.lt_irrefl asleep)
      have hwaits : PoolWorkerStep
          (startingServer hcapacity (.joining .worker failing 0) failing
            asleep).pool ⟨asleep, hworker⟩ _ :=
        .wait hpopping (pop_of_empty_open rfl rfl)
      have hmoved := hbefore.step (.worker (Nat.lt_of_succ_le hasleep) hwaits)
      have hsame := @sleepingWorkers_succ workerCount asleep hworker
      unfold Pool.setWorker at hmoved
      simp only [startingServer, hsame] at hmoved
      exact hmoved

theorem stuckInJoin_reachable (hpositive : 0 < failing)
    (hfailing : failing < workerCount) :
    (startSystem workerCount hcapacity (some failing)).Reachable
        (startingServer hcapacity (.joining .worker failing 0) failing
          failing) ∧
      StuckInJoin
        (startingServer hcapacity (.joining .worker failing 0) failing failing :
          StartingServer workerCount capacity) := by
  refine ⟨startSystem_sleeps hcapacity (Nat.le_refl failing) hfailing, ?_⟩
  have hsleeps : forall worker : Fin workerCount, worker < failing ->
      sleepingWorkers workerCount failing worker = .asleep false :=
    fun worker hworker => if_pos hworker
  exact
    { joins :=
        ⟨failing, ⟨0, by omega⟩, rfl, hpositive, hsleeps ⟨0, _⟩ hpositive⟩
      waits := hsleeps
      empty := rfl
      isOpen := rfl }

end Stuck

/-!
## When the start returns
-/

section Returns

variable {server : StartingServer workerCount capacity}

def NobodyToJoin (server : StartingServer workerCount capacity) : Prop :=
  forall count index, server.starter = .joining .worker count index -> count = 0

theorem nobodyToJoin_kept (hcapacity : 0 < capacity) :
    (startSystem workerCount hcapacity (some 0)).Kept NobodyToJoin := by
  intro server next h hstep
  cases hstep with
  | starter hstarter =>
      cases hstarter with
      | createFails hat hmore hfails =>
          intro count index hjoins
          injection hjoins with _ hcount
          injection hfails with hfails
          rw [← hcount, ← hfails]
      | @joins failure count worker hat hmore hended =>
          intro count' index hjoins
          injection hjoins with hfailure hcount
          rw [← hcount]
          exact h count worker (hfailure ▸ hat)
      | closesQueue hat => intro count index hjoins; cases hjoins
      | networkFails hat => intro count index hjoins; cases hjoins
      | networkReady hat => intro count index hjoins; cases hjoins
      | listenFails hat => intro count index hjoins; cases hjoins
      | listens hat => intro count index hjoins; cases hjoins
      | outOfMemory hat => intro count index hjoins; cases hjoins
      | allocates hat => intro count index hjoins; cases hjoins
      | creates hat hmore hcreates => intro count index hjoins; cases hjoins
      | createdAll hat hall => intro count index hjoins; cases hjoins
      | starts hat => intro count index hjoins; cases hjoins
      | acceptFails hat => intro count index hjoins; cases hjoins
      | joinedAll hat hall => intro count index hjoins; cases hjoins
      | closesListenSocket hat => intro count index hjoins; cases hjoins
  | worker hexists hworker => exact h
  | running hat hpool => exact h

theorem returns_of_nobodyToJoin {hcapacity : 0 < capacity}
    (h : NobodyToJoin server) (hgivenUp : server.starter.GivenUp) :
    exists last,
      (startSystem workerCount hcapacity (some 0)).Runs server last ∧
        last.starter = .returned false := by
  have hclosing : forall {closing : StartingServer workerCount capacity},
      closing.starter = .closingListenSocket ->
        exists last,
          (startSystem workerCount hcapacity (some 0)).Runs closing last ∧
            last.starter = .returned false := by
    intro closing hat
    exact ⟨_, Relation.ReflTransGen.single (.starter (.closesListenSocket hat)),
      rfl⟩
  cases hat : server.starter with
  | joining failure count index =>
      cases failure with
      | worker =>
          have hcount : count ≤ index := by
            rw [h count index hat]
            exact Nat.zero_le _
          have hjoined :
              (startSystem workerCount hcapacity (some 0)).step server
                { server with starter := .closingListenSocket } :=
            .starter (.joinedAll hat hcount)
          rcases @hclosing { server with starter := .closingListenSocket } rfl
            with ⟨last, hrun, hlast⟩
          exact ⟨last, Relation.ReflTransGen.head hjoined hrun, hlast⟩
      | acceptThread =>
          rw [hat] at hgivenUp
          exact hgivenUp.elim
  | closingListenSocket => exact hclosing hat
  | returned started =>
      cases started with
      | false => exact ⟨server, .refl, hat⟩
      | true =>
          rw [hat] at hgivenUp
          exact hgivenUp.elim
  | networkInit => rw [hat] at hgivenUp; exact hgivenUp.elim
  | openListenSocket => rw [hat] at hgivenUp; exact hgivenUp.elim
  | allocating => rw [hat] at hgivenUp; exact hgivenUp.elim
  | creating index => rw [hat] at hgivenUp; exact hgivenUp.elim
  | creatingAccept => rw [hat] at hgivenUp; exact hgivenUp.elim
  | closingQueue => rw [hat] at hgivenUp; exact hgivenUp.elim

theorem not_stuckInJoin_of_nobody (h : NobodyToJoin server) :
    ¬ StuckInJoin server := by
  intro hstuck
  rcases hstuck.joins with ⟨count, worker, hjoins, hmore, _⟩
  rw [h count worker hjoins] at hmore
  exact Nat.not_lt_zero _ hmore

end Returns

/--
When the creation of a worker fails, the start returns exactly if it was the
first one.
-/
theorem start_returns_iff (hcapacity : 0 < capacity) {failing : Nat}
    (hfailing : failing < workerCount) :
    ReachesFailureReturn workerCount hcapacity failing <-> failing = 0 := by
  constructor
  · intro h
    by_contra hpositive
    rcases stuckInJoin_reachable hcapacity (Nat.pos_of_ne_zero hpositive)
        hfailing with
      ⟨hreach, hstuck⟩
    exact (h _ hreach trivial).1 hstuck
  · intro hfirst server hreach hgivenUp
    subst hfirst
    have hnobody := (nobodyToJoin_kept hcapacity).reachable
      (fun first hstart => by
        change first = createdServer workerCount hcapacity at hstart
        rw [hstart]
        intro count index hjoins
        cases hjoins)
      hreach
    exact ⟨not_stuckInJoin_of_nobody hnobody,
      returns_of_nobodyToJoin hnobody hgivenUp⟩

theorem start_returns_iff_sample :
    ReachesFailureReturn 2 Nat.one_pos 0 <-> 0 = 0 :=
  start_returns_iff Nat.one_pos (Nat.succ_pos 1)

/-- Two workers, of which the second cannot be created: the start never returns. -/
theorem start_stuck_after_first_worker :
    ¬ ReachesFailureReturn 2 Nat.one_pos 1 ∧
      exists server : StartingServer 2 1,
        (startSystem 2 Nat.one_pos (some 1)).Reachable server ∧
          StuckInJoin server ∧
          forall last, (startSystem 2 Nat.one_pos (some 1)).Runs server last ->
            last.starter = .joining .worker 1 0 := by
  rcases @stuckInJoin_reachable 2 1 1 Nat.one_pos Nat.one_pos
      (Nat.lt_succ_self 1) with
    ⟨hreach, hstuck⟩
  constructor
  · intro h
    exact (h _ hreach trivial).1 hstuck
  · exact ⟨_, hreach, hstuck, fun last hrun => stuckInJoin_forever hstuck hrun⟩

end Server
end SqlCsvServer
