import SqlCsvServer.Foundation.FairRun
import SqlCsvServer.Server.Connections
import SqlCsvServer.Server.Wakeups

/-!
# No connection waits forever

In a fair run of the server each accepted connection is closed in the end: a refused one
by the accept thread, and a queued one by the worker that takes it, which gets to it as
the queue is a line and some worker is always on its way to its head.
-/

namespace SqlCsvServer
namespace Server

open Foundation
open Engine

variable {workerCount calls capacity : Nat} {answers : Socket -> Prop}

/-!
## Threads and fairness
-/

/--
When a call on a client socket comes back.  Reading and sending wait for the client, which
answers if it sends its request or ends, and takes what is sent to it.
-/
def SocketAction.Returns (answers : Socket -> Prop) (socket : Socket) :
    SocketAction -> Prop
  | .readRequest | .sendSimpleError _ | .sendResponse => answers socket
  | .queueDepth | .closeClientSocket => True

/-- The threads of a server whose shutdown is requested at most this often. -/
inductive ServerThread (workerCount calls : Nat) where
  | accept
  | worker (worker : Fin workerCount)
  | shutdown (caller : Fin calls)

def ServerThread.Step (before after : ServerState workerCount capacity) :
    ServerThread workerCount calls -> Prop
  | .accept => AcceptStep before after
  | .worker mine => WorkerStep before mine after
  | .shutdown caller => ShutdownStep before caller after

/--
The accept thread is owed a step.  A call of `accept` may go on for as long as its
socket is open.
-/
def ServerState.AcceptReady (server : ServerState workerCount capacity) : Prop :=
  match server.acceptThread with
  | .checking => server.stateMutex = none
  | .accepting => server.listenSocket = false
  | .failed => server.stateMutex = none
  | .pushing _ => True
  | .rejecting _ _ => True
  | .ended => False

/--
Which threads are owed a step.  A worker that sleeps without a signal is not, and nobody
has to request a shutdown.
-/
def ServerThread.Ready (server : ServerState workerCount capacity) :
    ServerThread workerCount calls -> Prop
  | .accept => server.AcceptReady
  | .worker mine => (server.workers mine).onFeet = 1
  | .shutdown caller => (server.callers caller).Inside

/-- A thread is in a call that never comes back, as the client never answers. -/
def ServerThread.Held (answers : Socket -> Prop) (server : ServerState workerCount capacity) :
    ServerThread workerCount calls -> Prop
  | .accept => exists socket action actions,
      server.acceptThread = .rejecting socket (action :: actions) ∧
        ¬ action.Returns answers socket
  | .worker mine => exists socket action actions,
      server.workers mine = .handling socket (action :: actions) ∧
        ¬ action.Returns answers socket
  | .shutdown _ => False

/-- The threads of a server, some of whose clients answer. -/
def serverThreads (answers : Socket -> Prop) (workerCount calls capacity : Nat) :
    Interleaving (ServerThread workerCount calls) (ServerState workerCount capacity) :=
  { step := fun thread before after =>
      ¬ thread.Held answers before ∧ thread.Step before after
    ready := fun thread server => thread.Ready server ∧ ¬ thread.Held answers server }

section Steps

variable {thread : ServerThread workerCount calls}
  {server next : ServerState workerCount capacity}

theorem ServerThread.Step.serverStep (h : thread.Step server next) :
    ServerStep server next := by
  cases thread with
  | accept => exact .accept h
  | worker mine => exact .worker mine h
  | shutdown caller => exact .shutdown caller h

theorem fairRun_reachable {hcapacity : 0 < capacity}
    (run : FairRun (serverThreads answers workerCount calls capacity))
    (hstart : run.states 0 = startedServer workerCount hcapacity) (n : Nat) :
    (serverSystem workerCount hcapacity).Reachable (run.states n) := by
  refine run.always (fun {mine s t} h hstep => ?_) (Nat.zero_le n) ⟨_, hstart, .refl⟩
  exact h.step (ServerThread.Step.serverStep hstep.2)

theorem not_held (hanswers : forall socket, answers socket) :
    ¬ thread.Held answers server := by
  have hreturns : forall (action : SocketAction) socket,
      action.Returns answers socket := by
    intro action socket
    cases action with
    | readRequest => exact hanswers socket
    | sendSimpleError code => exact hanswers socket
    | sendResponse => exact hanswers socket
    | queueDepth => trivial
    | closeClientSocket => trivial
  cases thread with
  | accept => exact fun ⟨_, _, _, _, hnot⟩ => hnot (hreturns _ _)
  | worker mine => exact fun ⟨_, _, _, _, hnot⟩ => hnot (hreturns _ _)
  | shutdown caller => exact id

theorem reachable_accounted {hcapacity : 0 < capacity}
    (h : (serverSystem workerCount hcapacity).Reachable server) : Accounted server := by
  apply (accounted_kept hcapacity).reachable _ h
  rintro _ rfl
  exact startedServer_accounted hcapacity

theorem reachable_noneForgotten {hcapacity : 0 < capacity}
    (h : (serverSystem workerCount hcapacity).Reachable server) :
    NoneForgotten server.pool := by
  apply (noneForgotten_kept hcapacity).reachable _ (serverSystem_pool hcapacity h)
  rintro _ rfl
  exact noneForgotten_fresh hcapacity

/-!
## What one step changes
-/

theorem ServerThread.Step.acceptThread (h : thread.Step server next)
    (hother : thread ≠ .accept) : next.acceptThread = server.acceptThread := by
  cases thread with
  | accept => exact absurd rfl hother
  | worker mine =>
      cases h
      all_goals rfl
  | shutdown caller =>
      cases h
      all_goals rfl

theorem ServerThread.Step.worker (h : thread.Step server next)
    {worker : Fin workerCount} (hother : thread ≠ .worker worker) :
    next.workers worker = server.workers worker ∨
      (exists signalled, server.workers worker = .asleep signalled) ∧
        next.workers worker = .asleep true := by
  cases thread with
  | accept =>
      cases h with
      | push hat hpush hsignal =>
          rcases hsignal.only_wakes worker with hsame | ⟨hbefore, hafter⟩
          · exact .inl hsame
          · exact .inr ⟨⟨false, hbefore⟩, hafter⟩
      | _ => exact .inl rfl
  | worker mine =>
      have hne : worker ≠ mine := fun hsame => hother (hsame ▸ rfl)
      cases h
      all_goals exact .inl (Function.update_of_ne hne _ _)
  | shutdown caller =>
      cases h with
      | closeQueue hat =>
          show broadcast server.workers worker = server.workers worker ∨
            _ ∧ broadcast server.workers worker = .asleep true
          unfold broadcast
          cases server.workers worker with
          | asleep signalled => exact .inr ⟨⟨signalled, rfl⟩, rfl⟩
          | _ => exact .inl rfl
      | _ => exact .inl rfl

/-- The connections that wait in the queue. -/
def ServerState.waiting (server : ServerState workerCount capacity) : List Socket :=
  server.taskQueue.waiting.map ServerTask.clientSocket

theorem ServerThread.Step.waiting (h : thread.Step server next) :
    (exists arrived, next.waiting = server.waiting ++ arrived) ∨
      exists worker socket readError routed,
        thread = .worker worker ∧ server.waiting = socket :: next.waiting ∧
          next.workers = Function.update server.workers worker
            (.handling socket (handleClientRequest readError routed)) := by
  have hsame : next.taskQueue.waiting = server.taskQueue.waiting ->
      exists arrived, next.waiting = server.waiting ++ arrived := by
    intro heq
    refine ⟨[], ?_⟩
    unfold ServerState.waiting
    rw [heq, List.append_nil]
  cases thread with
  | accept =>
      cases h with
      | @push socket queue workers hat hpush hsignal =>
          rcases tryPush_cases server.taskQueue { clientSocket := socket } with
            ⟨_, _, _, hwaiting, _⟩ | ⟨hfull, _⟩
          · rw [hpush] at hwaiting
            refine .inl ⟨[socket], ?_⟩
            show queue.waiting.map ServerTask.clientSocket = _
            unfold ServerState.waiting
            rw [hwaiting, List.map_append]
            rfl
          · rw [hpush] at hfull
            cases hfull
      | @pushFails socket queue hat hpush =>
          rcases tryPush_cases server.taskQueue { clientSocket := socket } with
            ⟨hpushed, _⟩ | ⟨_, _, hleft⟩
          · rw [hpush] at hpushed
            cases hpushed
          · rw [hpush] at hleft
            exact .inl (hsame (congrArg ServerTaskQueue.waiting hleft))
      | _ => exact .inl (hsame rfl)
  | worker mine =>
      cases h with
      | @take task left readError routed hat hpop =>
          refine .inr ⟨mine, task.clientSocket, readError, routed, rfl, ?_, rfl⟩
          unfold ServerState.waiting
          rw [(pop_popped hpop).1]
          rfl
      | _ => exact .inl (hsame rfl)
  | shutdown caller =>
      cases h
      all_goals exact .inl (hsame rfl)

theorem ServerThread.Step.closed (h : thread.Step server next) {socket : Socket}
    (hclosed : socket ∈ server.history.closed) : socket ∈ next.history.closed := by
  have hrecord : forall other action,
      socket ∈ (server.history.record other action).closed := by
    intro other action
    cases action with
    | closeClientSocket => exact List.mem_cons_of_mem _ hclosed
    | _ => exact hclosed
  cases thread with
  | accept =>
      cases h with
      | act hat => exact hrecord _ _
      | _ => exact hclosed
  | worker mine =>
      cases h with
      | act hat => exact hrecord _ _
      | _ => exact hclosed
  | shutdown caller =>
      cases h
      all_goals exact hclosed

theorem ServerThread.Step.accepted (h : thread.Step server next) :
    server.history.accepted ≤ next.history.accepted := by
  cases thread with
  | accept =>
      cases h with
      | acceptReturns hat => exact Nat.le_succ _
      | act hat => exact Nat.le_of_eq (record_accepted ..).symm
      | _ => exact Nat.le_refl _
  | worker mine =>
      cases h with
      | act hat => exact Nat.le_of_eq (record_accepted ..).symm
      | _ => exact Nat.le_refl _
  | shutdown caller =>
      cases h
      all_goals exact Nat.le_refl _

end Steps

/-!
## From place to place
-/

section Places

variable {hcapacity : 0 < capacity}
  (run : FairRun (serverThreads answers workerCount calls capacity)) {n : Nat}
  {socket : Socket}

/-- No thread of the run comes to be held. -/
def NobodyHeld (run : FairRun (serverThreads answers workerCount calls capacity)) : Prop :=
  forall m (thread : ServerThread workerCount calls), ¬ thread.Held answers (run.states m)

def IsHandled (server : ServerState workerCount capacity) (socket : Socket)
    (worker : Fin workerCount) : Prop :=
  exists actions, server.workers worker = .handling socket actions ∧
    .closeClientSocket ∈ actions

def IsRefused (server : ServerState workerCount capacity) (socket : Socket) : Prop :=
  exists actions, server.acceptThread = .rejecting socket actions ∧
    .closeClientSocket ∈ actions

def WorkerState.callsLeft : WorkerState -> Nat
  | .handling _ actions => actions.length
  | _ => 0

def AcceptState.callsLeft : AcceptState -> Nat
  | .rejecting _ actions => actions.length
  | _ => 0

theorem closed_or_left {history : History workerCount} {action : SocketAction}
    {actions : List SocketAction} (h : .closeClientSocket ∈ action :: actions) :
    socket ∈ (history.record socket action).closed ∨
      .closeClientSocket ∈ actions := by
  rcases List.mem_cons.mp h with rfl | hleft
  · exact .inl List.mem_cons_self
  · exact .inr hleft

theorem handled_leads_to_closed (hfree : NobodyHeld run) {worker : Fin workerCount}
    (h : IsHandled (run.states n) socket worker) :
    exists m, n ≤ m ∧ socket ∈ (run.states m).history.closed := by
  have hown : forall {s t : ServerState workerCount capacity},
      IsHandled s socket worker -> WorkerStep s worker t ->
        socket ∈ t.history.closed ∨ IsHandled t socket worker ∧
          (t.workers worker).callsLeft < (s.workers worker).callsLeft := by
    rintro s t ⟨actions, hat, hclose⟩ hstep
    cases hstep with
    | @act other action rest hat' =>
        rw [hat, WorkerState.handling.injEq] at hat'
        rcases hat' with ⟨rfl, rfl⟩
        rcases closed_or_left hclose with hclosed | hleft
        · exact .inl hclosed
        · refine .inr ⟨⟨rest, Function.update_self .., hleft⟩, ?_⟩
          rw [hat]
          show (Function.update s.workers worker _ worker).callsLeft < _
          rw [Function.update_self]
          exact Nat.lt_succ_self _
    | acted hat' =>
        rw [hat, WorkerState.handling.injEq] at hat'
        rw [hat'.2] at hclose
        cases hclose
    | wait hat' => cases hat.symm.trans hat'
    | wake hat' => cases hat.symm.trans hat'
    | leaveLoop hat' => cases hat.symm.trans hat'
    | take _ _ hat' => cases hat.symm.trans hat'
  refine @FairRun.leads_to _ _ _ run (fun s => IsHandled s socket worker)
    (fun s => socket ∈ s.history.closed) (fun s => (s.workers worker).callsLeft)
    (.worker worker) ?_ ?_ (fun h hstep => hown h hstep.2) n h
  · rintro m ⟨actions, hat, _⟩
    refine ⟨?_, hfree m _⟩
    show ((run.states m).workers worker).onFeet = 1
    rw [hat]
    rfl
  · rintro thread s t hhandled ⟨_, hstep⟩
    by_cases hmine : thread = .worker worker
    · subst hmine
      rcases hown hhandled hstep with hclosed | ⟨hafter, hless⟩
      · exact .inl hclosed
      · exact .inr ⟨hafter, Nat.le_of_lt hless⟩
    · rcases hhandled with ⟨actions, hat, hclose⟩
      rcases ServerThread.Step.worker hstep hmine with hsame | ⟨⟨signalled, hasleep⟩, _⟩
      · exact .inr ⟨⟨actions, hsame.trans hat, hclose⟩, by rw [hsame]⟩
      · cases hat.symm.trans hasleep

theorem refused_leads_to_closed (hfree : NobodyHeld run) (h : IsRefused (run.states n) socket) :
    exists m, n ≤ m ∧ socket ∈ (run.states m).history.closed := by
  have hown : forall {s t : ServerState workerCount capacity},
      IsRefused s socket -> AcceptStep s t ->
        socket ∈ t.history.closed ∨ IsRefused t socket ∧
          t.acceptThread.callsLeft < s.acceptThread.callsLeft := by
    rintro s t ⟨actions, hat, hclose⟩ hstep
    cases hstep with
    | @act other action rest hat' =>
        rw [hat, AcceptState.rejecting.injEq] at hat'
        rcases hat' with ⟨rfl, rfl⟩
        rcases closed_or_left hclose with hclosed | hleft
        · exact .inl hclosed
        · refine .inr ⟨⟨rest, rfl, hleft⟩, ?_⟩
          rw [hat]
          exact Nat.lt_succ_self _
    | acted hat' =>
        rw [hat, AcceptState.rejecting.injEq] at hat'
        rw [hat'.2] at hclose
        cases hclose
    | keepRunning hat' => cases hat.symm.trans hat'
    | leaveLoop hat' => cases hat.symm.trans hat'
    | acceptFails hat' => cases hat.symm.trans hat'
    | breakLoop hat' => cases hat.symm.trans hat'
    | tryAgain hat' => cases hat.symm.trans hat'
    | acceptReturns hat' => cases hat.symm.trans hat'
    | push hat' => cases hat.symm.trans hat'
    | pushFails hat' => cases hat.symm.trans hat'
  refine @FairRun.leads_to _ _ _ run (fun s => IsRefused s socket)
    (fun s => socket ∈ s.history.closed) (fun s => s.acceptThread.callsLeft)
    .accept ?_ ?_ (fun h hstep => hown h hstep.2) n h
  · rintro m ⟨actions, hat, _⟩
    refine ⟨?_, hfree m _⟩
    show (run.states m).AcceptReady
    unfold ServerState.AcceptReady
    rw [hat]
    trivial
  · rintro thread s t hrefused ⟨_, hstep⟩
    by_cases hmine : thread = .accept
    · subst hmine
      rcases hown hrefused hstep with hclosed | ⟨hafter, hless⟩
      · exact .inl hclosed
      · exact .inr ⟨hafter, Nat.le_of_lt hless⟩
    · rcases hrefused with ⟨actions, hat, hclose⟩
      have hsame := ServerThread.Step.acceptThread hstep hmine
      exact .inr ⟨⟨actions, hsame.trans hat, hclose⟩, by rw [hsame]⟩

theorem pushing_leads_to_place (hfree : NobodyHeld run) (h : (run.states n).acceptThread = .pushing socket) :
    exists m, n ≤ m ∧
      (socket ∈ (run.states m).waiting ∨ IsRefused (run.states m) socket) := by
  have hown : forall {s t : ServerState workerCount capacity},
      s.acceptThread = .pushing socket -> AcceptStep s t ->
        socket ∈ t.waiting ∨ IsRefused t socket := by
    intro s t hat hstep
    cases hstep with
    | @push other queue workers hat' hpush hsignal =>
        rw [hat, AcceptState.pushing.injEq] at hat'
        subst hat'
        rcases tryPush_cases s.taskQueue { clientSocket := socket } with
          ⟨_, _, _, hwaiting, _⟩ | ⟨hfull, _⟩
        · rw [hpush] at hwaiting
          left
          show socket ∈ queue.waiting.map ServerTask.clientSocket
          rw [hwaiting, List.map_append]
          exact List.mem_append_right _ (List.mem_singleton.mpr rfl)
        · rw [hpush] at hfull
          cases hfull
    | pushFails hat' hpush =>
        rw [hat, AcceptState.pushing.injEq] at hat'
        subst hat'
        exact .inr ⟨rejectClient, rfl, by decide⟩
    | keepRunning hat' => cases hat.symm.trans hat'
    | leaveLoop hat' => cases hat.symm.trans hat'
    | acceptFails hat' => cases hat.symm.trans hat'
    | breakLoop hat' => cases hat.symm.trans hat'
    | tryAgain hat' => cases hat.symm.trans hat'
    | acceptReturns hat' => cases hat.symm.trans hat'
    | act hat' => cases hat.symm.trans hat'
    | acted hat' => cases hat.symm.trans hat'
  refine @FairRun.leads_to _ _ _ run (fun s => s.acceptThread = .pushing socket)
    (fun s => socket ∈ s.waiting ∨ IsRefused s socket) (fun _ => 0)
    .accept ?_ ?_ (fun hat hstep => .inl (hown hat hstep.2)) n h
  · intro m hat
    refine ⟨?_, hfree m _⟩
    show (run.states m).AcceptReady
    unfold ServerState.AcceptReady
    rw [hat]
    trivial
  · rintro thread s t hat ⟨_, hstep⟩
    by_cases hmine : thread = .accept
    · subst hmine
      exact .inl (hown hat hstep)
    · exact .inr ⟨(ServerThread.Step.acceptThread hstep hmine).trans hat, Nat.le_refl _⟩

/-!
## The way to the head of the queue
-/

def WorkerState.stepsToQueue : WorkerState -> Nat
  | .popping => 1
  | .asleep _ => 2
  | .handling _ actions => actions.length + 2
  | .ended => 0

theorem handleClientRequest_length (readError : Option SqlEngineErrorCode)
    (routed : Bool) : (handleClientRequest readError routed).length ≤ 4 := by
  unfold handleClientRequest
  cases readError with
  | some code => exact Nat.le_succ 3
  | none => exact Nat.le_refl 4

theorem count_ne_zero_of_waiting {server : ServerState workerCount capacity}
    (h : socket ∈ server.waiting) : server.taskQueue.count ≠ 0 := by
  intro hcount
  unfold ServerState.waiting at h
  rw [(waiting_eq_nil_iff _).mpr hcount] at h
  cases h

theorem workerStep_nearer {server next : ServerState workerCount capacity}
    {worker : Fin workerCount} (hwaiting : socket ∈ server.waiting)
    (hstep : WorkerStep server worker next) :
    (next.workers worker).onFeet = 1 ∧
      ((next.workers worker).stepsToQueue < (server.workers worker).stepsToQueue ∨
        exists taken, server.waiting = taken :: next.waiting ∧
          (next.workers worker).stepsToQueue ≤ 6 ∧
            (server.workers worker).stepsToQueue = 1) := by
  have hcount := count_ne_zero_of_waiting hwaiting
  have hself : forall state,
      Function.update server.workers worker state worker = state :=
    fun state => Function.update_self ..
  cases hstep with
  | wait hat hpop => exact absurd (pop_waits hpop).2 hcount
  | leaveLoop hat hpop => exact absurd (pop_finished hpop).2 hcount
  | @wake signalled hat =>
      show (Function.update server.workers worker _ worker).onFeet = 1 ∧
        ((Function.update server.workers worker _ worker).stepsToQueue < _ ∨ _)
      rw [hself, hat]
      exact ⟨rfl, .inl (Nat.lt_succ_self 1)⟩
  | @take task left readError routed hat hpop =>
      show (Function.update server.workers worker _ worker).onFeet = 1 ∧
        ((Function.update server.workers worker _ worker).stepsToQueue < _ ∨
          exists taken, server.waiting = taken :: left.waiting.map _ ∧
            (Function.update server.workers worker _ worker).stepsToQueue ≤ 6 ∧ _)
      rw [hself, hat]
      refine ⟨rfl, .inr ⟨task.clientSocket, ?_, ?_, rfl⟩⟩
      · unfold ServerState.waiting
        rw [(pop_popped hpop).1]
        rfl
      · exact Nat.add_le_add_right (handleClientRequest_length readError routed) 2
  | @act other action actions hat =>
      show (Function.update server.workers worker _ worker).onFeet = 1 ∧
        ((Function.update server.workers worker _ worker).stepsToQueue < _ ∨ _)
      rw [hself, hat]
      exact ⟨rfl, .inl (Nat.lt_succ_self _)⟩
  | acted hat =>
      show (Function.update server.workers worker _ worker).onFeet = 1 ∧
        ((Function.update server.workers worker _ worker).stepsToQueue < _ ∨ _)
      rw [hself, hat]
      exact ⟨rfl, .inl (Nat.lt_succ_self 1)⟩

theorem ServerThread.Step.onFeet {thread : ServerThread workerCount calls}
    {server next : ServerState workerCount capacity} (h : thread.Step server next)
    {worker : Fin workerCount} (hother : thread ≠ .worker worker)
    (hup : (server.workers worker).onFeet = 1) :
    (next.workers worker).onFeet = 1 ∧
      (next.workers worker).stepsToQueue = (server.workers worker).stepsToQueue := by
  rcases h.worker hother with hsame | ⟨⟨signalled, hasleep⟩, hafter⟩
  · rw [hsame]
    exact ⟨hup, rfl⟩
  · rw [hafter, hasleep]
    exact ⟨rfl, rfl⟩

def queueRank (socket : Socket) (worker : Fin workerCount)
    (server : ServerState workerCount capacity) : Nat :=
  6 * server.waiting.idxOf socket + (server.workers worker).stepsToQueue

theorem waiting_leads_to_handled (hfree : NobodyHeld run) {worker : Fin workerCount}
    (hwaiting : socket ∈ (run.states n).waiting)
    (hup : ((run.states n).workers worker).onFeet = 1) :
    exists m, n ≤ m ∧ exists other, IsHandled (run.states m) socket other := by
  -- a step that takes the head takes the connection or brings it forward
  have htaken : forall {s t : ServerState workerCount capacity} {mine taken readError routed},
      socket ∈ s.waiting -> s.waiting = taken :: t.waiting ->
        t.workers = Function.update s.workers mine
          (.handling taken (handleClientRequest readError routed)) ->
        (exists other, IsHandled t socket other) ∨
          (socket ∈ t.waiting ∧
            s.waiting.idxOf socket = t.waiting.idxOf socket + 1) := by
    intro s t mine taken readError routed hin hhead hworkers
    by_cases hsame : taken = socket
    · subst hsame
      refine .inl ⟨mine, handleClientRequest readError routed, ?_, ?_⟩
      · rw [hworkers, Function.update_self]
      · unfold handleClientRequest
        cases readError with
        | some code => simp
        | none => simp
    · rw [hhead] at hin ⊢
      rcases List.mem_cons.mp hin with rfl | hbehind
      · exact absurd rfl hsame
      · exact .inr ⟨hbehind, List.idxOf_cons_ne _ hsame⟩
  -- and every other step leaves its place alone
  have harrived : forall {s t : ServerState workerCount capacity} {arrived},
      socket ∈ s.waiting -> t.waiting = s.waiting ++ arrived ->
        socket ∈ t.waiting ∧ t.waiting.idxOf socket = s.waiting.idxOf socket := by
    intro s t arrived hin hmore
    rw [hmore]
    exact ⟨List.mem_append_left _ hin, List.idxOf_append_of_mem hin⟩
  have hmoves : forall {thread : ServerThread workerCount calls}
      {s t : ServerState workerCount capacity},
      socket ∈ s.waiting ∧ (s.workers worker).onFeet = 1 -> thread.Step s t ->
        (exists other, IsHandled t socket other) ∨
          ((socket ∈ t.waiting ∧ (t.workers worker).onFeet = 1) ∧
            queueRank socket worker t ≤ queueRank socket worker s ∧
              (thread = .worker worker ->
                queueRank socket worker t < queueRank socket worker s)) := by
    rintro thread s t ⟨hin, hon⟩ hstep
    unfold queueRank
    rcases hstep.waiting with
      ⟨arrived, hmore⟩ | ⟨mine, taken, readError, routed, hthread, hhead, hworkers⟩
    · have hplace := harrived hin hmore
      rw [hplace.2]
      by_cases hmine : thread = .worker worker
      · subst hmine
        rcases workerStep_nearer hin hstep with ⟨hafter, hless | ⟨taken, hhead, _⟩⟩
        · exact .inr ⟨⟨hplace.1, hafter⟩, by omega, fun _ => by omega⟩
        · have hlength := congrArg List.length hhead
          rw [hmore, List.length_cons, List.length_append] at hlength
          omega
      · have hafter := hstep.onFeet hmine hon
        exact .inr ⟨⟨hplace.1, hafter.1⟩, by omega, fun hsame => absurd hsame hmine⟩
    · rcases htaken hin hhead hworkers with hhandled | ⟨hstill, hnearer⟩
      · exact .inl hhandled
      · rw [hnearer]
        by_cases hmine : thread = .worker worker
        · subst hmine
          rcases workerStep_nearer hin hstep with
            ⟨hafter, hless | ⟨_, _, hbound, hone⟩⟩
          · exact .inr ⟨⟨hstill, hafter⟩, by omega, fun _ => by omega⟩
          · exact .inr ⟨⟨hstill, hafter⟩, by omega, fun _ => by omega⟩
        · have hafter := hstep.onFeet hmine hon
          exact .inr ⟨⟨hstill, hafter.1⟩, by omega, fun hsame => absurd hsame hmine⟩
  refine @FairRun.leads_to _ _ _ run
    (fun s => socket ∈ s.waiting ∧ (s.workers worker).onFeet = 1)
    (fun s => exists other, IsHandled s socket other) (queueRank socket worker)
    (.worker worker) (fun h => ⟨h.2, hfree _ _⟩) ?_ ?_ n ⟨hwaiting, hup⟩
  · rintro thread s t h ⟨_, hstep⟩
    rcases hmoves h hstep with hhandled | ⟨hafter, hle, _⟩
    · exact .inl hhandled
    · exact .inr ⟨hafter, hle⟩
  · rintro s t h ⟨_, hstep⟩
    rcases @hmoves (.worker worker) s t h hstep with hhandled | ⟨hafter, _, hless⟩
    · exact .inl hhandled
    · exact .inr ⟨hafter, hless rfl⟩

end Places

/-!
## Every accepted connection
-/

section Everywhere

variable {server : ServerState workerCount capacity} {socket : Socket}

theorem handling_of_closesLeft {worker : Fin workerCount}
    (h : (server.workers worker).closesLeft socket ≠ 0) :
    IsHandled server socket worker := by
  cases hat : server.workers worker with
  | handling other actions =>
      rw [hat] at h
      unfold WorkerState.closesLeft closesLeft at h
      simp only at h
      split at h
      · next hsame =>
          subst hsame
          exact ⟨actions, hat, List.count_pos_iff.mp (Nat.pos_of_ne_zero h)⟩
      · exact absurd rfl h
  | popping => rw [hat] at h; exact absurd rfl h
  | asleep signalled => rw [hat] at h; exact absurd rfl h
  | ended => rw [hat] at h; exact absurd rfl h

theorem refused_of_closesLeft (h : server.acceptThread.closesLeft socket ≠ 0) :
    IsRefused server socket := by
  cases hat : server.acceptThread with
  | rejecting other actions =>
      rw [hat] at h
      unfold AcceptState.closesLeft closesLeft at h
      simp only at h
      split at h
      · next hsame =>
          subst hsame
          exact ⟨actions, hat, List.count_pos_iff.mp (Nat.pos_of_ne_zero h)⟩
      · exact absurd rfl h
  | checking => rw [hat] at h; exact absurd rfl h
  | accepting => rw [hat] at h; exact absurd rfl h
  | failed => rw [hat] at h; exact absurd rfl h
  | pushing other => rw [hat] at h; exact absurd rfl h
  | ended => rw [hat] at h; exact absurd rfl h

theorem Accounted.whereabouts (h : Accounted server)
    (haccepted : socket < server.history.accepted) :
    socket ∈ server.history.closed ∨ server.acceptThread = .pushing socket ∨
      IsRefused server socket ∨ (exists worker, IsHandled server socket worker) ∨
        socket ∈ server.waiting := by
  have harrivals := h.arrivals socket
  rw [if_pos haccepted, h.order, List.count_append] at harrivals
  by_cases hflight : server.acceptThread.inFlight.count socket = 0
  · by_cases hwaiting : socket ∈ server.waiting
    · exact .inr (.inr (.inr (.inr hwaiting)))
    · have hcount : (server.taskQueue.waiting.map ServerTask.clientSocket).count socket = 0 :=
        List.count_eq_zero_of_not_mem hwaiting
      have hcloses := h.closes socket
      by_cases hclosed : socket ∈ server.history.closed
      · exact .inl hclosed
      · have hzero := List.count_eq_zero_of_not_mem hclosed
        by_cases hrefused : server.acceptThread.closesLeft socket = 0
        · have hworkers : workersCloses server.workers socket ≠ 0 := by omega
          rcases Finset.exists_ne_zero_of_sum_ne_zero hworkers with ⟨worker, _, hleft⟩
          exact .inr (.inr (.inr (.inl ⟨worker, handling_of_closesLeft hleft⟩)))
        · exact .inr (.inr (.inl (refused_of_closesLeft hrefused)))
  · cases hat : server.acceptThread with
    | pushing other =>
        rw [hat] at hflight
        have hmem : socket ∈ [other] := List.count_pos_iff.mp (Nat.pos_of_ne_zero hflight)
        rw [List.mem_singleton.mp hmem]
        exact .inr (.inl rfl)
    | checking => rw [hat] at hflight; exact absurd rfl hflight
    | accepting => rw [hat] at hflight; exact absurd rfl hflight
    | failed => rw [hat] at hflight; exact absurd rfl hflight
    | rejecting other actions => rw [hat] at hflight; exact absurd rfl hflight
    | ended => rw [hat] at hflight; exact absurd rfl hflight

theorem Accounted.closed_le_one (h : Accounted server) (socket : Socket) :
    server.history.closed.count socket ≤ 1 := by
  have harrivals := h.arrivals socket
  have hcloses := h.closes socket
  rw [h.order, List.count_append] at harrivals
  split at harrivals
  all_goals omega

theorem NoneForgotten.someone_up (hforgotten : NoneForgotten server.pool)
    (haccounted : Accounted server) (hworkers : 0 < workerCount)
    (hwaiting : socket ∈ server.waiting) :
    exists worker, (server.workers worker).onFeet = 1 := by
  have hcount := count_ne_zero_of_waiting hwaiting
  have hlive : server.pool.live ≠ 0 := by
    intro hnone
    have hsum : ∑ worker, (server.workers worker).live = 0 := hnone
    have hzero := Finset.sum_eq_zero_iff.mp hsum ⟨0, hworkers⟩ (Finset.mem_univ _)
    cases hat : server.workers ⟨0, hworkers⟩ with
    | ended => exact hcount (haccounted.drained _ hat).2
    | _ =>
        rw [hat] at hzero
        cases hzero
  have hup : ∑ worker, (server.workers worker).onFeet ≠ 0 := by
    have henough := hforgotten.enough
    have hsame : server.pool.taskQueue.count = server.taskQueue.count := rfl
    have hsum : server.pool.onFeet = ∑ worker, (server.workers worker).onFeet := rfl
    omega
  rcases Finset.exists_ne_zero_of_sum_ne_zero hup with ⟨worker, _, hone⟩
  have hbound := (onFeet_le_live (server.workers worker)).trans (live_le_one _)
  exact ⟨worker, Nat.le_antisymm hbound (Nat.pos_of_ne_zero hone)⟩

end Everywhere

/--
No accepted connection waits forever: in every fair run of the server in which no thread is
held by a client that never answers, whatever else arrives and however often a shutdown is
requested, it is closed at some time, and then once and for all.
-/
theorem every_connection_is_closed (hcapacity : 0 < capacity) (hworkers : 0 < workerCount)
    (run : FairRun (serverThreads answers workerCount calls capacity))
    (hstart : run.states 0 = startedServer workerCount hcapacity)
    (hfree : NobodyHeld run) {n : Nat} {socket : Socket} (haccepted : socket < (run.states n).history.accepted) :
    exists m, n ≤ m ∧
      forall later, m ≤ later -> (run.states later).history.closed.count socket = 1 := by
  have haccounted := fun n => reachable_accounted (fairRun_reachable run hstart n)
  have hrefused : forall {n}, IsRefused (run.states n) socket ->
      exists m, n ≤ m ∧ socket ∈ (run.states m).history.closed :=
    fun h => refused_leads_to_closed run hfree h
  have hhandled : forall {n worker}, IsHandled (run.states n) socket worker ->
      exists m, n ≤ m ∧ socket ∈ (run.states m).history.closed :=
    fun h => handled_leads_to_closed run hfree h
  have hwaiting : forall {n}, socket ∈ (run.states n).waiting ->
      exists m, n ≤ m ∧ socket ∈ (run.states m).history.closed := by
    intro n hwaiting
    have hforgotten := reachable_noneForgotten (fairRun_reachable run hstart n)
    rcases hforgotten.someone_up (haccounted n) hworkers hwaiting with ⟨worker, hup⟩
    rcases waiting_leads_to_handled run hfree hwaiting hup with ⟨m, hle, other, hother⟩
    rcases hhandled hother with ⟨later, hlater, hclosed⟩
    exact ⟨later, Nat.le_trans hle hlater, hclosed⟩
  have hclosed : exists m, n ≤ m ∧ socket ∈ (run.states m).history.closed := by
    rcases (haccounted n).whereabouts haccepted with
      hclosed | hpushing | hat | ⟨worker, hat⟩ | hat
    · exact ⟨n, Nat.le_refl n, hclosed⟩
    · rcases pushing_leads_to_place run hfree hpushing with ⟨m, hle, hat | hat⟩
      · rcases hwaiting hat with ⟨later, hlater, hdone⟩
        exact ⟨later, Nat.le_trans hle hlater, hdone⟩
      · rcases hrefused hat with ⟨later, hlater, hdone⟩
        exact ⟨later, Nat.le_trans hle hlater, hdone⟩
    · exact hrefused hat
    · exact hhandled hat
    · exact hwaiting hat
  rcases hclosed with ⟨m, hle, hclosed⟩
  refine ⟨m, hle, fun later hlater => ?_⟩
  have hstays : socket ∈ (run.states later).history.closed :=
    run.always (fun h hstep => ServerThread.Step.closed hstep.2 h) hlater hclosed
  exact Nat.le_antisymm ((haccounted later).closed_le_one socket)
    (List.count_pos_iff.mpr hstays)

theorem steps_of_answers (hanswers : forall socket, answers socket)
    {server next : ServerState workerCount capacity}
    (h : Relation.ReflTransGen (fun before after =>
      exists thread : ServerThread workerCount calls, thread.Step before after) server next) :
    Relation.ReflTransGen (fun before after => exists thread,
      (serverThreads answers workerCount calls capacity).step thread before after)
        server next :=
  Relation.ReflTransGen.mono
    (fun _ _ ⟨thread, hstep⟩ => ⟨thread, not_held hanswers, hstep⟩) _ _ h

theorem sampleRun_rests :
    exists server : ServerState 1 1,
      Relation.ReflTransGen
          (fun before after => exists thread : ServerThread 1 0, thread.Step before after)
          (startedServer 1 Nat.one_pos) server ∧
        (forall thread : ServerThread 1 0, ¬ thread.Ready server) ∧
          0 < server.history.accepted := by
  have hpushed := (((Relation.ReflTransGen.refl (r :=
      fun before after => exists thread : ServerThread 1 0, thread.Step before after)
    (a := startedServer 1 Nat.one_pos)).tail ⟨.accept, .keepRunning rfl rfl rfl⟩).tail
      ⟨.accept, .acceptReturns rfl⟩).tail
        ⟨.accept, .push rfl rfl ⟨fun _ => .inl rfl, fun _ h => nomatch h⟩⟩
  have hread := (hpushed.tail ⟨.worker 0, .take none true rfl rfl⟩).tail
    ⟨.worker 0, .act rfl⟩
  have hclosed := ((hread.tail ⟨.worker 0, .act rfl⟩).tail ⟨.worker 0, .act rfl⟩).tail
    ⟨.worker 0, .act rfl⟩
  have hasleep := (hclosed.tail ⟨.worker 0, .acted rfl⟩).tail ⟨.worker 0, .wait rfl rfl⟩
  refine ⟨_, hasleep.tail ⟨.accept, .keepRunning rfl rfl rfl⟩, ?_, Nat.one_pos⟩
  rintro (_ | worker | caller) hready
  · cases hready
  · rw [Subsingleton.elim worker 0] at hready
    cases hready
  · exact caller.elim0

theorem every_connection_is_closed_sample :
    exists run : FairRun (serverThreads (fun _ => True) 1 0 1), exists m,
      (run.states m).history.closed.count 0 = 1 := by
  have hanswers : forall socket : Socket, (fun _ => True) socket := fun _ => trivial
  rcases sampleRun_rests with ⟨server, hsteps, hrest, haccepted⟩
  rcases FairRun.exists_of_rest (steps_of_answers hanswers hsteps)
      (fun thread hready => hrest thread hready.1) with
    ⟨run, hstart, n, hend⟩
  rw [← hend] at haccepted
  rcases every_connection_is_closed Nat.one_pos Nat.one_pos run hstart
      (fun _ _ => not_held hanswers) haccepted with
    ⟨m, _, hclosed⟩
  exact ⟨run, m, hclosed m (Nat.le_refl m)⟩

end Server
end SqlCsvServer
