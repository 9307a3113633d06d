import Mathlib.Algebra.BigOperators.Group.Finset.Basic
import Mathlib.Data.Fintype.BigOperators
import SqlCsvServer.Server.Server

/-!
# What becomes of a connection

Every connection that accept has returned is in exactly one place: with the accept
thread, in the queue, with a worker, or done.  The invariant counts, for one
connection, how often it arrived somewhere and how many closes it still has ahead.
-/

namespace SqlCsvServer
namespace Server

open Foundation
open Engine

variable {workerCount capacity : Nat}

/-!
## Counting
-/

def AcceptState.inFlight : AcceptState -> List Socket
  | .pushing socket => [socket]
  | _ => []

def closesLeft (socket : Socket) (actions : List SocketAction)
    (target : Socket) : Nat :=
  if socket = target then actions.count .closeClientSocket else 0

def AcceptState.closesLeft : AcceptState -> Socket -> Nat
  | .rejecting socket actions, target => Server.closesLeft socket actions target
  | _, _ => 0

def WorkerState.closesLeft : WorkerState -> Socket -> Nat
  | .handling socket actions, target => Server.closesLeft socket actions target
  | _, _ => 0

def workersCloses (workers : Fin workerCount -> WorkerState)
    (target : Socket) : Nat :=
  ∑ worker, (workers worker).closesLeft target

def History.taken (history : History workerCount) : List Socket :=
  history.handled.map Prod.snd

structure Accounted (server : ServerState workerCount capacity) : Prop where
  arrivals : forall target : Socket,
    server.history.queued.count target + server.history.rejected.count target +
        server.acceptThread.inFlight.count target =
      if target < server.history.accepted then 1 else 0
  order : server.history.queued =
    server.history.taken ++
      server.taskQueue.waiting.map ServerTask.clientSocket
  closes : forall target : Socket,
    server.history.closed.count target +
        (server.acceptThread.closesLeft target +
          workersCloses server.workers target) =
      server.history.taken.count target + server.history.rejected.count target
  drained : forall worker, server.workers worker = .ended ->
    server.taskQueue.closed = true ∧ server.taskQueue.count = 0
  refused : forall socket, socket ∈ server.history.rejected ->
    (socket, SqlEngineErrorCode.queueFull) ∈ server.history.errorsSent ∨
      server.acceptThread = .rejecting socket rejectClient

theorem closesLeft_handle (readError : Option SqlEngineErrorCode) (routed : Bool)
    (socket target : Socket) :
    closesLeft socket (handleClientRequest readError routed) target =
      [socket].count target := by
  unfold closesLeft handleClientRequest
  cases readError <;> cases routed <;> by_cases h : socket = target <;> simp [h]

theorem closesLeft_reject (socket target : Socket) :
    closesLeft socket rejectClient target = [socket].count target := by
  unfold closesLeft rejectClient
  by_cases h : socket = target <;> simp [h]

theorem record_closes (history : History workerCount) (socket : Socket)
    (action : SocketAction) (actions : List SocketAction) (target : Socket) :
    (history.record socket action).closed.count target +
        closesLeft socket actions target =
      history.closed.count target +
        closesLeft socket (action :: actions) target := by
  unfold closesLeft
  by_cases h : socket = target
  · cases action
    case closeClientSocket =>
      simp [History.record, h]
      omega
    all_goals simp [History.record, h]
  · cases action <;> simp [History.record, h]

section Record

variable (history : History workerCount) (socket : Socket)
  (action : SocketAction)

@[simp] theorem record_accepted :
    (history.record socket action).accepted = history.accepted := by
  cases action <;> rfl

@[simp] theorem record_queued :
    (history.record socket action).queued = history.queued := by
  cases action <;> rfl

@[simp] theorem record_rejected :
    (history.record socket action).rejected = history.rejected := by
  cases action <;> rfl

@[simp] theorem record_taken :
    (history.record socket action).taken = history.taken := by
  cases action <;> rfl

theorem mem_record_errorsSent {sent : Socket × SqlEngineErrorCode}
    (h : sent ∈ history.errorsSent) :
    sent ∈ (history.record socket action).errorsSent := by
  cases action with
  | sendSimpleError code => exact List.mem_cons_of_mem _ h
  | readRequest => exact h
  | sendResponse => exact h
  | queueDepth => exact h
  | closeClientSocket => exact h

end Record

theorem workersCloses_update (workers : Fin workerCount -> WorkerState)
    (worker : Fin workerCount) (next : WorkerState) (target : Socket) :
    workersCloses (Function.update workers worker next) target +
        (workers worker).closesLeft target =
      workersCloses workers target + next.closesLeft target := by
  have hsplit : forall f : Fin workerCount -> WorkerState,
      workersCloses f target =
        (f worker).closesLeft target +
          ∑ other ∈ Finset.univ.erase worker, (f other).closesLeft target := by
    intro f
    exact (Finset.add_sum_erase _ (fun other => (f other).closesLeft target)
      (Finset.mem_univ worker)).symm
  have hothers :
      ∑ other ∈ Finset.univ.erase worker,
          (Function.update workers worker next other).closesLeft target =
        ∑ other ∈ Finset.univ.erase worker,
          (workers other).closesLeft target := by
    apply Finset.sum_congr rfl
    intro other hother
    rw [Function.update_of_ne (Finset.ne_of_mem_erase hother)]
  rw [hsplit, hsplit workers, hothers, Function.update_self]
  omega

theorem Signals.closesLeft {before after : Fin workerCount -> WorkerState}
    (h : Signals before after) (target : Socket) :
    workersCloses after target = workersCloses before target := by
  apply Finset.sum_congr rfl
  intro worker _
  rcases h.only_wakes worker with hsame | ⟨hbefore, hafter⟩
  · rw [hsame]
  · rw [hbefore, hafter]
    rfl

theorem Signals.ended {before after : Fin workerCount -> WorkerState}
    (h : Signals before after) {worker : Fin workerCount}
    (hended : after worker = .ended) : before worker = .ended := by
  rcases h.only_wakes worker with hsame | ⟨_, hafter⟩
  · rw [← hsame, hended]
  · rw [hafter] at hended
    cases hended

theorem broadcast_closes (workers : Fin workerCount -> WorkerState)
    (target : Socket) :
    workersCloses (broadcast workers) target = workersCloses workers target := by
  apply Finset.sum_congr rfl
  intro worker _
  unfold broadcast
  cases workers worker <;> rfl

theorem broadcast_ended {workers : Fin workerCount -> WorkerState}
    {worker : Fin workerCount} (h : broadcast workers worker = .ended) :
    workers worker = .ended := by
  unfold broadcast at h
  cases hworker : workers worker with
  | ended => rfl
  | popping => simp [hworker] at h
  | asleep signalled => simp [hworker] at h
  | handling socket actions => simp [hworker] at h

/-!
## The steps of the threads
-/

theorem startedServer_accounted (hcapacity : 0 < capacity) :
    Accounted (startedServer workerCount hcapacity) := by
  constructor
  · intro target
    simp [startedServer, AcceptState.inFlight]
  · simp [startedServer, History.taken]
  · intro target
    simp [startedServer, History.taken, AcceptState.closesLeft, workersCloses,
      WorkerState.closesLeft]
  · intro worker h
    simp [startedServer] at h
  · intro socket h
    simp [startedServer] at h

theorem Accounted.setAccept {server : ServerState workerCount capacity}
    (h : Accounted server) {next : AcceptState}
    (hflight : server.acceptThread.inFlight = next.inFlight)
    (hcloses : forall target, server.acceptThread.closesLeft target =
      next.closesLeft target)
    (hnot : forall socket,
      server.acceptThread ≠ .rejecting socket rejectClient) :
    Accounted (server.setAccept next) := by
  constructor
  · intro target
    have harrivals := h.arrivals target
    rw [hflight] at harrivals
    exact harrivals
  · exact h.order
  · intro target
    have hleft := h.closes target
    rw [hcloses] at hleft
    exact hleft
  · exact h.drained
  · intro socket hsocket
    rcases h.refused socket hsocket with hsent | hat
    · exact Or.inl hsent
    · exact absurd hat (hnot socket)

theorem Accounted.setWorker {server : ServerState workerCount capacity}
    (h : Accounted server) {worker : Fin workerCount} {next : WorkerState}
    (hcloses : forall target, (server.workers worker).closesLeft target =
      next.closesLeft target)
    (hended : next = .ended ->
      server.taskQueue.closed = true ∧ server.taskQueue.count = 0) :
    Accounted (server.setWorker worker next) := by
  constructor
  · exact h.arrivals
  · exact h.order
  · intro target
    have hleft := h.closes target
    have hupdate := workersCloses_update server.workers worker next target
    rw [hcloses] at hupdate
    change server.history.closed.count target +
        (server.acceptThread.closesLeft target +
          workersCloses (Function.update server.workers worker next) target) =
      server.history.taken.count target + server.history.rejected.count target
    omega
  · intro other hother
    change Function.update server.workers worker next other = .ended at hother
    by_cases hsame : other = worker
    · rw [hsame, Function.update_self] at hother
      exact hended hother
    · rw [Function.update_of_ne hsame] at hother
      exact h.drained other hother
  · exact h.refused

theorem acceptStep_accounted {server next : ServerState workerCount capacity}
    (h : Accounted server) (hstep : AcceptStep server next) :
    Accounted next := by
  cases hstep with
  | keepRunning hat hmutex hflag =>
      apply h.setAccept <;> simp [hat, AcceptState.inFlight, AcceptState.closesLeft]
  | leaveLoop hat hmutex hflag =>
      apply h.setAccept <;> simp [hat, AcceptState.inFlight, AcceptState.closesLeft]
  | acceptFails hat =>
      apply h.setAccept <;> simp [hat, AcceptState.inFlight, AcceptState.closesLeft]
  | breakLoop hat hmutex hflag =>
      apply h.setAccept <;> simp [hat, AcceptState.inFlight, AcceptState.closesLeft]
  | tryAgain hat hmutex hflag =>
      apply h.setAccept <;> simp [hat, AcceptState.inFlight, AcceptState.closesLeft]
  | acceptReturns hat =>
      constructor
      · intro target
        have harrivals := h.arrivals target
        simp only [hat, AcceptState.inFlight, List.count_nil, Nat.add_zero]
          at harrivals
        change server.history.queued.count target +
            server.history.rejected.count target +
              [server.history.accepted].count target =
          if target < server.history.accepted + 1 then 1 else 0
        rw [harrivals, List.count_singleton]
        rcases Nat.lt_trichotomy target server.history.accepted with
          hless | hequal | hmore
        · have hother : server.history.accepted ≠ target := by omega
          simp [hless, hother, Nat.lt_succ_of_lt hless]
        · simp [hequal]
        · have hother : server.history.accepted ≠ target := by omega
          have hnot : ¬ target < server.history.accepted :=
            Nat.not_lt.mpr (Nat.le_of_lt hmore)
          have hnext : ¬ target < server.history.accepted + 1 :=
            Nat.not_lt.mpr hmore
          simp [hnot, hother, hnext]
      · exact h.order
      · intro target
        have hcloses := h.closes target
        rw [hat] at hcloses
        exact hcloses
      · exact h.drained
      · intro socket hsocket
        rcases h.refused socket hsocket with hsent | hbusy
        · exact Or.inl hsent
        · rw [hat] at hbusy
          cases hbusy
  | @push socket queue workers hat hpush hsignal =>
      rcases tryPush_cases server.taskQueue { clientSocket := socket } with
        ⟨_, hopen, _, hwaiting, hstill⟩ | ⟨hfull, _⟩
      · rw [hpush] at hwaiting hstill
        constructor
        · intro target
          have harrivals := h.arrivals target
          rw [hat] at harrivals
          simp only [AcceptState.inFlight, List.count_append, List.count_nil]
            at harrivals ⊢
          omega
        · change server.history.queued ++ [socket] =
            server.history.taken ++ queue.waiting.map ServerTask.clientSocket
          rw [h.order, hwaiting]
          simp
        · intro target
          have hcloses := h.closes target
          rw [hat] at hcloses
          change _ + (_ + workersCloses workers target) = _
          rw [hsignal.closesLeft]
          exact hcloses
        · intro worker hended
          have hclosed := (h.drained worker (hsignal.ended hended)).1
          rw [hopen] at hclosed
          cases hclosed
        · intro other hother
          rcases h.refused other hother with hsent | hbusy
          · exact Or.inl hsent
          · rw [hat] at hbusy
            cases hbusy
      · rw [hpush] at hfull
        cases hfull
  | @pushFails socket queue hat hpush =>
      rcases tryPush_cases server.taskQueue { clientSocket := socket } with
        ⟨hpushed, _⟩ | ⟨_, _, hsame⟩
      · rw [hpush] at hpushed
        cases hpushed
      · rw [hpush] at hsame
        change queue = server.taskQueue at hsame
        constructor
        · intro target
          have harrivals := h.arrivals target
          rw [hat] at harrivals
          simp only [AcceptState.inFlight, List.count_append, List.count_nil]
            at harrivals ⊢
          omega
        · rw [hsame]
          exact h.order
        · intro target
          have hcloses := h.closes target
          rw [hat] at hcloses
          simp only [AcceptState.closesLeft, closesLeft_reject,
            List.count_append] at hcloses ⊢
          change _ + (_ + workersCloses server.workers target) =
            server.history.taken.count target + _
          omega
        · intro worker hended
          rw [hsame]
          exact h.drained worker hended
        · intro other hother
          rcases List.mem_append.mp hother with hother | hother
          · rcases h.refused other hother with hsent | hbusy
            · exact Or.inl hsent
            · rw [hat] at hbusy
              cases hbusy
          · rw [List.mem_singleton.mp hother]
            exact Or.inr rfl
  | @act socket action actions hat =>
      constructor
      · intro target
        have harrivals := h.arrivals target
        rw [hat] at harrivals
        simpa [ServerState.setAccept, ServerState.record, AcceptState.inFlight]
          using harrivals
      · simpa [ServerState.setAccept, ServerState.record] using h.order
      · intro target
        have hcloses := h.closes target
        have hrecord := record_closes server.history socket action actions target
        rw [hat] at hcloses
        simp only [ServerState.setAccept, ServerState.record,
          AcceptState.closesLeft, record_taken, record_rejected] at hcloses ⊢
        omega
      · exact h.drained
      · intro other hother
        have hrejected : other ∈ server.history.rejected := by
          simpa [ServerState.setAccept, ServerState.record] using hother
        rcases h.refused other hrejected with hsent | hbusy
        · exact Or.inl (mem_record_errorsSent _ _ _ hsent)
        · rw [hat] at hbusy
          cases hbusy
          exact Or.inl List.mem_cons_self
  | @acted socket hat =>
      apply h.setAccept
      · simp [hat, AcceptState.inFlight]
      · intro target
        simp [hat, AcceptState.closesLeft, closesLeft]
      · intro other hbusy
        rw [hat] at hbusy
        cases hbusy

theorem workerStep_accounted {server next : ServerState workerCount capacity}
    {worker : Fin workerCount} (h : Accounted server)
    (hstep : WorkerStep server worker next) : Accounted next := by
  cases hstep with
  | wait hat hpop =>
      apply h.setWorker
      · intro target
        simp [hat, WorkerState.closesLeft]
      · simp
  | @wake signalled hat =>
      apply h.setWorker
      · intro target
        simp [hat, WorkerState.closesLeft]
      · simp
  | leaveLoop hat hpop =>
      apply h.setWorker
      · intro target
        simp [hat, WorkerState.closesLeft]
      · intro _
        exact pop_finished hpop
  | @take task left readError routed hat hpop =>
      rcases pop_popped hpop with ⟨hwaiting, hclosed⟩
      constructor
      · exact h.arrivals
      · have horder := h.order
        rw [hwaiting] at horder
        change server.history.queued =
          (server.history.handled ++ [(worker, task.clientSocket)]).map Prod.snd ++
            left.waiting.map ServerTask.clientSocket
        rw [horder]
        simp [History.taken]
      · intro target
        have hcloses := h.closes target
        have hupdate := workersCloses_update server.workers worker
          (.handling task.clientSocket (handleClientRequest readError routed))
          target
        rw [hat] at hupdate
        simp only [WorkerState.closesLeft, closesLeft_handle] at hupdate
        change server.history.closed.count target +
            (server.acceptThread.closesLeft target +
              workersCloses (Function.update server.workers worker _) target) =
          ((server.history.handled ++
              [(worker, task.clientSocket)]).map Prod.snd).count target +
            server.history.rejected.count target
        simp only [List.map_append, List.count_append, List.map_cons,
          List.map_nil]
        simp only [History.taken] at hcloses
        omega
      · intro other hended
        change Function.update server.workers worker _ other = .ended at hended
        by_cases hsame : other = worker
        · rw [hsame, Function.update_self] at hended
          cases hended
        · rw [Function.update_of_ne hsame] at hended
          have hempty := (h.drained other hended).2
          rw [← waiting_eq_nil_iff, hwaiting] at hempty
          cases hempty
      · exact h.refused
  | @act socket action actions hat =>
      constructor
      · simpa [ServerState.setWorker, ServerState.record] using h.arrivals
      · simpa [ServerState.setWorker, ServerState.record] using h.order
      · intro target
        have hcloses := h.closes target
        have hrecord := record_closes server.history socket action actions target
        have hupdate := workersCloses_update server.workers worker
          (.handling socket actions) target
        rw [hat] at hupdate
        simp only [ServerState.setWorker, ServerState.record,
          WorkerState.closesLeft, record_taken, record_rejected] at hupdate ⊢
        omega
      · intro other hended
        change Function.update server.workers worker _ other = .ended at hended
        by_cases hsame : other = worker
        · rw [hsame, Function.update_self] at hended
          cases hended
        · rw [Function.update_of_ne hsame] at hended
          exact h.drained other hended
      · intro other hother
        have hrejected : other ∈ server.history.rejected := by
          simpa [ServerState.setWorker, ServerState.record] using hother
        rcases h.refused other hrejected with hsent | hbusy
        · exact Or.inl (mem_record_errorsSent _ _ _ hsent)
        · exact Or.inr hbusy
  | @acted socket hat =>
      apply h.setWorker
      · intro target
        simp [hat, WorkerState.closesLeft, closesLeft]
      · simp

theorem shutdownStep_accounted {server next : ServerState workerCount capacity}
    {caller : Nat} (h : Accounted server)
    (hstep : ShutdownStep server caller next) : Accounted next := by
  cases hstep with
  | closeQueue hat =>
      constructor
      · exact h.arrivals
      · exact h.order
      · intro target
        change _ + (_ + workersCloses (broadcast server.workers) target) = _
        rw [broadcast_closes]
        exact h.closes target
      · intro worker hended
        exact ⟨rfl, (h.drained worker (broadcast_ended hended)).2⟩
      · exact h.refused
  | lock hat hmutex =>
      exact ⟨h.arrivals, h.order, h.closes, h.drained, h.refused⟩
  | repeated hat hflag =>
      exact ⟨h.arrivals, h.order, h.closes, h.drained, h.refused⟩
  | setFlag hat hflag =>
      exact ⟨h.arrivals, h.order, h.closes, h.drained, h.refused⟩
  | noListenSocket hat hlisten =>
      exact ⟨h.arrivals, h.order, h.closes, h.drained, h.refused⟩
  | shutDownListenSocket hat hlisten =>
      exact ⟨h.arrivals, h.order, h.closes, h.drained, h.refused⟩
  | closeListenSocket hat =>
      exact ⟨h.arrivals, h.order, h.closes, h.drained, h.refused⟩
  | forgetListenSocket hat =>
      exact ⟨h.arrivals, h.order, h.closes, h.drained, h.refused⟩
  | unlock hat =>
      exact ⟨h.arrivals, h.order, h.closes, h.drained, h.refused⟩

theorem accounted_kept (hcapacity : 0 < capacity) :
    (serverSystem workerCount hcapacity).Kept Accounted := by
  intro server next h hstep
  cases hstep with
  | accept hstep => exact acceptStep_accounted h hstep
  | worker worker hstep => exact workerStep_accounted h hstep
  | shutdown caller hstep => exact shutdownStep_accounted h hstep

/-!
## The listen socket
-/

def ShutdownState.Inside (state : ShutdownState) : Prop :=
  state ≠ .calling ∧ state ≠ .returned

def ShutdownState.Closing (state : ShutdownState) : Prop :=
  state = .flagged ∨ state = .shutDown

structure ListenOnce (server : ServerState workerCount capacity) : Prop where
  holder : forall caller, (server.callers caller).Inside ->
    server.stateMutex = some caller
  pending : forall caller, (server.callers caller).Closing ->
    server.history.listenCloses = 0 ∧ server.shuttingDown = true
  running : server.shuttingDown = false -> server.history.listenCloses = 0
  once : server.history.listenCloses ≤ 1

theorem ListenOnce.of_same {server next : ServerState workerCount capacity}
    (h : ListenOnce server) (hcallers : next.callers = server.callers)
    (hmutex : next.stateMutex = server.stateMutex)
    (hflag : next.shuttingDown = server.shuttingDown)
    (hcloses : next.history.listenCloses = server.history.listenCloses) :
    ListenOnce next := by
  constructor
  · rw [hcallers, hmutex]
    exact h.holder
  · rw [hcallers, hflag, hcloses]
    exact h.pending
  · rw [hflag, hcloses]
    exact h.running
  · rw [hcloses]
    exact h.once

@[simp] theorem record_listenCloses (history : History workerCount)
    (socket : Socket) (action : SocketAction) :
    (history.record socket action).listenCloses = history.listenCloses := by
  cases action <;> rfl

theorem acceptStep_listenOnce {server next : ServerState workerCount capacity}
    (h : ListenOnce server) (hstep : AcceptStep server next) :
    ListenOnce next := by
  apply h.of_same <;> cases hstep <;>
    simp [ServerState.setAccept, ServerState.record]

theorem workerStep_listenOnce {server next : ServerState workerCount capacity}
    {worker : Fin workerCount} (h : ListenOnce server)
    (hstep : WorkerStep server worker next) : ListenOnce next := by
  apply h.of_same <;> cases hstep <;>
    simp [ServerState.setWorker, ServerState.record]

theorem ListenOnce.setCaller {server : ServerState workerCount capacity}
    (h : ListenOnce server) {caller : Nat} {next : ShutdownState}
    (hinside : (server.callers caller).Inside)
    (hpending : next.Closing ->
      server.history.listenCloses = 0 ∧ server.shuttingDown = true) :
    ListenOnce (server.setCaller caller next) := by
  constructor
  · intro other hother
    change (Function.update server.callers caller next other).Inside at hother
    by_cases hsame : other = caller
    · rw [hsame]
      exact h.holder caller hinside
    · rw [Function.update_of_ne hsame] at hother
      exact h.holder other hother
  · intro other hother
    change (Function.update server.callers caller next other).Closing at hother
    by_cases hsame : other = caller
    · rw [hsame, Function.update_self] at hother
      exact hpending hother
    · rw [Function.update_of_ne hsame] at hother
      exact h.pending other hother
  · exact h.running
  · exact h.once

theorem ShutdownState.Closing.inside {state : ShutdownState}
    (h : state.Closing) : state.Inside := by
  rcases h with rfl | rfl
  · constructor <;> decide
  · constructor <;> decide

theorem shutdownStep_listenOnce {server next : ServerState workerCount capacity}
    {caller : Nat} (h : ListenOnce server)
    (hstep : ShutdownStep server caller next) : ListenOnce next := by
  have hinside : forall {state : ShutdownState},
      server.callers caller = state -> state.Inside ->
        (server.callers caller).Inside := by
    intro state hat hstate
    rw [hat]
    exact hstate
  -- nobody else is inside while this call is
  have halone : forall {other : Nat}, (server.callers caller).Inside ->
      (server.callers other).Inside -> other = caller := by
    intro other hcaller hother
    have hholder := h.holder caller hcaller
    rw [h.holder other hother] at hholder
    exact Option.some.inj hholder
  cases hstep with
  | lock hat hmutex =>
      constructor
      · intro other hother
        change (Function.update server.callers caller .locked other).Inside
          at hother
        by_cases hsame : other = caller
        · rw [hsame]
        · rw [Function.update_of_ne hsame] at hother
          have hholder := h.holder other hother
          rw [hmutex] at hholder
          cases hholder
      · intro other hother
        change (Function.update server.callers caller .locked other).Closing
          at hother
        by_cases hsame : other = caller
        · rw [hsame, Function.update_self] at hother
          rcases hother with hother | hother <;> cases hother
        · rw [Function.update_of_ne hsame] at hother
          exact h.pending other hother
      · exact h.running
      · exact h.once
  | repeated hat hflag =>
      apply h.setCaller (hinside hat ⟨by decide, by decide⟩)
      rintro (hnext | hnext) <;> cases hnext
  | setFlag hat hflag =>
      have hin := hinside hat ⟨by decide, by decide⟩
      constructor
      · intro other hother
        change (Function.update server.callers caller .flagged other).Inside
          at hother
        by_cases hsame : other = caller
        · rw [hsame]
          exact h.holder caller hin
        · rw [Function.update_of_ne hsame] at hother
          exact h.holder other hother
      · intro other hother
        exact ⟨h.running hflag, rfl⟩
      · intro hrunning
        cases hrunning
      · exact h.once
  | noListenSocket hat hlisten =>
      apply h.setCaller (hinside hat ⟨by decide, by decide⟩)
      rintro (hnext | hnext) <;> cases hnext
  | shutDownListenSocket hat hlisten =>
      apply h.setCaller (hinside hat ⟨by decide, by decide⟩)
      intro _
      exact h.pending caller (by rw [hat]; exact Or.inl rfl)
  | closeListenSocket hat =>
      have hin := hinside hat ⟨by decide, by decide⟩
      have hcloses := h.pending caller (by rw [hat]; exact Or.inr rfl)
      constructor
      · intro other hother
        change (Function.update server.callers caller .closed other).Inside
          at hother
        by_cases hsame : other = caller
        · rw [hsame]
          exact h.holder caller hin
        · rw [Function.update_of_ne hsame] at hother
          exact h.holder other hother
      · intro other hother
        change (Function.update server.callers caller .closed other).Closing
          at hother
        by_cases hsame : other = caller
        · rw [hsame, Function.update_self] at hother
          rcases hother with hother | hother <;> cases hother
        · rw [Function.update_of_ne hsame] at hother
          exact absurd (halone hin hother.inside) hsame
      · intro hrunning
        rw [show server.shuttingDown = false from hrunning] at hcloses
        cases hcloses.2
      · change server.history.listenCloses + 1 ≤ 1
        omega
  | forgetListenSocket hat =>
      have hmoved : ListenOnce (server.setCaller caller .closingQueue) := by
        apply h.setCaller (hinside hat ⟨by decide, by decide⟩)
        rintro (hnext | hnext) <;> cases hnext
      exact hmoved.of_same rfl rfl rfl rfl
  | closeQueue hat =>
      have hmoved : ListenOnce (server.setCaller caller .unlocking) := by
        apply h.setCaller (hinside hat ⟨by decide, by decide⟩)
        rintro (hnext | hnext) <;> cases hnext
      exact hmoved.of_same rfl rfl rfl rfl
  | unlock hat =>
      have hin := hinside hat ⟨by decide, by decide⟩
      constructor
      · intro other hother
        change (Function.update server.callers caller .returned other).Inside
          at hother
        by_cases hsame : other = caller
        · rw [hsame, Function.update_self] at hother
          exact absurd rfl hother.2
        · rw [Function.update_of_ne hsame] at hother
          exact absurd (halone hin hother) hsame
      · intro other hother
        change (Function.update server.callers caller .returned other).Closing
          at hother
        by_cases hsame : other = caller
        · rw [hsame, Function.update_self] at hother
          rcases hother with hother | hother <;> cases hother
        · rw [Function.update_of_ne hsame] at hother
          exact h.pending other hother
      · exact h.running
      · exact h.once

theorem listenOnce_kept (hcapacity : 0 < capacity) :
    (serverSystem workerCount hcapacity).Kept ListenOnce := by
  intro server next h hstep
  cases hstep with
  | accept hstep => exact acceptStep_listenOnce h hstep
  | worker worker hstep => exact workerStep_listenOnce h hstep
  | shutdown caller hstep => exact shutdownStep_listenOnce h hstep

theorem startedServer_listenOnce (hcapacity : 0 < capacity) :
    ListenOnce (startedServer workerCount hcapacity) := by
  constructor
  · intro caller hcaller
    exact absurd rfl hcaller.1
  · rintro caller (hcaller | hcaller) <;> cases hcaller
  · exact fun _ => rfl
  · exact Nat.zero_le 1

/-!
## Leaving the loop
-/

theorem serverStep_ended {server next : ServerState workerCount capacity}
    (hstep : ServerStep server next) {worker : Fin workerCount}
    (hended : server.workers worker = .ended) : next.workers worker = .ended := by
  cases hstep with
  | accept hstep =>
      cases hstep with
      | push hat hpush hsignal =>
          rcases hsignal.only_wakes worker with hsame | ⟨hbefore, _⟩
          · exact hsame.trans hended
          · rw [hended] at hbefore
            cases hbefore
      | _ => exact hended
  | worker other hstep =>
      have hother : forall {state : WorkerState},
          server.workers other = state -> state ≠ .ended -> worker ≠ other := by
        intro state hat hstate hsame
        rw [← hsame, hended] at hat
        exact hstate hat.symm
      cases hstep with
      | wait hat hpop =>
          exact (Function.update_of_ne (hother hat (by simp)) _ _).trans hended
      | wake hat =>
          exact (Function.update_of_ne (hother hat (by simp)) _ _).trans hended
      | leaveLoop hat hpop =>
          exact (Function.update_of_ne (hother hat (by simp)) _ _).trans hended
      | take readError routed hat hpop =>
          exact (Function.update_of_ne (hother hat (by simp)) _ _).trans hended
      | act hat =>
          exact (Function.update_of_ne (hother hat (by simp)) _ _).trans hended
      | acted hat =>
          exact (Function.update_of_ne (hother hat (by simp)) _ _).trans hended
  | shutdown caller hstep =>
      cases hstep with
      | closeQueue hat =>
          change broadcast server.workers worker = .ended
          simp [broadcast, hended]
      | _ => exact hended

theorem workerStep_leaves {server next : ServerState workerCount capacity}
    {worker other : Fin workerCount} (hstep : WorkerStep server other next)
    (hbefore : server.workers worker ≠ .ended)
    (hafter : next.workers worker = .ended) :
    server.taskQueue.closed = true ∧ server.taskQueue.count = 0 := by
  have hmoved : forall {state : WorkerState}, state ≠ .ended ->
      Function.update server.workers other state worker ≠ .ended := by
    intro state hstate
    by_cases hsame : worker = other
    · rw [hsame, Function.update_self]
      exact hstate
    · rw [Function.update_of_ne hsame]
      exact hbefore
  cases hstep with
  | leaveLoop hat hpop => exact pop_finished hpop
  | wait hat hpop => exact absurd hafter (hmoved (by simp))
  | wake hat => exact absurd hafter (hmoved (by simp))
  | take readError routed hat hpop => exact absurd hafter (hmoved (by simp))
  | act hat => exact absurd hafter (hmoved (by simp))
  | acted hat => exact absurd hafter (hmoved (by simp))

/--
What a run keeps true of the connections and of the listen socket.  In the state
before the push a connection is still with the accept thread.
-/
structure SocketsSafe (hcapacity : 0 < capacity)
    (server : ServerState workerCount capacity) : Prop where
  queued_or_rejected : forall socket, socket < server.history.accepted ->
    socket ∈ server.history.queued ∨ socket ∈ server.history.rejected ∨
      server.acceptThread = .pushing socket
  not_both : forall socket,
    ¬ (socket ∈ server.history.queued ∧ socket ∈ server.history.rejected)
  rejected_with_queue_full : forall socket,
    socket ∈ server.history.rejected ->
      (socket, SqlEngineErrorCode.queueFull) ∈ server.history.errorsSent ∨
        server.acceptThread = .rejecting socket rejectClient
  handled_once : forall socket, server.history.taken.count socket ≤ 1
  closed_once : forall socket, server.history.closed.count socket ≤ 1
  worker_leaves : forall worker next, ServerStep server next ->
    server.workers worker ≠ .ended -> next.workers worker = .ended ->
      server.taskQueue.closed = true ∧ server.taskQueue.count = 0
  queue_stays_empty : forall worker later, server.workers worker = .ended ->
    (serverSystem workerCount hcapacity).Runs server later ->
      later.workers worker = .ended ∧ later.taskQueue.closed = true ∧
        later.taskQueue.count = 0
  all_closed : server.acceptThread = .ended ->
    (forall worker, server.workers worker = .ended) ->
      forall socket, socket < server.history.accepted ->
        server.history.closed.count socket = 1 ∧
          (socket ∈ server.history.queued -> socket ∈ server.history.taken)
  listen_closed_once : server.history.listenCloses ≤ 1

theorem sockets_safe (hcapacity : 0 < capacity) (hworkers : 0 < workerCount)
    {server : ServerState workerCount capacity}
    (hreach : (serverSystem workerCount hcapacity).Reachable server) :
    SocketsSafe hcapacity server := by
  have haccounted : Accounted server := by
    apply (accounted_kept hcapacity).reachable _ hreach
    rintro _ rfl
    exact startedServer_accounted hcapacity
  have hlisten : ListenOnce server := by
    apply (listenOnce_kept hcapacity).reachable _ hreach
    rintro _ rfl
    exact startedServer_listenOnce hcapacity
  -- the arrivals of one connection bound everything that is counted of it
  have hbound : forall socket,
      server.history.queued.count socket +
          server.history.rejected.count socket ≤ 1 := by
    intro socket
    have harrivals := haccounted.arrivals socket
    split at harrivals <;> omega
  have htaken : forall socket,
      server.history.taken.count socket ≤
        server.history.queued.count socket := by
    intro socket
    rw [haccounted.order, List.count_append]
    omega
  constructor
  · intro socket hsocket
    have harrivals := haccounted.arrivals socket
    rw [if_pos hsocket] at harrivals
    by_cases hqueued : socket ∈ server.history.queued
    · exact Or.inl hqueued
    · by_cases hrejected : socket ∈ server.history.rejected
      · exact Or.inr (Or.inl hrejected)
      · rw [List.count_eq_zero_of_not_mem hqueued,
          List.count_eq_zero_of_not_mem hrejected] at harrivals
        right
        right
        cases haccept : server.acceptThread with
        | pushing other =>
            rw [haccept] at harrivals
            have hmem : socket ∈ [other] :=
              List.count_pos_iff.mp (by
                simp only [AcceptState.inFlight] at harrivals
                omega)
            rw [List.mem_singleton.mp hmem]
        | _ => simp [haccept, AcceptState.inFlight] at harrivals
  · rintro socket ⟨hqueued, hrejected⟩
    have hsocket := hbound socket
    have hfirst := List.count_pos_iff.mpr hqueued
    have hsecond := List.count_pos_iff.mpr hrejected
    omega
  · exact haccounted.refused
  · intro socket
    have hsocket := hbound socket
    have hfirst := htaken socket
    omega
  · intro socket
    have hsocket := hbound socket
    have hfirst := htaken socket
    have hcloses := haccounted.closes socket
    omega
  · intro worker next hstep hbefore hafter
    cases hstep with
    | accept hstep =>
        cases hstep with
        | push hat hpush hsignal => exact absurd (hsignal.ended hafter) hbefore
        | _ => exact absurd hafter hbefore
    | worker other hstep => exact workerStep_leaves hstep hbefore hafter
    | shutdown caller hstep =>
        cases hstep with
        | closeQueue hat => exact absurd (broadcast_ended hafter) hbefore
        | _ => exact absurd hafter hbefore
  · intro worker later hended hrun
    have hkept : (serverSystem workerCount hcapacity).Kept
        fun state => state.workers worker = .ended := by
      intro before after hbefore hstep
      exact serverStep_ended hstep hbefore
    have hstill := hkept.runs hended hrun
    have hlater := (accounted_kept hcapacity).runs haccounted hrun
    exact ⟨hstill, hlater.drained worker hstill⟩
  · intro haccept hended socket hsocket
    have hempty := (haccounted.drained ⟨0, hworkers⟩ (hended _)).2
    have horder := haccounted.order
    rw [(waiting_eq_nil_iff _).mpr hempty, List.map_nil, List.append_nil]
      at horder
    have harrivals := haccounted.arrivals socket
    have hcloses := haccounted.closes socket
    have hworkersDone : workersCloses server.workers socket = 0 := by
      apply Finset.sum_eq_zero
      intro worker _
      rw [hended worker]
      rfl
    rw [haccept, if_pos hsocket] at harrivals
    rw [haccept, hworkersDone, ← horder] at hcloses
    simp only [AcceptState.inFlight, AcceptState.closesLeft, List.count_nil]
      at harrivals hcloses
    constructor
    · omega
    · rw [horder]
      exact id
  · exact hlisten.once

theorem sockets_safe_sample :
    exists server : ServerState 1 1,
      server.history.queued = [0] ∧
        SocketsSafe (by decide : 0 < 1) server := by
  have hstart : (serverSystem 1 (by decide : 0 < 1)).Reachable
      (startedServer 1 (by decide)) :=
    ⟨_, rfl, .refl⟩
  have hrunning := hstart.step (.accept (.keepRunning rfl rfl rfl))
  have haccepted := hrunning.step (.accept (.acceptReturns rfl))
  have hqueued := haccepted.step
    (.accept (.push rfl rfl ⟨fun _ => Or.inl rfl, fun _ h => by cases h⟩))
  exact ⟨_, rfl, sockets_safe (by decide) (by decide) hqueued⟩

end Server
end SqlCsvServer
