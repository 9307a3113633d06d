import SqlCsvServer.Server.Liveness

/-!
# A requested shutdown comes to its end

Once `sqlapi_server_request_shutdown` has set its flag, a fair run gets to a state in
which the accept thread and all workers have left their loops, so that the joins of
`sqlapi_server_wait` return, and every connection that was accepted is closed; but a
client that never answers holds its thread, and then the joins never return.
-/

namespace SqlCsvServer
namespace Server

open Foundation
open Engine

variable {workerCount calls capacity : Nat} {answers : Socket -> Prop}

/-!
## The shutdown call
-/

def ShutdownState.Pending (state : ShutdownState) : Prop :=
  state = .flagged ∨ state = .shutDown ∨ state = .closed ∨ state = .closingQueue

def ShutdownState.Listening (state : ShutdownState) : Prop :=
  state = .flagged ∨ state = .shutDown ∨ state = .closed

theorem ShutdownState.Listening.pending {state : ShutdownState} (h : state.Listening) :
    state.Pending := by
  rcases h with rfl | rfl | rfl
  · exact .inl rfl
  · exact .inr (.inl rfl)
  · exact .inr (.inr (.inl rfl))

theorem ShutdownState.Pending.inside {state : ShutdownState} (h : state.Pending) :
    state.Inside := by
  unfold ShutdownState.Inside
  rcases h with rfl | rfl | rfl | rfl
  · decide
  · decide
  · decide
  · decide

structure ShutsDown (server : ServerState workerCount capacity) : Prop where
  holder : forall caller, server.stateMutex = some caller ->
    (server.callers caller).Inside
  alone : forall caller, (server.callers caller).Inside ->
    server.stateMutex = some caller
  pending : forall caller, (server.callers caller).Pending ->
    server.shuttingDown = true
  toClose : server.shuttingDown = true -> server.taskQueue.closed = false ->
    exists caller, (server.callers caller).Pending
  listening : server.shuttingDown = true -> server.listenSocket = true ->
    exists caller, (server.callers caller).Listening
  flagged : server.taskQueue.closed = true -> server.shuttingDown = true

theorem startedServer_shutsDown (hcapacity : 0 < capacity) :
    ShutsDown (startedServer workerCount hcapacity) := by
  have hcalling : forall caller,
      (startedServer workerCount hcapacity).callers caller = .calling := fun _ => rfl
  constructor
  · intro caller hmutex
    cases hmutex
  · intro caller hinside
    rw [hcalling] at hinside
    exact absurd rfl hinside.1
  · intro caller hpending
    rw [hcalling] at hpending
    exact absurd rfl hpending.inside.1
  · intro hflag
    cases hflag
  · intro hflag
    cases hflag
  · intro hclosed
    cases hclosed

theorem ShutsDown.of_same {server next : ServerState workerCount capacity}
    (h : ShutsDown server) (hcallers : next.callers = server.callers)
    (hmutex : next.stateMutex = server.stateMutex)
    (hflag : next.shuttingDown = server.shuttingDown)
    (hlisten : next.listenSocket = server.listenSocket)
    (hclosed : next.taskQueue.closed = server.taskQueue.closed) : ShutsDown next := by
  constructor
  · rw [hcallers, hmutex]
    exact h.holder
  · rw [hcallers, hmutex]
    exact h.alone
  · rw [hcallers, hflag]
    exact h.pending
  · rw [hcallers, hflag, hclosed]
    exact h.toClose
  · rw [hcallers, hflag, hlisten]
    exact h.listening
  · rw [hclosed, hflag]
    exact h.flagged

section Caller

variable {server next : ServerState workerCount capacity} {caller other : Nat}
  {state : ShutdownState}

theorem ShutsDown.only (h : ShutsDown server) (hinside : (server.callers caller).Inside)
    (hother : (server.callers other).Inside) : other = caller := by
  have hholder := h.alone caller hinside
  rw [h.alone other hother, Option.some.injEq] at hholder
  exact hholder

theorem ShutsDown.at_caller (h : ShutsDown server) {P : ShutdownState -> Prop}
    (hP : forall {state}, P state -> state.Inside)
    (hinside : (server.callers caller).Inside) (hat : server.callers caller = state)
    (hsome : exists other, P (server.callers other)) : P state := by
  rcases hsome with ⟨other, hother⟩
  rw [h.only hinside (hP hother), hat] at hother
  exact hother

theorem ShutsDown.move (h : ShutsDown server) (hinside : (server.callers caller).Inside)
    (hcallers : next.callers = Function.update server.callers caller state)
    (hmutex : next.stateMutex = server.stateMutex) (hstate : state.Inside)
    (hpending : state.Pending -> next.shuttingDown = true)
    (htoClose : next.shuttingDown = true -> next.taskQueue.closed = false -> state.Pending)
    (hlistening : next.shuttingDown = true -> next.listenSocket = true -> state.Listening)
    (hflagged : next.taskQueue.closed = true -> next.shuttingDown = true) :
    ShutsDown next := by
  have hself : next.callers caller = state := by
    rw [hcallers, Function.update_self]
  have hothers : forall {other}, (next.callers other).Inside -> other = caller := by
    intro other hother
    by_contra hne
    rw [hcallers, Function.update_of_ne hne] at hother
    exact hne (h.only hinside hother)
  constructor
  · intro other hholder
    rw [hmutex, h.alone caller hinside, Option.some.injEq] at hholder
    rw [← hholder, hself]
    exact hstate
  · intro other hother
    rw [hothers hother, hmutex]
    exact h.alone caller hinside
  · intro other hother
    rw [hothers hother.inside, hself] at hother
    exact hpending hother
  · intro hflag hclosed
    exact ⟨caller, by rw [hself]; exact htoClose hflag hclosed⟩
  · intro hflag hlisten
    exact ⟨caller, by rw [hself]; exact hlistening hflag hlisten⟩
  · exact hflagged

theorem shutdownStep_shutsDown (h : ShutsDown server)
    (hstep : ShutdownStep server caller next) : ShutsDown next := by
  have hinside : forall {state : ShutdownState},
      server.callers caller = state -> state ≠ .calling ∧ state ≠ .returned ->
        (server.callers caller).Inside := by
    intro state hat hstate
    rw [hat]
    exact hstate
  cases hstep with
  | lock hat hmutex =>
      have hnobody : forall other, ¬ (server.callers other).Inside := by
        intro other hother
        have hholder := h.alone other hother
        rw [hmutex] at hholder
        cases hholder
      have hself : forall other, (Function.update server.callers caller .locked other).Inside ->
          other = caller := by
        intro other hother
        by_contra hne
        rw [Function.update_of_ne hne] at hother
        exact hnobody other hother
      constructor
      · intro other hholder
        cases hholder
        show (Function.update server.callers caller .locked caller).Inside
        rw [Function.update_self]
        exact ⟨by decide, by decide⟩
      · intro other hother
        exact congrArg some (hself other hother).symm
      · intro other hother
        change (Function.update server.callers caller .locked other).Pending at hother
        rw [hself other hother.inside, Function.update_self] at hother
        rcases hother with hat | hat | hat | hat
        all_goals cases hat
      · intro hflag hclosed
        rcases h.toClose hflag hclosed with ⟨other, hother⟩
        exact absurd hother.inside (hnobody other)
      · intro hflag hlisten
        rcases h.listening hflag hlisten with ⟨other, hother⟩
        exact absurd hother.pending.inside (hnobody other)
      · exact h.flagged
  | repeated hat hflag =>
      have hin := hinside hat ⟨by decide, by decide⟩
      refine h.move hin rfl rfl ⟨by decide, by decide⟩ (fun _ => hflag) ?_ ?_ h.flagged
      · intro hflag hclosed
        have hlocked := h.at_caller ShutdownState.Pending.inside hin hat
          (h.toClose hflag hclosed)
        rcases hlocked with hat | hat | hat | hat
        all_goals cases hat
      · intro hflag hlisten
        have hlocked := h.at_caller (fun hat => hat.pending.inside) hin hat
          (h.listening hflag hlisten)
        rcases hlocked with hat | hat | hat
        all_goals cases hat
  | setFlag hat hflag =>
      exact h.move (hinside hat ⟨by decide, by decide⟩) rfl rfl ⟨by decide, by decide⟩
        (fun _ => rfl) (fun _ _ => .inl rfl) (fun _ _ => .inl rfl) (fun _ => rfl)
  | noListenSocket hat hlisten =>
      have hflag := h.pending caller (hat ▸ .inl rfl)
      refine h.move (hinside hat ⟨by decide, by decide⟩) rfl rfl ⟨by decide, by decide⟩
        (fun _ => hflag) (fun _ _ => .inr (.inr (.inr rfl))) ?_ h.flagged
      intro _ hopen
      rw [show server.listenSocket = true from hopen] at hlisten
      cases hlisten
  | shutDownListenSocket hat hlisten =>
      have hflag := h.pending caller (hat ▸ .inl rfl)
      exact h.move (hinside hat ⟨by decide, by decide⟩) rfl rfl ⟨by decide, by decide⟩
        (fun _ => hflag) (fun _ _ => .inr (.inl rfl)) (fun _ _ => .inr (.inl rfl))
        h.flagged
  | closeListenSocket hat =>
      have hflag := h.pending caller (hat ▸ .inr (.inl rfl))
      exact h.move (hinside hat ⟨by decide, by decide⟩) rfl rfl ⟨by decide, by decide⟩
        (fun _ => hflag) (fun _ _ => .inr (.inr (.inl rfl)))
        (fun _ _ => .inr (.inr rfl)) h.flagged
  | forgetListenSocket hat =>
      have hflag := h.pending caller (hat ▸ .inr (.inr (.inl rfl)))
      exact h.move (hinside hat ⟨by decide, by decide⟩) rfl rfl ⟨by decide, by decide⟩
        (fun _ => hflag) (fun _ _ => .inr (.inr (.inr rfl))) (fun _ hopen => nomatch hopen)
        h.flagged
  | closeQueue hat =>
      have hflag := h.pending caller (hat ▸ .inr (.inr (.inr rfl)))
      have hin := hinside hat ⟨by decide, by decide⟩
      refine h.move hin rfl rfl ⟨by decide, by decide⟩ (fun _ => hflag)
        (fun _ hopen => nomatch hopen) ?_ (fun _ => hflag)
      intro hflag hlisten
      have hclosing := h.at_caller (fun hat => hat.pending.inside) hin hat
        (h.listening hflag hlisten)
      rcases hclosing with hat | hat | hat
      all_goals cases hat
  | unlock hat =>
      have hin := hinside hat ⟨by decide, by decide⟩
      have hnobody : forall other,
          ¬ (Function.update server.callers caller .returned other).Inside := by
        intro other hother
        by_cases hsame : other = caller
        · rw [hsame, Function.update_self] at hother
          exact hother.2 rfl
        · rw [Function.update_of_ne hsame] at hother
          exact hsame (h.only hin hother)
      constructor
      · intro other hholder
        cases hholder
      · exact fun other hother => absurd hother (hnobody other)
      · exact fun other hother => absurd hother.inside (hnobody other)
      · intro hflag hclosed
        have hleft := h.at_caller ShutdownState.Pending.inside hin hat
          (h.toClose hflag hclosed)
        rcases hleft with hat | hat | hat | hat
        all_goals cases hat
      · intro hflag hlisten
        have hleft := h.at_caller (fun hat => hat.pending.inside) hin hat
          (h.listening hflag hlisten)
        rcases hleft with hat | hat | hat
        all_goals cases hat
      · exact h.flagged

end Caller

theorem shutsDown_kept (hcapacity : 0 < capacity) :
    (serverSystem workerCount hcapacity).Kept ShutsDown := by
  intro server next h hstep
  cases hstep with
  | accept hstep =>
      cases hstep with
      | @push socket queue workers hat hpush hsignal =>
          rcases tryPush_cases server.taskQueue { clientSocket := socket } with
            ⟨_, hopen, _, _, hstill⟩ | ⟨hfull, _⟩
          · rw [hpush] at hstill
            exact h.of_same rfl rfl rfl rfl (hstill.trans hopen.symm)
          · rw [hpush] at hfull
            cases hfull
      | @pushFails socket queue hat hpush =>
          rcases tryPush_cases server.taskQueue { clientSocket := socket } with
            ⟨hpushed, _⟩ | ⟨_, _, hleft⟩
          · rw [hpush] at hpushed
            cases hpushed
          · rw [hpush] at hleft
            exact h.of_same rfl rfl rfl rfl (congrArg ServerTaskQueue.closed hleft)
      | _ => exact h.of_same rfl rfl rfl rfl rfl
  | worker worker hstep =>
      cases hstep with
      | take readError routed hat hpop =>
          exact h.of_same rfl rfl rfl rfl (pop_popped hpop).2
      | _ => exact h.of_same rfl rfl rfl rfl rfl
  | shutdown caller hstep => exact shutdownStep_shutsDown h hstep

theorem reachable_shutsDown {hcapacity : 0 < capacity}
    {server : ServerState workerCount capacity}
    (h : (serverSystem workerCount hcapacity).Reachable server) : ShutsDown server := by
  apply (shutsDown_kept hcapacity).reachable _ h
  rintro _ rfl
  exact startedServer_shutsDown hcapacity

/-!
## From the flag to the closed queue
-/

def ShutdownState.stepsLeft : ShutdownState -> Nat
  | .calling => 7
  | .locked => 6
  | .flagged => 5
  | .shutDown => 4
  | .closed => 3
  | .closingQueue => 2
  | .unlocking => 1
  | .returned => 0

section Calls

variable {server next : ServerState workerCount capacity}
  {thread : ServerThread workerCount calls}

theorem shutdownStep_callers {caller : Nat} (h : ShutdownStep server caller next) :
    exists state, next.callers = Function.update server.callers caller state ∧
      state.stepsLeft < (server.callers caller).stepsLeft := by
  cases h with
  | lock hat hmutex => exact ⟨_, rfl, by rw [hat]; decide⟩
  | repeated hat hflag => exact ⟨_, rfl, by rw [hat]; decide⟩
  | setFlag hat hflag => exact ⟨_, rfl, by rw [hat]; decide⟩
  | noListenSocket hat hlisten => exact ⟨_, rfl, by rw [hat]; decide⟩
  | shutDownListenSocket hat hlisten => exact ⟨_, rfl, by rw [hat]; decide⟩
  | closeListenSocket hat => exact ⟨_, rfl, by rw [hat]; decide⟩
  | forgetListenSocket hat => exact ⟨_, rfl, by rw [hat]; decide⟩
  | closeQueue hat => exact ⟨_, rfl, by rw [hat]; decide⟩
  | unlock hat => exact ⟨_, rfl, by rw [hat]; decide⟩

theorem ServerThread.Step.callers (h : thread.Step server next) {caller : Nat}
    (hother : forall mine : Fin calls, thread = .shutdown mine -> mine.val ≠ caller) :
    next.callers caller = server.callers caller := by
  cases thread with
  | accept =>
      cases h
      all_goals rfl
  | worker mine =>
      cases h
      all_goals rfl
  | shutdown mine =>
      rcases shutdownStep_callers h with ⟨state, hcallers, _⟩
      rw [hcallers, Function.update_of_ne (hother mine rfl).symm]

def OnlyCalls (calls : Nat) (server : ServerState workerCount capacity) : Prop :=
  forall caller, calls ≤ caller -> server.callers caller = .calling

theorem ServerThread.Step.onlyCalls (h : thread.Step server next)
    (honly : OnlyCalls calls server) : OnlyCalls calls next := by
  intro caller hbeyond
  rw [h.callers fun mine _ => Nat.ne_of_lt (Nat.lt_of_lt_of_le mine.isLt hbeyond)]
  exact honly caller hbeyond

theorem pendingStep_nearer {caller : Nat} (hpending : (server.callers caller).Pending)
    (hstep : ShutdownStep server caller next) :
    next.taskQueue.closed = true ∨ (next.callers caller).Pending := by
  have hself : forall state, Function.update server.callers caller state caller = state :=
    fun state => Function.update_self ..
  have hnot : forall {state : ShutdownState}, server.callers caller = state ->
      ¬ state.Pending -> next.taskQueue.closed = true ∨ (next.callers caller).Pending := by
    intro state hat hstate
    rw [hat] at hpending
    exact absurd hpending hstate
  cases hstep with
  | closeQueue hat => exact .inl rfl
  | noListenSocket hat hlisten =>
      right
      show (Function.update server.callers caller .closingQueue caller).Pending
      rw [hself]
      exact .inr (.inr (.inr rfl))
  | shutDownListenSocket hat hlisten =>
      right
      show (Function.update server.callers caller .shutDown caller).Pending
      rw [hself]
      exact .inr (.inl rfl)
  | closeListenSocket hat =>
      right
      show (Function.update server.callers caller .closed caller).Pending
      rw [hself]
      exact .inr (.inr (.inl rfl))
  | forgetListenSocket hat =>
      right
      show (Function.update server.callers caller .closingQueue caller).Pending
      rw [hself]
      exact .inr (.inr (.inr rfl))
  | lock hat hmutex => exact hnot hat (by unfold ShutdownState.Pending; simp)
  | repeated hat hflag => exact hnot hat (by unfold ShutdownState.Pending; simp)
  | setFlag hat hflag => exact hnot hat (by unfold ShutdownState.Pending; simp)
  | unlock hat => exact hnot hat (by unfold ShutdownState.Pending; simp)

theorem pending_leads_to_closed
    (run : FairRun (serverThreads answers workerCount calls capacity)) {n : Nat} {caller : Fin calls} (h : ((run.states n).callers caller).Pending) :
    exists m, n ≤ m ∧ (run.states m).taskQueue.closed = true := by
  have hown : forall {s t : ServerState workerCount capacity},
      (s.callers caller).Pending -> ShutdownStep s caller t ->
        t.taskQueue.closed = true ∨ (t.callers caller).Pending ∧
          (t.callers caller).stepsLeft < (s.callers caller).stepsLeft := by
    intro s t hpending hstep
    rcases shutdownStep_callers hstep with ⟨state, hcallers, hless⟩
    rcases pendingStep_nearer hpending hstep with hclosed | hstill
    · exact .inl hclosed
    · refine .inr ⟨hstill, ?_⟩
      rw [hcallers, Function.update_self]
      exact hless
  refine @FairRun.leads_to _ _ _ run (fun s => (s.callers caller).Pending)
    (fun s => s.taskQueue.closed = true) (fun s => (s.callers caller).stepsLeft)
    (.shutdown caller) (fun h => ⟨h.inside, id⟩) ?_ (fun h hstep => hown h hstep.2) n h
  rintro thread s t hpending ⟨_, hstep⟩
  by_cases hmine : thread = .shutdown caller
  · subst hmine
    rcases hown hpending hstep with hclosed | ⟨hafter, hless⟩
    · exact .inl hclosed
    · exact .inr ⟨hafter, Nat.le_of_lt hless⟩
  · have hsame : t.callers caller = s.callers caller := by
      apply ServerThread.Step.callers hstep
      rintro mine rfl heq
      exact hmine (congrArg ServerThread.shutdown (Fin.ext heq))
    rw [hsame]
    exact .inr ⟨hpending, Nat.le_refl _⟩

end Calls

/-!
## What is left to do
-/

def AcceptState.stepsLeft : AcceptState -> Nat
  | .checking => 1
  | .accepting => 6
  | .failed => 1
  | .pushing _ => 5
  | .rejecting _ actions => actions.length + 2
  | .ended => 0

def workLeft (calls : Nat) (server : ServerState workerCount capacity) : Nat :=
  server.acceptThread.stepsLeft +
    threadSum WorkerState.stepsToQueue server.workers + 6 * server.waiting.length +
      threadSum ShutdownState.stepsLeft fun caller : Fin calls => server.callers caller

section Work

variable {server next : ServerState workerCount capacity}

theorem acceptStep_workLeft (hstep : AcceptStep server next)
    (hflag : server.shuttingDown = true) (hclosed : server.taskQueue.closed = true) :
    workLeft calls next < workLeft calls server ∧ next.taskQueue.closed = true := by
  -- workers, queue and shutdown calls stay; the accept thread has a step less ahead
  have hless : forall {state : AcceptState},
      next.acceptThread = state -> next.workers = server.workers ->
        next.taskQueue = server.taskQueue -> next.callers = server.callers ->
          state.stepsLeft < server.acceptThread.stepsLeft ->
            workLeft calls next < workLeft calls server ∧
              next.taskQueue.closed = true := by
    intro state haccept hworkers hqueue hcallers hsteps
    unfold workLeft ServerState.waiting
    rw [haccept, hworkers, hqueue, hcallers]
    exact ⟨by omega, hclosed⟩
  cases hstep with
  | keepRunning hat hmutex hrunning =>
      rw [hflag] at hrunning
      cases hrunning
  | tryAgain hat hmutex hrunning =>
      rw [hflag] at hrunning
      cases hrunning
  | leaveLoop hat hmutex hset =>
      exact hless rfl rfl rfl rfl (by rw [hat]; exact Nat.zero_lt_one)
  | acceptFails hat =>
      exact hless rfl rfl rfl rfl (by rw [hat]; exact Nat.one_lt_succ_succ 4)
  | breakLoop hat hmutex hset =>
      exact hless rfl rfl rfl rfl (by rw [hat]; exact Nat.zero_lt_one)
  | acceptReturns hat =>
      exact hless rfl rfl rfl rfl (by rw [hat]; exact Nat.lt_succ_self 5)
  | @push socket queue workers hat hpush hsignal =>
      rcases tryPush_cases server.taskQueue { clientSocket := socket } with
        ⟨_, hopen, _⟩ | ⟨hfull, _⟩
      · rw [hclosed] at hopen
        cases hopen
      · rw [hpush] at hfull
        cases hfull
  | @pushFails socket queue hat hpush =>
      rcases tryPush_cases server.taskQueue { clientSocket := socket } with
        ⟨hpushed, _⟩ | ⟨_, _, hleft⟩
      · rw [hpush] at hpushed
        cases hpushed
      · rw [hpush] at hleft
        exact hless rfl rfl hleft rfl (by rw [hat]; exact Nat.lt_succ_self 4)
  | act hat => exact hless rfl rfl rfl rfl (by rw [hat]; exact Nat.lt_succ_self _)
  | acted hat => exact hless rfl rfl rfl rfl (by rw [hat]; exact Nat.lt_succ_self 1)

theorem workerStep_workLeft {worker : Fin workerCount}
    (hstep : WorkerStep server worker next) (hclosed : server.taskQueue.closed = true) :
    workLeft calls next < workLeft calls server ∧ next.taskQueue.closed = true := by
  have hless : forall {state : WorkerState},
      next.workers = Function.update server.workers worker state ->
        next.acceptThread = server.acceptThread -> next.callers = server.callers ->
          state.stepsToQueue + 6 * next.waiting.length <
              (server.workers worker).stepsToQueue + 6 * server.waiting.length ->
            workLeft calls next < workLeft calls server := by
    intro state hworkers haccept hcallers hsteps
    have hsum := threadSum_update WorkerState.stepsToQueue server.workers worker state
    unfold workLeft
    rw [haccept, hworkers, hcallers]
    omega
  cases hstep with
  | wait hat hpop =>
      rw [(pop_waits hpop).1] at hclosed
      cases hclosed
  | @wake signalled hat =>
      exact ⟨hless rfl rfl rfl
        (Nat.add_lt_add_right (by rw [hat]; exact Nat.lt_succ_self 1) _), hclosed⟩
  | leaveLoop hat hpop =>
      exact ⟨hless rfl rfl rfl (Nat.add_lt_add_right (by rw [hat]; decide) _), hclosed⟩
  | @take task left readError routed hat hpop =>
      rcases pop_popped hpop with ⟨hwaiting, hsame⟩
      refine ⟨hless rfl rfl rfl ?_, hsame.trans hclosed⟩
      have hlength := handleClientRequest_length readError routed
      unfold ServerState.waiting
      rw [hat, hwaiting, List.length_map, List.length_map, List.length_cons]
      unfold WorkerState.stepsToQueue
      simp only
      omega
  | act hat =>
      exact ⟨hless rfl rfl rfl
        (Nat.add_lt_add_right (by rw [hat]; exact Nat.lt_succ_self _) _), hclosed⟩
  | acted hat =>
      exact ⟨hless rfl rfl rfl
        (Nat.add_lt_add_right (by rw [hat]; exact Nat.lt_succ_self 1) _), hclosed⟩

theorem broadcast_stepsToQueue (workers : Fin workerCount -> WorkerState) :
    threadSum WorkerState.stepsToQueue (broadcast workers) =
      threadSum WorkerState.stepsToQueue workers := by
  apply threadSum_congr
  intro worker
  unfold broadcast
  cases workers worker with
  | asleep signalled => rfl
  | _ => rfl

theorem shutdownStep_others {caller : Nat} (hstep : ShutdownStep server caller next) :
    next.acceptThread = server.acceptThread ∧
      threadSum WorkerState.stepsToQueue next.workers =
          threadSum WorkerState.stepsToQueue server.workers ∧
        next.waiting = server.waiting ∧
          (server.taskQueue.closed = true -> next.taskQueue.closed = true) := by
  cases hstep with
  | closeQueue hat =>
      exact ⟨rfl, broadcast_stepsToQueue server.workers, rfl, fun _ => rfl⟩
  | _ => exact ⟨rfl, rfl, rfl, fun hclosed => hclosed⟩

theorem shutdownStep_workLeft {caller : Fin calls}
    (hstep : ShutdownStep server caller next) (hclosed : server.taskQueue.closed = true) :
    workLeft calls next < workLeft calls server ∧ next.taskQueue.closed = true := by
  rcases shutdownStep_callers hstep with ⟨state, hcallers, hless⟩
  rcases shutdownStep_others hstep with ⟨haccept, hworkers, hwaiting, hstays⟩
  have hmoved : (fun other : Fin calls => next.callers other) =
      Function.update (fun other : Fin calls => server.callers other) caller state := by
    funext other
    rw [hcallers]
    by_cases hsame : other = caller
    · rw [hsame, Function.update_self, Function.update_self]
    · rw [Function.update_of_ne hsame, Function.update_of_ne fun heq => hsame (Fin.ext heq)]
  have hsum := threadSum_update ShutdownState.stepsLeft
    (fun other : Fin calls => server.callers other) caller state
  refine ⟨?_, hstays hclosed⟩
  unfold workLeft
  rw [haccept, hworkers, hwaiting, hmoved]
  omega

theorem step_workLeft {thread : ServerThread workerCount calls}
    (hstep : thread.Step server next) (hflag : server.shuttingDown = true)
    (hclosed : server.taskQueue.closed = true) :
    workLeft calls next < workLeft calls server ∧ next.taskQueue.closed = true := by
  cases thread with
  | accept => exact acceptStep_workLeft hstep hflag hclosed
  | worker worker => exact workerStep_workLeft hstep hclosed
  | shutdown caller => exact shutdownStep_workLeft hstep hclosed

end Work

/-!
## The end
-/

/-- The joins of `sqlapi_server_wait` return, and no connection is left open. -/
structure ServerEnded (server : ServerState workerCount capacity) : Prop where
  acceptThread : server.acceptThread = .ended
  workers : forall worker, server.workers worker = .ended
  queue : server.taskQueue.closed = true ∧ server.waiting = []
  listenSocket : server.listenSocket = false
  connections : forall socket, socket < server.history.accepted ->
    server.history.closed.count socket = 1

theorem ended_of_rest {hcapacity : 0 < capacity} (hworkers : 0 < workerCount)
    {server : ServerState workerCount capacity}
    (hreach : (serverSystem workerCount hcapacity).Reachable server)
    (honly : OnlyCalls calls server) (hclosed : server.taskQueue.closed = true)
    (hrest : forall thread : ServerThread workerCount calls, ¬ thread.Ready server) :
    ServerEnded server := by
  have hshuts := reachable_shutsDown hreach
  have haccounted := reachable_accounted hreach
  have hmutex : server.stateMutex = none := by
    cases hholder : server.stateMutex with
    | none => rfl
    | some caller =>
        have hinside := hshuts.holder caller hholder
        by_cases hbound : caller < calls
        · exact absurd hinside (hrest (.shutdown ⟨caller, hbound⟩))
        · exact absurd (honly caller (Nat.le_of_not_lt hbound)) hinside.1
  have hlisten : server.listenSocket = false := by
    by_contra hopen
    rcases hshuts.listening (hshuts.flagged hclosed) (Bool.eq_true_of_not_eq_false hopen)
      with ⟨caller, hat⟩
    have hholder := hshuts.alone caller hat.pending.inside
    rw [hmutex] at hholder
    cases hholder
  have haccept : server.acceptThread = .ended := by
    have hready : ¬ server.AcceptReady := hrest .accept
    unfold ServerState.AcceptReady at hready
    cases hat : server.acceptThread with
    | ended => rfl
    | checking => exact absurd hmutex (by rwa [hat] at hready)
    | accepting => exact absurd hlisten (by rwa [hat] at hready)
    | failed => exact absurd hmutex (by rwa [hat] at hready)
    | pushing socket => exact absurd trivial (by rwa [hat] at hready)
    | rejecting socket actions => exact absurd trivial (by rwa [hat] at hready)
  have hended : forall worker, server.workers worker = .ended := by
    intro worker
    have hready : ¬ (server.workers worker).onFeet = 1 := hrest (.worker worker)
    have hawake := (reachable_noneForgotten hreach).closed hclosed worker
    cases hat : server.workers worker with
    | ended => rfl
    | popping => exact absurd rfl (by rwa [hat] at hready)
    | handling socket actions => exact absurd rfl (by rwa [hat] at hready)
    | asleep signalled =>
        cases signalled with
        | false => exact absurd hat hawake
        | true => exact absurd rfl (by rwa [hat] at hready)
  have hempty : server.waiting = [] := by
    unfold ServerState.waiting
    rw [(waiting_eq_nil_iff _).mpr (haccounted.drained ⟨0, hworkers⟩ (hended _)).2]
    rfl
  refine ⟨haccept, hended, ⟨hclosed, hempty⟩, hlisten, ?_⟩
  intro socket haccepted
  apply Nat.le_antisymm (haccounted.closed_le_one socket)
  rcases haccounted.whereabouts haccepted with
    hdone | hat | ⟨actions, hat, _⟩ | ⟨worker, actions, hat, _⟩ | hat
  · exact List.count_pos_iff.mpr hdone
  · cases haccept.symm.trans hat
  · cases haccept.symm.trans hat
  · cases (hended worker).symm.trans hat
  · rw [hempty] at hat
    cases hat

section Held

variable (run : FairRun (serverThreads answers workerCount calls capacity)) {n m : Nat}
  {thread : ServerThread workerCount calls}

theorem held_stays (hle : n ≤ m) (h : thread.Held answers (run.states n)) :
    thread.Held answers (run.states m) := by
  refine run.always (P := fun s => thread.Held answers s) ?_ hle h
  rintro mine s t hheld ⟨hmoves, hstep⟩
  have hother : mine ≠ thread := by
    rintro rfl
    exact hmoves hheld
  cases thread with
  | accept =>
      rcases hheld with ⟨socket, action, actions, hat, hnever⟩
      exact ⟨socket, action, actions, (hstep.acceptThread hother).trans hat, hnever⟩
  | worker worker =>
      rcases hheld with ⟨socket, action, actions, hat, hnever⟩
      rcases hstep.worker hother with hsame | ⟨⟨signalled, hasleep⟩, _⟩
      · exact ⟨socket, action, actions, hsame.trans hat, hnever⟩
      · cases hat.symm.trans hasleep
  | shutdown caller => exact hheld

def ServerThread.HasLeft (server : ServerState workerCount capacity) :
    ServerThread workerCount calls -> Prop
  | .accept => server.acceptThread = .ended
  | .worker mine => server.workers mine = .ended
  | .shutdown _ => True

theorem ServerEnded.hasLeft {server : ServerState workerCount capacity}
    (h : ServerEnded server) : thread.HasLeft server := by
  cases thread with
  | accept => exact h.acceptThread
  | worker worker => exact h.workers worker
  | shutdown caller => trivial

theorem hasLeft_not_held {server : ServerState workerCount capacity}
    (h : thread.HasLeft server) : ¬ thread.Held answers server := by
  cases thread with
  | accept =>
      rintro ⟨socket, action, actions, hat, _⟩
      cases h.symm.trans hat
  | worker worker =>
      rintro ⟨socket, action, actions, hat, _⟩
      cases h.symm.trans hat
  | shutdown caller => exact id

theorem hasLeft_stays (hle : n ≤ m) (h : thread.HasLeft (run.states n)) :
    thread.HasLeft (run.states m) := by
  refine run.always (P := fun s => thread.HasLeft s) ?_ hle h
  rintro mine s t hleft ⟨_, hstep⟩
  by_cases hmine : mine = thread
  · subst hmine
    cases mine with
    | accept =>
        have hended : s.acceptThread = .ended := hleft
        cases hstep with
        | keepRunning hat => cases hended.symm.trans hat
        | leaveLoop hat => cases hended.symm.trans hat
        | acceptFails hat => cases hended.symm.trans hat
        | breakLoop hat => cases hended.symm.trans hat
        | tryAgain hat => cases hended.symm.trans hat
        | acceptReturns hat => cases hended.symm.trans hat
        | push hat => cases hended.symm.trans hat
        | pushFails hat => cases hended.symm.trans hat
        | act hat => cases hended.symm.trans hat
        | acted hat => cases hended.symm.trans hat
    | worker worker =>
        have hended : s.workers worker = .ended := hleft
        cases hstep with
        | wait hat => cases hended.symm.trans hat
        | wake hat => cases hended.symm.trans hat
        | leaveLoop hat => cases hended.symm.trans hat
        | take _ _ hat => cases hended.symm.trans hat
        | act hat => cases hended.symm.trans hat
        | acted hat => cases hended.symm.trans hat
    | shutdown caller => trivial
  · cases thread with
    | accept => exact (hstep.acceptThread hmine).trans hleft
    | worker worker =>
        rcases hstep.worker hmine with hsame | ⟨⟨signalled, hasleep⟩, _⟩
        · exact hsame.trans hleft
        · cases (show s.workers worker = .ended from hleft).symm.trans hasleep
    | shutdown caller => trivial

theorem nobodyHeld_of_ended (h : ServerEnded (run.states n)) : NobodyHeld run := by
  intro m thread hheld
  rcases Nat.le_total n m with hle | hle
  · exact hasLeft_not_held (hasLeft_stays run hle h.hasLeft) hheld
  · exact hasLeft_not_held h.hasLeft (held_stays run hle hheld)

end Held
/--
A requested shutdown comes to its end: in every fair run in which the flag has been set at
some time, whatever the threads were doing then, all threads leave their loops and every
connection that was accepted is closed exactly once, unless a thread is held by a client
that never answers, in which case this never happens.
-/
theorem shutdown_finishes (hcapacity : 0 < capacity) (hworkers : 0 < workerCount)
    (run : FairRun (serverThreads answers workerCount calls capacity))
    (hstart : run.states 0 = startedServer workerCount hcapacity) {n : Nat}
    (hflag : (run.states n).shuttingDown = true) :
    (exists m, n ≤ m ∧ ServerEnded (run.states m)) <-> NobodyHeld run := by
  refine ⟨fun ⟨m, _, hended⟩ => nobodyHeld_of_ended run hended, fun hfree => ?_⟩
  have hreach := fairRun_reachable run hstart
  have honly : forall n, OnlyCalls calls (run.states n) := by
    intro n
    refine run.always (fun h hstep => ServerThread.Step.onlyCalls hstep.2 h)
      (Nat.zero_le n) ?_
    rw [hstart]
    exact fun _ _ => rfl
  have hclosed : exists m, n ≤ m ∧ (run.states m).taskQueue.closed = true := by
    cases hqueue : (run.states n).taskQueue.closed with
    | true => exact ⟨n, Nat.le_refl n, hqueue⟩
    | false =>
        rcases (reachable_shutsDown (hreach n)).toClose hflag hqueue with ⟨caller, hpending⟩
        have hbound : caller < calls := by
          by_contra hbeyond
          exact hpending.inside.1 (honly n caller (Nat.le_of_not_lt hbeyond))
        exact pending_leads_to_closed run (show
          ((run.states n).callers (⟨caller, hbound⟩ : Fin calls)).Pending from hpending)
  rcases hclosed with ⟨first, hfirst, hclosed⟩
  rcases @FairRun.settles _ _ _ run
    (fun s => (serverSystem workerCount hcapacity).Reachable s ∧
      s.taskQueue.closed = true) (workLeft calls)
    (fun {thread s t} h hstep => by
      have hdown := step_workLeft hstep.2 ((reachable_shutsDown h.1).flagged h.2) h.2
      exact ⟨⟨h.1.step hstep.2.serverStep, hdown.2⟩, hdown.1⟩)
    first ⟨hreach first, hclosed⟩ with ⟨m, hle, ⟨_, hstill⟩, hrest⟩
  exact ⟨m, Nat.le_trans hfirst hle, ended_of_rest hworkers (hreach m) (honly m) hstill
    fun thread hready => hrest thread ⟨hready, hfree m thread⟩⟩

theorem sampleShutdown_rests :
    exists server : ServerState 1 1,
      Relation.ReflTransGen
          (fun before after => exists thread : ServerThread 1 1, thread.Step before after)
          (startedServer 1 Nat.one_pos) server ∧
        (forall thread : ServerThread 1 1, ¬ thread.Ready server) ∧
          server.shuttingDown = true ∧ server.history.accepted = 1 := by
  have hpushed := (((Relation.ReflTransGen.refl (r :=
      fun before after => exists thread : ServerThread 1 1, thread.Step before after)
    (a := startedServer 1 Nat.one_pos)).tail ⟨.accept, .keepRunning rfl rfl rfl⟩).tail
      ⟨.accept, .acceptReturns rfl⟩).tail
        ⟨.accept, .push rfl rfl ⟨fun _ => .inl rfl, fun _ h => nomatch h⟩⟩
  have hflagged := ((hpushed.tail ⟨.shutdown 0, .lock rfl rfl⟩).tail
    ⟨.shutdown 0, .setFlag rfl rfl⟩).tail ⟨.shutdown 0, .shutDownListenSocket rfl rfl⟩
  have hreturned := (((hflagged.tail ⟨.shutdown 0, .closeListenSocket rfl⟩).tail
    ⟨.shutdown 0, .forgetListenSocket rfl⟩).tail ⟨.shutdown 0, .closeQueue rfl⟩).tail
      ⟨.shutdown 0, .unlock rfl⟩
  have hread := (hreturned.tail ⟨.worker 0, .take none true rfl rfl⟩).tail
    ⟨.worker 0, .act rfl⟩
  have hclosed := ((hread.tail ⟨.worker 0, .act rfl⟩).tail ⟨.worker 0, .act rfl⟩).tail
    ⟨.worker 0, .act rfl⟩
  have hended := (hclosed.tail ⟨.worker 0, .acted rfl⟩).tail ⟨.worker 0, .leaveLoop rfl rfl⟩
  refine ⟨_, hended.tail ⟨.accept, .leaveLoop rfl rfl rfl⟩, ?_, rfl, rfl⟩
  rintro (_ | worker | caller) hready
  · cases hready
  · rw [Subsingleton.elim worker 0] at hready
    cases hready
  · rw [Subsingleton.elim caller 0] at hready
    exact hready.2 rfl

theorem shutdown_finishes_sample :
    exists run : FairRun (serverThreads (fun _ => True) 1 1 1), exists m,
      0 < (run.states m).history.accepted ∧ ServerEnded (run.states m) := by
  have hanswers : forall socket : Socket, (fun _ => True) socket := fun _ => trivial
  rcases sampleShutdown_rests with ⟨server, hsteps, hrest, hflag, haccepted⟩
  rcases FairRun.exists_of_rest (steps_of_answers hanswers hsteps)
      (fun thread hready => hrest thread hready.1) with
    ⟨run, hstart, n, hend⟩
  rw [← hend] at hflag haccepted
  rcases (shutdown_finishes Nat.one_pos Nat.one_pos run hstart hflag).mpr
      (fun _ _ => not_held hanswers) with
    ⟨m, hle, hended⟩
  refine ⟨run, m, ?_, hended⟩
  exact run.always (P := fun s => 0 < s.history.accepted)
    (fun h hstep => Nat.lt_of_lt_of_le h (ServerThread.Step.accepted hstep.2)) hle
    (haccepted.symm ▸ Nat.one_pos)

end Server
end SqlCsvServer
