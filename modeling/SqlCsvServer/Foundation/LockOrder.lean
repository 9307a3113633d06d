import Mathlib.Algebra.BigOperators.Group.List.Basic
import Mathlib.Algebra.GroupWithZero.Nat
import SqlCsvServer.Foundation.LockSystem

/-!
# Threads that keep to an order of the locks

The invariant says which locks each thread holds: the ones it owns, and the ones
it took more often than it gave them back.  A thread that waits for a lock waits
for an owner that holds a lock of higher rank than its own, or that can go on.
-/

namespace SqlCsvServer
namespace Foundation

variable {ι κ μ σ ρ : Type} [DecidableEq ι] [DecidableEq κ]

/-!
## Which locks a thread holds
-/

structure Holding (rank : κ -> Nat) (threads : Threads ι κ μ σ ρ)
    (held : ι -> List κ) : Prop where
  disciplined : forall thread,
    Disciplined rank (fun _ => []) (held thread) (threads.program thread)
  nodup : forall thread, (held thread).Nodup
  owned : forall thread key,
    key ∈ held thread <-> threads.owner key = some thread
  balanced : forall thread key,
    threads.times thread (.acquired key) =
      threads.times thread (.released key) + (held thread).count key

section Log

variable {threads : Threads ι κ μ σ ρ} {thread other : ι} {key : κ}
  {event : LockEvent κ}

theorem count_log_append (log : List (ι × LockEvent κ)) (thread other : ι)
    (event happened : LockEvent κ) :
    (log ++ [(thread, happened)]).count (other, event) =
      log.count (other, event) +
        if thread = other ∧ happened = event then 1 else 0 := by
  rw [List.count_append, List.count_singleton]
  congr 1
  by_cases h : thread = other ∧ happened = event
  · rw [if_pos h, h.1, h.2]
    simp
  · have hne : ¬ (thread, happened) = (other, event) := by
      intro heq
      exact h (Prod.mk.inj heq)
    simp [hne, h]

end Log

section Steps

variable {rank : κ -> Nat} {threads next : Threads ι κ μ σ ρ}
  {held : ι -> List κ} {thread : ι}

theorem holding_start {program : ι -> LockProgram κ μ σ ρ} (shared : σ)
    (h : forall thread, Disciplined rank (fun _ => []) [] (program thread)) :
    Holding rank (startThreads program shared) fun _ => [] where
  disciplined := h
  nodup := fun _ => List.nodup_nil
  owned := fun thread key => by simp [startThreads]
  balanced := fun thread key => by simp [Threads.times, startThreads]

theorem holding_lock {key : κ} {more : LockProgram κ μ σ ρ}
    (h : Holding rank threads held)
    (hat : threads.program thread = .lock key more)
    (hfree : threads.owner key = none) :
    Holding rank
      { threads.setProgram thread more with
        owner := Function.update threads.owner key (some thread)
        log := threads.log ++ [(thread, .acquired key)] }
      (Function.update held thread (key :: held thread)) := by
  have hdisciplined := h.disciplined thread
  rw [hat] at hdisciplined
  have hnew : key ∉ held thread := by
    intro hmem
    exact Nat.lt_irrefl _ (hdisciplined.1 key hmem)
  constructor
  · intro other
    by_cases hother : other = thread
    · rw [hother, Function.update_self]
      change Disciplined rank _ _ ((threads.setProgram thread more).program thread)
      rw [setProgram_self]
      exact hdisciplined.2
    · rw [Function.update_of_ne hother]
      change Disciplined rank _ _ ((threads.setProgram thread more).program other)
      rw [setProgram_other threads more hother]
      exact h.disciplined other
  · intro other
    by_cases hother : other = thread
    · rw [hother, Function.update_self]
      exact List.nodup_cons.mpr ⟨hnew, h.nodup thread⟩
    · rw [Function.update_of_ne hother]
      exact h.nodup other
  · intro other key'
    have howned := h.owned other key'
    change _ <-> Function.update threads.owner key (some thread) key' = _
    by_cases hkey : key' = key
    · rw [hkey] at howned ⊢
      rw [Function.update_self, Option.some.injEq]
      by_cases hother : other = thread
      · simp [hother]
      · rw [Function.update_of_ne hother, howned, hfree]
        simp [Ne.symm hother]
    · rw [Function.update_of_ne hkey, ← howned]
      by_cases hother : other = thread
      · simp [hother, hkey]
      · rw [Function.update_of_ne hother]
  · intro other key'
    have hbalanced := h.balanced other key'
    unfold Threads.times at hbalanced ⊢
    simp only [count_log_append]
    by_cases hother : other = thread
    · rw [hother] at hbalanced ⊢
      rw [Function.update_self, List.count_cons]
      by_cases hkey : key' = key
      · simp [hkey] at hbalanced ⊢
        omega
      · have hne : key ≠ key' := fun heq => hkey heq.symm
        simp [hne] at hbalanced ⊢
        exact hbalanced
    · have hne : thread ≠ other := fun heq => hother heq.symm
      rw [Function.update_of_ne hother]
      simp [hne] at hbalanced ⊢
      exact hbalanced

theorem holding_unlock {key : κ} {more : LockProgram κ μ σ ρ}
    (h : Holding rank threads held)
    (hat : threads.program thread = .unlock key more) :
    Holding rank
      { threads.setProgram thread more with
        owner := Function.update threads.owner key none
        log := threads.log ++ [(thread, .released key)] }
      (Function.update held thread ((held thread).erase key)) := by
  have hdisciplined := h.disciplined thread
  rw [hat] at hdisciplined
  have howner := (h.owned thread key).mp hdisciplined.1
  constructor
  · intro other
    by_cases hother : other = thread
    · rw [hother, Function.update_self]
      change Disciplined rank _ _ ((threads.setProgram thread more).program thread)
      rw [setProgram_self]
      exact hdisciplined.2
    · rw [Function.update_of_ne hother]
      change Disciplined rank _ _ ((threads.setProgram thread more).program other)
      rw [setProgram_other threads more hother]
      exact h.disciplined other
  · intro other
    by_cases hother : other = thread
    · rw [hother, Function.update_self]
      exact (h.nodup thread).erase key
    · rw [Function.update_of_ne hother]
      exact h.nodup other
  · intro other key'
    have howned := h.owned other key'
    change _ <-> Function.update threads.owner key none key' = _
    by_cases hkey : key' = key
    · rw [hkey] at howned ⊢
      rw [Function.update_self]
      by_cases hother : other = thread
      · rw [hother, Function.update_self]
        simp [(h.nodup thread).mem_erase_iff]
      · rw [Function.update_of_ne hother, howned, howner]
        simp [Ne.symm hother]
    · rw [Function.update_of_ne hkey, ← howned]
      by_cases hother : other = thread
      · rw [hother, Function.update_self, List.mem_erase_of_ne hkey]
      · rw [Function.update_of_ne hother]
  · intro other key'
    have hbalanced := h.balanced other key'
    unfold Threads.times at hbalanced ⊢
    simp only [count_log_append]
    by_cases hother : other = thread
    · rw [hother] at hbalanced ⊢
      rw [Function.update_self]
      by_cases hkey : key' = key
      · have hpositive := List.count_pos_iff.mpr hdisciplined.1
        rw [hkey] at hbalanced ⊢
        rw [List.count_erase_self]
        simp only [true_and, and_true, if_true, reduceCtorEq, if_false]
        omega
      · have hne : key ≠ key' := fun heq => hkey heq.symm
        rw [List.count_erase_of_ne hkey]
        simp [hne] at hbalanced ⊢
        exact hbalanced
    · have hne : thread ≠ other := fun heq => hother heq.symm
      rw [Function.update_of_ne hother]
      simp [hne] at hbalanced ⊢
      exact hbalanced

theorem holding_program {more : LockProgram κ μ σ ρ} {shared : σ}
    (h : Holding rank threads held)
    (hmore : Disciplined rank (fun _ => []) (held thread) more) :
    Holding rank { threads.setProgram thread more with shared := shared } held
    where
  disciplined := fun other => by
    by_cases hother : other = thread
    · rw [hother]
      change Disciplined rank _ _ ((threads.setProgram thread more).program thread)
      rw [setProgram_self]
      exact hmore
    · change Disciplined rank _ _ ((threads.setProgram thread more).program other)
      rw [setProgram_other threads more hother]
      exact h.disciplined other
  nodup := h.nodup
  owned := h.owned
  balanced := h.balanced

theorem holding_step (h : exists held, Holding rank threads held)
    (hstep : ThreadStep threads thread next) :
    exists held, Holding rank next held := by
  rcases h with ⟨held, h⟩
  have hdisciplined := h.disciplined thread
  cases hstep with
  | lock hat hfree => exact ⟨_, holding_lock h hat hfree⟩
  | unlock hat howner => exact ⟨_, holding_unlock h hat⟩
  | act hat =>
      rw [hat] at hdisciplined
      exact ⟨held, holding_program h (hdisciplined threads.shared)⟩
  | choose refused hat =>
      rw [hat] at hdisciplined
      exact ⟨held, holding_program h (hdisciplined refused)⟩

end Steps

/-!
## Threads that return, and threads that wait
-/

section Runs

variable {rank : κ -> Nat} {threads : Threads ι κ μ σ ρ}
  {program : ι -> LockProgram κ μ σ ρ} {shared : σ}

theorem holding_reachable
    (h : forall thread, Disciplined rank (fun _ => []) [] (program thread))
    (hreach : (lockSystem program shared).Reachable threads) :
    exists held, Holding rank threads held := by
  have hkept : (lockSystem program shared).Kept
      fun threads => exists held, Holding rank threads held := by
    intro s t hs hstep
    rcases hstep with ⟨thread, hthread⟩
    exact holding_step hs hthread
  apply hkept.reachable _ hreach
  intro first hfirst
  rw [show first = startThreads program shared from hfirst]
  exact ⟨_, holding_start shared h⟩

theorem Holding.returned {held : ι -> List κ} (h : Holding rank threads held)
    {thread : ι} (hreturned : (threads.program thread).Returned) (key : κ) :
    threads.owner key ≠ some thread ∧
      threads.times thread (.acquired key) =
        threads.times thread (.released key) := by
  rcases hreturned.eq_done with ⟨result, hat⟩
  have hdisciplined := h.disciplined thread
  rw [hat] at hdisciplined
  have hnothing : held thread = [] := hdisciplined
  constructor
  · intro howner
    have hmem := (h.owned thread key).mpr howner
    rw [hnothing] at hmem
    cases hmem
  · rw [h.balanced, hnothing]
    rfl

/--
Some thread can go on if one waits for a lock: its owner has not returned, and if
the owner waits too it is for a lock of higher rank.
-/
theorem Holding.step_of_waiting {held : ι -> List κ}
    (h : Holding rank threads held) {bound : Nat}
    (hbound : forall key, rank key < bound) (distance : Nat) :
    forall {thread : ι} {key : κ} {next : LockProgram κ μ σ ρ},
      bound ≤ rank key + distance ->
        threads.program thread = .lock key next ->
          exists mover after, ThreadStep threads mover after := by
  induction distance with
  | zero =>
      intro thread key next hfar _
      have hless := hbound key
      omega
  | succ distance ih =>
      intro thread key next hfar hat
      cases howner : threads.owner key with
      | none => exact ⟨thread, _, .lock hat howner⟩
      | some owner =>
          have hmem := (h.owned owner key).mpr howner
          have hdisciplined := h.disciplined owner
          cases howns : threads.program owner with
          | done result =>
              rw [howns] at hdisciplined
              rw [show held owner = [] from hdisciplined] at hmem
              cases hmem
          | lock wanted more =>
              rw [howns] at hdisciplined
              have hhigher := hdisciplined.1 key hmem
              exact ih (by omega) howns
          | unlock given more =>
              rw [howns] at hdisciplined
              exact ⟨owner, _, .unlock howns
                ((h.owned owner given).mp hdisciplined.1)⟩
          | act reference update more => exact ⟨owner, _, .act howns⟩
          | choose more => exact ⟨owner, _, .choose false howns⟩

theorem Holding.step_of_live {held : ι -> List κ}
    (h : Holding rank threads held) {bound : Nat}
    (hbound : forall key, rank key < bound) {thread : ι}
    (hlive : ¬ (threads.program thread).Returned) :
    exists mover after, ThreadStep threads mover after := by
  have hdisciplined := h.disciplined thread
  cases hat : threads.program thread with
  | done result =>
      rw [hat] at hlive
      exact (hlive trivial).elim
  | lock key next =>
      exact h.step_of_waiting hbound bound (Nat.le_add_left bound _) hat
  | unlock key next =>
      rw [hat] at hdisciplined
      exact ⟨thread, _, .unlock hat ((h.owned thread key).mp hdisciplined.1)⟩
  | act reference update next => exact ⟨thread, _, .act hat⟩
  | choose next => exact ⟨thread, _, .choose false hat⟩

end Runs

/-!
## How much a thread takes
-/

section Weight

variable {weight : κ -> Nat}

def eventWeight (weight : κ -> Nat) (thread : ι) : ι × LockEvent κ -> Nat
  | (other, .acquired key) => if other = thread then weight key else 0
  | (_, .released _) => 0

def takenWeight (weight : κ -> Nat) (thread : ι)
    (log : List (ι × LockEvent κ)) : Nat :=
  (log.map (eventWeight weight thread)).sum

theorem times_mul_weight_le (thread : ι) (key : κ)
    (log : List (ι × LockEvent κ)) :
    log.count (thread, .acquired key) * weight key ≤
      takenWeight weight thread log := by
  induction log with
  | nil => simp [takenWeight]
  | cons event log ih =>
      unfold takenWeight at ih ⊢
      rw [List.count_cons, List.map_cons, List.sum_cons]
      by_cases hevent : event = (thread, .acquired key)
      · simp only [hevent, beq_self_eq_true, if_true, eventWeight,
          Nat.succ_mul]
        omega
      · have hne : (event == (thread, LockEvent.acquired key)) = false := by
          simpa using hevent
        simp only [hne, Bool.false_eq_true, if_false, Nat.add_zero]
        omega

def KeepsToWeight (weight : κ -> Nat) (limit : Nat)
    (threads : Threads ι κ μ σ ρ) : Prop :=
  forall thread, exists left,
    TakesAtMost weight left (threads.program thread) ∧
      takenWeight weight thread threads.log + left ≤ limit

theorem keepsToWeight_step {limit : Nat} {threads next : Threads ι κ μ σ ρ}
    {thread : ι} (h : KeepsToWeight weight limit threads)
    (hstep : ThreadStep threads thread next) :
    KeepsToWeight weight limit next := by
  rcases h thread with ⟨left, hleft, hlimit⟩
  have happend : forall (other : ι) (event : LockEvent κ),
      takenWeight weight other (threads.log ++ [(thread, event)]) =
        takenWeight weight other threads.log +
          eventWeight weight other (thread, event) := by
    intro other event
    simp [takenWeight]
  intro other
  by_cases hother : other = thread
  · subst hother
    cases hstep with
    | @lock key more hat hfree =>
        rw [hat] at hleft
        refine ⟨left - weight key, ?_, ?_⟩
        · change TakesAtMost weight _ ((threads.setProgram other more).program other)
          rw [setProgram_self]
          exact hleft.2
        · change takenWeight weight other (threads.log ++ _) + _ ≤ limit
          have htakes := hleft.1
          rw [happend]
          simp only [eventWeight, if_true]
          omega
    | @unlock key more hat howner =>
        rw [hat] at hleft
        refine ⟨left, ?_, ?_⟩
        · change TakesAtMost weight _ ((threads.setProgram other more).program other)
          rw [setProgram_self]
          exact hleft
        · change takenWeight weight other (threads.log ++ _) + _ ≤ limit
          rw [happend]
          exact hlimit
    | @act reference update more hat =>
        rw [hat] at hleft
        refine ⟨left, ?_, hlimit⟩
        change TakesAtMost weight _
          ((threads.setProgram other (more threads.shared)).program other)
        rw [setProgram_self]
        exact hleft threads.shared
    | @choose more refused hat =>
        rw [hat] at hleft
        refine ⟨left, ?_, hlimit⟩
        rw [setProgram_self]
        exact hleft refused
  · rcases h other with ⟨left, hleft, hlimit⟩
    have hne : thread ≠ other := fun heq => hother heq.symm
    refine ⟨left, ?_, ?_⟩
    · cases hstep with
      | lock hat hfree =>
          change TakesAtMost weight _ ((threads.setProgram thread _).program other)
          rw [setProgram_other threads _ hother]
          exact hleft
      | unlock hat howner =>
          change TakesAtMost weight _ ((threads.setProgram thread _).program other)
          rw [setProgram_other threads _ hother]
          exact hleft
      | act hat =>
          change TakesAtMost weight _ ((threads.setProgram thread _).program other)
          rw [setProgram_other threads _ hother]
          exact hleft
      | choose refused hat =>
          rw [setProgram_other threads _ hother]
          exact hleft
    · cases hstep with
      | lock hat hfree =>
          change takenWeight weight other (threads.log ++ _) + _ ≤ limit
          rw [happend]
          simpa [eventWeight, hne] using hlimit
      | unlock hat howner =>
          change takenWeight weight other (threads.log ++ _) + _ ≤ limit
          rw [happend]
          exact hlimit
      | act hat => exact hlimit
      | choose refused hat => exact hlimit

theorem times_acquired_le_one {threads : Threads ι κ μ σ ρ}
    {program : ι -> LockProgram κ μ σ ρ} {shared : σ}
    (h : forall thread, TakesAtMost weight 1 (program thread))
    (hreach : (lockSystem program shared).Reachable threads) (thread : ι)
    {key : κ} (hkey : weight key = 1) :
    threads.times thread (.acquired key) ≤ 1 := by
  have hkept : (lockSystem program shared).Kept (KeepsToWeight weight 1) := by
    intro s t hs hstep
    rcases hstep with ⟨mover, hmover⟩
    exact keepsToWeight_step hs hmover
  have hweight := hkept.reachable
    (fun first hfirst => by
      rw [show first = startThreads program shared from hfirst]
      intro thread
      exact ⟨1, h thread, by simp [startThreads, takenWeight]⟩)
    hreach
  rcases hweight thread with ⟨left, _, hlimit⟩
  have htimes := @times_mul_weight_le ι κ _ _ weight thread key threads.log
  rw [hkey] at htimes
  unfold Threads.times
  omega

end Weight

end Foundation
end SqlCsvServer
