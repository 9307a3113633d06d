import Mathlib.Data.List.Count
import Mathlib.Logic.Function.Basic
import SqlCsvServer.Foundation.LockProgram
import SqlCsvServer.Foundation.Transition

/-!
# Threads that share locks

Any number of threads run programs on one state.  A lock has at most one owner,
and a thread that wants a lock somebody owns has to wait.  If every program takes
locks of rising rank and gives back what it took, then no set of threads waits in
a circle, and a thread that has returned owns nothing.
-/

namespace SqlCsvServer
namespace Foundation

/-!
## The system
-/

inductive LockEvent (κ : Type) where
  | acquired (key : κ)
  | released (key : κ)
deriving DecidableEq

/-- The threads, the owners of the locks, the state, and who did what so far. -/
structure Threads (ι κ μ σ ρ : Type) where
  program : ι -> LockProgram κ μ σ ρ
  owner : κ -> Option ι
  shared : σ
  log : List (ι × LockEvent κ)

section System

variable {ι κ μ σ ρ : Type} [DecidableEq ι]

def Threads.setProgram (threads : Threads ι κ μ σ ρ) (thread : ι)
    (next : LockProgram κ μ σ ρ) : Threads ι κ μ σ ρ :=
  { threads with program := Function.update threads.program thread next }

@[simp] theorem setProgram_self (threads : Threads ι κ μ σ ρ) (thread : ι)
    (next : LockProgram κ μ σ ρ) :
    (threads.setProgram thread next).program thread = next :=
  Function.update_self ..

theorem setProgram_other (threads : Threads ι κ μ σ ρ) {thread other : ι}
    (next : LockProgram κ μ σ ρ) (h : other ≠ thread) :
    (threads.setProgram thread next).program other = threads.program other :=
  Function.update_of_ne h ..

variable [DecidableEq κ]

/-- One thread takes one step. -/
inductive ThreadStep (threads : Threads ι κ μ σ ρ) (thread : ι) :
    Threads ι κ μ σ ρ -> Prop where
  | lock {key : κ} {next : LockProgram κ μ σ ρ}
      (hat : threads.program thread = .lock key next)
      (hfree : threads.owner key = none) :
      ThreadStep threads thread
        { threads.setProgram thread next with
          owner := Function.update threads.owner key (some thread)
          log := threads.log ++ [(thread, .acquired key)] }
  | unlock {key : κ} {next : LockProgram κ μ σ ρ}
      (hat : threads.program thread = .unlock key next)
      (howner : threads.owner key = some thread) :
      ThreadStep threads thread
        { threads.setProgram thread next with
          owner := Function.update threads.owner key none
          log := threads.log ++ [(thread, .released key)] }
  | act {reference : Option μ} {update : σ -> σ} {next : σ -> LockProgram κ μ σ ρ}
      (hat : threads.program thread = .act reference update next) :
      ThreadStep threads thread
        { threads.setProgram thread (next threads.shared) with
          shared := update threads.shared }
  | choose {next : Bool -> LockProgram κ μ σ ρ} (refused : Bool)
      (hat : threads.program thread = .choose next) :
      ThreadStep threads thread (threads.setProgram thread (next refused))

def Threads.advance (threads : Threads ι κ μ σ ρ) (thread : ι) :
    Option (Threads ι κ μ σ ρ) :=
  match threads.program thread with
  | .done _ => none
  | .lock key next =>
      if threads.owner key = none then
        some
          { threads.setProgram thread next with
            owner := Function.update threads.owner key (some thread)
            log := threads.log ++ [(thread, .acquired key)] }
      else none
  | .unlock key next =>
      if threads.owner key = some thread then
        some
          { threads.setProgram thread next with
            owner := Function.update threads.owner key none
            log := threads.log ++ [(thread, .released key)] }
      else none
  | .act _ update next =>
      some
        { threads.setProgram thread (next threads.shared) with
          shared := update threads.shared }
  | .choose next => some (threads.setProgram thread (next false))

theorem step_of_advance {threads next : Threads ι κ μ σ ρ} {thread : ι}
    (h : threads.advance thread = some next) : ThreadStep threads thread next := by
  unfold Threads.advance at h
  cases hat : threads.program thread with
  | done result => simp [hat] at h
  | lock key more =>
      simp only [hat, Option.ite_none_right_eq_some, Option.some.injEq] at h
      rcases h with ⟨hfree, rfl⟩
      exact .lock hat hfree
  | unlock key more =>
      simp only [hat, Option.ite_none_right_eq_some, Option.some.injEq] at h
      rcases h with ⟨howner, rfl⟩
      exact .unlock hat howner
  | act reference update more =>
      simp only [hat, Option.some.injEq] at h
      rw [← h]
      exact .act hat
  | choose more =>
      simp only [hat, Option.some.injEq] at h
      rw [← h]
      exact .choose false hat

def Threads.advances (threads : Threads ι κ μ σ ρ) : List ι -> Option (Threads ι κ μ σ ρ)
  | [] => some threads
  | thread :: schedule =>
      (threads.advance thread).bind fun next => next.advances schedule

def startThreads (program : ι -> LockProgram κ μ σ ρ) (shared : σ) :
    Threads ι κ μ σ ρ :=
  { program := program, owner := fun _ => none, shared := shared, log := [] }

/-- Threads that run these programs from this state on. -/
def lockSystem (program : ι -> LockProgram κ μ σ ρ) (shared : σ) :
    Transition (Threads ι κ μ σ ρ) :=
  { start := fun threads => threads = startThreads program shared
    step := fun threads next => exists thread, ThreadStep threads thread next }

theorem runs_of_advances {program : ι -> LockProgram κ μ σ ρ} {shared : σ}
    {schedule : List ι} {threads last : Threads ι κ μ σ ρ}
    (h : threads.advances schedule = some last) :
    (lockSystem program shared).Runs threads last := by
  induction schedule generalizing threads with
  | nil =>
      cases h
      exact .refl
  | cons thread schedule ih =>
      rcases Option.bind_eq_some_iff.mp h with ⟨next, hnext, hrest⟩
      exact .head ⟨thread, step_of_advance hnext⟩ (ih hrest)

theorem reachable_of_advances {program : ι -> LockProgram κ μ σ ρ} {shared : σ}
    {schedule : List ι} {threads last : Threads ι κ μ σ ρ}
    (hreach : (lockSystem program shared).Reachable threads)
    (h : threads.advances schedule = some last) :
    (lockSystem program shared).Reachable last := by
  rcases hreach with ⟨first, hfirst, hbefore⟩
  exact ⟨first, hfirst, hbefore.trans (runs_of_advances h)⟩

/-- How often a thread did something to a lock. -/
def Threads.times (threads : Threads ι κ μ σ ρ) (thread : ι)
    (event : LockEvent κ) : Nat :=
  threads.log.count (thread, event)

end System

/-!
## Discipline
-/

section Discipline

variable {κ μ σ τ ρ α : Type} [DecidableEq κ] {rank : κ -> Nat}

/--
A program that holds these locks takes only locks of higher rank, gives back only
what it holds, and returns holding what its result says.
-/
def Disciplined (rank : κ -> Nat) (after : ρ -> List κ) :
    List κ -> LockProgram κ μ σ ρ -> Prop
  | held, .done result => held = after result
  | held, .lock key next =>
      (forall other, other ∈ held -> rank other < rank key) ∧
        Disciplined rank after (key :: held) next
  | held, .unlock key next =>
      key ∈ held ∧ Disciplined rank after (held.erase key) next
  | held, .act _ _ next => forall s, Disciplined rank after held (next s)
  | held, .choose next => forall refused, Disciplined rank after held (next refused)

def TakesAtMost (weight : κ -> Nat) : Nat -> LockProgram κ μ σ ρ -> Prop
  | _, .done _ => True
  | n, .lock key next =>
      weight key ≤ n ∧ TakesAtMost weight (n - weight key) next
  | n, .unlock _ next => TakesAtMost weight n next
  | n, .act _ _ next => forall s, TakesAtMost weight n (next s)
  | n, .choose next => forall refused, TakesAtMost weight n (next refused)

def LockFree : LockProgram κ μ σ ρ -> Prop
  | .done _ => True
  | .lock _ _ => False
  | .unlock _ _ => False
  | .act _ _ next => forall s, LockFree (next s)
  | .choose next => forall refused, LockFree (next refused)

theorem LockFree.disciplined {program : LockProgram κ μ σ ρ}
    (h : LockFree program) (held : List κ) :
    Disciplined rank (fun _ => held) held program := by
  induction program with
  | done result => rfl
  | lock key next ih => exact h.elim
  | unlock key next ih => exact h.elim
  | act reference update next ih => exact fun s => ih s (h s)
  | choose next ih => exact fun refused => ih refused (h refused)

omit [DecidableEq κ] in
theorem LockFree.takesAtMost {program : LockProgram κ μ σ ρ}
    (h : LockFree program) (weight : κ -> Nat) (n : Nat) :
    TakesAtMost weight n program := by
  induction program with
  | done result => trivial
  | lock key next ih => exact h.elim
  | unlock key next ih => exact h.elim
  | act reference update next ih => exact fun s => ih s (h s)
  | choose next ih => exact fun refused => ih refused (h refused)

theorem Disciplined.andThen {mid : α -> List κ} {after : ρ -> List κ}
    {first : LockProgram κ μ σ α} {next : α -> LockProgram κ μ σ ρ} :
    forall {held : List κ}, Disciplined rank mid held first ->
      (forall result, Disciplined rank after (mid result) (next result)) ->
        Disciplined rank after held (first.andThen next) := by
  induction first with
  | done result =>
      intro held hfirst hnext
      rw [show held = mid result from hfirst]
      exact hnext result
  | lock key more ih =>
      intro held hfirst hnext
      exact ⟨hfirst.1, ih hfirst.2 hnext⟩
  | unlock key more ih =>
      intro held hfirst hnext
      exact ⟨hfirst.1, ih hfirst.2 hnext⟩
  | act reference update more ih =>
      intro held hfirst hnext s
      exact ih s (hfirst s) hnext
  | choose more ih =>
      intro held hfirst hnext refused
      exact ih refused (hfirst refused) hnext

theorem Disciplined.lift {get : τ -> σ} {set : τ -> σ -> τ}
    {after : ρ -> List κ} {program : LockProgram κ μ σ ρ} :
    forall {held : List κ}, Disciplined rank after held program ->
      Disciplined rank after held (program.lift get set) := by
  induction program with
  | done result => exact id
  | lock key next ih => exact fun h => ⟨h.1, ih h.2⟩
  | unlock key next ih => exact fun h => ⟨h.1, ih h.2⟩
  | act reference update next ih => exact fun h t => ih (get t) (h (get t))
  | choose next ih => exact fun h refused => ih refused (h refused)

omit [DecidableEq κ] in
theorem TakesAtMost.mono {weight : κ -> Nat} {program : LockProgram κ μ σ ρ} :
    forall {m n : Nat}, m ≤ n -> TakesAtMost weight m program ->
      TakesAtMost weight n program := by
  induction program with
  | done result => exact fun _ _ => trivial
  | lock key next ih =>
      intro m n hle h
      exact ⟨Nat.le_trans h.1 hle, ih (Nat.sub_le_sub_right hle _) h.2⟩
  | unlock key next ih => exact fun hle h => ih hle h
  | act reference update next ih => exact fun hle h s => ih s hle (h s)
  | choose next ih => exact fun hle h refused => ih refused hle (h refused)

omit [DecidableEq κ] in
theorem TakesAtMost.andThen {weight : κ -> Nat} {n : Nat}
    {first : LockProgram κ μ σ α} {next : α -> LockProgram κ μ σ ρ} :
    forall {m : Nat}, TakesAtMost weight m first ->
      (forall result, TakesAtMost weight n (next result)) ->
        TakesAtMost weight (m + n) (first.andThen next) := by
  induction first with
  | done result =>
      intro m _ hnext
      exact (hnext result).mono (Nat.le_add_left n m)
  | lock key more ih =>
      intro m hfirst hnext
      have hmore := ih hfirst.2 hnext
      rw [← Nat.sub_add_comm hfirst.1] at hmore
      exact ⟨Nat.le_trans hfirst.1 (Nat.le_add_right m n), hmore⟩
  | unlock key more ih => exact fun hfirst hnext => ih hfirst hnext
  | act reference update more ih => exact fun hfirst hnext s => ih s (hfirst s) hnext
  | choose more ih =>
      exact fun hfirst hnext refused => ih refused (hfirst refused) hnext

omit [DecidableEq κ] in
theorem TakesAtMost.lift {weight : κ -> Nat} {get : τ -> σ}
    {set : τ -> σ -> τ} {program : LockProgram κ μ σ ρ} :
    forall {n : Nat}, TakesAtMost weight n program ->
      TakesAtMost weight n (program.lift get set) := by
  induction program with
  | done result => exact fun _ => trivial
  | lock key next ih => exact fun h => ⟨h.1, ih h.2⟩
  | unlock key next ih => exact fun h => ih h
  | act reference update next ih => exact fun h t => ih (get t) (h (get t))
  | choose next ih => exact fun h refused => ih refused (h refused)

end Discipline

end Foundation
end SqlCsvServer
