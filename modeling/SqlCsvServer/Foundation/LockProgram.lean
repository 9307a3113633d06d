/-!
# Programs that take locks

A program is a computation cut into the steps in which it touches a state that
others touch too, and into the steps in which it takes a lock or gives one back.
Between two steps of one program the others may take theirs.  Where the environment
may refuse something, it chooses.
-/

namespace SqlCsvServer
namespace Foundation

/-- A computation with a result, step by step on a shared state. -/
inductive LockProgram (κ μ σ ρ : Type) where
  | done (result : ρ)
  | lock (key : κ) (next : LockProgram κ μ σ ρ)
  | unlock (key : κ) (next : LockProgram κ μ σ ρ)
  /--
  The state changes, and what was read decides how to go on.  A step may say through
  which reference it reaches the state.
  -/
  | act (reference : Option μ) (update : σ -> σ) (next : σ -> LockProgram κ μ σ ρ)
  /-- The environment refuses something or not. -/
  | choose (next : Bool -> LockProgram κ μ σ ρ)

namespace LockProgram

variable {κ μ σ τ ρ α : Type}

/-- One step that runs a function on the state and goes on with its result. -/
def call (f : σ -> σ × α) (next : α -> LockProgram κ μ σ ρ) :
    LockProgram κ μ σ ρ :=
  act none (fun s => (f s).1) (fun s => next (f s).2)

def read (f : σ -> α) (next : α -> LockProgram κ μ σ ρ) : LockProgram κ μ σ ρ :=
  act none id (fun s => next (f s))

def write (f : σ -> σ) (next : LockProgram κ μ σ ρ) : LockProgram κ μ σ ρ :=
  act none f (fun _ => next)

def callAt (reference : μ) (f : σ -> σ × α) (next : α -> LockProgram κ μ σ ρ) :
    LockProgram κ μ σ ρ :=
  act (some reference) (fun s => (f s).1) (fun s => next (f s).2)

def readAt (reference : μ) (f : σ -> α) (next : α -> LockProgram κ μ σ ρ) :
    LockProgram κ μ σ ρ :=
  act (some reference) id (fun s => next (f s))

def writeAt (reference : μ) (f : σ -> σ) (next : LockProgram κ μ σ ρ) :
    LockProgram κ μ σ ρ :=
  act (some reference) f (fun _ => next)

def andThen : LockProgram κ μ σ α -> (α -> LockProgram κ μ σ ρ) ->
    LockProgram κ μ σ ρ
  | done result, next => next result
  | lock key more, next => lock key (more.andThen next)
  | unlock key more, next => unlock key (more.andThen next)
  | act reference update more, next =>
      act reference update fun s => (more s).andThen next
  | choose more, next => choose fun refused => (more refused).andThen next

def lift (get : τ -> σ) (set : τ -> σ -> τ) :
    LockProgram κ μ σ ρ -> LockProgram κ μ τ ρ
  | done result => done result
  | lock key next => lock key (next.lift get set)
  | unlock key next => unlock key (next.lift get set)
  | act reference update next =>
      act reference (fun t => set t (update (get t))) fun t => (next (get t)).lift get set
  | choose next => choose fun refused => (next refused).lift get set

/-- All steps in a row, with nobody else around and nothing refused. -/
def run : LockProgram κ μ σ ρ -> σ -> σ × ρ
  | done result, s => (s, result)
  | lock _ next, s => next.run s
  | unlock _ next, s => next.run s
  | act _ update next, s => (next s).run (update s)
  | choose next, s => (next false).run s

/-- The program has come to its end. -/
def Returned : LockProgram κ μ σ ρ -> Prop
  | done _ => True
  | _ => False

instance : DecidablePred (Returned : LockProgram κ μ σ ρ -> Prop) := fun program =>
  match program with
  | done _ => isTrue trivial
  | lock _ _ => isFalse id
  | unlock _ _ => isFalse id
  | act _ _ _ => isFalse id
  | choose _ => isFalse id

theorem Returned.eq_done {program : LockProgram κ μ σ ρ} (h : program.Returned) :
    exists result, program = done result := by
  cases program with
  | done result => exact ⟨result, rfl⟩
  | lock key next => exact h.elim
  | unlock key next => exact h.elim
  | act reference update next => exact h.elim
  | choose next => exact h.elim

@[simp] theorem run_done (result : ρ) (s : σ) :
    (done result : LockProgram κ μ σ ρ).run s = (s, result) :=
  rfl

@[simp] theorem run_lock (key : κ) (next : LockProgram κ μ σ ρ) (s : σ) :
    (lock key next).run s = next.run s :=
  rfl

@[simp] theorem run_unlock (key : κ) (next : LockProgram κ μ σ ρ) (s : σ) :
    (unlock key next).run s = next.run s :=
  rfl

@[simp] theorem run_act (reference : Option μ) (update : σ -> σ)
    (next : σ -> LockProgram κ μ σ ρ) (s : σ) :
    (act reference update next).run s = (next s).run (update s) :=
  rfl

@[simp] theorem run_call (f : σ -> σ × α) (next : α -> LockProgram κ μ σ ρ)
    (s : σ) : (call f next).run s = (next (f s).2).run (f s).1 :=
  rfl

@[simp] theorem run_read (f : σ -> α) (next : α -> LockProgram κ μ σ ρ) (s : σ) :
    (read f next).run s = (next (f s)).run s :=
  rfl

@[simp] theorem run_write (f : σ -> σ) (next : LockProgram κ μ σ ρ) (s : σ) :
    (write f next).run s = next.run (f s) :=
  rfl

@[simp] theorem run_callAt (reference : μ) (f : σ -> σ × α)
    (next : α -> LockProgram κ μ σ ρ) (s : σ) :
    (callAt reference f next).run s = (next (f s).2).run (f s).1 :=
  rfl

@[simp] theorem run_readAt (reference : μ) (f : σ -> α)
    (next : α -> LockProgram κ μ σ ρ) (s : σ) :
    (readAt reference f next).run s = (next (f s)).run s :=
  rfl

@[simp] theorem run_writeAt (reference : μ) (f : σ -> σ)
    (next : LockProgram κ μ σ ρ) (s : σ) :
    (writeAt reference f next).run s = next.run (f s) :=
  rfl

@[simp] theorem run_andThen (first : LockProgram κ μ σ α)
    (next : α -> LockProgram κ μ σ ρ) (s : σ) :
    (first.andThen next).run s =
      (next (first.run s).2).run (first.run s).1 := by
  induction first generalizing s with
  | done result => rfl
  | lock key more ih => exact ih s
  | unlock key more ih => exact ih s
  | act reference update more ih => exact ih s (update s)
  | choose more ih => exact ih false s

theorem andThen_assoc {β : Type} (first : LockProgram κ μ σ α)
    (next : α -> LockProgram κ μ σ β) (last : β -> LockProgram κ μ σ ρ) :
    (first.andThen next).andThen last =
      first.andThen fun result => (next result).andThen last := by
  induction first with
  | done result => rfl
  | lock key more ih => exact congrArg (lock key) ih
  | unlock key more ih => exact congrArg (unlock key) ih
  | act reference update more ih => exact congrArg (act reference update) (funext ih)
  | choose more ih => exact congrArg choose (funext ih)

theorem run_lift {get : τ -> σ} {set : τ -> σ -> τ}
    (hget : forall t s, get (set t s) = s)
    (hset : forall t s s', set (set t s) s' = set t s')
    (hself : forall t, set t (get t) = t) (program : LockProgram κ μ σ ρ)
    (t : τ) :
    (program.lift get set).run t =
      (set t (program.run (get t)).1, (program.run (get t)).2) := by
  induction program generalizing t with
  | done result => simp [lift, hself]
  | lock key next ih => exact ih t
  | unlock key next ih => exact ih t
  | act reference update next ih =>
      change ((next (get t)).lift get set).run (set t (update (get t))) = _
      rw [ih, hget, hset]
      rfl
  | choose next ih => exact ih false t

end LockProgram

end Foundation
end SqlCsvServer
