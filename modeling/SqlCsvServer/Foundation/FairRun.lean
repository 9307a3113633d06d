import Mathlib.Data.Nat.Find
import Mathlib.Logic.Relation
import Mathlib.Tactic.ByContra

/-!
# Fair runs of threads

Threads take steps in any order, one at a time, and a run goes on forever; where nothing
moves it stands still.  It is fair if it never leaves a thread waiting for good that could
go on all the time.  What such a run must come to is shown by ranks that go down.
-/

namespace SqlCsvServer
namespace Foundation

/-- The steps of many threads on one state, and the threads that are owed one. -/
structure Interleaving (thread state : Type) where
  step : thread -> state -> state -> Prop
  ready : thread -> state -> Prop

variable {thread state : Type}

/-- A run without an end in which no thread is ready for good and never moves. -/
structure FairRun (system : Interleaving thread state) where
  states : Nat -> state
  mover : Nat -> Option thread
  idles : forall {n}, mover n = none -> states (n + 1) = states n
  steps : forall {n mine}, mover n = some mine ->
    system.step mine (states n) (states (n + 1))
  fair : forall {mine n}, (forall m, n ≤ m -> system.ready mine (states m)) ->
    exists m, n ≤ m ∧ mover m = some mine

namespace FairRun

variable {system : Interleaving thread state} (run : FairRun system)

theorem always {P : state -> Prop}
    (hstep : forall {mine s t}, P s -> system.step mine s t -> P t) {n m : Nat}
    (hle : n ≤ m) (h : P (run.states n)) : P (run.states m) := by
  induction m, hle using Nat.le_induction with
  | base => exact h
  | succ m _ ih =>
      cases hmover : run.mover m with
      | none =>
          rw [run.idles hmover]
          exact ih
      | some mine => exact hstep ih (run.steps hmover)

section LeadsTo

variable {P Q : state -> Prop} {rank : state -> Nat}

/--
As long as it is not there, one thread is always ready, and each of its steps brings the
run nearer; no other step takes it further away.
-/
theorem leads_to {helper : thread}
    (hready : forall {m}, P (run.states m) -> system.ready helper (run.states m))
    (hstep : forall {mine s t}, P s -> system.step mine s t ->
      Q t ∨ (P t ∧ rank t ≤ rank s))
    (hhelp : forall {s t}, P s -> system.step helper s t ->
      Q t ∨ (P t ∧ rank t < rank s))
    {n : Nat} (h : P (run.states n)) : exists m, n ≤ m ∧ Q (run.states m) := by
  induction hrank : rank (run.states n) using Nat.strong_induction_on generalizing n with
  | _ bound ih =>
      subst hrank
      by_contra hnever
      -- without a state of the goal the run stays where the helper is ready
      have hstays : forall m, n ≤ m ->
          P (run.states m) ∧ rank (run.states m) ≤ rank (run.states n) := by
        intro m hle
        induction m, hle using Nat.le_induction with
        | base => exact ⟨h, Nat.le_refl _⟩
        | succ m hle hbefore =>
            cases hmover : run.mover m with
            | none =>
                rw [run.idles hmover]
                exact hbefore
            | some mine =>
                rcases hstep hbefore.1 (run.steps hmover) with hthere | ⟨hafter, hrank⟩
                · exact absurd ⟨m + 1, Nat.le_succ_of_le hle, hthere⟩ hnever
                · exact ⟨hafter, Nat.le_trans hrank hbefore.2⟩
      rcases run.fair fun m hle => hready (hstays m hle).1 with ⟨m, hle, hmover⟩
      rcases hhelp (hstays m hle).1 (run.steps hmover) with hthere | ⟨hafter, hless⟩
      · exact hnever ⟨m + 1, Nat.le_succ_of_le hle, hthere⟩
      · rcases ih _ (Nat.lt_of_lt_of_le hless (hstays m hle).2) hafter rfl with
          ⟨later, hlater, hthere⟩
        exact hnever ⟨later, Nat.le_trans (Nat.le_succ_of_le hle) hlater, hthere⟩

theorem moves_on {mine : thread} {n : Nat} (h : system.ready mine (run.states n)) :
    exists m other, n ≤ m ∧ run.mover m = some other ∧ run.states m = run.states n := by
  by_contra hnever
  have hstill : forall m, n ≤ m -> run.states m = run.states n := by
    intro m hle
    induction m, hle using Nat.le_induction with
    | base => rfl
    | succ m hle ih =>
        cases hmover : run.mover m with
        | none => exact (run.idles hmover).trans ih
        | some other => exact absurd ⟨m, other, hle, hmover, ih⟩ hnever
  rcases run.fair fun m hle => (hstill m hle).symm ▸ h with ⟨m, hle, hmover⟩
  exact hnever ⟨m, mine, hle, hmover, hstill m hle⟩

theorem settles
    (hstep : forall {mine s t}, P s -> system.step mine s t -> P t ∧ rank t < rank s)
    {n : Nat} (h : P (run.states n)) :
    exists m, n ≤ m ∧ P (run.states m) ∧ forall mine, ¬ system.ready mine (run.states m) := by
  induction hrank : rank (run.states n) using Nat.strong_induction_on generalizing n with
  | _ bound ih =>
      subst hrank
      by_cases hready : exists mine, system.ready mine (run.states n)
      · rcases hready with ⟨mine, hmine⟩
        rcases run.moves_on hmine with ⟨m, other, hle, hmover, hsame⟩
        have htaken := run.steps hmover
        rw [hsame] at htaken
        have hafter := hstep h htaken
        rcases ih _ hafter.2 hafter.1 rfl with ⟨later, hlater, hrest⟩
        exact ⟨later, Nat.le_trans (Nat.le_succ_of_le hle) hlater, hrest⟩
      · exact ⟨n, Nat.le_refl _, h, fun mine hmine => hready ⟨mine, hmine⟩⟩

end LeadsTo

/-!
## Runs that end
-/

/-- A run that stands still, as nobody is ready. -/
def rest (s : state) (hrest : forall mine, ¬ system.ready mine s) : FairRun system :=
  { states := fun _ => s
    mover := fun _ => none
    idles := fun _ => rfl
    steps := fun hmover => nomatch hmover
    fair := fun {mine n} hready => absurd (hready n (Nat.le_refl n)) (hrest mine) }

def cons {s : state} {mine : thread} (hstep : system.step mine s (run.states 0)) :
    FairRun system :=
  { states := fun n => Nat.casesOn n s run.states
    mover := fun n => Nat.casesOn n (some mine) run.mover
    idles := by
      rintro (_ | n) hmover
      · cases hmover
      · exact run.idles hmover
    steps := by
      rintro (_ | n) other hmover
      · cases hmover
        exact hstep
      · exact run.steps hmover
    fair := by
      intro other n hready
      rcases run.fair fun m hle => hready (m + 1) (Nat.le_succ_of_le hle) with
        ⟨m, hle, hmover⟩
      exact ⟨m + 1, Nat.le_succ_of_le hle, hmover⟩ }

theorem exists_of_rest {s t : state}
    (hsteps : Relation.ReflTransGen (fun a b => exists mine, system.step mine a b) s t)
    (hrest : forall mine, ¬ system.ready mine t) :
    exists run : FairRun system, run.states 0 = s ∧ exists n, run.states n = t := by
  induction hsteps using Relation.ReflTransGen.head_induction_on with
  | refl => exact ⟨rest t hrest, rfl, 0, rfl⟩
  | head hstep _ ih =>
      rcases ih with ⟨run, hstart, n, hend⟩
      rcases hstep with ⟨mine, hmine⟩
      rw [← hstart] at hmine
      exact ⟨run.cons hmine, rfl, n + 1, hend⟩

end FairRun

end Foundation
end SqlCsvServer
