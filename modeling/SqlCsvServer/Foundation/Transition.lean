import Mathlib.Logic.Relation

/-!
# Systems that take one step after another

A system says how it may start and which steps it may take.  An invariant holds
at the start and survives every step, so it holds in every reachable state.
-/

namespace SqlCsvServer
namespace Foundation

/-- The starting states and the steps of a system. -/
structure Transition (state : Type) where
  start : state -> Prop
  step : state -> state -> Prop

namespace Transition

variable {state : Type} {system : Transition state}

/-- Any number of steps, none included. -/
def Runs (system : Transition state) : state -> state -> Prop :=
  Relation.ReflTransGen system.step

/-- A state that some run from a starting state reaches. -/
def Reachable (system : Transition state) (s : state) : Prop :=
  exists first, system.start first ∧ system.Runs first s

def Kept (system : Transition state) (P : state -> Prop) : Prop :=
  forall s t, P s -> system.step s t -> P t

def restrict (system : Transition state) (condition : state -> state -> Prop) :
    Transition state :=
  { start := system.start
    step := fun s t => system.step s t ∧ condition s t }

theorem Kept.runs {P : state -> Prop} (h : system.Kept P) {s t : state}
    (hs : P s) (hrun : system.Runs s t) : P t := by
  induction hrun with
  | refl => exact hs
  | tail _ hstep ih => exact h _ _ ih hstep

theorem Kept.reachable {P : state -> Prop} (h : system.Kept P)
    (hstart : forall s, system.start s -> P s) {s : state}
    (hreach : system.Reachable s) : P s := by
  rcases hreach with ⟨first, hfirst, hrun⟩
  exact h.runs (hstart first hfirst) hrun

theorem Reachable.step {s t : state} (h : system.Reachable s)
    (hstep : system.step s t) : system.Reachable t := by
  rcases h with ⟨first, hfirst, hrun⟩
  exact ⟨first, hfirst, hrun.tail hstep⟩

theorem Reachable.view {τ : Type} {target : Transition τ} {look : state -> τ}
    (hstart : forall s, system.start s -> target.start (look s))
    (hstep : forall s t, system.step s t ->
      look t = look s ∨ target.step (look s) (look t))
    {s : state} (h : system.Reachable s) : target.Reachable (look s) := by
  rcases h with ⟨first, hfirst, hrun⟩
  induction hrun with
  | refl => exact ⟨look first, hstart first hfirst, .refl⟩
  | tail _ htaken ih =>
      rcases hstep _ _ htaken with hsame | hmoved
      · rw [hsame]
        exact ih
      · exact ih.step hmoved

end Transition

end Foundation
end SqlCsvServer
