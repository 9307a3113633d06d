import Mathlib.Data.List.Basic

/-!
# Actions that do not show

A machine takes one action after another and gives an output for each.  An observer sees
some of the actions.  If the others never show in what it can tell apart, then it
sees what it would see if they had never been taken.
-/

namespace SqlCsvServer
namespace Foundation

structure Machine (state action output : Type) where
  act : action -> state -> state × output

namespace Machine

variable {state action output : Type} (machine : Machine state action output)

/-- The outputs of some actions in a row, and the state that they leave. -/
def run : List action -> state -> state × List output
  | [], s => (s, [])
  | a :: actions, s =>
      let rest := run actions (machine.act a s).1
      (rest.1, (machine.act a s).2 :: rest.2)

/-- The outputs of those actions that an observer sees. -/
def seen (visible : action -> Bool) :
    List action -> List output -> List output
  | a :: actions, o :: outputs =>
      if visible a then o :: seen visible actions outputs
      else seen visible actions outputs
  | _, _ => []

/--
Two states are the same to an observer.  An action that it sees keeps them so and has
the same output in both; any other action does not show.
-/
structure Unwinds (visible : action -> Bool) (same : state -> state -> Prop) :
    Prop where
  consistent : forall {a s t}, visible a = true -> same s t ->
    (machine.act a s).2 = (machine.act a t).2 ∧
      same (machine.act a s).1 (machine.act a t).1
  respects : forall {a s t}, visible a = false -> same s t ->
    same (machine.act a s).1 t

variable {machine}

theorem Unwinds.run {visible : action -> Bool} {same : state -> state -> Prop}
    (h : machine.Unwinds visible same) (actions : List action) :
    forall {s t : state}, same s t ->
      seen visible actions (machine.run actions s).2 =
          (machine.run (actions.filter visible) t).2 ∧
        same (machine.run actions s).1
          (machine.run (actions.filter visible) t).1 := by
  induction actions with
  | nil => exact fun hsame => ⟨rfl, hsame⟩
  | cons a actions ih =>
      intro s t hsame
      cases hvisible : visible a with
      | true =>
          rcases h.consistent hvisible hsame with ⟨houtput, hafter⟩
          rcases ih hafter with ⟨hrest, hend⟩
          rw [List.filter_cons_of_pos hvisible]
          refine ⟨?_, hend⟩
          simp only [Machine.run, seen, hvisible, if_true, houtput, hrest]
      | false =>
          rcases ih (h.respects hvisible hsame) with ⟨hrest, hend⟩
          rw [List.filter_cons_of_neg (by rw [hvisible]; exact Bool.false_ne_true)]
          refine ⟨?_, hend⟩
          simpa only [Machine.run, seen, hvisible, Bool.false_eq_true, if_false]
            using hrest

end Machine

end Foundation
end SqlCsvServer
