import Mathlib.Algebra.BigOperators.Group.Multiset.Basic
import Mathlib.Algebra.Order.Group.Multiset
import Mathlib.Tactic.Abel

/-!
# Taking resources and giving them back

A program takes resources, which may fail, uses them and gives them back.  Using or
giving back what is not held is a misuse; waiting for what never comes hangs.  A triple
says what a program does with what it is handed; whatever else is held stays.
-/

namespace SqlCsvServer
namespace Foundation

inductive Stop where
  | misuse
  | hangs
deriving DecidableEq

abbrev Ledger (ρ α : Type) := StateT (Multiset ρ) (Except Stop) α

namespace Ledger

variable {ρ α β : Type}

def acquire (fails : ρ -> Bool) (resource : ρ) : Ledger ρ Bool :=
  fun held => if fails resource then .ok (false, held) else .ok (true, {resource} + held)

def release [DecidableEq ρ] (resource : ρ) : Ledger ρ Unit :=
  fun held => if resource ∈ held then .ok ((), held.erase resource) else .error .misuse

def touch [DecidableEq ρ] (resource : ρ) : Ledger ρ Unit :=
  fun held => if resource ∈ held then .ok ((), held) else .error .misuse

def releaseAll [DecidableEq ρ] (resources : List ρ) : Ledger ρ Unit :=
  resources.forM release

def ifTaken (got : Bool) (resource : ρ) : Multiset ρ :=
  if got then {resource} else 0

/--
Handed `before`, and whatever else is held, the program ends as `after` says
and leaves the rest alone, or it stops as it may.
-/
def Triple (may : Stop -> Prop) (before : Multiset ρ) (program : Ledger ρ α)
    (after : α -> Multiset ρ -> Prop) : Prop :=
  forall rest,
    (exists result held, program.run (before + rest) = .ok (result, held + rest) ∧
      after result held) ∨
    (exists stop, program.run (before + rest) = .error stop ∧ may stop)

section Rules

variable {may : Stop -> Prop} {before : Multiset ρ} {program : Ledger ρ α}
  {next : α -> Ledger ρ β} {after : α -> Multiset ρ -> Prop}
  {last : β -> Multiset ρ -> Prop} {resource : ρ} {fails : ρ -> Bool}

theorem Triple.bind (h : Triple may before program after)
    (hnext : forall result held, after result held ->
      Triple may held (next result) last) :
    Triple may before (program >>= next) last := by
  intro rest
  rw [StateT.run_bind]
  rcases h rest with ⟨result, held, hrun, hafter⟩ | ⟨stop, hrun, hmay⟩
  · rw [hrun]
    exact hnext result held hafter rest
  · rw [hrun]
    exact .inr ⟨stop, rfl, hmay⟩

theorem Triple.weaken {weaker : α -> Multiset ρ -> Prop}
    (h : Triple may before program after)
    (hweaker : forall result held, after result held -> weaker result held) :
    Triple may before program weaker := by
  intro rest
  rcases h rest with ⟨result, held, hrun, hafter⟩ | hstops
  · exact .inl ⟨result, held, hrun, hweaker result held hafter⟩
  · exact .inr hstops

theorem Triple.frame (h : Triple may before program after)
    {more : Multiset ρ} (extra : Multiset ρ) (hmore : more = before + extra) :
    Triple may more program
      (fun result held => exists less, held = less + extra ∧ after result less) := by
  intro rest
  rw [hmore, add_assoc]
  rcases h (extra + rest) with ⟨result, held, hrun, hafter⟩ | hstops
  · refine .inl ⟨result, held + extra, ?_, held, rfl, hafter⟩
    rw [hrun, add_assoc]
  · exact .inr hstops

theorem Triple.run (h : Triple may before program after) :
    (exists result held, program.run before = .ok (result, held) ∧ after result held) ∨
      (exists stop, program.run before = .error stop ∧ may stop) := by
  have hrun := h 0
  simpa only [add_zero] using hrun

variable [DecidableEq ρ]

end Rules

/-!
## Loops
-/

section Loops

variable {may : Stop -> Prop} {before : Multiset ρ}

end Loops

/-!
## Programs that only give back
-/

def GivesBack (program : Ledger ρ α) : Prop :=
  forall held result after, program.run held = .ok (result, after) -> after ≤ held

section GivesBack

variable {program : Ledger ρ α} {next : α -> Ledger ρ β} {held : Multiset ρ}

theorem run_bind_ok {result : β} {after : Multiset ρ}
    (h : (program >>= next).run held = .ok (result, after)) :
    exists value between, program.run held = .ok (value, between) ∧
      (next value).run between = .ok (result, after) := by
  rw [StateT.run_bind] at h
  cases hrun : program.run held with
  | error stop =>
      rw [hrun] at h
      nomatch h
  | ok pair =>
      rw [hrun] at h
      exact ⟨pair.1, pair.2, rfl, h⟩

theorem GivesBack.bind (h : GivesBack program) (hnext : forall value, GivesBack (next value)) :
    GivesBack (program >>= next) := by
  intro held result after hrun
  rcases run_bind_ok hrun with ⟨value, between, hfirst, hsecond⟩
  exact (hnext value _ _ _ hsecond).trans (h _ _ _ hfirst)

variable [DecidableEq ρ]

end GivesBack

end Ledger

end Foundation
end SqlCsvServer
