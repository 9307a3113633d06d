import Mathlib.Algebra.BigOperators.Group.Finset.Piecewise
import Mathlib.Algebra.Order.BigOperators.Group.Finset
import Mathlib.Data.Fintype.BigOperators

/-!
# Sums over threads

Every thread is somewhere, and contributes what its place is worth.  One thread
that moves changes the sum by the difference of its two places.
-/

namespace SqlCsvServer
namespace Foundation

variable {ι α : Type} [Fintype ι]

def threadSum (worth : α -> Nat) (threads : ι -> α) : Nat :=
  ∑ thread, worth (threads thread)

theorem threadSum_update [DecidableEq ι] (worth : α -> Nat) (threads : ι -> α)
    (thread : ι) (next : α) :
    threadSum worth (Function.update threads thread next) +
        worth (threads thread) =
      threadSum worth threads + worth next := by
  have hmoved : (fun other => worth (Function.update threads thread next other)) =
      Function.update (fun other => worth (threads other)) thread
        (worth next) := by
    funext other
    by_cases hother : other = thread
    · rw [hother, Function.update_self, Function.update_self]
    · rw [Function.update_of_ne hother, Function.update_of_ne hother]
  have hafter := Finset.sum_update_of_mem (Finset.mem_univ thread)
    (fun other => worth (threads other)) (worth next)
  have hbefore := Finset.sum_eq_add_sum_sdiff_singleton_of_mem
    (Finset.mem_univ thread) (fun other => worth (threads other))
  unfold threadSum
  rw [hmoved, hafter, hbefore]
  omega

theorem threadSum_congr {worth worth' : α -> Nat} {threads moved : ι -> α}
    (h : forall thread, worth' (moved thread) = worth (threads thread)) :
    threadSum worth' moved = threadSum worth threads :=
  Finset.sum_congr rfl fun thread _ => h thread

theorem threadSum_le {worth worth' : α -> Nat} {threads moved : ι -> α}
    (h : forall thread, worth (threads thread) ≤ worth' (moved thread)) :
    threadSum worth threads ≤ threadSum worth' moved :=
  Finset.sum_le_sum fun thread _ => h thread

theorem threadSum_lt {worth worth' : α -> Nat} {threads moved : ι -> α}
    (h : forall thread, worth (threads thread) ≤ worth' (moved thread))
    {thread : ι} (hthread : worth (threads thread) < worth' (moved thread)) :
    threadSum worth threads < threadSum worth' moved :=
  Finset.sum_lt_sum (fun other _ => h other)
    ⟨thread, Finset.mem_univ thread, hthread⟩

end Foundation
end SqlCsvServer
