import Mathlib.Data.List.Infix
import SqlCsvServer.Foundation.Bytes

/-!
# Connections that take bytes in pieces

A sender hands over the bytes of a text in their order, but each call takes only as
many of them as there is room for, and any call may fail.
-/

namespace SqlCsvServer
namespace Foundation

/-- A connection as its sender has it. -/
structure ByteSink where
  /-- What the peer gets. -/
  taken : Bytes
  /-- How much each of the following calls takes; where nothing is left, they fail. -/
  rooms : List Nat

namespace ByteSink

def send (text : Bytes) (sink : ByteSink) : Nat × ByteSink :=
  (min (sink.rooms.headD 0) text.length,
    { taken := sink.taken ++ text.take (sink.rooms.headD 0)
      rooms := sink.rooms.tail })

def Lasts (sink : ByteSink) (calls : Nat) : Prop :=
  exists rooms more, sink.rooms = rooms ++ more ∧ calls ≤ rooms.length ∧
    forall room, room ∈ rooms -> 0 < room

variable {sink : ByteSink} {text : Bytes}

theorem send_le : (sink.send text).1 ≤ text.length :=
  Nat.min_le_right _ _

theorem send_taken :
    (sink.send text).2.taken = sink.taken ++ text.take (sink.send text).1 := by
  show sink.taken ++ text.take (sink.rooms.headD 0) =
    sink.taken ++ text.take (min (sink.rooms.headD 0) text.length)
  rw [← List.take_eq_take_min]

theorem send_lasts {calls : Nat} (h : sink.Lasts (calls + 1)) (htext : text ≠ []) :
    0 < (sink.send text).1 ∧ (sink.send text).2.Lasts calls := by
  rcases h with ⟨rooms, more, hrooms, hlong, hfree⟩
  cases rooms with
  | nil => exact absurd hlong (Nat.not_succ_le_zero calls)
  | cons room rooms =>
      constructor
      · unfold send
        rw [hrooms, List.cons_append, List.headD_cons]
        exact Nat.lt_min.mpr
          ⟨hfree room List.mem_cons_self, List.length_pos_of_ne_nil htext⟩
      · refine ⟨rooms, more, ?_, Nat.le_of_succ_le_succ hlong, ?_⟩
        · unfold send
          rw [hrooms, List.cons_append, List.tail_cons]
        · exact fun other hother => hfree other (List.mem_cons_of_mem _ hother)

theorem Lasts.mono {calls fewer : Nat} (h : sink.Lasts calls) (hfewer : fewer ≤ calls) :
    sink.Lasts fewer := by
  rcases h with ⟨rooms, more, hrooms, hlong, hfree⟩
  exact ⟨rooms, more, hrooms, Nat.le_trans hfewer hlong, hfree⟩

end ByteSink

end Foundation
end SqlCsvServer
