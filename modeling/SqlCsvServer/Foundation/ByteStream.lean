import SqlCsvServer.Foundation.Bytes

/-!
# Streams that arrive in pieces

A receiver gets the bytes of a stream in their order, but only as many at a time as
the next piece holds.
-/

namespace SqlCsvServer
namespace Foundation

/-- The pieces in which a stream will arrive; behind the last one it has ended. -/
structure ByteStream where
  pieces : List Bytes
  filled : forall piece, piece ∈ pieces -> piece ≠ []

namespace ByteStream

/-- All bytes that will arrive. -/
def bytes (stream : ByteStream) : Bytes :=
  stream.pieces.flatten

def piecesAfter (length : Nat) : List Bytes -> List Bytes
  | [] => []
  | piece :: more =>
      if piece.drop length = [] then more else piece.drop length :: more

theorem piecesAfter_filled {length : Nat} {pieces : List Bytes}
    (h : forall piece, piece ∈ pieces -> piece ≠ []) :
    forall piece, piece ∈ piecesAfter length pieces -> piece ≠ [] := by
  cases pieces with
  | nil => exact h
  | cons piece more =>
      have hmore : forall other, other ∈ more -> other ≠ [] :=
        fun other hother => h other (List.mem_cons_of_mem _ hother)
      simp only [piecesAfter]
      split
      · exact hmore
      · next hleft =>
          intro other hother
          rcases List.mem_cons.mp hother with rfl | hother
          · exact hleft
          · exact hmore other hother

theorem take_piecesAfter (length : Nat) (pieces : List Bytes) :
    (pieces.headD []).take length ++ (piecesAfter length pieces).flatten =
      pieces.flatten := by
  cases pieces with
  | nil => rw [List.headD_nil, List.take_nil]; rfl
  | cons piece more =>
      rw [List.headD_cons, List.flatten_cons, piecesAfter]
      split
      · next hleft => rw [List.take_of_length_le (List.drop_eq_nil_iff.mp hleft)]
      · rw [List.flatten_cons, ← List.append_assoc, List.take_append_drop]

def recv (length : Nat) (stream : ByteStream) : Bytes × ByteStream :=
  ((stream.pieces.headD []).take length,
    { pieces := piecesAfter length stream.pieces
      filled := piecesAfter_filled stream.filled })

variable {length : Nat} {stream : ByteStream}

theorem recv_length_le : (stream.recv length).1.length ≤ length := by
  unfold recv
  rw [List.length_take]
  exact Nat.min_le_left _ _

theorem recv_bytes :
    (stream.recv length).1 ++ (stream.recv length).2.bytes = stream.bytes :=
  take_piecesAfter length stream.pieces

theorem recv_ne_nil (hlength : 0 < length) (hstream : stream.bytes ≠ []) :
    (stream.recv length).1 ≠ [] := by
  have hpiece : stream.pieces.headD [] ≠ [] := by
    intro hnil
    apply hstream
    unfold bytes
    cases hpieces : stream.pieces with
    | nil => rfl
    | cons piece more =>
        rw [hpieces, List.headD_cons] at hnil
        exact absurd hnil (stream.filled piece (by rw [hpieces]; exact List.mem_cons_self))
  unfold recv
  rw [ne_eq, List.take_eq_nil_iff, not_or]
  exact ⟨Nat.pos_iff_ne_zero.mp hlength, hpiece⟩

theorem recv_of_ended (h : stream.bytes = []) :
    (stream.recv length).1 = [] ∧ (stream.recv length).2.bytes = [] := by
  have hwhole := @recv_bytes length stream
  rw [h] at hwhole
  exact List.append_eq_nil_iff.mp hwhole

theorem recv_one {b : Byte} {rest : Bytes} (h : stream.bytes = b :: rest) :
    (stream.recv 1).1 = [b] ∧ (stream.recv 1).2.bytes = rest := by
  have hwhole := @recv_bytes 1 stream
  have hlength := @recv_length_le 1 stream
  have hne := @recv_ne_nil 1 stream Nat.one_pos (by rw [h]; exact List.cons_ne_nil _ _)
  rw [h] at hwhole
  cases hreceived : (stream.recv 1).1 with
  | nil => exact absurd hreceived hne
  | cons first more =>
      rw [hreceived] at hwhole hlength
      cases more with
      | nil =>
          rcases List.cons.inj hwhole with ⟨rfl, hrest⟩
          exact ⟨rfl, hrest⟩
      | cons second more =>
          simp only [List.length_cons] at hlength
          omega

end ByteStream

end Foundation
end SqlCsvServer
