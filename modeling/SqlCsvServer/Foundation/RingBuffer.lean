import Mathlib.Data.List.OfFn

/-!
# Ring buffers

An array of fixed length whose live cells start at `head` and wrap around at
the end.  The fields say that the positions are in range, so a buffer with an
index outside the array cannot be built.  `toList` lists the live cells from
the oldest to the newest.
-/

namespace SqlCsvServer
namespace Foundation

/-- A ring buffer with room for `capacity` items. -/
structure RingBuffer (α : Type) (capacity : Nat) where
  items : Vector α capacity
  count : Nat
  head : Nat
  tail : Nat
  head_lt : head < capacity
  count_le : count ≤ capacity
  tail_eq : tail = (head + count) % capacity

namespace RingBuffer

variable {α : Type} {capacity : Nat}

theorem capacity_pos (buffer : RingBuffer α capacity) : 0 < capacity :=
  Nat.lt_of_le_of_lt (Nat.zero_le _) buffer.head_lt

theorem tail_lt (buffer : RingBuffer α capacity) : buffer.tail < capacity := by
  rw [buffer.tail_eq]
  exact Nat.mod_lt _ buffer.capacity_pos

/-- The cell that holds the item at a distance from the oldest one. -/
def cell (buffer : RingBuffer α capacity) (distance : Nat) : Fin capacity :=
  ⟨(buffer.head + distance) % capacity, Nat.mod_lt _ buffer.capacity_pos⟩

def toList (buffer : RingBuffer α capacity) : List α :=
  List.ofFn fun distance : Fin buffer.count =>
    buffer.items.get (buffer.cell distance)

/-- A buffer with no live cell. -/
def empty (filler : α) (hcapacity : 0 < capacity) : RingBuffer α capacity :=
  { items := Vector.replicate capacity filler
    count := 0
    head := 0
    tail := 0
    head_lt := hcapacity
    count_le := Nat.zero_le _
    tail_eq := (Nat.zero_mod capacity).symm }

def push (buffer : RingBuffer α capacity) (item : α)
    (hroom : buffer.count < capacity) : RingBuffer α capacity :=
  { items := buffer.items.set buffer.tail item buffer.tail_lt
    count := buffer.count + 1
    head := buffer.head
    tail := (buffer.tail + 1) % capacity
    head_lt := buffer.head_lt
    count_le := hroom
    tail_eq := by
      rw [buffer.tail_eq, Nat.mod_add_mod]
      rfl }

def front (buffer : RingBuffer α capacity) : α :=
  buffer.items.get ⟨buffer.head, buffer.head_lt⟩

def pop (buffer : RingBuffer α capacity) (hitem : 0 < buffer.count) :
    RingBuffer α capacity :=
  { items := buffer.items
    count := buffer.count - 1
    head := (buffer.head + 1) % capacity
    tail := buffer.tail
    head_lt := Nat.mod_lt _ buffer.capacity_pos
    count_le := Nat.le_trans (Nat.sub_le _ _) buffer.count_le
    tail_eq := by
      rw [buffer.tail_eq, Nat.mod_add_mod]
      congr 1
      omega }

@[simp] theorem toList_length (buffer : RingBuffer α capacity) :
    buffer.toList.length = buffer.count := by
  simp [toList]

theorem toList_eq_nil_iff (buffer : RingBuffer α capacity) :
    buffer.toList = [] <-> buffer.count = 0 := by
  rw [← List.length_eq_zero_iff, toList_length]

@[simp] theorem toList_empty (filler : α) (hcapacity : 0 < capacity) :
    (empty filler hcapacity).toList = [] := by
  rw [toList_eq_nil_iff]
  rfl

theorem cell_injective {buffer : RingBuffer α capacity} {i j : Nat}
    (hi : i < capacity) (hj : j < capacity)
    (h : buffer.cell i = buffer.cell j) : i = j := by
  have hmod : (buffer.head + i) % capacity = (buffer.head + j) % capacity :=
    congrArg Fin.val h
  have hhead := buffer.head_lt
  have hreduce : forall k, k < capacity ->
      (buffer.head + k) % capacity =
        if buffer.head + k < capacity then buffer.head + k
        else buffer.head + k - capacity := by
    intro k hk
    split
    · rename_i hless
      exact Nat.mod_eq_of_lt hless
    · rename_i hless
      rw [Nat.mod_eq_sub_mod (by omega), Nat.mod_eq_of_lt (by omega)]
  rw [hreduce i hi, hreduce j hj] at hmod
  split at hmod <;> split at hmod <;> omega

theorem toList_getElem (buffer : RingBuffer α capacity) {i : Nat}
    (hi : i < buffer.toList.length) :
    buffer.toList[i] = buffer.items.get (buffer.cell i) := by
  simp [toList]

theorem push_get (buffer : RingBuffer α capacity) (item : α)
    (hroom : buffer.count < capacity) (position : Fin capacity) :
    (buffer.push item hroom).items.get position =
      if position = buffer.cell buffer.count then item
      else buffer.items.get position := by
  change (buffer.items.set buffer.tail item buffer.tail_lt)[position.val] =
    if position = buffer.cell buffer.count then item
    else buffer.items[position.val]
  have hcell : (buffer.cell buffer.count).val = buffer.tail := buffer.tail_eq.symm
  rw [Vector.getElem_set]
  by_cases hsame : position = buffer.cell buffer.count
  · rw [if_pos hsame, if_pos (by rw [hsame, hcell])]
  · have hother : buffer.tail ≠ position.val := by
      intro htail
      exact hsame (Fin.ext (htail.symm.trans hcell.symm))
    rw [if_neg hsame, if_neg hother]

theorem toList_push (buffer : RingBuffer α capacity) (item : α)
    (hroom : buffer.count < capacity) :
    (buffer.push item hroom).toList = buffer.toList ++ [item] := by
  apply List.ext_getElem
  · simp [push]
  · intro i hi hi'
    have hle : i ≤ buffer.count := by
      simpa [push, Nat.lt_succ_iff] using hi
    have hcell : (buffer.push item hroom).cell i = buffer.cell i := rfl
    rw [toList_getElem, hcell, push_get]
    rcases Nat.lt_or_eq_of_le hle with hless | rfl
    · have hother : buffer.cell i ≠ buffer.cell buffer.count := by
        intro heq
        have hsame := cell_injective (Nat.lt_trans hless hroom) hroom heq
        omega
      rw [if_neg hother, List.getElem_append_left (by simpa using hless),
        toList_getElem]
    · rw [if_pos rfl, List.getElem_append_right (by simp)]
      simp

theorem toList_pop (buffer : RingBuffer α capacity) (hitem : 0 < buffer.count) :
    buffer.toList = buffer.front :: (buffer.pop hitem).toList := by
  apply List.ext_getElem
  · simp only [toList_length, List.length_cons, pop]
    omega
  · intro i hi hi'
    cases i with
    | zero =>
        have hcell : buffer.cell 0 = ⟨buffer.head, buffer.head_lt⟩ :=
          Fin.ext (Nat.mod_eq_of_lt buffer.head_lt)
        rw [toList_getElem, hcell]
        rfl
    | succ i =>
        have hcell : (buffer.pop hitem).cell i = buffer.cell (i + 1) := by
          apply Fin.ext
          change ((buffer.head + 1) % capacity + i) % capacity =
            (buffer.head + (i + 1)) % capacity
          rw [Nat.mod_add_mod]
          congr 1
          omega
        rw [List.getElem_cons_succ, toList_getElem, toList_getElem, hcell]
        rfl

end RingBuffer

end Foundation
end SqlCsvServer
