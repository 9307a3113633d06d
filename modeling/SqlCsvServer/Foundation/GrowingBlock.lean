import Mathlib.Data.List.Infix
import SqlCsvServer.Foundation.Bytes

/-!
# C strings and growing blocks

An access outside of a block has no outcome, so a program that has one stayed inside.
A C string is read up to its terminator and no further.  A block that is full is moved
to a larger one, whose new cells hold anything.
-/

namespace SqlCsvServer
namespace Foundation

variable {α : Type}

/-!
## Reading a C string
-/

def byteAt (text : Bytes) (index : Nat) : Option Byte :=
  (text ++ [Byte.nul])[index]?

def scanWhile (goesOn : Byte -> Bool) (text : Bytes) : Nat -> Nat -> Option Nat
  | 0, _ => none
  | fuel + 1, index =>
      (byteAt text index).bind fun b =>
        if goesOn b then scanWhile goesOn text fuel (index + 1) else some index

structure Cursor (text : Bytes) (index : Nat) (rest : Bytes) : Prop where
  inside : index ≤ text.length
  behind : text.drop index = rest

namespace Cursor

variable {text front rest : Bytes} {index : Nat} {b : Byte}

theorem start (text : Bytes) : Cursor text 0 text where
  inside := Nat.zero_le _
  behind := rfl

theorem length_eq (h : Cursor text index rest) : index + rest.length = text.length := by
  have hlength := congrArg List.length h.behind
  rw [List.length_drop] at hlength
  have hinside := h.inside
  omega

theorem skip (h : Cursor text index (front ++ rest)) :
    Cursor text (index + front.length) rest where
  inside := by
    have hlength := h.length_eq
    rw [List.length_append] at hlength
    omega
  behind := by
    rw [← List.drop_drop, h.behind, List.drop_left]

theorem next (h : Cursor text index (b :: rest)) : Cursor text (index + 1) rest :=
  @skip text [b] rest index h

theorem read (h : Cursor text index (b :: rest)) : byteAt text index = some b := by
  have hsplit : text = text.take index ++ b :: rest := by
    rw [← h.behind, List.take_append_drop]
  have hlength : (text.take index).length = index := List.length_take_of_le h.inside
  unfold byteAt
  rw [hsplit, List.append_assoc, List.getElem?_append_right (Nat.le_of_eq hlength),
    hlength, Nat.sub_self]
  rfl

theorem read_end (h : Cursor text index []) : byteAt text index = some Byte.nul := by
  have hindex : index = text.length :=
    Nat.le_antisymm h.inside (List.drop_eq_nil_iff.mp h.behind)
  unfold byteAt
  rw [hindex, List.getElem?_append_right (Nat.le_refl _), Nat.sub_self]
  rfl

theorem ne_nul (h : Cursor text index (b :: rest)) (htext : NulFree text) :
    b ≠ Byte.nul := by
  rintro rfl
  apply htext
  have hmem : Byte.nul ∈ text.drop index := by
    rw [h.behind]
    exact List.mem_cons_self
  exact List.mem_of_mem_drop hmem

theorem look {mark : Byte} (h : Cursor text index rest) (hmark : mark ≠ Byte.nul) :
    exists b, byteAt text index = some b ∧ (b = mark <-> rest.head? = some mark) := by
  cases rest with
  | nil => exact ⟨_, h.read_end, by simp [Ne.symm hmark]⟩
  | cons b rest => exact ⟨b, h.read, by simp⟩

theorem word {word : Bytes} (h : Cursor text index rest)
    (hword : word.isPrefixOf rest = true) :
    Cursor text (index + word.length) (rest.drop word.length) := by
  rcases List.isPrefixOf_iff_prefix.mp hword with ⟨left, rfl⟩
  rw [List.drop_left]
  exact h.skip

theorem scanWhile {goesOn : Byte -> Bool} (hnul : goesOn Byte.nul = false) {fuel : Nat} :
    forall {rest : Bytes} {index : Nat}, Cursor text index rest -> rest.length < fuel ->
      exists next, Foundation.scanWhile goesOn text fuel index = some next ∧
        index ≤ next ∧ Cursor text next (rest.dropWhile goesOn) := by
  induction fuel with
  | zero => exact fun _ hfuel => absurd hfuel (Nat.not_lt_zero _)
  | succ fuel ih =>
      intro rest index hcursor hfuel
      unfold Foundation.scanWhile
      cases rest with
      | nil =>
          rw [hcursor.read_end, Option.bind_some, hnul]
          exact ⟨index, rfl, Nat.le_refl _, hcursor⟩
      | cons b rest =>
          rw [hcursor.read, Option.bind_some, List.dropWhile_cons]
          cases hb : goesOn b with
          | false => exact ⟨index, rfl, Nat.le_refl _, hcursor⟩
          | true =>
              rcases ih hcursor.next (Nat.lt_of_succ_lt_succ hfuel) with
                ⟨next, hscan, hmoved, hbehind⟩
              exact ⟨next, hscan, Nat.le_of_succ_le hmoved, hbehind⟩

end Cursor

/-!
## Writing into a block
-/

def store (block : List α) (index : Nat) (x : α) : Option (List α) :=
  if index < block.length then some (block.set index x) else none

def storeAll : List α -> Nat -> List α -> Option (List α × Nat)
  | block, index, [] => some (block, index)
  | block, index, x :: more =>
      (store block index x).bind fun block => storeAll block (index + 1) more

def storeEach {β : Type} (encode : β -> List α) :
    List β -> List α -> Nat -> Option (List α × Nat)
  | [], block, index => some (block, index)
  | b :: more, block, index =>
      (storeAll block index (encode b)).bind fun written =>
        storeEach encode more written.1 written.2

theorem store_length {block next : List α} {index : Nat} {x : α}
    (h : store block index x = some next) : next.length = block.length := by
  unfold store at h
  split at h
  · rw [← Option.some.inj h, List.length_set]
  · cases h

theorem store_behind {block items : List α} (hitems : items <+: block)
    (hroom : items.length < block.length) (x : α) :
    exists next, store block items.length x = some next ∧ items ++ [x] <+: next := by
  rcases hitems with ⟨rest, rfl⟩
  cases rest with
  | nil => simp at hroom
  | cons old rest =>
      refine ⟨_, if_pos hroom, rest, ?_⟩
      rw [List.set_append_right _ _ (Nat.le_refl _), Nat.sub_self, List.set_cons_zero,
        List.append_assoc, List.singleton_append]

theorem storeAll_behind {more : List α} :
    forall {block items : List α}, items <+: block ->
      items.length + more.length ≤ block.length ->
        exists next,
          storeAll block items.length more =
              some (next, items.length + more.length) ∧
            items ++ more <+: next ∧ next.length = block.length := by
  induction more with
  | nil =>
      intro block items hitems _
      exact ⟨block, rfl, by rwa [List.append_nil], rfl⟩
  | cons x more ih =>
      intro block items hitems hroom
      rw [List.length_cons] at hroom
      rcases store_behind hitems (by omega) x with ⟨stored, hstore, hprefix⟩
      have hlength := store_length hstore
      rcases ih hprefix (by rw [List.length_append, List.length_singleton]; omega) with
        ⟨next, hnext, hall, hsame⟩
      refine ⟨next, ?_, ?_, hsame.trans hlength⟩
      · rw [storeAll, hstore, Option.bind_some]
        rw [List.length_append, List.length_singleton] at hnext
        rw [hnext, List.length_cons, Nat.add_right_comm, Nat.add_assoc]
      · rwa [List.append_assoc, List.singleton_append] at hall

theorem storeEach_behind {β : Type} {encode : β -> List α} {more : List β} :
    forall {block items : List α}, items <+: block ->
      items.length + (more.flatMap encode).length ≤ block.length ->
        exists next,
          storeEach encode more block items.length =
              some (next, items.length + (more.flatMap encode).length) ∧
            items ++ more.flatMap encode <+: next ∧ next.length = block.length := by
  induction more with
  | nil =>
      intro block items hitems _
      exact ⟨block, rfl, by rwa [List.flatMap_nil, List.append_nil], rfl⟩
  | cons b more ih =>
      intro block items hitems hroom
      rw [List.flatMap_cons, List.length_append] at hroom ⊢
      rcases @storeAll_behind _ (encode b) block items hitems (by omega) with
        ⟨stored, hstore, hprefix, hlength⟩
      rcases ih hprefix (by rw [List.length_append]; omega) with
        ⟨next, hnext, hall, hsame⟩
      rw [List.length_append] at hnext
      refine ⟨next, ?_, ?_, hsame.trans hlength⟩
      · rw [storeEach, hstore, Option.bind_some, hnext, Nat.add_assoc]
      · rwa [← List.append_assoc]

theorem store_last {block items : List α} (hitems : items <+: block) (x : α)
    (hroom : block.length = items.length + 1) :
    store block items.length x = some (items ++ [x]) := by
  rcases store_behind hitems (by omega) x with ⟨next, hstore, hprefix⟩
  have hlength : (items ++ [x]).length = next.length := by
    rw [store_length hstore, hroom, List.length_append, List.length_singleton]
  rw [hstore, hprefix.eq_of_length hlength]

def blockString (block : Bytes) : Option Bytes :=
  if Byte.nul ∈ block then some (cString block) else none

theorem blockString_of_prefix {text block : Bytes} (htext : NulFree text)
    (h : text ++ [Byte.nul] <+: block) : blockString block = some text := by
  rcases h with ⟨rest, rfl⟩
  have hmem : Byte.nul ∈ text ++ [Byte.nul] ++ rest := by simp
  unfold blockString cString
  rw [if_pos hmem, List.append_assoc, List.takeWhile_append_of_pos]
  · simp
  · intro b hb
    have hne : b ≠ Byte.nul := fun heq => htext (heq ▸ hb)
    simpa using hne

theorem nulFree_push {front : Bytes} {b : Byte} (hfront : NulFree front)
    (hb : b ≠ Byte.nul) : NulFree (front ++ [b]) := by
  intro hmem
  rcases List.mem_append.mp hmem with hmem | hmem
  · exact hfront hmem
  · exact hb (List.mem_singleton.mp hmem).symm

/-!
## Growing blocks
-/

structure Growth where
  full : Nat -> Nat -> Bool
  first : Nat

structure Growing (α : Type) where
  cells : List α
  count : Nat

def Growth.enlarged (growth : Growth) (capacity : Nat) : Nat :=
  if capacity = 0 then growth.first else capacity * 2

def reallocate (fresh : Nat -> α) (cells : List α) (capacity : Nat) : List α :=
  cells ++ (List.range (capacity - cells.length)).map fresh

namespace Growing

def null : Growing α :=
  { cells := [], count := 0 }

def put (growth : Growth) (fresh : Nat -> α) (x : α) (block : Growing α) :
    Option (Growing α) :=
  let cells :=
    if growth.full block.count block.cells.length then
      reallocate fresh block.cells (growth.enlarged block.cells.length)
    else block.cells
  (store cells block.count x).map fun cells =>
    { cells := cells, count := block.count + 1 }

def terminate (block : Growing Byte) : Option (Growing Byte) :=
  (store block.cells block.count Byte.nul).map fun cells =>
    { block with cells := cells }

end Growing

structure Growth.Leaves (growth : Growth) (room : Nat) : Prop where
  first_room : 1 + room ≤ growth.first
  full_null : growth.full 0 0 = true
  not_full : forall {count capacity : Nat}, growth.full count capacity = false ->
    count + room ≤ capacity -> count + 1 + room ≤ capacity

def Growth.whenFull (first : Nat) : Growth :=
  { full := fun count capacity => decide (count = capacity), first := first }

def Growth.whenOneLeft (first : Nat) : Growth :=
  { full := fun length capacity => decide (capacity ≤ length + 1), first := first }

theorem Growth.whenFull_leaves {first : Nat} (hfirst : 1 ≤ first) :
    (Growth.whenFull first).Leaves 0 where
  first_room := hfirst
  full_null := rfl
  not_full := by
    intro count capacity hfull hfits
    have hroom := of_decide_eq_false hfull
    omega

theorem Growth.whenOneLeft_leaves {first : Nat} (hfirst : 2 ≤ first) :
    (Growth.whenOneLeft first).Leaves 1 where
  first_room := hfirst
  full_null := rfl
  not_full := by
    intro length capacity hfull _
    have hroom := of_decide_eq_false hfull
    omega

structure Holds (room : Nat) (items : List α) (block : Growing α) : Prop where
  count : block.count = items.length
  starts : items <+: block.cells
  room_left : block.cells ≠ [] -> items.length + room ≤ block.cells.length

namespace Holds

variable {room : Nat} {items : List α} {block : Growing α}

theorem null : Holds room ([] : List α) Growing.null where
  count := rfl
  starts := List.nil_prefix
  room_left := fun h => absurd rfl h

theorem put {growth : Growth} (hgrowth : growth.Leaves room)
    (h : Holds room items block) (fresh : Nat -> α) (x : α) :
    exists next, block.put growth fresh x = some next ∧
      Holds room (items ++ [x]) next ∧ next.cells ≠ [] := by
  generalize hcells : (if growth.full block.count block.cells.length then
      reallocate fresh block.cells (growth.enlarged block.cells.length)
    else block.cells) = cells
  have hstarts : items <+: cells := by
    rw [← hcells]
    split
    · exact h.starts.trans (List.prefix_append _ _)
    · exact h.starts
  have hroom : items.length + 1 + room ≤ cells.length := by
    rw [← hcells]
    split
    · have hgrown : (reallocate fresh block.cells
          (growth.enlarged block.cells.length)).length =
            block.cells.length +
              (growth.enlarged block.cells.length - block.cells.length) := by
        unfold reallocate
        rw [List.length_append, List.length_map, List.length_range]
      rw [hgrown]
      by_cases hnull : block.cells = []
      · have hitems : items = [] := List.prefix_nil.mp (hnull ▸ h.starts)
        have hfirst := hgrowth.first_room
        rw [hitems, hnull]
        simp only [List.length_nil, Growth.enlarged, if_true]
        omega
      · have hleft := h.room_left hnull
        have hpos := List.length_pos_iff.mpr hnull
        rw [Growth.enlarged, if_neg (Nat.pos_iff_ne_zero.mp hpos)]
        omega
    · rename_i hfull
      rw [Bool.not_eq_true, h.count] at hfull
      by_cases hnull : block.cells = []
      · have hitems : items = [] := List.prefix_nil.mp (hnull ▸ h.starts)
        rw [hitems, hnull, List.length_nil, hgrowth.full_null] at hfull
        cases hfull
      · exact hgrowth.not_full hfull (h.room_left hnull)
  rcases store_behind hstarts (by omega) x with ⟨next, hstore, hprefix⟩
  have hlength := store_length hstore
  refine ⟨{ cells := next, count := block.count + 1 }, ?_, ⟨?_, hprefix, ?_⟩, ?_⟩
  · show (store (if growth.full block.count block.cells.length then _ else _)
      block.count x).map _ = _
    rw [hcells, h.count, hstore]
    rfl
  · rw [List.length_append, List.length_singleton, h.count]
  · intro _
    rw [List.length_append, List.length_singleton, hlength]
    exact hroom
  · apply List.ne_nil_of_length_pos
    rw [hlength]
    omega

theorem terminate {text : Bytes} {block : Growing Byte} (h : Holds 1 text block)
    (hblock : block.cells ≠ []) :
    exists next, block.terminate = some next ∧ Holds 1 text next ∧
      text ++ [Byte.nul] <+: next.cells := by
  have hroom := h.room_left hblock
  rcases store_behind h.starts hroom Byte.nul with ⟨cells, hstore, hprefix⟩
  refine ⟨{ block with cells := cells }, ?_, ⟨h.count, ?_, ?_⟩, hprefix⟩
  · unfold Growing.terminate
    rw [h.count, hstore]
    rfl
  · exact (List.prefix_append _ _).trans hprefix
  · intro _
    rw [store_length hstore]
    exact hroom

theorem items_nil (h : Holds room items block) (hnull : block.cells = []) : items = [] :=
  List.prefix_nil.mp (hnull ▸ h.starts)

end Holds

end Foundation
end SqlCsvServer
