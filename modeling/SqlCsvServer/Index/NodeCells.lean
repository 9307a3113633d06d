import SqlCsvServer.Index.BPlusTreeShape
import SqlCsvServer.Index.NodeMemory

/-!
# What the arrays of a node hold

The cells below `key_count` hold a leaf's entries or an internal node's keys and
children; what is left in the cells behind them is never read.  No step of an insert
leaves the arrays of a node that is not over-full.
-/

namespace SqlCsvServer
namespace Index
namespace InMemory

open Foundation

structure LeafCells (cells : Node) (entries : List (Int × Int)) (next : Option Nat) :
    Prop where
  isLeaf : cells.isLeaf = true
  keyCount : cells.keyCount = entries.length
  keys : Fills cells.keys (entries.map Prod.fst)
  values : Fills cells.values (entries.map Prod.snd)
  next : cells.next = next

structure InternalCells (cells : Node) (keys : List Int) (slots : List Nat) : Prop where
  isLeaf : cells.isLeaf = false
  keyCount : cells.keyCount = keys.length
  count : slots.length = keys.length + 1
  keys : Fills cells.keys keys
  children : Fills cells.children (slots.map some)

/-!
## Scans
-/

theorem findChildIndex_eq_length (keys : List Int) (key : Int) :
    Index.findChildIndex keys key =
      (keys.takeWhile fun separator => decide (separator ≤ key)).length := by
  induction keys with
  | nil => rfl
  | cons separator keys ih =>
      rw [Index.findChildIndex, List.takeWhile_cons]
      split
      · next hle => rw [if_pos (decide_eq_true hle), List.length_cons, ih]
      · next hlt => rw [if_neg (by rwa [decide_eq_true_eq])]; rfl

theorem InternalCells.findChildIndex {cells : Node} {keys : List Int} {slots : List Nat}
    (h : InternalCells cells keys slots) (key : Int) :
    findChildIndex cells key = some (Index.findChildIndex keys key) := by
  rw [InMemory.findChildIndex, h.keyCount, h.keys.scan, findChildIndex_eq_length]

theorem LeafCells.scan {cells : Node} {entries : List (Int × Int)} {next : Option Nat}
    (h : LeafCells cells entries next) (key : Int) :
    scanCells cells.keys (fun stored => stored < key) cells.keyCount 0 =
      some (leafInsertIndex entries key) := by
  have hscan := h.keys.scan fun stored => decide (stored < key)
  rw [List.length_map] at hscan
  rw [h.keyCount, hscan, leafInsertIndex_eq_length, List.takeWhile_map, List.length_map]
  rfl

theorem LeafCells.duplicate_iff {cells : Node} {entries : List (Int × Int)}
    {next : Option Nat} (h : LeafCells cells entries next) (index : Nat) (key : Int) :
    (index < cells.keyCount ∧ readCell cells.keys index = some key) <->
      (entries[index]?).map Prod.fst = some key := by
  rw [h.keyCount]
  rcases Nat.lt_or_ge index entries.length with hindex | hindex
  · have hread : readCell cells.keys index = some entries[index].1 :=
      h.keys.read (by rw [List.getElem?_map, List.getElem?_eq_getElem hindex]; rfl)
    rw [hread, List.getElem?_eq_getElem hindex]
    exact and_iff_right hindex
  · rw [List.getElem?_eq_none hindex]
    constructor
    · exact fun hfound => absurd hfound.1 (Nat.not_lt.mpr hindex)
    · intro hfound
      cases hfound

/-!
## One more entry, one more child
-/

theorem LeafCells.place {cells : Node} {entries : List (Int × Int)} {next : Option Nat}
    (h : LeafCells cells entries next) (hroom : entries.length ≤ bptreeMaxKeys)
    {index : Nat} (hindex : index ≤ entries.length) (key value : Int) :
    exists after, placeEntry cells index key value = some after ∧
      LeafCells after (entries.insertIdx index (key, value)) next := by
  have hkeysLength : (entries.map Prod.fst).length = entries.length := List.length_map _
  have hvaluesLength : (entries.map Prod.snd).length = entries.length := List.length_map _
  rcases h.keys.insert (by omega) (by omega : index ≤ _) key with
    ⟨shiftedKeys, keys, hshiftedKeys, hkeys, hkeysFill⟩
  rcases h.values.insert (by omega) (by omega : index ≤ _) value with
    ⟨shiftedValues, values, hshiftedValues, hvalues, hvaluesFill⟩
  rw [hkeysLength] at hshiftedKeys
  rw [hvaluesLength] at hshiftedValues
  refine ⟨{ cells with keyCount := cells.keyCount + 1, keys := keys, values := values },
    ?_, ?_⟩
  · simp only [placeEntry, h.keyCount, downTo_both hshiftedKeys hshiftedValues,
      Option.bind_eq_bind, Option.bind_some, hkeys, hvalues]
    rfl
  · exact
      { isLeaf := h.isLeaf
        keyCount := by
          rw [List.length_insertIdx_of_le_length hindex]
          exact congrArg (· + 1) h.keyCount
        keys := by rwa [List.map_insertIdx]
        values := by rwa [List.map_insertIdx]
        next := h.next }

theorem InternalCells.place {cells : Node} {keys : List Int} {slots : List Nat}
    (h : InternalCells cells keys slots) (hroom : keys.length ≤ bptreeMaxKeys)
    {index : Nat} (hindex : index ≤ keys.length) (promotedKey : Int) (right : Nat) :
    exists after, placeChild cells index promotedKey right = some after ∧
      InternalCells after (keys.insertIdx index promotedKey)
        (slots.insertIdx (index + 1) right) := by
  have hslotsLength : (slots.map some).length = keys.length + 1 := by
    rw [List.length_map, h.count]
  rcases h.keys.insert (by omega) hindex promotedKey with
    ⟨shiftedKeys, newKeys, hshiftedKeys, hkeys, hkeysFill⟩
  rcases h.children.insert (by omega) (by omega : index + 1 ≤ _) (some right) with
    ⟨shiftedSlots, children, hshiftedSlots, hchildren, hchildrenFill⟩
  rw [hslotsLength] at hshiftedSlots
  refine ⟨{ cells with
    keyCount := cells.keyCount + 1, keys := newKeys, children := children }, ?_, ?_⟩
  · simp only [placeChild, h.keyCount, hshiftedKeys, hshiftedSlots, Option.bind_eq_bind,
      Option.bind_some, hkeys, hchildren]
    rfl
  · exact
      { isLeaf := h.isLeaf
        keyCount := by
          rw [List.length_insertIdx_of_le_length hindex]
          exact congrArg (· + 1) h.keyCount
        keys := hkeysFill
        children := by rwa [List.map_insertIdx]
        count := by
          rw [List.length_insertIdx_of_le_length hindex,
            List.length_insertIdx_of_le_length (by rw [h.count]; omega), h.count] }

/-!
## The halves of a split
-/

theorem LeafCells.copy {cells : Node} {entries : List (Int × Int)} {next : Option Nat}
    (h : LeafCells cells entries next) {splitIndex : Nat}
    (hsplit : splitIndex ≤ entries.length) (target : Node) (hleaf : target.isLeaf = true) :
    exists keys values,
      upTo (both (copyCell cells.keys splitIndex) (copyCell cells.values splitIndex))
          (entries.length - splitIndex) (target.keys, target.values) =
        some (keys, values) ∧
      LeafCells
        { target with
          keyCount := entries.length - splitIndex
          keys := keys
          values := values
          next := cells.next } (entries.drop splitIndex) next := by
  have hkeysLength : (entries.map Prod.fst).length = entries.length := List.length_map _
  have hvaluesLength : (entries.map Prod.snd).length = entries.length := List.length_map _
  have hbound := h.keys.length_le
  rcases h.keys.copy target.keys
    (by omega : splitIndex + (entries.length - splitIndex) = _) (by omega) with
    ⟨keys, hkeys, hkeysFill⟩
  rcases h.values.copy target.values
    (by omega : splitIndex + (entries.length - splitIndex) = _) (by omega) with
    ⟨values, hvalues, hvaluesFill⟩
  refine ⟨keys, values, upTo_both hkeys hvalues, ?_⟩
  exact
    { isLeaf := hleaf
      keyCount := (List.length_drop ..).symm
      keys := by rwa [List.map_drop]
      values := by rwa [List.map_drop]
      next := h.next }

theorem LeafCells.cut {cells : Node} {entries : List (Int × Int)} {next : Option Nat}
    (h : LeafCells cells entries next) {splitIndex : Nat}
    (hsplit : splitIndex ≤ entries.length) (right : Nat) :
    LeafCells { cells with keyCount := splitIndex, next := some right }
      (entries.take splitIndex) (some right) :=
  { isLeaf := h.isLeaf
    keyCount := (List.length_take_of_le hsplit).symm
    keys := by
      rw [List.map_take]
      exact h.keys.take _
    values := by
      rw [List.map_take]
      exact h.values.take _
    next := rfl }

theorem InternalCells.copy {cells : Node} {keys : List Int} {slots : List Nat}
    (h : InternalCells cells keys slots) {midIndex : Nat} (hmid : midIndex < keys.length)
    (target : Node) (hleaf : target.isLeaf = false) :
    exists copiedKeys copiedChildren,
      upTo (copyCell cells.keys (midIndex + 1)) (keys.length - midIndex - 1) target.keys =
        some copiedKeys ∧
      upTo (copyCell cells.children (midIndex + 1)) (keys.length - midIndex - 1 + 1)
          target.children = some copiedChildren ∧
      InternalCells
        { target with
          keyCount := keys.length - midIndex - 1
          keys := copiedKeys
          children := copiedChildren }
        (keys.drop (midIndex + 1)) (slots.drop (midIndex + 1)) := by
  have hslotsLength : (slots.map some).length = keys.length + 1 := by
    rw [List.length_map, h.count]
  have hbound := h.keys.length_le
  rcases h.keys.copy target.keys
    (by omega : midIndex + 1 + (keys.length - midIndex - 1) = _) (by omega) with
    ⟨copiedKeys, hkeys, hkeysFill⟩
  rcases h.children.copy target.children
    (by omega : midIndex + 1 + (keys.length - midIndex - 1 + 1) = _) (by omega) with
    ⟨copiedChildren, hchildren, hchildrenFill⟩
  refine ⟨copiedKeys, copiedChildren, hkeys, hchildren, ?_⟩
  exact
    { isLeaf := hleaf
      keyCount := by rw [List.length_drop, Nat.sub_sub]
      keys := hkeysFill
      children := by rwa [List.map_drop]
      count := by
        rw [List.length_drop, List.length_drop, h.count]
        omega }

theorem InternalCells.cut {cells : Node} {keys : List Int} {slots : List Nat}
    (h : InternalCells cells keys slots) {midIndex : Nat} (hmid : midIndex < keys.length) :
    InternalCells { cells with keyCount := midIndex } (keys.take midIndex)
      (slots.take (midIndex + 1)) :=
  { isLeaf := h.isLeaf
    keyCount := (List.length_take_of_le (Nat.le_of_lt hmid)).symm
    keys := h.keys.take _
    children := by
      rw [List.map_take]
      exact h.children.take _
    count := by
      rw [List.length_take_of_le (by rw [h.count]; omega),
        List.length_take_of_le (Nat.le_of_lt hmid)] }

end InMemory
end Index
end SqlCsvServer
