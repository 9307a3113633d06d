import SqlCsvServer.Foundation.KeyedList
import SqlCsvServer.Index.BPlusTree

/-!
# What a B+ tree holds

`NodeHolds` relates a node to the sorted list of bindings stored under it:
the separators cut the key space, every key lies in the range its subtree is
responsible for, and all leaves have one depth.  Search reads that list, and an
insert adds one binding to it.
-/

namespace SqlCsvServer
namespace Index

open Foundation

/-!
## Key ranges
-/

def InRange (low high : Option Int) (key : Int) : Prop :=
  (forall l, l ∈ low -> l ≤ key) ∧ (forall h, h ∈ high -> key < h)

def Inside (low high : Option Int) (separator : Int) : Prop :=
  (forall l, l ∈ low -> l < separator) ∧
    (forall h, h ∈ high -> separator < h)

theorem inRange_none (key : Int) : InRange none none key := by
  simp [InRange]

theorem InRange.left {low high : Option Int} {separator key : Int}
    (hseparator : Inside low high separator)
    (hkey : InRange low (some separator) key) : InRange low high key := by
  refine ⟨hkey.1, ?_⟩
  intro h hh
  exact lt_trans (hkey.2 separator rfl) (hseparator.2 h hh)

theorem InRange.right {low high : Option Int} {separator key : Int}
    (hseparator : Inside low high separator)
    (hkey : InRange (some separator) high key) : InRange low high key := by
  refine ⟨?_, hkey.2⟩
  intro l hl
  exact le_trans (le_of_lt (hseparator.1 l hl)) (hkey.1 separator rfl)

theorem Inside.right {low high : Option Int} {separator inner : Int}
    (hseparator : Inside low high separator)
    (hinner : Inside (some separator) high inner) : Inside low high inner := by
  refine ⟨?_, hinner.2⟩
  intro l hl
  exact lt_trans (hseparator.1 l hl) (hinner.1 separator rfl)

/-!
## The contents relation
-/

mutual

inductive NodeHolds :
    Nat -> Option Int -> Option Int -> BPlusTreeNode ->
      List (Int × Int) -> Prop where
  | leaf {low high : Option Int} {address : Nat}
      {entries : List (Int × Int)} {next : Option Nat} :
      KeyedList.Sorted entries ->
      (forall e, e ∈ entries -> InRange low high e.1) ->
      NodeHolds 0 low high (.leaf address entries next) entries
  | internal {depth : Nat} {low high : Option Int} {keys : List Int}
      {children : List BPlusTreeNode} {held : List (Int × Int)} :
      ChildrenHold depth low high keys children held ->
      NodeHolds (depth + 1) low high (.internal keys children) held

inductive ChildrenHold :
    Nat -> Option Int -> Option Int -> List Int -> List BPlusTreeNode ->
      List (Int × Int) -> Prop where
  | last {depth : Nat} {low high : Option Int} {child : BPlusTreeNode}
      {held : List (Int × Int)} :
      NodeHolds depth low high child held ->
      ChildrenHold depth low high [] [child] held
  | cons {depth : Nat} {low high : Option Int} {separator : Int}
      {keys : List Int} {child : BPlusTreeNode}
      {children : List BPlusTreeNode} {held rest : List (Int × Int)} :
      NodeHolds depth low (some separator) child held ->
      Inside low high separator ->
      ChildrenHold depth (some separator) high keys children rest ->
      ChildrenHold depth low high (separator :: keys) (child :: children)
        (held ++ rest)

end

theorem childrenHold_keys_inside {depth : Nat} {high : Option Int}
    {keys : List Int} {children : List BPlusTreeNode} :
    forall {low : Option Int} {held : List (Int × Int)},
      ChildrenHold depth low high keys children held ->
        forall s, s ∈ keys -> Inside low high s := by
  induction keys generalizing children with
  | nil =>
      intro low held _ s hs
      cases hs
  | cons separator keys ih =>
      intro low held h s hs
      cases h with
      | cons _ hseparator hrest =>
          rcases List.mem_cons.mp hs with rfl | hs
          · exact hseparator
          · exact hseparator.right (ih hrest s hs)

theorem childrenHold_inRange {depth : Nat} {high : Option Int}
    (ihnode : forall {low high : Option Int} {node : BPlusTreeNode}
      {held : List (Int × Int)}, NodeHolds depth low high node held ->
        forall e, e ∈ held -> InRange low high e.1)
    {keys : List Int} {children : List BPlusTreeNode} :
    forall {low : Option Int} {held : List (Int × Int)},
      ChildrenHold depth low high keys children held ->
        forall e, e ∈ held -> InRange low high e.1 := by
  induction keys generalizing children with
  | nil =>
      intro low held h e he
      cases h with
      | last hchild => exact ihnode hchild e he
  | cons separator keys ih =>
      intro low held h e he
      cases h with
      | cons hchild hseparator hrest =>
          rcases List.mem_append.mp he with he | he
          · exact InRange.left hseparator (ihnode hchild e he)
          · exact InRange.right hseparator (ih hrest e he)

theorem nodeHolds_inRange :
    forall (depth : Nat) {low high : Option Int} {node : BPlusTreeNode}
      {held : List (Int × Int)}, NodeHolds depth low high node held ->
        forall e, e ∈ held -> InRange low high e.1
  | 0, _, _, _, _, .leaf _ hrange => hrange
  | depth + 1, _, _, _, _, .internal hchildren =>
      childrenHold_inRange (nodeHolds_inRange depth) hchildren

theorem childrenHold_sorted {depth : Nat} {high : Option Int}
    (ihnode : forall {low high : Option Int} {node : BPlusTreeNode}
      {held : List (Int × Int)}, NodeHolds depth low high node held ->
        KeyedList.Sorted held)
    {keys : List Int} {children : List BPlusTreeNode} :
    forall {low : Option Int} {held : List (Int × Int)},
      ChildrenHold depth low high keys children held ->
        KeyedList.Sorted held := by
  induction keys generalizing children with
  | nil =>
      intro low held h
      cases h with
      | last hchild => exact ihnode hchild
  | cons separator keys ih =>
      intro low held h
      cases h with
      | cons hchild hseparator hrest =>
          refine KeyedList.sorted_append_iff.mpr ⟨ihnode hchild, ih hrest, ?_⟩
          intro a ha b hb
          have hbelow :=
            (nodeHolds_inRange depth hchild a ha).2 separator rfl
          have habove :=
            (childrenHold_inRange (nodeHolds_inRange depth) hrest b hb).1
              separator rfl
          exact lt_of_lt_of_le hbelow habove

theorem nodeHolds_sorted :
    forall (depth : Nat) {low high : Option Int} {node : BPlusTreeNode}
      {held : List (Int × Int)}, NodeHolds depth low high node held ->
        KeyedList.Sorted held
  | 0, _, _, _, _, .leaf hsorted _ => hsorted
  | depth + 1, _, _, _, _, .internal hchildren =>
      childrenHold_sorted (nodeHolds_sorted depth) hchildren

/-!
## Routing

A key in range is sent to the one child that may store it.  That child sits in
a hole: any chain of nodes over the same range can take its place, which covers
both an updated child and a child that was split in two.
-/

structure ChildSlot (depth : Nat) (low high : Option Int) (keys : List Int)
    (children : List BPlusTreeNode) (held : List (Int × Int)) (key : Int) where
  leftKeys : List Int
  rightKeys : List Int
  leftChildren : List BPlusTreeNode
  child : BPlusTreeNode
  rightChildren : List BPlusTreeNode
  slotLow : Option Int
  slotHigh : Option Int
  before : List (Int × Int)
  inner : List (Int × Int)
  after : List (Int × Int)
  keys_eq : keys = leftKeys ++ rightKeys
  children_eq : children = leftChildren ++ child :: rightChildren
  held_eq : held = before ++ (inner ++ after)
  leftKeys_length : leftKeys.length = findChildIndex keys key
  leftChildren_length : leftChildren.length = findChildIndex keys key
  key_inRange : InRange slotLow slotHigh key
  child_holds : NodeHolds depth slotLow slotHigh child inner
  before_lt : forall e, e ∈ before -> e.1 < key
  lt_after : forall e, e ∈ after -> key < e.1
  refill : forall (ks : List Int) (cs : List BPlusTreeNode)
    (filled : List (Int × Int)),
      ChildrenHold depth slotLow slotHigh ks cs filled ->
        ChildrenHold depth low high (leftKeys ++ (ks ++ rightKeys))
          (leftChildren ++ (cs ++ rightChildren))
          (before ++ (filled ++ after))

theorem childrenHold_append {depth : Nat} {high : Option Int} {separator : Int}
    {keys : List Int} {children : List BPlusTreeNode}
    {restKeys : List Int} {restChildren : List BPlusTreeNode}
    {restHeld : List (Int × Int)} :
    forall {low : Option Int} {held : List (Int × Int)},
      ChildrenHold depth low (some separator) keys children held ->
      Inside low high separator ->
      ChildrenHold depth (some separator) high restKeys restChildren restHeld ->
      ChildrenHold depth low high (keys ++ separator :: restKeys)
        (children ++ restChildren) (held ++ restHeld) := by
  induction keys generalizing children with
  | nil =>
      intro low held h hseparator hrest
      cases h with
      | last hchild => exact ChildrenHold.cons hchild hseparator hrest
  | cons s keys ih =>
      intro low held h hseparator hrest
      cases h with
      | cons hchild hs htail =>
          have hinside : Inside low high s :=
            ⟨hs.1, fun b hb =>
              lt_trans (hs.2 separator rfl) (hseparator.2 b hb)⟩
          have htailInside : Inside (some s) high separator := by
            refine ⟨?_, hseparator.2⟩
            intro l hl
            cases hl
            exact hs.2 separator rfl
          have hjoined := ih htail htailInside hrest
          have hcons := ChildrenHold.cons hchild hinside hjoined
          simpa [List.append_assoc] using hcons

theorem childSlot_exists {depth : Nat} {high : Option Int} {key : Int}
    {keys : List Int} {children : List BPlusTreeNode} :
    forall {low : Option Int} {held : List (Int × Int)},
      ChildrenHold depth low high keys children held ->
      InRange low high key ->
      Nonempty (ChildSlot depth low high keys children held key) := by
  induction keys generalizing children with
  | nil =>
      intro low held h hkey
      cases h with
      | last hchild =>
          rename_i child
          exact
            ⟨{ leftKeys := [], rightKeys := [], leftChildren := []
               child := child, rightChildren := []
               slotLow := low, slotHigh := high
               before := [], inner := held, after := []
               keys_eq := rfl
               children_eq := rfl
               held_eq := by simp
               leftKeys_length := rfl
               leftChildren_length := rfl
               key_inRange := hkey
               child_holds := hchild
               before_lt := by simp
               lt_after := by simp
               refill := by
                 intro ks cs filled hfilled
                 simpa using hfilled }⟩
  | cons separator keys ih =>
      intro low held h hkey
      cases h with
      | cons hchild hseparator hrest =>
          rename_i child children held rest
          by_cases hroute : separator ≤ key
          · -- the key belongs to a child right of this separator
            have hkeyRest : InRange (some separator) high key := by
              refine ⟨?_, hkey.2⟩
              intro l hl
              cases hl
              exact hroute
            rcases ih hrest hkeyRest with ⟨slot⟩
            exact
              ⟨{ leftKeys := separator :: slot.leftKeys
                 rightKeys := slot.rightKeys
                 leftChildren := child :: slot.leftChildren
                 child := slot.child
                 rightChildren := slot.rightChildren
                 slotLow := slot.slotLow, slotHigh := slot.slotHigh
                 before := held ++ slot.before
                 inner := slot.inner, after := slot.after
                 keys_eq := by simpa using slot.keys_eq
                 children_eq := by simpa using slot.children_eq
                 held_eq := by simpa using slot.held_eq
                 leftKeys_length := by
                   simp [findChildIndex, hroute, slot.leftKeys_length]
                 leftChildren_length := by
                   simp [findChildIndex, hroute, slot.leftChildren_length]
                 key_inRange := slot.key_inRange
                 child_holds := slot.child_holds
                 before_lt := by
                   intro e he
                   rcases List.mem_append.mp he with he | he
                   · exact lt_of_lt_of_le
                       ((nodeHolds_inRange depth hchild e he).2 separator rfl)
                       hroute
                   · exact slot.before_lt e he
                 lt_after := slot.lt_after
                 refill := by
                   intro ks cs filled hfilled
                   have hslot := slot.refill ks cs filled hfilled
                   have hcons := ChildrenHold.cons hchild hseparator hslot
                   simpa using hcons }⟩
          · -- the first child whose right separator is above the key
            have hkeyChild : InRange low (some separator) key := by
              refine ⟨hkey.1, ?_⟩
              intro b hb
              cases hb
              exact not_le.mp hroute
            exact
              ⟨{ leftKeys := [], rightKeys := separator :: keys
                 leftChildren := []
                 child := child, rightChildren := children
                 slotLow := low, slotHigh := some separator
                 before := [], inner := held, after := rest
                 keys_eq := rfl
                 children_eq := rfl
                 held_eq := rfl
                 leftKeys_length := by simp [findChildIndex, hroute]
                 leftChildren_length := by simp [findChildIndex, hroute]
                 key_inRange := hkeyChild
                 child_holds := hchild
                 before_lt := by simp
                 lt_after := by
                   intro e he
                   have habove :=
                     (childrenHold_inRange (nodeHolds_inRange depth) hrest e
                       he).1 separator rfl
                   exact lt_of_lt_of_le (not_le.mp hroute) habove
                 refill := by
                   intro ks cs filled hfilled
                   simpa using childrenHold_append hfilled hseparator hrest }⟩

namespace ChildSlot

variable {depth : Nat} {low high : Option Int} {keys : List Int}
  {children : List BPlusTreeNode} {held : List (Int × Int)} {key : Int}

theorem set_child (slot : ChildSlot depth low high keys children held key)
    (node : BPlusTreeNode) :
    children.set (findChildIndex keys key) node =
      slot.leftChildren ++ node :: slot.rightChildren := by
  rw [← slot.leftChildren_length]
  have hset :=
    congrArg (fun cs => cs.set slot.leftChildren.length node) slot.children_eq
  simpa using hset

theorem not_bound_before (slot : ChildSlot depth low high keys children held key) :
    ¬ KeyedList.Bound slot.before key := by
  rintro ⟨e, he, hek⟩
  exact absurd hek (ne_of_lt (slot.before_lt e he))

theorem not_bound_after (slot : ChildSlot depth low high keys children held key) :
    ¬ KeyedList.Bound slot.after key := by
  rintro ⟨e, he, hek⟩
  exact absurd hek (ne_of_gt (slot.lt_after e he))

theorem bound_iff (slot : ChildSlot depth low high keys children held key) :
    KeyedList.Bound held key <-> KeyedList.Bound slot.inner key := by
  have hheld : KeyedList.Bound held key <->
      KeyedList.Bound (slot.before ++ (slot.inner ++ slot.after)) key :=
    iff_of_eq (congrArg (fun m => KeyedList.Bound m key) slot.held_eq)
  rw [hheld, KeyedList.bound_append, KeyedList.bound_append]
  constructor
  · rintro (h | h | h)
    · exact absurd h slot.not_bound_before
    · exact h
    · exact absurd h slot.not_bound_after
  · intro h
    exact Or.inr (Or.inl h)

theorem lookup_eq (slot : ChildSlot depth low high keys children held key) :
    held.lookup key = slot.inner.lookup key := by
  have hheld := congrArg (fun m => m.lookup key) slot.held_eq
  rw [hheld,
    KeyedList.lookup_append_of_not_bound_left slot.not_bound_before,
    KeyedList.lookup_append_of_not_bound_right slot.not_bound_after]

theorem insertKey_eq (slot : ChildSlot depth low high keys children held key)
    (value : Int) :
    KeyedList.insertKey key value held =
      slot.before ++ (KeyedList.insertKey key value slot.inner ++ slot.after) := by
  have hheld := congrArg (KeyedList.insertKey key value) slot.held_eq
  rw [hheld, KeyedList.insertKey_append_left slot.before_lt,
    KeyedList.insertKey_append_right
      (fun e he => le_of_lt (slot.lt_after e he))]

end ChildSlot

/-!
## Search
-/

theorem searchChild_append {key : Int} (left : List BPlusTreeNode)
    (child : BPlusTreeNode) (right : List BPlusTreeNode) :
    searchChild key (left ++ child :: right) left.length =
      searchNode key child := by
  induction left with
  | nil => simp [searchChild]
  | cons head left ih => simpa [searchChild] using ih

theorem searchNode_eq_lookup :
    forall (depth : Nat) {low high : Option Int} {node : BPlusTreeNode}
      {held : List (Int × Int)} {key : Int},
      NodeHolds depth low high node held -> InRange low high key ->
        searchNode key node = held.lookup key := by
  intro depth
  induction depth with
  | zero =>
      intro low high node held key h _
      cases h with
      | leaf _ _ => simp [searchNode]
  | succ depth ih =>
      intro low high node held key h hkey
      cases h with
      | internal hchildren =>
          rename_i keys children
          rcases childSlot_exists hchildren hkey with ⟨slot⟩
          have hroute :
              searchChild key children (findChildIndex keys key) =
                searchNode key slot.child := by
            have hsearch :=
              congrArg (fun cs => searchChild key cs slot.leftChildren.length)
                slot.children_eq
            rw [← slot.leftChildren_length]
            exact hsearch.trans (searchChild_append _ _ _)
          rw [searchNode, hroute, ih slot.child_holds slot.key_inRange,
            slot.lookup_eq]

end Index
end SqlCsvServer
