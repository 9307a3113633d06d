import SqlCsvServer.Foundation.FixedArray
import SqlCsvServer.Index.BPlusTreeContents

/-!
# The B+ tree as a finite map

Leaf and internal inserts add one binding to what a node holds, splits
included.  Lifted to the public handle, a tree that started at
`bptree_init` is the finite map of the first insertions of its keys.
-/

namespace SqlCsvServer
namespace Index

open Foundation

/-!
## Memory
-/

theorem createNode_unlimited (heap : NodeHeap) (h : heap.available = none) :
    createNode heap =
      (some heap.created, { created := heap.created + 1, available := none }) := by
  cases heap with
  | mk created available =>
      simp only at h
      subst h
      rfl

theorem createNode_fails {heap left : NodeHeap}
    (h : createNode heap = (none, left)) :
    heap.available = some 0 ∧ left = heap := by
  unfold createNode at h
  split at h
  · simp at h
  · rename_i hzero
    simp only [Prod.mk.injEq, true_and] at h
    exact ⟨hzero, h.symm⟩
  · simp at h

def NodeHeap.unlimited (heap : NodeHeap) : NodeHeap :=
  { heap with available := none }

theorem createNode_some {heap left : NodeHeap} {address : Nat}
    (h : createNode heap = (some address, left)) :
    createNode heap.unlimited = (some address, left.unlimited) := by
  unfold createNode at h
  split at h <;> simp only [Prod.mk.injEq, Option.some.injEq, reduceCtorEq,
    false_and] at h
  · rcases h with ⟨rfl, rfl⟩
    rfl
  · rcases h with ⟨rfl, rfl⟩
    rfl

def AgreesUnlimited (limited unlimited : BPlusTreeNode × InsertState × NodeHeap) :
    Prop :=
  (forall message, limited.2.1 ≠ .failed message) ->
    unlimited = (limited.1, limited.2.1, limited.2.2.unlimited)

theorem insertIntoLeaf_unlimited (address : Nat) (entries : List (Int × Int))
    (next : Option Nat) (key value : Int) (heap : NodeHeap) :
    AgreesUnlimited (insertIntoLeaf address entries next key value heap)
      (insertIntoLeaf address entries next key value heap.unlimited) := by
  unfold insertIntoLeaf
  by_cases hduplicate :
      (entries[leafInsertIndex entries key]?).map Prod.fst = some key
  · simp only [hduplicate, if_true]
    intro hok
    exact absurd rfl (hok _)
  · simp only [hduplicate, if_false]
    split
    · intro _
      rfl
    · cases hcreate : createNode heap with
      | mk created left =>
          cases created with
          | none =>
              intro hok
              exact absurd rfl (hok _)
          | some right =>
              rw [createNode_some hcreate]
              intro _
              rfl

theorem insertIntoInternal_unlimited (keys : List Int)
    (children : List BPlusTreeNode) (childIndex : Nat)
    {limited unlimited : BPlusTreeNode × InsertState × NodeHeap}
    (hchild : AgreesUnlimited limited unlimited) :
    AgreesUnlimited (insertIntoInternal keys children childIndex limited)
      (insertIntoInternal keys children childIndex unlimited) := by
  rcases limited with ⟨child, state, left⟩
  cases state with
  | failed message =>
      intro hok
      exact absurd rfl (hok message)
  | done =>
      intro _
      rw [hchild (by simp)]
      rfl
  | split promotedKey right =>
      rw [hchild (by simp)]
      simp only [insertIntoInternal]
      split
      · intro _
        rfl
      · cases hcreate : createNode left with
        | mk created rest =>
            cases created with
            | none =>
                intro hok
                exact absurd rfl (hok _)
            | some address =>
                rw [createNode_some hcreate]
                intro _
                rfl

mutual

theorem insertIntoNode_unlimited (key value : Int) :
    forall (node : BPlusTreeNode) (heap : NodeHeap),
      AgreesUnlimited (insertIntoNode key value node heap)
        (insertIntoNode key value node heap.unlimited)
  | .leaf address entries next, heap => by
      rw [insertIntoNode, insertIntoNode]
      exact insertIntoLeaf_unlimited address entries next key value heap
  | .internal keys children, heap => by
      rw [insertIntoNode, insertIntoNode]
      have hchild :=
        insertIntoChild_unlimited key value children (findChildIndex keys key)
          heap
      cases hinsert :
          insertIntoChild key value children (findChildIndex keys key) heap with
      | none =>
          intro hok
          exact absurd rfl (hok [])
      | some inserted =>
          rcases hchild inserted hinsert with ⟨unlimited, hunlimited, hagrees⟩
          rw [hunlimited]
          exact insertIntoInternal_unlimited keys children _ hagrees

theorem insertIntoChild_unlimited (key value : Int) :
    forall (children : List BPlusTreeNode) (index : Nat) (heap : NodeHeap)
      (inserted : BPlusTreeNode × InsertState × NodeHeap),
      insertIntoChild key value children index heap = some inserted ->
        exists unlimited,
          insertIntoChild key value children index heap.unlimited =
              some unlimited ∧
            AgreesUnlimited inserted unlimited
  | [], _, _, _, h => by simp [insertIntoChild] at h
  | child :: _, 0, heap, inserted, h => by
      rw [insertIntoChild] at h
      cases h
      exact ⟨_, by rw [insertIntoChild], insertIntoNode_unlimited key value child heap⟩
  | _ :: children, index + 1, heap, inserted, h => by
      rw [insertIntoChild] at h
      rw [insertIntoChild]
      exact insertIntoChild_unlimited key value children index heap inserted h

end

theorem insertIntoLeaf_available_none (address : Nat)
    (entries : List (Int × Int)) (next : Option Nat) (key value : Int)
    {heap : NodeHeap} (h : heap.available = none) :
    (insertIntoLeaf address entries next key value heap).2.2.available =
      none := by
  unfold insertIntoLeaf
  simp only [createNode_unlimited heap h]
  split
  · exact h
  · split
    · exact h
    · rfl

theorem insertIntoInternal_available_none (keys : List Int)
    (children : List BPlusTreeNode) (childIndex : Nat)
    {inserted : BPlusTreeNode × InsertState × NodeHeap}
    (h : inserted.2.2.available = none) :
    (insertIntoInternal keys children childIndex inserted).2.2.available =
      none := by
  rcases inserted with ⟨child, state, left⟩
  cases state with
  | failed message => exact h
  | done => exact h
  | split promotedKey right =>
      simp only [insertIntoInternal, createNode_unlimited left h]
      split
      · exact h
      · rfl

mutual

theorem insertIntoNode_available_none (key value : Int) :
    forall (node : BPlusTreeNode) (heap : NodeHeap), heap.available = none ->
      (insertIntoNode key value node heap).2.2.available = none
  | .leaf address entries next, _, h => by
      rw [insertIntoNode]
      exact insertIntoLeaf_available_none address entries next key value h
  | .internal keys children, heap, h => by
      rw [insertIntoNode]
      cases hinsert :
          insertIntoChild key value children (findChildIndex keys key) heap with
      | none => exact h
      | some inserted =>
          exact
            insertIntoInternal_available_none keys children _
              (insertIntoChild_available_none key value children _ h hinsert)

theorem insertIntoChild_available_none (key value : Int) :
    forall (children : List BPlusTreeNode) (index : Nat) {heap : NodeHeap}
      {inserted : BPlusTreeNode × InsertState × NodeHeap},
      heap.available = none ->
        insertIntoChild key value children index heap = some inserted ->
          inserted.2.2.available = none
  | [], _, _, _, _, hinsert => by simp [insertIntoChild] at hinsert
  | child :: _, 0, _, _, h, hinsert => by
      rw [insertIntoChild] at hinsert
      cases hinsert
      exact insertIntoNode_available_none key value child _ h
  | _ :: children, index + 1, _, _, h, hinsert => by
      rw [insertIntoChild] at hinsert
      exact insertIntoChild_available_none key value children index h hinsert

end

/-!
## Inserting into a leaf
-/

theorem leafInsertIndex_eq_length (entries : List (Int × Int)) (key : Int) :
    leafInsertIndex entries key =
      (entries.takeWhile (fun e => decide (e.1 < key))).length := by
  induction entries with
  | nil => rfl
  | cons entry entries ih =>
      by_cases h : entry.1 < key
      · simp [leafInsertIndex, h, ih]
      · simp [leafInsertIndex, h]

theorem leaf_duplicate_iff {entries : List (Int × Int)} {key : Int}
    (hsorted : KeyedList.Sorted entries) :
    (entries[leafInsertIndex entries key]?).map Prod.fst = some key <->
      KeyedList.Bound entries key := by
  rcases KeyedList.exists_cut hsorted key with
    ⟨low, high, hsplit, htake, hlow, hhigh⟩
  have hindex : leafInsertIndex entries key = low.length := by
    rw [leafInsertIndex_eq_length, htake]
  have hread : entries[leafInsertIndex entries key]? = high.head? := by
    rw [hindex, hsplit, List.getElem?_append_right (Nat.le_refl _),
      Nat.sub_self, List.head?_eq_getElem?]
  rw [hread, hsplit, KeyedList.bound_append]
  constructor
  · intro h
    cases high with
    | nil => simp at h
    | cons e high =>
        exact Or.inr ⟨e, List.mem_cons_self .., by simpa using h⟩
  · rintro (⟨e, he, hek⟩ | ⟨e, he, hek⟩)
    · exact absurd hek (ne_of_lt (hlow e he))
    · cases high with
      | nil => cases he
      | cons first high =>
          have hfirst : key ≤ first.1 := hhigh first (List.mem_cons_self ..)
          rw [hsplit] at hsorted
          have hhighSorted := (KeyedList.sorted_append_iff.mp hsorted).2.1
          rcases List.mem_cons.mp he with rfl | htail
          · simp [hek]
          · have hlt := List.rel_of_pairwise_cons hhighSorted htail
            rw [hek] at hlt
            exact absurd hlt (not_lt.mpr hfirst)

theorem leaf_filled_eq {entries : List (Int × Int)} {key value : Int}
    (hsorted : KeyedList.Sorted entries) :
    entries.insertIdx (leafInsertIndex entries key) (key, value) =
      KeyedList.insertKey key value entries := by
  rcases KeyedList.exists_cut hsorted key with
    ⟨low, high, hsplit, htake, hlow, hhigh⟩
  rw [leafInsertIndex_eq_length, ← htake, hsplit, insertIdx_length_append,
    KeyedList.insertKey_cut hlow hhigh]

/-!
## The outcome of an insert
-/

/--
What an insert into a node over the given range may return: the key was absent
and is now bound, in one node or in two; or the key was bound and the node is
as before; or memory ran out.
-/
def InsertOutcome (depth : Nat) (low high : Option Int) (node : BPlusTreeNode)
    (held : List (Int × Int)) (key value : Int) (heap : NodeHeap) :
    BPlusTreeNode × InsertState × NodeHeap -> Prop
  | (after, .done, _) =>
      ¬ KeyedList.Bound held key ∧
        NodeHolds depth low high after (KeyedList.insertKey key value held)
  | (after, .split promotedKey right, _) =>
      ¬ KeyedList.Bound held key ∧ Inside low high promotedKey ∧
        exists leftHeld rightHeld : List (Int × Int),
          leftHeld ++ rightHeld = KeyedList.insertKey key value held ∧
            NodeHolds depth low (some promotedKey) after leftHeld ∧
            NodeHolds depth (some promotedKey) high right rightHeld
  | (after, .failed _, left) =>
      (KeyedList.Bound held key ∧ after = node ∧ left = heap) ∨
        left.available = some 0

theorem leaf_split_inside {low high : Option Int}
    {left right : List (Int × Int)} {first : Int × Int}
    (hleft : left ≠ [])
    (hsorted : KeyedList.Sorted (left ++ first :: right))
    (hrange : forall e, e ∈ left ++ first :: right -> InRange low high e.1) :
    Inside low high first.1 := by
  rcases List.exists_mem_of_ne_nil left hleft with ⟨e, he⟩
  have hlt : e.1 < first.1 :=
    (KeyedList.sorted_append_iff.mp hsorted).2.2 e he first
      (List.mem_cons_self ..)
  have hle := (hrange e (List.mem_append_left _ he)).1
  have hfirst := hrange first (by simp)
  exact ⟨fun l hl => lt_of_le_of_lt (hle l hl) hlt, hfirst.2⟩

theorem leaf_split_holds {low high : Option Int}
    {left right : List (Int × Int)} {first : Int × Int}
    (hsorted : KeyedList.Sorted (left ++ first :: right))
    (hrange : forall e, e ∈ left ++ first :: right -> InRange low high e.1)
    (address rightAddress : Nat) (next rightNext : Option Nat) :
    NodeHolds 0 low (some first.1) (.leaf address left next) left ∧
      NodeHolds 0 (some first.1) high
        (.leaf rightAddress (first :: right) rightNext) (first :: right) := by
  rcases KeyedList.sorted_append_iff.mp hsorted with
    ⟨hleftSorted, hrightSorted, hcross⟩
  constructor
  · refine NodeHolds.leaf hleftSorted ?_
    intro e he
    refine ⟨(hrange e (List.mem_append_left _ he)).1, ?_⟩
    intro h hh
    cases hh
    exact hcross e he first (List.mem_cons_self ..)
  · refine NodeHolds.leaf hrightSorted ?_
    intro e he
    refine ⟨?_, (hrange e (List.mem_append_right _ he)).2⟩
    intro l hl
    cases hl
    rcases List.mem_cons.mp he with rfl | htail
    · exact le_refl _
    · exact le_of_lt (List.rel_of_pairwise_cons hrightSorted htail)

theorem insertIntoLeaf_outcome {low high : Option Int} {address : Nat}
    {entries : List (Int × Int)} {next : Option Nat} {key : Int}
    (hsorted : KeyedList.Sorted entries)
    (hrange : forall e, e ∈ entries -> InRange low high e.1)
    (hkey : InRange low high key) (value : Int) (heap : NodeHeap) :
    InsertOutcome 0 low high (.leaf address entries next) entries key value heap
      (insertIntoLeaf address entries next key value heap) := by
  unfold insertIntoLeaf
  by_cases hduplicate : KeyedList.Bound entries key
  · simp only [(leaf_duplicate_iff hsorted).mpr hduplicate, if_true]
    exact Or.inl ⟨hduplicate, rfl, rfl⟩
  · have hnot := mt (leaf_duplicate_iff hsorted).mp hduplicate
    simp only [hnot, if_false, leaf_filled_eq hsorted]
    have hfilledSorted :=
      KeyedList.sorted_insertKey (v := value) hsorted hduplicate
    have hfilledRange :
        forall e, e ∈ KeyedList.insertKey key value entries ->
          InRange low high e.1 := by
      intro e he
      rcases KeyedList.mem_insertKey.mp he with rfl | he
      · exact hkey
      · exact hrange e he
    generalize hfilled : KeyedList.insertKey key value entries = filled at *
    by_cases hfits : filled.length ≤ bptreeMaxKeys
    · rw [if_pos hfits]
      exact ⟨hduplicate, by
        rw [hfilled]
        exact NodeHolds.leaf hfilledSorted hfilledRange⟩
    · rw [if_neg hfits]
      have hlength : bptreeMaxKeys < filled.length := not_le.mp hfits
      unfold bptreeMaxKeys at hlength
      cases hcreate : createNode heap with
      | mk created left =>
          cases created with
          | none =>
              have hfail := createNode_fails hcreate
              simp only
              exact Or.inr (by rw [hfail.2]; exact hfail.1)
          | some right =>
              simp only
              -- both halves are non-empty, so the right one has a first key
              cases hdrop : filled.drop (filled.length / 2) with
              | nil =>
                  have := congrArg List.length hdrop
                  simp only [List.length_drop, List.length_nil] at this
                  omega
              | cons first rest =>
                  have hsplit :
                      filled.take (filled.length / 2) ++ first :: rest =
                        filled := by
                    rw [← hdrop, List.take_append_drop]
                  have hleft : filled.take (filled.length / 2) ≠ [] := by
                    intro hnil
                    have := congrArg List.length hnil
                    simp only [List.length_take, List.length_nil] at this
                    omega
                  rw [← hsplit] at hfilledSorted hfilledRange
                  have hholds :=
                    leaf_split_holds hfilledSorted hfilledRange address right
                      (some right) next
                  exact
                    ⟨hduplicate,
                      leaf_split_inside hleft hfilledSorted hfilledRange,
                      _, _, hsplit.trans hfilled.symm, hholds.1, hholds.2⟩

/-!
## Inserting below an internal node
-/

theorem childrenHold_cut {depth : Nat} {high : Option Int} (n : Nat)
    {keys : List Int} :
    forall {children : List BPlusTreeNode} {low : Option Int}
      {held : List (Int × Int)},
      ChildrenHold depth low high keys children held -> n < keys.length ->
        Inside low high (keys.getD n 0) ∧
          exists leftHeld rightHeld : List (Int × Int),
            leftHeld ++ rightHeld = held ∧
              ChildrenHold depth low (some (keys.getD n 0)) (keys.take n)
                (children.take (n + 1)) leftHeld ∧
              ChildrenHold depth (some (keys.getD n 0)) high
                (keys.drop (n + 1)) (children.drop (n + 1)) rightHeld := by
  induction n generalizing keys with
  | zero =>
      intro children low held h hn
      cases h with
      | last _ => simp at hn
      | cons hchild hseparator hrest =>
          refine ⟨by simpa using hseparator, _, _, rfl, ?_, ?_⟩
          · simpa using ChildrenHold.last hchild
          · simpa using hrest
  | succ n ih =>
      intro children low held h hn
      cases h with
      | last _ => simp at hn
      | cons hchild hseparator hrest =>
          rename_i separator keys child children held rest
          have hn' : n < keys.length := by simpa using hn
          rcases ih hrest hn' with
            ⟨hinside, leftHeld, rightHeld, hjoin, hleft, hright⟩
          have hbelow : Inside low (some (keys.getD n 0)) separator := by
            refine ⟨hseparator.1, ?_⟩
            intro h hh
            cases hh
            exact hinside.1 separator rfl
          refine ⟨by simpa using hseparator.right hinside,
            held ++ leftHeld, rightHeld, by rw [List.append_assoc, hjoin],
            ?_, ?_⟩
          · simpa using ChildrenHold.cons hchild hbelow hleft
          · simpa using hright

theorem insertIntoChild_append {key value : Int} (left : List BPlusTreeNode)
    (child : BPlusTreeNode) (right : List BPlusTreeNode) (heap : NodeHeap) :
    insertIntoChild key value (left ++ child :: right) left.length heap =
      some (insertIntoNode key value child heap) := by
  induction left with
  | nil => simp [insertIntoChild]
  | cons head left ih => simpa [insertIntoChild] using ih

section Internal

variable {depth : Nat} {low high : Option Int} {keys : List Int}
  {children : List BPlusTreeNode} {held : List (Int × Int)} {key : Int}

namespace ChildSlot

theorem insertIntoChild_eq
    (slot : ChildSlot depth low high keys children held key) (value : Int)
    (heap : NodeHeap) :
    insertIntoChild key value children (findChildIndex keys key) heap =
      some (insertIntoNode key value slot.child heap) := by
  have hinsert :=
    congrArg
      (fun cs => insertIntoChild key value cs slot.leftChildren.length heap)
      slot.children_eq
  rw [← slot.leftChildren_length]
  exact hinsert.trans (insertIntoChild_append _ _ _ _)

theorem set_child_self
    (slot : ChildSlot depth low high keys children held key) :
    children.set (findChildIndex keys key) slot.child = children := by
  rw [slot.set_child]
  exact slot.children_eq.symm

theorem holds_set (slot : ChildSlot depth low high keys children held key)
    {child : BPlusTreeNode} {filled : List (Int × Int)}
    (hchild : NodeHolds depth slot.slotLow slot.slotHigh child filled) :
    ChildrenHold depth low high keys
      (children.set (findChildIndex keys key) child)
      (slot.before ++ (filled ++ slot.after)) := by
  have hfill := slot.refill [] [child] filled (ChildrenHold.last hchild)
  rw [List.nil_append, ← slot.keys_eq] at hfill
  rw [slot.set_child]
  exact hfill

theorem insert_key (slot : ChildSlot depth low high keys children held key)
    (promotedKey : Int) :
    keys.insertIdx (findChildIndex keys key) promotedKey =
      slot.leftKeys ++ ([promotedKey] ++ slot.rightKeys) := by
  have h :=
    congrArg (fun ks => ks.insertIdx slot.leftKeys.length promotedKey) slot.keys_eq
  rw [← slot.leftKeys_length]
  exact h.trans (insertIdx_length_append _ _ _)

theorem split_child (slot : ChildSlot depth low high keys children held key)
    (left right : BPlusTreeNode) :
    (children.set (findChildIndex keys key) left).insertIdx
        (findChildIndex keys key + 1) right =
      slot.leftChildren ++ ([left, right] ++ slot.rightChildren) := by
  rw [slot.set_child, ← slot.leftChildren_length]
  have h :=
    insertIdx_length_append (slot.leftChildren ++ [left]) slot.rightChildren right
  simpa using h

theorem holds_split (slot : ChildSlot depth low high keys children held key)
    {promotedKey : Int} {left right : BPlusTreeNode}
    {leftHeld rightHeld : List (Int × Int)}
    (hinside : Inside slot.slotLow slot.slotHigh promotedKey)
    (hleft : NodeHolds depth slot.slotLow (some promotedKey) left leftHeld)
    (hright : NodeHolds depth (some promotedKey) slot.slotHigh right rightHeld) :
    ChildrenHold depth low high
      (keys.insertIdx (findChildIndex keys key) promotedKey)
      ((children.set (findChildIndex keys key) left).insertIdx
        (findChildIndex keys key + 1) right)
      (slot.before ++ ((leftHeld ++ rightHeld) ++ slot.after)) := by
  rw [slot.insert_key, slot.split_child]
  exact slot.refill [promotedKey] [left, right] (leftHeld ++ rightHeld)
    (ChildrenHold.cons hleft hinside (ChildrenHold.last hright))

end ChildSlot

theorem insertIntoInternal_outcome
    (slot : ChildSlot depth low high keys children held key) (value : Int)
    (heap : NodeHeap) {inserted : BPlusTreeNode × InsertState × NodeHeap}
    (hinserted :
      InsertOutcome depth slot.slotLow slot.slotHigh slot.child slot.inner key
        value heap inserted) :
    InsertOutcome (depth + 1) low high (.internal keys children) held key value
      heap
      (insertIntoInternal keys children (findChildIndex keys key) inserted) := by
  rcases inserted with ⟨child, state, left⟩
  cases state with
  | failed message =>
      rcases hinserted with ⟨hbound, hsame, hheap⟩ | hmemory
      · refine Or.inl ⟨slot.bound_iff.mpr hbound, ?_, hheap⟩
        rw [hsame, slot.set_child_self]
      · exact Or.inr hmemory
  | done =>
      rcases hinserted with ⟨habsent, hholds⟩
      refine ⟨mt slot.bound_iff.mp habsent, ?_⟩
      rw [slot.insertKey_eq]
      exact NodeHolds.internal (slot.holds_set hholds)
  | split promotedKey right =>
      rcases hinserted with
        ⟨habsent, hinside, leftHeld, rightHeld, hjoin, hleft, hright⟩
      have habsent' := mt slot.bound_iff.mp habsent
      have hchildren := slot.holds_split hinside hleft hright
      rw [hjoin, ← slot.insertKey_eq] at hchildren
      unfold insertIntoInternal
      simp only
      generalize keys.insertIdx (findChildIndex keys key) promotedKey = newKeys
        at hchildren ⊢
      by_cases hfits : newKeys.length ≤ bptreeMaxKeys
      · rw [if_pos hfits]
        exact ⟨habsent', NodeHolds.internal hchildren⟩
      · rw [if_neg hfits]
        cases hcreate : createNode left with
        | mk created rest =>
            cases created with
            | none =>
                have hfail := createNode_fails hcreate
                simp only
                exact Or.inr (by rw [hfail.2]; exact hfail.1)
            | some address =>
                have hmid : newKeys.length / 2 < newKeys.length := by
                  have : bptreeMaxKeys < newKeys.length := not_le.mp hfits
                  omega
                rcases childrenHold_cut (newKeys.length / 2) hchildren hmid with
                  ⟨hmidInside, leftPart, rightPart, hparts, hleftPart,
                    hrightPart⟩
                exact
                  ⟨habsent', hmidInside, leftPart, rightPart, hparts,
                    NodeHolds.internal hleftPart,
                    NodeHolds.internal hrightPart⟩

end Internal

theorem insertIntoNode_outcome :
    forall (depth : Nat) {low high : Option Int} {node : BPlusTreeNode}
      {held : List (Int × Int)} {key : Int},
      NodeHolds depth low high node held -> InRange low high key ->
        forall (value : Int) (heap : NodeHeap),
          InsertOutcome depth low high node held key value heap
            (insertIntoNode key value node heap) := by
  intro depth
  induction depth with
  | zero =>
      intro low high node held key h hkey value heap
      cases h with
      | leaf hsorted hrange =>
          rw [insertIntoNode]
          exact insertIntoLeaf_outcome hsorted hrange hkey value heap
  | succ depth ih =>
      intro low high node held key h hkey value heap
      cases h with
      | internal hchildren =>
          rcases childSlot_exists hchildren hkey with ⟨slot⟩
          rw [insertIntoNode, slot.insertIntoChild_eq]
          exact
            insertIntoInternal_outcome slot value heap
              (ih slot.child_holds slot.key_inRange value heap)

/-!
## The public handle
-/

def TreeHolds (tree : BPlusTree) (held : List (Int × Int)) : Prop :=
  match tree.root with
  | none => held = []
  | some root => exists depth, NodeHolds depth none none root held

theorem treeHolds_init : TreeHolds bptreeInit [] := rfl

theorem treeHolds_sorted {tree : BPlusTree} {held : List (Int × Int)}
    (h : TreeHolds tree held) : KeyedList.Sorted held := by
  unfold TreeHolds at h
  split at h
  · rw [h]
    exact List.Pairwise.nil
  · rcases h with ⟨depth, hroot⟩
    exact nodeHolds_sorted depth hroot

theorem bptreeSearch_eq_lookup {tree : BPlusTree} {held : List (Int × Int)}
    (h : TreeHolds tree held) (key : Int) :
    bptreeSearch tree key = held.lookup key := by
  unfold TreeHolds at h
  unfold bptreeSearch
  cases hroot : tree.root with
  | none =>
      simp only [hroot] at h
      rw [h]
      rfl
  | some root =>
      simp only [hroot] at h
      rcases h with ⟨depth, hholds⟩
      exact searchNode_eq_lookup depth hholds (inRange_none key)

theorem bptreeInsert_outcome {tree : BPlusTree} {held : List (Int × Int)}
    (h : TreeHolds tree held) (key value : Int) (available : Option Nat) :
    ((bptreeInsert tree key value available).Ok ∧
        ¬ KeyedList.Bound held key ∧
        TreeHolds (bptreeInsert tree key value available).tree
          (KeyedList.insertKey key value held)) ∨
      (¬ (bptreeInsert tree key value available).Ok ∧
        KeyedList.Bound held key ∧
        (bptreeInsert tree key value available).tree = tree) ∨
      (¬ (bptreeInsert tree key value available).Ok ∧
        (bptreeInsert tree key value available).available = some 0) := by
  cases tree with
  | mk root created =>
  cases root with
  | none =>
      have hnil : held = [] := h
      subst hnil
      cases hcreate : createNode { created := created, available := available }
        with
      | mk address left =>
          cases address with
          | none =>
              have hfail := createNode_fails hcreate
              refine Or.inr (Or.inr ?_)
              simp [bptreeInsert, hcreate, BPlusTreeInsert.Ok, hfail.2]
              exact hfail.1
          | some address =>
              refine Or.inl ?_
              simp only [bptreeInsert, hcreate, BPlusTreeInsert.Ok, true_and]
              refine ⟨by simp [KeyedList.Bound], 0, ?_⟩
              refine NodeHolds.leaf (List.pairwise_singleton _ _) ?_
              intro e _
              exact inRange_none e.1
  | some root =>
      rcases h with ⟨depth, hholds⟩
      have houtcome :=
        insertIntoNode_outcome depth hholds (inRange_none key) value
          { created := created, available := available }
      cases hinsert :
          insertIntoNode key value root
            { created := created, available := available } with
      | mk after rest =>
      cases rest with
      | mk state left =>
      rw [hinsert] at houtcome
      cases state with
      | failed message =>
          rcases houtcome with ⟨hbound, hsame, hheap⟩ | hmemory
          · refine Or.inr (Or.inl ?_)
            simp [bptreeInsert, hinsert, BPlusTreeInsert.Ok, hsame, hheap,
              hbound]
          · refine Or.inr (Or.inr ?_)
            simp [bptreeInsert, hinsert, BPlusTreeInsert.Ok, hmemory]
      | done =>
          refine Or.inl ?_
          simp only [bptreeInsert, hinsert, BPlusTreeInsert.Ok, true_and]
          exact ⟨houtcome.1, depth, houtcome.2⟩
      | split promotedKey right =>
          rcases houtcome with
            ⟨habsent, hinside, leftHeld, rightHeld, hjoin, hleft, hright⟩
          cases hcreate : createNode left with
          | mk address rest =>
              cases address with
              | none =>
                  have hfail := createNode_fails hcreate
                  refine Or.inr (Or.inr ?_)
                  simp [bptreeInsert, hinsert, hcreate, BPlusTreeInsert.Ok,
                    hfail.2]
                  exact hfail.1
              | some address =>
                  refine Or.inl ?_
                  simp only [bptreeInsert, hinsert, hcreate,
                    BPlusTreeInsert.Ok, true_and]
                  refine ⟨habsent, depth + 1, NodeHolds.internal ?_⟩
                  rw [← hjoin]
                  exact
                    ChildrenHold.cons hleft hinside (ChildrenHold.last hright)

theorem bptreeInsert_available_none (tree : BPlusTree) (key value : Int) :
    (bptreeInsert tree key value none).available = none := by
  cases tree with
  | mk root created =>
  cases root with
  | none => rfl
  | some root =>
      have hnone :=
        insertIntoNode_available_none key value root
          { created := created, available := none } rfl
      cases hinsert :
          insertIntoNode key value root
            { created := created, available := none } with
      | mk after rest =>
      cases rest with
      | mk state left =>
      rw [hinsert] at hnone
      cases state with
      | failed message => simpa [bptreeInsert, hinsert] using hnone
      | done => simpa [bptreeInsert, hinsert] using hnone
      | split promotedKey right =>
          simp [bptreeInsert, hinsert, createNode_unlimited left hnone]

theorem bptreeInsert_unlimited_outcome {tree : BPlusTree}
    {held : List (Int × Int)} (h : TreeHolds tree held) (key value : Int) :
    ((bptreeInsert tree key value none).Ok ∧
        ¬ KeyedList.Bound held key ∧
        TreeHolds (bptreeInsert tree key value none).tree
          (KeyedList.insertKey key value held)) ∨
      (¬ (bptreeInsert tree key value none).Ok ∧
        KeyedList.Bound held key ∧
        (bptreeInsert tree key value none).tree = tree) := by
  rcases bptreeInsert_outcome h key value none with hok | hbound | hmemory
  · exact Or.inl hok
  · exact Or.inr hbound
  · rw [bptreeInsert_available_none] at hmemory
    cases hmemory.2

theorem bptreeInsert_ok_unlimited {tree : BPlusTree} {key value : Int}
    {available : Option Nat} (hok : (bptreeInsert tree key value available).Ok) :
    (bptreeInsert tree key value none).Ok ∧
      (bptreeInsert tree key value none).tree =
        (bptreeInsert tree key value available).tree := by
  cases tree with
  | mk root created =>
  cases root with
  | none =>
      cases hcreate : createNode { created := created, available := available }
        with
      | mk address left =>
          cases address with
          | none => simp [bptreeInsert, hcreate, BPlusTreeInsert.Ok] at hok
          | some address =>
              have hunlimited := createNode_some hcreate
              simp only [NodeHeap.unlimited] at hunlimited
              simp [bptreeInsert, hcreate, hunlimited, BPlusTreeInsert.Ok]
  | some root =>
      have hagrees :=
        insertIntoNode_unlimited key value root
          { created := created, available := available }
      simp only [NodeHeap.unlimited] at hagrees
      cases hinsert :
          insertIntoNode key value root
            { created := created, available := available } with
      | mk after rest =>
      cases rest with
      | mk state left =>
      rw [hinsert] at hagrees
      cases state with
      | failed message =>
          simp [bptreeInsert, hinsert, BPlusTreeInsert.Ok] at hok
      | done =>
          have hunlimited := hagrees (by simp)
          simp [bptreeInsert, hinsert, hunlimited, BPlusTreeInsert.Ok,
            NodeHeap.unlimited]
      | split promotedKey right =>
          have hunlimited := hagrees (by simp)
          cases hcreate : createNode left with
          | mk address rest =>
              cases address with
              | none =>
                  simp [bptreeInsert, hinsert, hcreate, BPlusTreeInsert.Ok]
                    at hok
              | some address =>
                  have hgrown := createNode_some hcreate
                  simp only [NodeHeap.unlimited] at hgrown
                  simp [bptreeInsert, hinsert, hunlimited, hcreate, hgrown,
                    BPlusTreeInsert.Ok, NodeHeap.unlimited]

/-!
## Runs of inserts
-/

/-- The tree after a sequence of inserts, failed ones included. -/
def bptreeInsertAll (tree : BPlusTree) (inserts : List (Int × Int)) :
    BPlusTree :=
  inserts.foldl (fun tree e => (bptreeInsert tree e.1 e.2 none).tree) tree

theorem bptreeInsertAll_append (tree : BPlusTree)
    (inserts : List (Int × Int)) (e : Int × Int) :
    bptreeInsertAll tree (inserts ++ [e]) =
      (bptreeInsert (bptreeInsertAll tree inserts) e.1 e.2 none).tree := by
  simp [bptreeInsertAll]

theorem lookup_append_singleton (inserts : List (Int × Int)) (e : Int × Int)
    (key : Int) :
    (inserts ++ [e]).lookup key =
      (inserts.lookup key).or (if key = e.1 then some e.2 else none) := by
  rw [List.lookup_append, List.lookup_cons, List.lookup_nil]
  by_cases hkey : key = e.1
  · simp [hkey]
  · have hbeq : (key == e.1) = false := by simpa using hkey
    simp [hkey, hbeq]

theorem bptreeInsertAll_holds (inserts : List (Int × Int)) :
    exists held : List (Int × Int),
      TreeHolds (bptreeInsertAll bptreeInit inserts) held ∧
        forall key, held.lookup key = inserts.lookup key := by
  induction inserts using List.reverseRecOn with
  | nil => exact ⟨[], treeHolds_init, fun _ => rfl⟩
  | append_singleton inserts e ih =>
      rcases ih with ⟨held, hholds, hlookup⟩
      rw [bptreeInsertAll_append]
      rcases bptreeInsert_unlimited_outcome hholds e.1 e.2 with
        ⟨_, habsent, hafter⟩ | ⟨_, hbound, hsame⟩
      · refine ⟨_, hafter, ?_⟩
        intro key
        rw [KeyedList.lookup_insertKey (treeHolds_sorted hholds) habsent,
          lookup_append_singleton, ← hlookup]
        by_cases hkey : key = e.1
        · have hnone := KeyedList.lookup_eq_none_iff_not_bound.mpr habsent
          rw [if_pos hkey, if_pos hkey, hkey, hnone, Option.none_or]
        · rw [if_neg hkey, if_neg hkey, Option.or_none]
      · refine ⟨held, by rw [hsame]; exact hholds, ?_⟩
        intro key
        rw [lookup_append_singleton, ← hlookup]
        by_cases hkey : key = e.1
        · cases hfound : held.lookup key with
          | none =>
              have habsent :=
                KeyedList.lookup_eq_none_iff_not_bound.mp hfound
              exact absurd (hkey ▸ hbound) habsent
          | some value => rfl
        · rw [if_neg hkey, Option.or_none]

theorem not_mem_keys_iff_lookup {inserts : List (Int × Int)} {key : Int} :
    key ∉ inserts.map Prod.fst <-> inserts.lookup key = none := by
  rw [KeyedList.lookup_eq_none_iff_not_bound]
  simp [KeyedList.Bound]

/-- A tree grown from empty is the finite map of the first insertions. -/
theorem bptree_is_finite_map (inserts : List (Int × Int)) :
    (forall key value : Int,
      ((bptreeInsert (bptreeInsertAll bptreeInit inserts) key value none).Ok <->
          key ∉ inserts.map Prod.fst) ∧
        (key ∈ inserts.map Prod.fst ->
          (bptreeInsert (bptreeInsertAll bptreeInit inserts) key value
              none).tree =
            bptreeInsertAll bptreeInit inserts)) ∧
      forall key : Int,
        bptreeSearch (bptreeInsertAll bptreeInit inserts) key =
          inserts.lookup key := by
  rcases bptreeInsertAll_holds inserts with ⟨held, hholds, hlookup⟩
  have hbound : forall key : Int,
      KeyedList.Bound held key <-> key ∈ inserts.map Prod.fst := by
    intro key
    rw [← not_iff_not, ← KeyedList.lookup_eq_none_iff_not_bound, hlookup,
      not_mem_keys_iff_lookup]
  constructor
  · intro key value
    rcases bptreeInsert_unlimited_outcome hholds key value with
      ⟨hok, habsent, _⟩ | ⟨hfailed, hpresent, hsame⟩
    · have hnew : key ∉ inserts.map Prod.fst := mt (hbound key).mpr habsent
      exact ⟨iff_of_true hok hnew, fun hmem => absurd hmem hnew⟩
    · have hold : key ∈ inserts.map Prod.fst := (hbound key).mp hpresent
      exact ⟨iff_of_false hfailed (fun hnew => hnew hold), fun _ => hsame⟩
  · intro key
    rw [bptreeSearch_eq_lookup hholds, hlookup]

end Index
end SqlCsvServer
