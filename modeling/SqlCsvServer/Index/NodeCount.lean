import SqlCsvServer.Index.BPlusTreeShape

/-!
# The nodes of a B+ tree

No insert loses a node: the tree has as many nodes as have been created for it.
-/

namespace SqlCsvServer
namespace Index

open Foundation

mutual

def nodeCount : BPlusTreeNode -> Nat
  | .leaf .. => 1
  | .internal _ children => nodeCountOf children + 1

def nodeCountOf : List BPlusTreeNode -> Nat
  | [] => 0
  | node :: nodes => nodeCount node + nodeCountOf nodes

end

theorem nodeCountOf_append (left right : List BPlusTreeNode) :
    nodeCountOf (left ++ right) = nodeCountOf left + nodeCountOf right := by
  induction left with
  | nil => exact (Nat.zero_add _).symm
  | cons node left ih =>
      rw [List.cons_append, nodeCountOf, nodeCountOf, ih, Nat.add_assoc]

def AddsCreated (before : BPlusTreeNode) (heap : NodeHeap)
    (inserted : BPlusTreeNode × InsertState × NodeHeap) : Prop :=
  nodeCountOf (resultNodes inserted) + heap.created =
    nodeCount before + inserted.2.2.created

theorem insertIntoLeaf_adds {address : Nat} {entries : List (Int × Int)}
    {next : Option Nat} {key value : Int} {heap : NodeHeap}
    (havailable : heap.available = none) :
    AddsCreated (.leaf address entries next) heap
      (insertIntoLeaf address entries next key value heap) := by
  simp only [insertIntoLeaf, createNode_unlimited heap havailable]
  split
  · rfl
  · split
    · rfl
    · simp only [AddsCreated, resultNodes, nodeCountOf, nodeCount]
      omega

theorem insertIntoInternal_adds {depth : Nat} {low high : Option Int} {keys : List Int}
    {children : List BPlusTreeNode} {held : List (Int × Int)} {key : Int}
    {heap : NodeHeap} {inserted : BPlusTreeNode × InsertState × NodeHeap}
    (slot : ChildSlot depth low high keys children held key)
    (havailable : inserted.2.2.available = none)
    (hinserted : AddsCreated slot.child heap inserted) :
    AddsCreated (.internal keys children) heap
      (insertIntoInternal keys children (findChildIndex keys key) inserted) := by
  have hbefore : nodeCountOf children =
      nodeCountOf slot.leftChildren +
        (nodeCount slot.child + nodeCountOf slot.rightChildren) := by
    have hcount := congrArg nodeCountOf slot.children_eq
    rwa [nodeCountOf_append, nodeCountOf] at hcount
  have hset : forall child,
      nodeCountOf (children.set (findChildIndex keys key) child) =
        nodeCountOf slot.leftChildren +
          (nodeCount child + nodeCountOf slot.rightChildren) := by
    intro child
    rw [slot.set_child, nodeCountOf_append, nodeCountOf]
  rcases inserted with ⟨child, state, left⟩
  cases state with
  | failed message =>
      simp only [AddsCreated, resultNodes, insertIntoInternal, nodeCountOf, nodeCount, hset,
        hbefore] at hinserted ⊢
      omega
  | done =>
      simp only [AddsCreated, resultNodes, insertIntoInternal, nodeCountOf, nodeCount, hset,
        hbefore] at hinserted ⊢
      omega
  | split promotedKey right =>
      have hsplit := congrArg nodeCountOf (slot.split_child child right)
      rw [nodeCountOf_append, nodeCountOf_append] at hsplit
      simp only [AddsCreated, resultNodes, nodeCountOf] at hinserted hsplit
      simp only [insertIntoInternal, createNode_unlimited left havailable]
      generalize (children.set (findChildIndex keys key) child).insertIdx
        (findChildIndex keys key + 1) right = filled at hsplit ⊢
      generalize keys.insertIdx (findChildIndex keys key) promotedKey = newKeys
      split
      · simp only [AddsCreated, resultNodes, nodeCountOf, nodeCount, hbefore, hsplit]
        omega
      · -- both halves together have the children of the over-full node
        have hhalves := congrArg nodeCountOf
          (List.take_append_drop (newKeys.length / 2 + 1) filled)
        rw [nodeCountOf_append] at hhalves
        simp only [AddsCreated, resultNodes, nodeCountOf, nodeCount, hbefore]
        omega

theorem insertIntoNode_adds {depth : Nat} {low high : Option Int} {node : BPlusTreeNode}
    {held : List (Int × Int)} {key value : Int} {heap : NodeHeap}
    (hholds : NodeHolds depth low high node held) (hkey : InRange low high key)
    (havailable : heap.available = none) :
    AddsCreated node heap (insertIntoNode key value node heap) := by
  refine insertIntoNode_rule (motive := fun _ node heap inserted =>
    AddsCreated node heap inserted) ?_ ?_ depth hholds hkey havailable
  · intro address entries next heap _ havailable
    exact insertIntoLeaf_adds havailable
  · intro depth low high keys children held slot heap havailable hchild
    exact insertIntoInternal_adds slot
      (insertIntoNode_available_none key value slot.child heap havailable) hchild

def TreeCounted (tree : BPlusTree) : Prop :=
  tree.created = tree.root.elim 0 nodeCount

theorem bptreeInsert_counted {tree : BPlusTree} {held : List (Int × Int)}
    (hholds : TreeHolds tree held) (h : TreeCounted tree) (key value : Int) :
    TreeCounted (bptreeInsert tree key value none).tree := by
  rcases tree with ⟨root, created⟩
  cases root with
  | none =>
      have hnone : created = 0 := h
      subst hnone
      rfl
  | some root =>
      rcases hholds with ⟨depth, hholds⟩
      have hcreated : created = nodeCount root := h
      have hadds := @insertIntoNode_adds depth none none root held key value
        { created := created, available := none } hholds (inRange_none key) rfl
      have havailable := @insertIntoNode_available_none key value root
        { created := created, available := none } rfl
      rcases hinsert : insertIntoNode key value root
        { created := created, available := none } with ⟨after, state, left⟩
      rw [hinsert] at hadds havailable
      have hone : nodeCountOf (resultNodes (after, state, left)) = left.created := by
        unfold AddsCreated at hadds
        simp only [hcreated] at hadds
        omega
      cases state with
      | failed message =>
          simp only [bptreeInsert, hinsert]
          exact hone.symm
      | done =>
          simp only [bptreeInsert, hinsert]
          exact hone.symm
      | split promotedKey right =>
          simp only [bptreeInsert, hinsert, createNode_unlimited left havailable]
          exact congrArg (· + 1) hone.symm

theorem bptreeInsertAll_counted (inserts : List (Int × Int)) :
    forall {tree : BPlusTree} {held : List (Int × Int)},
      TreeHolds tree held -> TreeCounted tree ->
        TreeCounted (bptreeInsertAll tree inserts) := by
  induction inserts with
  | nil => exact fun _ h => h
  | cons insert inserts ih =>
      intro tree held hholds h
      have hnext := bptreeInsert_counted hholds h insert.1 insert.2
      rcases bptreeInsert_unlimited_outcome hholds insert.1 insert.2 with
        ⟨_, _, hmore⟩ | ⟨_, _, hsame⟩
      · exact ih hmore hnext
      · have hkept : TreeHolds (bptreeInsert tree insert.1 insert.2 none).tree held := by
          rw [hsame]
          exact hholds
        exact ih hkept hnext

end Index
end SqlCsvServer
