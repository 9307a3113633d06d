import SqlCsvServer.Index.BPlusTreeMap

/-!
# The shape of a B+ tree

How full the nodes are and how the leaves are linked: what an insert keeps of both, at
every node it passes on its way.
-/

namespace SqlCsvServer
namespace Index

open Foundation

/-!
## Inserting at a node
-/

theorem insertIntoNode_rule {key value : Int}
    {motive : Nat -> BPlusTreeNode -> NodeHeap ->
      BPlusTreeNode × InsertState × NodeHeap -> Prop}
    (leaf : forall (address : Nat) (entries : List (Int × Int)) (next : Option Nat)
      (heap : NodeHeap), KeyedList.Sorted entries -> heap.available = none ->
        motive 0 (.leaf address entries next) heap
          (insertIntoLeaf address entries next key value heap))
    (internal : forall {depth : Nat} {low high : Option Int} {keys : List Int}
      {children : List BPlusTreeNode} {held : List (Int × Int)}
      (slot : ChildSlot depth low high keys children held key) (heap : NodeHeap),
        heap.available = none ->
        motive depth slot.child heap (insertIntoNode key value slot.child heap) ->
          motive (depth + 1) (.internal keys children) heap
            (insertIntoInternal keys children (findChildIndex keys key)
              (insertIntoNode key value slot.child heap))) :
    forall (depth : Nat) {low high : Option Int} {node : BPlusTreeNode}
      {held : List (Int × Int)} {heap : NodeHeap},
      NodeHolds depth low high node held -> InRange low high key ->
      heap.available = none ->
        motive depth node heap (insertIntoNode key value node heap) := by
  intro depth
  induction depth with
  | zero =>
      intro low high node held heap h hkey havailable
      cases h with
      | leaf hsorted hrange =>
          rw [insertIntoNode]
          exact leaf _ _ _ heap hsorted havailable
  | succ depth ih =>
      intro low high node held heap h hkey havailable
      cases h with
      | internal hchildren =>
          rcases childSlot_exists hchildren hkey with ⟨slot⟩
          rw [insertIntoNode, slot.insertIntoChild_eq]
          exact internal slot heap havailable
            (ih slot.child_holds slot.key_inRange havailable)

/-!
## Fill
-/

inductive NodeFilled : Nat -> BPlusTreeNode -> Prop where
  | leaf {least address : Nat} {entries : List (Int × Int)} {next : Option Nat} :
      least ≤ entries.length -> entries.length ≤ bptreeMaxKeys ->
      NodeFilled least (.leaf address entries next)
  | internal {least : Nat} {keys : List Int} {children : List BPlusTreeNode} :
      1 ≤ keys.length -> keys.length ≤ bptreeMaxKeys ->
      (forall child, child ∈ children -> NodeFilled 2 child) ->
      NodeFilled least (.internal keys children)

theorem NodeFilled.mono {least more : Nat} {node : BPlusTreeNode}
    (h : NodeFilled more node) (hle : least ≤ more) : NodeFilled least node := by
  cases h with
  | leaf hmin hmax => exact NodeFilled.leaf (Nat.le_trans hle hmin) hmax
  | internal hmin hmax hchildren => exact NodeFilled.internal hmin hmax hchildren

def FilledOutcome (least : Nat) : BPlusTreeNode × InsertState × NodeHeap -> Prop
  | (after, .split _ right, _) => NodeFilled 2 after ∧ NodeFilled 2 right
  | (after, _, _) => NodeFilled least after

theorem leafInsertIndex_le (entries : List (Int × Int)) (key : Int) :
    leafInsertIndex entries key ≤ entries.length := by
  rw [leafInsertIndex_eq_length]
  exact (List.takeWhile_sublist _).length_le

theorem findChildIndex_le (keys : List Int) (key : Int) :
    findChildIndex keys key ≤ keys.length := by
  induction keys with
  | nil => exact Nat.le_refl _
  | cons separator keys ih =>
      rw [findChildIndex]
      split
      · exact Nat.succ_le_succ ih
      · exact Nat.zero_le _

theorem insertIntoLeaf_filled {least address : Nat} {entries : List (Int × Int)}
    {next : Option Nat} {key value : Int} {heap : NodeHeap}
    (havailable : heap.available = none)
    (h : NodeFilled least (.leaf address entries next)) :
    FilledOutcome least (insertIntoLeaf address entries next key value heap) := by
  cases h with
  | leaf hmin hmax =>
      have hlength := List.length_insertIdx_of_le_length
        (leafInsertIndex_le entries key) (key, value)
      simp only [insertIntoLeaf, createNode_unlimited heap havailable]
      split
      · exact NodeFilled.leaf hmin hmax
      · split
        · next hfits => exact NodeFilled.leaf (by omega) hfits
        · next hover =>
            unfold bptreeMaxKeys at hmax hover
            constructor
            · refine NodeFilled.leaf ?_ ?_
              · rw [List.length_take]
                omega
              · rw [List.length_take]
                unfold bptreeMaxKeys
                omega
            · refine NodeFilled.leaf ?_ ?_
              · rw [List.length_drop]
                omega
              · rw [List.length_drop]
                unfold bptreeMaxKeys
                omega

section Internal

variable {depth : Nat} {low high : Option Int} {keys : List Int}
  {children : List BPlusTreeNode} {held : List (Int × Int)} {key value : Int}

namespace ChildSlot

theorem child_mem (slot : ChildSlot depth low high keys children held key) :
    slot.child ∈ children := by
  have hmem : slot.child ∈ slot.leftChildren ++ slot.child :: slot.rightChildren :=
    List.mem_append_right _ List.mem_cons_self
  exact (congrArg (slot.child ∈ ·) slot.children_eq).mpr hmem

theorem mem_around (slot : ChildSlot depth low high keys children held key)
    {inner : List BPlusTreeNode} {node : BPlusTreeNode}
    (h : node ∈ slot.leftChildren ++ (inner ++ slot.rightChildren)) :
    node ∈ inner ∨ node ∈ children := by
  rcases List.mem_append.mp h with hleft | h
  · exact Or.inr (slot.children_eq.symm ▸ List.mem_append_left _ hleft)
  · rcases List.mem_append.mp h with hinner | hright
    · exact Or.inl hinner
    · refine Or.inr (slot.children_eq.symm ▸ List.mem_append_right _ ?_)
      exact List.mem_cons_of_mem _ hright

end ChildSlot

theorem insertIntoInternal_filled {least : Nat}
    {inserted : BPlusTreeNode × InsertState × NodeHeap}
    (slot : ChildSlot depth low high keys children held key)
    (havailable : inserted.2.2.available = none)
    (hinserted : FilledOutcome 2 inserted)
    (h : NodeFilled least (.internal keys children)) :
    FilledOutcome least
      (insertIntoInternal keys children (findChildIndex keys key) inserted) := by
  cases h with
  | internal hmin hmax hchildren =>
      have hset : forall {child : BPlusTreeNode}, NodeFilled 2 child ->
          NodeFilled least
            (.internal keys (children.set (findChildIndex keys key) child)) := by
        intro child hchild
        refine NodeFilled.internal hmin hmax ?_
        rw [slot.set_child]
        intro node hnode
        have haround : node ∈ slot.leftChildren ++ ([child] ++ slot.rightChildren) := hnode
        rcases slot.mem_around haround with hnode | hnode
        · rwa [List.mem_singleton.mp hnode]
        · exact hchildren node hnode
      rcases inserted with ⟨child, state, left⟩
      cases state with
      | failed message => exact hset hinserted
      | done => exact hset hinserted
      | split promotedKey right =>
          rcases hinserted with ⟨hchild, hright⟩
          have hlength := List.length_insertIdx_of_le_length
            (findChildIndex_le keys key) promotedKey
          have hall : forall node,
              node ∈ (children.set (findChildIndex keys key) child).insertIdx
                (findChildIndex keys key + 1) right -> NodeFilled 2 node := by
            rw [slot.split_child]
            intro node hnode
            rcases slot.mem_around hnode with hnode | hnode
            · rcases List.mem_cons.mp hnode with rfl | hnode
              · exact hchild
              · rwa [List.mem_singleton.mp hnode]
            · exact hchildren node hnode
          simp only [insertIntoInternal, createNode_unlimited left havailable]
          split
          · next hfits => exact NodeFilled.internal (by omega) hfits hall
          · next hover =>
              unfold bptreeMaxKeys at hmax hover
              constructor
              · refine NodeFilled.internal ?_ ?_ ?_
                · rw [List.length_take]
                  omega
                · rw [List.length_take]
                  unfold bptreeMaxKeys
                  omega
                · exact fun node hnode => hall node (List.mem_of_mem_take hnode)
              · refine NodeFilled.internal ?_ ?_ ?_
                · rw [List.length_drop]
                  omega
                · rw [List.length_drop]
                  unfold bptreeMaxKeys
                  omega
                · exact fun node hnode => hall node (List.mem_of_mem_drop hnode)

end Internal

theorem insertIntoNode_filled {depth least : Nat} {low high : Option Int}
    {node : BPlusTreeNode} {held : List (Int × Int)} {key value : Int} {heap : NodeHeap}
    (hholds : NodeHolds depth low high node held) (hkey : InRange low high key)
    (havailable : heap.available = none) (h : NodeFilled least node) :
    FilledOutcome least (insertIntoNode key value node heap) := by
  refine insertIntoNode_rule (motive := fun _ node _ inserted =>
    forall least, NodeFilled least node -> FilledOutcome least inserted)
    ?_ ?_ depth hholds hkey havailable least h
  · intro address entries next heap _ havailable least h
    exact insertIntoLeaf_filled havailable h
  · intro depth low high keys children held slot heap havailable hchild least h
    refine insertIntoInternal_filled slot ?_ (hchild 2 ?_) h
    · exact insertIntoNode_available_none key value slot.child heap havailable
    · cases h with
      | internal _ _ hchildren => exact hchildren _ slot.child_mem

/-!
## The chain of leaves
-/

mutual

def leafLinks : BPlusTreeNode -> List (Nat × Option Nat)
  | .leaf address _ next => [(address, next)]
  | .internal _ children => leafLinksOf children

def leafLinksOf : List BPlusTreeNode -> List (Nat × Option Nat)
  | [] => []
  | child :: children => leafLinks child ++ leafLinksOf children

end

def Chained : Option Nat -> List (Nat × Option Nat) -> Option Nat -> Prop
  | first, [], last => first = last
  | first, link :: links, last => first = some link.1 ∧ Chained link.2 links last

theorem chained_append {front back : List (Nat × Option Nat)} {last : Option Nat} :
    forall {first : Option Nat}, Chained first (front ++ back) last <->
      exists middle, Chained first front middle ∧ Chained middle back last := by
  induction front with
  | nil =>
      intro first
      constructor
      · exact fun h => ⟨first, rfl, h⟩
      · rintro ⟨middle, rfl, h⟩
        exact h
  | cons link front ih =>
      intro first
      rw [List.cons_append]
      constructor
      · rintro ⟨hfirst, hrest⟩
        rcases ih.mp hrest with ⟨middle, hfront, hback⟩
        exact ⟨middle, ⟨hfirst, hfront⟩, hback⟩
      · rintro ⟨middle, ⟨hfirst, hfront⟩, hback⟩
        exact ⟨hfirst, ih.mpr ⟨middle, hfront, hback⟩⟩

theorem leafLinksOf_append (left right : List BPlusTreeNode) :
    leafLinksOf (left ++ right) = leafLinksOf left ++ leafLinksOf right := by
  induction left with
  | nil => rfl
  | cons child left ih => rw [List.cons_append, leafLinksOf, leafLinksOf, ih, List.append_assoc]

def resultNodes : BPlusTreeNode × InsertState × NodeHeap -> List BPlusTreeNode
  | (after, .split _ right, _) => [after, right]
  | (after, _, _) => [after]

def KeepsChain (before : BPlusTreeNode)
    (inserted : BPlusTreeNode × InsertState × NodeHeap) : Prop :=
  forall first last, Chained first (leafLinks before) last ->
    Chained first (leafLinksOf (resultNodes inserted)) last

theorem insertIntoLeaf_chained {address : Nat} {entries : List (Int × Int)}
    {next : Option Nat} {key value : Int} {heap : NodeHeap}
    (havailable : heap.available = none) :
    KeepsChain (.leaf address entries next)
      (insertIntoLeaf address entries next key value heap) := by
  rintro first last ⟨hfirst, hlast⟩
  simp only [insertIntoLeaf, createNode_unlimited heap havailable]
  split
  · exact ⟨hfirst, hlast⟩
  · split
    · exact ⟨hfirst, hlast⟩
    · exact ⟨hfirst, rfl, hlast⟩

theorem leafLinksOf_internal (keys : List Int) (children more : List BPlusTreeNode) :
    leafLinksOf (.internal keys children :: more) =
      leafLinksOf children ++ leafLinksOf more := by
  rw [leafLinksOf, leafLinks]

theorem leafLinksOf_children {slotChildren children : List BPlusTreeNode}
    {left right : List BPlusTreeNode} (h : children = left ++ (slotChildren ++ right)) :
    leafLinksOf children =
      leafLinksOf left ++ (leafLinksOf slotChildren ++ leafLinksOf right) := by
  rw [h, leafLinksOf_append, leafLinksOf_append]

theorem insertIntoInternal_chained {depth : Nat} {low high : Option Int}
    {keys : List Int} {children : List BPlusTreeNode} {held : List (Int × Int)} {key : Int}
    {inserted : BPlusTreeNode × InsertState × NodeHeap}
    (slot : ChildSlot depth low high keys children held key)
    (havailable : inserted.2.2.available = none)
    (hinserted : KeepsChain slot.child inserted) :
    KeepsChain (.internal keys children)
      (insertIntoInternal keys children (findChildIndex keys key) inserted) := by
  intro first last hchain
  have hbefore : leafLinks (.internal keys children) =
      leafLinksOf slot.leftChildren ++
        (leafLinks slot.child ++ leafLinksOf slot.rightChildren) := by
    have hchildren : children = slot.leftChildren ++ ([slot.child] ++ slot.rightChildren) :=
      slot.children_eq
    rw [leafLinks, leafLinksOf_children hchildren, leafLinksOf, leafLinksOf, List.append_nil]
  rw [hbefore] at hchain
  rcases chained_append.mp hchain with ⟨enter, hleft, hchain⟩
  rcases chained_append.mp hchain with ⟨leave, hchild, hright⟩
  have hafter := chained_append.mpr ⟨enter, hleft,
    chained_append.mpr ⟨leave, hinserted _ _ hchild, hright⟩⟩
  have hset : forall child,
      leafLinksOf [.internal keys (children.set (findChildIndex keys key) child)] =
        leafLinksOf slot.leftChildren ++
          (leafLinksOf [child] ++ leafLinksOf slot.rightChildren) := by
    intro child
    have hchildren : children.set (findChildIndex keys key) child =
        slot.leftChildren ++ ([child] ++ slot.rightChildren) :=
      slot.set_child child
    rw [leafLinksOf_internal, leafLinksOf, List.append_nil, leafLinksOf_children hchildren]
  rcases inserted with ⟨child, state, left⟩
  cases state with
  | failed message => exact (hset child).symm ▸ hafter
  | done => exact (hset child).symm ▸ hafter
  | split promotedKey right =>
      have hsplit := leafLinksOf_children (slot.split_child child right)
      rw [resultNodes, ← hsplit] at hafter
      simp only [insertIntoInternal, createNode_unlimited left havailable]
      generalize (children.set (findChildIndex keys key) child).insertIdx
        (findChildIndex keys key + 1) right = filled at hafter ⊢
      generalize keys.insertIdx (findChildIndex keys key) promotedKey = newKeys
      split
      · change Chained first (leafLinksOf [.internal newKeys filled]) last
        rwa [leafLinksOf_internal, leafLinksOf, List.append_nil]
      · change Chained first (leafLinksOf [.internal _ _, .internal _ _]) last
        rwa [leafLinksOf_internal, leafLinksOf_internal, leafLinksOf, List.append_nil,
          ← leafLinksOf_append, List.take_append_drop]

theorem insertIntoNode_chained {depth : Nat} {low high : Option Int}
    {node : BPlusTreeNode} {held : List (Int × Int)} {key value : Int} {heap : NodeHeap}
    (hholds : NodeHolds depth low high node held) (hkey : InRange low high key)
    (havailable : heap.available = none) :
    KeepsChain node (insertIntoNode key value node heap) := by
  refine insertIntoNode_rule (motive := fun _ node _ inserted => KeepsChain node inserted)
    ?_ ?_ depth hholds hkey havailable
  · intro address entries next heap _ havailable
    exact insertIntoLeaf_chained havailable
  · intro depth low high keys children held slot heap havailable hchild
    exact insertIntoInternal_chained slot
      (insertIntoNode_available_none key value slot.child heap havailable) hchild

/-!
## The public handle
-/

def TreeFilled (tree : BPlusTree) : Prop :=
  forall root, root ∈ tree.root -> NodeFilled 1 root

def TreeChained (tree : BPlusTree) : Prop :=
  forall root, root ∈ tree.root -> exists first, Chained first (leafLinks root) none

theorem bptreeInsert_root {root : BPlusTreeNode} {created : Nat} {key value : Int}
    {property : BPlusTreeNode -> Prop}
    (hone : forall after state left,
      insertIntoNode key value root { created := created, available := none } =
          (after, state, left) ->
        (forall promotedKey right, state ≠ .split promotedKey right) -> property after)
    (htwo : forall after promotedKey right left,
      insertIntoNode key value root { created := created, available := none } =
          (after, .split promotedKey right, left) ->
        property (.internal [promotedKey] [after, right])) :
    forall node,
      node ∈ (bptreeInsert { root := some root, created := created } key value
        none).tree.root -> property node := by
  intro node hnode
  have havailable := @insertIntoNode_available_none key value root
    { created := created, available := none } rfl
  rcases hinsert : insertIntoNode key value root
    { created := created, available := none } with ⟨after, state, left⟩
  rw [hinsert] at havailable
  cases state with
  | failed message =>
      simp only [bptreeInsert, hinsert, Option.mem_some_iff] at hnode
      rw [← hnode]
      exact hone _ _ _ hinsert (by simp)
  | done =>
      simp only [bptreeInsert, hinsert, Option.mem_some_iff] at hnode
      rw [← hnode]
      exact hone _ _ _ hinsert (by simp)
  | split promotedKey right =>
      simp only [bptreeInsert, hinsert, createNode_unlimited left havailable,
        Option.mem_some_iff] at hnode
      rw [← hnode]
      exact htwo _ _ _ _ hinsert

theorem filledOutcome_one {least : Nat} {after : BPlusTreeNode} {state : InsertState}
    {left : NodeHeap} (h : FilledOutcome least (after, state, left))
    (hone : forall promotedKey right, state ≠ .split promotedKey right) :
    NodeFilled least after := by
  cases state with
  | failed message => exact h
  | done => exact h
  | split promotedKey right => exact absurd rfl (hone promotedKey right)

theorem resultNodes_one {after : BPlusTreeNode} {state : InsertState} {left : NodeHeap}
    (hone : forall promotedKey right, state ≠ .split promotedKey right) :
    resultNodes (after, state, left) = [after] := by
  cases state with
  | failed message => rfl
  | done => rfl
  | split promotedKey right => exact absurd rfl (hone promotedKey right)

theorem one_le_bptreeMaxKeys : 1 ≤ bptreeMaxKeys := by
  decide

theorem bptreeInsert_filled {tree : BPlusTree} {held : List (Int × Int)}
    (hholds : TreeHolds tree held) (h : TreeFilled tree) (key value : Int) :
    TreeFilled (bptreeInsert tree key value none).tree := by
  rcases tree with ⟨root, created⟩
  cases root with
  | none =>
      intro node hnode
      simp only [bptreeInsert, createNode, Option.mem_some_iff] at hnode
      rw [← hnode]
      exact NodeFilled.leaf (Nat.le_refl _) one_le_bptreeMaxKeys
  | some root =>
      rcases hholds with ⟨depth, hholds⟩
      have hinserted := @insertIntoNode_filled depth 1 none none root held key value
        { created := created, available := none } hholds (inRange_none key) rfl (h root rfl)
      apply bptreeInsert_root
      · intro after state left hinsert hone
        rw [hinsert] at hinserted
        exact filledOutcome_one hinserted hone
      · intro after promotedKey right left hinsert
        rw [hinsert] at hinserted
        refine NodeFilled.internal (Nat.le_refl _) one_le_bptreeMaxKeys ?_
        intro child hchild
        rcases List.mem_cons.mp hchild with rfl | hchild
        · exact hinserted.1
        · rw [List.mem_singleton.mp hchild]
          exact hinserted.2

theorem bptreeInsert_chained {tree : BPlusTree} {held : List (Int × Int)}
    (hholds : TreeHolds tree held) (h : TreeChained tree) (key value : Int) :
    TreeChained (bptreeInsert tree key value none).tree := by
  rcases tree with ⟨root, created⟩
  cases root with
  | none =>
      intro node hnode
      simp only [bptreeInsert, createNode, Option.mem_some_iff] at hnode
      rw [← hnode]
      exact ⟨some created, rfl, rfl⟩
  | some root =>
      rcases hholds with ⟨depth, hholds⟩
      rcases h root rfl with ⟨first, hchain⟩
      have hinserted := @insertIntoNode_chained depth none none root held key value
        { created := created, available := none } hholds (inRange_none key) rfl first none
        hchain
      apply bptreeInsert_root
      · intro after state left hinsert hone
        rw [hinsert, resultNodes_one hone, leafLinksOf, leafLinksOf,
          List.append_nil] at hinserted
        exact ⟨first, hinserted⟩
      · intro after promotedKey right left hinsert
        rw [hinsert] at hinserted
        exact ⟨first, by rw [leafLinks]; exact hinserted⟩

end Index
end SqlCsvServer
