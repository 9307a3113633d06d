import SqlCsvServer.Index.NodeSimulation

/-!
# The shape of the tree in memory

What can be seen by following pointers: the order of the keys, the depth and the fill of
the nodes, and the chain of the leaves.
-/

namespace SqlCsvServer
namespace Index
namespace InMemory

open Foundation

/-!
## Following pointers
-/

def Node.usedKeys (cells : Node) : List Int :=
  cells.keys.toList.take cells.keyCount

def Node.usedChildren (cells : Node) : List (Option Nat) :=
  cells.children.toList.take (cells.keyCount + 1)

/-- The second pointer is reached from the first one, through so many nodes. -/
inductive Below (memory : Memory) : Nat -> Nat -> Nat -> Prop where
  | self {root : Nat} : Below memory 0 root root
  | child {root index child depth pointer : Nat} {cells : Node} :
      memory.load root = some cells -> cells.isLeaf = false ->
      cells.usedChildren[index]? = some (some child) ->
      Below memory depth child pointer -> Below memory (depth + 1) root pointer

/-- The leaves under a node from left to right. -/
def leafPointers (memory : Memory) : Nat -> Nat -> List Nat
  | 0, _ => []
  | fuel + 1, pointer =>
      match memory.load pointer with
      | none => []
      | some cells =>
          if cells.isLeaf then [pointer]
          else cells.usedChildren.flatMap fun slot => slot.elim [] (leafPointers memory fuel)

def leftmostLeaf (memory : Memory) : Nat -> Nat -> Option Nat
  | 0, _ => none
  | fuel + 1, pointer => do
      let cells ← memory.load pointer
      if cells.isLeaf then
        return pointer
      else
        let slot ← readCell cells.children 0
        leftmostLeaf memory fuel (← slot)

def followNext (memory : Memory) : Nat -> Option Nat -> Option (List Nat)
  | _, none => some []
  | 0, some _ => none
  | fuel + 1, some pointer => do
      let cells ← memory.load pointer
      let more ← followNext memory fuel cells.next
      return pointer :: more

/-- The keys of a node behind a pointer. -/
def keysAt (memory : Memory) (pointer : Nat) : List Int :=
  (memory.load pointer).elim [] Node.usedKeys

/-- The shape of a B+ tree, node by node. -/
structure TreeShape (memory : Memory) (root : Nat) : Prop where
  stored : forall {depth pointer : Nat}, Below memory depth root pointer ->
    exists cells, memory.load pointer = some cells
  increasing : forall {depth pointer : Nat} {cells : Node},
    Below memory depth root pointer -> memory.load pointer = some cells ->
      cells.usedKeys.length = cells.keyCount ∧ cells.usedKeys.Pairwise (· < ·)
  separated : forall {depth pointer index child below other : Nat} {cells inner : Node}
    {key : Int},
    Below memory depth root pointer -> memory.load pointer = some cells ->
    cells.isLeaf = false -> cells.usedChildren[index]? = some (some child) ->
    Below memory below child other -> memory.load other = some inner ->
    key ∈ inner.usedKeys ->
      (forall left, 0 < index -> cells.usedKeys[index - 1]? = some left -> left ≤ key) ∧
        (forall right, cells.usedKeys[index]? = some right -> key < right)
  sameDepth : forall {depth other pointer otherPointer : Nat} {cells otherCells : Node},
    Below memory depth root pointer -> memory.load pointer = some cells ->
    cells.isLeaf = true -> Below memory other root otherPointer ->
    memory.load otherPointer = some otherCells -> otherCells.isLeaf = true ->
      depth = other
  filled : forall {depth pointer : Nat} {cells : Node},
    Below memory depth root pointer -> memory.load pointer = some cells ->
      1 ≤ cells.keyCount ∧ cells.keyCount ≤ bptreeMaxKeys ∧
        (pointer ≠ root -> cells.isLeaf = true -> 2 ≤ cells.keyCount)
  children : forall {depth pointer : Nat} {cells : Node},
    Below memory depth root pointer -> memory.load pointer = some cells ->
    cells.isLeaf = false ->
      exists slots : List Nat, cells.usedChildren = slots.map some ∧
        slots.length = cells.keyCount + 1 ∧ slots.Nodup
  chain : exists first leaves,
    leftmostLeaf memory memory.nodes.length root = some first ∧
      followNext memory memory.nodes.length (some first) = some leaves ∧
      leaves = leafPointers memory memory.nodes.length root ∧ leaves.Nodup ∧
      (forall pointer, pointer ∈ leaves <->
        exists depth cells, Below memory depth root pointer ∧
          memory.load pointer = some cells ∧ cells.isLeaf = true) ∧
      (leaves.flatMap (keysAt memory)).Pairwise (· < ·)

/-!
## The children of a node
-/

theorem LeafCells.usedKeys {cells : Node} {entries : List (Int × Int)}
    {next : Option Nat} (h : LeafCells cells entries next) :
    cells.usedKeys = entries.map Prod.fst := by
  have htake := h.keys.take_eq
  rwa [List.length_map, ← h.keyCount] at htake

theorem InternalCells.usedKeys {cells : Node} {keys : List Int} {slots : List Nat}
    (h : InternalCells cells keys slots) : cells.usedKeys = keys := by
  have htake := h.keys.take_eq
  rwa [← h.keyCount] at htake

theorem InternalCells.usedChildren {cells : Node} {keys : List Int} {slots : List Nat}
    (h : InternalCells cells keys slots) : cells.usedChildren = slots.map some := by
  have htake := h.children.take_eq
  rwa [List.length_map, h.count, ← h.keyCount] at htake

theorem childrenHold_child {depth : Nat} {high : Option Int} {keys : List Int} :
    forall {children : List BPlusTreeNode} {low : Option Int} {held : List (Int × Int)}
      {index : Nat} {child : BPlusTreeNode},
      ChildrenHold depth low high keys children held -> children[index]? = some child ->
        exists childLow childHigh childHeld,
          NodeHolds depth childLow childHigh child childHeld ∧
            forall key, InRange childLow childHigh key -> InRange low high key ∧
              (forall left, 0 < index -> keys[index - 1]? = some left -> left ≤ key) ∧
              (forall right, keys[index]? = some right -> key < right) := by
  induction keys with
  | nil =>
      intro children low held index child h hchild
      cases h with
      | last hnode =>
          cases index with
          | zero =>
              cases hchild
              exact ⟨low, high, held, hnode, fun key hkey => ⟨hkey, by simp, by simp⟩⟩
          | succ index => cases hchild
  | cons separator keys ih =>
      intro children low held index child h hchild
      cases h with
      | cons hnode hseparator hrest =>
          cases index with
          | zero =>
              cases hchild
              refine ⟨low, some separator, _, hnode, ?_⟩
              intro key hkey
              refine ⟨hkey.left hseparator, fun left hpos => absurd hpos (Nat.lt_irrefl _), ?_⟩
              intro right hright
              exact hkey.2 right (Option.mem_some_iff.mpr (Option.some.inj hright))
          | succ index =>
              rcases ih hrest hchild with ⟨childLow, childHigh, childHeld, hholds, hrange⟩
              refine ⟨childLow, childHigh, childHeld, hholds, ?_⟩
              intro key hkey
              rcases hrange key hkey with ⟨hinside, hleft, hright⟩
              refine ⟨hinside.right hseparator, ?_, hright⟩
              intro left _ hat
              cases index with
              | zero => exact hinside.1 left (Option.mem_some_iff.mpr (Option.some.inj hat))
              | succ index => exact hleft left (Nat.zero_lt_succ _) hat

theorem StoredAll.get {memory : Memory} {slots : List Nat} {child index : Nat} :
    forall {nodes : List BPlusTreeNode} {footprint : List Nat},
      StoredAll memory slots nodes footprint -> slots[index]? = some child ->
        exists node inner, nodes[index]? = some node ∧ Stored memory child node inner ∧
          node ∈ nodes ∧ inner.Sublist footprint := by
  induction slots generalizing index with
  | nil => intro nodes footprint _ hchild; cases hchild
  | cons slot slots ih =>
      intro nodes footprint h hchild
      cases h with
      | cons hnode hnodes =>
          cases index with
          | zero =>
              cases hchild
              exact ⟨_, _, rfl, hnode, List.mem_cons_self, List.sublist_append_left _ _⟩
          | succ index =>
              rcases ih hnodes hchild with ⟨node, inner, hget, hstored, hmem, hinner⟩
              exact ⟨node, inner, hget, hstored, List.mem_cons_of_mem _ hmem,
                hinner.trans (List.sublist_append_right _ _)⟩

theorem mem_leafLinksOf {child : BPlusTreeNode} {children : List BPlusTreeNode}
    (h : child ∈ children) : leafLinks child ⊆ leafLinksOf children := by
  induction children with
  | nil => cases h
  | cons other children ih =>
      intro link hlink
      rw [leafLinksOf]
      rcases List.mem_cons.mp h with rfl | h
      · exact List.mem_append_left _ hlink
      · exact List.mem_append_right _ (ih h hlink)

theorem Below.node {memory : Memory} {steps root pointer : Nat}
    (h : Below memory steps root pointer) :
    forall {node : BPlusTreeNode} {footprint : List Nat} {height least : Nat}
      {low high : Option Int} {held : List (Int × Int)},
      Stored memory root node footprint -> NodeHolds height low high node held ->
      NodeFilled least node ->
        exists sub inner subLow subHigh subHeld, steps ≤ height ∧
          Stored memory pointer sub inner ∧ inner.Sublist footprint ∧
          NodeHolds (height - steps) subLow subHigh sub subHeld ∧
          (sub = node ∧ pointer = root ∨ NodeFilled 2 sub) ∧
          (forall key, InRange subLow subHigh key -> InRange low high key) ∧
          leafLinks sub ⊆ leafLinks node := by
  induction h with
  | self =>
      intro node footprint height least low high held hstored hholds hfilled
      exact ⟨node, footprint, low, high, held, Nat.zero_le _, hstored, List.Sublist.refl _, hholds,
        Or.inl ⟨rfl, rfl⟩, fun _ hkey => hkey, fun _ hlink => hlink⟩
  | @child root index child depth pointer cells hload hleaf hchild _ ih =>
      intro node footprint height least low high held hstored hholds hfilled
      cases hstored with
      | leaf hloaded hcells =>
          cases hload.symm.trans hloaded
          rw [hcells.isLeaf] at hleaf
          cases hleaf
      | internal hloaded hcells hall =>
          cases hload.symm.trans hloaded
          cases hholds with
          | @internal height =>
              next hchildren =>
              cases hfilled with
              | internal _ _ hfilled =>
                  rw [hcells.usedChildren, List.getElem?_map, Option.map_eq_some_iff] at hchild
                  rcases hchild with ⟨slot, hslot, heq⟩
                  cases heq
                  rcases hall.get hslot with ⟨under, inner, hget, hunder, hmem, hinner⟩
                  rcases childrenHold_child hchildren hget with
                    ⟨childLow, childHigh, childHeld, hchildHolds, hrange⟩
                  rcases ih hunder hchildHolds (hfilled under hmem) with
                    ⟨sub, subInner, subLow, subHigh, subHeld, hsteps, hsub, hsubInner, hsubHolds,
                      hsubFilled, hsubRange, hlinks⟩
                  refine ⟨sub, subInner, subLow, subHigh, subHeld, Nat.succ_le_succ hsteps, hsub,
                    (hsubInner.trans hinner).cons _, ?_, Or.inr ?_, ?_, ?_⟩
                  · rwa [Nat.succ_sub_succ]
                  · rcases hsubFilled with ⟨rfl, _⟩ | hsubFilled
                    · exact hfilled _ hmem
                    · exact hsubFilled
                  · exact fun key hkey => (hrange key (hsubRange key hkey)).1
                  · rw [leafLinks]
                    exact fun link hlink => mem_leafLinksOf hmem (hlinks hlink)

/-!
## One node
-/

theorem childrenHold_keys_sorted {depth : Nat} {high : Option Int} {keys : List Int} :
    forall {children : List BPlusTreeNode} {low : Option Int} {held : List (Int × Int)},
      ChildrenHold depth low high keys children held -> keys.Pairwise (· < ·) := by
  induction keys with
  | nil => intro _ _ _ _; exact List.Pairwise.nil
  | cons separator keys ih =>
      intro children low held h
      cases h with
      | cons _ _ hrest =>
          refine List.pairwise_cons.mpr ⟨?_, ih hrest⟩
          intro key hkey
          exact (childrenHold_keys_inside hrest key hkey).1 separator rfl

theorem inRange_of_inside {low high : Option Int} {key : Int} (h : Inside low high key) :
    InRange low high key :=
  ⟨fun l hl => le_of_lt (h.1 l hl), h.2⟩

section Node

variable {memory : Memory} {pointer height least : Nat} {node : BPlusTreeNode}
  {footprint : List Nat} {low high : Option Int} {held : List (Int × Int)} {cells : Node}

theorem Stored.load (h : Stored memory pointer node footprint) :
    exists cells, memory.load pointer = some cells := by
  cases h with
  | leaf hload _ => exact ⟨_, hload⟩
  | internal hload _ _ => exact ⟨_, hload⟩

theorem Stored.usedKeys (hstored : Stored memory pointer node footprint)
    (hholds : NodeHolds height low high node held) (hload : memory.load pointer = some cells) :
    cells.usedKeys.length = cells.keyCount ∧ cells.usedKeys.Pairwise (· < ·) ∧
      forall key, key ∈ cells.usedKeys -> InRange low high key := by
  cases hstored with
  | leaf hloaded hcells =>
      cases hload.symm.trans hloaded
      cases hholds with
      | leaf hsorted hrange =>
          rw [hcells.usedKeys, hcells.keyCount, List.length_map, List.pairwise_map]
          refine ⟨rfl, hsorted, ?_⟩
          intro key hkey
          rcases List.mem_map.mp hkey with ⟨entry, hentry, rfl⟩
          exact hrange entry hentry
  | internal hloaded hcells _ =>
      cases hload.symm.trans hloaded
      cases hholds with
      | internal hchildren =>
          rw [hcells.usedKeys, hcells.keyCount]
          exact ⟨rfl, childrenHold_keys_sorted hchildren, fun key hkey =>
            inRange_of_inside (childrenHold_keys_inside hchildren key hkey)⟩

theorem Stored.filled (hstored : Stored memory pointer node footprint)
    (hfilled : NodeFilled least node) (hleast : 1 ≤ least)
    (hload : memory.load pointer = some cells) :
    1 ≤ cells.keyCount ∧ cells.keyCount ≤ bptreeMaxKeys ∧
      (cells.isLeaf = true -> least ≤ cells.keyCount) := by
  cases hstored with
  | leaf hloaded hcells =>
      cases hload.symm.trans hloaded
      cases hfilled with
      | leaf hmin hmax =>
          rw [hcells.keyCount]
          exact ⟨Nat.le_trans hleast hmin, hmax, fun _ => hmin⟩
  | internal hloaded hcells _ =>
      cases hload.symm.trans hloaded
      cases hfilled with
      | internal hmin hmax _ =>
          rw [hcells.keyCount, hcells.isLeaf]
          exact ⟨hmin, hmax, fun hleaf => absurd hleaf Bool.false_ne_true⟩

theorem Stored.height_eq_zero (hstored : Stored memory pointer node footprint)
    (hholds : NodeHolds height low high node held) (hload : memory.load pointer = some cells)
    (hleaf : cells.isLeaf = true) : height = 0 := by
  cases hholds with
  | leaf _ _ => rfl
  | internal _ =>
      cases hstored with
      | internal hloaded hcells _ =>
          cases hload.symm.trans hloaded
          rw [hcells.isLeaf] at hleaf
          cases hleaf

end Node

theorem Stored.sublist {memory : Memory} {pointer : Nat} {node : BPlusTreeNode}
    {footprint : List Nat} (h : Stored memory pointer node footprint) :
    [pointer].Sublist footprint := by
  cases h with
  | leaf _ _ => exact List.Sublist.refl _
  | internal _ _ _ => exact List.Sublist.cons_cons _ (List.nil_sublist _)

theorem StoredAll.sublist {memory : Memory} {slots : List Nat}
    {nodes : List BPlusTreeNode} {footprint : List Nat}
    (h : StoredAll memory slots nodes footprint) : slots.Sublist footprint := by
  induction slots generalizing nodes footprint with
  | nil => exact List.nil_sublist _
  | cons slot slots ih =>
      cases h with
      | cons hnode hnodes => exact List.Sublist.append hnode.sublist (ih hnodes)

/-!
## The leaves
-/

mutual

theorem Stored.leaves_sublist {memory : Memory} :
    forall {node : BPlusTreeNode} {pointer : Nat} {footprint : List Nat},
      Stored memory pointer node footprint ->
        ((leafLinks node).map Prod.fst).Sublist footprint
  | .leaf .., _, _, h => by
      cases h with
      | leaf _ _ =>
          rw [leafLinks]
          exact List.Sublist.refl _
  | .internal .., _, _, h => by
      cases h with
      | internal _ _ hall =>
          rw [leafLinks]
          exact hall.leaves_sublist.cons _

theorem StoredAll.leaves_sublist {memory : Memory} :
    forall {nodes : List BPlusTreeNode} {pointers footprint : List Nat},
      StoredAll memory pointers nodes footprint ->
        ((leafLinksOf nodes).map Prod.fst).Sublist footprint
  | [], _, _, _ => List.nil_sublist _
  | _ :: _, _, _, h => by
      cases h with
      | cons hnode hnodes =>
          rw [leafLinksOf, List.map_append]
          exact List.Sublist.append hnode.leaves_sublist hnodes.leaves_sublist

end

mutual

theorem Stored.leaf_reached {memory : Memory} :
    forall {node : BPlusTreeNode} {pointer : Nat} {footprint : List Nat},
      Stored memory pointer node footprint -> forall link, link ∈ leafLinks node ->
        exists depth cells, Below memory depth pointer link.1 ∧
          memory.load link.1 = some cells ∧ cells.isLeaf = true ∧ cells.next = link.2
  | .leaf .., _, _, h, link, hlink => by
      cases h with
      | leaf hload hcells =>
          rw [leafLinks, List.mem_singleton] at hlink
          rw [hlink]
          exact ⟨0, _, Below.self, hload, hcells.isLeaf, hcells.next⟩
  | .internal .., _, _, h, link, hlink => by
      cases h with
      | internal hload hcells hall =>
          rw [leafLinks] at hlink
          rcases hall.leaf_reached link hlink with
            ⟨index, slot, depth, inner, hslot, hbelow, hleaf⟩
          refine ⟨depth + 1, inner, ?_, hleaf⟩
          refine @Below.child _ _ index _ _ _ _ hload hcells.isLeaf ?_ hbelow
          rw [hcells.usedChildren, List.getElem?_map, hslot]
          rfl

theorem StoredAll.leaf_reached {memory : Memory} :
    forall {nodes : List BPlusTreeNode} {pointers footprint : List Nat},
      StoredAll memory pointers nodes footprint -> forall link, link ∈ leafLinksOf nodes ->
        exists (index slot depth : Nat) (cells : Node), pointers[index]? = some slot ∧
          Below memory depth slot link.1 ∧ memory.load link.1 = some cells ∧
          cells.isLeaf = true ∧ cells.next = link.2
  | [], _, _, _, _, hlink => by
      rw [leafLinksOf] at hlink
      cases hlink
  | _ :: _, _, _, h, link, hlink => by
      cases h with
      | cons hnode hnodes =>
          rw [leafLinksOf] at hlink
          rcases List.mem_append.mp hlink with hlink | hlink
          · rcases hnode.leaf_reached link hlink with ⟨depth, cells, hbelow⟩
            exact ⟨0, _, depth, cells, rfl, hbelow⟩
          · rcases hnodes.leaf_reached link hlink with ⟨index, slot, depth, cells, hslot, hrest⟩
            exact ⟨index + 1, slot, depth, cells, hslot, hrest⟩

end

theorem keysAt_leaf {memory : Memory} {pointer : Nat} {cells : Node}
    {entries : List (Int × Int)} {next : Option Nat}
    (hload : memory.load pointer = some cells) (hcells : LeafCells cells entries next) :
    keysAt memory pointer = entries.map Prod.fst := by
  rw [keysAt, hload]
  exact hcells.usedKeys

theorem leafKeys_eq {memory : Memory} :
    forall (height : Nat) {low high : Option Int} {node : BPlusTreeNode}
      {held : List (Int × Int)} {pointer : Nat} {footprint : List Nat},
      NodeHolds height low high node held -> Stored memory pointer node footprint ->
        ((leafLinks node).map Prod.fst).flatMap (keysAt memory) = held.map Prod.fst := by
  intro height
  induction height with
  | zero =>
      intro low high node held pointer footprint hholds hstored
      cases hholds with
      | leaf _ _ =>
          cases hstored with
          | leaf hload hcells =>
              rw [leafLinks, List.map_cons, List.map_nil, List.flatMap_cons, List.flatMap_nil,
                List.append_nil]
              exact keysAt_leaf hload hcells
  | succ height ih =>
      intro low high node held pointer footprint hholds hstored
      cases hholds with
      | internal hchildren =>
          cases hstored with
          | internal _ _ hall =>
              rw [leafLinks]
              have hkeys : forall {keys : List Int} {children : List BPlusTreeNode}
                  {low : Option Int} {held : List (Int × Int)} {slots inner : List Nat},
                  ChildrenHold height low high keys children held ->
                  StoredAll memory slots children inner ->
                    ((leafLinksOf children).map Prod.fst).flatMap (keysAt memory) =
                      held.map Prod.fst := by
                intro keys
                induction keys with
                | nil =>
                    intro children low held slots inner hchildren hall
                    cases hchildren with
                    | last hchild =>
                        cases hall with
                        | cons hnode _ =>
                            rw [leafLinksOf, leafLinksOf, List.append_nil]
                            exact ih hchild hnode
                | cons separator keys ihkeys =>
                    intro children low held slots inner hchildren hall
                    cases hchildren with
                    | cons hchild _ hrest =>
                        cases hall with
                        | cons hnode hnodes =>
                            rw [leafLinksOf, List.map_append, List.flatMap_append,
                              ih hchild hnode, ihkeys hrest hnodes, List.map_append]
              exact hkeys hchildren hall

theorem childrenHold_mem {depth : Nat} {low high : Option Int} {keys : List Int}
    {children : List BPlusTreeNode} {held : List (Int × Int)} {child : BPlusTreeNode}
    (h : ChildrenHold depth low high keys children held) (hchild : child ∈ children) :
    exists childLow childHigh childHeld, NodeHolds depth childLow childHigh child childHeld := by
  rcases List.getElem?_of_mem hchild with ⟨index, hindex⟩
  rcases childrenHold_child h hindex with ⟨childLow, childHigh, childHeld, hholds, _⟩
  exact ⟨childLow, childHigh, childHeld, hholds⟩

theorem leafPointers_eq {memory : Memory} :
    forall (height : Nat) {fuel : Nat} {low high : Option Int} {node : BPlusTreeNode}
      {held : List (Int × Int)} {pointer : Nat} {footprint : List Nat},
      NodeHolds height low high node held -> Stored memory pointer node footprint ->
      height < fuel -> leafPointers memory fuel pointer = (leafLinks node).map Prod.fst := by
  intro height
  induction height with
  | zero =>
      intro fuel low high node held pointer footprint hholds hstored hfuel
      cases fuel with
      | zero => exact absurd hfuel (Nat.lt_irrefl _)
      | succ fuel =>
          cases hholds with
          | leaf _ _ =>
              cases hstored with
              | leaf hload hcells =>
                  simp only [leafPointers, hload, hcells.isLeaf, if_true]
                  rw [leafLinks]
                  rfl
  | succ height ih =>
      intro fuel low high node held pointer footprint hholds hstored hfuel
      cases fuel with
      | zero => exact absurd hfuel (Nat.not_lt_zero _)
      | succ fuel =>
          cases hholds with
          | internal hchildren =>
              cases hstored with
              | internal hload hcells hall =>
                  have hunder : forall {children : List BPlusTreeNode} {slots inner : List Nat},
                      (forall child, child ∈ children -> exists childLow childHigh childHeld,
                        NodeHolds height childLow childHigh child childHeld) ->
                      StoredAll memory slots children inner ->
                        ((slots.map some).flatMap fun slot =>
                            slot.elim [] (leafPointers memory fuel)) =
                          (leafLinksOf children).map Prod.fst := by
                    intro children
                    induction children with
                    | nil =>
                        intro slots inner _ hall
                        cases hall
                        rfl
                    | cons child children ihchildren =>
                        intro slots inner hholds hall
                        cases hall with
                        | cons hnode hnodes =>
                            rcases hholds child List.mem_cons_self with
                              ⟨childLow, childHigh, childHeld, hchild⟩
                            have hmore := ihchildren
                              (fun other hother => hholds other (List.mem_cons_of_mem _ hother))
                              hnodes
                            rw [leafLinksOf, List.map_append, ← hmore, List.map_cons,
                              List.flatMap_cons,
                              ← ih hchild hnode (Nat.lt_of_succ_lt_succ hfuel)]
                            rfl
                  simp only [leafPointers, hload, hcells.isLeaf, Bool.false_eq_true, if_false,
                    hcells.usedChildren]
                  rw [leafLinks]
                  exact hunder (fun child hchild => childrenHold_mem hchildren hchild) hall

theorem leftmostLeaf_eq {memory : Memory} :
    forall (height : Nat) {fuel : Nat} {low high : Option Int} {node : BPlusTreeNode}
      {held : List (Int × Int)} {pointer : Nat} {footprint : List Nat},
      NodeHolds height low high node held -> Stored memory pointer node footprint ->
      height < fuel -> exists link links, leafLinks node = link :: links ∧
        leftmostLeaf memory fuel pointer = some link.1 := by
  intro height
  induction height with
  | zero =>
      intro fuel low high node held pointer footprint hholds hstored hfuel
      cases fuel with
      | zero => exact absurd hfuel (Nat.lt_irrefl _)
      | succ fuel =>
          cases hholds with
          | leaf _ _ =>
              cases hstored with
              | leaf hload hcells =>
                  refine ⟨_, [], leafLinks.eq_1 .., ?_⟩
                  simp only [leftmostLeaf, hload, Option.bind_eq_bind, Option.bind_some,
                    hcells.isLeaf, if_true]
                  rfl
  | succ height ih =>
      intro fuel low high node held pointer footprint hholds hstored hfuel
      cases fuel with
      | zero => exact absurd hfuel (Nat.not_lt_zero _)
      | succ fuel =>
          cases hholds with
          | internal hchildren =>
              cases hstored with
              | internal hload hcells hall =>
                  cases hall with
                  | nil => cases hcells.count
                  | cons hnode hnodes =>
                      rcases childrenHold_mem hchildren List.mem_cons_self with
                        ⟨childLow, childHigh, childHeld, hchild⟩
                      rcases ih hchild hnode (Nat.lt_of_succ_lt_succ hfuel) with
                        ⟨link, links, hlinks, hleftmost⟩
                      have hread := hcells.children.read
                        (List.getElem?_cons_zero : _ = some (some _))
                      refine ⟨link, _, by rw [leafLinks, leafLinksOf, hlinks]; rfl, ?_⟩
                      simp only [leftmostLeaf, hload, Option.bind_eq_bind, Option.bind_some,
                        hcells.isLeaf, Bool.false_eq_true, if_false, hread, hleftmost]

theorem followNext_eq {memory : Memory} {links : List (Nat × Option Nat)} :
    forall {fuel : Nat} {first : Option Nat},
      (forall link, link ∈ links -> exists cells,
        memory.load link.1 = some cells ∧ cells.next = link.2) ->
      Chained first links none -> links.length ≤ fuel ->
        followNext memory fuel first = some (links.map Prod.fst) := by
  induction links with
  | nil =>
      intro fuel first _ hchain _
      rw [Chained] at hchain
      rw [hchain]
      cases fuel <;> rfl
  | cons link links ih =>
      intro fuel first hleaf hchain hfuel
      rcases hchain with ⟨rfl, hrest⟩
      rcases hleaf link List.mem_cons_self with ⟨cells, hload, hnext⟩
      cases fuel with
      | zero => cases hfuel
      | succ fuel =>
          have hmore := @ih fuel link.2
            (fun other hother => hleaf other (List.mem_cons_of_mem _ hother)) hrest
            (Nat.le_of_succ_le_succ hfuel)
          simp only [followNext, hload, Option.bind_eq_bind, Option.bind_some, hnext, hmore]
          rfl

/-!
## The whole tree
-/

section Shape

variable {memory : Memory} {root height : Nat} {node : BPlusTreeNode}
  {footprint : List Nat} {held : List (Int × Int)} {first : Option Nat}

theorem leaves_of_stored (hstored : Stored memory root node footprint)
    (hnodup : footprint.Nodup) (hholds : NodeHolds height none none node held)
    (hfilled : NodeFilled 1 node) (hchain : Chained first (leafLinks node) none) :
    exists first leaves,
      leftmostLeaf memory memory.nodes.length root = some first ∧
        followNext memory memory.nodes.length (some first) = some leaves ∧
        leaves = leafPointers memory memory.nodes.length root ∧ leaves.Nodup ∧
        (forall pointer, pointer ∈ leaves <->
          exists depth cells, Below memory depth root pointer ∧
            memory.load pointer = some cells ∧ cells.isLeaf = true) ∧
        (leaves.flatMap (keysAt memory)).Pairwise (· < ·) := by
  have hlength := footprint_length_le hstored hnodup
  have hfuel := Nat.lt_of_lt_of_le (depth_lt_footprint height hholds hstored) hlength
  rcases leftmostLeaf_eq height hholds hstored hfuel with ⟨link, links, hlinks, hleftmost⟩
  have hfirst : first = some link.1 := by
    rw [hlinks] at hchain
    exact hchain.1
  rw [hfirst] at hchain
  refine ⟨link.1, (leafLinks node).map Prod.fst, hleftmost, ?_, ?_, ?_, ?_, ?_⟩
  · refine followNext_eq ?_ hchain ?_
    · intro other hother
      rcases hstored.leaf_reached other hother with ⟨_, cells, _, hload, _, hnext⟩
      exact ⟨cells, hload, hnext⟩
    · have hleaves := hstored.leaves_sublist.length_le
      rw [List.length_map] at hleaves
      exact Nat.le_trans hleaves hlength
  · exact (leafPointers_eq height hholds hstored hfuel).symm
  · exact hnodup.sublist hstored.leaves_sublist
  · intro pointer
    constructor
    · intro hmem
      rcases List.mem_map.mp hmem with ⟨other, hother, rfl⟩
      rcases hstored.leaf_reached other hother with ⟨depth, cells, hbelow, hload, hleaf, _⟩
      exact ⟨depth, cells, hbelow, hload, hleaf⟩
    · rintro ⟨depth, cells, hbelow, hload, hleaf⟩
      rcases hbelow.node hstored hholds hfilled with
        ⟨sub, inner, _, _, _, _, hsub, _, _, _, _, hsubset⟩
      cases hsub with
      | leaf _ _ =>
          exact List.mem_map.mpr
            ⟨_, hsubset (by rw [leafLinks]; exact List.mem_singleton_self _), rfl⟩
      | internal hloaded hcells _ =>
          cases hload.symm.trans hloaded
          rw [hcells.isLeaf] at hleaf
          cases hleaf
  · rw [leafKeys_eq height hholds hstored, List.pairwise_map]
    exact nodeHolds_sorted height hholds

theorem TreeShape.of_stored (hstored : Stored memory root node footprint)
    (hnodup : footprint.Nodup) (hholds : NodeHolds height none none node held)
    (hfilled : NodeFilled 1 node) (hchain : Chained first (leafLinks node) none) :
    TreeShape memory root where
  stored := by
    intro depth pointer hbelow
    rcases hbelow.node hstored hholds hfilled with ⟨sub, inner, _, _, _, _, hsub, _⟩
    exact hsub.load
  increasing := by
    intro depth pointer cells hbelow hload
    rcases hbelow.node hstored hholds hfilled with
      ⟨sub, inner, _, _, _, _, hsub, _, hsubHolds, _⟩
    rcases hsub.usedKeys hsubHolds hload with ⟨hlength, hsorted, _⟩
    exact ⟨hlength, hsorted⟩
  separated := by
    intro depth pointer index child below other cells inner key hbelow hload hleaf hchild
      hunder hinner hkey
    rcases hbelow.node hstored hholds hfilled with
      ⟨sub, subFootprint, _, _, _, _, hsub, _, hsubHolds, hsubFilled, _, _⟩
    have hsubFilled : NodeFilled 1 sub := by
      rcases hsubFilled with ⟨rfl, _⟩ | htwo
      · exact hfilled
      · exact htwo.mono (Nat.le_succ 1)
    cases hsub with
    | leaf hloaded hcells =>
        cases hload.symm.trans hloaded
        rw [hcells.isLeaf] at hleaf
        cases hleaf
    | internal hloaded hcells hall =>
        cases hload.symm.trans hloaded
        rw [hcells.usedChildren, List.getElem?_map, Option.map_eq_some_iff] at hchild
        rcases hchild with ⟨slot, hslot, heq⟩
        cases heq
        rcases hall.get hslot with ⟨childNode, childFootprint, hget, hchildStored, hmem, _⟩
        generalize height - depth = level at hsubHolds
        cases hsubHolds with
        | internal hchildren =>
            cases hsubFilled with
            | internal _ _ hchildFilled =>
                rcases childrenHold_child hchildren hget with
                  ⟨_, _, _, hchildHolds, hrange⟩
                rcases hunder.node hchildStored hchildHolds (hchildFilled _ hmem) with
                  ⟨_, _, _, _, _, _, hotherStored, _, hotherHolds, _, hinside, _⟩
                rcases hotherStored.usedKeys hotherHolds hinner with ⟨_, _, hkeys⟩
                rw [hcells.usedKeys]
                exact (hrange key (hinside key (hkeys key hkey))).2
  sameDepth := by
    have hheight : forall {depth pointer : Nat} {cells : Node},
        Below memory depth root pointer -> memory.load pointer = some cells ->
        cells.isLeaf = true -> depth = height := by
      intro depth pointer cells hbelow hload hleaf
      rcases hbelow.node hstored hholds hfilled with
        ⟨sub, _, _, _, _, hdepth, hsub, _, hsubHolds, _⟩
      have hzero := hsub.height_eq_zero hsubHolds hload hleaf
      omega
    intro depth other pointer otherPointer cells otherCells hbelow hload hleaf hotherBelow
      hotherLoad hotherLeaf
    rw [hheight hbelow hload hleaf, hheight hotherBelow hotherLoad hotherLeaf]
  filled := by
    intro depth pointer cells hbelow hload
    rcases hbelow.node hstored hholds hfilled with
      ⟨sub, _, _, _, _, _, hsub, _, _, hsubFilled, _⟩
    rcases hsubFilled with ⟨rfl, hroot⟩ | htwo
    · rcases hsub.filled hfilled (Nat.le_refl 1) hload with ⟨hmin, hmax, _⟩
      exact ⟨hmin, hmax, fun hne => absurd hroot hne⟩
    · rcases hsub.filled htwo (Nat.le_succ 1) hload with ⟨hmin, hmax, hleaf⟩
      exact ⟨hmin, hmax, fun _ => hleaf⟩
  children := by
    intro depth pointer cells hbelow hload hleaf
    rcases hbelow.node hstored hholds hfilled with
      ⟨sub, inner, _, _, _, _, hsub, hsubset, _⟩
    cases hsub with
    | leaf hloaded hcells =>
        cases hload.symm.trans hloaded
        rw [hcells.isLeaf] at hleaf
        cases hleaf
    | @internal _ _ _ _ slots _ hloaded hcells hall =>
        cases hload.symm.trans hloaded
        refine ⟨slots, hcells.usedChildren, ?_, ?_⟩
        · rw [hcells.count, hcells.keyCount]
        · exact (List.nodup_cons.mp (hnodup.sublist hsubset)).2.sublist hall.sublist
  chain := leaves_of_stored hstored hnodup hholds hfilled hchain

end Shape

/-- Whatever is inserted, and in whatever order, the tree keeps its shape. -/
theorem bptree_insert_shape (inserts : List (Int × Int)) :
    exists tree, bptreeInsertAll bptreeInit inserts = some tree ∧
      (tree.root = none <-> inserts = []) ∧
      forall root, tree.root = some root -> TreeShape tree.memory root ∧
        forall key, key ∈ (leafPointers tree.memory tree.memory.nodes.length root).flatMap
            (keysAt tree.memory) <-> key ∈ inserts.map Prod.fst := by
  rcases bptreeInsertAll_simulates inserts lays_init treeHolds_init
    (by intro root h; cases h) (by intro root h; cases h) with
    ⟨tree, hrun, hlays, hfilled, hchained⟩
  rcases bptreeInsertAll_holds inserts with ⟨held, hholds, hlookup⟩
  have hkeys : forall key, key ∈ held.map Prod.fst <-> key ∈ inserts.map Prod.fst := by
    intro key
    rw [← not_iff_not, not_mem_keys_iff_lookup, not_mem_keys_iff_lookup, hlookup]
  have hnone : inserts = [] -> (Index.bptreeInsertAll Index.bptreeInit inserts).root = none := by
    rintro rfl
    rfl
  generalize Index.bptreeInsertAll Index.bptreeInit inserts = model at *
  rcases model with ⟨modelRoot, created⟩
  refine ⟨tree, hrun, ?_, ?_⟩
  · rw [hlays.empty]
    refine ⟨?_, hnone⟩
    intro hroot
    cases hroot
    have hempty : held = [] := hholds
    apply List.map_eq_nil_iff.mp
    apply List.eq_nil_iff_forall_not_mem.mpr
    intro key hkey
    rw [← hkeys, hempty] at hkey
    cases hkey
  · intro root hroot
    cases modelRoot with
    | none =>
        rw [hlays.empty.mpr rfl] at hroot
        cases hroot
    | some node =>
        rcases hlays.stored root node hroot rfl with ⟨footprint, hstored, hnodup⟩
        rcases hchained node rfl with ⟨first, hchain⟩
        rcases hholds with ⟨height, hholds⟩
        refine ⟨TreeShape.of_stored hstored hnodup hholds (hfilled node rfl) hchain, ?_⟩
        have hfuel := Nat.lt_of_lt_of_le (depth_lt_footprint height hholds hstored)
          (footprint_length_le hstored hnodup)
        intro key
        rw [leafPointers_eq height hholds hstored hfuel, leafKeys_eq height hholds hstored]
        exact hkeys key

example :
    (bptreeInsertAll bptreeInit [(2, 8), (4, 24), (1, 0), (3, 16)]).map
        (fun tree => (tree.root, tree.memory.nodes.map Node.usedKeys)) =
      some (some 2, [[1, 2], [3, 4], [3]]) := by
  rfl

end InMemory
end Index
end SqlCsvServer
