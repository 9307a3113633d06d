import SqlCsvServer.Index.NodeCount
import SqlCsvServer.Index.NodeSimulation

/-!
# Searching and freeing the tree in memory

A search follows pointers down to a leaf, and `bptree_free` follows them to all
nodes.  Reading a node that was given back, or giving it back again, has no outcome; so
what has one touches only nodes that are there and frees each of them once.
-/

namespace SqlCsvServer
namespace Index
namespace InMemory

open Foundation

/-!
## Searching
-/

/-- The way of `bptree_search` down to a leaf, if there is a root. -/
def findLeaf (memory : Memory) (key : Int) : Nat -> Option Nat -> Option (Option Node)
  | _, none => some none
  | 0, some _ => none
  | fuel + 1, some pointer => do
      let node ← memory.load pointer
      if node.isLeaf then
        return some node
      else
        let childIndex ← findChildIndex node key
        let child ← readCell node.children childIndex
        findLeaf memory key fuel child

/-- `bptree_search`: the value, if the key is found. -/
def bptreeSearch (tree : Tree) (key : Int) : Option (Option Int) := do
  -- no path is longer than there are nodes
  match ← findLeaf tree.memory key tree.memory.nodes.length tree.root with
  | none => return none
  | some node =>
      let index ← scanCells node.keys (fun stored => stored != key) node.keyCount 0
      if index < node.keyCount then
        let value ← readCell node.values index
        return some value
      else
        return none

theorem lookup_eq_getElem? (entries : List (Int × Int)) (key : Int) :
    entries.lookup key =
      (entries[((entries.map Prod.fst).takeWhile fun stored =>
        stored != key).length]?).map Prod.snd := by
  induction entries with
  | nil => rfl
  | cons entry entries ih =>
      rcases entry with ⟨stored, value⟩
      rw [List.map_cons, List.takeWhile_cons]
      by_cases hkey : stored = key
      · rw [hkey, List.lookup_cons_self, bne_self_eq_false]
        rfl
      · have hdiffers : (stored != key) = true := bne_iff_ne.mpr hkey
        rw [if_pos hdiffers, List.length_cons, List.getElem?_cons_succ, ← ih,
          List.lookup_cons, beq_false_of_ne (Ne.symm hkey)]

theorem LeafCells.search {cells : Node} {entries : List (Int × Int)} {next : Option Nat}
    (h : LeafCells cells entries next) (key : Int) :
    exists index,
      scanCells cells.keys (fun stored => stored != key) cells.keyCount 0 = some index ∧
        ((if index < cells.keyCount then (readCell cells.values index).map some
          else some none) = some (entries.lookup key)) := by
  have hscan := h.keys.scan fun stored => stored != key
  rw [List.length_map, ← h.keyCount] at hscan
  refine ⟨_, hscan, ?_⟩
  rw [lookup_eq_getElem?]
  generalize ((entries.map Prod.fst).takeWhile fun stored => stored != key).length = index
  rw [h.keyCount]
  split
  · next hindex =>
      have hvalue : readCell cells.values index = some entries[index].2 :=
        h.values.read (by rw [List.getElem?_map, List.getElem?_eq_getElem hindex]; rfl)
      rw [hvalue, List.getElem?_eq_getElem hindex]
      rfl
  · next hindex =>
      rw [List.getElem?_eq_none (Nat.not_lt.mp hindex)]
      rfl

theorem StoredAll.at_length {memory : Memory} {front back : List BPlusTreeNode}
    {node : BPlusTreeNode} {pointers footprint : List Nat}
    (h : StoredAll memory pointers (front ++ node :: back) footprint) :
    exists pointer inner, pointers[front.length]? = some pointer ∧
      Stored memory pointer node inner := by
  rcases h.split with
    ⟨frontPointers, backPointers, _, _, rfl, _, hlength, _, hback⟩
  cases hback with
  | @cons pointer _ inner _ _ _ hnode _ =>
      refine ⟨pointer, inner, ?_, hnode⟩
      rw [← hlength, List.getElem?_append_right (Nat.le_refl _), Nat.sub_self]
      rfl

theorem findLeaf_stored {memory : Memory} {key : Int} :
    forall (depth : Nat) {low high : Option Int} {node : BPlusTreeNode}
      {held : List (Int × Int)} {pointer : Nat} {footprint : List Nat} {fuel : Nat},
      NodeHolds depth low high node held -> InRange low high key ->
      Stored memory pointer node footprint -> depth < fuel ->
        exists cells entries next,
          findLeaf memory key fuel (some pointer) = some (some cells) ∧
            LeafCells cells entries next ∧ entries.lookup key = searchNode key node := by
  intro depth
  induction depth with
  | zero =>
      intro low high node held pointer footprint fuel hholds _ hstored hfuel
      rcases Nat.exists_eq_add_one_of_ne_zero (Nat.ne_of_gt hfuel) with ⟨fuel, rfl⟩
      cases hholds
      cases hstored with
      | leaf hload hcells =>
          refine ⟨_, _, _, ?_, hcells, by rw [searchNode]⟩
          simp only [findLeaf, hload, hcells.isLeaf, Option.bind_eq_bind, Option.bind_some,
            if_true]
          rfl
  | succ depth ih =>
      intro low high node held pointer footprint fuel hholds hkey hstored hfuel
      rcases Nat.exists_eq_add_one_of_ne_zero (Nat.ne_of_gt (Nat.zero_lt_of_lt hfuel)) with
        ⟨fuel, rfl⟩
      cases hholds with
      | internal hchildren =>
          cases hstored with
          | @internal _ cells _ _ slots _ hload hcells hall =>
              rcases childSlot_exists hchildren hkey with ⟨slot⟩
              have hfront := hall
              rw [slot.children_eq] at hfront
              rcases hfront.at_length with ⟨child, inner, hat, hchild⟩
              rw [slot.leftChildren_length] at hat
              rcases ih slot.child_holds slot.key_inRange hchild
                (Nat.lt_of_succ_lt_succ hfuel) with ⟨leaf, entries, next, hfound, hleaf, hlookup⟩
              have hread : readCell cells.children _ = some (some child) :=
                hcells.children.read (by rw [List.getElem?_map, hat]; rfl)
              have hsearch := congrArg
                (fun nodes => searchChild key nodes slot.leftChildren.length) slot.children_eq
              have hsame := hsearch.trans (searchChild_append _ _ _)
              rw [slot.leftChildren_length] at hsame
              refine ⟨leaf, entries, next, ?_, hleaf, by rw [searchNode, hsame, hlookup]⟩
              simp only [findLeaf, hload, hcells.isLeaf, hcells.findChildIndex, hread,
                Option.bind_eq_bind, Option.bind_some, Bool.false_eq_true, if_false]
              exact hfound

theorem bptreeSearch_simulates {tree : Tree} {model : BPlusTree} {held : List (Int × Int)}
    (h : Lays tree model) (hholds : TreeHolds model held) (key : Int) :
    bptreeSearch tree key = some (Index.bptreeSearch model key) := by
  rcases tree with ⟨root, memory⟩
  rcases model with ⟨modelRoot, created⟩
  cases root with
  | none =>
      have hnone : modelRoot = none := h.empty.mp rfl
      subst hnone
      cases hlength : memory.nodes.length <;>
        simp only [bptreeSearch, hlength, findLeaf] <;> rfl
  | some root =>
      cases modelRoot with
      | none => cases h.empty.mpr rfl
      | some node =>
          rcases h.stored root node rfl rfl with ⟨footprint, hstored, hnodup⟩
          rcases hholds with ⟨depth, hholds⟩
          have hfuel := Nat.lt_of_lt_of_le (depth_lt_footprint depth hholds hstored)
            (footprint_length_le hstored hnodup)
          rcases findLeaf_stored depth hholds (inRange_none key) hstored hfuel with
            ⟨cells, entries, next, hfound, hcells, hlookup⟩
          rcases hcells.search key with ⟨index, hscan, hvalue⟩
          have hmodel : Index.bptreeSearch { root := some node, created := created } key =
              entries.lookup key := hlookup.symm
          rw [hmodel, ← hvalue]
          simp only [bptreeSearch, hfound, hscan, Option.bind_eq_bind, Option.bind_some]
          split
          · cases readCell cells.values index <;> rfl
          · rfl

/-!
## Freeing
-/

def loadUnfreed (memory : Memory) (freed : List Nat) (pointer : Nat) : Option Node :=
  if pointer ∈ freed then none else memory.load pointer

def freePointer (memory : Memory) (pointer : Nat) (freed : List Nat) : Option (List Nat) :=
  (loadUnfreed memory freed pointer).map fun _ => freed ++ [pointer]

def freeNode (memory : Memory) : Nat -> Option Nat -> List Nat -> Option (List Nat)
  | _, none, freed => some freed
  | 0, some _, _ => none
  | fuel + 1, some pointer, freed => do
      let node ← loadUnfreed memory freed pointer
      let freed ←
        if node.isLeaf then
          some freed
        else
          upTo
            (fun index freed =>
              (loadUnfreed memory freed pointer).bind fun node =>
                (readCell node.children index).bind fun child =>
                  freeNode memory fuel child freed)
            (node.keyCount + 1) freed
      freePointer memory pointer freed

/-- `bptree_free`: the empty tree, and the nodes that were given back. -/
def bptreeFree (tree : Tree) : Option (Tree × List Nat) := do
  -- no path is longer than there are nodes
  let freed ← freeNode tree.memory tree.memory.nodes.length tree.root []
  return ({ tree with root := none }, freed)

def Frees (run : Option (List Nat)) (footprint freed : List Nat) : Prop :=
  exists order, run = some (freed ++ order) ∧ order.Perm footprint

section Freeing

variable {memory : Memory} {pointer : Nat} {cells : Node} {footprint freed : List Nat}

theorem loadUnfreed_live (h : pointer ∉ freed) :
    loadUnfreed memory freed pointer = memory.load pointer :=
  if_neg h

theorem freePointer_live (hload : memory.load pointer = some cells) (h : pointer ∉ freed) :
    freePointer memory pointer freed = some (freed ++ [pointer]) := by
  rw [freePointer, loadUnfreed_live h, hload]
  rfl

theorem freeChildren_round (fuel : Nat) (hload : memory.load pointer = some cells) :
    (fun index freed =>
        (loadUnfreed memory freed pointer).bind fun node =>
          (readCell node.children index).bind fun child =>
            freeNode memory fuel child freed) =
      fun index freed =>
        (readCell cells.children index).bind fun child =>
          if pointer ∈ freed then none else freeNode memory fuel child freed := by
  funext index freed
  by_cases hfreed : pointer ∈ freed
  · simp only [loadUnfreed, hfreed, if_true, Option.bind_none, Option.bind_fun_none]
  · simp only [loadUnfreed, hfreed, if_false, hload, Option.bind_some]

end Freeing

mutual

theorem Stored.frees {memory : Memory} :
    forall {node : BPlusTreeNode} {pointer : Nat} {footprint freed : List Nat} {fuel : Nat},
      Stored memory pointer node footprint -> footprint.Nodup ->
      (forall other, other ∈ footprint -> other ∉ freed) -> footprint.length ≤ fuel ->
        Frees (freeNode memory fuel (some pointer) freed) footprint freed
  | .leaf .., _, _, freed, fuel, h, _, hlive, hfuel => by
      cases h with
      | leaf hload hcells =>
          have hout := hlive _ (List.mem_singleton_self _)
          cases fuel with
          | zero => exact absurd hfuel (Nat.not_succ_le_zero _)
          | succ fuel =>
              refine ⟨[_], ?_, List.Perm.refl _⟩
              simp only [freeNode, loadUnfreed_live hout, hload, hcells.isLeaf,
                Option.bind_eq_bind, Option.bind_some, if_true, freePointer_live hload hout]
  | .internal .., pointer, _, freed, fuel, h, hnodup, hlive, hfuel => by
      cases h with
      | @internal _ cells keys _ slots inner hload hcells hall =>
          have hout := hlive pointer List.mem_cons_self
          rcases List.nodup_cons.mp hnodup with ⟨houtside, hinner⟩
          cases fuel with
          | zero => exact absurd hfuel (Nat.not_succ_le_zero _)
          | succ fuel =>
              rcases hall.frees hinner houtside hout
                (fun other hother => hlive other (List.mem_cons_of_mem _ hother))
                (Nat.le_of_succ_le_succ hfuel) with ⟨order, hrun, horder⟩
              have hloop := hcells.children.upTo_read
                (fun freed child =>
                  if pointer ∈ freed then none else freeNode memory fuel child freed) freed
              rw [List.length_map, hcells.count, ← hcells.keyCount, hrun] at hloop
              have hafter : pointer ∉ freed ++ order := by
                intro hmem
                rcases List.mem_append.mp hmem with hmem | hmem
                · exact hout hmem
                · exact houtside (horder.mem_iff.mp hmem)
              refine ⟨order ++ [pointer], ?_, ?_⟩
              · simp only [freeNode, loadUnfreed_live hout, hload, hcells.isLeaf,
                  Option.bind_eq_bind, Option.bind_some, Bool.false_eq_true, if_false,
                  freeChildren_round fuel hload, hloop, freePointer_live hload hafter,
                  List.append_assoc]
              · exact (List.perm_append_singleton _ _).trans (horder.cons _)

theorem StoredAll.frees {memory : Memory} :
    forall {nodes : List BPlusTreeNode} {pointers footprint freed : List Nat}
      {fuel parent : Nat},
      StoredAll memory pointers nodes footprint -> footprint.Nodup -> parent ∉ footprint ->
      parent ∉ freed -> (forall other, other ∈ footprint -> other ∉ freed) ->
      footprint.length ≤ fuel ->
        Frees
          ((pointers.map some).foldlM
            (fun freed child =>
              if parent ∈ freed then none else freeNode memory fuel child freed) freed)
          footprint freed
  | [], _, _, freed, _, _, h, _, _, _, _, _ => by
      cases h
      exact ⟨[], by rw [List.append_nil]; rfl, List.Perm.refl _⟩
  | _ :: _, _, _, freed, fuel, parent, h, hnodup, houtside, hout, hlive, hfuel => by
      cases h with
      | @cons pointer _ inner pointers _ rest hnode hnodes =>
          rcases List.nodup_append.mp hnodup with ⟨hinner, hrest, hdisjoint⟩
          rw [List.length_append] at hfuel
          rcases hnode.frees hinner
            (fun other hother => hlive other (List.mem_append_left _ hother))
            (Nat.le_trans (Nat.le_add_right _ _) hfuel) with ⟨first, hfirst, hfirstOrder⟩
          have hparent : parent ∉ freed ++ first := by
            intro hmem
            rcases List.mem_append.mp hmem with hmem | hmem
            · exact hout hmem
            · exact houtside (List.mem_append_left _ (hfirstOrder.mem_iff.mp hmem))
          have hlater : forall other, other ∈ rest -> other ∉ freed ++ first := by
            intro other hother hmem
            rcases List.mem_append.mp hmem with hmem | hmem
            · exact hlive other (List.mem_append_right _ hother) hmem
            · exact hdisjoint other (hfirstOrder.mem_iff.mp hmem) other hother rfl
          rcases hnodes.frees hrest (fun hmem => houtside (List.mem_append_right _ hmem))
            hparent hlater (Nat.le_trans (Nat.le_add_left _ _) hfuel) with
            ⟨second, hsecond, hsecondOrder⟩
          refine ⟨first ++ second, ?_, hfirstOrder.append hsecondOrder⟩
          rw [List.map_cons, List.foldlM_cons, if_neg hout, hfirst, ← List.append_assoc]
          exact hsecond

end

mutual

theorem Stored.length_eq {memory : Memory} :
    forall {node : BPlusTreeNode} {pointer : Nat} {footprint : List Nat},
      Stored memory pointer node footprint -> footprint.length = nodeCount node
  | .leaf .., _, _, h => by
      cases h with
      | leaf _ _ => rw [nodeCount, List.length_singleton]
  | .internal .., _, _, h => by
      cases h with
      | internal _ _ hall => rw [nodeCount, List.length_cons, hall.length_eq]

theorem StoredAll.length_eq {memory : Memory} :
    forall {nodes : List BPlusTreeNode} {pointers footprint : List Nat},
      StoredAll memory pointers nodes footprint -> footprint.length = nodeCountOf nodes
  | [], _, _, h => by
      cases h
      rw [nodeCountOf, List.length_nil]
  | _ :: _, _, _, h => by
      cases h with
      | cons hnode hnodes =>
          rw [nodeCountOf, List.length_append, hnode.length_eq, hnodes.length_eq]

end

theorem bptreeFree_all {tree : Tree} {model : BPlusTree} (h : Lays tree model)
    (hcounted : TreeCounted model) :
    exists freed, bptreeFree tree = some ({ tree with root := none }, freed) ∧
      freed.Perm (List.range tree.memory.nodes.length) := by
  rcases tree with ⟨root, memory⟩
  rcases model with ⟨modelRoot, created⟩
  have hcreated : memory.nodes.length = modelRoot.elim 0 nodeCount :=
    h.created.symm.trans hcounted
  cases root with
  | none =>
      have hnone : modelRoot = none := h.empty.mp rfl
      subst hnone
      refine ⟨[], ?_, ?_⟩
      · cases hlength : memory.nodes.length <;>
          simp only [bptreeFree, hlength, freeNode] <;> rfl
      · rw [hcreated]
        exact List.Perm.refl _
  | some root =>
      cases modelRoot with
      | none => cases h.empty.mpr rfl
      | some node =>
          rcases h.stored root node rfl rfl with ⟨footprint, hstored, hnodup⟩
          have hlength : footprint.length = memory.nodes.length :=
            hstored.length_eq.trans hcreated.symm
          rcases hstored.frees hnodup (fun _ _ hmem => List.not_mem_nil hmem)
            (Nat.le_of_eq hlength) with ⟨order, hrun, horder⟩
          refine ⟨order, ?_, horder.trans ?_⟩
          · simp only [bptreeFree, hrun, Option.bind_eq_bind, Option.bind_some]
            rfl
          · have hsub : footprint ⊆ List.range memory.nodes.length := fun pointer hmem =>
              List.mem_range.mpr (hstored.allocated pointer hmem)
            refine (hnodup.subperm hsub).perm_of_length_le ?_
            rw [List.length_range, hlength]

/--
The tree on pointers is a finite map that loses no memory: after any inserts, a search has
an outcome and finds what was inserted first under its key, and `bptree_free` gives
every node that was allocated back exactly once.
-/
theorem bptree_searched_and_freed (inserts : List (Int × Int)) :
    exists tree freed, bptreeInsertAll bptreeInit inserts = some tree ∧
      (forall key, bptreeSearch tree key = some (inserts.lookup key)) ∧
      bptreeFree tree = some ({ tree with root := none }, freed) ∧
      freed.Perm (List.range tree.memory.nodes.length) := by
  rcases bptreeInsertAll_simulates inserts lays_init treeHolds_init
    (by intro root h; cases h) (by intro root h; cases h) with ⟨tree, hrun, hlays, _, _⟩
  rcases bptreeInsertAll_holds inserts with ⟨held, hholds, hlookup⟩
  rcases bptreeFree_all hlays (bptreeInsertAll_counted inserts treeHolds_init rfl) with
    ⟨freed, hfree, hall⟩
  refine ⟨tree, freed, hrun, fun key => ?_, hfree, hall⟩
  rw [bptreeSearch_simulates hlays hholds, bptreeSearch_eq_lookup hholds, hlookup]

example :
    ((bptreeInsertAll bptreeInit [(2, 8), (4, 24), (1, 0), (3, 16)]).bind bptreeFree).map
        Prod.snd = some [0, 1, 2] := by
  rfl

end InMemory
end Index
end SqlCsvServer
