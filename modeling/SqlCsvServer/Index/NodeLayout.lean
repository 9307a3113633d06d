import SqlCsvServer.Index.NodeCells

/-!
# The tree that the nodes in memory form

What lies behind a pointer is a tree: every node of it is behind a pointer of its own.
An insert at the pointer turns it into the tree that the insert on trees returns, and
touches no node outside of it.
-/

namespace SqlCsvServer
namespace Index
namespace InMemory

open Foundation

/-!
## Memory
-/

namespace Memory

variable {memory : Memory} {pointer other : Nat} {node : Node}

theorem lt_of_load (h : memory.load pointer = some node) :
    pointer < memory.nodes.length :=
  (List.getElem?_eq_some_iff.mp h).1

theorem load_store_self (h : pointer < memory.nodes.length) :
    (memory.store pointer node).load pointer = some node :=
  List.getElem?_set_self h

theorem load_store_other (h : other ≠ pointer) :
    (memory.store pointer node).load other = memory.load other :=
  List.getElem?_set_ne h.symm

theorem length_store :
    (memory.store pointer node).nodes.length = memory.nodes.length :=
  List.length_set

def allocate (memory : Memory) (isLeaf : Bool) : Memory :=
  { memory with nodes := memory.nodes ++ [zeroed isLeaf] }

theorem length_allocate {isLeaf : Bool} :
    (memory.allocate isLeaf).nodes.length = memory.nodes.length + 1 :=
  List.length_append

theorem load_allocate_new {isLeaf : Bool} :
    (memory.allocate isLeaf).load memory.nodes.length = some (zeroed isLeaf) :=
  List.getElem?_concat_length

theorem load_allocate_old {isLeaf : Bool} (h : pointer < memory.nodes.length) :
    (memory.allocate isLeaf).load pointer = memory.load pointer :=
  List.getElem?_append_left h

end Memory

theorem createNode_allocate {memory : Memory} (h : memory.available = none)
    (isLeaf : Bool) :
    createNode isLeaf memory = (some memory.nodes.length, memory.allocate isLeaf) := by
  unfold createNode
  rw [h]
  simp only
  rw [Memory.allocate, h]

structure Keeps (footprint : List Nat) (before after : Memory) : Prop where
  available : after.available = none
  grows : before.nodes.length ≤ after.nodes.length
  same : forall pointer, pointer < before.nodes.length -> pointer ∉ footprint ->
    after.load pointer = before.load pointer

namespace Keeps

variable {footprint more : List Nat} {before between after : Memory}

theorem refl (h : before.available = none) : Keeps footprint before before :=
  ⟨h, Nat.le_refl _, fun _ _ _ => rfl⟩

theorem mono (h : Keeps footprint before after)
    (hsub : forall pointer, pointer ∈ footprint -> pointer ∈ more) :
    Keeps more before after :=
  ⟨h.available, h.grows, fun pointer hold hout =>
    h.same pointer hold fun hmem => hout (hsub pointer hmem)⟩

theorem trans (h : Keeps footprint before between) (hmore : Keeps more between after)
    (hsub : forall pointer, pointer ∈ more ->
      pointer ∈ footprint ∨ before.nodes.length ≤ pointer) :
    Keeps footprint before after := by
  refine ⟨hmore.available, Nat.le_trans h.grows hmore.grows, ?_⟩
  intro pointer hold hout
  have hoff : pointer ∉ more := by
    intro hmem
    rcases hsub pointer hmem with hin | hnew
    · exact hout hin
    · exact absurd hold (Nat.not_lt.mpr hnew)
  rw [hmore.same pointer (Nat.lt_of_lt_of_le hold h.grows) hoff, h.same pointer hold hout]

theorem store (h : before.available = none) (pointer : Nat) (node : Node) :
    Keeps [pointer] before (before.store pointer node) := by
  refine ⟨h, Nat.le_of_eq Memory.length_store.symm, ?_⟩
  intro other _ hout
  exact Memory.load_store_other fun heq => hout (by rw [heq]; exact List.mem_singleton_self _)

end Keeps

/-!
## Trees in memory
-/

mutual

inductive Stored (memory : Memory) : Nat -> BPlusTreeNode -> List Nat -> Prop where
  | leaf {pointer : Nat} {cells : Node} {entries : List (Int × Int)}
      {next : Option Nat} :
      memory.load pointer = some cells -> LeafCells cells entries next ->
      Stored memory pointer (.leaf pointer entries next) [pointer]
  | internal {pointer : Nat} {cells : Node} {keys : List Int}
      {children : List BPlusTreeNode} {slots footprint : List Nat} :
      memory.load pointer = some cells -> InternalCells cells keys slots ->
      StoredAll memory slots children footprint ->
      Stored memory pointer (.internal keys children) (pointer :: footprint)

inductive StoredAll (memory : Memory) :
    List Nat -> List BPlusTreeNode -> List Nat -> Prop where
  | nil : StoredAll memory [] [] []
  | cons {pointer : Nat} {node : BPlusTreeNode} {inner : List Nat} {pointers : List Nat}
      {nodes : List BPlusTreeNode} {rest : List Nat} :
      Stored memory pointer node inner -> StoredAll memory pointers nodes rest ->
      StoredAll memory (pointer :: pointers) (node :: nodes) (inner ++ rest)

end

mutual

theorem Stored.allocated {memory : Memory} :
    forall {node : BPlusTreeNode} {pointer : Nat} {footprint : List Nat},
      Stored memory pointer node footprint ->
        forall other, other ∈ footprint -> other < memory.nodes.length
  | .leaf .., _, _, h, other, hother => by
      cases h with
      | leaf hload _ =>
          rw [List.mem_singleton.mp hother]
          exact Memory.lt_of_load hload
  | .internal .., _, _, h, other, hother => by
      cases h with
      | internal hload _ hchildren =>
          rcases List.mem_cons.mp hother with rfl | hother
          · exact Memory.lt_of_load hload
          · exact hchildren.allocated other hother

theorem StoredAll.allocated {memory : Memory} :
    forall {nodes : List BPlusTreeNode} {pointers footprint : List Nat},
      StoredAll memory pointers nodes footprint ->
        forall other, other ∈ footprint -> other < memory.nodes.length
  | [], _, _, h, other, hother => by
      cases h
      cases hother
  | _ :: _, _, _, h, other, hother => by
      cases h with
      | cons hnode hnodes =>
          rcases List.mem_append.mp hother with hother | hother
          · exact hnode.allocated other hother
          · exact hnodes.allocated other hother

end

mutual

theorem Stored.frame {before after : Memory} :
    forall {node : BPlusTreeNode} {pointer : Nat} {footprint : List Nat},
      Stored before pointer node footprint ->
      (forall other, other ∈ footprint -> after.load other = before.load other) ->
        Stored after pointer node footprint
  | .leaf .., _, _, h, hsame => by
      cases h with
      | leaf hload hcells =>
          have hkept := hsame _ (List.mem_singleton_self _)
          exact Stored.leaf (hkept.trans hload) hcells
  | .internal .., pointer, _, h, hsame => by
      cases h with
      | internal hload hcells hchildren =>
          have hkept := hsame pointer List.mem_cons_self
          exact Stored.internal (hkept.trans hload) hcells
            (hchildren.frame fun other hother => hsame other (List.mem_cons_of_mem _ hother))

theorem StoredAll.frame {before after : Memory} :
    forall {nodes : List BPlusTreeNode} {pointers footprint : List Nat},
      StoredAll before pointers nodes footprint ->
      (forall other, other ∈ footprint -> after.load other = before.load other) ->
        StoredAll after pointers nodes footprint
  | [], _, _, h, _ => by
      cases h
      exact StoredAll.nil
  | _ :: _, _, _, h, hsame => by
      cases h with
      | cons hnode hnodes =>
          exact StoredAll.cons
            (hnode.frame fun other hother => hsame other (List.mem_append_left _ hother))
            (hnodes.frame fun other hother => hsame other (List.mem_append_right _ hother))

end

namespace StoredAll

variable {memory : Memory}

theorem single {pointer : Nat} {node : BPlusTreeNode} {footprint : List Nat}
    (h : Stored memory pointer node footprint) :
    StoredAll memory [pointer] [node] footprint := by
  have hone := StoredAll.cons h StoredAll.nil
  rwa [List.append_nil] at hone

theorem append {front back : List BPlusTreeNode} {backPointers backFootprint : List Nat}
    (hback : StoredAll memory backPointers back backFootprint) :
    forall {frontPointers frontFootprint : List Nat},
      StoredAll memory frontPointers front frontFootprint ->
        StoredAll memory (frontPointers ++ backPointers) (front ++ back)
          (frontFootprint ++ backFootprint) := by
  induction front with
  | nil =>
      intro frontPointers frontFootprint h
      cases h
      exact hback
  | cons node front ih =>
      intro frontPointers frontFootprint h
      cases h with
      | cons hnode hnodes =>
          have hrest := StoredAll.cons hnode (ih hnodes)
          rwa [← List.append_assoc] at hrest

theorem split {front back : List BPlusTreeNode} :
    forall {pointers footprint : List Nat},
      StoredAll memory pointers (front ++ back) footprint ->
        exists frontPointers backPointers frontFootprint backFootprint,
          pointers = frontPointers ++ backPointers ∧
            footprint = frontFootprint ++ backFootprint ∧
            frontPointers.length = front.length ∧
            StoredAll memory frontPointers front frontFootprint ∧
            StoredAll memory backPointers back backFootprint := by
  induction front with
  | nil =>
      intro pointers footprint h
      exact ⟨[], pointers, [], footprint, rfl, rfl, rfl, StoredAll.nil, h⟩
  | cons node front ih =>
      intro pointers footprint h
      cases h with
      | cons hnode hnodes =>
          rcases ih hnodes with
            ⟨frontPointers, backPointers, frontFootprint, backFootprint, rfl, rfl, hlength,
              hfront, hback⟩
          refine ⟨_ :: frontPointers, backPointers, _ ++ frontFootprint, backFootprint, rfl,
            (List.append_assoc ..).symm, ?_, StoredAll.cons hnode hfront, hback⟩
          rw [List.length_cons, List.length_cons, hlength]

theorem cut (count : Nat) :
    forall {nodes : List BPlusTreeNode} {pointers footprint : List Nat},
      StoredAll memory pointers nodes footprint ->
        exists frontFootprint backFootprint, footprint = frontFootprint ++ backFootprint ∧
          StoredAll memory (pointers.take count) (nodes.take count) frontFootprint ∧
          StoredAll memory (pointers.drop count) (nodes.drop count) backFootprint := by
  induction count with
  | zero =>
      intro nodes pointers footprint h
      exact ⟨[], footprint, rfl, StoredAll.nil, h⟩
  | succ count ih =>
      intro nodes pointers footprint h
      cases h with
      | nil => exact ⟨[], [], rfl, StoredAll.nil, StoredAll.nil⟩
      | cons hnode hnodes =>
          rcases ih hnodes with ⟨front, back, rfl, hfront, hback⟩
          exact ⟨_ ++ front, back, (List.append_assoc ..).symm, StoredAll.cons hnode hfront,
            hback⟩

end StoredAll

end InMemory
end Index
end SqlCsvServer
