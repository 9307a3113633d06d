import Mathlib.Data.List.Nodup
import Mathlib.Data.List.Perm.Subperm
import SqlCsvServer.Index.NodeLayout

/-!
# Inserting into the tree in memory

The insert on pointers does what the insert on trees does.  It has an outcome, so no
array is left and no null pointer followed, as long as no node is over-full.
-/

namespace SqlCsvServer
namespace Index
namespace InMemory

open Foundation

/-!
## Simulation
-/

def Answers (memory : Memory) (pointer : Nat) (footprint : List Nat)
    (node : BPlusTreeNode) : Index.InsertState -> InsertState -> Prop
  | .failed message, .failed text =>
      text = message ∧ StoredAll memory [pointer] [node] footprint
  | .done, .done => StoredAll memory [pointer] [node] footprint
  | .split key right, .split promotedKey rightNode =>
      promotedKey = key ∧
        StoredAll memory [pointer, rightNode] [node, right] footprint
  | _, _ => False

def Owned (before : Memory) (footprint owned : List Nat) : Prop :=
  owned.Nodup ∧
    forall pointer, pointer ∈ owned -> pointer ∈ footprint ∨ before.nodes.length ≤ pointer

def Simulates (before : Memory) (footprint : List Nat) (pointer : Nat)
    (inserted : BPlusTreeNode × Index.InsertState × NodeHeap)
    (run : Option (InsertState × Memory)) : Prop :=
  exists state after owned, run = some (state, after) ∧
    Keeps footprint before after ∧ inserted.2.2 =
      { created := after.nodes.length, available := none } ∧
    Owned before footprint owned ∧ Answers after pointer owned inserted.1 inserted.2.1 state

def heapOf (memory : Memory) : NodeHeap :=
  { created := memory.nodes.length, available := none }

theorem Owned.self {before : Memory} {footprint : List Nat} (h : footprint.Nodup) :
    Owned before footprint footprint :=
  ⟨h, fun _ hmem => Or.inl hmem⟩

theorem Owned.insert {before : Memory} {footprint front back : List Nat} {fresh : Nat}
    (h : Owned before footprint (front ++ back)) (hgrows : before.nodes.length ≤ fresh)
    (hfresh : fresh ∉ front ++ back) : Owned before footprint (front ++ fresh :: back) := by
  refine ⟨List.nodup_middle.mpr (List.nodup_cons.mpr ⟨hfresh, h.1⟩), ?_⟩
  intro pointer hmem
  rcases List.mem_append.mp hmem with hfront | hmem
  · exact h.2 pointer (List.mem_append_left _ hfront)
  · rcases List.mem_cons.mp hmem with rfl | hback
    · exact Or.inr hgrows
    · exact h.2 pointer (List.mem_append_right _ hback)

/-!
## Splits
-/

def splitMemory (memory : Memory) (isLeaf : Bool) (pointer : Nat) (left right : Node) :
    Memory :=
  ((memory.allocate isLeaf).store memory.nodes.length right).store pointer left

section Split

variable {memory : Memory} {isLeaf : Bool} {pointer : Nat} {left right : Node}

theorem splitMemory_left (h : pointer < memory.nodes.length) :
    (splitMemory memory isLeaf pointer left right).load pointer = some left := by
  refine Memory.load_store_self ?_
  rw [Memory.length_store, Memory.length_allocate]
  exact Nat.lt_succ_of_lt h

theorem splitMemory_right (h : pointer < memory.nodes.length) :
    (splitMemory memory isLeaf pointer left right).load memory.nodes.length =
      some right := by
  rw [splitMemory, Memory.load_store_other (Nat.ne_of_gt h)]
  refine Memory.load_store_self ?_
  rw [Memory.length_allocate]
  exact Nat.lt_succ_self _

theorem splitMemory_length :
    (splitMemory memory isLeaf pointer left right).nodes.length =
      memory.nodes.length + 1 := by
  rw [splitMemory, Memory.length_store, Memory.length_store, Memory.length_allocate]

theorem splitMemory_keeps (havailable : memory.available = none) :
    Keeps [pointer] memory (splitMemory memory isLeaf pointer left right) := by
  refine ⟨havailable, by rw [splitMemory_length]; exact Nat.le_succ _, ?_⟩
  intro other hold hout
  have hpointer : other ≠ pointer :=
    fun heq => hout (by rw [heq]; exact List.mem_singleton_self _)
  rw [splitMemory, Memory.load_store_other hpointer,
    Memory.load_store_other (Nat.ne_of_lt hold), Memory.load_allocate_old hold]

end Split

theorem splitLeaf_run {memory : Memory} {pointer : Nat} {cells : Node}
    {entries : List (Int × Int)} {next : Option Nat} (havailable : memory.available = none)
    (hpointer : pointer < memory.nodes.length) (hcells : LeafCells cells entries next)
    (hfull : 0 < entries.length) :
    exists after,
      splitLeaf pointer cells memory =
          some (.split (((entries.drop (entries.length / 2)).head?.map Prod.fst).getD 0)
            memory.nodes.length, after) ∧
        Keeps [pointer] memory after ∧ after.nodes.length = memory.nodes.length + 1 ∧
        StoredAll after [pointer, memory.nodes.length]
          [.leaf pointer (entries.take (entries.length / 2)) (some memory.nodes.length),
            .leaf memory.nodes.length (entries.drop (entries.length / 2)) next]
          [pointer, memory.nodes.length] := by
  have hhalf : entries.length / 2 ≤ entries.length := Nat.div_le_self _ _
  rcases hcells.copy hhalf (zeroed true) rfl with ⟨keys, values, hcopy, hright⟩
  have hleft := hcells.cut hhalf memory.nodes.length
  have hkey : readCell keys 0 =
      some (((entries.drop (entries.length / 2)).head?.map Prod.fst).getD 0) := by
    apply hright.keys.read
    cases hdrop : entries.drop (entries.length / 2) with
    | nil =>
        have hlength := congrArg List.length hdrop
        rw [List.length_drop, List.length_nil] at hlength
        omega
    | cons first rest => rfl
  refine ⟨splitMemory memory true pointer _ _, ?_, splitMemory_keeps havailable,
    splitMemory_length, StoredAll.cons (Stored.leaf (splitMemory_left hpointer) hleft)
      (StoredAll.single (Stored.leaf (splitMemory_right hpointer) hright))⟩
  simp only [splitLeaf, createNode_allocate havailable, Memory.load_allocate_new,
    hcells.keyCount, hcopy, hkey, Option.bind_eq_bind, Option.bind_some]
  rfl

theorem splitInternal_run {memory : Memory} {pointer : Nat} {cells : Node}
    {keys : List Int} {slots : List Nat} {children : List BPlusTreeNode}
    {footprint : List Nat} (havailable : memory.available = none)
    (hpointer : pointer < memory.nodes.length) (hcells : InternalCells cells keys slots)
    (hfull : 0 < keys.length) (hchildren : StoredAll memory slots children footprint)
    (hout : pointer ∉ footprint) :
    exists after left right, footprint = left ++ right ∧
      splitInternal pointer cells memory =
          some (.split (keys.getD (keys.length / 2) 0) memory.nodes.length, after) ∧
        Keeps [pointer] memory after ∧ after.nodes.length = memory.nodes.length + 1 ∧
        StoredAll after [pointer, memory.nodes.length]
          [.internal (keys.take (keys.length / 2)) (children.take (keys.length / 2 + 1)),
            .internal (keys.drop (keys.length / 2 + 1))
              (children.drop (keys.length / 2 + 1))]
          (pointer :: left ++ memory.nodes.length :: right) := by
  have hmid : keys.length / 2 < keys.length := by omega
  rcases hcells.copy hmid (zeroed false) rfl with
    ⟨copiedKeys, copiedChildren, hkeys, hslots, hright⟩
  have hleft := hcells.cut hmid
  have hkey : readCell cells.keys (keys.length / 2) =
      some (keys.getD (keys.length / 2) 0) := by
    apply hcells.keys.read
    rw [List.getD_eq_getElem?_getD, List.getElem?_eq_getElem hmid]
    rfl
  have hkeeps := @splitMemory_keeps memory false pointer
    { cells with keyCount := keys.length / 2 }
    { zeroed false with
      keyCount := keys.length - keys.length / 2 - 1
      keys := copiedKeys
      children := copiedChildren } havailable
  have hkept := hchildren.frame fun other hother => hkeeps.same other
    (hchildren.allocated other hother)
    (fun hmem => hout (List.mem_singleton.mp hmem ▸ hother))
  rcases hkept.cut (keys.length / 2 + 1) with ⟨front, back, hfootprint, hfront, hback⟩
  refine ⟨_, front, back, hfootprint, ?_, hkeeps, splitMemory_length,
    StoredAll.cons (Stored.internal (splitMemory_left hpointer) hleft hfront)
      (StoredAll.single (Stored.internal (splitMemory_right hpointer) hright hback))⟩
  simp only [splitInternal, createNode_allocate havailable, Memory.load_allocate_new,
    hcells.keyCount, hkey, hkeys, hslots, Option.bind_eq_bind, Option.bind_some]
  rfl

/-!
## At a leaf
-/

theorem insertIntoLeaf_simulates {memory : Memory} {pointer : Nat} {cells : Node}
    {entries : List (Int × Int)} {next : Option Nat} (havailable : memory.available = none)
    (hload : memory.load pointer = some cells) (hcells : LeafCells cells entries next)
    (hroom : entries.length ≤ bptreeMaxKeys) (key value : Int) :
    Simulates memory [pointer] pointer
      (Index.insertIntoLeaf pointer entries next key value (heapOf memory))
      (insertIntoLeaf key value pointer memory) := by
  have hpointer := Memory.lt_of_load hload
  have hindex := leafInsertIndex_le entries key
  have hduplicate := hcells.duplicate_iff (leafInsertIndex entries key) key
  unfold insertIntoLeaf Index.insertIntoLeaf
  simp only [hload, hcells.scan, hduplicate, Option.bind_eq_bind, Option.bind_some]
  split
  · exact ⟨_, memory, [pointer], rfl, Keeps.refl havailable, rfl,
      Owned.self (List.nodup_singleton _), rfl, StoredAll.single (Stored.leaf hload hcells)⟩
  · rcases hcells.place hroom hindex key value with ⟨after, hplace, hafter⟩
    simp only [hplace, Option.bind_some, hafter.keyCount]
    have hstored : (memory.store pointer after).load pointer = some after :=
      Memory.load_store_self hpointer
    have hkeeps := Keeps.store havailable pointer after
    split
    · refine ⟨_, memory.store pointer after, [pointer], rfl, hkeeps, ?_,
        Owned.self (List.nodup_singleton _), StoredAll.single (Stored.leaf hstored hafter)⟩
      rw [Memory.length_store]
      rfl
    · next hover =>
        have hlength : (memory.store pointer after).nodes.length = memory.nodes.length :=
          Memory.length_store
        rcases splitLeaf_run hkeeps.available (Memory.lt_of_load hstored) hafter (by omega)
          with ⟨split, hsplit, hkeepsSplit, hgrown, hhalves⟩
        rw [hlength] at hsplit hgrown hhalves
        have hfresh : memory.nodes.length ∉ [pointer] ++ [] := by
          rw [List.append_nil, List.mem_singleton]
          exact Nat.ne_of_gt hpointer
        refine ⟨_, split, _, hsplit, hkeeps.trans hkeepsSplit (fun _ hmem => Or.inl hmem), ?_,
          (Owned.self (List.nodup_singleton pointer)).insert (Nat.le_refl _) hfresh, rfl,
          hhalves⟩
        simp only [createNode_unlimited (heapOf memory) rfl, hgrown]
        rfl

/-!
## At an internal node
-/

theorem nodup_replace {front inner back owned : List Nat} {bound : Nat}
    (h : (front ++ (inner ++ back)).Nodup)
    (hold : forall pointer, pointer ∈ front ++ (inner ++ back) -> pointer < bound)
    (howned : owned.Nodup)
    (hfrom : forall pointer, pointer ∈ owned -> pointer ∈ inner ∨ bound ≤ pointer) :
    (front ++ (owned ++ back)).Nodup := by
  rw [List.nodup_append, List.nodup_append] at h ⊢
  rcases h with ⟨hfront, ⟨_, hback, hinner⟩, hcross⟩
  refine ⟨hfront, ⟨howned, hback, ?_⟩, ?_⟩
  · intro a ha b hb
    rcases hfrom a ha with hin | hnew
    · exact hinner a hin b hb
    · have hbound := hold b (List.mem_append_right _ (List.mem_append_right _ hb))
      exact Nat.ne_of_gt (Nat.lt_of_lt_of_le hbound hnew)
  · intro a ha b hb
    rcases List.mem_append.mp hb with hb | hb
    · rcases hfrom b hb with hin | hnew
      · exact hcross a ha b (List.mem_append_left _ hin)
      · have hbound := hold a (List.mem_append_left _ ha)
        exact Nat.ne_of_lt (Nat.lt_of_lt_of_le hbound hnew)
    · exact hcross a ha b (List.mem_append_right _ hb)

section Internal

variable {depth : Nat} {low high : Option Int} {keys : List Int}
  {children : List BPlusTreeNode} {held : List (Int × Int)} {key : Int}

structure PointerSlot (memory : Memory)
    (slot : ChildSlot depth low high keys children held key) where
  left : List Nat
  pointer : Nat
  right : List Nat
  leftFootprint : List Nat
  inner : List Nat
  rightFootprint : List Nat
  left_length : left.length = Index.findChildIndex keys key
  left_stored : StoredAll memory left slot.leftChildren leftFootprint
  child_stored : Stored memory pointer slot.child inner
  right_stored : StoredAll memory right slot.rightChildren rightFootprint

namespace PointerSlot

variable {memory after : Memory} {slot : ChildSlot depth low high keys children held key}

def slots (hole : PointerSlot memory slot) : List Nat :=
  hole.left ++ hole.pointer :: hole.right

def footprint (hole : PointerSlot memory slot) : List Nat :=
  hole.leftFootprint ++ (hole.inner ++ hole.rightFootprint)

theorem exists_of_stored (slot : ChildSlot depth low high keys children held key)
    {slots footprint : List Nat} (h : StoredAll memory slots children footprint) :
    exists hole : PointerSlot memory slot,
      slots = hole.slots ∧ footprint = hole.footprint := by
  have hall := (congrArg (StoredAll memory slots · footprint) slot.children_eq).mp h
  rcases hall.split with ⟨left, back, leftFootprint, rest, rfl, rfl, hlength, hleft, hback⟩
  cases hback with
  | cons hchild hright =>
      exact
        ⟨{ left := left, pointer := _, right := _
           leftFootprint := leftFootprint, inner := _, rightFootprint := _
           left_length := hlength.trans slot.leftChildren_length
           left_stored := hleft
           child_stored := hchild
           right_stored := hright }, rfl, rfl⟩

theorem inner_subset (hole : PointerSlot memory slot) : hole.inner ⊆ hole.footprint :=
  fun _ hother => List.mem_append_right _ (List.mem_append_left _ hother)

theorem footprint_lt (hole : PointerSlot memory slot) {other : Nat}
    (h : other ∈ hole.footprint) : other < memory.nodes.length := by
  rcases List.mem_append.mp h with hleft | h
  · exact hole.left_stored.allocated other hleft
  · rcases List.mem_append.mp h with hinner | hright
    · exact hole.child_stored.allocated other hinner
    · exact hole.right_stored.allocated other hright

theorem refill (hole : PointerSlot memory slot) (hnodup : hole.footprint.Nodup)
    (hkeeps : Keeps hole.inner memory after) {pointers owned : List Nat}
    {nodes : List BPlusTreeNode} (h : StoredAll after pointers nodes owned) :
    StoredAll after (hole.left ++ (pointers ++ hole.right))
      (slot.leftChildren ++ (nodes ++ slot.rightChildren))
      (hole.leftFootprint ++ (owned ++ hole.rightFootprint)) := by
  rw [footprint, List.nodup_append, List.nodup_append] at hnodup
  rcases hnodup with ⟨_, ⟨_, _, hinner⟩, hcross⟩
  have hleft := hole.left_stored.frame fun other hother =>
    hkeeps.same other (hole.left_stored.allocated other hother)
      (fun hmem => hcross other hother other (List.mem_append_left _ hmem) rfl)
  have hright := hole.right_stored.frame fun other hother =>
    hkeeps.same other (hole.right_stored.allocated other hother)
      (fun hmem => hinner other hmem other hother rfl)
  exact StoredAll.append (StoredAll.append hright h) hleft

theorem read_child (hole : PointerSlot memory slot) {cells : Node}
    (h : InternalCells cells keys hole.slots) :
    readCell cells.children (Index.findChildIndex keys key) =
      some (some hole.pointer) := by
  apply h.children.read
  rw [List.getElem?_map, slots, ← hole.left_length,
    List.getElem?_append_right (Nat.le_refl _), Nat.sub_self]
  rfl

theorem insert_pointer (hole : PointerSlot memory slot) (rightNode : Nat) :
    hole.slots.insertIdx (Index.findChildIndex keys key + 1) rightNode =
      hole.left ++ ([hole.pointer, rightNode] ++ hole.right) := by
  have hinsert := insertIdx_length_append (hole.left ++ [hole.pointer]) hole.right rightNode
  rw [List.length_append, List.length_singleton, hole.left_length, List.append_assoc,
    List.append_assoc] at hinsert
  exact hinsert

theorem owned (hole : PointerSlot memory slot) {pointer : Nat}
    (hpointer : pointer < memory.nodes.length) (hnodup : (pointer :: hole.footprint).Nodup)
    {owned : List Nat} (howned : Owned memory hole.inner owned) :
    Owned memory (pointer :: hole.footprint)
      (pointer :: (hole.leftFootprint ++ (owned ++ hole.rightFootprint))) := by
  constructor
  · refine @nodup_replace (pointer :: hole.leftFootprint) hole.inner hole.rightFootprint
      owned memory.nodes.length hnodup ?_ howned.1 howned.2
    intro other hother
    rcases List.mem_cons.mp hother with rfl | hother
    · exact hpointer
    · exact hole.footprint_lt hother
  · intro other hother
    rcases List.mem_cons.mp hother with rfl | hother
    · exact Or.inl List.mem_cons_self
    · rcases List.mem_append.mp hother with hleft | hother
      · exact Or.inl (List.mem_cons_of_mem _ (List.mem_append_left _ hleft))
      · rcases List.mem_append.mp hother with hinner | hright
        · rcases howned.2 other hinner with hin | hnew
          · exact Or.inl (List.mem_cons_of_mem _ (hole.inner_subset hin))
          · exact Or.inr hnew
        · exact Or.inl (List.mem_cons_of_mem _
            (List.mem_append_right _ (List.mem_append_right _ hright)))

end PointerSlot

theorem insertIntoInternal_simulates {memory : Memory} {pointer : Nat} {cells : Node}
    {slots footprint : List Nat} {inserted : BPlusTreeNode × Index.InsertState × NodeHeap}
    {recursive : Nat -> Memory -> Option (InsertState × Memory)}
    (slot : ChildSlot depth low high keys children held key)
    (hload : memory.load pointer = some cells) (hcells : InternalCells cells keys slots)
    (hstored : StoredAll memory slots children footprint)
    (hnodup : (pointer :: footprint).Nodup) (hroom : keys.length ≤ bptreeMaxKeys)
    (hrecursive : forall child inner, Stored memory child slot.child inner ->
      inner.Nodup -> Simulates memory inner child inserted (recursive child memory)) :
    Simulates memory (pointer :: footprint) pointer
      (Index.insertIntoInternal keys children (Index.findChildIndex keys key) inserted)
      (insertIntoInternal recursive key pointer memory) := by
  have hpointer := Memory.lt_of_load hload
  rcases List.nodup_cons.mp hnodup with ⟨hout, hunder⟩
  rcases PointerSlot.exists_of_stored slot hstored with ⟨hole, rfl, rfl⟩
  have hinnerNodup : hole.inner.Nodup :=
    (List.nodup_append.mp (List.nodup_append.mp hunder).2.1).1
  rcases hrecursive hole.pointer hole.inner hole.child_stored hinnerNodup with
    ⟨state, after, owned, hrun, hkeeps, hheap, howned, hanswers⟩
  have hkept : after.load pointer = some cells :=
    (hkeeps.same pointer hpointer fun hmem => hout (hole.inner_subset hmem)).trans hload
  have hkeepsAll : Keeps (pointer :: hole.footprint) memory after :=
    hkeeps.mono fun other hother => List.mem_cons_of_mem _ (hole.inner_subset hother)
  have hownedAll := hole.owned hpointer hnodup howned
  have hset : forall {child : BPlusTreeNode},
      StoredAll after [hole.pointer] [child] owned ->
        StoredAll after [pointer]
          [.internal keys (children.set (Index.findChildIndex keys key) child)]
          (pointer :: (hole.leftFootprint ++ (owned ++ hole.rightFootprint))) := by
    intro child hchild
    rw [slot.set_child]
    exact StoredAll.single
      (Stored.internal hkept hcells (hole.refill hunder hkeeps hchild))
  unfold insertIntoInternal
  simp only [hload, hcells.findChildIndex, hole.read_child hcells, hrun, Option.bind_eq_bind,
    Option.bind_some]
  rcases inserted with ⟨child, treeState, heap⟩
  cases treeState with
  | failed message =>
      cases state with
      | failed text =>
          exact ⟨_, after, _, rfl, hkeepsAll, hheap, hownedAll, hanswers.1, hset hanswers.2⟩
      | done => cases hanswers
      | split promotedKey rightNode => cases hanswers
  | done =>
      cases state with
      | failed text => cases hanswers
      | done => exact ⟨_, after, _, rfl, hkeepsAll, hheap, hownedAll, hset hanswers⟩
      | split promotedKey rightNode => cases hanswers
  | split promotedKey right =>
      cases state with
      | failed text => cases hanswers
      | done => cases hanswers
      | split newKey rightNode =>
          rcases hanswers with ⟨rfl, hhalves⟩
          -- the parent takes both halves, and is stored with them
          have hfilled := hole.refill hunder hkeeps hhalves
          rw [← hole.insert_pointer, ← slot.split_child] at hfilled
          rcases hcells.place hroom (findChildIndex_le keys key) newKey rightNode with
            ⟨placed, hplace, hplaced⟩
          have hunderAll : pointer ∉ hole.leftFootprint ++ (owned ++ hole.rightFootprint) :=
            (List.nodup_cons.mp hownedAll.1).1
          have hpointerAfter := Memory.lt_of_load hkept
          have hkeepsStore := Keeps.store hkeeps.available pointer placed
          have hstoredAfter : (after.store pointer placed).load pointer = some placed :=
            Memory.load_store_self hpointerAfter
          have hchildren := hfilled.frame fun other hother =>
            hkeepsStore.same other (hfilled.allocated other hother)
              (fun hmem => hunderAll (List.mem_singleton.mp hmem ▸ hother))
          have hkeepsParent := hkeepsAll.trans hkeepsStore fun other hother =>
            Or.inl (by rw [List.mem_singleton.mp hother]; exact List.mem_cons_self)
          have hlength : (after.store pointer placed).nodes.length = after.nodes.length :=
            Memory.length_store
          have hheap : heap = heapOf after := hheap
          simp only [hkept, hplace, hplaced.keyCount, Option.bind_some, Index.insertIntoInternal,
            createNode_unlimited heap (congrArg NodeHeap.available hheap)]
          generalize keys.insertIdx (Index.findChildIndex keys key) newKey = filledKeys at *
          split
          · refine ⟨_, _, _, rfl, hkeepsParent, ?_, hownedAll,
              StoredAll.single (Stored.internal hstoredAfter hplaced hchildren)⟩
            rw [hlength]
            exact hheap
          · next hover =>
              rcases splitInternal_run hkeepsStore.available (Memory.lt_of_load hstoredAfter)
                hplaced (by omega) hchildren hunderAll with
                ⟨split, left, right, hparts, hsplit, hkeepsSplit, hgrown, hnodes⟩
              have hfresh : (after.store pointer placed).nodes.length ∉
                  pointer :: left ++ right := by
                intro hmem
                rw [List.cons_append, ← hparts] at hmem
                rcases List.mem_cons.mp hmem with heq | hmem
                · exact Nat.ne_of_gt (Memory.lt_of_load hstoredAfter) heq
                · exact Nat.lt_irrefl _ (hchildren.allocated _ hmem)
              rw [hparts] at hownedAll
              refine ⟨_, split, _, hsplit,
                hkeepsParent.trans hkeepsSplit (fun other hother => Or.inl
                  (by rw [List.mem_singleton.mp hother]; exact List.mem_cons_self)), ?_,
                @Owned.insert _ _ (pointer :: left) right _ hownedAll hkeepsParent.grows hfresh,
                rfl, hnodes⟩
              rw [hgrown, hlength, hheap]
              rfl

end Internal

/-!
## At any node
-/

theorem insertIntoNode_simulates {depth least fuel : Nat} {low high : Option Int}
    {node : BPlusTreeNode} {held : List (Int × Int)} {key value : Int} {memory : Memory}
    {pointer : Nat} {footprint : List Nat} (hholds : NodeHolds depth low high node held)
    (hkey : InRange low high key) (hfilled : NodeFilled least node)
    (havailable : memory.available = none) (hstored : Stored memory pointer node footprint)
    (hnodup : footprint.Nodup) (hfuel : depth < fuel) :
    Simulates memory footprint pointer
      (Index.insertIntoNode key value node (heapOf memory))
      (insertIntoNode key value fuel pointer memory) := by
  refine insertIntoNode_rule (motive := fun depth node heap inserted =>
    forall least fuel memory pointer footprint, NodeFilled least node ->
      heap = heapOf memory -> memory.available = none ->
      Stored memory pointer node footprint -> footprint.Nodup -> depth < fuel ->
        Simulates memory footprint pointer inserted
          (insertIntoNode key value fuel pointer memory))
    ?_ ?_ depth hholds hkey rfl least fuel memory pointer footprint hfilled rfl havailable
    hstored hnodup hfuel
  · intro address entries next heap _ _ least fuel memory pointer footprint hfilled hheap
      havailable hstored _ hfuel
    cases fuel with
    | zero => exact absurd hfuel (Nat.not_lt_zero _)
    | succ fuel =>
        cases hstored with
        | leaf hload hcells =>
            cases hfilled with
            | leaf _ hroom =>
                rw [insertIntoNode, hload, hheap]
                simp only [Option.bind_eq_bind, Option.bind_some, hcells.isLeaf, if_true]
                exact insertIntoLeaf_simulates havailable hload hcells hroom key value
  · intro depth low high keys children held slot heap _ hchild least fuel memory pointer
      footprint hfilled hheap havailable hstored hnodup hfuel
    cases fuel with
    | zero => exact absurd hfuel (Nat.not_lt_zero _)
    | succ fuel =>
        cases hstored with
        | internal hload hcells hchildren =>
            cases hfilled with
            | internal _ hroom hall =>
                rw [insertIntoNode, hload]
                simp only [Option.bind_eq_bind, Option.bind_some, hcells.isLeaf,
                  Bool.false_eq_true, if_false]
                refine insertIntoInternal_simulates slot hload hcells hchildren hnodup hroom ?_
                intro child inner hstored hinner
                exact hchild 2 fuel memory child inner (hall _ slot.child_mem) hheap
                  havailable hstored hinner (Nat.lt_of_succ_lt_succ hfuel)

theorem depth_lt_footprint {memory : Memory} :
    forall (depth : Nat) {low high : Option Int} {node : BPlusTreeNode}
      {held : List (Int × Int)} {pointer : Nat} {footprint : List Nat},
      NodeHolds depth low high node held -> Stored memory pointer node footprint ->
        depth < footprint.length := by
  intro depth
  induction depth with
  | zero =>
      intro low high node held pointer footprint hholds hstored
      cases hstored <;> exact Nat.zero_lt_succ _
  | succ depth ih =>
      intro low high node held pointer footprint hholds hstored
      cases hholds with
      | internal hchildren =>
          cases hstored with
          | internal _ _ hall =>
              have hfirst : forall {child : BPlusTreeNode} {low high : Option Int}
                  {held : List (Int × Int)} {children : List BPlusTreeNode}
                  {slots inner : List Nat}, NodeHolds depth low high child held ->
                    StoredAll memory slots (child :: children) inner ->
                      depth < inner.length := by
                intro child low high held children slots inner hchild hall
                cases hall with
                | cons hnode _ =>
                    rw [List.length_append]
                    exact Nat.lt_of_lt_of_le (ih hchild hnode) (Nat.le_add_right _ _)
              cases hchildren with
              | last hchild => exact Nat.succ_lt_succ (hfirst hchild hall)
              | cons hchild _ _ => exact Nat.succ_lt_succ (hfirst hchild hall)

theorem footprint_length_le {memory : Memory} {pointer : Nat} {node : BPlusTreeNode}
    {footprint : List Nat} (h : Stored memory pointer node footprint)
    (hnodup : footprint.Nodup) : footprint.length ≤ memory.nodes.length := by
  have hsub : footprint ⊆ List.range memory.nodes.length :=
    fun other hother => List.mem_range.mpr (h.allocated other hother)
  have hlength := (hnodup.subperm hsub).length_le
  rwa [List.length_range] at hlength

/-!
## The public handle
-/

structure Lays (tree : Tree) (model : BPlusTree) : Prop where
  available : tree.memory.available = none
  created : model.created = tree.memory.nodes.length
  empty : tree.root = none <-> model.root = none
  stored : forall pointer node, tree.root = some pointer -> model.root = some node ->
    exists footprint, Stored tree.memory pointer node footprint ∧ footprint.Nodup

theorem lays_init : Lays bptreeInit Index.bptreeInit :=
  ⟨rfl, rfl, iff_of_true rfl rfl, by intro pointer node h; cases h⟩

theorem Lays.of_stored {memory : Memory} {pointer created : Nat} {node : BPlusTreeNode}
    {footprint : List Nat} (havailable : memory.available = none)
    (hcreated : created = memory.nodes.length)
    (hstored : Stored memory pointer node footprint) (hnodup : footprint.Nodup) :
    Lays { root := some pointer, memory := memory }
      { root := some node, created := created } := by
  refine ⟨havailable, hcreated, iff_of_false (by simp) (by simp), ?_⟩
  intro other root hpointer hroot
  cases hpointer
  cases hroot
  exact ⟨footprint, hstored, hnodup⟩

theorem bptreeInsert_empty {memory : Memory} (havailable : memory.available = none)
    (key value : Int) :
    exists after,
      bptreeInsert { root := none, memory := memory } key value =
          some ({ root := some memory.nodes.length, memory := after }, none) ∧
        after.available = none ∧ after.nodes.length = memory.nodes.length + 1 ∧
        Stored after memory.nodes.length
          (.leaf memory.nodes.length [(key, value)] none) [memory.nodes.length] := by
  rcases (Fills.nil (zeroed true).keys).append (Nat.zero_lt_succ _) key with
    ⟨keys, hkeys, hkeysFill⟩
  rcases (Fills.nil (zeroed true).values).append (Nat.zero_lt_succ _) value with
    ⟨values, hvalues, hvaluesFill⟩
  rw [List.length_nil] at hkeys hvalues
  have hcells : LeafCells
      { zeroed true with keyCount := 1, keys := keys, values := values }
      [(key, value)] none :=
    ⟨rfl, rfl, hkeysFill, hvaluesFill, rfl⟩
  have hnew : memory.nodes.length < (memory.allocate true).nodes.length := by
    rw [Memory.length_allocate]
    exact Nat.lt_succ_self _
  refine ⟨(memory.allocate true).store memory.nodes.length
    { zeroed true with keyCount := 1, keys := keys, values := values }, ?_, havailable, ?_,
    Stored.leaf (Memory.load_store_self hnew) hcells⟩
  · simp only [bptreeInsert, createNode_allocate havailable, Memory.load_allocate_new,
      Option.bind_eq_bind, Option.bind_some, hkeys, hvalues]
    rfl
  · rw [Memory.length_store, Memory.length_allocate]

theorem growRoot {memory : Memory} (havailable : memory.available = none)
    {root rightNode : Nat} {left right : BPlusTreeNode} {owned : List Nat}
    (h : StoredAll memory [root, rightNode] [left, right] owned) (promotedKey : Int) :
    exists keys children more node after,
      writeCell (zeroed false).keys 0 promotedKey = some keys ∧
        writeCell (zeroed false).children 0 (some root) = some children ∧
        writeCell children 1 (some rightNode) = some more ∧
        node = { zeroed false with keyCount := 1, keys := keys, children := more } ∧
        after = (memory.allocate false).store memory.nodes.length node ∧
        after.available = none ∧ after.nodes.length = memory.nodes.length + 1 ∧
        Stored after memory.nodes.length (.internal [promotedKey] [left, right])
          (memory.nodes.length :: owned) := by
  rcases (Fills.nil (zeroed false).keys).append (Nat.zero_lt_succ _) promotedKey with
    ⟨keys, hkeys, hkeysFill⟩
  rcases (Fills.nil (zeroed false).children).append (Nat.zero_lt_succ _) (some root) with
    ⟨children, hchildren, hchildrenFill⟩
  rcases hchildrenFill.append (Nat.succ_lt_succ (Nat.zero_lt_succ _)) (some rightNode) with
    ⟨more, hmore, hmoreFill⟩
  have hcells : InternalCells
      { zeroed false with keyCount := 1, keys := keys, children := more }
      [promotedKey] [root, rightNode] :=
    ⟨rfl, rfl, rfl, hkeysFill, hmoreFill⟩
  have hnew : memory.nodes.length < (memory.allocate false).nodes.length := by
    rw [Memory.length_allocate]
    exact Nat.lt_succ_self _
  refine ⟨keys, children, more, _, _, hkeys, hchildren, hmore, rfl, rfl, havailable, ?_,
    Stored.internal (Memory.load_store_self hnew) hcells (h.frame ?_)⟩
  · rw [Memory.length_store, Memory.length_allocate]
  · intro other hother
    have hold := h.allocated other hother
    rw [Memory.load_store_other (Nat.ne_of_lt hold), Memory.load_allocate_old hold]

theorem bptreeInsert_simulates {tree : Tree} {model : BPlusTree} {held : List (Int × Int)}
    (h : Lays tree model) (hholds : TreeHolds model held) (hfilled : TreeFilled model)
    (key value : Int) :
    exists after,
      bptreeInsert tree key value =
          some (after, (Index.bptreeInsert model key value none).error) ∧
        Lays after (Index.bptreeInsert model key value none).tree := by
  rcases tree with ⟨root, memory⟩
  rcases model with ⟨modelRoot, created⟩
  have havailable : memory.available = none := h.available
  have hcreated : created = memory.nodes.length := h.created
  cases root with
  | none =>
      have hnone : modelRoot = none := h.empty.mp rfl
      subst hnone
      rcases bptreeInsert_empty havailable key value with
        ⟨after, hrun, hafter, hgrown, hstored⟩
      rw [hcreated]
      exact ⟨_, hrun, Lays.of_stored hafter hgrown.symm hstored (List.nodup_singleton _)⟩
  | some root =>
      cases modelRoot with
      | none => cases h.empty.mpr rfl
      | some node =>
          rcases h.stored root node rfl rfl with ⟨footprint, hstored, hnodup⟩
          rcases hholds with ⟨depth, hholds⟩
          have hfuel := Nat.lt_of_lt_of_le (depth_lt_footprint depth hholds hstored)
            (footprint_length_le hstored hnodup)
          have hsimulates := @insertIntoNode_simulates depth 1 memory.nodes.length none none
            node held key value memory root footprint hholds (inRange_none key)
            (hfilled node rfl) havailable hstored hnodup hfuel
          rcases hinsert : Index.insertIntoNode key value node (heapOf memory) with
            ⟨model, treeState, heap⟩
          rw [hinsert] at hsimulates
          rcases hsimulates with ⟨state, after, owned, hrun, hkeeps, hheap, howned, hanswers⟩
          have hroot : forall {pointer : Nat} {created : Nat} {node : BPlusTreeNode},
              created = after.nodes.length -> StoredAll after [pointer] [node] owned ->
                Lays { root := some pointer, memory := after }
                  { root := some node, created := created } := by
            intro pointer created node hcreated hone
            cases hone with
            | cons hnode hnil =>
                cases hnil
                rw [List.append_nil] at howned
                exact Lays.of_stored hkeeps.available hcreated hnode howned.1
          rw [heapOf, ← hcreated] at hinsert
          have hsize : heap.created = after.nodes.length := congrArg NodeHeap.created hheap
          have hunlimited : heap.available = none := congrArg NodeHeap.available hheap
          simp only [bptreeInsert, hrun, Index.bptreeInsert, hinsert, Option.bind_eq_bind,
            Option.bind_some]
          cases treeState with
          | failed message =>
              cases state with
              | failed text =>
                  rcases hanswers with ⟨rfl, hone⟩
                  exact ⟨_, rfl, hroot hsize hone⟩
              | done => cases hanswers
              | split promotedKey rightNode => cases hanswers
          | done =>
              cases state with
              | failed text => cases hanswers
              | done => exact ⟨_, rfl, hroot hsize hanswers⟩
              | split promotedKey rightNode => cases hanswers
          | split promotedKey right =>
              cases state with
              | failed text => cases hanswers
              | done => cases hanswers
              | split newKey rightNode =>
                  rcases hanswers with ⟨rfl, hhalves⟩
                  rcases growRoot hkeeps.available hhalves newKey with
                    ⟨keys, children, more, cells, grown, hkeys, hchildren, hmore, rfl, rfl,
                      hgrownAvailable, hgrown, hstoredRoot⟩
                  have hfresh : after.nodes.length ∉ owned := fun hmem =>
                    Nat.lt_irrefl _ (hhalves.allocated _ hmem)
                  simp only [createNode_allocate hkeeps.available, Memory.load_allocate_new,
                    Option.bind_some, hkeys, hchildren, hmore,
                    createNode_unlimited heap hunlimited]
                  refine ⟨_, rfl, Lays.of_stored hgrownAvailable ?_ hstoredRoot
                    (List.nodup_cons.mpr ⟨hfresh, howned.1⟩)⟩
                  rw [hsize]
                  exact hgrown.symm

theorem bptreeInsertAll_simulates (inserts : List (Int × Int)) :
    forall {tree : Tree} {model : BPlusTree} {held : List (Int × Int)},
      Lays tree model -> TreeHolds model held -> TreeFilled model -> TreeChained model ->
        exists after, bptreeInsertAll tree inserts = some after ∧
          Lays after (Index.bptreeInsertAll model inserts) ∧
          TreeFilled (Index.bptreeInsertAll model inserts) ∧
          TreeChained (Index.bptreeInsertAll model inserts) := by
  induction inserts with
  | nil =>
      intro tree model held h _ hfilled hchained
      exact ⟨tree, rfl, h, hfilled, hchained⟩
  | cons insert inserts ih =>
      intro tree model held h hholds hfilled hchained
      rcases bptreeInsert_simulates h hholds hfilled insert.1 insert.2 with
        ⟨after, hrun, hafter⟩
      have hnext : exists held,
          TreeHolds (Index.bptreeInsert model insert.1 insert.2 none).tree held := by
        rcases bptreeInsert_unlimited_outcome hholds insert.1 insert.2 with
          ⟨_, _, hnext⟩ | ⟨_, _, hsame⟩
        · exact ⟨_, hnext⟩
        · exact ⟨held, by rw [hsame]; exact hholds⟩
      rcases hnext with ⟨next, hnext⟩
      rcases ih hafter hnext (bptreeInsert_filled hholds hfilled insert.1 insert.2)
        (bptreeInsert_chained hholds hchained insert.1 insert.2) with ⟨last, hlast, hrest⟩
      refine ⟨last, ?_, hrest⟩
      rw [bptreeInsertAll, hrun]
      exact hlast

end InMemory
end Index
end SqlCsvServer
