import SqlCsvServer.Foundation.Bytes

/-!
# The B+ tree of `index/bptree.c`

An in-memory tree from internal ids to CSV row offsets.  Every function returns
the node as it stands after the call, also when the call fails: the source
updates nodes in place, and a failed split leaves an over-full node behind.

The key and value arrays of a leaf are one list of pairs, since the source
always moves them together; `key_count` is the length of that list.
-/

namespace SqlCsvServer
namespace Index

open Foundation

def bptreeMaxKeys : Nat := 3

/--
A node.  A leaf carries the number of its allocation, which is what the
`next` pointer of its left neighbour holds.
-/
inductive BPlusTreeNode where
  | leaf (address : Nat) (entries : List (Int × Int)) (next : Option Nat)
  | internal (keys : List Int) (children : List BPlusTreeNode)

inductive InsertState where
  | failed (message : Bytes)
  | done
  | split (promotedKey : Int) (rightNode : BPlusTreeNode)

/--
The allocator: nodes created so far for this tree, and how many more calls of
`calloc` succeed (`none` when memory never runs out).
-/
structure NodeHeap where
  created : Nat
  available : Option Nat
deriving DecidableEq

def createNode (heap : NodeHeap) : Option Nat × NodeHeap :=
  match heap.available with
  | none => (some heap.created, { heap with created := heap.created + 1 })
  | some 0 => (none, heap)
  | some (n + 1) =>
      (some heap.created, { created := heap.created + 1, available := some n })

def findChildIndex : List Int -> Int -> Nat
  | [], _ => 0
  | separator :: keys, key =>
      if separator ≤ key then findChildIndex keys key + 1 else 0

/-- The scan for the insert position in `insert_into_leaf`. -/
def leafInsertIndex : List (Int × Int) -> Int -> Nat
  | [], _ => 0
  | entry :: entries, key =>
      if entry.1 < key then leafInsertIndex entries key + 1 else 0

def insertIntoLeaf (address : Nat) (entries : List (Int × Int))
    (next : Option Nat) (key value : Int) (heap : NodeHeap) :
    BPlusTreeNode × InsertState × NodeHeap :=
  let index := leafInsertIndex entries key
  if (entries[index]?).map Prod.fst = some key then
    (.leaf address entries next, .failed (ascii "duplicate id key"), heap)
  else
    let filled := entries.insertIdx index (key, value)
    if filled.length ≤ bptreeMaxKeys then
      (.leaf address filled next, .done, heap)
    else
      match createNode heap with
      | (none, heap) =>
          (.leaf address filled next,
            .failed (ascii "out of memory while splitting B+ tree leaf"), heap)
      | (some right, heap) =>
          let splitIndex := filled.length / 2
          let rightEntries := filled.drop splitIndex
          (.leaf address (filled.take splitIndex) (some right),
            .split ((rightEntries.head?.map Prod.fst).getD 0)
              (.leaf right rightEntries next),
            heap)

def insertIntoInternal (keys : List Int) (children : List BPlusTreeNode)
    (childIndex : Nat) :
    BPlusTreeNode × InsertState × NodeHeap ->
      BPlusTreeNode × InsertState × NodeHeap
  | (child, .failed message, heap) =>
      (.internal keys (children.set childIndex child), .failed message, heap)
  | (child, .done, heap) =>
      (.internal keys (children.set childIndex child), .done, heap)
  | (child, .split promotedKey rightNode, heap) =>
      let keys := keys.insertIdx childIndex promotedKey
      let children :=
        (children.set childIndex child).insertIdx (childIndex + 1) rightNode
      if keys.length ≤ bptreeMaxKeys then
        (.internal keys children, .done, heap)
      else
        match createNode heap with
        | (none, heap) =>
            (.internal keys children,
              .failed
                (ascii "out of memory while splitting B+ tree internal node"),
              heap)
        | (some _, heap) =>
            let midIndex := keys.length / 2
            (.internal (keys.take midIndex) (children.take (midIndex + 1)),
              .split (keys.getD midIndex 0)
                (.internal (keys.drop (midIndex + 1))
                  (children.drop (midIndex + 1))),
              heap)

mutual

def insertIntoNode (key value : Int) :
    BPlusTreeNode -> NodeHeap -> BPlusTreeNode × InsertState × NodeHeap
  | .leaf address entries next, heap =>
      insertIntoLeaf address entries next key value heap
  | .internal keys children, heap =>
      let childIndex := findChildIndex keys key
      match insertIntoChild key value children childIndex heap with
      | none => (.internal keys children, .failed [], heap)
      | some inserted => insertIntoInternal keys children childIndex inserted

def insertIntoChild (key value : Int) :
    List BPlusTreeNode -> Nat -> NodeHeap ->
      Option (BPlusTreeNode × InsertState × NodeHeap)
  | [], _, _ => none
  | child :: _, 0, heap => some (insertIntoNode key value child heap)
  | _ :: children, index + 1, heap =>
      insertIntoChild key value children index heap

end

mutual

/-- The descent of `bptree_search` and the scan of the leaf it ends in. -/
def searchNode (key : Int) : BPlusTreeNode -> Option Int
  | .leaf _ entries _ => entries.lookup key
  | .internal keys children => searchChild key children (findChildIndex keys key)

def searchChild (key : Int) : List BPlusTreeNode -> Nat -> Option Int
  | [], _ => none
  | child :: _, 0 => searchNode key child
  | _ :: children, index + 1 => searchChild key children index

end

/-- The public handle, with the number of nodes created for it so far. -/
structure BPlusTree where
  root : Option BPlusTreeNode
  created : Nat

/-- `bptree_init`, which is also what `bptree_free` leaves behind. -/
def bptreeInit : BPlusTree :=
  { root := none, created := 0 }

/-- What `bptree_insert` returns, with the memory left after it. -/
structure BPlusTreeInsert where
  tree : BPlusTree
  error : Option Bytes
  available : Option Nat

namespace BPlusTreeInsert

/-- The return value 1. -/
def Ok (result : BPlusTreeInsert) : Prop :=
  result.error = none

end BPlusTreeInsert

def bptreeInsert (tree : BPlusTree) (key value : Int) (available : Option Nat) :
    BPlusTreeInsert :=
  let heap : NodeHeap := { created := tree.created, available := available }
  match tree.root with
  | none =>
      match createNode heap with
      | (none, heap) =>
          { tree := tree
            error := some (ascii "out of memory while creating B+ tree root")
            available := heap.available }
      | (some address, heap) =>
          { tree :=
              { root := some (.leaf address [(key, value)] none)
                created := heap.created }
            error := none
            available := heap.available }
  | some root =>
      match insertIntoNode key value root heap with
      | (root, .failed message, heap) =>
          { tree := { root := some root, created := heap.created }
            error := some message
            available := heap.available }
      | (root, .done, heap) =>
          { tree := { root := some root, created := heap.created }
            error := none
            available := heap.available }
      | (root, .split promotedKey rightNode, heap) =>
          match createNode heap with
          | (none, heap) =>
              { tree := { root := some root, created := heap.created }
                error := some (ascii "out of memory while growing B+ tree root")
                available := heap.available }
          | (some _, heap) =>
              { tree :=
                  { root := some (.internal [promotedKey] [root, rightNode])
                    created := heap.created }
                error := none
                available := heap.available }

def bptreeSearch (tree : BPlusTree) (key : Int) : Option Int :=
  match tree.root with
  | none => none
  | some root => searchNode key root

end Index
end SqlCsvServer
