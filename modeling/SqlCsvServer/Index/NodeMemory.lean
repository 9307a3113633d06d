import SqlCsvServer.Foundation.FixedArray
import SqlCsvServer.Index.BPlusTree

/-!
# The nodes of `index/bptree.c` in memory

The tree as the source stores it: nodes behind pointers, with arrays of fixed size of
which `key_count` says how much is used.  A call that follows a null pointer or
leaves an array has no outcome.
-/

namespace SqlCsvServer
namespace Index
namespace InMemory

open Foundation

/-- `struct BPlusTreeNode`; a pointer is the number of its allocation. -/
structure Node where
  isLeaf : Bool
  keyCount : Nat
  keys : Vector Int (bptreeMaxKeys + 1)
  children : Vector (Option Nat) (bptreeMaxKeys + 2)
  values : Vector Int (bptreeMaxKeys + 1)
  next : Option Nat
deriving DecidableEq

/-- The nodes allocated so far, and how many more calls of `calloc` succeed. -/
structure Memory where
  nodes : List Node
  available : Option Nat

namespace Memory

def load (memory : Memory) (pointer : Nat) : Option Node :=
  memory.nodes[pointer]?

def store (memory : Memory) (pointer : Nat) (node : Node) : Memory :=
  { memory with nodes := memory.nodes.set pointer node }

end Memory

/-- What `calloc` and `create_node` leave in a new node. -/
def zeroed (isLeaf : Bool) : Node :=
  { isLeaf := isLeaf
    keyCount := 0
    keys := Vector.replicate _ 0
    children := Vector.replicate _ none
    values := Vector.replicate _ 0
    next := none }

def createNode (isLeaf : Bool) (memory : Memory) : Option Nat × Memory :=
  match memory.available with
  | none =>
      (some memory.nodes.length,
        { memory with nodes := memory.nodes ++ [zeroed isLeaf] })
  | some 0 => (none, memory)
  | some (left + 1) =>
      (some memory.nodes.length,
        { nodes := memory.nodes ++ [zeroed isLeaf], available := some left })

inductive InsertState where
  | failed (message : Bytes)
  | done
  | split (promotedKey : Int) (rightNode : Nat)

def findChildIndex (node : Node) (key : Int) : Option Nat :=
  scanCells node.keys (fun separator => separator ≤ key) node.keyCount 0

def placeEntry (node : Node) (insertIndex : Nat) (key value : Int) : Option Node := do
  let (keys, values) ←
    downTo insertIndex (both shiftCell shiftCell) node.keyCount (node.keys, node.values)
  let keys ← writeCell keys insertIndex key
  let values ← writeCell values insertIndex value
  return { node with keyCount := node.keyCount + 1, keys := keys, values := values }

/-- `insert_into_leaf` from `create_node` on. -/
def splitLeaf (pointer : Nat) (node : Node) (memory : Memory) :
    Option (InsertState × Memory) :=
  match createNode true memory with
  | (none, memory) =>
      some (.failed (ascii "out of memory while splitting B+ tree leaf"), memory)
  | (some right, memory) => do
      let splitIndex := node.keyCount / 2
      let rightCount := node.keyCount - splitIndex
      let rightNode ← memory.load right
      let (keys, values) ←
        upTo (both (copyCell node.keys splitIndex) (copyCell node.values splitIndex))
          rightCount (rightNode.keys, rightNode.values)
      let promotedKey ← readCell keys 0
      let rightNode :=
        { rightNode with
          keyCount := rightCount, keys := keys, values := values, next := node.next }
      let node := { node with keyCount := splitIndex, next := some right }
      return (.split promotedKey right, (memory.store right rightNode).store pointer node)

def insertIntoLeaf (key value : Int) (pointer : Nat) (memory : Memory) :
    Option (InsertState × Memory) := do
  let node ← memory.load pointer
  let insertIndex ← scanCells node.keys (fun stored => stored < key) node.keyCount 0
  if insertIndex < node.keyCount ∧ readCell node.keys insertIndex = some key then
    return (.failed (ascii "duplicate id key"), memory)
  else
    let node ← placeEntry node insertIndex key value
    let memory := memory.store pointer node
    if node.keyCount ≤ bptreeMaxKeys then
      return (.done, memory)
    else
      splitLeaf pointer node memory

def placeChild (node : Node) (childIndex : Nat) (promotedKey : Int) (rightNode : Nat) :
    Option Node := do
  let keys ← downTo childIndex shiftCell node.keyCount node.keys
  let children ← downTo (childIndex + 1) shiftCell (node.keyCount + 1) node.children
  let keys ← writeCell keys childIndex promotedKey
  let children ← writeCell children (childIndex + 1) (some rightNode)
  return { node with keyCount := node.keyCount + 1, keys := keys, children := children }

/-- `insert_into_internal` from `create_node` on. -/
def splitInternal (pointer : Nat) (node : Node) (memory : Memory) :
    Option (InsertState × Memory) :=
  match createNode false memory with
  | (none, memory) =>
      some (.failed (ascii "out of memory while splitting B+ tree internal node"), memory)
  | (some right, memory) => do
      let midIndex := node.keyCount / 2
      let promotedKey ← readCell node.keys midIndex
      let rightCount := node.keyCount - midIndex - 1
      let rightNode ← memory.load right
      let keys ← upTo (copyCell node.keys (midIndex + 1)) rightCount rightNode.keys
      let children ←
        upTo (copyCell node.children (midIndex + 1)) (rightCount + 1) rightNode.children
      let rightNode :=
        { rightNode with keyCount := rightCount, keys := keys, children := children }
      let node := { node with keyCount := midIndex }
      return (.split promotedKey right, (memory.store right rightNode).store pointer node)

def insertIntoInternal (recursive : Nat -> Memory -> Option (InsertState × Memory))
    (key : Int) (pointer : Nat) (memory : Memory) : Option (InsertState × Memory) := do
  let node ← memory.load pointer
  let childIndex ← findChildIndex node key
  let slot ← readCell node.children childIndex
  let child ← slot
  match ← recursive child memory with
  | (.failed message, memory) => return (.failed message, memory)
  | (.done, memory) => return (.done, memory)
  | (.split promotedKey rightNode, memory) =>
      let node ← memory.load pointer
      let node ← placeChild node childIndex promotedKey rightNode
      let memory := memory.store pointer node
      if node.keyCount ≤ bptreeMaxKeys then
        return (.done, memory)
      else
        splitInternal pointer node memory

def insertIntoNode (key value : Int) :
    Nat -> Nat -> Memory -> Option (InsertState × Memory)
  | 0, _, _ => none
  | fuel + 1, pointer, memory => do
      let node ← memory.load pointer
      if node.isLeaf then
        insertIntoLeaf key value pointer memory
      else
        insertIntoInternal (insertIntoNode key value fuel) key pointer memory

/-- `BPlusTree`, with the memory its nodes are in. -/
structure Tree where
  root : Option Nat
  memory : Memory

/-- `bptree_init`, where memory never runs out. -/
def bptreeInit : Tree :=
  { root := none
    memory := { nodes := [], available := none } }

/-- `bptree_insert`: the tree after it, and its message. -/
def bptreeInsert (tree : Tree) (key value : Int) : Option (Tree × Option Bytes) :=
  match tree.root with
  | none =>
      match createNode true tree.memory with
      | (none, memory) =>
          some ({ tree with memory := memory },
            some (ascii "out of memory while creating B+ tree root"))
      | (some root, memory) => do
          let node ← memory.load root
          let keys ← writeCell node.keys 0 key
          let values ← writeCell node.values 0 value
          let node := { node with keyCount := 1, keys := keys, values := values }
          return ({ root := some root, memory := memory.store root node }, none)
  | some root => do
      -- no path is longer than there are nodes
      match ← insertIntoNode key value tree.memory.nodes.length root tree.memory with
      | (.failed message, memory) =>
          return ({ root := some root, memory := memory }, some message)
      | (.done, memory) => return ({ root := some root, memory := memory }, none)
      | (.split promotedKey rightNode, memory) =>
          match createNode false memory with
          | (none, memory) =>
              return ({ root := some root, memory := memory },
                some (ascii "out of memory while growing B+ tree root"))
          | (some newRoot, memory) =>
              let node ← memory.load newRoot
              let keys ← writeCell node.keys 0 promotedKey
              let children ← writeCell node.children 0 (some root)
              let children ← writeCell children 1 (some rightNode)
              let node := { node with keyCount := 1, keys := keys, children := children }
              return ({ root := some newRoot, memory := memory.store newRoot node }, none)

/-- A sequence of calls of `bptree_insert`; what they return is not looked at. -/
def bptreeInsertAll (tree : Tree) : List (Int × Int) -> Option Tree
  | [] => some tree
  | (key, value) :: inserts => do
      let (tree, _) ← bptreeInsert tree key value
      bptreeInsertAll tree inserts

end InMemory
end Index
end SqlCsvServer
