import SqlCsvServer.Index.BPlusTreeMap
import SqlCsvServer.Storage.Schema

/-!
# The index registry of `index/table_index.c`

One entry a table: whether its tree is loaded, the tree, and the next internal
id.  The entries stand in one growable array, which a creation may move.  This
module runs each operation to its end; the interleaved runs of two requests use
the same steps.
-/

namespace SqlCsvServer
namespace Index

open Foundation Common Storage

structure TableIndex where
  tableName : Bytes
  loaded : Bool
  tree : BPlusTree
  nextId : Int

/-- `TableIndexRegistry`; `block` numbers the allocation of the array. -/
structure TableIndexRegistry where
  block : Nat
  items : List TableIndex
  capacity : Nat

/-- The file-scope variables of the module. -/
structure IndexState where
  registry : TableIndexRegistry
  forceNextRegisterFailure : Bool

def indexStateInit : IndexState :=
  { registry := { block := 0, items := [], capacity := 0 }
    forceNextRegisterFailure := false }

def allocate : Option Nat -> Bool × Option Nat
  | none => (true, none)
  | some 0 => (false, some 0)
  | some (n + 1) => (true, some n)

/-!
## Entries
-/

/-- `find_table_index_locked`: the slot and the entry in it. -/
def findTableIndex : List TableIndex -> Bytes -> Option (Nat × TableIndex)
  | [], _ => none
  | entry :: items, tableName =>
      if entry.tableName = tableName then some (0, entry)
      else
        (findTableIndex items tableName).map fun found =>
          (found.1 + 1, found.2)

def newTableIndex (tableName : Bytes) : TableIndex :=
  { tableName := tableName, loaded := false, tree := bptreeInit, nextId := 1 }

def unloadedTableIndex (entry : TableIndex) : TableIndex :=
  { entry with loaded := false, tree := bptreeInit, nextId := 1 }

def grownCapacity (capacity : Nat) : Nat :=
  if capacity = 0 then 4 else capacity * 2

def getOrCreateTableIndex (registry : TableIndexRegistry) (tableName : Bytes)
    (available : Option Nat) :
    TableIndexRegistry × Except Bytes (Nat × TableIndex) × Option Nat :=
  match findTableIndex registry.items tableName with
  | some existing => (registry, .ok existing, available)
  | none =>
      let create := fun (registry : TableIndexRegistry) (available : Option Nat) =>
        match allocate available with
        | (false, available) =>
            (registry,
              Except.error (ascii "out of memory while copying table name"),
              available)
        | (true, available) =>
            let entry := newTableIndex tableName
            ({ registry with items := registry.items ++ [entry] },
              .ok (registry.items.length, entry), available)
      if registry.items.length = registry.capacity then
        match allocate available with
        | (false, available) =>
            (registry,
              .error (ascii "out of memory while creating table index"),
              available)
        | (true, available) =>
            create
              { registry with
                block := registry.block + 1
                capacity := grownCapacity registry.capacity }
              available
      else create registry available

def writeEntry (registry : TableIndexRegistry) (slot : Nat)
    (entry : TableIndex) : TableIndexRegistry :=
  { registry with items := registry.items.set slot entry }

/-!
## Rebuilding an entry from its file
-/

structure RebuildContext where
  tree : BPlusTree
  nextId : Int
  available : Option Nat

/-- The context `ensure_loaded` starts a scan with. -/
def rebuildStart (available : Option Nat) : RebuildContext :=
  { tree := bptreeInit, nextId := 1, available := available }

def rebuildRow (_fields : List Bytes) (rowOffset : Int)
    (rebuild : RebuildContext) : RebuildContext × Option Bytes :=
  let inserted :=
    bptreeInsert rebuild.tree rebuild.nextId rowOffset rebuild.available
  match inserted.error with
  | some error =>
      ({ rebuild with
          tree := inserted.tree
          available := inserted.available }, some error)
  | none =>
      ({ tree := inserted.tree
         nextId := rebuild.nextId + 1
         available := inserted.available }, none)

/-- The part of `ensure_loaded` behind the mutex. -/
def loadEntry (dataDir : DataDir) (storageName : Bytes) (entry : TableIndex)
    (available : Option Nat) : TableIndex × Option Bytes × Option Nat :=
  if entry.loaded then (entry, none, available)
  else
    match scanRowsCsv dataDir storageName rebuildRow (rebuildStart available) with
    | (rebuild, some error) =>
        (unloadedTableIndex entry, some error, rebuild.available)
    | (rebuild, none) =>
        ({ entry with
            loaded := true
            tree := rebuild.tree
            nextId := rebuild.nextId }, none, rebuild.available)

def ensureLoaded (dataDir : DataDir) (schema : Schema)
    (registry : TableIndexRegistry) (available : Option Nat) :
    TableIndexRegistry × Except Bytes (Nat × TableIndex) × Option Nat :=
  match getOrCreateTableIndex registry schema.storageName available with
  | (registry, .error error, available) => (registry, .error error, available)
  | (registry, .ok (slot, entry), available) =>
      match loadEntry dataDir schema.storageName entry available with
      | (entry, some error, available) =>
          (writeEntry registry slot entry, .error error, available)
      | (entry, none, available) =>
          (writeEntry registry slot entry, .ok (slot, entry), available)

/-!
## The operations
-/

def tableIndexRegistryReset (state : IndexState) : IndexState :=
  { registry := { block := state.registry.block, items := [], capacity := 0 }
    forceNextRegisterFailure := false }

def tableIndexInvalidate (state : IndexState) (tableName : Bytes) : IndexState :=
  match findTableIndex state.registry.items tableName with
  | none => state
  | some (slot, entry) =>
      { state with
        registry := writeEntry state.registry slot (unloadedTableIndex entry) }

def tableIndexIsLoaded (state : IndexState) (tableName : Bytes) : Bool :=
  match findTableIndex state.registry.items tableName with
  | none => false
  | some (_, entry) => entry.loaded

def tableIndexGetNextId (dataDir : DataDir) (schema : Schema)
    (state : IndexState) (available : Option Nat) :
    IndexState × Except Bytes Int × Option Nat :=
  match ensureLoaded dataDir schema state.registry available with
  | (registry, .error error, available) =>
      ({ state with registry := registry }, .error error, available)
  | (registry, .ok (_, entry), available) =>
      ({ state with registry := registry }, .ok entry.nextId, available)

/-- The update of a loaded entry in `table_index_register_row`. -/
def registerInEntry (entry : TableIndex) (id rowOffset : Int)
    (available : Option Nat) : TableIndex × Option Bytes × Option Nat :=
  let inserted := bptreeInsert entry.tree id rowOffset available
  match inserted.error with
  | some error =>
      ({ entry with tree := inserted.tree }, some error, inserted.available)
  | none =>
      ({ entry with
          tree := inserted.tree
          nextId := if entry.nextId ≤ id then id + 1 else entry.nextId },
        none, inserted.available)

def tableIndexRegisterRow (dataDir : DataDir) (schema : Schema)
    (id rowOffset : Int) (state : IndexState) (available : Option Nat) :
    IndexState × Option Bytes × Option Nat :=
  if state.forceNextRegisterFailure then
    ({ state with forceNextRegisterFailure := false },
      some (ascii "forced index registration failure"), available)
  else
    match ensureLoaded dataDir schema state.registry available with
    | (registry, .error error, available) =>
        ({ state with registry := registry }, some error, available)
    | (registry, .ok (slot, entry), available) =>
        match registerInEntry entry id rowOffset available with
        | (entry, error, available) =>
            ({ state with registry := writeEntry registry slot entry }, error,
              available)

def tableIndexFindRow (dataDir : DataDir) (schema : Schema) (id : Int)
    (state : IndexState) (available : Option Nat) :
    IndexState × Except Bytes (Option Int) × Option Nat :=
  match ensureLoaded dataDir schema state.registry available with
  | (registry, .error error, available) =>
      ({ state with registry := registry }, .error error, available)
  | (registry, .ok (_, entry), available) =>
      ({ state with registry := registry }, .ok (bptreeSearch entry.tree id),
        available)

def tableIndexForceNextRegisterFailure (state : IndexState) : IndexState :=
  { state with forceNextRegisterFailure := true }

end Index
end SqlCsvServer
