import SqlCsvServer.Common.EngineLock
import SqlCsvServer.Foundation.LockSystem
import SqlCsvServer.Index.Rebuild
import SqlCsvServer.Storage.AppendFrame

/-!
# The index registry behind its mutex

`ensure_loaded` holds `registry_mutex` while it finds or creates an entry.
Everything after that goes through the pointer it has got.  A pointer is a block of
the allocator and a slot in it; when a creation grows the array the entries move to
a new block, and the old one is given back with what stood in it.
-/

namespace SqlCsvServer
namespace Index

open Foundation Common Storage

/-!
## Memory
-/

/-- The variables of the module, and the blocks that were given back. -/
structure IndexMemory where
  index : IndexState
  freed : Nat -> List TableIndex

structure IndexPointer where
  block : Nat
  slot : Nat
deriving DecidableEq

namespace IndexMemory

def PointsTo (memory : IndexMemory) (pointer : IndexPointer)
    (tableName : Bytes) (entry : TableIndex) : Prop :=
  pointer.block = memory.index.registry.block ∧
    findTableIndex memory.index.registry.items tableName =
      some (pointer.slot, entry)

def load (memory : IndexMemory) (pointer : IndexPointer) : TableIndex :=
  if pointer.block = memory.index.registry.block then
    memory.index.registry.items.getD pointer.slot (newTableIndex [])
  else (memory.freed pointer.block).getD pointer.slot (newTableIndex [])

def setRegistry (memory : IndexMemory) (registry : TableIndexRegistry) :
    IndexMemory :=
  { memory with index := { memory.index with registry := registry } }

def store (memory : IndexMemory) (pointer : IndexPointer) (entry : TableIndex) :
    IndexMemory :=
  if pointer.block = memory.index.registry.block then
    memory.setRegistry (writeEntry memory.index.registry pointer.slot entry)
  else
    { memory with
      freed :=
        Function.update memory.freed pointer.block
          ((memory.freed pointer.block).set pointer.slot entry) }

def modify (memory : IndexMemory) (pointer : IndexPointer)
    (change : TableIndex -> TableIndex) : IndexMemory :=
  memory.store pointer (change (memory.load pointer))

def freedBy (memory : IndexMemory) (registry : TableIndexRegistry) :
    Nat -> List TableIndex :=
  if registry.block = memory.index.registry.block then memory.freed
  else
    Function.update memory.freed memory.index.registry.block
      memory.index.registry.items

/-- `get_or_create_table_index`; the array moves when it grows. -/
def getOrCreate (tableName : Bytes) (available : Option Nat)
    (memory : IndexMemory) :
    IndexMemory × Except Bytes IndexPointer × Option Nat :=
  match getOrCreateTableIndex memory.index.registry tableName available with
  | (registry, found, available) =>
      ({ index := { memory.index with registry := registry }
         freed := memory.freedBy registry },
        found.map fun entry => { block := registry.block, slot := entry.1 },
        available)

end IndexMemory

/-- What a statement works on: the files and the memory of the index. -/
structure EngineMemory where
  dataDir : DataDir
  indexMemory : IndexMemory

def EngineMemory.onIndex {α : Type} (f : IndexMemory -> IndexMemory × α)
    (memory : EngineMemory) : EngineMemory × α :=
  ({ memory with indexMemory := (f memory.indexMemory).1 },
    (f memory.indexMemory).2)

def EngineMemory.modify (pointer : IndexPointer)
    (change : TableIndex -> TableIndex) (memory : EngineMemory) : EngineMemory :=
  { memory with indexMemory := memory.indexMemory.modify pointer change }

def EngineMemory.load (pointer : IndexPointer) (memory : EngineMemory) :
    TableIndex :=
  memory.indexMemory.load pointer

/-!
## `ensure_loaded`
-/

abbrev IndexProgram (ρ : Type) : Type :=
  LockProgram EngineLock IndexPointer EngineMemory ρ

def failLoad (pointer : IndexPointer) (text : Bytes) (available : Option Nat) :
    IndexProgram (Except Bytes IndexPointer × Option Nat) :=
  .writeAt pointer (EngineMemory.modify pointer unloadedTableIndex)
    (.done (.error text, available))

/-- One insert of `rebuild_row` into the tree behind a pointer. -/
def insertBehind (pointer : IndexPointer) (id rowOffset : Int)
    (available : Option Nat) (memory : EngineMemory) :
    EngineMemory × Option Bytes × Option Nat :=
  let inserted :=
    bptreeInsert (memory.load pointer).tree id rowOffset available
  (memory.modify pointer fun entry => { entry with tree := inserted.tree },
    inserted.error, inserted.available)

/-- The scan of `ensure_loaded`, row by row; `nextId` is its own. -/
def loadRows (pointer : IndexPointer) :
    List (Nat × Bytes) -> Int -> Option Nat ->
      IndexProgram (Except Bytes IndexPointer × Option Nat)
  | [], nextId, available =>
      .writeAt pointer
        (EngineMemory.modify pointer fun entry =>
          { entry with loaded := true, nextId := nextId })
        (.done (.ok pointer, available))
  | (offset, text) :: lines, nextId, available =>
      match csvParseLine text with
      | .error error => failLoad pointer error available
      | .ok _ =>
          .callAt pointer (insertBehind pointer nextId offset available) fun inserted =>
            match inserted with
            | (some error, available) => failLoad pointer error available
            | (none, available) =>
                loadRows pointer lines (nextId + 1) available

/-- The part of `ensure_loaded` behind the mutex. -/
def loadBehind (storageName : Bytes) (pointer : IndexPointer)
    (available : Option Nat) :
    IndexProgram (Except Bytes IndexPointer × Option Nat) :=
  .readAt pointer (fun memory => (memory.load pointer).loaded) fun loaded =>
    if loaded then .done (.ok pointer, available)
    else
      .writeAt pointer
        (EngineMemory.modify pointer fun entry => { entry with tree := bptreeInit })
        (.read (fun memory => openTableFile memory.dataDir storageName) fun
          | .error text => failLoad pointer text available
          | .ok contents =>
              if contents = [] then
                failLoad pointer (ascii "table data file is empty") available
              else loadRows pointer (dataLines contents) 1 available)

/-- `ensure_loaded`. -/
def ensureLoadedProgram (storageName : Bytes) (available : Option Nat) :
    IndexProgram (Except Bytes IndexPointer × Option Nat) :=
  .lock .registry
    (.call
      (EngineMemory.onIndex (IndexMemory.getOrCreate storageName available))
      fun found =>
        .unlock .registry
          (match found with
          | (.error text, available) => .done (.error text, available)
          | (.ok pointer, available) =>
              loadBehind storageName pointer available))

/-!
## The operations
-/

/-- `table_index_get_next_id`. -/
def getNextIdProgram (storageName : Bytes) (available : Option Nat) :
    IndexProgram (Except Bytes Int × Option Nat) :=
  (ensureLoadedProgram storageName available).andThen fun
    | (.error text, available) => .done (.error text, available)
    | (.ok pointer, available) =>
        .readAt pointer (fun memory => (memory.load pointer).nextId) fun nextId =>
          .done (.ok nextId, available)

/-- `table_index_find_row`. -/
def findRowProgram (storageName : Bytes) (id : Int) (available : Option Nat) :
    IndexProgram (Except Bytes (Option Int)) :=
  (ensureLoadedProgram storageName available).andThen fun
    | (.error text, _) => .done (.error text)
    | (.ok pointer, _) =>
        .readAt pointer (fun memory => bptreeSearch (memory.load pointer).tree id)
          fun found => .done (.ok found)

/-- The test of the hook in `table_index_register_row`, without a mutex. -/
def consumeRegisterFailure (memory : IndexMemory) : IndexMemory × Bool :=
  if memory.index.forceNextRegisterFailure then
    ({ memory with
        index := { memory.index with forceNextRegisterFailure := false } },
      true)
  else (memory, false)

/-- `table_index_register_row`; the result is the error message. -/
def registerRowProgram (storageName : Bytes) (id rowOffset : Int)
    (available : Option Nat) : IndexProgram (Option Bytes) :=
  .call (EngineMemory.onIndex consumeRegisterFailure) fun forced =>
    if forced then .done (some (ascii "forced index registration failure"))
    else
      (ensureLoadedProgram storageName available).andThen fun
        | (.error text, _) => .done (some text)
        | (.ok pointer, available) =>
            .callAt pointer (insertBehind pointer id rowOffset available) fun inserted =>
              match inserted.1 with
              | some error => .done (some error)
              | none =>
                  .writeAt pointer
                    (EngineMemory.modify pointer fun entry =>
                      { entry with
                        nextId :=
                          if entry.nextId ≤ id then id + 1 else entry.nextId })
                    (.done none)

/-- `table_index_invalidate` under the mutex. -/
def invalidateEntry (storageName : Bytes) (memory : EngineMemory) :
    EngineMemory :=
  { memory with
    indexMemory :=
      { memory.indexMemory with
        index := tableIndexInvalidate memory.indexMemory.index storageName } }

/-- `table_index_invalidate`. -/
def invalidateProgram (storageName : Bytes) : IndexProgram Unit :=
  .lock .registry
    (.write (invalidateEntry storageName) (.unlock .registry (.done ())))

end Index
end SqlCsvServer
