import SqlCsvServer.Index.Pointers
import SqlCsvServer.Index.View

/-!
# The index operations with nobody in between

Run without interruption, the programs behind the mutex do what the functions of
`Index.TableIndex` do: no pointer gets stale, so every write reaches the entry
it is meant for.
-/

namespace SqlCsvServer
namespace Index

open Foundation Common Storage

/-!
## Reads and writes through a pointer
-/

section Pointer

variable {memory : IndexMemory} {pointer : IndexPointer} {tableName : Bytes}
  {entry : TableIndex}

theorem findTableIndex_getElem {items : List TableIndex} {slot : Nat}
    (h : findTableIndex items tableName = some (slot, entry)) :
    items[slot]? = some entry := by
  induction items generalizing slot with
  | nil => simp [findTableIndex] at h
  | cons head items ih =>
      by_cases hname : head.tableName = tableName
      · simp only [findTableIndex, hname, if_true, Option.some.injEq,
          Prod.mk.injEq] at h
        rcases h with ⟨rfl, rfl⟩
        rfl
      · simp only [findTableIndex, hname, if_false, Option.map_eq_some_iff] at h
        rcases h with ⟨⟨i, found⟩, hfound, hpair⟩
        rcases Prod.mk.inj hpair with ⟨rfl, rfl⟩
        exact ih hfound

theorem writeEntry_self {registry : TableIndexRegistry} {slot : Nat}
    (h : findTableIndex registry.items tableName = some (slot, entry)) :
    writeEntry registry slot entry = registry := by
  have hget := findTableIndex_getElem h
  have hslot := (List.getElem?_eq_some_iff.mp hget).1
  have hsame := (List.getElem?_eq_some_iff.mp hget).2
  unfold writeEntry
  rw [← hsame, List.set_getElem_self]

theorem writeEntry_writeEntry (registry : TableIndexRegistry) (slot : Nat)
    (first second : TableIndex) :
    writeEntry (writeEntry registry slot first) slot second =
      writeEntry registry slot second := by
  simp [writeEntry]

theorem load_of_pointsTo (h : memory.PointsTo pointer tableName entry) :
    memory.load pointer = entry := by
  have hget := findTableIndex_getElem h.2
  unfold IndexMemory.load
  rw [if_pos h.1, List.getD_eq_getElem?_getD, hget]
  rfl

theorem store_of_pointsTo (h : memory.PointsTo pointer tableName entry)
    (written : TableIndex) :
    memory.store pointer written =
      memory.setRegistry
        (writeEntry memory.index.registry pointer.slot written) := by
  unfold IndexMemory.store
  rw [if_pos h.1]

theorem pointsTo_store (h : memory.PointsTo pointer tableName entry)
    {written : TableIndex} (hwritten : written.tableName = tableName) :
    (memory.store pointer written).PointsTo pointer tableName written := by
  rw [store_of_pointsTo h]
  constructor
  · exact h.1
  · change findTableIndex (memory.index.registry.items.set pointer.slot written)
      tableName = _
    rw [findTableIndex_set h.2 hwritten, if_pos rfl]

theorem store_store (h : memory.PointsTo pointer tableName entry)
    {first : TableIndex} (hfirst : first.tableName = tableName)
    (second : TableIndex) :
    (memory.store pointer first).store pointer second =
      memory.store pointer second := by
  rw [store_of_pointsTo (pointsTo_store h hfirst), store_of_pointsTo h,
    store_of_pointsTo h]
  unfold IndexMemory.setRegistry
  simp only [writeEntry_writeEntry]

theorem store_self (h : memory.PointsTo pointer tableName entry) :
    memory.store pointer entry = memory := by
  rw [store_of_pointsTo h, writeEntry_self h.2]
  rfl

theorem pointsTo_name (h : memory.PointsTo pointer tableName entry) :
    entry.tableName = tableName :=
  findTableIndex_tableName h.2

end Pointer

abbrev EngineMemory.PointsTo (memory : EngineMemory) (pointer : IndexPointer)
    (tableName : Bytes) (entry : TableIndex) : Prop :=
  memory.indexMemory.PointsTo pointer tableName entry

def EngineMemory.store (memory : EngineMemory) (pointer : IndexPointer)
    (entry : TableIndex) : EngineMemory :=
  { memory with indexMemory := memory.indexMemory.store pointer entry }

section Engine

variable {memory : EngineMemory} {pointer : IndexPointer} {tableName : Bytes}
  {entry : TableIndex}

theorem EngineMemory.load_of_pointsTo
    (h : memory.PointsTo pointer tableName entry) :
    memory.load pointer = entry :=
  Index.load_of_pointsTo h

theorem EngineMemory.modify_of_pointsTo
    (h : memory.PointsTo pointer tableName entry)
    (change : TableIndex -> TableIndex) :
    memory.modify pointer change = memory.store pointer (change entry) := by
  unfold EngineMemory.modify EngineMemory.store IndexMemory.modify
  rw [Index.load_of_pointsTo h]

theorem EngineMemory.pointsTo_store
    (h : memory.PointsTo pointer tableName entry) {written : TableIndex}
    (hwritten : written.tableName = tableName) :
    (memory.store pointer written).PointsTo pointer tableName written :=
  Index.pointsTo_store h hwritten

theorem EngineMemory.store_store
    (h : memory.PointsTo pointer tableName entry) {first : TableIndex}
    (hfirst : first.tableName = tableName) (second : TableIndex) :
    (memory.store pointer first).store pointer second =
      memory.store pointer second := by
  unfold EngineMemory.store
  simp only [Index.store_store h hfirst second]

theorem EngineMemory.store_self
    (h : memory.PointsTo pointer tableName entry) :
    memory.store pointer entry = memory := by
  unfold EngineMemory.store
  rw [Index.store_self h]

@[simp] theorem EngineMemory.store_dataDir :
    (memory.store pointer entry).dataDir = memory.dataDir :=
  rfl

end Engine

/-!
## Loading
-/

/-- What `ensure_loaded` returns after its scan. -/
def loadResult (pointer : IndexPointer) : Option Bytes -> Except Bytes IndexPointer
  | none => .ok pointer
  | some text => .error text

section Load

variable {memory : EngineMemory} {pointer : IndexPointer} {tableName : Bytes}
  {entry : TableIndex}

theorem failLoad_run (h : memory.PointsTo pointer tableName entry)
    (text : Bytes) (available : Option Nat) :
    (failLoad pointer text available).run memory =
      (memory.store pointer (unloadedTableIndex entry),
        .error text, available) := by
  unfold failLoad
  rw [LockProgram.run_writeAt, LockProgram.run_done,
    EngineMemory.modify_of_pointsTo h]

theorem insertBehind_of_pointsTo (h : memory.PointsTo pointer tableName entry)
    (id rowOffset : Int) (available : Option Nat) :
    insertBehind pointer id rowOffset available memory =
      (memory.store pointer
          { entry with
            tree := (bptreeInsert entry.tree id rowOffset available).tree },
        (bptreeInsert entry.tree id rowOffset available).error,
        (bptreeInsert entry.tree id rowOffset available).available) := by
  unfold insertBehind
  rw [EngineMemory.load_of_pointsTo h]
  simp only [EngineMemory.modify_of_pointsTo h]

theorem loadRows_run (lines : List (Nat × Bytes)) :
    forall {memory : EngineMemory} {entry : TableIndex} (nextId : Int)
        (available : Option Nat) {walked : RebuildContext}
        {error : Option Bytes},
      memory.PointsTo pointer tableName entry ->
        visitLines rebuildRow lines
            { tree := entry.tree, nextId := nextId, available := available } =
          (walked, error) ->
        (loadRows pointer lines nextId available).run memory =
          (memory.store pointer
              (if error = none then
                { entry with
                  loaded := true
                  tree := walked.tree
                  nextId := walked.nextId }
              else unloadedTableIndex entry),
            loadResult pointer error, walked.available) := by
  induction lines with
  | nil =>
      intro memory entry nextId available walked error h hwalk
      simp only [visitLines, Prod.mk.injEq] at hwalk
      rcases hwalk with ⟨rfl, rfl⟩
      unfold loadRows
      rw [LockProgram.run_writeAt, LockProgram.run_done,
        EngineMemory.modify_of_pointsTo h, if_pos rfl]
      rfl
  | cons line lines ih =>
      intro memory entry nextId available walked error h hwalk
      rcases line with ⟨offset, text⟩
      unfold loadRows
      rw [visitLines] at hwalk
      cases hparse : csvParseLine text with
      | error fault =>
          simp only [hparse, Prod.mk.injEq] at hwalk
          rcases hwalk with ⟨rfl, rfl⟩
          simp only [failLoad_run h, reduceCtorEq, if_false]
          rfl
      | ok fields =>
          simp only [hparse] at hwalk
          simp only [LockProgram.run_callAt, insertBehind_of_pointsTo h]
          have hname := pointsTo_name h
          have hnow := @EngineMemory.pointsTo_store _ _ _ _ h
            { entry with
              tree := (bptreeInsert entry.tree nextId offset available).tree }
            hname
          have hrestored : forall written : TableIndex,
              (memory.store pointer
                  { entry with
                    tree :=
                      (bptreeInsert entry.tree nextId offset
                        available).tree }).store pointer written =
                memory.store pointer written :=
            fun written => @EngineMemory.store_store _ _ _ _ h
              { entry with
                tree := (bptreeInsert entry.tree nextId offset available).tree }
              hname written
          cases herror :
              (bptreeInsert entry.tree nextId offset available).error with
          | some fault =>
              simp only [rebuildRow, herror, Prod.mk.injEq] at hwalk
              rcases hwalk with ⟨rfl, rfl⟩
              simp only [failLoad_run hnow, hrestored, reduceCtorEq, if_false]
              rfl
          | none =>
              simp only [rebuildRow, herror] at hwalk
              simp only
              rw [ih (nextId + 1) _ hnow hwalk, hrestored]
              cases error with
              | none => rfl
              | some fault => rfl

theorem loadBehind_run (h : memory.PointsTo pointer tableName entry)
    (available : Option Nat) :
    (loadBehind tableName pointer available).run memory =
      (memory.store pointer
          (loadEntry memory.dataDir tableName entry available).1,
        loadResult pointer
          (loadEntry memory.dataDir tableName entry available).2.1,
        (loadEntry memory.dataDir tableName entry available).2.2) := by
  unfold loadBehind loadEntry
  rw [LockProgram.run_readAt, EngineMemory.load_of_pointsTo h]
  by_cases hloaded : entry.loaded = true
  · simp only [hloaded, if_true, LockProgram.run_done]
    rw [EngineMemory.store_self h]
    rfl
  · simp only [hloaded, Bool.false_eq_true, if_false, LockProgram.run_writeAt,
      LockProgram.run_read]
    rw [EngineMemory.modify_of_pointsTo h]
    have hname := pointsTo_name h
    have hnow := @EngineMemory.pointsTo_store _ _ _ _ h
      { entry with tree := bptreeInit } hname
    have hrestored : forall written : TableIndex,
        (memory.store pointer { entry with tree := bptreeInit }).store pointer
            written =
          memory.store pointer written :=
      fun written => @EngineMemory.store_store _ _ _ _ h
        { entry with tree := bptreeInit } hname written
    rw [EngineMemory.store_dataDir]
    unfold scanRowsCsv
    cases hopen : openTableFile memory.dataDir tableName with
    | error text =>
        simp only [failLoad_run hnow, hrestored]
        rfl
    | ok contents =>
        simp only
        by_cases hempty : contents = []
        · subst hempty
          simp only [if_true, failLoad_run hnow, hrestored]
          rfl
        · simp only [hempty, if_false]
          rw [scanRows_eq_visitLines rebuildRow hempty]
          rcases hwalk : visitLines rebuildRow (dataLines contents)
              (rebuildStart available) with
            ⟨walked, error⟩
          rw [loadRows_run (dataLines contents) 1 available hnow hwalk, hrestored]
          cases error with
          | none => rfl
          | some text => rfl

end Load

/-!
## The operations
-/

def EngineMemory.withIndex (memory : EngineMemory) (index : IndexState)
    (freed : Nat -> List TableIndex) : EngineMemory :=
  { memory with indexMemory := { index := index, freed := freed } }

section Operations

variable (schema : Schema) (memory : EngineMemory) (available : Option Nat)

theorem ensureLoadedProgram_run {registry : TableIndexRegistry}
    {result : Except Bytes (Nat × TableIndex)} {left : Option Nat}
    (h : ensureLoaded memory.dataDir schema memory.indexMemory.index.registry
      available = (registry, result, left)) :
    exists freed,
      (ensureLoadedProgram schema.storageName available).run memory =
          (memory.withIndex
              { memory.indexMemory.index with registry := registry } freed,
            result.map fun found => { block := registry.block, slot := found.1 },
            left) ∧
        forall slot entry, result = .ok (slot, entry) ->
          findTableIndex registry.items schema.storageName =
            some (slot, entry) := by
  unfold ensureLoaded at h
  unfold ensureLoadedProgram
  rw [LockProgram.run_lock, LockProgram.run_call, LockProgram.run_unlock]
  unfold EngineMemory.onIndex IndexMemory.getOrCreate
  rcases hcreate : getOrCreateTableIndex memory.indexMemory.index.registry
      schema.storageName available with
    ⟨created, found, rest⟩
  rw [hcreate] at h
  rcases getOrCreateTableIndex_cases hcreate with
    ⟨slot, entry, rfl, hfound, _, _⟩ | ⟨text, rfl, _⟩
  · simp only [Except.map]
    have hpoints :
        (memory.withIndex { memory.indexMemory.index with registry := created }
          (memory.indexMemory.freedBy created)).PointsTo
          { block := created.block, slot := slot } schema.storageName entry :=
      ⟨rfl, hfound⟩
    have hrun := loadBehind_run hpoints rest
    rcases hload : loadEntry memory.dataDir schema.storageName entry rest with
      ⟨loaded, error, last⟩
    have hname : loaded.tableName = schema.storageName := by
      have hkept :=
        (@loadEntry_view memory.dataDir schema.storageName entry rest).2.1
      rw [hload] at hkept
      exact hkept.trans (findTableIndex_tableName hfound)
    change (loadBehind schema.storageName _ rest).run _ = (_, _) at hrun
    unfold EngineMemory.store at hrun
    rw [store_of_pointsTo hpoints] at hrun
    simp only [EngineMemory.withIndex, IndexMemory.setRegistry, hload] at hrun
    refine ⟨memory.indexMemory.freedBy created, ?_⟩
    rw [hrun]
    simp only [hload] at h
    cases error with
    | some text =>
        simp only [Prod.mk.injEq] at h
        rcases h with ⟨rfl, rfl, rfl⟩
        exact ⟨rfl, fun slot entry hok => by cases hok⟩
    | none =>
        simp only [Prod.mk.injEq] at h
        rcases h with ⟨rfl, rfl, rfl⟩
        refine ⟨rfl, ?_⟩
        intro slot' entry' hok
        simp only [Except.ok.injEq, Prod.mk.injEq] at hok
        rcases hok with ⟨rfl, rfl⟩
        unfold writeEntry
        rw [findTableIndex_set hfound hname, if_pos rfl]
  · simp only [Prod.mk.injEq] at h
    rcases h with ⟨rfl, rfl, rfl⟩
    exact ⟨_, rfl, fun slot entry hok => by cases hok⟩

theorem pointsTo_withIndex {registry : TableIndexRegistry} {hook : Bool}
    {freed : Nat -> List TableIndex} {tableName : Bytes} {slot : Nat}
    {entry : TableIndex}
    (h : findTableIndex registry.items tableName = some (slot, entry)) :
    (memory.withIndex
        { registry := registry, forceNextRegisterFailure := hook }
        freed).PointsTo
      { block := registry.block, slot := slot } tableName entry :=
  ⟨rfl, h⟩

theorem getNextIdProgram_run {index : IndexState} {result : Except Bytes Int}
    {left : Option Nat}
    (h : tableIndexGetNextId memory.dataDir schema memory.indexMemory.index
      available = (index, result, left)) :
    exists freed,
      (getNextIdProgram schema.storageName available).run memory =
        (memory.withIndex index freed, result, left) := by
  unfold tableIndexGetNextId at h
  unfold getNextIdProgram
  rcases hload : ensureLoaded memory.dataDir schema
      memory.indexMemory.index.registry available with
    ⟨registry, found, rest⟩
  rcases ensureLoadedProgram_run schema memory available hload with
    ⟨freed, hrun, hfound⟩
  rw [LockProgram.run_andThen, hrun]
  rw [hload] at h
  refine ⟨freed, ?_⟩
  cases found with
  | error text =>
      simp only [Prod.mk.injEq] at h
      rcases h with ⟨rfl, rfl, rfl⟩
      rfl
  | ok found =>
      rcases found with ⟨slot, entry⟩
      simp only [Prod.mk.injEq] at h
      rcases h with ⟨rfl, rfl, rfl⟩
      simp only [Except.map, LockProgram.run_readAt, LockProgram.run_done]
      rw [EngineMemory.load_of_pointsTo
        (pointsTo_withIndex memory (hfound slot entry rfl))]

theorem findRowProgram_run (id : Int) {index : IndexState}
    {result : Except Bytes (Option Int)} {left : Option Nat}
    (h : tableIndexFindRow memory.dataDir schema id memory.indexMemory.index
      available = (index, result, left)) :
    exists freed,
      (findRowProgram schema.storageName id available).run memory =
        (memory.withIndex index freed, result) := by
  unfold tableIndexFindRow at h
  unfold findRowProgram
  rcases hload : ensureLoaded memory.dataDir schema
      memory.indexMemory.index.registry available with
    ⟨registry, found, rest⟩
  rcases ensureLoadedProgram_run schema memory available hload with
    ⟨freed, hrun, hfound⟩
  rw [LockProgram.run_andThen, hrun]
  rw [hload] at h
  refine ⟨freed, ?_⟩
  cases found with
  | error text =>
      simp only [Prod.mk.injEq] at h
      rcases h with ⟨rfl, rfl, rfl⟩
      rfl
  | ok found =>
      rcases found with ⟨slot, entry⟩
      simp only [Prod.mk.injEq] at h
      rcases h with ⟨rfl, rfl, rfl⟩
      simp only [Except.map, LockProgram.run_readAt, LockProgram.run_done]
      rw [EngineMemory.load_of_pointsTo
        (pointsTo_withIndex memory (hfound slot entry rfl))]

theorem registerRowProgram_run (id rowOffset : Int) {index : IndexState}
    {result : Option Bytes} {left : Option Nat}
    (h : tableIndexRegisterRow memory.dataDir schema id rowOffset
      memory.indexMemory.index available = (index, result, left)) :
    exists freed,
      (registerRowProgram schema.storageName id rowOffset available).run
          memory =
        (memory.withIndex index freed, result) := by
  unfold tableIndexRegisterRow at h
  unfold registerRowProgram
  rw [LockProgram.run_call]
  unfold EngineMemory.onIndex consumeRegisterFailure
  by_cases hforced : memory.indexMemory.index.forceNextRegisterFailure = true
  · rw [if_pos hforced, Prod.mk.injEq, Prod.mk.injEq] at h
    rcases h with ⟨rfl, rfl, _⟩
    simp only [hforced, if_true, LockProgram.run_done]
    exact ⟨memory.indexMemory.freed, rfl⟩
  · rw [if_neg hforced] at h
    simp only [hforced, Bool.false_eq_true, if_false]
    rcases hload : ensureLoaded memory.dataDir schema
        memory.indexMemory.index.registry available with
      ⟨registry, found, rest⟩
    rcases ensureLoadedProgram_run schema memory available hload with
      ⟨freed, hrun, hfound⟩
    rw [LockProgram.run_andThen, hrun]
    rw [hload] at h
    refine ⟨freed, ?_⟩
    cases found with
    | error text =>
        simp only [Prod.mk.injEq] at h
        rcases h with ⟨rfl, rfl, rfl⟩
        rfl
    | ok found =>
        rcases found with ⟨slot, entry⟩
        have hpoints := @pointsTo_withIndex memory registry
          memory.indexMemory.index.forceNextRegisterFailure freed _ _ _
          (hfound slot entry rfl)
        have hname := pointsTo_name hpoints
        simp only [Except.map, LockProgram.run_callAt]
        rw [insertBehind_of_pointsTo hpoints]
        have hnow := @EngineMemory.pointsTo_store _ _ _ _ hpoints
          { entry with
            tree := (bptreeInsert entry.tree id rowOffset rest).tree } hname
        simp only [registerInEntry] at h
        cases herror : (bptreeInsert entry.tree id rowOffset rest).error with
        | some text =>
            simp only [herror, Prod.mk.injEq] at h
            rcases h with ⟨rfl, rfl, rfl⟩
            simp only [LockProgram.run_done]
            unfold EngineMemory.store
            rw [store_of_pointsTo hpoints]
            rfl
        | none =>
            simp only [herror, Prod.mk.injEq] at h
            rcases h with ⟨rfl, rfl, rfl⟩
            simp only [LockProgram.run_writeAt, LockProgram.run_done]
            rw [EngineMemory.modify_of_pointsTo hnow,
              @EngineMemory.store_store _ _ _ _ hpoints
                { entry with
                  tree := (bptreeInsert entry.tree id rowOffset rest).tree }
                hname]
            unfold EngineMemory.store
            rw [store_of_pointsTo hpoints]
            rfl

theorem invalidateProgram_run (tableName : Bytes) :
    (invalidateProgram tableName).run memory =
      (memory.withIndex
          (tableIndexInvalidate memory.indexMemory.index tableName)
          memory.indexMemory.freed, ()) :=
  rfl

end Operations

end Index
end SqlCsvServer
