import SqlCsvServer.Execution.AppendFailure
import SqlCsvServer.Execution.SameAnswers
import SqlCsvServer.Storage.AppendFrame

/-!
# B+ tree inserts that fail

A failed insert leaves a tree nobody may use.  Both callers throw it away: the
rebuild empties its entry, and an INSERT whose registration fails invalidates it.
The next lookup rebuilds, and finds a row that was appended before the failure.
-/

namespace SqlCsvServer
namespace Execution

open Foundation Common Storage Index Sql

/-- The rebuild of a table comes to a `bptree_insert` that fails. -/
def RebuildInsertFails (dataDir : DataDir) (name : Bytes)
    (available : Option Nat) : Prop :=
  exists (contents text : Bytes) (before after : List (Nat × Bytes))
      (offset : Nat) (fields : List Bytes) (rebuild : RebuildContext),
    dataDir.contents name = some contents ∧ contents ≠ [] ∧
      dataLines contents = before ++ (offset, text) :: after ∧
      visitLines rebuildRow before (rebuildStart available) = (rebuild, none) ∧
      csvParseLine text = .ok fields ∧
      (bptreeInsert rebuild.tree rebuild.nextId offset
        rebuild.available).error ≠ none

/-- The first index operation of a statement on this table has to rebuild it. -/
structure Rebuilds (state : EngineState) (schema : Schema)
    (memory : Option Nat) (available : Option Nat) : Prop where
  created : exists registry slot entry,
    getOrCreateTableIndex state.index.registry schema.storageName memory =
        (registry, .ok (slot, entry), available) ∧
      entry.loaded = false

/--
A statement comes to a `bptree_insert` that fails: while
`table_index_get_next_id` or `table_index_find_row` rebuilds the table,
or while `table_index_register_row` registers the row that was appended.
-/
inductive TreeInsertFails (schemaDir : SchemaDir) (faults : Faults)
    (state : EngineState) (schema : Schema) : Statement -> Prop where
  | insertRebuilds {statement : InsertStatement} {available : Option Nat}
      (hschema :
        loadSchema schemaDir state.dataDir statement.tableName = .ok schema)
      (hvalid : validateInsertColumns statement schema = none)
      (hrebuilds : Rebuilds state schema faults.memory available)
      (hfails :
        RebuildInsertFails state.dataDir schema.storageName available) :
      TreeInsertFails schemaDir faults state schema
        (.insertStatement statement)
  | insertRegisters {statement : InsertStatement} {index : IndexState}
      {id : Int} {available : Option Nat} {rowValues : List Bytes}
      {slot : Nat} {entry : TableIndex}
      (hreached : ReachesAppend schemaDir statement faults state schema index id
        available rowValues)
      (happend : (appendRowCsv state.dataDir schema.storageName rowValues
        faults.append).2.ok = true)
      (hfound : findTableIndex index.registry.items schema.storageName =
        some (slot, entry))
      (hhook : index.forceNextRegisterFailure = false)
      (hfails :
        (bptreeInsert entry.tree id
          (appendRowCsv state.dataDir schema.storageName rowValues
            faults.append).2.rowOffset available).error ≠ none) :
      TreeInsertFails schemaDir faults state schema
        (.insertStatement statement)
  | selectRebuilds {statement : SelectStatement} {first : SelectedColumn}
      {more : List SelectedColumn} {whereIndex : Option Nat}
      {whereValue : Bytes} {whereId : Int} {available : Option Nat}
      (hschema :
        loadSchema schemaDir state.dataDir statement.tableName = .ok schema)
      (hselected : buildSelectIndexes statement schema = .ok (first :: more))
      (hwhere : resolveWhereIndex statement schema = .ok whereIndex)
      (hvalue : whereIdValue statement = some whereValue)
      (hid : parseIntStrict whereValue = some whereId)
      (hrebuilds : Rebuilds state schema faults.memory available)
      (hfails :
        RebuildInsertFails state.dataDir schema.storageName available) :
      TreeInsertFails schemaDir faults state schema
        (.selectStatement statement)

/-- No entry, or one that is rebuilt before its next use. -/
def EntryDiscarded (registry : TableIndexRegistry) (name : Bytes) : Prop :=
  entryOf registry name = none ∨
    exists entry,
      entryOf registry name = some entry ∧ entry.loaded = false ∧
        entry.tree = bptreeInit ∧ entry.nextId = 1

theorem EntryDiscarded.view {registry : TableIndexRegistry} {name : Bytes}
    (h : EntryDiscarded registry name) (dataDir : DataDir) :
    tableView dataDir registry name = rebuiltView dataDir name := by
  unfold tableView
  rcases h with hnone | ⟨entry, hentry, hunloaded, _, _⟩
  · rw [hnone]
  · rw [hentry]
    exact entryView_of_unloaded hunloaded

/-!
## The rebuild
-/

section Rebuild

variable {dataDir : DataDir} {name : Bytes} {available : Option Nat}

theorem scanRowsCsv_of_insertFails
    (h : RebuildInsertFails dataDir name available) :
    exists rebuild error,
      scanRowsCsv dataDir name rebuildRow (rebuildStart available) =
        (rebuild, some error) := by
  rcases h with
    ⟨contents, text, before, after, offset, fields, rebuild, hcontents, hne,
      hlines, hbefore, hfields, hfails⟩
  have hfile : exists file,
      dataDir.files name = .ok file ∧ file.contents = contents := by
    unfold DataDir.contents at hcontents
    cases hopen : dataDir.files name with
    | error errno => simp [hopen] at hcontents
    | ok file => exact ⟨file, rfl, by simpa [hopen] using hcontents⟩
  rcases hfile with ⟨file, hfile, hsame⟩
  cases herror : (bptreeInsert rebuild.tree rebuild.nextId offset
      rebuild.available).error with
  | none => exact absurd herror hfails
  | some error =>
      exists { rebuild with
        tree :=
          (bptreeInsert rebuild.tree rebuild.nextId offset
            rebuild.available).tree
        available :=
          (bptreeInsert rebuild.tree rebuild.nextId offset
            rebuild.available).available }, error
      unfold scanRowsCsv openTableFile
      simp only [hfile, hsame]
      rw [scanRows_eq_visitLines rebuildRow hne, hlines, visitLines_split,
        hbefore]
      simp only [visitLines, hfields, rebuildRow, herror]

variable {state : EngineState} {schema : Schema} {memory : Option Nat}

theorem ensureLoaded_of_insertFails
    (hrebuilds : Rebuilds state schema memory available)
    (h : RebuildInsertFails state.dataDir schema.storageName available) :
    exists registry error left,
      ensureLoaded state.dataDir schema state.index.registry memory =
          (registry, .error error, left) ∧
        EntryDiscarded registry schema.storageName := by
  rcases hrebuilds.created with ⟨created, slot, entry, hcreate, hunloaded⟩
  rcases scanRowsCsv_of_insertFails h with ⟨rebuild, error, hscan⟩
  rcases getOrCreateTableIndex_cases hcreate with
    ⟨slot', entry', hok, hfound, _, _⟩ | ⟨text, hfalse, _⟩
  · simp only [Except.ok.injEq, Prod.mk.injEq] at hok
    rcases hok with ⟨rfl, rfl⟩
    have hname : (unloadedTableIndex entry).tableName = schema.storageName := by
      change entry.tableName = schema.storageName
      exact findTableIndex_tableName hfound
    refine ⟨writeEntry created slot (unloadedTableIndex entry), error,
      rebuild.available, ?_, ?_⟩
    · unfold ensureLoaded loadEntry
      simp only [hcreate, hunloaded, hscan, Bool.false_eq_true, if_false]
    · apply Or.inr
      exists unloadedTableIndex entry
      rw [entryOf_writeEntry hfound hname, if_pos rfl]
      exact ⟨rfl, rfl, rfl, rfl⟩
  · cases hfalse

end Rebuild

theorem entryDiscarded_invalidate (index : IndexState) (name : Bytes) :
    EntryDiscarded (tableIndexInvalidate index name).registry name := by
  unfold tableIndexInvalidate
  cases hfound : findTableIndex index.registry.items name with
  | none => exact Or.inl (by simp [entryOf, hfound])
  | some found =>
      rcases found with ⟨slot, entry⟩
      have hname : (unloadedTableIndex entry).tableName = name := by
        change entry.tableName = name
        exact findTableIndex_tableName hfound
      apply Or.inr
      exists unloadedTableIndex entry
      simp only
      rw [entryOf_writeEntry hfound hname, if_pos rfl]
      exact ⟨rfl, rfl, rfl, rfl⟩

/-!
## Statements
-/

section Statement

variable {schemaDir : SchemaDir} {faults : Faults} {state : EngineState}
  {schema : Schema}

theorem executeInsert_registerFails {statement : InsertStatement}
    {index : IndexState} {id : Int} {available : Option Nat}
    {rowValues : List Bytes} {slot : Nat} {entry : TableIndex}
    (hreached : ReachesAppend schemaDir statement faults state schema index id
      available rowValues)
    (happend : (appendRowCsv state.dataDir schema.storageName rowValues
      faults.append).2.ok = true)
    (hfound : findTableIndex index.registry.items schema.storageName =
      some (slot, entry))
    (hhook : index.forceNextRegisterFailure = false)
    (hfails :
      (bptreeInsert entry.tree id
        (appendRowCsv state.dataDir schema.storageName rowValues
          faults.append).2.rowOffset available).error ≠ none) :
    (executeInsert schemaDir statement faults state).2.ok = false ∧
      (executeInsert schemaDir statement faults state).1.dataDir =
        (appendRowCsv state.dataDir schema.storageName rowValues
          faults.append).1 ∧
      EntryDiscarded
        (executeInsert schemaDir statement faults state).1.index.registry
        schema.storageName := by
  rcases (tableIndexGetNextId_view hreached.id_found).2.2 id rfl with
    ⟨slot', entry', hfound', hloaded, _, _⟩
  have hentry := hfound.symm.trans hfound'
  simp only [Option.some.injEq, Prod.mk.injEq] at hentry
  rcases hentry with ⟨rfl, rfl⟩
  rw [(executeInsert_of_reached hreached).1]
  unfold appendAndRegister
  rcases hresult : appendRowCsv state.dataDir schema.storageName rowValues
      faults.append with
    ⟨dataDir, storageResult⟩
  rw [hresult] at happend hfails
  simp only at happend hfails
  simp only [happend, if_true]
  rw [tableIndexRegisterRow_of_loaded hfound hloaded]
  simp only [hhook, Bool.false_eq_true, if_false]
  cases herror : (bptreeInsert entry.tree id storageResult.rowOffset
      available).error with
  | none => exact absurd herror hfails
  | some error =>
      simp only [registerInEntry, herror]
      refine ⟨trivial, trivial, ?_⟩
      exact entryDiscarded_invalidate _ _

theorem executeStatement_of_insertFails {statement : Statement}
    (h : TreeInsertFails schemaDir faults state schema statement) :
    (executeStatement schemaDir statement faults state).2.1.ok = false ∧
      EntryDiscarded
        (executeStatement schemaDir statement faults state).1.index.registry
        schema.storageName := by
  cases h with
  | insertRebuilds hschema hvalid hrebuilds hfails =>
      rcases ensureLoaded_of_insertFails hrebuilds hfails with
        ⟨registry, error, left, hload, hdiscarded⟩
      simp only [executeStatement, executeInsert, hschema, hvalid,
        tableIndexGetNextId, hload]
      exact ⟨trivial, hdiscarded⟩
  | insertRegisters hreached happend hfound hhook hfails =>
      rcases executeInsert_registerFails hreached happend hfound hhook hfails
        with ⟨hfailed, _, hdiscarded⟩
      exact ⟨hfailed, hdiscarded⟩
  | selectRebuilds hschema hselected hwhere hvalue hid hrebuilds hfails =>
      rcases ensureLoaded_of_insertFails hrebuilds hfails with
        ⟨registry, error, left, hload, hdiscarded⟩
      simp only [executeStatement, executeSelect, selectTable, hschema,
        hselected, hwhere, hvalue, indexSelectRows, hid, tableIndexFindRow,
        hload]
      exact ⟨rfl, hdiscarded⟩

/-!
## Recovery
-/

/-- Lookups and SELECTs answer as they do with an index rebuilt from the file. -/
structure AnswersAsRebuilt (schemaDir : SchemaDir) (state : EngineState)
    (schema : Schema) : Prop where
  lookup : forall id,
    (tableIndexFindRow state.dataDir schema id state.index none).2.1 =
      (rebuiltView state.dataDir schema.storageName).map
        fun view => bptreeSearch view.tree id
  select : forall statement : SelectStatement,
    (forall found,
        loadSchema schemaDir state.dataDir statement.tableName = .ok found ->
          found.storageName = schema.storageName) ->
      (executeSelect schemaDir statement none state).2 =
        (executeSelect schemaDir statement none
          { state with index := indexStateInit }).2

theorem answersAsRebuilt_of_discarded
    (h : EntryDiscarded state.index.registry schema.storageName) :
    AnswersAsRebuilt schemaDir state schema where
  lookup := fun id => by
    rcases hfind :
        tableIndexFindRow state.dataDir schema id state.index none with
      ⟨after, result, left⟩
    rw [tableIndexFindRow_of_view hfind, h.view]
  select := fun statement hname => by
    have hempty : EntryDiscarded indexStateInit.registry schema.storageName :=
      Or.inl rfl
    have hsame :=
      @selectTable_of_view state { state with index := indexStateInit }
        schemaDir statement rfl
        (fun found hfound => by
          rw [hname found hfound, h.view, hempty.view])
    change selectResult (selectTable schemaDir statement none state).2 = _
    rw [hsame]
    rfl

theorem rebuiltView_append {after : DataDir} {name contents : Bytes}
    {rowValues : List Bytes} {view : TableView}
    (hafter : after.files name =
      .ok
        { contents := contents ++ lineSeparator contents ++ csvRow rowValues
          updateError := none })
    (hne : contents ≠ []) (hrow : rowValues ≠ [])
    (hvalues : forall value, value ∈ rowValues ->
      NulFree value ∧ value.any isLineEnding = false)
    (hview : rebuiltView after name = .ok view) :
    bptreeSearch view.tree (nextIdOfRows (dataLines contents)) =
      some ((contents ++ lineSeparator contents).length : Int) := by
  have hscan := scan_of_rebuiltView hview
  have hbuilt := rebuiltView_of_scan hscan
  rcases scanRowsCsv_rebuild_ok hscan with ⟨file, rows, hfile, _, _, htree, _⟩
  rw [hafter, Except.ok.injEq] at hfile
  rw [hview, Except.ok.injEq, htree, ← hfile] at hbuilt
  have hlines := linesWritten_ne_nil (csvRow_ne_nil hrow) (csvRow_bytes hvalues)
    (contents ++ lineSeparator contents).length
  have hfirst := linesWritten_getElem 0 (csvRow_ne_nil hrow)
    (csvRow_bytes hvalues) (List.length_pos_of_ne_nil hlines)
  have hget :
      (dataLines (contents ++ lineSeparator contents ++ csvRow rowValues))[
          (dataLines contents).length]? =
        some ((contents ++ lineSeparator contents).length,
          rowPiece (csvRow rowValues) 0) := by
    rw [(dataLines_append hne _).2, List.getElem?_append_right (Nat.le_refl _),
      Nat.sub_self, List.getElem?_eq_getElem (List.length_pos_of_ne_nil hlines),
      hfirst]
    rfl
  have hindex :
      (nextIdOfRows (dataLines contents) - 1).toNat =
        (dataLines contents).length := by
    unfold nextIdOfRows
    omega
  have hpositive : 1 ≤ nextIdOfRows (dataLines contents) := by
    unfold nextIdOfRows
    omega
  rw [hbuilt]
  simp only
  rw [bptreeSearch_treeOfRows, if_pos hpositive, hindex, hget]
  rfl

theorem appendAndRegister_dataDir (id : Int) (rowValues : List Bytes)
    (append : Option AppendFault) (available : Option Nat) :
    (appendAndRegister schema id rowValues append state available).1.dataDir =
      (appendRowCsv state.dataDir schema.storageName rowValues append).1 := by
  unfold appendAndRegister
  rcases appendRowCsv state.dataDir schema.storageName rowValues append with
    ⟨dataDir, storageResult⟩
  by_cases hok : storageResult.ok = true
  · simp only [hok, if_true]
    rcases tableIndexRegisterRow dataDir schema id storageResult.rowOffset
        state.index available with
      ⟨index, text | text, left⟩
    · rfl
    · rfl
  · simp only [hok]
    rfl

theorem appendRowCsv_opened {dataDir : DataDir} {name : Bytes}
    {rowValues : List Bytes}
    (h : (appendRowCsv dataDir name rowValues none).2.ok = true) :
    exists contents,
      dataDir.files name =
        .ok { contents := contents, updateError := none } := by
  unfold appendRowCsv openTableFileForUpdate at h
  cases hfile : dataDir.files name with
  | error errno =>
      rw [hfile] at h
      simp [storageFailure] at h
  | ok file =>
      rcases file with ⟨contents, updateError⟩
      cases updateError with
      | some errno =>
          rw [hfile] at h
          simp [storageFailure] at h
      | none => exact ⟨contents, rfl⟩

/--
Where a rebuild of the file succeeds, it finds the row an INSERT had appended
before it failed; under the id of the INSERT if the index had agreed with the
file.
-/
theorem appended_row_found {statement : InsertStatement} {index : IndexState}
    {id : Int} {available : Option Nat} {rowValues : List Bytes}
    {view : TableView} (hnul : statement.ValuesNulFree)
    (hreached : ReachesAppend schemaDir statement faults state schema index id
      available rowValues)
    (happend : faults.append = none)
    (hok : (appendRowCsv state.dataDir schema.storageName rowValues
      none).2.ok = true)
    (hview : rebuiltView
      (executeInsert schemaDir statement faults state).1.dataDir
        schema.storageName = .ok view) :
    exists (rowId : Int) (rowOffset : Nat) (written : Bytes),
      (executeInsert schemaDir statement faults state).1.dataDir.contents
          schema.storageName = some written ∧
        written.drop rowOffset = csvRow rowValues ∧
        bptreeSearch view.tree rowId = some (rowOffset : Int) ∧
        (tableView state.dataDir state.index.registry schema.storageName =
            rebuiltView state.dataDir schema.storageName ->
          rowId = id) := by
  rcases appendRowCsv_opened hok with ⟨contents, hfile⟩
  rcases @appendRowCsv_complete state.dataDir schema.storageName contents
      rowValues hfile with
    ⟨_, _, hafter⟩
  have hdir : (executeInsert schemaDir statement faults state).1.dataDir =
      (appendRowCsv state.dataDir schema.storageName rowValues none).1 := by
    rw [(executeInsert_of_reached hreached).1, happend,
      appendAndRegister_dataDir]
  rw [hdir] at hview ⊢
  rcases loadSchema_eq_ok_iff.mp hreached.schema_loaded with ⟨hread, hheader⟩
  rcases contents_of_validateCsvHeader hheader with ⟨file, hsame, hne, _⟩
  rw [hfile, Except.ok.injEq] at hsame
  subst hsame
  have hrow := buildInsertRow_eq_expectedRow hreached.row_built
  have hnotEmpty : rowValues ≠ [] := by
    rw [hrow]
    exact expectedRow_ne_nil (readSchema_accepted hread)
  have hvalues : forall value, value ∈ rowValues ->
      NulFree value ∧ value.any isLineEnding = false := by
    rw [hrow]
    exact expectedRow_text hreached.columns_valid hnul
  refine ⟨nextIdOfRows (dataLines contents), _, _, ?_, List.drop_left,
    rebuiltView_append hafter hne hnotEmpty hvalues hview, ?_⟩
  · simp [DataDir.contents, hafter]
  · intro hagree
    rcases (tableIndexGetNextId_view hreached.id_found).2.2 id rfl with
      ⟨slot, entry, _, _, hanswer, hid⟩
    rw [hagree] at hanswer
    have hscan := scan_of_rebuiltView hanswer
    have hbuilt := rebuiltView_of_scan hscan
    rcases scanRowsCsv_rebuild_ok hscan with
      ⟨found, rows, hfound, _, _, _, hnext⟩
    rw [hfile, Except.ok.injEq] at hfound
    rw [hanswer, Except.ok.injEq, TableView.mk.injEq, hnext, ← hfound] at hbuilt
    rw [← hid, hbuilt.2]

/--
A statement whose tree insert fails reports it and discards the entry, so that
later lookups answer as a fresh rebuild, with the row appended before the failure.
-/
theorem failed_tree_insert_recovers {statement : Statement}
    (hnul : forall insert, statement = .insertStatement insert ->
      insert.ValuesNulFree)
    (h : TreeInsertFails schemaDir faults state schema statement) :
    (executeStatement schemaDir statement faults state).2.1.ok = false ∧
      EntryDiscarded
        (executeStatement schemaDir statement faults state).1.index.registry
        schema.storageName ∧
      AnswersAsRebuilt schemaDir
        (executeStatement schemaDir statement faults state).1 schema ∧
      forall insert index id available rowValues view,
        statement = .insertStatement insert ->
          ReachesAppend schemaDir insert faults state schema index id available
            rowValues ->
          faults.append = none ->
          (appendRowCsv state.dataDir schema.storageName rowValues
            none).2.ok = true ->
          rebuiltView
              (executeStatement schemaDir statement faults state).1.dataDir
              schema.storageName = .ok view ->
            exists (rowId : Int) (rowOffset : Nat) (written : Bytes),
              (executeStatement schemaDir statement faults
                  state).1.dataDir.contents schema.storageName =
                  some written ∧
                written.drop rowOffset = csvRow rowValues ∧
                bptreeSearch view.tree rowId = some (rowOffset : Int) ∧
                (tableView state.dataDir state.index.registry
                    schema.storageName =
                    rebuiltView state.dataDir schema.storageName ->
                  rowId = id) := by
  rcases executeStatement_of_insertFails h with ⟨hfailed, hdiscarded⟩
  refine ⟨hfailed, hdiscarded, answersAsRebuilt_of_discarded hdiscarded, ?_⟩
  intro insert index id available rowValues view hinsert hreached happend hok
    hview
  subst hinsert
  exact appended_row_found (hnul insert rfl) hreached happend hok hview

end Statement

def noTreeMemory : Faults :=
  { memory := some 2, append := none }

theorem sample_insertFails :
    TreeInsertFails sampleSchemaDir noTreeMemory (startState sampleDataDir)
      sampleSchema (.insertStatement (sampleInsert (ascii "a"))) := by
  have hreached : ReachesAppend sampleSchemaDir (sampleInsert (ascii "a"))
      noTreeMemory (startState sampleDataDir) sampleSchema
      (tableIndexGetNextId sampleDataDir sampleSchema
        (startState sampleDataDir).index noTreeMemory.memory).1
      1 (some 0) [ascii "a"] :=
    { schema_loaded := by decide
      columns_valid := by decide
      id_found := by rfl
      row_built := by decide }
  apply TreeInsertFails.insertRegisters hreached
  · decide
  · rfl
  · rfl
  · decide

theorem failed_tree_insert_recovers_sample :
    (executeStatement sampleSchemaDir
        (.insertStatement (sampleInsert (ascii "a"))) noTreeMemory
        (startState sampleDataDir)).2.1.ok = false ∧
      EntryDiscarded
        (executeStatement sampleSchemaDir
          (.insertStatement (sampleInsert (ascii "a"))) noTreeMemory
          (startState sampleDataDir)).1.index.registry
        sampleSchema.storageName := by
  have h := @failed_tree_insert_recovers sampleSchemaDir noTreeMemory
    (startState sampleDataDir) sampleSchema
    (.insertStatement (sampleInsert (ascii "a")))
    (fun insert heq => by
      cases heq
      exact sampleInsert_nulFree (by decide))
    sample_insertFails
  exact ⟨h.1, h.2.1⟩

end Execution
end SqlCsvServer
