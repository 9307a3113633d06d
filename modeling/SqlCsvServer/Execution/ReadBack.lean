import SqlCsvServer.Execution.ReadPaths
import SqlCsvServer.Storage.CutRows

/-!
# Reading back the row of an INSERT

What an INSERT stored is read back through the index and through a full scan.
Both give the row unchanged exactly when enough of the row is in the file, as one line
for the readers, and every value comes through the CSV codec as it was.
-/

namespace SqlCsvServer
namespace Execution

open Foundation Common Storage Index Sql

/-!
## The property
-/

/-- `SELECT * FROM table WHERE id = value`. -/
def selectById (tableName value : Bytes) : SelectStatement :=
  { tableName := tableName
    columns := []
    selectAll := true
    condition := some { whereColumn := ascii "id", whereValue := value } }

/--
After an INSERT, a lookup of its id gives one row, the values of the statement,
and a full scan gives the rows of before and then that row.
-/
def InsertReadsBack (schemaDir : SchemaDir) (statement : InsertStatement)
    (faults : Faults) (state : EngineState) : Prop :=
  exists schema id rows,
    loadSchema schemaDir state.dataDir statement.tableName = .ok schema ∧
      assignedId schemaDir statement faults state = some id ∧
      (forall value, parseIntStrict value = some id ->
        (selectTable schemaDir (selectById statement.tableName value) none
            (executeInsert schemaDir statement faults state).1).2 =
          .ok
            { headers := schema.columns
              rows := [expectedRow statement schema] }) ∧
      (selectTable schemaDir (selectAllFrom statement.tableName) none state).2 =
        .ok { headers := schema.columns, rows := rows } ∧
      (selectTable schemaDir (selectAllFrom statement.tableName) none
          (executeInsert schemaDir statement faults state).1).2 =
        .ok
          { headers := schema.columns
            rows := rows ++ [expectedRow statement schema] }

/--
The table can be scanned, what reaches its file of the row is enough of it and one line
for every reader, and no value of the row is trimmed.
-/
def ReadsBackWhen (schemaDir : SchemaDir) (statement : InsertStatement)
    (faults : Faults) (state : EngineState) : Prop :=
  exists schema contents table,
    loadSchema schemaDir state.dataDir statement.tableName = .ok schema ∧
      state.dataDir.contents schema.storageName = some contents ∧
      (selectTable schemaDir (selectAllFrom statement.tableName) none state).2 =
        .ok table ∧
      ReachesFile (storedRow contents (expectedRow statement schema) faults.append)
        (expectedRow statement schema) ∧
      (storedRow contents (expectedRow statement schema) faults.append).length ≤
        lineSize - 1 ∧
      forall value, value ∈ expectedRow statement schema ->
        KeepsOuterBlanks value

/-!
## Every run keeps the ids in order
-/

section Ordered

variable {schemaDir : SchemaDir}

theorem appendAndRegister_ordered {state : EngineState} {schema : Schema}
    {nextId : Int} {row : List Bytes} {file : CsvFile} {slot : Nat}
    {entry : TableIndex} {append : Option AppendFault} {available : Option Nat}
    (hready : ReadyToAppend state schema nextId row file slot entry)
    (hordered :
      RegistryHolds (fun _ => EntryOrdered) state.index.registry) :
    RegistryHolds (fun _ => EntryOrdered)
      (appendAndRegister schema nextId row append state
        available).1.index.registry := by
  have hunloaded := (entryOrdered_invariant state.dataDir).unloaded
  have hentry : EntryOrdered entry :=
    hordered schema.storageName entry (by simp [entryOf, hready.entry_found])
  cases hupdate : file.updateError with
  | some errno =>
      rw [(appendAndRegister_refused hready hupdate).1]
      exact hordered
  | none =>
      rw [appendAndRegister_open hready hupdate]
      by_cases happend : (appendRow file.contents row append).2.ok = true
      · rw [if_pos happend, ← hready.entry_nextId]
        rcases hregister :
            tableIndexRegisterRow (appendedDir state schema row file append)
              schema entry.nextId
              (appendRow file.contents row append).2.rowOffset state.index
              available with
          ⟨index, result, left⟩
        have hholds := tableIndexRegisterRow_holds
          (P := fun _ => EntryOrdered) hready.entry_found hready.entry_loaded
          (fun other held _ => hordered other held)
          (fun unloaded => hunloaded schema.storageName unloaded)
          (fun _ => entryOrdered_registered hentry _) hregister
        cases result with
        | none => exact hholds.1 rfl
        | some text => exact hholds.2
      · rw [if_neg happend]
        exact hordered

theorem applyEvent_ordered {state : EngineState} (event : TableEvent)
    (hordered :
      RegistryHolds (fun _ => EntryOrdered) state.index.registry) :
    RegistryHolds (fun _ => EntryOrdered)
      (applyEvent schemaDir state event).index.registry := by
  have hinvariant := entryOrdered_invariant state.dataDir
  cases event with
  | statement statement text faults =>
      cases statement with
      | insertStatement statement =>
          show RegistryHolds _ (executeInsert ..).1.index.registry
          rcases executeInsert_cases schemaDir faults text hinvariant
              hordered with
            ⟨_, _, hregistry⟩ |
              ⟨schema, index, nextId, available, file, slot, entry, _, hindex, hready,
                heq⟩
          · exact hregistry
          · rw [heq]
            exact appendAndRegister_ordered hready hindex
      | selectStatement statement =>
          exact (selectTable_state schemaDir statement faults.memory hinvariant
            hordered).2
  | forceNextRegisterFailure => exact hordered
  | invalidate tableName =>
      exact tableIndexInvalidate_holds (P := fun _ => EntryOrdered)
        (fun other held _ => hordered other held)
        (hinvariant.unloaded tableName)
  | runtimeReset =>
      intro name entry hentry
      simp [applyEvent, executionRuntimeReset, tableIndexRegistryReset, entryOf,
        findTableIndex] at hentry

theorem runEvents_ordered {events : List TableEvent} :
    forall {state : EngineState},
      RegistryHolds (fun _ => EntryOrdered) state.index.registry ->
        RegistryHolds (fun _ => EntryOrdered)
          (runEvents schemaDir state events).index.registry := by
  induction events with
  | nil => exact fun hordered => hordered
  | cons event events ih =>
      intro state hordered
      exact ih (applyEvent_ordered event hordered)

end Ordered

/-!
## The state after the INSERT
-/

structure InsertDone (schemaDir : SchemaDir) (statement : InsertStatement)
    (faults : Faults) (state : EngineState) (schema : Schema) (id : Int)
    (file : CsvFile) (slot : Nat) (entry : TableIndex) : Prop where
  schema_before :
    loadSchema schemaDir state.dataDir statement.tableName = .ok schema
  schema_after :
    loadSchema schemaDir
      (executeInsert schemaDir statement faults state).1.dataDir
      statement.tableName = .ok schema
  id_assigned : assignedId schemaDir statement faults state = some id
  file_before : state.dataDir.files schema.storageName = .ok file
  file_ne_nil : file.contents ≠ []
  file_after :
    (executeInsert schemaDir statement faults state).1.dataDir.files
        schema.storageName =
      .ok
        { file with
          contents :=
            (appendRow file.contents (expectedRow statement schema) faults.append).1 }
  append_ok :
    (appendRow file.contents (expectedRow statement schema) faults.append).2.ok = true
  row_ne_nil : expectedRow statement schema ≠ []
  row_text : forall value, value ∈ expectedRow statement schema ->
    NulFree value ∧ value.any isLineEnding = false
  entry_after :
    findTableIndex
        (executeInsert schemaDir statement faults state).1.index.registry.items
        schema.storageName =
      some (slot,
        registeredEntry entry
          (file.contents ++ lineSeparator file.contents).length)
  entry_loaded : entry.loaded = true
  entry_id : entry.nextId = id
  entry_ordered : EntryOrdered entry

section Done

variable {schemaDir : SchemaDir} {statement : InsertStatement}
  {faults : Faults} {state : EngineState} {schema : Schema} {id : Int}
  {file : CsvFile} {slot : Nat} {entry : TableIndex}

theorem validateCsvHeader_append {old new : DataDir} {contents : Bytes}
    (hold : old.files schema.storageName = .ok file)
    (hnew :
      new.files schema.storageName = .ok { file with contents := contents })
    (hheader : headerText contents = headerText file.contents)
    (h : validateCsvHeader old schema = .ok ()) :
    validateCsvHeader new schema = .ok () := by
  unfold validateCsvHeader at h ⊢
  simp only [hold] at h
  simp only [hnew, hheader]
  exact h

theorem insertDone_of_ok (hnul : statement.ValuesNulFree)
    (hordered :
      RegistryHolds (fun _ => EntryOrdered) state.index.registry)
    (hok : (executeInsert schemaDir statement faults state).2.ok = true) :
    exists schema id file slot entry,
      InsertDone schemaDir statement faults state schema id file slot entry := by
  rcases executeInsert_cases schemaDir faults hnul
      (entryOrdered_invariant state.dataDir) hordered with
    ⟨hfailed, _⟩ |
      ⟨schema, index, nextId, available, file, slot, entry, hreached, hindex, hready,
        heq⟩
  · rw [hfailed] at hok
    simp at hok
  · have hfile := hready.file_found
    simp only at hfile
    have hok' := hok
    rw [heq] at hok'
    rcases appendAndRegister_ok hready hok' with ⟨happend, _, hafter⟩
    rw [(appendRow_stored happend).1, ← heq] at hafter
    have hdir :
        (executeInsert schemaDir statement faults state).1.dataDir =
          state.dataDir.write schema.storageName
            (appendRow file.contents (expectedRow statement schema) faults.append).1 := by
      rw [hafter, appendedDir]
    have hfiles := dataDir_write_files state.dataDir schema.storageName
      (appendRow file.contents (expectedRow statement schema) faults.append).1 hfile
      schema.storageName
    rw [if_pos rfl, ← hdir] at hfiles
    have hschema := hreached.schema_loaded
    rcases loadSchema_eq_ok_iff.mp hschema with ⟨hread, hheader⟩
    have hname :
        (registeredEntry entry
          (file.contents ++ lineSeparator file.contents).length).tableName =
            schema.storageName := by
      show entry.tableName = schema.storageName
      exact findTableIndex_tableName hready.entry_found
    refine ⟨schema, nextId, file, slot, entry, ?_⟩
    exact
      { schema_before := hschema
        schema_after := loadSchema_eq_ok_iff.mpr
          ⟨hread, validateCsvHeader_append hfile hfiles
            (appendRow_dataLines hready.file_ne_nil happend).1 hheader⟩
        id_assigned := by simp [assignedId, hschema, hreached.id_found]
        file_before := hfile
        file_ne_nil := hready.file_ne_nil
        file_after := hfiles
        append_ok := happend
        row_ne_nil := hready.row_ne_nil
        row_text := hready.row_text
        entry_after := by
          rw [hafter]
          exact (findTableIndex_set hready.entry_found hname _).trans
            (if_pos rfl)
        entry_loaded := hready.entry_loaded
        entry_id := hready.entry_nextId
        entry_ordered := hindex schema.storageName entry
          (congrArg (Option.map Prod.snd) hready.entry_found) }

theorem selectAll_of_fileRows {state : EngineState} {tableName : Bytes}
    {memory : Option Nat}
    (hschema : loadSchema schemaDir state.dataDir tableName = .ok schema)
    (hfile : state.dataDir.files schema.storageName = .ok file)
    {parsed : List (Nat × List Bytes)}
    (hrows : FileRows schema file.contents parsed) :
    (selectTable schemaDir (selectAllFrom tableName) memory state).2 =
      .ok { headers := schema.columns, rows := parsed.map Prod.snd } := by
  have hcolumns :=
    (readSchema_accepted (loadSchema_eq_ok_iff.mp hschema).1).columns_ne_nil
  have hne : allColumns schema ≠ [] := by
    simpa [allColumns] using hcolumns
  have hindexes : buildSelectIndexes (selectAllFrom tableName) schema =
      .ok (allColumns schema) := buildSelectIndexes_all rfl
  have hwhere : resolveWhereIndex (selectAllFrom tableName) schema = .ok none :=
    rfl
  rw [selectTable_scan hschema hindexes hne hwhere rfl hfile,
    scanSelect_of_fileRows hrows,
    selectNumbered_allColumns rfl hrows.match_schema]
  exact congrArg (fun headers => Except.ok (ResultTable.mk headers _))
    (allColumns_headers schema)

theorem linesWritten_of_oneRow
    (hdone : InsertDone schemaDir statement faults state schema id file slot entry)
    {fields : List Bytes}
    (hone : OneRow
      (storedRow file.contents (expectedRow statement schema) faults.append) fields)
    (offset : Nat) :
    linesWritten offset
        (storedRow file.contents (expectedRow statement schema) faults.append) =
      [(offset, storedRow file.contents (expectedRow statement schema) faults.append)] :=
  linesWritten_of_fits hone.ne_nil
    (storedRow_bytes hdone.row_text file.contents faults.append) hone.fits offset

theorem fileRows_after
    (hdone : InsertDone schemaDir statement faults state schema id file slot entry)
    {parsed : List (Nat × List Bytes)}
    (hrows : FileRows schema file.contents parsed)
    (hone : OneRow
      (storedRow file.contents (expectedRow statement schema) faults.append)
      (expectedRow statement schema)) :
    FileRows schema
      (appendRow file.contents (expectedRow statement schema) faults.append).1
      (parsed ++
        [((file.contents ++ lineSeparator file.contents).length,
          expectedRow statement schema)]) where
  ne_nil := by
    rcases (appendRow_stored hdone.append_ok).2 with hnew | ⟨_, gained, _, hnew⟩
    · simp [hnew, hdone.file_ne_nil]
    · simp [hnew, hdone.file_ne_nil]
  parsed_eq := by
    rw [(appendRow_dataLines hdone.file_ne_nil hdone.append_ok).2,
      parseLines_append hrows.parsed_eq, linesWritten_of_oneRow hdone hone]
    simp [parseLines, hone.parsed]
  match_schema := by
    intro fields hfields
    rw [List.map_append] at hfields
    rcases List.mem_append.mp hfields with hfields | hfields
    · exact hrows.match_schema fields hfields
    · rw [List.mem_singleton.mp hfields]
      exact expectedRow_length

theorem rows_of_append
    (hdone : InsertDone schemaDir statement faults state schema id file slot entry)
    {parsed parsed' : List (Nat × List Bytes)}
    (hrows : FileRows schema file.contents parsed)
    (hrows' :
      FileRows schema
        (appendRow file.contents (expectedRow statement schema) faults.append).1
        parsed') :
    exists more,
      parseLines
          (linesWritten (file.contents ++ lineSeparator file.contents).length
            (storedRow file.contents (expectedRow statement schema) faults.append)) =
          .ok more ∧
        parsed' = parsed ++ more := by
  have hparsed' := hrows'.parsed_eq
  rw [(appendRow_dataLines hdone.file_ne_nil hdone.append_ok).2,
    parseLines_append hrows.parsed_eq] at hparsed'
  cases hmore :
      parseLines
        (linesWritten (file.contents ++ lineSeparator file.contents).length
          (storedRow file.contents (expectedRow statement schema) faults.append)) with
  | error error => simp only [hmore, reduceCtorEq] at hparsed'
  | ok more =>
      simp only [hmore, Except.ok.injEq] at hparsed'
      exact ⟨more, rfl, hparsed'.symm⟩

theorem oneRow_of_read
    (hdone : InsertDone schemaDir statement faults state schema id file slot entry)
    {more : List (Nat × List Bytes)}
    (hmore : parseLines
      (linesWritten (file.contents ++ lineSeparator file.contents).length
        (storedRow file.contents (expectedRow statement schema) faults.append)) =
      .ok more)
    (hrow : more.map Prod.snd = [expectedRow statement schema]) :
    OneRow (storedRow file.contents (expectedRow statement schema) faults.append)
      (expectedRow statement schema) := by
  have htext := storedRow_bytes hdone.row_text file.contents faults.append
  have hone : more.length = 1 := by
    simpa using congrArg List.length hrow
  rw [parseLines_length hmore] at hone
  have hne : storedRow file.contents (expectedRow statement schema) faults.append ≠ [] := by
    intro hempty
    rw [hempty] at hone
    simp [linesWritten, withOffsets, textLines] at hone
  have hfits := (linesWritten_length_eq_one_iff hne htext _).mp hone
  refine ⟨hne, hfits, ?_⟩
  rw [linesWritten_of_fits hne htext hfits] at hmore
  simp only [parseLines] at hmore
  cases hparse : csvParseLine
      (storedRow file.contents (expectedRow statement schema) faults.append) with
  | error text => simp [hparse] at hmore
  | ok fields =>
      simp only [hparse, Except.ok.injEq] at hmore
      rw [← hmore] at hrow
      simpa using hrow

theorem lookup_after
    (hdone : InsertDone schemaDir statement faults state schema id file slot entry)
    (hone : OneRow
      (storedRow file.contents (expectedRow statement schema) faults.append)
      (expectedRow statement schema))
    {value : Bytes} (hvalue : parseIntStrict value = some id) :
    (selectTable schemaDir (selectById statement.tableName value) none
        (executeInsert schemaDir statement faults state).1).2 =
      .ok
        { headers := schema.columns
          rows := [expectedRow statement schema] } := by
  have hcolumns :=
    (readSchema_accepted
      (loadSchema_eq_ok_iff.mp hdone.schema_before).1).columns_ne_nil
  have hne : allColumns schema ≠ [] := by
    simpa [allColumns] using hcolumns
  have hindexes :
      buildSelectIndexes (selectById statement.tableName value) schema =
        .ok (allColumns schema) := buildSelectIndexes_all rfl
  rw [selectTable_index hdone.schema_after hindexes hne rfl]
  have hfind := tableIndexFindRow_of_loaded
    (executeInsert schemaDir statement faults state).1.dataDir none
    hdone.entry_after hdone.entry_loaded id
  rw [← hdone.entry_id, bptreeSearch_registeredEntry hdone.entry_ordered,
    hdone.entry_id] at hfind
  have hmem :
      ((file.contents ++ lineSeparator file.contents).length,
          storedRow file.contents (expectedRow statement schema) faults.append) ∈
        dataLines
          (appendRow file.contents (expectedRow statement schema) faults.append).1 := by
    rw [(appendRow_dataLines hdone.file_ne_nil hdone.append_ok).2,
      linesWritten_of_oneRow hdone hone]
    exact List.mem_append_right _ (List.mem_singleton_self _)
  have hread :
      readRowAtOffsetCsv
          (executeInsert schemaDir statement faults state).1.dataDir
          schema.storageName
          (file.contents ++ lineSeparator file.contents).length =
        .ok (expectedRow statement schema) := by
    unfold readRowAtOffsetCsv openTableFile
    simp only [hdone.file_after]
    rw [readRowAtOffset_of_mem hmem, hone.parsed]
  have hlength : (expectedRow statement schema).length = schema.columns.length :=
    expectedRow_length
  unfold indexSelectRows
  simp only [hvalue]
  rcases hresult :
      tableIndexFindRow
        (executeInsert schemaDir statement faults state).1.dataDir schema id
        (executeInsert schemaDir statement faults state).1.index none with
    ⟨index, result, left⟩
  rw [hresult] at hfind
  simp only at hfind
  subst hfind
  simp only [hread, hlength]
  have hrow := selectedRow_allColumns hlength id
  simp only [ne_eq, not_true_eq_false, if_false, hrow]
  exact congrArg (fun headers => Except.ok (ResultTable.mk headers _))
    (allColumns_headers schema)

end Done

/-!
## When it is read back
-/

/--
In every reachable state, an INSERT that reports success is read back by both paths
exactly when, in a table that can be scanned, enough of its row reaches the file as one
line and none of its values is trimmed.
-/
theorem insert_reads_back_iff (schemaDir : SchemaDir) (dataDir : DataDir)
    (events : List TableEvent) {statement : InsertStatement} {faults : Faults}
    (hnul : statement.ValuesNulFree)
    (hok :
      (executeInsert schemaDir statement faults
        (runEvents schemaDir (startState dataDir) events)).2.ok = true) :
    InsertReadsBack schemaDir statement faults
        (runEvents schemaDir (startState dataDir) events) <->
      ReadsBackWhen schemaDir statement faults
        (runEvents schemaDir (startState dataDir) events) := by
  have hordered : RegistryHolds (fun _ => EntryOrdered)
      (runEvents schemaDir (startState dataDir) events).index.registry :=
    runEvents_ordered (startState_registry dataDir)
  generalize runEvents schemaDir (startState dataDir) events = state
    at hok hordered ⊢
  rcases insertDone_of_ok hnul hordered hok with
    ⟨schema, id, file, slot, entry, hdone⟩
  have hcontents : state.dataDir.contents schema.storageName = some file.contents := by
    simp [DataDir.contents, hdone.file_before]
  have hcut := csvParseLine_cut_iff hdone.row_ne_nil
    (@storedRow_starts file.contents _ faults.append)
  constructor
  · rintro ⟨found, other, rows, hfound, _, _, hbefore, hafter⟩
    rw [hdone.schema_before, Except.ok.injEq] at hfound
    subst hfound
    rcases fileRows_of_selectAll hdone.schema_before hbefore with
      ⟨file', parsed, hfile', hrows, hparsed⟩
    rw [hdone.file_before, Except.ok.injEq] at hfile'
    subst hfile'
    rcases fileRows_of_selectAll hdone.schema_after hafter with
      ⟨grown, parsed', hgrown, hrows', hparsed'⟩
    rw [hdone.file_after, Except.ok.injEq] at hgrown
    subst hgrown
    simp only at hparsed hparsed' hrows'
    rcases rows_of_append hdone hrows hrows' with ⟨more, hmore, hsplit⟩
    have hrow : more.map Prod.snd = [expectedRow statement schema] := by
      rw [hsplit, List.map_append, hparsed] at hparsed'
      exact (List.append_cancel_left hparsed').symm
    have hone := oneRow_of_read hdone hmore hrow
    rcases (hcut hone.ne_nil).mp hone.parsed with ⟨hreaches, hkept⟩
    exact ⟨schema, file.contents, _, hdone.schema_before, hcontents, hbefore, hreaches,
      hone.fits, hkept⟩
  · rintro ⟨found, contents, table, hfound, hfile, hbefore, hreaches, hfits, hkept⟩
    rw [hdone.schema_before, Except.ok.injEq] at hfound
    subst hfound
    rw [hcontents, Option.some.injEq] at hfile
    subst hfile
    rcases fileRows_of_selectAll hdone.schema_before hbefore with
      ⟨file', parsed, hfile', hrows, _⟩
    rw [hdone.file_before, Except.ok.injEq] at hfile'
    subst hfile'
    have hne := hreaches.ne_nil hdone.row_ne_nil
    have hone : OneRow
        (storedRow file.contents (expectedRow statement schema) faults.append)
        (expectedRow statement schema) :=
      ⟨hne, hfits, (hcut hne).mpr ⟨hreaches, hkept⟩⟩
    refine ⟨schema, id, parsed.map Prod.snd, hdone.schema_before,
      hdone.id_assigned, fun value hvalue => lookup_after hdone hone hvalue, ?_, ?_⟩
    · exact selectAll_of_fileRows hdone.schema_before hdone.file_before hrows
    · rw [selectAll_of_fileRows hdone.schema_after hdone.file_after
        (fileRows_after hdone hrows hone), List.map_append]
      rfl

theorem insert_reads_back_quoted :
    InsertReadsBack sampleSchemaDir (sampleInsert (ascii " a,b ")) noFaults
      (runEvents sampleSchemaDir (startState sampleRowsDir) []) := by
  have hiff := @insert_reads_back_iff sampleSchemaDir sampleRowsDir []
    (sampleInsert (ascii " a,b ")) noFaults
    (sampleInsert_nulFree (by decide)) (by decide)
  exact hiff.mpr ⟨sampleSchema, ascii "name\r\na\n\n\"b,c\"",
    { headers := [ascii "name"], rows := [[ascii "a"], [ascii "b,c"]] },
    by decide, by decide, by decide, .inl (by decide),
    by decide, by decide⟩

/-- A value with a leading space is stored, and read back without it. -/
theorem insert_loses_leading_space :
    (executeInsert sampleSchemaDir (sampleInsert (ascii " a")) noFaults
        (startState sampleDataDir)).2.ok = true ∧
      ¬ InsertReadsBack sampleSchemaDir (sampleInsert (ascii " a")) noFaults
        (startState sampleDataDir) := by
  refine ⟨by decide, ?_⟩
  rintro ⟨schema, id, rows, hschema, _, _, hbefore, hafter⟩
  have hsample :
      loadSchema sampleSchemaDir (startState sampleDataDir).dataDir
          (sampleInsert (ascii " a")).tableName = .ok sampleSchema := by
    decide
  rw [hsample, Except.ok.injEq] at hschema
  subst hschema
  have hempty :
      (selectTable sampleSchemaDir
          (selectAllFrom (sampleInsert (ascii " a")).tableName) none
          (startState sampleDataDir)).2 =
        .ok { headers := [ascii "name"], rows := [] } := by
    decide
  have htrimmed :
      (selectTable sampleSchemaDir
          (selectAllFrom (sampleInsert (ascii " a")).tableName) none
          (executeInsert sampleSchemaDir (sampleInsert (ascii " a")) noFaults
            (startState sampleDataDir)).1).2 =
        .ok { headers := [ascii "name"], rows := [[ascii "a"]] } := by
    decide
  rw [hempty, Except.ok.injEq, ResultTable.mk.injEq] at hbefore
  rw [htrimmed, Except.ok.injEq, ResultTable.mk.injEq, ← hbefore.2] at hafter
  exact absurd hafter.2 (by decide)

end Execution
end SqlCsvServer
