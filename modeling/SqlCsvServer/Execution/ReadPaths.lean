import SqlCsvServer.Execution.IndexRun

/-!
# The read paths of SELECT

A full scan, a scan with a condition and a lookup by id read the same rows and
give them the same ids.  The scan of the executor is first compared with the
list of data lines that the rebuild of the index and the read at an offset see.
-/

namespace SqlCsvServer
namespace Execution

open Foundation Common Storage Index Sql

/-!
## The scan of the executor
-/

def selectNumbered (statement : SelectStatement)
    (selected : List SelectedColumn) (whereIndex : Option Nat) :
    Int -> List (List Bytes) -> List (List Bytes)
  | _, [] => []
  | id, fields :: rows =>
      if rowMatchesWhere statement fields whereIndex then
        selectedRow selected fields id ::
          selectNumbered statement selected whereIndex (id + 1) rows
      else selectNumbered statement selected whereIndex (id + 1) rows

def RowsMatchSchema (schema : Schema) (rows : List (List Bytes)) : Prop :=
  forall fields, fields ∈ rows -> fields.length = schema.columns.length

section Scan

variable {statement : SelectStatement} {schema : Schema}
  {selected : List SelectedColumn} {whereIndex : Option Nat}

theorem selectLoop_of_rows {lines : List Bytes} :
    forall {start : Nat} {id : Int} {parsed : List (Nat × List Bytes)},
      parseLines (textLines (withOffsets start lines)) = .ok parsed ->
        RowsMatchSchema schema (parsed.map Prod.snd) ->
          selectLoop statement schema selected whereIndex lines id =
            .ok (selectNumbered statement selected whereIndex id
              (parsed.map Prod.snd)) := by
  induction lines with
  | nil =>
      intro start id parsed hparsed _
      simp only [withOffsets, textLines, parseLines, Except.ok.injEq] at hparsed
      subst hparsed
      rfl
  | cons line lines ih =>
      intro start id parsed hparsed hmatch
      by_cases hblank : lineText line = []
      · simp only [withOffsets, textLines, hblank, if_true] at hparsed
        simp only [selectLoop, hblank, if_true]
        exact ih hparsed hmatch
      · simp only [withOffsets, textLines, hblank, if_false, parseLines]
          at hparsed
        cases hfields : csvParseLine (lineText line) with
        | error error => simp [hfields] at hparsed
        | ok fields =>
            cases hrest :
                parseLines (textLines (withOffsets (start + line.length) lines))
              with
            | error error => simp [hfields, hrest] at hparsed
            | ok rest =>
                simp only [hfields, hrest, Except.ok.injEq] at hparsed
                subst hparsed
                have hlength : fields.length = schema.columns.length :=
                  hmatch fields (by simp)
                have htail := @ih _ (id + 1) _ hrest
                  (fun row hrow => hmatch row (List.mem_cons_of_mem _ hrow))
                simp only [selectLoop, hblank, if_false, hfields, hlength, htail]
                by_cases hwhere : rowMatchesWhere statement fields whereIndex
                · simp [selectNumbered, hwhere]
                · simp [selectNumbered, hwhere]

theorem rows_of_selectLoop {lines : List Bytes} :
    forall (start : Nat) {id : Int} {rows : List (List Bytes)},
      selectLoop statement schema selected whereIndex lines id = .ok rows ->
        exists parsed,
          parseLines (textLines (withOffsets start lines)) = .ok parsed ∧
            RowsMatchSchema schema (parsed.map Prod.snd) := by
  induction lines with
  | nil =>
      intro start id rows _
      exact ⟨[], rfl, by simp [RowsMatchSchema]⟩
  | cons line lines ih =>
      intro start id rows h
      by_cases hblank : lineText line = []
      · simp only [selectLoop, hblank, if_true] at h
        rcases ih (start + line.length) h with ⟨parsed, hparsed, hmatch⟩
        exact ⟨parsed, by simp [withOffsets, textLines, hblank, hparsed], hmatch⟩
      · simp only [selectLoop, hblank, if_false] at h
        cases hfields : csvParseLine (lineText line) with
        | error error => simp [hfields] at h
        | ok fields =>
            simp only [hfields] at h
            split at h
            · simp at h
            · rename_i hlength
              cases hrest :
                  selectLoop statement schema selected whereIndex lines (id + 1)
                with
              | error error => simp [hrest] at h
              | ok tail =>
                  rcases ih (start + line.length) hrest with
                    ⟨parsed, hparsed, hmatch⟩
                  refine ⟨(start, fields) :: parsed, ?_, ?_⟩
                  · simp [withOffsets, textLines, hblank, parseLines, hfields,
                      hparsed]
                  · intro row hrow
                    rcases List.mem_cons.mp hrow with rfl | hrow
                    · exact not_not.mp hlength
                    · exact hmatch row hrow

structure FileRows (schema : Schema) (contents : Bytes)
    (parsed : List (Nat × List Bytes)) : Prop where
  ne_nil : contents ≠ []
  parsed_eq : parseLines (dataLines contents) = .ok parsed
  match_schema : RowsMatchSchema schema (parsed.map Prod.snd)

theorem scanSelect_of_fileRows {contents : Bytes}
    {parsed : List (Nat × List Bytes)}
    (h : FileRows schema contents parsed) :
    scanSelect statement schema selected whereIndex contents =
      .ok (selectNumbered statement selected whereIndex 1
        (parsed.map Prod.snd)) := by
  have hparsed := h.parsed_eq
  unfold dataLines at hparsed
  unfold scanSelect
  rw [fgets_eq_takeLine _ h.ne_nil] at hparsed ⊢
  exact selectLoop_of_rows hparsed h.match_schema

theorem fileRows_of_scanSelect {contents : Bytes} {rows : List (List Bytes)}
    (h :
      scanSelect statement schema selected whereIndex contents = .ok rows) :
    exists parsed, FileRows schema contents parsed := by
  unfold scanSelect at h
  cases hread : fgets lineSize contents with
  | none => simp [hread] at h
  | some read =>
      rcases read with ⟨header, rest⟩
      simp only [hread] at h
      rcases rows_of_selectLoop header.length h with ⟨parsed, hparsed, hmatch⟩
      refine ⟨parsed, ?_, ?_, hmatch⟩
      · intro hnil
        simp [hnil, fgets] at hread
      · unfold dataLines
        rw [hread]
        exact hparsed

end Scan

/-!
## The columns of SELECT *
-/

section Columns

variable {statement : SelectStatement} {schema : Schema}

def allColumns (schema : Schema) : List SelectedColumn :=
  schema.columns.zipIdx.map fun column =>
    { header := column.1, index := some column.2 }

theorem allColumns_headers (schema : Schema) :
    (allColumns schema).map SelectedColumn.header = schema.columns := by
  simp [allColumns, Function.comp_def]

theorem buildSelectIndexes_all (hall : statement.selectAll = true) :
    buildSelectIndexes statement schema = .ok (allColumns schema) := by
  simp [buildSelectIndexes, hall, allColumns]

theorem selectedRow_allColumns {fields : List Bytes}
    (hlength : fields.length = schema.columns.length) (id : Int) :
    selectedRow (allColumns schema) fields id = fields := by
  apply List.ext_getElem
  · simp [selectedRow, allColumns, hlength]
  · intro i hi hi'
    simp [selectedRow, allColumns, List.getD_eq_getElem?_getD, hi']

theorem selectNumbered_allColumns {whereIndex : Option Nat} :
    forall {rows : List (List Bytes)} {id : Int},
      statement.condition = none -> RowsMatchSchema schema rows ->
        selectNumbered statement (allColumns schema) whereIndex id rows =
          rows := by
  intro rows
  induction rows with
  | nil => exact fun _ _ => rfl
  | cons fields rows ih =>
      intro id hcondition hmatch
      have hwhere : rowMatchesWhere statement fields whereIndex = true := by
        simp [rowMatchesWhere, hcondition]
      have hrest := @ih (id + 1) hcondition
        (fun row hrow => hmatch row (List.mem_cons_of_mem _ hrow))
      rw [selectNumbered, if_pos hwhere, hrest,
        selectedRow_allColumns (hmatch fields (List.mem_cons_self ..))]

end Columns

/-!
## The whole SELECT
-/

section Select

variable {schemaDir : SchemaDir} {statement : SelectStatement}
  {memory : Option Nat} {state : EngineState} {schema : Schema}
  {selected : List SelectedColumn} {whereIndex : Option Nat} {file : CsvFile}

theorem selectTable_scan
    (hschema :
      loadSchema schemaDir state.dataDir statement.tableName = .ok schema)
    (hselected : buildSelectIndexes statement schema = .ok selected)
    (hne : selected ≠ [])
    (hwhere : resolveWhereIndex statement schema = .ok whereIndex)
    (hscan : whereIdValue statement = none)
    (hfile : state.dataDir.files schema.storageName = .ok file) :
    (selectTable schemaDir statement memory state).2 =
      (scanSelect statement schema selected whereIndex file.contents).map
        (resultTable selected) := by
  rcases List.exists_cons_of_ne_nil hne with ⟨first, more, hcons⟩
  unfold selectTable
  simp only [hschema, hselected, hcons, hwhere, hscan, scanSelectRows, hfile]

theorem selectTable_index {whereValue : Bytes}
    (hschema :
      loadSchema schemaDir state.dataDir statement.tableName = .ok schema)
    (hselected : buildSelectIndexes statement schema = .ok selected)
    (hne : selected ≠ [])
    (hcondition :
      statement.condition =
        some { whereColumn := ascii "id", whereValue := whereValue }) :
    (selectTable schemaDir statement memory state).2 =
      (indexSelectRows schema selected whereValue state memory).2.map
        (resultTable selected) := by
  rcases List.exists_cons_of_ne_nil hne with ⟨first, more, hcons⟩
  unfold selectTable
  simp only [hschema, hselected, hcons, resolveWhereIndex, whereIdValue,
    hcondition, if_true]

end Select

/-!
## The lookup by id
-/

section Lookup

variable {dataDir : DataDir} {schema : Schema} {index : IndexState}
  {available : Option Nat} {file : CsvFile}

theorem tableIndexFindRow_of_loaded (dataDir : DataDir)
    (available : Option Nat) {slot : Nat} {entry : TableIndex}
    (hfound :
      findTableIndex index.registry.items schema.storageName =
        some (slot, entry))
    (hloaded : entry.loaded = true) (id : Int) :
    (tableIndexFindRow dataDir schema id index available).2.1 =
      .ok (bptreeSearch entry.tree id) := by
  unfold tableIndexFindRow
  rw [ensureLoaded_of_loaded hfound hloaded]

theorem tableIndexFindRow_unlimited {parsed : List (Nat × List Bytes)}
    (hfile : dataDir.files schema.storageName = .ok file)
    (hrows : FileRows schema file.contents parsed)
    (hcurrent : forall entry,
      entryOf index.registry schema.storageName = some entry ->
        EntryCurrent dataDir schema.storageName entry) (id : Int) :
    (tableIndexFindRow dataDir schema id index none).2.1 =
      .ok (bptreeSearch (treeOfRows (dataLines file.contents)) id) := by
  let P : Bytes -> TableIndex -> Prop := fun name entry =>
    name = schema.storageName -> EntryCurrent dataDir name entry
  have hinvariant := entryCurrent_invariant dataDir
  have hP : EntryInvariant dataDir P :=
    { created := fun name _ => hinvariant.created name
      unloaded := fun name entry _ => hinvariant.unloaded name entry
      rebuilt := fun name entry memory h _ =>
        hinvariant.rebuilt name entry memory h }
  have hregistry : RegistryHolds P index.registry := by
    intro name entry hentry hname
    rw [hname] at hentry ⊢
    exact hcurrent entry hentry
  rcases ensureLoaded_unlimited index.registry hfile hrows.ne_nil
      hrows.parsed_eq with
    ⟨after, slot, entry, hload⟩
  rcases ensureLoaded_cases hP hregistry hload with
    ⟨hafter, ⟨error, herror⟩ | ⟨slot', entry', hresult, hloaded, hfound⟩⟩
  · simp at herror
  · simp only [Except.ok.injEq, Prod.mk.injEq] at hresult
    rcases hresult with ⟨rfl, rfl⟩
    have hentry : entryOf after schema.storageName = some entry := by
      simp [entryOf, hfound]
    rcases hafter _ _ hentry rfl hloaded with
      ⟨other, rows, hother, _, _, htree, _⟩
    rw [hfile, Except.ok.injEq] at hother
    subst hother
    unfold tableIndexFindRow
    rw [hload]
    simp only [htree]

theorem readRowAtOffset_of_fileRows {parsed : List (Nat × List Bytes)}
    {contents : Bytes} (hrows : FileRows schema contents parsed) {i : Nat}
    {line : Nat × Bytes} (hline : (dataLines contents)[i]? = some line) :
    exists fields,
      parsed[i]? = some (line.1, fields) ∧
        readRowAtOffset contents line.1 = .ok fields ∧
        fields.length = schema.columns.length := by
  have hforall := parseLines_forall hrows.parsed_eq
  rcases List.getElem?_eq_some_iff.mp hline with ⟨hlt, hget⟩
  have hlt' : i < parsed.length := by
    rw [parseLines_length hrows.parsed_eq]
    exact hlt
  have hpair := hforall.get hlt hlt'
  simp only [List.get_eq_getElem, hget] at hpair
  refine ⟨parsed[i].2, ?_, ?_, ?_⟩
  · rw [List.getElem?_eq_getElem hlt', hpair.1]
  · have hmem : (line.1, line.2) ∈ dataLines contents :=
      hget ▸ List.getElem_mem hlt
    rw [readRowAtOffset_of_mem hmem]
    exact hpair.2
  · exact hrows.match_schema _ (List.mem_map_of_mem (List.getElem_mem hlt'))

def rowsWithId (selected : List SelectedColumn) (rows : List (List Bytes))
    (id : Int) : List (List Bytes) :=
  if 1 ≤ id then
    (rows[(id - 1).toNat]?).toList.map fun fields =>
      selectedRow selected fields id
  else []

theorem filter_zipIdx_eq {α : Type} (rows : List α) :
    forall (start : Nat) (id : Int),
      (rows.zipIdx start).filter (fun row => (row.2 : Int) = id) =
        if (start : Int) ≤ id then
          (rows[(id - start).toNat]?).toList.map fun row => (row, id.toNat)
        else [] := by
  induction rows with
  | nil => simp
  | cons row rows ih =>
      intro start id
      have hrest := ih (start + 1) id
      by_cases heq : (start : Int) = id
      · subst heq
        have hlater : ¬ ((start + 1 : Nat) : Int) ≤ start := by omega
        rw [if_neg hlater] at hrest
        rw [List.zipIdx_cons, List.filter_cons_of_pos (by simp), hrest]
        simp
      · rw [List.zipIdx_cons, List.filter_cons_of_neg (by simpa using heq), hrest]
        by_cases hle : (start : Int) ≤ id
        · have hlater : ((start + 1 : Nat) : Int) ≤ id := by omega
          have hindex : (id - (start : Int)).toNat =
              (id - ((start + 1 : Nat) : Int)).toNat + 1 := by
            omega
          rw [if_pos hlater, if_pos hle, hindex, List.getElem?_cons_succ]
        · have hlater : ¬ ((start + 1 : Nat) : Int) ≤ id := by omega
          rw [if_neg hlater, if_neg hle]

theorem rowsWithId_eq (selected : List SelectedColumn)
    (rows : List (List Bytes)) (id : Int) :
    rowsWithId selected rows id =
      ((rows.zipIdx 1).filter fun row => (row.2 : Int) = id).map fun row =>
        selectedRow selected row.1 row.2 := by
  rw [filter_zipIdx_eq]
  unfold rowsWithId
  by_cases hle : 1 ≤ id
  · have hle' : ((1 : Nat) : Int) ≤ id := hle
    have hid : ((id.toNat : Nat) : Int) = id := Int.toNat_of_nonneg (by omega)
    rw [if_pos hle, if_pos hle', List.map_map]
    simp [Function.comp_def, hid]
  · have hle' : ¬ ((1 : Nat) : Int) ≤ id := hle
    rw [if_neg hle, if_neg hle', List.map_nil]

theorem indexSelectRows_of_fileRows {state : EngineState}
    {selected : List SelectedColumn} {parsed : List (Nat × List Bytes)}
    (hfile : state.dataDir.files schema.storageName = .ok file)
    (hrows : FileRows schema file.contents parsed)
    (hcurrent : forall entry,
      entryOf state.index.registry schema.storageName = some entry ->
        EntryCurrent state.dataDir schema.storageName entry)
    {whereValue : Bytes} {id : Int}
    (hid : parseIntStrict whereValue = some id) :
    (indexSelectRows schema selected whereValue state none).2 =
      .ok (rowsWithId selected (parsed.map Prod.snd) id) := by
  have hfind := tableIndexFindRow_unlimited hfile hrows hcurrent id
  unfold indexSelectRows
  simp only [hid]
  rcases hresult : tableIndexFindRow state.dataDir schema id state.index none with
    ⟨index, result, left⟩
  rw [hresult] at hfind
  simp only at hfind
  subst hfind
  rw [bptreeSearch_treeOfRows]
  unfold rowsWithId
  by_cases hpositive : 1 ≤ id
  · simp only [if_pos hpositive]
    generalize (id - 1).toNat = i
    cases hline : (dataLines file.contents)[i]? with
    | none =>
        have hnone : (parsed.map Prod.snd)[i]? = none := by
          rw [List.getElem?_eq_none_iff] at hline ⊢
          rw [List.length_map, parseLines_length hrows.parsed_eq]
          exact hline
        simp [hnone]
    | some line =>
        rcases readRowAtOffset_of_fileRows hrows hline with
          ⟨fields, hparsed, hread, hlength⟩
        have hopen : readRowAtOffsetCsv state.dataDir schema.storageName line.1 =
            .ok fields := by
          simp [readRowAtOffsetCsv, openTableFile, hfile, hread]
        have hsome : (parsed.map Prod.snd)[i]? = some fields := by
          simp [hparsed]
        simp [hsome, hopen, hlength]
  · simp [hpositive]

end Lookup

/-!
## The paths agree
-/

/-- `SELECT * FROM table}`. -/
def selectAllFrom (tableName : Bytes) : SelectStatement :=
  { tableName := tableName, columns := [], selectAll := true, condition := none }

/-- A row and the id a scan gives it. -/
def withIds (rows : List (List Bytes)) : List (List Bytes × Nat) :=
  rows.zipIdx 1

theorem selectNumbered_eq (statement : SelectStatement)
    (selected : List SelectedColumn) (whereIndex : Option Nat) :
    forall (rows : List (List Bytes)) (id : Nat),
      selectNumbered statement selected whereIndex id rows =
        ((rows.zipIdx id).filter fun row =>
          rowMatchesWhere statement row.1 whereIndex).map fun row =>
            selectedRow selected row.1 row.2 := by
  intro rows
  induction rows with
  | nil => exact fun _ => rfl
  | cons fields rows ih =>
      intro id
      have hrest := ih (id + 1)
      push_cast at hrest
      by_cases hwhere : rowMatchesWhere statement fields whereIndex = true
      · simp [selectNumbered, hwhere, hrest]
      · simp [selectNumbered, hwhere, hrest]

theorem fileRows_of_selectAll {schemaDir : SchemaDir} {state : EngineState}
    {tableName : Bytes} {schema : Schema} {memory : Option Nat}
    (hschema : loadSchema schemaDir state.dataDir tableName = .ok schema)
    {all : ResultTable}
    (hall :
      (selectTable schemaDir (selectAllFrom tableName) memory state).2 =
        .ok all) :
    exists (file : CsvFile) (parsed : List (Nat × List Bytes)),
      state.dataDir.files schema.storageName = .ok file ∧
        FileRows schema file.contents parsed ∧
        all.rows = parsed.map Prod.snd := by
  rcases loadSchema_eq_ok_iff.mp hschema with ⟨hread, hheader⟩
  rcases contents_of_validateCsvHeader hheader with ⟨file, hfile, _⟩
  have hcolumns := (readSchema_accepted hread).columns_ne_nil
  have hne : allColumns schema ≠ [] := by
    simpa [allColumns] using hcolumns
  have hindexes : buildSelectIndexes (selectAllFrom tableName) schema =
      .ok (allColumns schema) := buildSelectIndexes_all rfl
  have hwhere : resolveWhereIndex (selectAllFrom tableName) schema = .ok none :=
    rfl
  rw [selectTable_scan hschema hindexes hne hwhere rfl hfile] at hall
  cases hrows :
      scanSelect (selectAllFrom tableName) schema (allColumns schema) none
        file.contents with
  | error text => simp [hrows, Except.map] at hall
  | ok rows =>
      rcases fileRows_of_scanSelect hrows with ⟨parsed, hparsed⟩
      refine ⟨file, parsed, hfile, hparsed, ?_⟩
      have hnumbered := hrows
      rw [scanSelect_of_fileRows hparsed, selectNumbered_allColumns rfl hparsed.match_schema,
        Except.ok.injEq] at hnumbered
      rw [hrows] at hall
      simp only [Except.map, Except.ok.injEq] at hall
      rw [← hall, hnumbered]
      rfl

/--
When SELECT * numbers the rows of a table, every SELECT of that table agrees
with it: without a condition it numbers the same rows, with a condition on a
column it selects those of them that match, and with a condition on the id it
selects the row with that number and no other.
-/
theorem select_paths_agree {schemaDir : SchemaDir} {state : EngineState}
    {tableName : Bytes} {schema : Schema}
    (hschema : loadSchema schemaDir state.dataDir tableName = .ok schema)
    {all : ResultTable}
    (hall :
      (selectTable schemaDir (selectAllFrom tableName) none state).2 = .ok all)
    (hunloaded : tableIndexIsLoaded state.index schema.storageName = false)
    {statement : SelectStatement} (htable : statement.tableName = tableName)
    {selected : List SelectedColumn}
    (hselected : buildSelectIndexes statement schema = .ok selected)
    (hne : selected ≠ []) :
    (statement.condition = none ->
      (selectTable schemaDir statement none state).2 =
        .ok (resultTable selected
          ((withIds all.rows).map fun row =>
            selectedRow selected row.1 row.2))) ∧
      (forall column value columnIndex,
        statement.condition =
            some { whereColumn := column, whereValue := value } ->
          schemaFindColumn schema column = some columnIndex ->
            (selectTable schemaDir statement none state).2 =
              .ok (resultTable selected
                (((withIds all.rows).filter fun row =>
                  row.1.getD columnIndex [] = value).map fun row =>
                    selectedRow selected row.1 row.2))) ∧
      forall value id,
        statement.condition =
            some { whereColumn := ascii "id", whereValue := value } ->
          parseIntStrict value = some id ->
            (selectTable schemaDir statement none state).2 =
              .ok (resultTable selected
                (((withIds all.rows).filter fun row =>
                  (row.2 : Int) = id).map fun row =>
                    selectedRow selected row.1 row.2)) := by
  subst htable
  rcases fileRows_of_selectAll hschema hall with
    ⟨file, parsed, hfile, hrows, hallRows⟩
  have hread := (loadSchema_eq_ok_iff.mp hschema).1
  refine ⟨?_, ?_, ?_⟩
  · intro hcondition
    have hwhere : resolveWhereIndex statement schema = .ok none := by
      simp [resolveWhereIndex, hcondition]
    rw [selectTable_scan hschema hselected hne hwhere
      (by simp [whereIdValue, hcondition]) hfile,
      scanSelect_of_fileRows hrows, ← hallRows]
    have hmatch : forall row : List Bytes × Nat,
        rowMatchesWhere statement row.1 none = true := by
      intro row
      simp [rowMatchesWhere, hcondition]
    have hnumbered := selectNumbered_eq statement selected none all.rows 1
    rw [List.filter_eq_self.mpr fun row _ => hmatch row] at hnumbered
    exact congrArg (fun rows => Except.ok (resultTable selected rows)) hnumbered
  · intro column value columnIndex hcondition hcolumn
    have hid : column ≠ ascii "id" := by
      intro hid
      have hmem : column ∈ schema.columns := by
        by_contra habsent
        rw [← schemaFindColumn_eq_none_iff] at habsent
        simp [habsent] at hcolumn
      exact (readSchema_accepted hread).id_not_column (hid ▸ hmem)
    have hwhere : resolveWhereIndex statement schema = .ok (some columnIndex) := by
      simp [resolveWhereIndex, hcondition, hid, hcolumn]
    rw [selectTable_scan hschema hselected hne hwhere
      (by simp [whereIdValue, hcondition, hid]) hfile,
      scanSelect_of_fileRows hrows, ← hallRows]
    have hnumbered :=
      selectNumbered_eq statement selected (some columnIndex) all.rows 1
    simp only [rowMatchesWhere, hcondition] at hnumbered
    exact congrArg (fun rows => Except.ok (resultTable selected rows)) hnumbered
  · intro value id hcondition hvalue
    have hcurrent : forall entry,
        entryOf state.index.registry schema.storageName = some entry ->
          EntryCurrent state.dataDir schema.storageName entry := by
      intro entry hentry hloaded
      rcases Option.map_eq_some_iff.mp hentry with ⟨⟨slot, found⟩, hfound, heq⟩
      simp only at heq
      subst heq
      simp [tableIndexIsLoaded, hfound, hloaded] at hunloaded
    rw [selectTable_index hschema hselected hne hcondition,
      indexSelectRows_of_fileRows hfile hrows hcurrent hvalue, ← hallRows]
    exact congrArg (fun rows => Except.ok (resultTable selected rows))
      (rowsWithId_eq selected all.rows id)

def sampleRowsDir : DataDir :=
  { path := ascii "data"
    files := fun name =>
      if name = ascii "t" then
        .ok
          { contents := ascii "name\r\na\n\n\"b,c\""
            updateError := none }
      else .error .noEntry }

theorem select_paths_agree_sample :
    (selectTable sampleTablesDir
        { tableName := ascii "u"
          columns := [ascii "id", ascii "name"]
          selectAll := false
          condition :=
            some { whereColumn := ascii "id", whereValue := ascii "+2" } }
        none (startState sampleTablesData)).2 =
      .ok
        { headers := [ascii "id", ascii "name"]
          rows := [[ascii "2", ascii "b,c"]] } := by
  have hpaths := @select_paths_agree sampleTablesDir (startState sampleTablesData)
    (ascii "u") sampleTownSchema (by decide)
    { headers := [ascii "name", ascii "town"]
      rows := [[ascii "a", ascii "x"], [ascii "b,c", ascii "y"]] }
    (by decide) (by decide)
    { tableName := ascii "u"
      columns := [ascii "id", ascii "name"]
      selectAll := false
      condition :=
        some { whereColumn := ascii "id", whereValue := ascii "+2" } }
    rfl
    [{ header := ascii "id", index := none },
      { header := ascii "name", index := some 0 }]
    (by decide) (by decide)
  exact (hpaths.2.2 (ascii "+2") 2 rfl (by decide)).trans (by decide)

end Execution
end SqlCsvServer
