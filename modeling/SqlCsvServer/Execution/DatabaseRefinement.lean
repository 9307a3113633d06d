import SqlCsvServer.Execution.Database
import SqlCsvServer.Execution.ReadBack

/-!
# The executor does what the statements are for

Files and index stand for a database: every loadable table for the rows that are read
from its file.  As long as its rows are written in lines that the readers take as they
are, the executor answers each statement as that database does, and goes on standing
for it.
-/

namespace SqlCsvServer
namespace Execution

open Foundation Common Storage Index Sql

/-!
## What the files stand for
-/

/-- The stored name of a table that can be loaded. -/
def resolveTable (schemaDir : SchemaDir) (dataDir : DataDir) (tableName : Bytes) :
    Option Bytes :=
  match loadSchema schemaDir dataDir tableName with
  | .error _ => none
  | .ok schema => some schema.storageName

/-- The file of this name can be written, and its lines are the rows of the table. -/
structure StoresTable (dataDir : DataDir) (name : Bytes)
    (table : NumberedTable Bytes Bytes) : Prop where
  distinct : table.columns.Nodup
  file : exists contents parsed,
    dataDir.files name = .ok { contents := contents, updateError := none } ∧
      contents ≠ [] ∧ parseLines (dataLines contents) = .ok parsed ∧
        parsed.map Prod.snd = table.rows.map fun row => table.columns.map row

/-- The files and the index stand for a database whose tables have these names. -/
structure Represents (schemaDir : SchemaDir) (resolve : Bytes -> Option Bytes)
    (state : EngineState) (database : Database) : Prop where
  hook : state.index.forceNextRegisterFailure = false
  current : RegistryHolds (EntryCurrent state.dataDir) state.index.registry
  ordered : RegistryHolds (fun _ => EntryOrdered) state.index.registry
  missing : forall {tableName}, resolve tableName = none ->
    exists text, loadSchema schemaDir state.dataDir tableName = .error text
  stored : forall {tableName name}, resolve tableName = some name ->
    exists schema table, loadSchema schemaDir state.dataDir tableName = .ok schema ∧
      schema.storageName = name ∧ schema.columns = table.columns ∧
        database name = some table ∧ StoresTable state.dataDir name table

section Stores

variable {dataDir : DataDir} {schema : Schema} {table : NumberedTable Bytes Bytes}

theorem StoresTable.fileRows (h : StoresTable dataDir schema.storageName table)
    (hcolumns : schema.columns = table.columns) :
    exists contents parsed,
      dataDir.files schema.storageName =
          .ok { contents := contents, updateError := none } ∧
        FileRows schema contents parsed ∧
          parsed.map Prod.snd = table.rows.map fun row => table.columns.map row := by
  rcases h.file with ⟨contents, parsed, hfile, hne, hparsed, hrows⟩
  refine ⟨contents, parsed, hfile, ⟨hne, hparsed, ?_⟩, hrows⟩
  intro fields hfields
  rw [hrows] at hfields
  rcases List.mem_map.mp hfields with ⟨row, _, rfl⟩
  rw [List.length_map, hcolumns]

end Stores

/-!
## The row of an INSERT
-/

section Row

variable {schema : Schema} {statement : InsertStatement}

theorem givenValue_eq_find (schemaIndex : Nat) (pairs : List (Bytes × Bytes)) :
    givenValue schema schemaIndex pairs =
      (pairs.find? fun pair =>
        decide (schemaFindColumn schema pair.1 = some schemaIndex)).map Prod.snd := by
  induction pairs with
  | nil => rfl
  | cons pair pairs ih =>
      rcases pair with ⟨column, value⟩
      rw [givenValue, List.find?_cons]
      by_cases hslot : schemaFindColumn schema column = some schemaIndex
      · simp [hslot]
      · simp [hslot, ih]

theorem expectedRow_eq_givenRow (hdistinct : schema.columns.Nodup) :
    expectedRow statement schema = schema.columns.map (givenRow statement) := by
  apply List.ext_getElem
  · rw [expectedRow_length, List.length_map]
  · intro i hleft hright
    have hlt : i < schema.columns.length := by rwa [expectedRow_length] at hleft
    have hslot : forall column,
        schemaFindColumn schema column = some i <-> column = schema.columns[i] := by
      intro column
      rw [schemaFindColumn_eq_some_iff]
      constructor
      · rintro ⟨hmem, rfl⟩
        rw [List.getElem_idxOf]
      · rintro rfl
        exact ⟨List.getElem_mem hlt, hdistinct.idxOf_getElem i hlt⟩
    have hvalue := @expectedRow_slot schema statement i hlt
    rw [List.getElem?_eq_getElem hleft, Option.some.injEq] at hvalue
    rw [hvalue, List.getElem_map, givenValue_eq_find]
    simp only [hslot, givenRow]

theorem pairsAccepted_of_insertable {table : NumberedTable Bytes Bytes}
    (hcolumns : schema.columns = table.columns) (h : Insertable table statement) :
    PairsAccepted schema (insertPairs statement) := by
  rw [pairsAccepted_iff h.paired]
  refine ⟨?_, h.distinct, h.oneLine⟩
  rw [hcolumns]
  exact h.known

theorem insertable_of_pairsAccepted {table : NumberedTable Bytes Bytes}
    (hcolumns : schema.columns = table.columns)
    (hlength : statement.columns.length = statement.values.length)
    (h : PairsAccepted schema (insertPairs statement)) : Insertable table statement := by
  rw [pairsAccepted_iff hlength, hcolumns] at h
  exact ⟨hlength, h.1, h.2.1, h.2.2⟩

end Row

/-!
## SELECT
-/

section Columns

variable {schema : Schema} {table : NumberedTable Bytes Bytes}

def attributeSlot (schema : Schema) : Attribute Bytes -> Option Nat
  | .number => none
  | .of name => some (schema.columns.idxOf name)

def namedColumn (schema : Schema) (name : Bytes) : SelectedColumn :=
  { header := name, index := attributeSlot schema (attributeOf name) }

theorem slot_value {name : Bytes} (hname : IsAttribute table name)
    (hcolumns : schema.columns = table.columns) (row : Bytes -> Bytes) (number : Nat) :
    (match attributeSlot schema (attributeOf name) with
      | none => decimalInt number
      | some index => (table.columns.map row).getD index []) =
      NumberedTable.cell (fun number => decimalInt number) (row, number)
        (attributeOf name) := by
  unfold attributeOf
  by_cases hid : name = ascii "id"
  · rw [if_pos hid]
    rfl
  · have hmem := hname.resolve_left hid
    simp only [if_neg hid, attributeSlot, NumberedTable.cell, hcolumns]
    rw [List.getD_eq_getElem?_getD, List.getElem?_map,
      List.getElem?_eq_getElem (List.idxOf_lt_length_iff.mpr hmem), List.getElem_idxOf]
    rfl

theorem selectedRow_attributes {names : List Bytes}
    (hnames : forall name, name ∈ names -> IsAttribute table name)
    (hcolumns : schema.columns = table.columns) (row : Bytes -> Bytes) (number : Nat) :
    selectedRow (names.map (namedColumn schema)) (table.columns.map row) number =
      (names.map attributeOf).map
        (NumberedTable.cell (fun number => decimalInt number) (row, number)) := by
  unfold selectedRow
  rw [List.map_map, List.map_map]
  apply List.map_congr_left
  intro name hname
  exact slot_value (hnames name hname) hcolumns row number

theorem selectColumnsLoop_cons (name : Bytes) (names : List Bytes) :
    selectColumnsLoop schema (name :: names) =
      match selectColumnsLoop schema [name], selectColumnsLoop schema names with
      | .error text, _ => .error text
      | .ok _, .error text => .error text
      | .ok first, .ok rest => .ok (first ++ rest) := by
  by_cases hid : name = ascii "id"
  · simp only [selectColumnsLoop, hid, if_true]
    cases selectColumnsLoop schema names
    all_goals rfl
  · simp only [selectColumnsLoop, hid, if_false]
    cases schemaFindColumn schema name
    · rfl
    · cases selectColumnsLoop schema names
      all_goals rfl

theorem selectColumnsLoop_name (hcolumns : schema.columns = table.columns) (name : Bytes) :
    (IsAttribute table name ->
        selectColumnsLoop schema [name] = .ok [namedColumn schema name]) ∧
      (¬ IsAttribute table name ->
        exists text, selectColumnsLoop schema [name] = .error text) := by
  unfold namedColumn attributeOf
  by_cases hid : name = ascii "id"
  · refine ⟨fun _ => ?_, fun h => absurd (.inl hid) h⟩
    simp only [selectColumnsLoop, if_pos hid]
    rw [hid]
    rfl
  · simp only [selectColumnsLoop, if_neg hid]
    by_cases hmem : name ∈ table.columns
    · have hslot := schemaFindColumn_eq_some_iff.mpr
        ⟨hcolumns ▸ hmem, Eq.refl (schema.columns.idxOf name)⟩
      simp only [hslot]
      exact ⟨fun _ => rfl, fun h => absurd (.inr hmem) h⟩
    · have hnone : schemaFindColumn schema name = none :=
        schemaFindColumn_eq_none_iff.mpr (hcolumns ▸ hmem)
      simp only [hnone]
      exact ⟨fun h => absurd (h.resolve_left hid) hmem, fun _ => ⟨_, rfl⟩⟩

theorem selectColumnsLoop_names (hcolumns : schema.columns = table.columns)
    (names : List Bytes) :
    ((forall name, name ∈ names -> IsAttribute table name) ->
        selectColumnsLoop schema names = .ok (names.map (namedColumn schema))) ∧
      (¬ (forall name, name ∈ names -> IsAttribute table name) ->
        exists text, selectColumnsLoop schema names = .error text) := by
  induction names with
  | nil => exact ⟨fun _ => rfl, fun h => absurd (fun name hname => nomatch hname) h⟩
  | cons name names ih =>
      rw [selectColumnsLoop_cons, List.forall_mem_cons]
      have hfirst := selectColumnsLoop_name hcolumns name
      by_cases hname : IsAttribute table name
      · rw [hfirst.1 hname]
        constructor
        · rintro ⟨_, hmore⟩
          rw [ih.1 hmore]
          rfl
        · intro hbad
          rcases ih.2 fun hmore => hbad ⟨hname, hmore⟩ with ⟨text, htext⟩
          rw [htext]
          exact ⟨text, rfl⟩
      · rcases hfirst.2 hname with ⟨text, htext⟩
        rw [htext]
        exact ⟨fun h => absurd h.1 hname, fun _ => ⟨text, rfl⟩⟩

theorem buildSelectIndexes_names (haccepted : SchemaAccepted schema)
    (hdistinct : schema.columns.Nodup) (hcolumns : schema.columns = table.columns)
    (statement : SelectStatement) :
    ((forall name, name ∈ shownColumns table statement -> IsAttribute table name) ->
        buildSelectIndexes statement schema =
          .ok ((shownColumns table statement).map (namedColumn schema))) ∧
      (¬ (forall name, name ∈ shownColumns table statement -> IsAttribute table name) ->
        exists text, buildSelectIndexes statement schema = .error text) := by
  unfold buildSelectIndexes shownColumns
  split
  · refine ⟨fun _ => ?_, fun h => absurd (fun name hname => .inr hname) h⟩
    rw [← hcolumns, Except.ok.injEq]
    apply List.ext_getElem
    · rw [List.length_map, List.length_map, List.length_zipIdx]
    · intro i hleft hright
      rw [List.length_map] at hright
      have hid : schema.columns[i] ≠ ascii "id" :=
        fun heq => haccepted.id_not_column (heq ▸ List.getElem_mem hright)
      simp only [List.getElem_map, List.getElem_zipIdx, namedColumn, attributeOf,
        if_neg hid, attributeSlot, hdistinct.idxOf_getElem i hright, Nat.zero_add]
  · exact selectColumnsLoop_names hcolumns statement.columns

theorem resolveWhereIndex_names (hcolumns : schema.columns = table.columns)
    (statement : SelectStatement) :
    ((forall condition, statement.condition = some condition ->
          IsAttribute table condition.whereColumn) ->
        resolveWhereIndex statement schema =
          .ok (statement.condition.bind fun condition =>
            attributeSlot schema (attributeOf condition.whereColumn))) ∧
      (¬ (forall condition, statement.condition = some condition ->
          IsAttribute table condition.whereColumn) ->
        exists text, resolveWhereIndex statement schema = .error text) := by
  unfold resolveWhereIndex
  cases statement.condition with
  | none => exact ⟨fun _ => rfl, fun h => absurd (fun _ hnone => nomatch hnone) h⟩
  | some condition =>
      simp only [Option.some.injEq, forall_eq', Option.bind_some]
      unfold attributeOf
      by_cases hid : condition.whereColumn = ascii "id"
      · rw [if_pos hid, if_pos hid]
        exact ⟨fun _ => rfl, fun h => absurd (.inl hid) h⟩
      · rw [if_neg hid, if_neg hid]
        by_cases hmem : condition.whereColumn ∈ table.columns
        · have hslot := schemaFindColumn_eq_some_iff.mpr
            ⟨hcolumns ▸ hmem, Eq.refl (schema.columns.idxOf condition.whereColumn)⟩
          simp only [hslot]
          exact ⟨fun _ => rfl, fun h => absurd (.inr hmem) h⟩
        · have hnone : schemaFindColumn schema condition.whereColumn = none :=
            schemaFindColumn_eq_none_iff.mpr (hcolumns ▸ hmem)
          simp only [hnone]
          exact ⟨fun h => absurd (h.resolve_left hid) hmem, fun _ => ⟨_, rfl⟩⟩

end Columns

section Answers

variable {schemaDir : SchemaDir} {state : EngineState} {statement : SelectStatement}
  {schema : Schema} {table : NumberedTable Bytes Bytes}

theorem numberedRows_shown {names : List Bytes}
    (hnames : forall name, name ∈ names -> IsAttribute table name)
    (hcolumns : schema.columns = table.columns)
    {chosen : List Bytes × Nat -> Bool} {wanted : (Bytes -> Bytes) × Nat -> Bool}
    (hsame : forall row number,
      chosen (table.columns.map row, number) = wanted (row, number)) :
    ((((table.rows.map fun row => table.columns.map row).zipIdx 1).filter chosen).map
        fun row => selectedRow (names.map (namedColumn schema)) row.1 row.2) =
      table.select (fun number => decimalInt number) (names.map attributeOf) wanted := by
  unfold NumberedTable.select NumberedTable.numbered
  rw [List.zipIdx_map, List.filter_map, List.map_map]
  have hfilter : (chosen ∘ Prod.map (fun row => table.columns.map row) id) = wanted :=
    funext fun row => hsame row.1 row.2
  rw [hfilter]
  apply List.map_congr_left
  intro row _
  exact selectedRow_attributes hnames hcolumns row.1 row.2

theorem resultTable_shown (rows : List (List Bytes)) :
    resultTable ((shownColumns table statement).map (namedColumn schema)) rows =
      { headers := shownColumns table statement, rows := rows } := by
  unfold resultTable
  rw [List.map_map]
  have hheader : SelectedColumn.header ∘ namedColumn schema = id := rfl
  rw [hheader, List.map_id]

theorem rowMatchesWhere_isWanted (hcolumns : schema.columns = table.columns)
    (hcondition : forall condition, statement.condition = some condition ->
      condition.whereColumn ≠ ascii "id" ∧ condition.whereColumn ∈ table.columns)
    (row : Bytes -> Bytes) (number : Nat) :
    rowMatchesWhere statement (table.columns.map row)
        (statement.condition.bind fun condition =>
          attributeSlot schema (attributeOf condition.whereColumn)) =
      isWanted statement (row, number) := by
  unfold rowMatchesWhere isWanted
  cases hsome : statement.condition with
  | none => rfl
  | some condition =>
      rcases hcondition condition hsome with ⟨hid, hmem⟩
      have hvalue := slot_value (.inr hmem) hcolumns row number
      have hattribute : attributeOf condition.whereColumn = .of condition.whereColumn :=
        if_neg hid
      simp only [hattribute, attributeSlot, NumberedTable.cell] at hvalue
      simp only [Option.bind_some, hattribute, attributeSlot, hvalue]

theorem isWanted_number {condition : WhereCondition}
    (hsome : statement.condition = some condition)
    (hid : condition.whereColumn = ascii "id") {wantedId : Int}
    (hvalue : parseIntStrict condition.whereValue = some wantedId)
    (row : Bytes -> Bytes) (number : Nat) :
    decide ((number : Int) = wantedId) = isWanted statement (row, number) := by
  have hattribute : attributeOf condition.whereColumn = .number := if_pos hid
  unfold isWanted
  simp only [hsome, hattribute, hvalue, Option.some.injEq]
  exact decide_eq_decide.mpr eq_comm

theorem selectTable_answers
    (hschema : loadSchema schemaDir state.dataDir statement.tableName = .ok schema)
    (hcolumns : schema.columns = table.columns)
    (hstores : StoresTable state.dataDir schema.storageName table)
    (hcurrent : RegistryHolds (EntryCurrent state.dataDir) state.index.registry)
    (hshown : shownColumns table statement ≠ []) :
    (Answerable table statement ->
        (selectTable schemaDir statement none state).2 =
          .ok (shownTable table statement)) ∧
      (¬ Answerable table statement ->
        exists text, (selectTable schemaDir statement none state).2 = .error text) := by
  have haccepted := readSchema_accepted (loadSchema_eq_ok_iff.mp hschema).1
  have hindexes := buildSelectIndexes_names haccepted (hcolumns ▸ hstores.distinct)
    hcolumns statement
  have hwhere := resolveWhereIndex_names hcolumns statement
  have hne : (shownColumns table statement).map (namedColumn schema) ≠ [] :=
    fun hnil => hshown (List.map_eq_nil_iff.mp hnil)
  rcases hstores.fileRows hcolumns with ⟨contents, parsed, hfile, hrows, hparsed⟩
  constructor
  · intro hanswerable
    have hnames := hindexes.1 hanswerable.shown
    have hslot := hwhere.1 fun condition h => (hanswerable.condition condition h).1
    by_cases hnumber : exists condition, statement.condition = some condition ∧
        condition.whereColumn = ascii "id"
    · rcases hnumber with ⟨⟨whereColumn, whereValue⟩, hsome, hid⟩
      simp only at hid
      subst hid
      rcases Option.isSome_iff_exists.mp ((hanswerable.condition _ hsome).2 rfl) with
        ⟨wantedId, hvalue⟩
      rw [selectTable_index hschema hnames hne hsome,
        indexSelectRows_of_fileRows hfile hrows
          (fun entry hentry => hcurrent schema.storageName entry hentry) hvalue,
        rowsWithId_eq, hparsed,
        numberedRows_shown hanswerable.shown hcolumns
          (isWanted_number hsome rfl hvalue)]
      exact congrArg Except.ok (resultTable_shown _)
    · have hcondition : forall condition, statement.condition = some condition ->
          condition.whereColumn ≠ ascii "id" ∧ condition.whereColumn ∈ table.columns := by
        intro condition hsome
        have hid : condition.whereColumn ≠ ascii "id" :=
          fun hid => hnumber ⟨condition, hsome, hid⟩
        exact ⟨hid, (hanswerable.condition condition hsome).1.resolve_left hid⟩
      have hscan : whereIdValue statement = none := by
        unfold whereIdValue
        cases hsome : statement.condition with
        | none => rfl
        | some condition => exact if_neg (hcondition condition hsome).1
      have hnumbered := selectNumbered_eq statement
        ((shownColumns table statement).map (namedColumn schema))
        (statement.condition.bind fun condition =>
          attributeSlot schema (attributeOf condition.whereColumn)) (parsed.map Prod.snd) 1
      rw [hparsed, numberedRows_shown hanswerable.shown hcolumns
        (rowMatchesWhere_isWanted hcolumns hcondition)] at hnumbered
      rw [selectTable_scan hschema hnames hne hslot hscan hfile,
        scanSelect_of_fileRows hrows, hparsed]
      exact congrArg Except.ok ((congrArg (resultTable _) hnumbered).trans
        (resultTable_shown _))
  · intro hrefused
    unfold selectTable
    rw [hschema]
    simp only
    by_cases hall : forall name, name ∈ shownColumns table statement ->
        IsAttribute table name
    · rw [hindexes.1 hall]
      rcases List.exists_cons_of_ne_nil hne with ⟨first, more, hcons⟩
      rw [hcons]
      simp only
      by_cases hnamed : forall condition, statement.condition = some condition ->
          IsAttribute table condition.whereColumn
      · -- what is left is a comparison of the id with something that is no number
        rw [hwhere.1 hnamed]
        have hbad : exists condition, statement.condition = some condition ∧
            condition.whereColumn = ascii "id" ∧
              parseIntStrict condition.whereValue = none := by
          by_contra hnone
          apply hrefused
          refine ⟨hall, fun condition hsome => ⟨hnamed condition hsome, fun hid => ?_⟩⟩
          rw [Option.isSome_iff_ne_none]
          exact fun hvalue => hnone ⟨condition, hsome, hid, hvalue⟩
        rcases hbad with ⟨condition, hsome, hid, hvalue⟩
        unfold whereIdValue
        simp only [hsome, if_pos hid, indexSelectRows, hvalue]
        exact ⟨_, rfl⟩
      · rcases hwhere.2 hnamed with ⟨text, htext⟩
        rw [htext]
        exact ⟨text, rfl⟩
    · rcases hindexes.2 hall with ⟨text, htext⟩
      rw [htext]
      exact ⟨text, rfl⟩

end Answers

/-!
## INSERT
-/

section Insert

variable {schemaDir : SchemaDir} {state : EngineState} {statement : InsertStatement}
  {schema : Schema} {table : NumberedTable Bytes Bytes}

theorem appendRow_reports (contents : Bytes) (rowValues : List Bytes) :
    (appendRow contents rowValues none).2 =
      { ok := true
        message := ascii "INSERT 1"
        affectedRows := 1
        rowOffset := (contents ++ lineSeparator contents).length } := by
  have hok := appendRow_noFault contents rowValues
  unfold appendRow at hok ⊢
  simp only [callFails, Option.map_none, Option.none_beq_some, Bool.false_eq_true,
    if_false, and_false] at hok ⊢
  rcases hwritten : writeFields none 0 rowValues with ⟨written, _ | text⟩
  · rfl
  · rw [hwritten] at hok
    cases hok

theorem registerInEntry_fresh {entry : TableIndex} (h : EntryOrdered entry)
    (rowOffset : Int) :
    (registerInEntry entry entry.nextId rowOffset none).2.1 = none := by
  rcases h with ⟨inserts, htree, hbelow⟩
  rcases bptreeInsertAll_holds inserts with ⟨held, hholds, hlookup⟩
  rw [← htree] at hholds
  have hfree : ¬ KeyedList.Bound held entry.nextId := by
    rw [← KeyedList.lookup_eq_none_iff_not_bound, hlookup,
      KeyedList.lookup_eq_none_iff_not_bound]
    rintro ⟨e, he, hkey⟩
    have hlt := hbelow e he
    omega
  rcases bptreeInsert_unlimited_outcome hholds entry.nextId rowOffset with
    ⟨hok, _⟩ | ⟨_, hbound, _⟩
  · have herror : (bptreeInsert entry.tree entry.nextId rowOffset none).error = none := hok
    unfold registerInEntry
    simp only [herror]
  · exact absurd hbound hfree

theorem getNextId_number (hcolumns : schema.columns = table.columns)
    (hstores : StoresTable state.dataDir schema.storageName table)
    (hcurrent : RegistryHolds (EntryCurrent state.dataDir) state.index.registry) :
    exists index, tableIndexGetNextId state.dataDir schema state.index none =
      (index, .ok ((table.rows.length + 1 : Nat) : Int), none) := by
  rcases hstores.fileRows hcolumns with ⟨contents, parsed, hfile, hrows, hparsed⟩
  rcases ensureLoaded_unlimited state.index.registry hfile hrows.ne_nil
    hrows.parsed_eq with ⟨after, slot, entry, hload⟩
  have hnext : tableIndexGetNextId state.dataDir schema state.index none =
      ({ state.index with registry := after }, .ok entry.nextId, none) := by
    unfold tableIndexGetNextId
    rw [hload]
  rcases tableIndexGetNextId_cases (entryCurrent_invariant state.dataDir) hcurrent hnext
    with ⟨hafter, _, hid⟩
  rcases hid entry.nextId rfl with ⟨place, found, hfound, hloaded, hsame⟩
  have hentry : entryOf after schema.storageName = some found :=
    congrArg (Option.map Prod.snd) hfound
  rcases hafter schema.storageName found hentry hloaded with
    ⟨file, rows, hfile', _, _, _, hnumber⟩
  rw [hfile, Except.ok.injEq] at hfile'
  subst hfile'
  refine ⟨{ state.index with registry := after }, hnext.trans ?_⟩
  have hlength := congrArg List.length hparsed
  rw [List.length_map, List.length_map, parseLines_length hrows.parsed_eq] at hlength
  rw [← hsame, hnumber, nextIdOfRows]
  simp only at hlength ⊢
  rw [hlength]
  push_cast
  rfl

theorem executeInsert_inserts
    (hschema : loadSchema schemaDir state.dataDir statement.tableName = .ok schema)
    (hcolumns : schema.columns = table.columns)
    (hstores : StoresTable state.dataDir schema.storageName table)
    (hhook : state.index.forceNextRegisterFailure = false)
    (hcurrent : RegistryHolds (EntryCurrent state.dataDir) state.index.registry)
    (hordered : RegistryHolds (fun _ => EntryOrdered) state.index.registry)
    (hnul : statement.ValuesNulFree) (hinsertable : Insertable table statement) :
    (executeInsert schemaDir statement noFaults state).2 =
        { ok := true, affectedRows := 1, message := ascii "INSERT 1" } ∧
      assignedId schemaDir statement noFaults state =
        some ((table.rows.length + 1 : Nat) : Int) := by
  rcases getNextId_number hcolumns hstores hcurrent with ⟨index, hnext⟩
  have haccepted := readSchema_accepted (loadSchema_eq_ok_iff.mp hschema).1
  rcases (checkedInsertRow_succeeds_iff haccepted).mpr
    ⟨hinsertable.paired, pairsAccepted_of_insertable hcolumns hinsertable⟩ with
    ⟨row, hrow⟩
  unfold checkedInsertRow at hrow
  have hvalid : validateInsertColumns statement schema = none := by
    cases hresult : validateInsertColumns statement schema with
    | none => rfl
    | some text =>
        rw [hresult] at hrow
        cases hrow
  simp only [hvalid] at hrow
  rcases tableIndexGetNextId_cases (entryOrdered_invariant state.dataDir) hordered hnext
    with ⟨hafter, hkept, hid⟩
  rcases hid _ rfl with ⟨slot, entry, hfound, hloaded, hentryId⟩
  have hentry : EntryOrdered entry :=
    hafter schema.storageName entry (congrArg (Option.map Prod.snd) hfound)
  rcases hstores.fileRows hcolumns with ⟨contents, parsed, hfile, hrows, _⟩
  have hready : ReadyToAppend { state with index := index } schema
      ((table.rows.length + 1 : Nat) : Int) (expectedRow statement schema)
      { contents := contents, updateError := none } slot entry :=
    { file_found := hfile
      file_ne_nil := hrows.ne_nil
      row_ne_nil := expectedRow_ne_nil haccepted
      row_text := expectedRow_text hvalid hnul
      row_length := expectedRow_length
      entry_found := hfound
      entry_loaded := hloaded
      entry_nextId := hentryId }
  rw [buildInsertRow_eq_expectedRow hrow] at hrow
  constructor
  · unfold executeInsert
    simp only [hschema, hvalid, noFaults, hnext, hrow]
    rw [appendAndRegister_open hready rfl, appendRow_reports, if_pos rfl,
      tableIndexRegisterRow_of_loaded hfound hloaded, hkept, hhook, ← hentryId]
    have hfresh := registerInEntry_fresh hentry
      ((contents ++ lineSeparator contents).length : Int)
    rcases hregister : registerInEntry entry entry.nextId
        ((contents ++ lineSeparator contents).length : Int) none with ⟨written, error, left⟩
    rw [hregister] at hfresh
    simp only at hfresh
    subst hfresh
    rfl
  · unfold assignedId
    simp only [hschema, noFaults, hnext]

end Insert

/-!
## One statement
-/

/-- An INSERT whose row is a line that the readers take as it is. -/
structure PlainInsert (schemaDir : SchemaDir) (statement : InsertStatement) : Prop where
  nulFree : statement.ValuesNulFree
  kept : forall value, value ∈ statement.values -> KeepsOuterBlanks value
  fits : forall schema, readSchema schemaDir statement.tableName = .ok schema ->
    RowFits (expectedRow statement schema)

/-- A statement that the parser can give, with a row that is plain. -/
def PlainStatement (schemaDir : SchemaDir) : Statement -> Prop
  | .insertStatement statement => PlainInsert schemaDir statement
  | .selectStatement statement => statement.selectAll = true ∨ statement.columns ≠ []

/-- The result of a statement is an answer of the database. -/
def ShowsAnswer (outcome : Outcome) : Answer -> Prop
  | .rejected => outcome.result.ok = false ∧ outcome.output = []
  | .inserted number =>
      outcome.result =
          { ok := true, affectedRows := 1, message := ascii "INSERT 1" } ∧
        outcome.output = [] ∧ outcome.id = some (number : Int)
  | .selected table => (outcome.result, outcome.output) = selectResult (.ok table)

section Step

variable {schemaDir : SchemaDir} {resolve : Bytes -> Option Bytes}
  {state after : EngineState} {database : Database}

theorem Represents.sameFiles (h : Represents schemaDir resolve state database)
    (hdataDir : after.dataDir = state.dataDir)
    (hhook : after.index.forceNextRegisterFailure = false)
    (hcurrent : RegistryHolds (EntryCurrent state.dataDir) after.index.registry)
    (hordered : RegistryHolds (fun _ => EntryOrdered) after.index.registry) :
    Represents schemaDir resolve after database := by
  constructor
  · exact hhook
  · rw [hdataDir]
    exact hcurrent
  · exact hordered
  · rw [hdataDir]
    exact h.missing
  · rw [hdataDir]
    exact h.stored

theorem Represents.select (h : Represents schemaDir resolve state database)
    (statement : SelectStatement) :
    Represents schemaDir resolve (selectTable schemaDir statement none state).1
      database := by
  have hsame := selectTable_sameAnswers schemaDir statement none state
  exact h.sameFiles hsame.dataDir (hsame.hook.trans h.hook)
    (selectTable_state schemaDir statement none (entryCurrent_invariant _) h.current).2
    (selectTable_state schemaDir statement none (entryOrdered_invariant _) h.ordered).2

variable {statement : InsertStatement} {schema : Schema}
  {table : NumberedTable Bytes Bytes}

theorem PlainInsert.readBack (h : PlainInsert schemaDir statement) (schema : Schema) :
    (expectedRow statement schema).map csvReadBack = expectedRow statement schema := by
  rw [map_csvReadBack_eq_self_iff]
  intro value hvalue
  rcases mem_expectedRow hvalue with rfl | ⟨column, hpair⟩
  · exact .inr rfl
  · exact h.kept value (List.of_mem_zip hpair).2

theorem PlainInsert.current (h : PlainInsert schemaDir statement)
    (hcurrent : RegistryHolds (EntryCurrent state.dataDir) state.index.registry) :
    RegistryHolds
      (EntryCurrent (executeInsert schemaDir statement noFaults state).1.dataDir)
      (executeInsert schemaDir statement noFaults state).1.index.registry := by
  refine (executeInsert_current h.nulFree hcurrent ?_).1
  intro found index id available row contents hreached _
  have hread := (loadSchema_eq_ok_iff.mp hreached.schema_loaded).1
  rw [buildInsertRow_eq_expectedRow hreached.row_built]
  exact
    { cut := fun _ hfault => nomatch hfault
      stored := fun _ =>
        ⟨_, oneRow_csvRow (expectedRow_ne_nil (readSchema_accepted hread))
          (h.fits found hread)⟩ }

theorem executeInsert_ordered (h : PlainInsert schemaDir statement)
    (hordered : RegistryHolds (fun _ => EntryOrdered) state.index.registry) :
    RegistryHolds (fun _ => EntryOrdered)
      (executeInsert schemaDir statement noFaults state).1.index.registry :=
  applyEvent_ordered (.statement (.insertStatement statement) h.nulFree noFaults) hordered

theorem executeInsert_refused
    (hschema : loadSchema schemaDir state.dataDir statement.tableName = .ok schema)
    (hcolumns : schema.columns = table.columns) (hrefused : ¬ Insertable table statement) :
    (executeInsert schemaDir statement noFaults state).2.ok = false ∧
      (executeInsert schemaDir statement noFaults state).1.dataDir = state.dataDir := by
  have haccepted := readSchema_accepted (loadSchema_eq_ok_iff.mp hschema).1
  unfold executeInsert
  simp only [hschema]
  cases hvalid : validateInsertColumns statement schema with
  | some text => exact ⟨rfl, rfl⟩
  | none =>
      simp only
      rcases tableIndexGetNextId state.dataDir schema state.index noFaults.memory with
        ⟨index, text | nextId, available⟩
      · exact ⟨rfl, rfl⟩
      · simp only
        cases hrow : buildInsertRow statement schema with
        | error text => exact ⟨rfl, rfl⟩
        | ok row =>
            have hchecked : checkedInsertRow statement schema = .ok row := by
              unfold checkedInsertRow
              simp only [hvalid, hrow]
            rcases (checkedInsertRow_succeeds_iff haccepted).mp ⟨row, hchecked⟩ with
              ⟨hlength, hpairs⟩
            exact absurd (insertable_of_pairsAccepted hcolumns hlength hpairs) hrefused

theorem executeInsert_stores
    (hschema : loadSchema schemaDir state.dataDir statement.tableName = .ok schema)
    (hcolumns : schema.columns = table.columns)
    (hstores : StoresTable state.dataDir schema.storageName table)
    (hordered : RegistryHolds (fun _ => EntryOrdered) state.index.registry)
    (hplain : PlainInsert schemaDir statement)
    (hok : (executeInsert schemaDir statement noFaults state).2.ok = true) :
    StoresTable (executeInsert schemaDir statement noFaults state).1.dataDir
        schema.storageName (table.insert (givenRow statement)) ∧
      SameHeaders state.dataDir
        (executeInsert schemaDir statement noFaults state).1.dataDir := by
  have hread := (loadSchema_eq_ok_iff.mp hschema).1
  have hkeeps : KeepsOthers schema.storageName state
      (executeInsert schemaDir statement noFaults state).1 :=
    executeInsert_keepsOthers (storageName_of_read hread)
  rcases insertDone_of_ok hplain.nulFree hordered hok with
    ⟨found, number, file, slot, entry, hdone⟩
  have hsame := hdone.schema_before
  rw [hschema, Except.ok.injEq] at hsame
  subst hsame
  rcases hstores.fileRows hcolumns with ⟨contents, parsed, hfile, hrows, hparsed⟩
  have hbefore := hdone.file_before
  rw [hfile, Except.ok.injEq] at hbefore
  subst hbefore
  have hone := oneRow_csvRow hdone.row_ne_nil (hplain.fits schema hread)
  rw [hplain.readBack] at hone
  have hafter := fileRows_after hdone hrows hone
  constructor
  · refine ⟨hstores.distinct, _, _, hdone.file_after, hafter.ne_nil, hafter.parsed_eq, ?_⟩
    rw [List.map_append, hparsed, expectedRow_eq_givenRow (hcolumns ▸ hstores.distinct),
      hcolumns]
    unfold NumberedTable.insert
    rw [List.map_append]
    rfl
  · refine ⟨hkeeps.extended.path, fun name => ?_⟩
    by_cases hname : name = schema.storageName
    · unfold SameHeader
      rw [hname, hfile]
      exact ⟨_, hdone.file_after, (appendRow_dataLines hdone.file_ne_nil hdone.append_ok).1⟩
    · rw [hkeeps.files name hname]
      exact (sameHeaders_refl state.dataDir).files name

theorem Represents.insert (h : Represents schemaDir resolve state database)
    (hplain : PlainInsert schemaDir statement)
    (hschema : loadSchema schemaDir state.dataDir statement.tableName = .ok schema)
    (hcolumns : schema.columns = table.columns)
    (htable : database schema.storageName = some table)
    (hstores : StoresTable state.dataDir schema.storageName table)
    (hok : (executeInsert schemaDir statement noFaults state).2.ok = true) :
    Represents schemaDir resolve (executeInsert schemaDir statement noFaults state).1
      (Function.update database schema.storageName
        (some (table.insert (givenRow statement)))) := by
  have hkeeps : KeepsOthers schema.storageName state
      (executeInsert schemaDir statement noFaults state).1 :=
    executeInsert_keepsOthers (storageName_of_read (loadSchema_eq_ok_iff.mp hschema).1)
  rcases executeInsert_stores hschema hcolumns hstores h.ordered hplain hok with
    ⟨hafter, hheaders⟩
  have hload := loadSchema_of_sameHeaders hheaders schemaDir
  constructor
  · exact hkeeps.hook h.hook
  · exact hplain.current h.current
  · exact executeInsert_ordered hplain h.ordered
  · intro tableName hnone
    rw [hload]
    exact h.missing hnone
  · intro tableName name hname
    rcases h.stored hname with ⟨other, found, hother, rfl, hsame, hfound, hstored⟩
    rw [hload]
    by_cases hsamePlace : other.storageName = schema.storageName
    · rw [hsamePlace, htable, Option.some.injEq] at hfound
      subst hfound
      refine ⟨other, table.insert (givenRow statement), hother, rfl, hsame, ?_, ?_⟩
      · rw [hsamePlace, Function.update_self]
      · rw [hsamePlace]
        exact hafter
    · refine ⟨other, found, hother, rfl, hsame, ?_, hstored.distinct, ?_⟩
      · rw [Function.update_of_ne hsamePlace]
        exact hfound
      · rw [hkeeps.files _ hsamePlace]
        exact hstored.file

end Step

def statementOutcome (schemaDir : SchemaDir) (statement : Statement)
    (state : EngineState) : Outcome :=
  { result := (executeStatement schemaDir statement noFaults state).2.1
    output := (executeStatement schemaDir statement noFaults state).2.2
    id := statementId schemaDir noFaults state statement }

theorem executeStatement_unloaded {schemaDir : SchemaDir} {statement : Statement}
    {state : EngineState} {text : Bytes}
    (h : loadSchema schemaDir state.dataDir (namedTable statement) = .error text) :
    ShowsAnswer (statementOutcome schemaDir statement state) .rejected ∧
      (executeStatement schemaDir statement noFaults state).1 = state := by
  cases statement with
  | insertStatement statement =>
      have hload : loadSchema schemaDir state.dataDir statement.tableName = .error text := h
      simp only [statementOutcome, ShowsAnswer, executeStatement, executeInsert, hload]
      exact ⟨⟨rfl, trivial⟩, trivial⟩
  | selectStatement statement =>
      have hload : loadSchema schemaDir state.dataDir statement.tableName = .error text := h
      simp only [statementOutcome, ShowsAnswer, executeStatement, executeSelect,
        selectTable, hload]
      exact ⟨⟨rfl, rfl⟩, trivial⟩

theorem executeStatement_refines {schemaDir : SchemaDir} {resolve : Bytes -> Option Bytes}
    {statement : Statement} {state : EngineState} {database : Database}
    (h : Represents schemaDir resolve state database)
    (hplain : PlainStatement schemaDir statement) :
    ShowsAnswer (statementOutcome schemaDir statement state)
        (database.execute resolve statement).2 ∧
      Represents schemaDir resolve
        (executeStatement schemaDir statement noFaults state).1
        (database.execute resolve statement).1 := by
  unfold Database.execute
  cases hresolve : resolve (namedTable statement) with
  | none =>
      rcases h.missing hresolve with ⟨text, htext⟩
      rcases executeStatement_unloaded htext with ⟨hrejected, hsame⟩
      rw [hsame]
      exact ⟨hrejected, h⟩
  | some name =>
      rcases h.stored hresolve with
        ⟨schema, table, hschema, rfl, hcolumns, htable, hstores⟩
      have hsame : Function.update database schema.storageName (some table) =
          database := by
        rw [← htable]
        exact Function.update_eq_self _ _
      simp only [htable]
      cases statement with
      | insertStatement statement =>
          by_cases hinsertable : Insertable table statement
          · have hdone := executeInsert_inserts hschema hcolumns hstores h.hook
              h.current h.ordered hplain.nulFree hinsertable
            simp only [answerFrom, if_pos hinsertable]
            refine ⟨⟨hdone.1, rfl, hdone.2⟩, ?_⟩
            exact h.insert hplain hschema hcolumns htable hstores (by rw [hdone.1])
          · have hdone := executeInsert_refused hschema hcolumns hinsertable
            have hkeeps : KeepsOthers schema.storageName state
                (executeInsert schemaDir statement noFaults state).1 :=
              executeInsert_keepsOthers
                (storageName_of_read (loadSchema_eq_ok_iff.mp hschema).1)
            have hcurrent := hplain.current h.current
            rw [hdone.2] at hcurrent
            simp only [answerFrom, if_neg hinsertable, hsame]
            refine ⟨⟨hdone.1, rfl⟩, ?_⟩
            exact h.sameFiles hdone.2 (hkeeps.hook h.hook) hcurrent
              (executeInsert_ordered hplain h.ordered)
      | selectStatement statement =>
          have hshown : shownColumns table statement ≠ [] := by
            unfold shownColumns
            split
            · rw [← hcolumns]
              exact (readSchema_accepted (loadSchema_eq_ok_iff.mp hschema).1).columns_ne_nil
            · next hall => exact hplain.resolve_left hall
          have hanswers := selectTable_answers hschema hcolumns hstores h.current hshown
          by_cases hanswerable : Answerable table statement
          · simp only [answerFrom, if_pos hanswerable, hsame]
            refine ⟨?_, h.select statement⟩
            simp only [ShowsAnswer, statementOutcome, executeStatement, executeSelect,
              noFaults, hanswers.1 hanswerable]
          · rcases hanswers.2 hanswerable with ⟨text, htext⟩
            simp only [answerFrom, if_neg hanswerable, hsame]
            refine ⟨?_, h.select statement⟩
            simp only [ShowsAnswer, statementOutcome, executeStatement, executeSelect,
              noFaults, htext]
            exact ⟨rfl, rfl⟩

end Execution
end SqlCsvServer
