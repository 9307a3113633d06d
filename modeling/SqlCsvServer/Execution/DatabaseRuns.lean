import SqlCsvServer.Execution.DatabaseRefinement

/-!
# Runs of statements as runs of the database

A program that starts on tables that can be read stands for a database from then on, so
that what holds for the database, such as that a row stays where it is, holds for the
files and the index.
-/

namespace SqlCsvServer
namespace Execution

open Foundation Common Storage Index Sql

/-!
## Runs
-/

/-- Statements in a row with nothing failing. -/
def undisturbed (statements : List Statement) : List (Statement × Option AppendFault) :=
  statements.map fun statement => (statement, none)

theorem runStatements_refines (schemaDir : SchemaDir) {resolve : Bytes -> Option Bytes}
    (statements : List Statement) {state : EngineState} {database : Database}
    (h : Represents schemaDir resolve state database)
    (hplain : forall statement, statement ∈ statements ->
      PlainStatement schemaDir statement) :
    List.Forall₂ ShowsAnswer
        (runStatements schemaDir (undisturbed statements) state).2
        (database.run resolve statements).2 ∧
      Represents schemaDir resolve
        (runStatements schemaDir (undisturbed statements) state).1
        (database.run resolve statements).1 := by
  induction statements generalizing state database with
  | nil => exact ⟨.nil, h⟩
  | cons statement statements ih =>
      rcases executeStatement_refines h (hplain statement List.mem_cons_self) with
        ⟨hanswer, hafter⟩
      rcases ih hafter fun other hother => hplain other (List.mem_cons_of_mem _ hother) with
        ⟨hanswers, hend⟩
      exact ⟨.cons hanswer hanswers, hend⟩

/-!
## Program starts
-/

section Start

variable {schemaDir : SchemaDir} {dataDir : DataDir}

theorem columns_of_header {first second : Schema}
    (hfirst : validateCsvHeader dataDir first = .ok ())
    (hsecond : validateCsvHeader dataDir second = .ok ())
    (hname : first.storageName = second.storageName) : first.columns = second.columns := by
  have hparsed : forall {schema : Schema} {text : Bytes},
      checkHeaderText schema text = .ok () -> csvParseLine text = .ok schema.columns := by
    intro schema text h
    unfold checkHeaderText at h
    cases hline : csvParseLine text with
    | error error =>
        rw [hline] at h
        cases h
    | ok header =>
        simp only [hline] at h
        split at h
        · cases h
        · split at h
          · cases h
          · next hsame => rw [not_not.mp hsame]
  rcases contents_of_validateCsvHeader hfirst with ⟨file, hfile, _, text, htext, hcheck⟩
  rcases contents_of_validateCsvHeader hsecond with ⟨other, hother, _, line, hline, hsame⟩
  rw [← hname, hfile, Except.ok.injEq] at hother
  subst hother
  rw [htext, Option.some.injEq] at hline
  subst hline
  have hboth := (hparsed hcheck).symm.trans (hparsed hsame)
  exact Except.ok.inj hboth

def rowByName (columns fields : List Bytes) (name : Bytes) : Bytes :=
  fields.getD (columns.idxOf name) []

theorem map_rowByName {columns fields : List Bytes} (hdistinct : columns.Nodup)
    (hlength : fields.length = columns.length) :
    columns.map (rowByName columns fields) = fields := by
  apply List.ext_getElem
  · rw [List.length_map, hlength]
  · intro i hleft hright
    rw [List.length_map] at hleft
    rw [List.getElem_map]
    unfold rowByName
    rw [hdistinct.idxOf_getElem i hleft, List.getD_eq_getElem?_getD,
      List.getElem?_eq_getElem hright]
    rfl

/-- Tables with different column names that can be scanned and written. -/
def ReadableTables (schemaDir : SchemaDir) (dataDir : DataDir) : Prop :=
  forall {tableName schema}, loadSchema schemaDir dataDir tableName = .ok schema ->
    schema.columns.Nodup ∧
      exists contents table,
        dataDir.files schema.storageName =
            .ok { contents := contents, updateError := none } ∧
          (selectTable schemaDir (selectAllFrom tableName) none
            (startState dataDir)).2 = .ok table

theorem exists_database (h : ReadableTables schemaDir dataDir) :
    exists database, Represents schemaDir (resolveTable schemaDir dataDir)
      (startState dataDir) database := by
  have hnamed : forall name, exists stored : Option (NumberedTable Bytes Bytes),
      forall {tableName schema}, loadSchema schemaDir dataDir tableName = .ok schema ->
        schema.storageName = name ->
          exists table, stored = some table ∧ schema.columns = table.columns ∧
            StoresTable dataDir name table := by
    intro name
    by_cases hloads : exists tableName schema,
        loadSchema schemaDir dataDir tableName = .ok schema ∧ schema.storageName = name
    · rcases hloads with ⟨tableName, schema, hschema, rfl⟩
      rcases h hschema with ⟨hdistinct, contents, all, hfile, hall⟩
      rcases fileRows_of_selectAll hschema hall with ⟨file, parsed, hfile', hrows, _⟩
      rw [show (startState dataDir).dataDir = dataDir from rfl, hfile,
        Except.ok.injEq] at hfile'
      subst hfile'
      refine ⟨some
        { columns := schema.columns
          rows := parsed.map fun row => rowByName schema.columns row.2 }, ?_⟩
      intro other found hother hname
      refine ⟨_, rfl, ?_, hdistinct, contents, parsed, hfile, hrows.ne_nil,
        hrows.parsed_eq, ?_⟩
      · exact columns_of_header (loadSchema_eq_ok_iff.mp hother).2
          (loadSchema_eq_ok_iff.mp hschema).2 hname
      · rw [List.map_map]
        apply List.map_congr_left
        intro row hrow
        exact (map_rowByName hdistinct
          (hrows.match_schema row.2 (List.mem_map_of_mem hrow))).symm
    · refine ⟨none, fun hschema hname => ?_⟩
      exact absurd ⟨_, _, hschema, hname⟩ hloads
  choose database hdatabase using hnamed
  refine ⟨database, rfl, startState_registry dataDir, startState_registry dataDir, ?_, ?_⟩
  · intro tableName hnone
    unfold resolveTable at hnone
    cases hschema : loadSchema schemaDir dataDir tableName with
    | error text => exact ⟨text, hschema⟩
    | ok schema =>
        rw [hschema] at hnone
        cases hnone
  · intro tableName name hname
    unfold resolveTable at hname
    cases hschema : loadSchema schemaDir dataDir tableName with
    | error text =>
        rw [hschema] at hname
        cases hname
    | ok schema =>
        rw [hschema] at hname
        cases hname
        rcases hdatabase _ hschema rfl with ⟨table, htable, hcolumns, hstores⟩
        exact ⟨schema, table, hschema, rfl, hcolumns, htable, hstores⟩

end Start

/--
The program is the database that it started on: every run of plain statements on any
tables is answered as that database does, statement by statement, and leaves files and an
index that stand for the database behind it.
-/
theorem statements_refine_database {schemaDir : SchemaDir} {dataDir : DataDir}
    (h : ReadableTables schemaDir dataDir) :
    exists database,
      Represents schemaDir (resolveTable schemaDir dataDir) (startState dataDir)
          database ∧
        forall statements, (forall statement, statement ∈ statements ->
            PlainStatement schemaDir statement) ->
          List.Forall₂ ShowsAnswer
              (runStatements schemaDir (undisturbed statements) (startState dataDir)).2
              (database.run (resolveTable schemaDir dataDir) statements).2 ∧
            Represents schemaDir (resolveTable schemaDir dataDir)
              (runStatements schemaDir (undisturbed statements) (startState dataDir)).1
              (database.run (resolveTable schemaDir dataDir) statements).1 := by
  rcases exists_database h with ⟨database, hstart⟩
  exact ⟨database, hstart, fun statements hplain =>
    runStatements_refines schemaDir statements hstart hplain⟩

theorem loadSchema_sample {dataDir : DataDir} {tableName : Bytes} {schema : Schema}
    (h : loadSchema sampleSchemaDir dataDir tableName = .ok schema) :
    tableName = ascii "t" ∧ schema = sampleSchema := by
  have hread := (loadSchema_eq_ok_iff.mp h).1
  have hname : tableName = ascii "t" := by
    by_contra hother
    have hfile : ¬ tableName ++ ascii ".meta" = ascii "t.meta" :=
      fun heq => hother (List.append_cancel_right
        (heq.trans (show ascii "t.meta" = ascii "t" ++ ascii ".meta" from rfl)))
    have hpath : exists text, findSchemaPath sampleSchemaDir tableName = .error text := by
      unfold findSchemaPath sampleSchemaDir
      simp only [if_neg hfile]
      exact ⟨_, rfl⟩
    rcases hpath with ⟨text, htext⟩
    unfold readSchema at hread
    rw [htext] at hread
    cases hread
  subst hname
  rw [readSchema_sample, Except.ok.injEq] at hread
  exact ⟨rfl, hread.symm⟩

theorem sample_readableTables : ReadableTables sampleSchemaDir sampleRowsDir := by
  intro tableName schema h
  rcases loadSchema_sample h with ⟨rfl, rfl⟩
  exact ⟨by decide, _, _, rfl, (by decide :
    (selectTable sampleSchemaDir (selectAllFrom (ascii "t")) none
      (startState sampleRowsDir)).2 =
        .ok { headers := [ascii "name"], rows := [[ascii "a"], [ascii "b,c"]] })⟩

theorem sampleInsert_plain {value : Bytes} (h : NulFree value)
    (hkept : KeepsOuterBlanks value)
    (hfits : RowFits (expectedRow (sampleInsert value) sampleSchema)) :
    PlainInsert sampleSchemaDir (sampleInsert value) := by
  refine ⟨sampleInsert_nulFree h, fun stored hstored => ?_, fun schema hschema => ?_⟩
  · rw [List.mem_singleton.mp hstored]
    exact hkept
  · rw [show (sampleInsert value).tableName = ascii "t" from rfl, readSchema_sample,
      Except.ok.injEq] at hschema
    rw [← hschema]
    exact hfits

theorem statements_refine_database_sample :
    exists database,
      Represents sampleSchemaDir (resolveTable sampleSchemaDir sampleRowsDir)
          (startState sampleRowsDir) database ∧
        List.Forall₂ ShowsAnswer
          (runStatements sampleSchemaDir
            (undisturbed [.insertStatement (sampleInsert (ascii "d"))])
            (startState sampleRowsDir)).2
          (database.run (resolveTable sampleSchemaDir sampleRowsDir)
            [.insertStatement (sampleInsert (ascii "d"))]).2 := by
  rcases statements_refine_database sample_readableTables with ⟨database, hstart, hruns⟩
  have hplain : PlainInsert sampleSchemaDir (sampleInsert (ascii "d")) :=
    sampleInsert_plain (by decide) (by decide) (by decide)
  exact ⟨database, hstart, (hruns _ fun statement hstatement => by
    rw [List.mem_singleton.mp hstatement]
    exact hplain).1⟩

/-!
## Rows stay
-/

theorem shownTable_number {table : NumberedTable Bytes Bytes} {tableName value : Bytes}
    {row : Bytes -> Bytes} {number : Nat} (hrow : (row, number) ∈ table.numbered)
    (hid : ascii "id" ∉ table.columns)
    (hvalue : parseIntStrict value = some (number : Int)) :
    Answerable table (selectById tableName value) ∧
      shownTable table (selectById tableName value) =
        { headers := table.columns, rows := [table.columns.map row] } := by
  have hwanted : isWanted (selectById tableName value) =
      fun found => decide (found.2 = number) := by
    funext found
    unfold isWanted selectById attributeOf
    simp only [if_true, hvalue, Option.some.injEq]
    exact decide_eq_decide.mpr ⟨fun h => (Int.ofNat_inj.mp h).symm, fun h => by rw [h]⟩
  have hshown : shownColumns table (selectById tableName value) = table.columns := rfl
  constructor
  · refine ⟨fun name hname => .inr hname, ?_⟩
    intro condition hsome
    cases hsome
    exact ⟨.inl rfl, fun _ => by rw [hvalue]; rfl⟩
  · unfold shownTable
    rw [hshown, hwanted, NumberedTable.select_number hrow, List.map_map]
    congr 2
    apply List.map_congr_left
    intro name hname
    have hne : name ≠ ascii "id" := fun heq => hid (heq ▸ hname)
    show NumberedTable.cell _ (row, number) (attributeOf name) = row name
    unfold attributeOf
    rw [if_neg hne]
    rfl

theorem Represents.inserted_stays {schemaDir : SchemaDir} {resolve : Bytes -> Option Bytes}
    {state : EngineState} {database : Database}
    (h : Represents schemaDir resolve state database) {statement : InsertStatement}
    (hplain : PlainInsert schemaDir statement)
    (hok : (executeInsert schemaDir statement noFaults state).2.ok = true)
    (later : List Statement)
    (hlater : forall other, other ∈ later -> PlainStatement schemaDir other) :
    exists schema number,
      loadSchema schemaDir state.dataDir statement.tableName = .ok schema ∧
        assignedId schemaDir statement noFaults state = some number ∧
          forall value, parseIntStrict value = some number ->
            (selectTable schemaDir (selectById statement.tableName value) none
                (runStatements schemaDir (undisturbed later)
                  (executeInsert schemaDir statement noFaults state).1).1).2 =
              .ok
                { headers := schema.columns
                  rows := [schema.columns.map (givenRow statement)] } := by
  cases hresolve : resolve statement.tableName with
  | none =>
      rcases h.missing hresolve with ⟨text, htext⟩
      unfold executeInsert at hok
      rw [htext] at hok
      cases hok
  | some name =>
      rcases h.stored hresolve with
        ⟨schema, table, hschema, rfl, hcolumns, htable, hstores⟩
      have hinsertable : Insertable table statement := by
        by_contra hrefused
        rw [(executeInsert_refused hschema hcolumns hrefused).1] at hok
        cases hok
      have hdone := executeInsert_inserts hschema hcolumns hstores h.hook h.current
        h.ordered hplain.nulFree hinsertable
      have hafter := h.insert hplain hschema hcolumns htable hstores hok
      have hend := (runStatements_refines schemaDir later hafter hlater).2
      refine ⟨schema, table.rows.length + 1, hschema, by exact_mod_cast hdone.2,
        fun value hvalue => ?_⟩
      rcases hend.stored hresolve with
        ⟨found, last, hfound, hname, hsame, hlast, hstored⟩
      rcases @Database.run_extends resolve (Function.update database schema.storageName
        (some (table.insert (givenRow statement)))) schema.storageName _ later
          (Function.update_self ..) with ⟨reached, hreached, hextends⟩
      rw [hlast, Option.some.injEq] at hreached
      subst hreached
      have hid : ascii "id" ∉ last.columns := by
        rw [← hsame]
        exact (readSchema_accepted (loadSchema_eq_ok_iff.mp hfound).1).id_not_column
      rcases @shownTable_number last statement.tableName value _ _
        (hextends.mem_numbered NumberedTable.mem_numbered_insert) hid
        (by exact_mod_cast hvalue) with
        ⟨hanswerable, hshown⟩
      have hne : shownColumns last (selectById statement.tableName value) ≠ [] := by
        show last.columns ≠ []
        rw [← hsame]
        exact (readSchema_accepted (loadSchema_eq_ok_iff.mp hfound).1).columns_ne_nil
      rw [← hname] at hstored
      rw [(selectTable_answers hfound hsame hstored hend.current hne).1 hanswerable, hshown,
        hextends.columns, hcolumns]
      rfl

/--
What an INSERT has stored stays: after any run of plain statements on any tables that
begins with the program, and after any that follows, a lookup of the id that the INSERT
was given shows its values for the columns of the table, and nothing else.
-/
theorem inserted_row_stays {schemaDir : SchemaDir} {dataDir : DataDir}
    (h : ReadableTables schemaDir dataDir) (earlier later : List Statement)
    (hearlier : forall other, other ∈ earlier -> PlainStatement schemaDir other)
    (hlater : forall other, other ∈ later -> PlainStatement schemaDir other)
    {statement : InsertStatement} (hplain : PlainInsert schemaDir statement)
    {state : EngineState}
    (hstate : (runStatements schemaDir (undisturbed earlier) (startState dataDir)).1 = state)
    (hok : (executeInsert schemaDir statement noFaults state).2.ok = true) :
    exists schema number,
      loadSchema schemaDir state.dataDir statement.tableName = .ok schema ∧
        assignedId schemaDir statement noFaults state = some number ∧
          forall value, parseIntStrict value = some number ->
            (selectTable schemaDir (selectById statement.tableName value) none
                (runStatements schemaDir (undisturbed later)
                  (executeInsert schemaDir statement noFaults state).1).1).2 =
              .ok
                { headers := schema.columns
                  rows := [schema.columns.map (givenRow statement)] } := by
  rcases exists_database h with ⟨initial, hinitial⟩
  have hbefore := (runStatements_refines schemaDir earlier hinitial hearlier).2
  rw [hstate] at hbefore
  exact hbefore.inserted_stays hplain hok later hlater

theorem inserted_row_stays_sample :
    exists schema number,
      loadSchema sampleSchemaDir (startState sampleRowsDir).dataDir (ascii "t") =
          .ok schema ∧
        assignedId sampleSchemaDir (sampleInsert (ascii "d")) noFaults
            (startState sampleRowsDir) = some number ∧
          forall value, parseIntStrict value = some number ->
            (selectTable sampleSchemaDir (selectById (ascii "t") value) none
                (runStatements sampleSchemaDir
                  (undisturbed [.insertStatement (sampleInsert (ascii "e"))])
                  (executeInsert sampleSchemaDir (sampleInsert (ascii "d")) noFaults
                    (startState sampleRowsDir)).1).1).2 =
              .ok
                { headers := schema.columns
                  rows := [schema.columns.map (givenRow (sampleInsert (ascii "d")))] } := by
  have hplain : PlainInsert sampleSchemaDir (sampleInsert (ascii "e")) :=
    sampleInsert_plain (by decide) (by decide) (by decide)
  have hfirst : PlainInsert sampleSchemaDir (sampleInsert (ascii "d")) :=
    sampleInsert_plain (by decide) (by decide) (by decide)
  exact inserted_row_stays sample_readableTables []
    [.insertStatement (sampleInsert (ascii "e"))] (fun _ hnone => nomatch hnone)
    (fun other hother => by
      rw [List.mem_singleton.mp hother]
      exact hplain)
    hfirst rfl (by decide)

end Execution
end SqlCsvServer
