import Mathlib.Algebra.Group.Nat.Defs
import SqlCsvServer.App.Main
import SqlCsvServer.Common.StrictInt
import SqlCsvServer.Execution.DatabaseRuns
import SqlCsvServer.Http.RequestRoundTrip

/-!
# The benchmark program: `benchmark/benchmark_main.c`

It fills a table with rows that it makes up, and compares the time of looking one of them
up by its id with the time of finding it by the value of another column.  This is about
the rows that it works on: those that it writes, and those that the two queries find.
-/

namespace SqlCsvServer
namespace App
namespace Benchmark

open Foundation Common Sql Storage Index Execution Http

/-!
## The program
-/

/-- What the system answers while the benchmark runs; times are in microseconds. -/
structure BenchmarkEnvironment where
  schemaDir : Bytes -> SchemaDir
  dataDir : Bytes -> DataDir
  /-- `fclose` succeeds on the file that was reset. -/
  headerWritten : Bool
  /-- The faults of the statements, by their place in the loop. -/
  faults : Nat -> Faults
  /-- `tmpfile` succeeds. -/
  sinkOpened : Bool
  insertTime : Nat
  indexedTime : Nat
  linearTime : Nat

/-- What a run leaves: its exit code, its output, and what its queries put in the sinks. -/
structure BenchmarkRun where
  state : EngineState
  exitCode : Nat
  out : Bytes
  err : Bytes
  indexedSink : List Bytes
  linearSink : List Bytes

def failedRun (state : EngineState) (text : Bytes) : BenchmarkRun :=
  { state := state
    exitCode := 1
    out := []
    err := text
    indexedSink := []
    linearSink := [] }

/-- The loop of `write_csv_header`: names as they are, joined by commas. -/
def headerLine : List Bytes -> Bytes
  | [] => []
  | [column] => column
  | column :: columns => column ++ Byte.comma :: headerLine columns

def writeCsvHeader (environment : BenchmarkEnvironment) (schema : Schema)
    (dataDir : DataDir) : DataDir × Option Bytes :=
  match dataDir.files schema.storageName with
  | .ok { updateError := none, .. } =>
      (dataDir.write schema.storageName (headerLine schema.columns ++ [Byte.lineFeed]),
        if environment.headerWritten then none
        else some (ascii "failed to finalize benchmark CSV reset"))
  | _ => (dataDir, some (ascii "failed to open benchmark CSV for reset"))

def makeValueText (columnName : Bytes) (rowNumber : Nat) : Bytes :=
  if columnName = ascii "age" then snprintf 128 (decimalNat (20 + rowNumber % 50))
  else snprintf 128 (columnName ++ ascii "_" ++ decimalNat rowNumber)

def buildInsertStatement (schema : Schema) (rowNumber : Nat) : InsertStatement :=
  { tableName := schema.tableName
    columns := schema.columns
    values := schema.columns.map fun column => makeValueText column rowNumber }

def buildSelectStatement (tableName columnName value : Bytes) : SelectStatement :=
  { tableName := tableName
    columns := []
    selectAll := true
    condition := some { whereColumn := columnName, whereValue := value } }

/-- The loop of `run_prepare_mode`; the result is the error. -/
def insertRows (environment : BenchmarkEnvironment) (schemaDir : SchemaDir)
    (schema : Schema) : Nat -> Nat -> EngineState -> EngineState × Option Bytes
  | 0, _, state => (state, none)
  | remaining + 1, index, state =>
      match executeStatement schemaDir
          (.insertStatement (buildInsertStatement schema (index + 1)))
          (environment.faults index) state with
      | (after, result, _) =>
          if result.ok then
            insertRows environment schemaDir schema remaining (index + 1) after
          else (after, some result.message)

/-- `table_index_registry_reset`. -/
def resetIndex (state : EngineState) : EngineState :=
  { state with index := tableIndexRegistryReset state.index }

def runPrepareMode (environment : BenchmarkEnvironment) (schemaDir : SchemaDir)
    (tableName : Bytes) (rowCount : Nat) (state : EngineState) : BenchmarkRun :=
  match loadSchema schemaDir state.dataDir tableName with
  | .error text => failedRun state (errorLine text)
  | .ok schema =>
      match writeCsvHeader environment schema state.dataDir with
      | (dataDir, some text) => failedRun { state with dataDir := dataDir } (errorLine text)
      | (dataDir, none) =>
          match insertRows environment schemaDir schema rowCount 0
              (resetIndex { state with dataDir := dataDir }) with
          | (after, some text) => failedRun after (errorLine text)
          | (after, none) =>
              { state := resetIndex after
                exitCode := 0
                out := ascii "Prepared rows: " ++ decimalNat rowCount ++
                  ascii "\nInsert time: " ++ decimalMillionths environment.insertTime ++
                    ascii " sec\n"
                err := []
                indexedSink := []
                linearSink := [] }

/-- The loop of `run_query_benchmark`: what each query puts in the sink. -/
def repeatQuery (environment : BenchmarkEnvironment) (schemaDir : SchemaDir)
    (statement : SelectStatement) :
    Nat -> Nat -> EngineState -> EngineState × Except Bytes (List Bytes)
  | 0, _, state => (state, .ok [])
  | remaining + 1, index, state =>
      match executeStatement schemaDir (.selectStatement statement)
          (environment.faults index) state with
      | (after, result, printed) =>
          if result.ok then
            match repeatQuery environment schemaDir statement remaining (index + 1)
                after with
            | (last, .ok rest) => (last, .ok (printed :: rest))
            | (last, .error text) => (last, .error text)
          else (after, .error (message result.message))

def runQueryBenchmark (environment : BenchmarkEnvironment) (schemaDir : SchemaDir)
    (statement : SelectStatement) (repeatCount : Nat) (state : EngineState) :
    EngineState × Except Bytes (List Bytes) :=
  if environment.sinkOpened then
    repeatQuery environment schemaDir statement repeatCount 0 state
  else
    (state, .error (ascii "failed to create temporary output sink for benchmark query"))

def findFirstNonIdColumn (schema : Schema) : Option Bytes :=
  schema.columns.head?

/-- What `run_query_only_mode` prints at its end. -/
def queryReport (environment : BenchmarkEnvironment) (targetId queryRepeat : Nat)
    (otherColumn : Bytes) : Bytes :=
  ascii "Query target id: " ++ decimalNat targetId ++
    ascii "\nQuery target column: " ++ otherColumn ++
    ascii "\nQuery target value: " ++ makeValueText otherColumn targetId ++
    ascii "\nQuery repeats: " ++ decimalNat queryRepeat ++
    ascii "\nIndexed query avg time: " ++ decimalMillionths environment.indexedTime ++
    ascii " sec\nLinear query avg time: " ++ decimalMillionths environment.linearTime ++
    ascii " sec\n"

def runQueryOnlyMode (environment : BenchmarkEnvironment) (schemaDir : SchemaDir)
    (tableName : Bytes) (targetId queryRepeat : Nat) (state : EngineState) :
    BenchmarkRun :=
  match loadSchema schemaDir state.dataDir tableName with
  | .error text => failedRun state (errorLine text)
  | .ok schema =>
      match findFirstNonIdColumn schema with
      | none =>
          failedRun state
            (ascii "error: benchmark table must have at least one user column\n")
      | some otherColumn =>
          match runQueryBenchmark environment schemaDir
              (buildSelectStatement schema.tableName (ascii "id") (decimalNat targetId))
              queryRepeat (resetIndex state) with
          | (after, .error text) =>
              failedRun after
                (ascii "error: indexed benchmark query failed: " ++ text ++ ascii "\n")
          | (after, .ok indexed) =>
              match runQueryBenchmark environment schemaDir
                  (buildSelectStatement schema.tableName otherColumn
                    (makeValueText otherColumn targetId))
                  queryRepeat after with
              | (last, .error text) =>
                  failedRun last
                    (ascii "error: linear benchmark query failed: " ++ text ++ ascii "\n")
              | (last, .ok linear) =>
                  { state := resetIndex last
                    exitCode := 0
                    out := queryReport environment targetId queryRepeat otherColumn
                    err := []
                    indexedSink := indexed
                    linearSink := linear }

/-- `print_prepare_usage`. -/
def prepareUsage (programName : Bytes) : Bytes :=
  ascii "Usage: " ++ programName ++
    ascii " prepare <schema_dir> <data_dir> <table_name> <row_count>\n"

/-- `print_query_usage`. -/
def queryUsage (programName : Bytes) : Bytes :=
  ascii "Usage: " ++ programName ++
    ascii " query-only <schema_dir> <data_dir> <table_name> <target_id> [query_repeat]\n"

/-- `print_benchmark_usage`. -/
def benchmarkUsage (programName : Bytes) : Bytes :=
  prepareUsage programName ++ queryUsage programName

/-- An argument that `parse_int_strict` takes for a positive integer. -/
def positiveArgument (text : Bytes) : Option Nat :=
  match parseIntStrict text with
  | none => none
  | some number => if number ≤ 0 then none else some number.toNat

/-- Where `benchmark_main` returns before it runs a mode. -/
inductive BenchmarkCall where
  | usage (text : Bytes)
  | prepare (schemaPath dataPath tableName : Bytes) (rowCount : Nat)
  | queryOnly (schemaPath dataPath tableName : Bytes) (targetId queryRepeat : Nat)

/-- The arguments of `benchmark_main` behind the program's name. -/
def benchmarkCall (programName : Bytes) : List Bytes -> BenchmarkCall
  | [] => .usage (benchmarkUsage programName)
  | mode :: arguments =>
      if mode = ascii "prepare" then
        match arguments with
        | [schemaPath, dataPath, tableName, count] =>
            match positiveArgument count with
            | none => .usage (ascii "error: row_count must be a positive integer\n")
            | some rowCount => .prepare schemaPath dataPath tableName rowCount
        | _ => .usage (prepareUsage programName)
      else if mode = ascii "query-only" then
        match arguments with
        | [schemaPath, dataPath, tableName, target] =>
            match positiveArgument target with
            | none => .usage (ascii "error: target_id must be a positive integer\n")
            | some targetId => .queryOnly schemaPath dataPath tableName targetId 100
        | [schemaPath, dataPath, tableName, target, count] =>
            match positiveArgument target with
            | none => .usage (ascii "error: target_id must be a positive integer\n")
            | some targetId =>
                match positiveArgument count with
                | none => .usage (ascii "error: query_repeat must be a positive integer\n")
                | some queryRepeat =>
                    .queryOnly schemaPath dataPath tableName targetId queryRepeat
        | _ => .usage (queryUsage programName)
      else
        .usage (ascii "error: unknown benchmark mode: " ++ mode ++ ascii "\n" ++
          benchmarkUsage programName)

/-- `benchmark_main`; there is no run where it prints its usage. -/
def benchmarkMain (environment : BenchmarkEnvironment) (programName : Bytes)
    (arguments : List Bytes) : Except Bytes BenchmarkRun :=
  match benchmarkCall programName arguments with
  | .usage text => .error text
  | .prepare schemaPath dataPath tableName rowCount =>
      .ok (runPrepareMode environment (environment.schemaDir schemaPath) tableName rowCount
        (startState (environment.dataDir dataPath)))
  | .queryOnly schemaPath dataPath tableName targetId queryRepeat =>
      .ok (runQueryOnlyMode environment (environment.schemaDir schemaPath) tableName
        targetId queryRepeat (startState (environment.dataDir dataPath)))

/-!
## The rows that are made up
-/

structure PlainColumn (column : Bytes) : Prop where
  nonempty : column ≠ []
  nulFree : NulFree column
  unquoted : column.any forcesQuotes = false
  trimmed : trimWhitespace column = column
  short : column.length ≤ 116

def generatedRow (number : Nat) (column : Bytes) : Bytes :=
  makeValueText column number

/-- The table with the first rows that are made up. -/
def generatedTable (columns : List Bytes) (count : Nat) : NumberedTable Bytes Bytes :=
  { columns := columns
    rows := (List.range count).map fun index => generatedRow (index + 1) }

section Values

variable {column : Bytes} {number : Nat}

theorem makeValueText_whole (h : PlainColumn column) (hnumber : number < 10 ^ 10) :
    makeValueText column number =
      if column = ascii "age" then decimalNat (20 + number % 50)
      else column ++ ascii "_" ++ decimalNat number := by
  have hless : 20 + number % 50 < 10 ^ 2 := by
    have hmod := Nat.mod_lt number (show 0 < 50 by decide)
    omega
  have hage := decimalNat_length (by decide) hless
  have hlength := decimalNat_length (by decide) hnumber
  have hshort := h.short
  unfold makeValueText snprintf
  split_ifs
  · exact List.take_of_length_le (by omega)
  · refine List.take_of_length_le ?_
    rw [List.length_append, List.length_append, show (ascii "_").length = 1 from rfl]
    omega

theorem digit_plain {b : Byte} (h : isDigit b = true) :
    b ≠ Byte.nul ∧ forcesQuotes b = false := by
  revert b
  decide +kernel

theorem forcesQuotes_of_any {text : Bytes} (h : text.any forcesQuotes = false) {b : Byte}
    (hb : b ∈ text) : forcesQuotes b = false := by
  rw [List.any_eq_false] at h
  exact Bool.eq_false_iff.mpr (h b hb)

theorem isLineEnding_of_forcesQuotes {b : Byte} (h : forcesQuotes b = false) :
    isLineEnding b = false := by
  unfold forcesQuotes at h
  unfold isLineEnding
  simp only [Bool.or_eq_false_iff] at h ⊢
  exact ⟨h.1.2, h.2⟩

theorem mem_makeValueText (h : PlainColumn column) (hnumber : number < 10 ^ 10) {b : Byte}
    (hb : b ∈ makeValueText column number) : b ≠ Byte.nul ∧ forcesQuotes b = false := by
  rw [makeValueText_whole h hnumber] at hb
  have hdigit : forall n, b ∈ decimalNat n -> b ≠ Byte.nul ∧ forcesQuotes b = false :=
    fun n hmem => digit_plain (decimalNat_digits n b hmem)
  split_ifs at hb
  · exact hdigit _ hb
  · rcases List.mem_append.mp hb with hfront | hlast
    · rcases List.mem_append.mp hfront with hname | hunderscore
      · exact ⟨fun hnul => h.nulFree (hnul ▸ hname), forcesQuotes_of_any h.unquoted hname⟩
      · rw [List.mem_singleton.mp hunderscore]
        decide
    · exact hdigit _ hlast

theorem makeValueText_nulFree (h : PlainColumn column) (hnumber : number < 10 ^ 10) :
    NulFree (makeValueText column number) :=
  fun hmem => (mem_makeValueText h hnumber hmem).1 rfl

theorem makeValueText_oneLine (h : PlainColumn column) (hnumber : number < 10 ^ 10) :
    containsNewline (makeValueText column number) = false := by
  unfold containsNewline
  rw [List.any_eq_false]
  intro b hb
  rw [isLineEnding_of_forcesQuotes (mem_makeValueText h hnumber hb).2]
  exact Bool.false_ne_true

theorem makeValueText_kept (h : PlainColumn column) (hnumber : number < 10 ^ 10) :
    KeepsOuterBlanks (makeValueText column number) := by
  refine .inr ((trimWhitespace_eq_self_iff _).mpr ?_)
  rw [makeValueText_whole h hnumber]
  have hdigit : forall n b, b ∈ decimalNat n -> isSpace b = false :=
    fun n b hmem => isSpace_of_isDigit (decimalNat_digits n b hmem)
  split_ifs
  · exact ⟨fun b hb => hdigit _ b (List.mem_of_mem_head? hb),
      fun b hb => hdigit _ b (List.mem_of_mem_getLast? hb)⟩
  · constructor
    · intro b hb
      rw [List.append_assoc, List.head?_append_of_ne_nil _ h.nonempty] at hb
      exact ((trimWhitespace_eq_self_iff _).mp h.trimmed).1 b hb
    · intro b hb
      rw [List.getLast?_append_of_ne_nil _ (decimalNat_ne_nil _)] at hb
      exact hdigit _ b (List.mem_of_mem_getLast? hb)

theorem makeValueText_inj (h : PlainColumn column) {other : Nat}
    (hnumber : number < 10 ^ 10) (hother : other < 10 ^ 10) :
    makeValueText column number = makeValueText column other <->
      (if column = ascii "age" then number % 50 = other % 50 else number = other) := by
  have hdecimal : forall m n, decimalNat m = decimalNat n <-> m = n := by
    intro m n
    constructor
    · intro heq
      rw [← digitsValue_decimalNat m, heq, digitsValue_decimalNat]
    · rintro rfl
      rfl
  rw [makeValueText_whole h hnumber, makeValueText_whole h hother]
  split_ifs
  · rw [hdecimal]
    omega
  · rw [List.append_right_inj, hdecimal]

end Values

/-!
## The file that is reset
-/

/-- Columns that the header line of the benchmark can name. -/
structure PlainColumns (columns : List Bytes) : Prop where
  ne_nil : columns ≠ []
  distinct : columns.Nodup
  plain : forall column, column ∈ columns -> PlainColumn column
  fits : RowFits columns

section Reset

variable {schema : Schema} {columns : List Bytes}

theorem headerLine_eq_csvRow (h : forall column, column ∈ columns -> PlainColumn column) :
    headerLine columns = csvRow columns := by
  have hname : forall {column}, PlainColumn column -> csvEscapeField column = column := by
    intro column hcolumn
    unfold csvEscapeField
    rw [if_neg hcolumn.nonempty, hcolumn.unquoted, if_neg Bool.false_ne_true]
  induction columns with
  | nil => rfl
  | cons column columns ih =>
      have hfirst := hname (h column (List.mem_cons_self ..))
      cases columns with
      | nil => exact hfirst.symm
      | cons second columns =>
          rw [headerLine, csvRow, hfirst, ih fun other hother =>
            h other (List.mem_cons_of_mem _ hother)]
          all_goals exact List.cons_ne_nil _ _

theorem mem_headerLine (h : PlainColumns columns) {b : Byte} (hb : b ∈ headerLine columns) :
    b ≠ Byte.nul ∧ isLineEnding b = false := by
  rw [headerLine_eq_csvRow h.plain] at hb
  rcases mem_csvRow hb with rfl | rfl | ⟨column, hcolumn, hmem⟩
  · decide
  · decide
  · have hplain := h.plain column hcolumn
    exact ⟨fun hnul => hplain.nulFree (hnul ▸ hmem),
      isLineEnding_of_forcesQuotes (forcesQuotes_of_any hplain.unquoted hmem)⟩

theorem resetFile_lines (h : PlainColumns columns) :
    headerText (headerLine columns ++ [Byte.lineFeed]) = some (headerLine columns) ∧
      dataLines (headerLine columns ++ [Byte.lineFeed]) = [] := by
  have hne : headerLine columns ≠ [] := by
    rw [headerLine_eq_csvRow h.plain]
    exact csvRow_ne_nil h.ne_nil
  have hfits : (headerLine columns).length ≤ lineSize - 1 := by
    rw [headerLine_eq_csvRow h.plain]
    exact h.fits
  have hbytes : forall b, b ∈ headerLine columns -> b ≠ Byte.nul ∧ isLineEnding b = false :=
    fun b hb => mem_headerLine h hb
  have hread : fgets lineSize (headerLine columns) = some (headerLine columns, []) := by
    rw [fgets_eq_takeLine _ hne, takeLine_of_fits (lineFeed_not_mem hbytes) hfits]
  rcases dataLines_append_lineFeed hne with ⟨hheader, hdata⟩
  rw [hheader, hdata]
  constructor
  · unfold headerText
    rw [hread, Option.map_some, lineText_eq_self hbytes]
  · unfold dataLines
    rw [hread]
    rfl

theorem checkHeader_headerLine (h : PlainColumns schema.columns) :
    checkHeaderText schema (headerLine schema.columns) = .ok () := by
  have hback : schema.columns.map csvReadBack = schema.columns := by
    rw [map_csvReadBack_eq_self_iff]
    exact fun column hcolumn => .inr (h.plain column hcolumn).trimmed
  unfold checkHeaderText
  rw [headerLine_eq_csvRow h.plain, csvParseLine_csvRow h.ne_nil, hback]
  simp only [ne_eq, not_true_eq_false, if_false]

end Reset

/-!
## Filling the table
-/

/-- The table can be reset and filled, and goes by the name that its definition has. -/
structure Fillable (schemaDir : SchemaDir) (dataDir : DataDir) (tableName : Bytes)
    (schema : Schema) (rowCount : Nat) : Prop where
  loaded : loadSchema schemaDir dataDir tableName = .ok schema
  named : readSchema schemaDir schema.tableName = .ok schema
  writable : exists contents, dataDir.files schema.storageName =
    .ok { contents := contents, updateError := none }
  columns : PlainColumns schema.columns
  count : (rowCount : Int) ≤ intMax
  rowsFit : forall number, 0 < number -> number ≤ rowCount ->
    RowFits (schema.columns.map (generatedRow number))

structure Filled (schema : Schema) (count : Nat) (state : EngineState) : Prop where
  stores : StoresTable state.dataDir schema.storageName (generatedTable schema.columns count)
  header : validateCsvHeader state.dataDir schema = .ok ()
  hook : state.index.forceNextRegisterFailure = false
  current : RegistryHolds (EntryCurrent state.dataDir) state.index.registry
  ordered : RegistryHolds (fun _ => EntryOrdered) state.index.registry

section Fill

variable {environment : BenchmarkEnvironment} {schemaDir : SchemaDir} {schema : Schema}
  {tableName : Bytes} {rowCount count : Nat} {state : EngineState}

theorem Filled.unloaded (h : Filled schema count state) (block : Nat) :
    Filled schema count
      { state with
        index :=
          { registry := { block := block, items := [], capacity := 0 }
            forceNextRegisterFailure := false } } :=
  { stores := h.stores
    header := h.header
    hook := rfl
    current := startState_registry state.dataDir
    ordered := startState_registry state.dataDir }

theorem generatedTable_succ (columns : List Bytes) (count : Nat) :
    generatedTable columns (count + 1) =
      (generatedTable columns count).insert (generatedRow (count + 1)) := by
  unfold generatedTable NumberedTable.insert
  rw [List.range_succ, List.map_append]
  rfl

theorem find_zip_map {columns : List Bytes} {column : Bytes} (value : Bytes -> Bytes)
    (h : column ∈ columns) :
    (columns.zip (columns.map value)).find? (fun pair => decide (pair.1 = column)) =
      some (column, value column) := by
  induction columns with
  | nil => nomatch h
  | cons first columns ih =>
      rw [List.map_cons, List.zip_cons_cons, List.find?_cons]
      by_cases heq : first = column
      · rw [heq, decide_eq_true rfl]
      · rw [decide_eq_false heq]
        exact ih ((List.mem_cons.mp h).resolve_left (Ne.symm heq))

theorem givenRow_generated {column : Bytes} (hcolumn : column ∈ schema.columns)
    (number : Nat) :
    givenRow (buildInsertStatement schema number) column = generatedRow number column := by
  unfold givenRow insertPairs buildInsertStatement
  simp only
  rw [find_zip_map (fun column => makeValueText column number) hcolumn]
  rfl

variable {number : Nat}

theorem generated_insertable (hcolumns : PlainColumns schema.columns)
    (hnumber : number < 10 ^ 10) (count : Nat) :
    Insertable (generatedTable schema.columns count)
      (buildInsertStatement schema number) := by
  refine ⟨(List.length_map _).symm, fun column hcolumn => hcolumn, hcolumns.distinct, ?_⟩
  intro value hvalue
  rcases List.mem_map.mp hvalue with ⟨column, hcolumn, rfl⟩
  exact makeValueText_oneLine (hcolumns.plain column hcolumn) hnumber

theorem generated_plain (hnamed : readSchema schemaDir schema.tableName = .ok schema)
    (hcolumns : PlainColumns schema.columns) (hnumber : number < 10 ^ 10)
    (hfits : RowFits (schema.columns.map (generatedRow number))) :
    PlainInsert schemaDir (buildInsertStatement schema number) := by
  constructor
  · intro value hvalue
    rcases List.mem_map.mp hvalue with ⟨column, hcolumn, rfl⟩
    exact makeValueText_nulFree (hcolumns.plain column hcolumn) hnumber
  · intro value hvalue
    rcases List.mem_map.mp hvalue with ⟨column, hcolumn, rfl⟩
    exact makeValueText_kept (hcolumns.plain column hcolumn) hnumber
  · intro found hfound
    rw [show (buildInsertStatement schema number).tableName = schema.tableName from rfl,
      hnamed, Except.ok.injEq] at hfound
    subst hfound
    rw [expectedRow_eq_givenRow hcolumns.distinct, List.map_congr_left fun column hcolumn =>
      givenRow_generated hcolumn number]
    exact hfits

theorem storesTable_insert_congr {dataDir : DataDir} {name : Bytes}
    {table : NumberedTable Bytes Bytes} {row other : Bytes -> Bytes}
    (h : StoresTable dataDir name (table.insert row))
    (hsame : forall column, column ∈ table.columns -> row column = other column) :
    StoresTable dataDir name (table.insert other) := by
  rcases h.file with ⟨contents, parsed, hfile, hne, hparsed, hrows⟩
  refine ⟨h.distinct, contents, parsed, hfile, hne, hparsed, ?_⟩
  unfold NumberedTable.insert at hrows ⊢
  simp only [List.map_append, List.map_cons, List.map_nil] at hrows ⊢
  rw [hrows, List.map_congr_left hsame]

theorem Filled.insert (h : Filled schema count state)
    (hnamed : readSchema schemaDir schema.tableName = .ok schema)
    (hcolumns : PlainColumns schema.columns) (hnumber : count + 1 < 10 ^ 10)
    (hfits : RowFits (schema.columns.map (generatedRow (count + 1)))) :
    (executeInsert schemaDir (buildInsertStatement schema (count + 1)) noFaults
        state).2.ok = true ∧
      Filled schema (count + 1)
        (executeInsert schemaDir (buildInsertStatement schema (count + 1)) noFaults
          state).1 := by
  have hplain := generated_plain hnamed hcolumns hnumber hfits
  have hschema : loadSchema schemaDir state.dataDir
      (buildInsertStatement schema (count + 1)).tableName = .ok schema :=
    loadSchema_eq_ok_iff.mpr ⟨hnamed, h.header⟩
  have hdone := executeInsert_inserts hschema rfl h.stores h.hook h.current h.ordered
    hplain.nulFree (generated_insertable hcolumns hnumber count)
  have hok : (executeInsert schemaDir (buildInsertStatement schema (count + 1)) noFaults
      state).2.ok = true := by
    rw [hdone.1]
  rcases executeInsert_stores hschema rfl h.stores h.ordered hplain hok with
    ⟨hstores, hheaders⟩
  have hkeeps : KeepsOthers schema.storageName state
      (executeInsert schemaDir (buildInsertStatement schema (count + 1)) noFaults state).1 :=
    executeInsert_keepsOthers (storageName_of_read hnamed)
  refine ⟨hok, ?_, ?_, hkeeps.hook h.hook, hplain.current h.current,
    executeInsert_ordered hplain h.ordered⟩
  · rw [generatedTable_succ]
    exact storesTable_insert_congr hstores
      fun column hcolumn => givenRow_generated hcolumn (count + 1)
  · rw [validateCsvHeader_of_sameHeaders hheaders]
    exact h.header

theorem insertRows_fills (hfaults : forall index, environment.faults index = noFaults)
    (hnamed : readSchema schemaDir schema.tableName = .ok schema)
    (hcolumns : PlainColumns schema.columns) (remaining : Nat)
    (hcount : count + remaining < 10 ^ 10)
    (hfits : forall number, 0 < number -> number ≤ count + remaining ->
      RowFits (schema.columns.map (generatedRow number)))
    (h : Filled schema count state) :
    (insertRows environment schemaDir schema remaining count state).2 = none ∧
      Filled schema (count + remaining)
        (insertRows environment schemaDir schema remaining count state).1 := by
  induction remaining generalizing count state with
  | zero => exact ⟨rfl, h⟩
  | succ remaining ih =>
      rcases h.insert hnamed hcolumns (by omega)
        (hfits (count + 1) (Nat.succ_pos count) (by omega)) with ⟨hok, hfilled⟩
      have hsum : count + (remaining + 1) = count + 1 + remaining := by omega
      rw [hsum] at hcount hfits ⊢
      unfold insertRows executeStatement
      simp only [hfaults, hok, if_true]
      exact ih hcount hfits hfilled

theorem writeCsvHeader_resets (henvironment : environment.headerWritten = true)
    (hwritable : exists contents, state.dataDir.files schema.storageName =
      .ok { contents := contents, updateError := none })
    (hcolumns : PlainColumns schema.columns) :
    exists dataDir, writeCsvHeader environment schema state.dataDir = (dataDir, none) ∧
      Filled schema 0 (resetIndex { state with dataDir := dataDir }) := by
  rcases hwritable with ⟨contents, hfile⟩
  rcases resetFile_lines hcolumns with ⟨hheader, hdata⟩
  refine ⟨state.dataDir.write schema.storageName
    (headerLine schema.columns ++ [Byte.lineFeed]), ?_, ?_⟩
  · unfold writeCsvHeader
    simp only [hfile, henvironment, if_true]
  · have hafter : (state.dataDir.write schema.storageName
        (headerLine schema.columns ++ [Byte.lineFeed])).files schema.storageName =
          .ok { contents := headerLine schema.columns ++ [Byte.lineFeed]
                updateError := none } := by
      unfold DataDir.write
      simp only [if_true, hfile]
    refine ⟨⟨hcolumns.distinct, _, [], hafter, List.append_ne_nil_of_right_ne_nil _
      (List.cons_ne_nil _ _), ?_, rfl⟩, ?_, rfl, startState_registry state.dataDir,
      startState_registry state.dataDir⟩
    · rw [hdata]
      rfl
    · unfold validateCsvHeader resetIndex
      simp only [hafter, hheader]
      exact checkHeader_headerLine hcolumns

theorem runPrepareMode_fills (henvironment : environment.headerWritten = true)
    (hfaults : forall index, environment.faults index = noFaults)
    (h : Fillable schemaDir state.dataDir tableName schema rowCount) :
    (runPrepareMode environment schemaDir tableName rowCount state).exitCode = 0 ∧
      Filled schema rowCount
        (runPrepareMode environment schemaDir tableName rowCount state).state := by
  rcases writeCsvHeader_resets henvironment h.writable h.columns with
    ⟨dataDir, hwrite, hreset⟩
  have hcount : 0 + rowCount < 10 ^ 10 := by
    have hlimit := h.count
    unfold intMax at hlimit
    omega
  rcases insertRows_fills hfaults h.named h.columns rowCount hcount
    (fun number hpos hle => h.rowsFit number hpos (Nat.zero_add rowCount ▸ hle)) hreset with
    ⟨hdone, hfilled⟩
  rw [Nat.zero_add] at hfilled
  unfold runPrepareMode
  simp only [h.loaded, hwrite]
  rcases hrun : insertRows environment schemaDir schema rowCount 0
    (resetIndex { state with dataDir := dataDir }) with ⟨after, outcome⟩
  rw [hrun] at hdone hfilled
  simp only at hdone hfilled
  subst hdone
  exact ⟨rfl, hfilled.unloaded _⟩

end Fill

/-!
## Finding the rows
-/

/-- The numbers up to `count` whose rows have the value of the target in a column. -/
def numbersLike (column : Bytes) (count target : Nat) : List Nat :=
  ((List.range count).map fun index => index + 1).filter fun number =>
    decide (if column = ascii "age" then number % 50 = target % 50 else number = target)

/-- The result table with the rows that are made up for these numbers. -/
def generatedRows (columns : List Bytes) (numbers : List Nat) : ResultTable :=
  { headers := columns
    rows := numbers.map fun number => columns.map (generatedRow number) }

section Find

variable {environment : BenchmarkEnvironment} {schemaDir : SchemaDir} {schema : Schema}
  {columns : List Bytes} {column tableName : Bytes} {count target : Nat}
  {state : EngineState}

theorem generatedTable_numbered (columns : List Bytes) (count : Nat) :
    (generatedTable columns count).numbered =
      ((List.range count).map fun index => index + 1).map fun number =>
        (generatedRow number, number) := by
  induction count with
  | zero => rfl
  | succ count ih =>
      rw [generatedTable_succ]
      unfold NumberedTable.numbered at ih ⊢
      unfold NumberedTable.insert
      rw [List.zipIdx_append, ih, List.range_succ, List.map_append, List.map_append]
      unfold generatedTable
      rw [List.length_map, List.length_range, Nat.add_comm 1 count]
      rfl

theorem target_numbered (hpos : 0 < target) (hle : target ≤ count) :
    (generatedRow target, target) ∈ (generatedTable columns count).numbered := by
  rw [generatedTable_numbered]
  refine List.mem_map.mpr ⟨target, List.mem_map.mpr ⟨target - 1, ?_, ?_⟩, rfl⟩
  · rw [List.mem_range]
    omega
  · show target - 1 + 1 = target
    omega

theorem isWanted_like (hcolumn : PlainColumn column) (hid : column ≠ ascii "id")
    {number : Nat} (hnumber : number < 10 ^ 10) (htarget : target < 10 ^ 10) :
    isWanted (buildSelectStatement tableName column (makeValueText column target))
        (generatedRow number, number) =
      decide (if column = ascii "age" then number % 50 = target % 50
        else number = target) := by
  unfold isWanted buildSelectStatement attributeOf
  simp only [if_neg hid]
  exact decide_eq_decide.mpr (makeValueText_inj hcolumn hnumber htarget)

theorem shownTable_like (hcolumn : column ∈ columns) (hid : ascii "id" ∉ columns)
    (hplain : PlainColumn column) (hcount : count < 10 ^ 10) (htarget : target < 10 ^ 10) :
    Answerable (generatedTable columns count)
        (buildSelectStatement tableName column (makeValueText column target)) ∧
      shownTable (generatedTable columns count)
          (buildSelectStatement tableName column (makeValueText column target)) =
        generatedRows columns (numbersLike column count target) := by
  have hne : forall {name}, name ∈ columns -> name ≠ ascii "id" := by
    rintro name hname rfl
    exact hid hname
  constructor
  · refine ⟨fun name hname => .inr hname, ?_⟩
    intro condition hsome
    cases hsome
    exact ⟨.inr hcolumn, fun heq => absurd heq (hne hcolumn)⟩
  · have hwanted : forall number,
        number ∈ (List.range count).map (fun index => index + 1) ->
          isWanted (buildSelectStatement tableName column (makeValueText column target))
              (generatedRow number, number) =
            decide (if column = ascii "age" then number % 50 = target % 50
              else number = target) := by
      intro number hnumber
      rcases List.mem_map.mp hnumber with ⟨index, hindex, rfl⟩
      rw [List.mem_range] at hindex
      exact isWanted_like hplain (hne hcolumn) (by omega) htarget
    unfold shownTable generatedRows numbersLike NumberedTable.select
    rw [generatedTable_numbered, List.filter_map, List.map_map, ← List.filter_congr hwanted]
    congr 1
    refine List.map_congr_left fun number _ => ?_
    show (columns.map attributeOf).map (NumberedTable.cell _ (generatedRow number, number)) =
      columns.map (generatedRow number)
    rw [List.map_map]
    refine List.map_congr_left fun name hname => ?_
    show NumberedTable.cell _ (generatedRow number, number) (attributeOf name) = _
    unfold attributeOf
    rw [if_neg (hne hname)]
    rfl

theorem Filled.select (h : Filled schema count state)
    (hnamed : readSchema schemaDir schema.tableName = .ok schema)
    {statement : SelectStatement} (htable : statement.tableName = schema.tableName)
    (hall : statement.selectAll = true)
    (hanswerable : Answerable (generatedTable schema.columns count) statement) :
    executeStatement schemaDir (.selectStatement statement) noFaults state =
        ((selectTable schemaDir statement none state).1,
          selectResult (.ok (shownTable (generatedTable schema.columns count) statement))) ∧
      Filled schema count (selectTable schemaDir statement none state).1 := by
  have hschema : loadSchema schemaDir state.dataDir statement.tableName = .ok schema := by
    rw [htable]
    exact loadSchema_eq_ok_iff.mpr ⟨hnamed, h.header⟩
  have hshown : shownColumns (generatedTable schema.columns count) statement ≠ [] := by
    unfold shownColumns
    rw [if_pos hall]
    exact (readSchema_accepted hnamed).columns_ne_nil
  have hanswers := (selectTable_answers hschema rfl h.stores h.current hshown).1 hanswerable
  have hcurrent := selectTable_state schemaDir statement none
    (entryCurrent_invariant state.dataDir) h.current
  have hordered := selectTable_state schemaDir statement none
    (entryOrdered_invariant state.dataDir) h.ordered
  refine ⟨?_, ?_, ?_, ?_, ?_, hordered.2⟩
  · show ((selectTable schemaDir statement none state).1,
      selectResult (selectTable schemaDir statement none state).2) = _
    rw [hanswers]
  · rw [hcurrent.1]
    exact h.stores
  · rw [hcurrent.1]
    exact h.header
  · rw [(selectTable_sameAnswers schemaDir statement none state).hook]
    exact h.hook
  · rw [hcurrent.1]
    exact hcurrent.2

theorem repeatQuery_shows (hfaults : forall index, environment.faults index = noFaults)
    (hnamed : readSchema schemaDir schema.tableName = .ok schema)
    {statement : SelectStatement} (htable : statement.tableName = schema.tableName)
    (hall : statement.selectAll = true)
    (hanswerable : Answerable (generatedTable schema.columns count) statement)
    (remaining index : Nat) (h : Filled schema count state) :
    exists after, repeatQuery environment schemaDir statement remaining index state =
        (after, .ok (List.replicate remaining
          (printResultTable (shownTable (generatedTable schema.columns count) statement)))) ∧
      Filled schema count after := by
  induction remaining generalizing index state with
  | zero => exact ⟨state, rfl, h⟩
  | succ remaining ih =>
      rcases h.select hnamed htable hall hanswerable with ⟨hanswer, hfilled⟩
      rcases ih (index + 1) hfilled with ⟨after, hrest, hafter⟩
      refine ⟨after, ?_, hafter⟩
      unfold repeatQuery
      simp only [hfaults, hanswer, selectResult, if_true, hrest, List.replicate_succ]

variable {queryRepeat : Nat}

theorem runQueryOnlyMode_finds (hsink : environment.sinkOpened = true)
    (hfaults : forall index, environment.faults index = noFaults)
    (hread : readSchema schemaDir tableName = .ok schema)
    (hnamed : readSchema schemaDir schema.tableName = .ok schema)
    (hcolumns : PlainColumns schema.columns) (hcolumn : schema.columns.head? = some column)
    (hcount : (count : Int) ≤ intMax) (hpos : 0 < target) (hle : target ≤ count)
    (h : Filled schema count state) :
    exists last, runQueryOnlyMode environment schemaDir tableName target queryRepeat state =
      { state := last
        exitCode := 0
        out := queryReport environment target queryRepeat column
        err := []
        indexedSink := List.replicate queryRepeat
          (printResultTable (generatedRows schema.columns [target]))
        linearSink := List.replicate queryRepeat
          (printResultTable
            (generatedRows schema.columns (numbersLike column count target))) } := by
  have hmem : column ∈ schema.columns := List.mem_of_mem_head? hcolumn
  have hid : ascii "id" ∉ schema.columns := (readSchema_accepted hnamed).id_not_column
  have hlimit : count < 10 ^ 10 := by
    unfold intMax at hcount
    omega
  have hvalue : parseIntStrict (decimalNat target) = some (target : Int) :=
    parseIntStrict_decimalNat (by omega)
  have hbyId : Answerable (generatedTable schema.columns count)
        (buildSelectStatement schema.tableName (ascii "id") (decimalNat target)) ∧
      shownTable (generatedTable schema.columns count)
          (buildSelectStatement schema.tableName (ascii "id") (decimalNat target)) =
        generatedRows schema.columns [target] :=
    shownTable_number (target_numbered hpos hle) hid hvalue
  have hbyValue := @shownTable_like schema.columns column schema.tableName count target
    hmem hid (hcolumns.plain column hmem) hlimit (Nat.lt_of_le_of_lt hle hlimit)
  have hreset : Filled schema count (resetIndex state) := h.unloaded _
  rcases repeatQuery_shows hfaults hnamed rfl rfl hbyId.1 queryRepeat 0 hreset with
    ⟨after, hindexed, hafter⟩
  rcases repeatQuery_shows hfaults hnamed rfl rfl hbyValue.1 queryRepeat 0 hafter with
    ⟨last, hlinear, _⟩
  rw [hbyId.2] at hindexed
  rw [hbyValue.2] at hlinear
  refine ⟨resetIndex last, ?_⟩
  unfold runQueryOnlyMode findFirstNonIdColumn runQueryBenchmark
  simp only [loadSchema_eq_ok_iff.mpr ⟨hread, h.header⟩, hcolumn, hsink, if_true, hindexed,
    hlinear]

theorem numbersLike_of_ne_age (hcolumn : column ≠ ascii "age") (hpos : 0 < target)
    (hle : target ≤ count) : numbersLike column count target = [target] := by
  have hfound : (generatedTable [] count).numbered.filter
      (fun row => decide (row.2 = target)) = [(generatedRow target, target)] :=
    NumberedTable.filter_number (target_numbered hpos hle)
  rw [generatedTable_numbered, List.filter_map] at hfound
  have hnumbers := congrArg (List.map Prod.snd) hfound
  rw [List.map_map] at hnumbers
  unfold numbersLike
  simp only [if_neg hcolumn]
  exact (List.map_id _).symm.trans hnumbers

theorem positiveArgument_decimalNat {number : Nat} (hpos : 0 < number)
    (hlimit : (number : Int) ≤ intMax) :
    positiveArgument (decimalNat number) = some number := by
  have hvalue : parseIntStrict (decimalNat number) = some (number : Int) :=
    parseIntStrict_decimalNat hlimit
  unfold positiveArgument
  simp only [hvalue, if_neg (show ¬ (number : Int) ≤ 0 by omega), Int.toNat_natCast]

end Find

/-!
## The two modes, one after the other
-/

section Modes

variable {schema : Schema} {programName schemaPath dataPath tableName column : Bytes}
  {rowCount target queryRepeat : Nat}

theorem benchmarkMain_prepare (environment : BenchmarkEnvironment) (hpos : 0 < rowCount)
    (hlimit : (rowCount : Int) ≤ intMax) :
    benchmarkMain environment programName
        [ascii "prepare", schemaPath, dataPath, tableName, decimalNat rowCount] =
      .ok (runPrepareMode environment (environment.schemaDir schemaPath) tableName rowCount
        (startState (environment.dataDir dataPath))) := by
  unfold benchmarkMain benchmarkCall
  simp only [if_true, positiveArgument_decimalNat hpos hlimit]

theorem benchmarkMain_queryOnly (environment : BenchmarkEnvironment)
    (hpos : 0 < target) (hlimit : (target : Int) ≤ intMax)
    (hrepeat : 0 < queryRepeat) (hfew : (queryRepeat : Int) ≤ intMax) :
    benchmarkMain environment programName
        [ascii "query-only", schemaPath, dataPath, tableName, decimalNat target,
          decimalNat queryRepeat] =
      .ok (runQueryOnlyMode environment (environment.schemaDir schemaPath) tableName
        target queryRepeat (startState (environment.dataDir dataPath))) := by
  have hmode : ¬ ascii "query-only" = ascii "prepare" := by decide
  unfold benchmarkMain benchmarkCall
  simp only [if_neg hmode, if_true, positiveArgument_decimalNat hpos hlimit,
    positiveArgument_decimalNat hrepeat hfew]

/--
What `prepare` writes, `query-only` finds: on a table that can be filled the first
run stores the rows with the numbers up to the count it is given and nothing else.  A run
on these files then finds the row of its target by the id, each time; by the value of the
first column it finds that row too, and no other unless the column is `age`, where it
finds all whose numbers differ from it by a multiple of 50.
-/
theorem prepared_rows_are_found {preparing querying : BenchmarkEnvironment}
    (hfillable : Fillable (preparing.schemaDir schemaPath) (preparing.dataDir dataPath)
      tableName schema rowCount)
    (hwritten : preparing.headerWritten = true)
    (hpreparing : forall index, preparing.faults index = noFaults)
    (hsink : querying.sinkOpened = true)
    (hquerying : forall index, querying.faults index = noFaults)
    (hcolumn : schema.columns.head? = some column)
    (hpos : 0 < target) (hle : target ≤ rowCount)
    (hrepeat : 0 < queryRepeat) (hfew : (queryRepeat : Int) ≤ intMax) :
    exists prepared queried,
      benchmarkMain preparing programName
          [ascii "prepare", schemaPath, dataPath, tableName, decimalNat rowCount] =
        .ok prepared ∧
      prepared.exitCode = 0 ∧
      StoresTable prepared.state.dataDir schema.storageName
        (generatedTable schema.columns rowCount) ∧
      benchmarkMain
          { querying with
            schemaDir := preparing.schemaDir
            dataDir := fun _ => prepared.state.dataDir }
          programName
          [ascii "query-only", schemaPath, dataPath, tableName, decimalNat target,
            decimalNat queryRepeat] =
        .ok queried ∧
      queried.exitCode = 0 ∧
      queried.indexedSink = List.replicate queryRepeat
        (printResultTable (generatedRows schema.columns [target])) ∧
      queried.linearSink = List.replicate queryRepeat
        (printResultTable
          (generatedRows schema.columns (numbersLike column rowCount target))) ∧
      (column ≠ ascii "age" -> queried.linearSink = queried.indexedSink) := by
  have hread := (loadSchema_eq_ok_iff.mp hfillable.loaded).1
  have hlimit : (target : Int) ≤ intMax := by
    have hcount := hfillable.count
    omega
  rcases @runPrepareMode_fills preparing _ _ _ _ (startState (preparing.dataDir dataPath))
    hwritten hpreparing hfillable with ⟨hdone, hfilled⟩
  have hstarted : Filled schema rowCount
      (startState (runPrepareMode preparing (preparing.schemaDir schemaPath) tableName
        rowCount (startState (preparing.dataDir dataPath))).state.dataDir) :=
    hfilled.unloaded _
  rcases @runQueryOnlyMode_finds
    { querying with
      schemaDir := preparing.schemaDir
      dataDir := fun _ => (runPrepareMode preparing (preparing.schemaDir schemaPath)
        tableName rowCount (startState (preparing.dataDir dataPath))).state.dataDir }
    _ _ _ _ _ _ _ queryRepeat hsink hquerying hread hfillable.named hfillable.columns
    hcolumn hfillable.count hpos hle hstarted with ⟨last, hfound⟩
  refine ⟨_, _, benchmarkMain_prepare preparing (Nat.lt_of_lt_of_le hpos hle)
    hfillable.count, hdone, hfilled.stores,
    (benchmarkMain_queryOnly _ hpos hlimit hrepeat hfew).trans (congrArg Except.ok hfound),
    rfl, rfl, rfl, fun hother => ?_⟩
  rw [numbersLike_of_ne_age hother hpos hle]

theorem sample_fillable : Fillable sampleSchemaDir sampleRowsDir (ascii "t") sampleSchema 3 := by
  refine ⟨by decide, readSchema_sample, ⟨_, rfl⟩,
    ⟨by decide, by decide, ?_, by decide⟩, by decide, ?_⟩
  · intro column hcolumn
    rw [List.mem_singleton.mp hcolumn]
    exact ⟨by decide, by decide, by decide, by decide, by decide⟩
  · intro number hpos hle
    rcases (by omega : number = 1 ∨ number = 2 ∨ number = 3) with rfl | rfl | rfl
    all_goals decide

/-- An undisturbed run of the benchmark on the sample table. -/
def sampleEnvironment : BenchmarkEnvironment :=
  { schemaDir := fun _ => sampleSchemaDir
    dataDir := fun _ => sampleRowsDir
    headerWritten := true
    faults := fun _ => noFaults
    sinkOpened := true
    insertTime := 0
    indexedTime := 0
    linearTime := 0 }

theorem prepared_rows_are_found_sample :
    exists prepared queried,
      benchmarkMain sampleEnvironment (ascii "benchmark_runner")
          [ascii "prepare", ascii "schema", ascii "data", ascii "t", decimalNat 3] =
        .ok prepared ∧
      prepared.exitCode = 0 ∧
      StoresTable prepared.state.dataDir (ascii "t") (generatedTable [ascii "name"] 3) ∧
      benchmarkMain
          { sampleEnvironment with
            schemaDir := sampleEnvironment.schemaDir
            dataDir := fun _ => prepared.state.dataDir }
          (ascii "benchmark_runner")
          [ascii "query-only", ascii "schema", ascii "data", ascii "t", decimalNat 2,
            decimalNat 1] =
        .ok queried ∧
      queried.exitCode = 0 ∧
      queried.indexedSink = List.replicate 1
        (printResultTable (generatedRows [ascii "name"] [2])) ∧
      queried.linearSink = List.replicate 1
        (printResultTable
          (generatedRows [ascii "name"] (numbersLike (ascii "name") 3 2))) ∧
      (ascii "name" ≠ ascii "age" -> queried.linearSink = queried.indexedSink) :=
  @prepared_rows_are_found sampleSchema _ (ascii "schema") (ascii "data") _ _ 3 2 1
    sampleEnvironment sampleEnvironment sample_fillable rfl (fun _ => rfl) rfl
    (fun _ => rfl) rfl (by decide) (by decide) (by decide) (by decide)

end Modes

end Benchmark
end App
end SqlCsvServer
