import SqlCsvServer.Execution.SameAnswers

/-!
# Statements that are refused

A SELECT changes no file, and prints nothing when it fails.  An INSERT that fails
before `append_row_csv` writes may at most have loaded the index, which no
later statement can see.
-/

namespace SqlCsvServer
namespace Execution

open Foundation Common Storage Index Sql

/-- `append_row_csv` fails before it has written anything. -/
def AppendRefused (dataDir : DataDir) (tableName : Bytes)
    (append : Option AppendFault) : Prop :=
  match openTableFileForUpdate dataDir tableName with
  | .error _ => True
  | .ok contents =>
      callFails append .seekEnd = true ∨ callFails append .measure = true ∨
        contents ≠ [] ∧
          (callFails append .inspect = true ∨ callFails append .rewind = true)

/--
An INSERT that fails before anything is written: the schema does not load, the
columns or values are refused, the index does not load, a column is given twice,
or the table file cannot be opened or measured.
-/
def RejectedEarly (schemaDir : SchemaDir) (statement : InsertStatement)
    (faults : Faults) (state : EngineState) : Prop :=
  forall schema,
    loadSchema schemaDir state.dataDir statement.tableName = .ok schema ->
      validateInsertColumns statement schema ≠ none ∨
        (exists text,
          (tableIndexGetNextId state.dataDir schema state.index
            faults.memory).2.1 = .error text) ∨
        (exists text, buildInsertRow statement schema = .error text) ∨
        AppendRefused state.dataDir schema.storageName faults.append

theorem dataDir_write_self {dataDir : DataDir} {name : Bytes} {file : CsvFile}
    (hfile : dataDir.files name = .ok file) :
    dataDir.write name file.contents = dataDir := by
  unfold DataDir.write
  cases dataDir with
  | mk path files =>
      simp only at hfile
      simp only [DataDir.mk.injEq, true_and]
      funext other
      by_cases hother : other = name
      · simp [hother, hfile]
      · simp [hother]

theorem appendRowCsv_refused {dataDir : DataDir} {tableName : Bytes}
    {append : Option AppendFault}
    (h : AppendRefused dataDir tableName append) (rowValues : List Bytes) :
    (appendRowCsv dataDir tableName rowValues append).1 = dataDir ∧
      (appendRowCsv dataDir tableName rowValues append).2.ok = false := by
  unfold AppendRefused at h
  unfold appendRowCsv
  cases hopen : openTableFileForUpdate dataDir tableName with
  | error text => exact ⟨rfl, rfl⟩
  | ok contents =>
      rw [hopen] at h
      simp only at h
      have hunwritten :
          (appendRow contents rowValues append).1 = contents ∧
            (appendRow contents rowValues append).2.ok = false := by
        unfold appendRow
        rcases h with hcall | hcall | ⟨hne, hcall | hcall⟩
        · rw [if_pos hcall]
          exact ⟨rfl, rfl⟩
        · simp only [hcall, if_true]
          split <;> exact ⟨rfl, rfl⟩
        · simp only [hcall, hne, ne_eq, not_false_eq_true, and_self, if_true]
          split
          · exact ⟨rfl, rfl⟩
          · split <;> exact ⟨rfl, rfl⟩
        · simp only [hcall, hne, ne_eq, not_false_eq_true, and_self, if_true]
          split
          · exact ⟨rfl, rfl⟩
          · split
            · exact ⟨rfl, rfl⟩
            · split <;> exact ⟨rfl, rfl⟩
      have hcontents : exists file,
          dataDir.files tableName = .ok file ∧ file.contents = contents := by
        unfold openTableFileForUpdate at hopen
        cases hfile : dataDir.files tableName with
        | error errno => simp [hfile] at hopen
        | ok file =>
            cases hupdate : file.updateError with
            | some errno => simp [hfile, hupdate] at hopen
            | none => exact ⟨file, rfl, by simpa [hfile, hupdate] using hopen⟩
      rcases hcontents with ⟨file, hfile, hsame⟩
      simp only
      rw [hunwritten.1, ← hsame]
      exact ⟨dataDir_write_self hfile, hsame ▸ hunwritten.2⟩

section Reject

variable {schemaDir : SchemaDir} {statement : InsertStatement}
  {faults : Faults} {state : EngineState}

theorem executeInsert_rejected
    (h : RejectedEarly schemaDir statement faults state) :
    (executeInsert schemaDir statement faults state).2.ok = false ∧
      SameAnswers (executeInsert schemaDir statement faults state).1 state := by
  unfold executeInsert
  cases hschema : loadSchema schemaDir state.dataDir statement.tableName with
  | error text => exact ⟨rfl, sameAnswers_refl state⟩
  | ok schema =>
      have hearly := h schema hschema
      simp only
      cases hvalid : validateInsertColumns statement schema with
      | some text => exact ⟨rfl, sameAnswers_refl state⟩
      | none =>
          simp only
          rcases hnext : tableIndexGetNextId state.dataDir schema state.index
              faults.memory with
            ⟨index, text | nextId, available⟩
          · exact ⟨rfl, sameAnswers_getNextId hnext⟩
          · simp only
            cases hrow : buildInsertRow statement schema with
            | error text => exact ⟨rfl, sameAnswers_getNextId hnext⟩
            | ok rowValues =>
                have hrefused :
                    AppendRefused state.dataDir schema.storageName
                      faults.append := by
                  rcases hearly with h | ⟨text, h⟩ | ⟨text, h⟩ | h
                  · exact absurd hvalid h
                  · rw [hnext] at h
                    cases h
                  · rw [hrow] at h
                    cases h
                  · exact h
                have happend := appendRowCsv_refused hrefused rowValues
                simp only
                unfold appendAndRegister
                rcases hresult : appendRowCsv state.dataDir schema.storageName
                    rowValues faults.append with
                  ⟨dataDir, storageResult⟩
                rw [hresult] at happend
                simp only at happend
                rw [happend.1]
                simp only [happend.2, Bool.false_eq_true, if_false]
                exact ⟨rfl, sameAnswers_getNextId hnext⟩

theorem assignedId_view {id : Int}
    (h : assignedId schemaDir statement faults state = some id) :
    exists schema view,
      loadSchema schemaDir state.dataDir statement.tableName = .ok schema ∧
        tableView state.dataDir state.index.registry schema.storageName =
          .ok view ∧
        view.nextId = id := by
  unfold assignedId at h
  cases hschema : loadSchema schemaDir state.dataDir statement.tableName with
  | error text => simp [hschema] at h
  | ok schema =>
      rw [hschema] at h
      simp only at h
      rcases hnext : tableIndexGetNextId state.dataDir schema state.index
          faults.memory with
        ⟨index, text | nextId, available⟩
      · simp [hnext] at h
      · rw [hnext] at h
        simp only [Option.some.injEq] at h
        rcases (tableIndexGetNextId_view hnext).2.2 nextId rfl with
          ⟨slot, entry, _, _, hview, hid⟩
        exact ⟨schema, _, rfl, hview, hid.trans h⟩

theorem assignedId_sameAnswers {s t : EngineState} (h : SameAnswers s t)
    {faultsS faultsT : Faults} {idS idT : Int}
    (hs : assignedId schemaDir statement faultsS s = some idS)
    (ht : assignedId schemaDir statement faultsT t = some idT) : idS = idT := by
  rcases assignedId_view hs with ⟨schemaS, viewS, hschemaS, hviewS, hidS⟩
  rcases assignedId_view ht with ⟨schemaT, viewT, hschemaT, hviewT, hidT⟩
  have hschema : schemaS = schemaT := by
    rw [h.dataDir, hschemaT, Except.ok.injEq] at hschemaS
    exact hschemaS.symm
  rw [hschema, h.views, hviewT, Except.ok.injEq] at hviewS
  rw [← hidS, ← hidT, hviewS]

end Reject

/--
A SELECT changes no file and prints nothing when it fails.  After an INSERT that
is refused before anything is written, the files are as before, the next INSERT
takes the id it would have taken, and every later run of statements has the same
results, output, ids and files as without it.
-/
theorem rejected_statements_leave_no_trace (schemaDir : SchemaDir)
    (state : EngineState) :
    (forall statement memory,
      (executeSelect schemaDir statement memory state).1.dataDir =
          state.dataDir ∧
        ((executeSelect schemaDir statement memory state).2.1.ok = false ->
          (executeSelect schemaDir statement memory state).2.2 = [])) ∧
      forall statement faults, RejectedEarly schemaDir statement faults state ->
        (executeInsert schemaDir statement faults state).2.ok = false ∧
          (executeInsert schemaDir statement faults state).1.dataDir =
            state.dataDir ∧
          (forall next faultsAfter faultsBefore idAfter idBefore,
            assignedId schemaDir next faultsAfter
                (executeInsert schemaDir statement faults state).1 =
              some idAfter ->
            assignedId schemaDir next faultsBefore state = some idBefore ->
              idAfter = idBefore) ∧
          forall statements,
            (runStatements schemaDir statements
                (executeInsert schemaDir statement faults state).1).2 =
              (runStatements schemaDir statements state).2 ∧
            (runStatements schemaDir statements
                (executeInsert schemaDir statement faults
                  state).1).1.dataDir =
              (runStatements schemaDir statements state).1.dataDir := by
  constructor
  · intro statement memory
    constructor
    · exact (selectTable_sameAnswers schemaDir statement memory state).dataDir
    · intro hfailed
      unfold executeSelect at hfailed ⊢
      cases hread : (selectTable schemaDir statement memory state).2 with
      | error text => simp [hread, selectResult]
      | ok table => simp [hread, selectResult] at hfailed
  · intro statement faults hrejected
    rcases executeInsert_rejected hrejected with ⟨hfailed, hsame⟩
    refine ⟨hfailed, hsame.dataDir, ?_, ?_⟩
    · intro next faultsAfter faultsBefore idAfter idBefore hafter hbefore
      exact assignedId_sameAnswers hsame hafter hbefore
    · intro statements
      have hrun := runStatements_sameAnswers schemaDir statements hsame
      exact ⟨hrun.1, hrun.2.dataDir⟩

def duplicateInsert : InsertStatement :=
  { tableName := ascii "t"
    columns := [ascii "name", ascii "name"]
    values := [ascii "a", ascii "b"] }

theorem duplicateInsert_rejected :
    RejectedEarly sampleSchemaDir duplicateInsert noFaults
      (startState sampleDataDir) := by
  have hschema : loadSchema sampleSchemaDir
      (startState sampleDataDir).dataDir duplicateInsert.tableName =
        .ok sampleSchema := by
    decide
  have hrow : buildInsertRow duplicateInsert sampleSchema =
      .error (message (ascii "duplicate column in INSERT: name")) := by
    decide
  intro schema hloaded
  rw [hschema, Except.ok.injEq] at hloaded
  rw [← hloaded]
  exact Or.inr (Or.inr (Or.inl ⟨_, hrow⟩))

theorem rejected_statements_leave_no_trace_sample :
    tableIndexIsLoaded
        (executeInsert sampleSchemaDir duplicateInsert noFaults
          (startState sampleDataDir)).1.index (ascii "t") = true ∧
      (runStatements sampleSchemaDir
          [(.insertStatement (sampleInsert (ascii "a")), none)]
          (executeInsert sampleSchemaDir duplicateInsert noFaults
            (startState sampleDataDir)).1).2 =
        (runStatements sampleSchemaDir
          [(.insertStatement (sampleInsert (ascii "a")), none)]
          (startState sampleDataDir)).2 := by
  have htrace :=
    (rejected_statements_leave_no_trace sampleSchemaDir
      (startState sampleDataDir)).2 duplicateInsert noFaults
        duplicateInsert_rejected
  have hrun := htrace.2.2.2
    [(.insertStatement (sampleInsert (ascii "a")), none)]
  constructor
  · decide
  · exact hrun.1

end Execution
end SqlCsvServer
