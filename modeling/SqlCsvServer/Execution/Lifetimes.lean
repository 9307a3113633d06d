import SqlCsvServer.Execution.Footprint

/-!
# Restarts do not show

What a program knows of its tables beyond their files is the index, and each index is what
a rebuild of its file gives.  So it does not show where a history of statements was cut
into runs of the program.
-/

namespace SqlCsvServer
namespace Execution

open Foundation Common Storage Index Sql

/-!
## A fresh program knows as much
-/

theorem tableView_of_current {dataDir : DataDir} {registry : TableIndexRegistry}
    (h : RegistryHolds (EntryCurrent dataDir) registry) (name : Bytes) :
    tableView dataDir registry name = rebuiltView dataDir name := by
  unfold tableView
  cases hentry : entryOf registry name with
  | none => rfl
  | some entry =>
      cases hloaded : entry.loaded with
      | false => exact entryView_of_unloaded hloaded
      | true =>
          rcases h name entry hentry hloaded with
            ⟨file, rows, hfile, hne, hrows, htree, hnext⟩
          simp only
          rw [entryView_of_loaded hloaded]
          unfold rebuiltView
          rw [scanRowsCsv_rebuild hfile hne hrows, htree, hnext]

theorem sameAnswers_startState {state : EngineState}
    (hcurrent : RegistryHolds (EntryCurrent state.dataDir) state.index.registry)
    (hhook : state.index.forceNextRegisterFailure = false) :
    SameAnswers (startState state.dataDir) state where
  dataDir := rfl
  hook := hhook.symm
  views := fun name => (tableView_of_current hcurrent name).symm

/-!
## Lifetimes of the program
-/

/-- A statement of the parser, and the write that fails in it if one does. -/
structure Request where
  statement : Statement
  text : statement.ValuesNulFree
  append : Option AppendFault

/-- The request as a run of the executor takes it. -/
def Request.pair (request : Request) : Statement × Option AppendFault :=
  (request.statement, request.append)

/-- The request among the events that may happen to a table. -/
def Request.event (request : Request) : TableEvent :=
  .statement request.statement request.text { memory := none, append := request.append }

/-- Runs of the program, each of which finds the files that the last one has left. -/
def runLifetimes (schemaDir : SchemaDir) :
    List (List Request) -> DataDir -> DataDir × List Outcome
  | [], dataDir => (dataDir, [])
  | requests :: lifetimes, dataDir =>
      let run := runStatements schemaDir (requests.map Request.pair) (startState dataDir)
      let rest := runLifetimes schemaDir lifetimes run.1.dataDir
      (rest.1, run.2 ++ rest.2)

section Runs

variable {schemaDir : SchemaDir}

theorem runStatements_append (first second : List (Statement × Option AppendFault))
    (state : EngineState) :
    runStatements schemaDir (first ++ second) state =
      ((runStatements schemaDir second (runStatements schemaDir first state).1).1,
        (runStatements schemaDir first state).2 ++
          (runStatements schemaDir second (runStatements schemaDir first state).1).2) := by
  induction first generalizing state with
  | nil => rfl
  | cons request first ih =>
      rcases request with ⟨statement, append⟩
      simp only [List.cons_append, runStatements, ih]

theorem runStatements_events (requests : List Request) (state : EngineState) :
    (runStatements schemaDir (requests.map Request.pair) state).1 =
      runEvents schemaDir state (requests.map Request.event) := by
  induction requests generalizing state with
  | nil => rfl
  | cons request requests ih =>
      show (runStatements schemaDir (requests.map Request.pair) _).1 = _
      rw [ih]
      rfl

theorem executeStatement_hook {statement : Statement} {faults : Faults}
    {state : EngineState} (h : state.index.forceNextRegisterFailure = false) :
    (executeStatement schemaDir statement faults state).1.index.forceNextRegisterFailure =
      false := by
  cases hread : readSchema schemaDir (namedTable statement) with
  | error text =>
      have hkeeps : KeepsOthers [] state
          (executeStatement schemaDir statement faults state).1 :=
        executeStatement_keepsOthers fun schema hschema => by
          rw [hread] at hschema
          cases hschema
      exact hkeeps.hook h
  | ok schema => exact (executeStatement_keepsOthers (storageName_of_read hread)).hook h

theorem runStatements_hook (requests : List (Statement × Option AppendFault))
    {state : EngineState} (h : state.index.forceNextRegisterFailure = false) :
    (runStatements schemaDir requests state).1.index.forceNextRegisterFailure = false := by
  induction requests generalizing state with
  | nil => exact h
  | cons request requests ih => exact ih (executeStatement_hook h)

theorem runLifetimes_eq (lifetimes : List (List Request)) {state : EngineState}
    (hcurrent : RegistryHolds (EntryCurrent state.dataDir) state.index.registry)
    (hhook : state.index.forceNextRegisterFailure = false)
    (happends : RunAppendsOneRow schemaDir state (lifetimes.flatten.map Request.event)) :
    runLifetimes schemaDir lifetimes state.dataDir =
      ((runStatements schemaDir (lifetimes.flatten.map Request.pair) state).1.dataDir,
        (runStatements schemaDir (lifetimes.flatten.map Request.pair) state).2) := by
  induction lifetimes generalizing state with
  | nil => rfl
  | cons requests lifetimes ih =>
      rw [List.flatten_cons, List.map_append, runAppendsOneRow_append] at happends
      rw [List.flatten_cons, List.map_append, runStatements_append]
      rcases runStatements_sameAnswers schemaDir (requests.map Request.pair)
        (sameAnswers_startState hcurrent hhook) with ⟨hresults, hafter⟩
      have hstate := (runEvents_current hcurrent happends.1).1
      have hrest := happends.2
      rw [← runStatements_events] at hstate hrest
      have hmore := ih hstate (runStatements_hook _ hhook) hrest
      unfold runLifetimes
      simp only [hresults, hafter.dataDir, hmore]

end Runs

/--
Restarts do not show: a history of statements whose appends leave one row each or
nothing, whichever of its writes fail, has the same results, output and ids and leaves the same files wherever the
program was ended and started again in between.
-/
theorem restarts_do_not_show (schemaDir : SchemaDir) (dataDir : DataDir)
    (lifetimes : List (List Request))
    (happends : RunAppendsOneRow schemaDir (startState dataDir)
      (lifetimes.flatten.map Request.event)) :
    runLifetimes schemaDir lifetimes dataDir =
      ((runStatements schemaDir (lifetimes.flatten.map Request.pair)
          (startState dataDir)).1.dataDir,
        (runStatements schemaDir (lifetimes.flatten.map Request.pair)
          (startState dataDir)).2) :=
  runLifetimes_eq lifetimes (startState_registry dataDir) rfl happends

def insertOfValue (value : Bytes) (h : NulFree value) : Request :=
  { statement := .insertStatement (sampleInsert value)
    text := sampleInsert_nulFree h
    append := none }

theorem restarts_do_not_show_sample :
    runLifetimes sampleSchemaDir
        [[insertOfValue (ascii "a") (by decide)], [],
          [insertOfValue (ascii "b,c") (by decide)]] sampleDataDir =
      ((runStatements sampleSchemaDir
          [(insertOfValue (ascii "a") (by decide)).pair,
            (insertOfValue (ascii "b,c") (by decide)).pair]
          (startState sampleDataDir)).1.dataDir,
        (runStatements sampleSchemaDir
          [(insertOfValue (ascii "a") (by decide)).pair,
            (insertOfValue (ascii "b,c") (by decide)).pair]
          (startState sampleDataDir)).2) := by
  have hfirst := @sampleEvent_appendsOneRow (ascii "a") (by decide) (by decide)
  have hsecond := @sampleEvent_appendsOneRow (ascii "b,c") (by decide) (by decide)
  exact restarts_do_not_show sampleSchemaDir sampleDataDir
    [[insertOfValue (ascii "a") (by decide)], [], [insertOfValue (ascii "b,c") (by decide)]]
    ⟨hfirst _, hsecond _, trivial⟩

end Execution
end SqlCsvServer
