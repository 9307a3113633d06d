import SqlCsvServer.Execution.InsertRow
import SqlCsvServer.Execution.Select
import SqlCsvServer.Index.Rebuild
import SqlCsvServer.Storage.AppendFaults

/-!
# Runs of statements and the index they leave

An INSERT keeps the index up to date by hand; a rebuild reads it off the file.
As long as every append leaves one line for the readers if it reports success, and
nothing of its row if it fails, the two agree in every state of a run.
-/

namespace SqlCsvServer
namespace Execution

open Foundation Common Storage Index Sql

/-!
## Runs
-/

/-- What can happen to the tables of one data directory. -/
inductive TableEvent where
  | statement (statement : Statement) (text : statement.ValuesNulFree)
      (faults : Faults)
  | forceNextRegisterFailure
  | invalidate (tableName : Bytes)
  | runtimeReset

def applyEvent (schemaDir : SchemaDir) (state : EngineState) :
    TableEvent -> EngineState
  | .statement statement _ faults =>
      (executeStatement schemaDir statement faults state).1
  | .forceNextRegisterFailure =>
      { state with index := tableIndexForceNextRegisterFailure state.index }
  | .invalidate tableName =>
      { state with index := tableIndexInvalidate state.index tableName }
  | .runtimeReset => executionRuntimeReset state

/-- The state after a list of events. -/
def runEvents (schemaDir : SchemaDir) (state : EngineState)
    (events : List TableEvent) : EngineState :=
  events.foldl (applyEvent schemaDir) state

/-- The INSERT has its id and its row when it comes to the append. -/
structure ReachesAppend (schemaDir : SchemaDir) (statement : InsertStatement)
    (faults : Faults) (state : EngineState) (schema : Schema)
    (index : IndexState) (id : Int) (available : Option Nat)
    (rowValues : List Bytes) : Prop where
  schema_loaded :
    loadSchema schemaDir state.dataDir statement.tableName = .ok schema
  columns_valid : validateInsertColumns statement schema = none
  id_found :
    tableIndexGetNextId state.dataDir schema state.index faults.memory =
      (index, .ok id, available)
  row_built : buildInsertRow statement schema = .ok rowValues

/-- An INSERT that comes to the append of an open file appends one row or nothing. -/
def InsertAppendsOneRow (schemaDir : SchemaDir) (statement : InsertStatement)
    (faults : Faults) (state : EngineState) : Prop :=
  forall schema index id available rowValues contents,
    ReachesAppend schemaDir statement faults state schema index id available
        rowValues ->
      state.dataDir.files schema.storageName =
          .ok { contents := contents, updateError := none } ->
        AppendsOneRow contents rowValues faults.append

def EventAppendsOneRow (schemaDir : SchemaDir) (state : EngineState) :
    TableEvent -> Prop
  | .statement (.insertStatement statement) _ faults =>
      InsertAppendsOneRow schemaDir statement faults state
  | _ => True

/-- The condition on every event of a run, each in the state it meets. -/
def RunAppendsOneRow (schemaDir : SchemaDir) :
    EngineState -> List TableEvent -> Prop
  | _, [] => True
  | state, event :: events =>
      EventAppendsOneRow schemaDir state event ∧
        RunAppendsOneRow schemaDir (applyEvent schemaDir state event) events

/-!
## Data directories that only grow
-/

def FileGrows (old new : Except Errno CsvFile) : Prop :=
  match old with
  | .error errno => new = .error errno
  | .ok file =>
      exists contents,
        new = .ok { file with contents := contents } ∧
          Grows file.contents contents

def DataGrows (old new : DataDir) : Prop :=
  forall name, FileGrows (old.files name) (new.files name)

theorem dataGrows_refl (dataDir : DataDir) : DataGrows dataDir dataDir := by
  intro name
  unfold FileGrows
  split
  · assumption
  · rename_i file hfile
    exact ⟨file.contents, hfile, grows_refl _⟩

theorem dataGrows_trans {a b c : DataDir} (hab : DataGrows a b)
    (hbc : DataGrows b c) : DataGrows a c := by
  intro name
  have hleft := hab name
  have hright := hbc name
  unfold FileGrows at hleft hright ⊢
  cases hfile : a.files name with
  | error errno =>
      simp only [hfile] at hleft
      simp only [hleft] at hright
      exact hright
  | ok file =>
      simp only [hfile] at hleft
      rcases hleft with ⟨contents, hb, hgrow⟩
      simp only [hb] at hright
      rcases hright with ⟨contents', hc, hgrow'⟩
      exact ⟨contents', hc, grows_trans hgrow hgrow'⟩

theorem dataGrows_write {dataDir : DataDir} {name contents : Bytes}
    {file : CsvFile} (hfile : dataDir.files name = .ok file)
    (hgrow : Grows file.contents contents) :
    DataGrows dataDir (dataDir.write name contents) := by
  intro other
  unfold FileGrows DataDir.write
  by_cases hother : other = name
  · subst hother
    simp only [hfile, if_true]
    exact ⟨contents, rfl, hgrow⟩
  · simp only [hother, if_false]
    exact dataGrows_refl dataDir other

/-!
## One INSERT
-/

structure ReadyToAppend (state : EngineState) (schema : Schema) (nextId : Int)
    (row : List Bytes) (file : CsvFile) (slot : Nat) (entry : TableIndex) :
    Prop where
  file_found : state.dataDir.files schema.storageName = .ok file
  file_ne_nil : file.contents ≠ []
  row_ne_nil : row ≠ []
  row_text : forall value, value ∈ row ->
    NulFree value ∧ value.any isLineEnding = false
  row_length : row.length = schema.columns.length
  entry_found :
    findTableIndex state.index.registry.items schema.storageName =
      some (slot, entry)
  entry_loaded : entry.loaded = true
  entry_nextId : entry.nextId = nextId

section Insert

variable {schemaDir : SchemaDir} {statement : InsertStatement}
  {faults : Faults} {state : EngineState}

/--
The ways an INSERT ends: it leaves the files alone, or it reaches the append
with the id of a loaded entry.
-/
theorem executeInsert_cases (schemaDir : SchemaDir) (faults : Faults)
    (hnul : statement.ValuesNulFree)
    {P : Bytes -> TableIndex -> Prop} (hP : EntryInvariant state.dataDir P)
    (hregistry : RegistryHolds P state.index.registry) :
    ((executeInsert schemaDir statement faults state).2.ok = false ∧
        (executeInsert schemaDir statement faults state).1.dataDir =
          state.dataDir ∧
        RegistryHolds P
          (executeInsert schemaDir statement faults state).1.index.registry) ∨
      exists (schema : Schema) (index : IndexState) (nextId : Int)
          (available : Option Nat) (file : CsvFile) (slot : Nat)
          (entry : TableIndex),
        ReachesAppend schemaDir statement faults state schema index nextId available
            (expectedRow statement schema) ∧
          RegistryHolds P index.registry ∧
          ReadyToAppend { state with index := index } schema nextId
            (expectedRow statement schema) file slot entry ∧
          executeInsert schemaDir statement faults state =
            appendAndRegister schema nextId (expectedRow statement schema)
              faults.append { state with index := index } available := by
  unfold executeInsert
  cases hschema : loadSchema schemaDir state.dataDir statement.tableName with
  | error text => exact Or.inl ⟨rfl, rfl, hregistry⟩
  | ok schema =>
      simp only
      cases hvalid : validateInsertColumns statement schema with
      | some text => exact Or.inl ⟨rfl, rfl, hregistry⟩
      | none =>
          simp only
          rcases hnext :
              tableIndexGetNextId state.dataDir schema state.index
                faults.memory with
            ⟨index, result, available⟩
          rcases tableIndexGetNextId_cases hP hregistry hnext with
            ⟨hindex, _, hid⟩
          cases result with
          | error text => exact Or.inl ⟨rfl, rfl, hindex⟩
          | ok nextId =>
              simp only
              cases hrow : buildInsertRow statement schema with
              | error text => exact Or.inl ⟨rfl, rfl, hindex⟩
              | ok row =>
                  have hexpected := buildInsertRow_eq_expectedRow hrow
                  subst hexpected
                  rcases loadSchema_eq_ok_iff.mp hschema with ⟨hread, hheader⟩
                  rcases contents_of_validateCsvHeader hheader with
                    ⟨file, hfile, hne, _⟩
                  rcases hid nextId rfl with ⟨slot, entry, hfound, hloaded, heq⟩
                  refine Or.inr ⟨schema, index, nextId, available, file, slot,
                    entry, ⟨hschema, hvalid, hnext, hrow⟩, hindex, ?_, rfl⟩
                  exact
                    { file_found := hfile
                      file_ne_nil := hne
                      row_ne_nil := expectedRow_ne_nil (readSchema_accepted hread)
                      row_text := expectedRow_text hvalid hnul
                      row_length := expectedRow_length
                      entry_found := hfound
                      entry_loaded := hloaded
                      entry_nextId := heq }

end Insert

section Append

variable {state : EngineState} {schema : Schema} {nextId : Int}
  {row : List Bytes} {file : CsvFile} {slot : Nat} {entry : TableIndex}
  {append : Option AppendFault} {available : Option Nat}

theorem dataDir_write_files (dataDir : DataDir) (name contents : Bytes)
    {file : CsvFile} (hfile : dataDir.files name = .ok file) (other : Bytes) :
    (dataDir.write name contents).files other =
      if other = name then .ok { file with contents := contents }
      else dataDir.files other := by
  unfold DataDir.write
  by_cases hother : other = name
  · simp [hother, hfile]
  · simp [hother]

theorem entryCurrent_write_other {dataDir : DataDir} {name contents : Bytes}
    {file : CsvFile} (hfile : dataDir.files name = .ok file) {other : Bytes}
    (hother : other ≠ name) {entry : TableIndex}
    (h : EntryCurrent dataDir other entry) :
    EntryCurrent (dataDir.write name contents) other entry := by
  unfold EntryCurrent at h ⊢
  rw [dataDir_write_files dataDir name contents hfile, if_neg hother]
  exact h

theorem appendAndRegister_refused {errno : Errno}
    (hready : ReadyToAppend state schema nextId row file slot entry)
    (hrefused : file.updateError = some errno) :
    (appendAndRegister schema nextId row append state available).1 = state ∧
      (appendAndRegister schema nextId row append state available).2.ok =
        false := by
  unfold appendAndRegister appendRowCsv openTableFileForUpdate
  rw [hready.file_found]
  simp only [hrefused]
  exact ⟨rfl, rfl⟩

def appendedDir (state : EngineState) (schema : Schema) (row : List Bytes)
    (file : CsvFile) (append : Option AppendFault) : DataDir :=
  state.dataDir.write schema.storageName
    (appendRow file.contents row append).1

theorem appendAndRegister_open
    (hready : ReadyToAppend state schema nextId row file slot entry)
    (hopen : file.updateError = none) :
    appendAndRegister schema nextId row append state available =
      if (appendRow file.contents row append).2.ok then
        match tableIndexRegisterRow
            (appendedDir state schema row file append) schema nextId
            (appendRow file.contents row append).2.rowOffset state.index
            available with
        | (index, some text, _) =>
            ({ dataDir := appendedDir state schema row file append
               index := tableIndexInvalidate index schema.storageName },
              { ok := false, affectedRows := 0, message := text })
        | (index, none, _) =>
            ({ dataDir := appendedDir state schema row file append
               index := index },
              { ok := true
                affectedRows :=
                  (appendRow file.contents row append).2.affectedRows
                message := (appendRow file.contents row append).2.message })
      else
        ({ state with dataDir := appendedDir state schema row file append },
          execError (appendRow file.contents row append).2.message) := by
  unfold appendAndRegister appendRowCsv openTableFileForUpdate
  rw [hready.file_found]
  simp only [hopen]
  rfl

theorem storedRow_bytes
    (hrow : forall value, value ∈ row -> NulFree value ∧ value.any isLineEnding = false)
    (contents : Bytes) (append : Option AppendFault) :
    forall b, b ∈ storedRow contents row append ->
      b ≠ Byte.nul ∧ isLineEnding b = false :=
  fun b hb => csvRow_bytes hrow b ((storedRow_starts append).subset hb)

theorem registerRow_current
    (hready : ReadyToAppend state schema nextId row file slot entry)
    (hcurrent :
      RegistryHolds (EntryCurrent state.dataDir) state.index.registry)
    {text : Bytes} {fields : List Bytes}
    (htext : forall b, b ∈ text -> b ≠ Byte.nul ∧ isLineEnding b = false)
    (hone : OneRow text fields) {dataDir : DataDir}
    (hdataDir : dataDir = state.dataDir.write schema.storageName
      (file.contents ++ lineSeparator file.contents ++ text))
    {index : IndexState} {result : Option Bytes} {left : Option Nat}
    (h :
      tableIndexRegisterRow dataDir schema nextId
          (file.contents ++ lineSeparator file.contents).length state.index
          available =
        (index, result, left)) :
    (result = none ->
        RegistryHolds (EntryCurrent dataDir) index.registry) ∧
      RegistryHolds (EntryCurrent dataDir)
        (tableIndexInvalidate index schema.storageName).registry := by
  have hfiles := dataDir_write_files state.dataDir schema.storageName
    (file.contents ++ lineSeparator file.contents ++ text)
    hready.file_found
  rw [← hready.entry_nextId] at h
  refine tableIndexRegisterRow_holds hready.entry_found hready.entry_loaded ?_
    (fun unloaded => (entryCurrent_invariant dataDir).unloaded _ unloaded) ?_ h
  · intro other held hother hheld
    rw [hdataDir]
    exact entryCurrent_write_other hready.file_found hother
      (hcurrent other held hheld)
  · intro _ _
    rcases hcurrent schema.storageName entry
        (by simp [entryOf, hready.entry_found]) hready.entry_loaded with
      ⟨found, rows, hfound, _, hrows, htree, hnext⟩
    rw [hready.file_found, Except.ok.injEq] at hfound
    subst hfound
    have hlines := dataLines_append_row hready.file_ne_nil htext hone
    have hfile := hfiles schema.storageName
    rw [if_pos rfl] at hfile
    have hparse := parseLines_append_row hready.file_ne_nil htext hone hrows
    refine ⟨_, _, by rw [hdataDir]; exact hfile, by simp [hready.file_ne_nil],
      hparse, ?_, ?_⟩
    · rw [hlines, treeOfRows_append_one, ← htree, ← hnext]
      rfl
    · rw [hlines]
      simp only [registeredEntry, nextIdOfRows, List.length_append,
        List.length_singleton]
      rw [hnext, nextIdOfRows]
      push_cast
      ring

theorem entryCurrent_write_separator {dataDir : DataDir} {name gained : Bytes}
    {file : CsvFile} (hfile : dataDir.files name = .ok file)
    (hgained : gained <+: lineSeparator file.contents) {other : Bytes}
    {entry : TableIndex} (h : EntryCurrent dataDir other entry) :
    EntryCurrent (dataDir.write name (file.contents ++ gained)) other entry := by
  by_cases hother : other = name
  · intro hloaded
    rcases h hloaded with ⟨found, rows, hfound, hne, hrows, htree, hnext⟩
    rw [hother, hfile, Except.ok.injEq] at hfound
    subst hfound
    have hfiles := dataDir_write_files dataDir name (file.contents ++ gained)
      hfile other
    rw [if_pos hother] at hfiles
    have hlines : dataLines (file.contents ++ gained) = dataLines file.contents :=
      (dataLines_append_separator hne hgained).2
    exact ⟨_, rows, hfiles, by simp [hne], by rw [hlines]; exact hrows,
      by rw [hlines]; exact htree, by rw [hlines]; exact hnext⟩
  · exact entryCurrent_write_other hfile hother h

theorem appendAndRegister_current
    (hready : ReadyToAppend state schema nextId row file slot entry)
    (hcurrent :
      RegistryHolds (EntryCurrent state.dataDir) state.index.registry)
    (happends : file.updateError = none -> AppendsOneRow file.contents row append) :
    RegistryHolds
        (EntryCurrent
          (appendAndRegister schema nextId row append state available).1.dataDir)
        (appendAndRegister schema nextId row append state
          available).1.index.registry ∧
      DataGrows state.dataDir
        (appendAndRegister schema nextId row append state
          available).1.dataDir := by
  cases hupdate : file.updateError with
  | some errno =>
      rw [(appendAndRegister_refused hready hupdate).1]
      exact ⟨hcurrent, dataGrows_refl _⟩
  | none =>
      rw [appendAndRegister_open hready hupdate]
      rcases appendRow_outcome (happends hupdate) with
        ⟨hok, hoffset, hcontents, fields, hone⟩ | ⟨hfailed, gained, hgained, hcontents⟩
      · rw [if_pos hok, hoffset]
        have htext := storedRow_bytes hready.row_text file.contents append
        have hdir : appendedDir state schema row file append =
            state.dataDir.write schema.storageName
              (file.contents ++ lineSeparator file.contents ++
                storedRow file.contents row append) := by
          rw [appendedDir, hcontents]
        have hgrows : DataGrows state.dataDir
            (appendedDir state schema row file append) := by
          rw [hdir]
          exact dataGrows_write hready.file_found (grows_row htext hone)
        rcases hregister :
            tableIndexRegisterRow (appendedDir state schema row file append)
              schema nextId
              (file.contents ++ lineSeparator file.contents).length state.index
              available with
          ⟨index, _ | text, left⟩
        · exact ⟨(registerRow_current hready hcurrent htext hone hdir hregister).1 rfl,
            hgrows⟩
        · exact ⟨(registerRow_current hready hcurrent htext hone hdir hregister).2,
            hgrows⟩
      · rw [if_neg (by simp [hfailed])]
        have hdir : appendedDir state schema row file append =
            state.dataDir.write schema.storageName (file.contents ++ gained) := by
          rw [appendedDir, hcontents]
        simp only [hdir]
        refine ⟨fun name held hheld => ?_,
          dataGrows_write hready.file_found (grows_separator hgained)⟩
        exact entryCurrent_write_separator hready.file_found hgained
          (hcurrent name held hheld)

end Append

/-!
## One event
-/

section Event

variable {schemaDir : SchemaDir} {state : EngineState}

theorem executeInsert_current {statement : InsertStatement} {faults : Faults}
    (hnul : statement.ValuesNulFree)
    (hcurrent : RegistryHolds (EntryCurrent state.dataDir) state.index.registry)
    (happends : InsertAppendsOneRow schemaDir statement faults state) :
    RegistryHolds
        (EntryCurrent
          (executeInsert schemaDir statement faults state).1.dataDir)
        (executeInsert schemaDir statement faults state).1.index.registry ∧
      DataGrows state.dataDir
        (executeInsert schemaDir statement faults state).1.dataDir := by
  rcases executeInsert_cases schemaDir faults hnul
      (entryCurrent_invariant state.dataDir) hcurrent with
    ⟨_, hdir, hregistry⟩ |
      ⟨schema, index, nextId, available, file, slot, entry, hreached, hindex, hready,
        heq⟩
  · rw [hdir]
    exact ⟨hregistry, dataGrows_refl _⟩
  · rw [heq]
    refine appendAndRegister_current hready hindex fun hopen => ?_
    refine happends schema index nextId available _ file.contents hreached ?_
    rw [← hopen]
    exact hready.file_found

theorem selectTable_state (schemaDir : SchemaDir)
    (statement : SelectStatement) (memory : Option Nat)
    {P : Bytes -> TableIndex -> Prop} (hP : EntryInvariant state.dataDir P)
    (hregistry : RegistryHolds P state.index.registry) :
    (selectTable schemaDir statement memory state).1.dataDir = state.dataDir ∧
      RegistryHolds P
        (selectTable schemaDir statement memory state).1.index.registry := by
  unfold selectTable
  split
  · exact ⟨rfl, hregistry⟩
  · rename_i schema _
    split
    · exact ⟨rfl, hregistry⟩
    · exact ⟨rfl, hregistry⟩
    · simp only
      split
      · exact ⟨rfl, hregistry⟩
      · split
        · simp only
          unfold indexSelectRows
          split
          · exact ⟨rfl, hregistry⟩
          · rename_i whereId _
            rcases hfind :
                tableIndexFindRow state.dataDir schema whereId state.index memory
              with ⟨index, result, left⟩
            have hindex := tableIndexFindRow_holds hP hregistry hfind
            rcases result with text | _ | rowOffset
            · exact ⟨rfl, hindex⟩
            · exact ⟨rfl, hindex⟩
            · exact ⟨rfl, hindex⟩
        · exact ⟨rfl, hregistry⟩

theorem applyEvent_current {event : TableEvent}
    (hcurrent : RegistryHolds (EntryCurrent state.dataDir) state.index.registry)
    (happends : EventAppendsOneRow schemaDir state event) :
    RegistryHolds
        (EntryCurrent (applyEvent schemaDir state event).dataDir)
        (applyEvent schemaDir state event).index.registry ∧
      DataGrows state.dataDir (applyEvent schemaDir state event).dataDir := by
  cases event with
  | statement statement text faults =>
      cases statement with
      | insertStatement statement =>
          exact executeInsert_current text hcurrent happends
      | selectStatement statement =>
          have hselect := selectTable_state schemaDir statement faults.memory
            (entryCurrent_invariant state.dataDir) hcurrent
          show RegistryHolds (EntryCurrent (selectTable ..).1.dataDir) _ ∧
            DataGrows _ (selectTable ..).1.dataDir
          rw [hselect.1]
          exact ⟨hselect.2, dataGrows_refl _⟩
  | forceNextRegisterFailure => exact ⟨hcurrent, dataGrows_refl _⟩
  | invalidate tableName =>
      refine ⟨tableIndexInvalidate_holds (fun other held _ => hcurrent other held)
        ?_, dataGrows_refl _⟩
      exact (entryCurrent_invariant state.dataDir).unloaded tableName
  | runtimeReset =>
      refine ⟨?_, dataGrows_refl _⟩
      intro name entry hentry
      simp [applyEvent, executionRuntimeReset, tableIndexRegistryReset, entryOf,
        findTableIndex] at hentry

end Event

/-!
## Whole runs
-/

section Run

variable {schemaDir : SchemaDir}

theorem runEvents_append (state : EngineState) (a b : List TableEvent) :
    runEvents schemaDir state (a ++ b) =
      runEvents schemaDir (runEvents schemaDir state a) b := by
  simp [runEvents]

theorem runAppendsOneRow_append {state : EngineState}
    {a b : List TableEvent} :
    RunAppendsOneRow schemaDir state (a ++ b) <->
      RunAppendsOneRow schemaDir state a ∧
        RunAppendsOneRow schemaDir (runEvents schemaDir state a) b := by
  induction a generalizing state with
  | nil => simp [RunAppendsOneRow, runEvents]
  | cons event a ih =>
      simp [RunAppendsOneRow, ih, runEvents, and_assoc]

theorem runEvents_current {events : List TableEvent} :
    forall {state : EngineState},
      RegistryHolds (EntryCurrent state.dataDir) state.index.registry ->
        RunAppendsOneRow schemaDir state events ->
          RegistryHolds
              (EntryCurrent (runEvents schemaDir state events).dataDir)
              (runEvents schemaDir state events).index.registry ∧
            DataGrows state.dataDir
              (runEvents schemaDir state events).dataDir := by
  induction events with
  | nil => exact fun hcurrent _ => ⟨hcurrent, dataGrows_refl _⟩
  | cons event events ih =>
      intro state hcurrent happends
      have hstep := applyEvent_current hcurrent happends.1
      have hrest := ih hstep.1 happends.2
      exact ⟨hrest.1, dataGrows_trans hstep.2 hrest.2⟩

/-- A program start: no table has an entry. -/
def startState (dataDir : DataDir) : EngineState :=
  { dataDir := dataDir, index := indexStateInit }

theorem startState_registry {P : Bytes -> TableIndex -> Prop}
    (dataDir : DataDir) :
    RegistryHolds P (startState dataDir).index.registry := by
  intro name entry hentry
  simp [startState, indexStateInit, entryOf, findTableIndex] at hentry

def rebuiltOffset (dataDir : DataDir) (name : Bytes) (id : Int) : Option Int :=
  bptreeSearch
    (scanRowsCsv dataDir name rebuildRow (rebuildStart none)).1.tree id

/-- A loaded entry agrees with a fresh rebuild of the file of its table. -/
def AgreesWithRebuild (dataDir : DataDir) (name : Bytes) (entry : TableIndex) :
    Prop :=
  scanRowsCsv dataDir name rebuildRow (rebuildStart none) =
      ({ tree := entry.tree, nextId := entry.nextId, available := none },
        none) ∧
    exists contents,
      dataDir.contents name = some contents ∧
        entry.nextId = (dataLines contents).length + 1 ∧
        forall id : Int,
          bptreeSearch entry.tree id =
            if 1 ≤ id then
              ((dataLines contents)[(id - 1).toNat]?).map
                (fun line => (line.1 : Int))
            else none

theorem agreesWithRebuild_of_current {dataDir : DataDir} {name : Bytes}
    {entry : TableIndex} (h : EntryCurrent dataDir name entry)
    (hloaded : entry.loaded = true) : AgreesWithRebuild dataDir name entry := by
  rcases h hloaded with ⟨file, rows, hfile, hne, hrows, htree, hnext⟩
  refine ⟨?_, file.contents, by simp [DataDir.contents, hfile], hnext, ?_⟩
  · rw [scanRowsCsv_rebuild hfile hne hrows, htree, hnext]
  · intro id
    rw [htree, bptreeSearch_treeOfRows]

/-- Every loaded entry of a state agrees with a rebuild. -/
def IndexAgrees (state : EngineState) : Prop :=
  forall name entry,
    entryOf state.index.registry name = some entry ->
      entry.loaded = true -> AgreesWithRebuild state.dataDir name entry

/-- A file that can be rebuilt still can, and its rows have the same ids. -/
def KeepsIds (old new : DataDir) : Prop :=
  forall name,
    (scanRowsCsv old name rebuildRow (rebuildStart none)).2 = none ->
      (scanRowsCsv new name rebuildRow (rebuildStart none)).2 = none ∧
        forall id offset, rebuiltOffset old name id = some offset ->
          rebuiltOffset new name id = some offset

/-- The id an INSERT gets from the index. -/
def assignedId (schemaDir : SchemaDir) (statement : InsertStatement)
    (faults : Faults) (state : EngineState) : Option Int :=
  match loadSchema schemaDir state.dataDir statement.tableName with
  | .error _ => none
  | .ok schema =>
      match tableIndexGetNextId state.dataDir schema state.index faults.memory with
      | (_, .error _, _) => none
      | (_, .ok nextId, _) => some nextId

/-- The id of an INSERT is no row's before it, and its own row's after it. -/
def TakesNewId (schemaDir : SchemaDir) (statement : InsertStatement)
    (faults : Faults) (state : EngineState) : Prop :=
  exists schema id contents,
    loadSchema schemaDir state.dataDir statement.tableName = .ok schema ∧
      assignedId schemaDir statement faults state = some id ∧
      state.dataDir.contents schema.storageName = some contents ∧
      rebuiltOffset state.dataDir schema.storageName id = none ∧
      rebuiltOffset (executeInsert schemaDir statement faults state).1.dataDir
          schema.storageName id =
        some ((contents ++ lineSeparator contents).length : Int)

theorem keepsIds_of_dataGrows {old new : DataDir} (hgrows : DataGrows old new) :
    KeepsIds old new := by
  intro name hscan
  rcases scanRowsCsv_rebuild_ok hscan with
    ⟨file, rows, hfile, hne, hrows, htree, _⟩
  have hfileGrows := hgrows name
  unfold FileGrows at hfileGrows
  simp only [hfile] at hfileGrows
  rcases hfileGrows with ⟨contents, hnew, hgrow⟩
  rcases hgrow.rows hne with ⟨more, fields, hlines, hfields⟩
  have hparse : parseLines (dataLines contents) = .ok (rows ++ fields) := by
    rw [hlines, parseLines_append hrows, hfields]
  have hrebuild := scanRowsCsv_rebuild hnew (hgrow.ne_nil hne) hparse
  refine ⟨by rw [hrebuild], ?_⟩
  intro id offset hoffset
  unfold rebuiltOffset at hoffset ⊢
  rw [htree, bptreeSearch_treeOfRows] at hoffset
  rw [hrebuild, bptreeSearch_treeOfRows]
  simp only [hlines]
  split at hoffset
  · rename_i hid
    rw [if_pos hid]
    rcases Option.map_eq_some_iff.mp hoffset with ⟨line, hline, hlineOffset⟩
    have hlt := (List.getElem?_eq_some_iff.mp hline).1
    rw [List.getElem?_append_left hlt, hline]
    exact congrArg some hlineOffset
  · simp at hoffset

theorem appendAndRegister_ok {state : EngineState} {schema : Schema}
    {nextId : Int} {row : List Bytes} {file : CsvFile} {slot : Nat}
    {entry : TableIndex} {append : Option AppendFault} {available : Option Nat}
    (hready : ReadyToAppend state schema nextId row file slot entry)
    (hok :
      (appendAndRegister schema nextId row append state available).2.ok = true) :
    (appendRow file.contents row append).2.ok = true ∧
      (bptreeInsert entry.tree nextId
        (appendRow file.contents row append).2.rowOffset none).Ok ∧
      (appendAndRegister schema nextId row append state available).1 =
        { dataDir := appendedDir state schema row file append
          index :=
            { state.index with
              registry :=
                writeEntry state.index.registry slot
                  (registeredEntry entry
                    (appendRow file.contents row append).2.rowOffset) } } := by
  cases hupdate : file.updateError with
  | some errno =>
      rw [(appendAndRegister_refused hready hupdate).2] at hok
      simp at hok
  | none =>
      rw [appendAndRegister_open hready hupdate] at hok ⊢
      by_cases happend : (appendRow file.contents row append).2.ok = true
      · rw [if_pos happend] at hok ⊢
        refine ⟨happend, ?_⟩
        rw [tableIndexRegisterRow_of_loaded hready.entry_found
          hready.entry_loaded] at hok ⊢
        by_cases hforced : state.index.forceNextRegisterFailure = true
        · rw [if_pos hforced] at hok
          simp at hok
        · rw [if_neg hforced] at hok ⊢
          simp only at hok ⊢
          rw [← hready.entry_nextId] at hok ⊢
          rcases hregister :
              registerInEntry entry entry.nextId
                (appendRow file.contents row append).2.rowOffset available with
            ⟨written, _ | text, left⟩
          · have hnone : (registerInEntry entry entry.nextId
                (appendRow file.contents row append).2.rowOffset
                available).2.1 = none := by
              rw [hregister]
            have hwritten := registerInEntry_ok hnone
            have hinsert := registerInEntry_inserted hnone
            rw [hregister] at hwritten
            simp only at hwritten
            exact ⟨hinsert, by simp only [hwritten]⟩
          · rw [hregister] at hok
            simp at hok
      · rw [if_neg happend] at hok
        simp [execError] at hok

theorem executeInsert_takesNewId {statement : InsertStatement}
    {faults : Faults} {state : EngineState} (hnul : statement.ValuesNulFree)
    (hcurrent : RegistryHolds (EntryCurrent state.dataDir) state.index.registry)
    (happends : InsertAppendsOneRow schemaDir statement faults state)
    (hok : (executeInsert schemaDir statement faults state).2.ok = true) :
    TakesNewId schemaDir statement faults state := by
  rcases executeInsert_cases schemaDir faults hnul
      (entryCurrent_invariant state.dataDir) hcurrent with
    ⟨hfailed, _⟩ |
      ⟨schema, index, nextId, available, file, slot, entry, hreached, hindex, hready,
        heq⟩
  · rw [hfailed] at hok
    simp at hok
  · have hfile := hready.file_found
    simp only at hfile
    have hcontents : state.dataDir.contents schema.storageName =
        some file.contents := by
      simp [DataDir.contents, hfile]
    have hentry : entryOf index.registry schema.storageName = some entry :=
      congrArg (Option.map Prod.snd) hready.entry_found
    rcases hindex schema.storageName entry hentry hready.entry_loaded with
      ⟨found, rows, hfound, hne, hrows, _, hid⟩
    rw [hfile, Except.ok.injEq] at hfound
    subst hfound
    rw [hready.entry_nextId] at hid
    unfold TakesNewId
    rw [heq] at hok ⊢
    rcases appendAndRegister_ok hready hok with ⟨happend, _, hafter⟩
    have hopen : file.updateError = none := by
      cases hupdate : file.updateError with
      | none => rfl
      | some errno =>
          rw [(appendAndRegister_refused hready hupdate).2] at hok
          cases hok
    have hone := happends schema index nextId available _ file.contents hreached
      (by rw [← hopen]; exact hfile)
    rcases appendRow_outcome hone with ⟨_, _, hnew, fields, hstored⟩ | ⟨hfailed, _⟩
    · have htext := storedRow_bytes hready.row_text file.contents faults.append
      refine ⟨schema, nextId, file.contents, hreached.schema_loaded, ?_, hcontents, ?_,
        ?_⟩
      · simp [assignedId, hreached.schema_loaded, hreached.id_found]
      · unfold rebuiltOffset
        rw [scanRowsCsv_rebuild hfile hne hrows, bptreeSearch_treeOfRows, hid]
        simp [nextIdOfRows]
      · have hlines := dataLines_append_row hne htext hstored
        have hparse := parseLines_append_row hne htext hstored hrows
        have hfiles := dataDir_write_files state.dataDir schema.storageName
          (file.contents ++ lineSeparator file.contents ++
            storedRow file.contents (expectedRow statement schema) faults.append) hfile
          schema.storageName
        rw [if_pos rfl] at hfiles
        have hdir : appendedDir { state with index := index } schema
            (expectedRow statement schema) file faults.append =
              state.dataDir.write schema.storageName
                (file.contents ++ lineSeparator file.contents ++
                  storedRow file.contents (expectedRow statement schema)
                    faults.append) := by
          rw [appendedDir, hnew]
        rw [hafter]
        unfold rebuiltOffset
        simp only [hdir]
        rw [scanRowsCsv_rebuild hfiles (by simp [hne]) hparse,
          bptreeSearch_treeOfRows, hid]
        simp only [hlines]
        simp [nextIdOfRows]
    · rw [happend] at hfailed
      simp at hfailed

end Run

/-!
## A row that is too long
-/

theorem runEvents_insert (schemaDir : SchemaDir) (statement : InsertStatement)
    (text : (Statement.insertStatement statement).ValuesNulFree)
    (faults : Faults) (state : EngineState) :
    runEvents schemaDir state
        [.statement (.insertStatement statement) text faults] =
      (executeInsert schemaDir statement faults state).1 := rfl

theorem index_disagrees_after_long_row {schemaDir : SchemaDir}
    {statement : InsertStatement} {memory : Option Nat} {state : EngineState}
    (hnul : statement.ValuesNulFree)
    (hcurrent : RegistryHolds (EntryCurrent state.dataDir) state.index.registry)
    {schema : Schema}
    (hschema :
      loadSchema schemaDir state.dataDir statement.tableName = .ok schema)
    (hlong : ¬ RowFits (expectedRow statement schema))
    (hok :
      (executeInsert schemaDir statement { memory := memory, append := none }
        state).2.ok = true) :
    exists entry,
      entryOf
          (executeInsert schemaDir statement
            { memory := memory, append := none } state).1.index.registry
          schema.storageName = some entry ∧
        entry.loaded = true ∧
        ¬ AgreesWithRebuild
          (executeInsert schemaDir statement
            { memory := memory, append := none } state).1.dataDir
          schema.storageName entry := by
  rcases executeInsert_cases schemaDir { memory := memory, append := none } hnul
      (entryCurrent_invariant state.dataDir) hcurrent with
    ⟨hfailed, _⟩ |
      ⟨found, index, nextId, available, file, slot, entry, hreached, hindex, hready,
        heq⟩
  · rw [hfailed] at hok
    simp at hok
  · have hfound := hreached.schema_loaded
    rw [hschema, Except.ok.injEq] at hfound
    subst hfound
    have hfile := hready.file_found
    simp only at hfile
    have hentry : entryOf index.registry schema.storageName = some entry :=
      congrArg (Option.map Prod.snd) hready.entry_found
    rcases hindex schema.storageName entry hentry hready.entry_loaded with
      ⟨other, rows, hother, hne, _, _, hid⟩
    rw [hfile, Except.ok.injEq] at hother
    subst hother
    rw [heq] at hok ⊢
    rcases appendAndRegister_ok hready hok with ⟨_, _, hafter⟩
    have hnew := (appendRow_ok (appendRow_noFault file.contents
      (expectedRow statement schema)) rfl).2
    have hname := findTableIndex_tableName hready.entry_found
    rw [hafter]
    refine ⟨registeredEntry entry
      (appendRow file.contents (expectedRow statement schema)
        none).2.rowOffset, ?_, hready.entry_loaded, ?_⟩
    · exact (@entryOf_writeEntry _ _ _ _ (registeredEntry entry _)
        hready.entry_found hname _).trans (if_pos rfl)
    · rintro ⟨_, contents, hcontents, hcount, _⟩
      have hfiles := dataDir_write_files state.dataDir schema.storageName
        (file.contents ++ lineSeparator file.contents ++
          csvRow (expectedRow statement schema)) hfile schema.storageName
      rw [if_pos rfl] at hfiles
      have hwritten : contents = file.contents ++ lineSeparator file.contents ++
          csvRow (expectedRow statement schema) := by
        simp only [appendedDir, hnew, DataDir.contents, hfiles,
          Option.some.injEq] at hcontents
        exact hcontents.symm
      have htext := csvRow_bytes hready.row_text
      have hrow := csvRow_ne_nil hready.row_ne_nil
      have hone := linesWritten_length_eq_one_iff hrow htext
        (file.contents ++ lineSeparator file.contents).length
      rw [hwritten, (dataLines_append hne _).2, List.length_append] at hcount
      rw [nextIdOfRows] at hid
      apply hlong
      apply hone.mp
      simp only [registeredEntry] at hcount
      push_cast at hcount
      omega

/-- A table `t` with the one column `name`. -/
def sampleSchemaDir : SchemaDir :=
  { path := ascii "schema"
    openFile := fun filename =>
      if filename = ascii "t.meta" then
        .ok (ascii "table=t\ncolumns=name\n")
      else .error .noEntry
    isRegular := fun _ => .error .noEntry
    entries := .ok [] }

/-- Its file without a row. -/
def sampleDataDir : DataDir :=
  { path := ascii "data"
    files := fun name =>
      if name = ascii "t" then
        .ok { contents := ascii "name\n", updateError := none }
      else .error .noEntry }

def sampleSchema : Schema :=
  { tableName := ascii "t"
    storageName := ascii "t"
    columns := [ascii "name"] }

def sampleInsert (value : Bytes) : InsertStatement :=
  { tableName := ascii "t", columns := [ascii "name"], values := [value] }

theorem sampleInsert_nulFree {value : Bytes} (h : NulFree value) :
    (Statement.insertStatement (sampleInsert value)).ValuesNulFree := by
  intro stored hstored
  rw [List.mem_singleton.mp hstored]
  exact h

theorem readSchema_sample :
    readSchema sampleSchemaDir (ascii "t") = .ok sampleSchema := by
  decide

/-- The INSERT of one value into the sample table. -/
def sampleEvent (value : Bytes) (h : NulFree value) : TableEvent :=
  .statement (.insertStatement (sampleInsert value)) (sampleInsert_nulFree h)
    noFaults

theorem sampleEvent_appendsOneRow {value : Bytes} (h : NulFree value)
    (hfits : RowFits (expectedRow (sampleInsert value) sampleSchema))
    (state : EngineState) :
    EventAppendsOneRow sampleSchemaDir state (sampleEvent value h) := by
  intro schema index id available rowValues contents hreached _
  have hread := (loadSchema_eq_ok_iff.mp hreached.schema_loaded).1
  have hsample := hread.symm.trans readSchema_sample
  rw [Except.ok.injEq] at hsample
  rw [buildInsertRow_eq_expectedRow hreached.row_built, hsample]
  exact
    { cut := fun _ hfault => nomatch hfault
      stored := fun _ => ⟨_, oneRow_csvRow (List.cons_ne_nil _ _) hfits⟩ }

def sampleTablesDir : SchemaDir :=
  { sampleSchemaDir with
    openFile := fun filename =>
      if filename = ascii "u.meta" then
        .ok (ascii "table=u\ncolumns=name,town\n")
      else sampleSchemaDir.openFile filename }

def sampleTablesData : DataDir :=
  { path := ascii "data"
    files := fun name =>
      if name = ascii "u" then
        .ok
          { contents := ascii "name,town\r\na,x\n\n\"b,c\",y"
            updateError := none }
      else sampleDataDir.files name }

def sampleTownSchema : Schema :=
  { tableName := ascii "u"
    storageName := ascii "u"
    columns := [ascii "name", ascii "town"] }

def sampleTownInsert : InsertStatement :=
  { tableName := ascii "u"
    columns := [ascii "town", ascii "name"]
    values := [ascii "z", ascii "d"] }

/-- A value of any length. -/
def repeatedValue (length : Nat) : Bytes :=
  List.replicate length 0x61

theorem repeatedValue_nulFree (length : Nat) :
    NulFree (repeatedValue length) := by
  intro h
  exact absurd (List.eq_of_mem_replicate h) (by decide)

/-- A value of 4096 bytes is one row for the index and two for a rebuild. -/
theorem index_disagrees_after_4096_bytes :
    exists entry,
      entryOf
          (runEvents sampleSchemaDir (startState sampleDataDir)
            [sampleEvent (repeatedValue 4096)
              (repeatedValue_nulFree 4096)]).index.registry
          sampleSchema.storageName = some entry ∧
        entry.loaded = true ∧
        ¬ AgreesWithRebuild
          (runEvents sampleSchemaDir (startState sampleDataDir)
            [sampleEvent (repeatedValue 4096)
              (repeatedValue_nulFree 4096)]).dataDir
          sampleSchema.storageName entry := by
  have hschema :
      loadSchema sampleSchemaDir (startState sampleDataDir).dataDir
          (sampleInsert (repeatedValue 4096)).tableName = .ok sampleSchema := by
    decide
  have hlong :
      ¬ RowFits
        (expectedRow (sampleInsert (repeatedValue 4096)) sampleSchema) := by
    decide +kernel
  have hok :
      (executeInsert sampleSchemaDir (sampleInsert (repeatedValue 4096))
        { memory := none, append := none }
        (startState sampleDataDir)).2.ok = true := by
    decide +kernel
  have hdisagrees := index_disagrees_after_long_row
    (sampleInsert_nulFree (repeatedValue_nulFree 4096))
    (startState_registry sampleDataDir) hschema hlong hok
  rw [sampleEvent, runEvents_insert, noFaults]
  exact hdisagrees

/-!
## The index and the file
-/

/--
In every state of a run whose appends leave one row each or nothing, a loaded entry is
what a rebuild of its file would give.  A later state keeps every id a rebuild gives now, and an
INSERT that succeeds takes an id that no row has and gives it to its own row.
-/
theorem index_agrees_with_rebuild (schemaDir : SchemaDir)
    (dataDir : DataDir) (events later : List TableEvent)
    (happends :
      RunAppendsOneRow schemaDir (startState dataDir) (events ++ later)) :
    IndexAgrees (runEvents schemaDir (startState dataDir) events) ∧
      KeepsIds (runEvents schemaDir (startState dataDir) events).dataDir
        (runEvents schemaDir (startState dataDir) (events ++ later)).dataDir ∧
      forall statement faults,
        statement.ValuesNulFree ->
          InsertAppendsOneRow schemaDir statement faults
              (runEvents schemaDir (startState dataDir) events) ->
            (executeInsert schemaDir statement faults
                (runEvents schemaDir (startState dataDir) events)).2.ok = true ->
              TakesNewId schemaDir statement faults
                (runEvents schemaDir (startState dataDir) events) := by
  rw [runAppendsOneRow_append] at happends
  have hstate := runEvents_current (startState_registry dataDir) happends.1
  have hfinal := runEvents_current hstate.1 happends.2
  refine ⟨?_, ?_, ?_⟩
  · intro name entry hentry hloaded
    exact agreesWithRebuild_of_current (hstate.1 name entry hentry) hloaded
  · rw [runEvents_append]
    exact keepsIds_of_dataGrows hfinal.2
  · intro statement faults hnul hrow hok
    exact executeInsert_takesNewId hnul hstate.1 hrow hok

theorem index_agrees_with_rebuild_sample :
    tableIndexIsLoaded
        (runEvents sampleSchemaDir (startState sampleDataDir)
          [sampleEvent (ascii "a") (by decide)]).index (ascii "t") = true ∧
      IndexAgrees
        (runEvents sampleSchemaDir (startState sampleDataDir)
          [sampleEvent (ascii "a") (by decide)]) ∧
      KeepsIds
        (runEvents sampleSchemaDir (startState sampleDataDir)
          [sampleEvent (ascii "a") (by decide)]).dataDir
        (runEvents sampleSchemaDir (startState sampleDataDir)
          [sampleEvent (ascii "a") (by decide),
            sampleEvent (ascii "b,c") (by decide)]).dataDir := by
  have hfirst := @sampleEvent_appendsOneRow (ascii "a") (by decide)
    (by decide)
  have hsecond := @sampleEvent_appendsOneRow (ascii "b,c") (by decide)
    (by decide)
  have hagree := index_agrees_with_rebuild sampleSchemaDir sampleDataDir
    [sampleEvent (ascii "a") (by decide)]
    [sampleEvent (ascii "b,c") (by decide)] ⟨hfirst _, hsecond _, trivial⟩
  exact ⟨by decide, hagree.1, hagree.2.1⟩

end Execution
end SqlCsvServer
