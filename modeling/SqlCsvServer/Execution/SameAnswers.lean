import SqlCsvServer.Execution.IndexRun
import SqlCsvServer.Index.View

/-!
# States that no statement can tell apart

Two states with the same files may differ in which entries are loaded.  As long
as both answer the same for every table, every statement gives the same result in
both and leaves them so.
-/

namespace SqlCsvServer
namespace Execution

open Foundation Common Storage Index Sql

/-!
## The index operations, seen through the answers
-/

section Operations

variable {dataDir : DataDir} {schema : Schema} {state after : IndexState}
  {available left : Option Nat}

theorem tableIndexGetNextId_view {result : Except Bytes Int}
    (h : tableIndexGetNextId dataDir schema state available =
      (after, result, left)) :
    (forall other,
        tableView dataDir after.registry other =
          tableView dataDir state.registry other) ∧
      after.forceNextRegisterFailure = state.forceNextRegisterFailure ∧
      forall id, result = .ok id ->
        exists slot entry,
          findTableIndex after.registry.items schema.storageName =
              some (slot, entry) ∧
            entry.loaded = true ∧
            tableView dataDir state.registry schema.storageName =
              .ok { tree := entry.tree, nextId := entry.nextId } ∧
            entry.nextId = id := by
  unfold tableIndexGetNextId at h
  rcases hload : ensureLoaded dataDir schema state.registry available with
    ⟨loaded, found, memory⟩
  have hview := ensureLoaded_view hload
  rw [hload] at h
  cases found with
  | error error =>
      simp only [Prod.mk.injEq] at h
      rcases h with ⟨rfl, rfl, _⟩
      exact ⟨hview.1, rfl, fun id hid => by cases hid⟩
  | ok found =>
      rcases found with ⟨slot, entry⟩
      simp only [Prod.mk.injEq] at h
      rcases h with ⟨rfl, rfl, _⟩
      refine ⟨hview.1, rfl, ?_⟩
      intro id hid
      rcases hview.2 slot entry rfl with ⟨hfound, hloaded, hanswer⟩
      exact ⟨slot, entry, hfound, hloaded, hanswer, by simpa using hid⟩

theorem tableIndexGetNextId_unlimited {result : Except Bytes Int}
    (h : tableIndexGetNextId dataDir schema state none = (after, result, left)) :
    result =
        (tableView dataDir state.registry schema.storageName).map
          TableView.nextId ∧
      forall id, result = .ok id -> left = none := by
  have hview := (tableIndexGetNextId_view h).2.2
  unfold tableIndexGetNextId at h
  rcases hload : ensureLoaded dataDir schema state.registry none with
    ⟨loaded, found, memory⟩
  have hunlimited := ensureLoaded_view_unlimited hload
  rw [hload] at h
  cases found with
  | error error =>
      simp only [Prod.mk.injEq] at h
      rcases h with ⟨_, rfl, _⟩
      rw [hunlimited.1 error rfl]
      exact ⟨rfl, fun id hid => by cases hid⟩
  | ok found =>
      simp only [Prod.mk.injEq] at h
      rcases h with ⟨_, rfl, rfl⟩
      rcases hview found.2.nextId rfl with ⟨slot, entry, _, _, hanswer, hid⟩
      rw [hanswer]
      constructor
      · rw [← hid]
        rfl
      · intro id _
        exact hunlimited.2 found rfl

theorem tableIndexFindRow_view {id : Int} {result : Except Bytes (Option Int)}
    (h : tableIndexFindRow dataDir schema id state available =
      (after, result, left)) :
    (forall other,
        tableView dataDir after.registry other =
          tableView dataDir state.registry other) ∧
      after.forceNextRegisterFailure = state.forceNextRegisterFailure := by
  unfold tableIndexFindRow at h
  rcases hload : ensureLoaded dataDir schema state.registry available with
    ⟨loaded, found, memory⟩
  have hview := ensureLoaded_view hload
  rw [hload] at h
  cases found with
  | error error =>
      simp only [Prod.mk.injEq] at h
      rcases h with ⟨rfl, _, _⟩
      exact ⟨hview.1, rfl⟩
  | ok found =>
      simp only [Prod.mk.injEq] at h
      rcases h with ⟨rfl, _, _⟩
      exact ⟨hview.1, rfl⟩

theorem tableIndexFindRow_of_view {id : Int}
    {result : Except Bytes (Option Int)}
    (h : tableIndexFindRow dataDir schema id state none =
      (after, result, left)) :
    result =
      (tableView dataDir state.registry schema.storageName).map
        fun view => bptreeSearch view.tree id := by
  unfold tableIndexFindRow at h
  rcases hload : ensureLoaded dataDir schema state.registry none with
    ⟨loaded, found, memory⟩
  have hview := ensureLoaded_view hload
  have hunlimited := ensureLoaded_view_unlimited hload
  rw [hload] at h
  cases found with
  | error error =>
      simp only [Prod.mk.injEq] at h
      rcases h with ⟨_, rfl, _⟩
      rw [hunlimited.1 error rfl]
      rfl
  | ok found =>
      rcases found with ⟨slot, entry⟩
      simp only [Prod.mk.injEq] at h
      rcases h with ⟨_, rfl, _⟩
      rw [(hview.2 slot entry rfl).2.2]
      rfl

theorem tableIndexInvalidate_view (state : IndexState) (name other : Bytes) :
    tableView dataDir (tableIndexInvalidate state name).registry other =
      if other = name then rebuiltView dataDir name
      else tableView dataDir state.registry other := by
  unfold tableIndexInvalidate
  cases hfound : findTableIndex state.registry.items name with
  | none =>
      by_cases hother : other = name
      · simp [hother, tableView, entryOf, hfound]
      · simp [hother]
  | some found =>
      rcases found with ⟨slot, entry⟩
      have hname : (unloadedTableIndex entry).tableName = name := by
        change entry.tableName = name
        exact findTableIndex_tableName hfound
      simp only
      rw [tableView_writeEntry hfound hname]
      by_cases hother : other = name
      · rw [if_pos hother, if_pos hother]
        exact entryView_of_unloaded rfl
      · rw [if_neg hother, if_neg hother]

theorem tableIndexInvalidate_hook (state : IndexState) (name : Bytes) :
    (tableIndexInvalidate state name).forceNextRegisterFailure =
      state.forceNextRegisterFailure := by
  unfold tableIndexInvalidate
  cases findTableIndex state.registry.items name <;> rfl

end Operations

theorem appendRowCsv_other (dataDir : DataDir) (name : Bytes)
    (rowValues : List Bytes) (append : Option AppendFault) :
    (appendRowCsv dataDir name rowValues append).1.path = dataDir.path ∧
      forall other, other ≠ name ->
        (appendRowCsv dataDir name rowValues append).1.files other =
          dataDir.files other := by
  unfold appendRowCsv
  cases openTableFileForUpdate dataDir name with
  | error text => exact ⟨rfl, fun _ _ => rfl⟩
  | ok contents =>
      refine ⟨rfl, ?_⟩
      intro other hother
      simp [DataDir.write, hother]

/-!
## States with the same answers
-/

structure SameAnswers (s t : EngineState) : Prop where
  dataDir : s.dataDir = t.dataDir
  hook : s.index.forceNextRegisterFailure = t.index.forceNextRegisterFailure
  views : forall name,
    tableView s.dataDir s.index.registry name =
      tableView t.dataDir t.index.registry name

theorem sameAnswers_refl (state : EngineState) : SameAnswers state state where
  dataDir := rfl
  hook := rfl
  views := fun _ => rfl

theorem SameAnswers.symm {s t : EngineState} (h : SameAnswers s t) :
    SameAnswers t s where
  dataDir := h.dataDir.symm
  hook := h.hook.symm
  views := fun name => (h.views name).symm

theorem SameAnswers.trans {r s t : EngineState} (hrs : SameAnswers r s)
    (hst : SameAnswers s t) : SameAnswers r t where
  dataDir := hrs.dataDir.trans hst.dataDir
  hook := hrs.hook.trans hst.hook
  views := fun name => (hrs.views name).trans (hst.views name)

theorem sameAnswers_getNextId {state : EngineState} {schema : Schema}
    {available left : Option Nat} {index : IndexState}
    {result : Except Bytes Int}
    (h : tableIndexGetNextId state.dataDir schema state.index available =
      (index, result, left)) :
    SameAnswers { state with index := index } state where
  dataDir := rfl
  hook := (tableIndexGetNextId_view h).2.1
  views := (tableIndexGetNextId_view h).1

theorem sameAnswers_findRow {state : EngineState} {schema : Schema} {id : Int}
    {available left : Option Nat} {index : IndexState}
    {result : Except Bytes (Option Int)}
    (h : tableIndexFindRow state.dataDir schema id state.index available =
      (index, result, left)) :
    SameAnswers { state with index := index } state where
  dataDir := rfl
  hook := (tableIndexFindRow_view h).2
  views := (tableIndexFindRow_view h).1

/-!
## INSERT
-/

section Insert

variable {s t : EngineState} {schema : Schema}

def LoadedEntry (state : EngineState) (name : Bytes) (slot : Nat)
    (entry : TableIndex) : Prop :=
  findTableIndex state.index.registry.items name = some (slot, entry) ∧
    entry.loaded = true

theorem LoadedEntry.view {state : EngineState} {name : Bytes} {slot : Nat}
    {entry : TableIndex} (h : LoadedEntry state name slot entry)
    (dataDir : DataDir) :
    tableView dataDir state.index.registry name =
      .ok { tree := entry.tree, nextId := entry.nextId } := by
  rw [tableView_of_find h.1, entryView_of_loaded h.2]

theorem sameAnswers_of_dataDir (h : SameAnswers s t)
    {slotS slotT : Nat} {entryS entryT : TableIndex}
    (hs : LoadedEntry s schema.storageName slotS entryS)
    (ht : LoadedEntry t schema.storageName slotT entryT)
    {dataDir : DataDir} (hpath : dataDir.path = s.dataDir.path)
    (hfiles : forall other, other ≠ schema.storageName ->
      dataDir.files other = s.dataDir.files other) :
    SameAnswers { s with dataDir := dataDir }
      { t with dataDir := dataDir } where
  dataDir := rfl
  hook := h.hook
  views := fun name => by
    by_cases hname : name = schema.storageName
    · rw [hname]
      have hview := h.views schema.storageName
      rw [hs.view, ht.view] at hview
      simp only [hs.view, ht.view, hview]
    · have hview := h.views name
      rw [← h.dataDir] at hview
      simp only
      rw [tableView_congr hpath (hfiles name hname) s.index.registry,
        tableView_congr hpath (hfiles name hname) t.index.registry, hview]

theorem registerRow_sameAnswers (h : SameAnswers s t) {slotS slotT : Nat}
    {entryS entryT : TableIndex}
    (hs : LoadedEntry s schema.storageName slotS entryS)
    (ht : LoadedEntry t schema.storageName slotT entryT) (id rowOffset : Int)
    {indexS indexT : IndexState} {resultS resultT : Option Bytes}
    {leftS leftT : Option Nat}
    (hregisterS : tableIndexRegisterRow s.dataDir schema id rowOffset s.index
      none = (indexS, resultS, leftS))
    (hregisterT : tableIndexRegisterRow t.dataDir schema id rowOffset t.index
      none = (indexT, resultT, leftT)) :
    resultS = resultT ∧
      indexS.forceNextRegisterFailure = indexT.forceNextRegisterFailure ∧
      (forall other, other ≠ schema.storageName ->
        tableView s.dataDir indexS.registry other =
          tableView t.dataDir indexT.registry other) ∧
      (resultS = none ->
        tableView s.dataDir indexS.registry schema.storageName =
          tableView t.dataDir indexT.registry schema.storageName) := by
  have hview := h.views schema.storageName
  rw [hs.view, ht.view, Except.ok.injEq, TableView.mk.injEq] at hview
  rw [tableIndexRegisterRow_of_loaded hs.1 hs.2] at hregisterS
  rw [tableIndexRegisterRow_of_loaded ht.1 ht.2, ← h.hook] at hregisterT
  by_cases hforced : s.index.forceNextRegisterFailure = true
  · rw [if_pos hforced, Prod.mk.injEq, Prod.mk.injEq] at hregisterS hregisterT
    rcases hregisterS with ⟨rfl, rfl, _⟩
    rcases hregisterT with ⟨rfl, rfl, _⟩
    exact ⟨rfl, rfl, fun other _ => h.views other, fun hnone => by cases hnone⟩
  · rw [if_neg hforced, Prod.mk.injEq] at hregisterS hregisterT
    rcases hregisterS with ⟨rfl, hpairS⟩
    rcases hregisterT with ⟨rfl, hpairT⟩
    have hnameS :=
      (@registerInEntry_tableName none entryS id rowOffset).trans
        (findTableIndex_tableName hs.1)
    have hnameT :=
      (@registerInEntry_tableName none entryT id rowOffset).trans
        (findTableIndex_tableName ht.1)
    have hsame :
        (registerInEntry entryS id rowOffset none).2.1 =
            (registerInEntry entryT id rowOffset none).2.1 ∧
          entryView s.dataDir schema.storageName
              (registerInEntry entryS id rowOffset none).1 =
            entryView t.dataDir schema.storageName
              (registerInEntry entryT id rowOffset none).1 := by
      unfold registerInEntry
      rw [hview.1, hview.2]
      cases herror : (bptreeInsert entryT.tree id rowOffset none).error with
      | none => simp [herror, entryView, hs.2, ht.2]
      | some error => simp [herror, entryView, hs.2, ht.2]
    refine ⟨?_, rfl, ?_, ?_⟩
    · have hresultS := congrArg Prod.fst hpairS
      have hresultT := congrArg Prod.fst hpairT
      exact hresultS.symm.trans (hsame.1.trans hresultT)
    · intro other hother
      simp only
      rw [tableView_writeEntry hs.1 hnameS, tableView_writeEntry ht.1 hnameT,
        if_neg hother, if_neg hother]
      exact h.views other
    · intro _
      simp only
      rw [tableView_writeEntry hs.1 hnameS, tableView_writeEntry ht.1 hnameT,
        if_pos rfl, if_pos rfl]
      exact hsame.2

theorem appendAndRegister_sameAnswers (h : SameAnswers s t) {slotS slotT : Nat}
    {entryS entryT : TableIndex}
    (hs : LoadedEntry s schema.storageName slotS entryS)
    (ht : LoadedEntry t schema.storageName slotT entryT) (nextId : Int)
    (rowValues : List Bytes) (append : Option AppendFault) :
    (appendAndRegister schema nextId rowValues append s none).2 =
        (appendAndRegister schema nextId rowValues append t none).2 ∧
      SameAnswers (appendAndRegister schema nextId rowValues append s none).1
        (appendAndRegister schema nextId rowValues append t none).1 := by
  have hother :=
    appendRowCsv_other s.dataDir schema.storageName rowValues append
  unfold appendAndRegister
  rw [← h.dataDir]
  rcases happend :
      appendRowCsv s.dataDir schema.storageName rowValues append with
    ⟨dataDir, storageResult⟩
  rw [happend] at hother
  have hafter := sameAnswers_of_dataDir h hs ht hother.1 hother.2
  by_cases hok : storageResult.ok = true
  · simp only [hok, if_true]
    rcases hregisterS : tableIndexRegisterRow dataDir schema nextId
        storageResult.rowOffset s.index none with
      ⟨indexS, resultS, leftS⟩
    rcases hregisterT : tableIndexRegisterRow dataDir schema nextId
        storageResult.rowOffset t.index none with
      ⟨indexT, resultT, leftT⟩
    rcases registerRow_sameAnswers hafter hs ht nextId storageResult.rowOffset
        hregisterS hregisterT with
      ⟨hresult, hhook, hothers, hsame⟩
    subst hresult
    cases resultS with
    | none =>
        refine ⟨rfl, ⟨rfl, hhook, ?_⟩⟩
        intro name
        by_cases hname : name = schema.storageName
        · rw [hname]
          exact hsame rfl
        · exact hothers name hname
    | some text =>
        refine ⟨rfl, ⟨rfl, ?_, ?_⟩⟩
        · simp only [tableIndexInvalidate_hook]
          exact hhook
        · intro name
          simp only [tableIndexInvalidate_view]
          by_cases hname : name = schema.storageName
          · rw [if_pos hname, if_pos hname]
          · rw [if_neg hname, if_neg hname]
            exact hothers name hname
  · simp only [hok]
    exact ⟨rfl, hafter⟩

theorem executeInsert_sameAnswers (h : SameAnswers s t)
    (schemaDir : SchemaDir) (statement : InsertStatement)
    (append : Option AppendFault) :
    (executeInsert schemaDir statement { memory := none, append := append }
          s).2 =
        (executeInsert schemaDir statement { memory := none, append := append }
          t).2 ∧
      SameAnswers
        (executeInsert schemaDir statement { memory := none, append := append }
          s).1
        (executeInsert schemaDir statement { memory := none, append := append }
          t).1 ∧
      assignedId schemaDir statement { memory := none, append := append } s =
        assignedId schemaDir statement { memory := none, append := append }
          t := by
  unfold executeInsert assignedId
  rw [← h.dataDir]
  cases loadSchema schemaDir s.dataDir statement.tableName with
  | error text => exact ⟨rfl, h, rfl⟩
  | ok schema =>
      simp only
      rcases hnextS : tableIndexGetNextId s.dataDir schema s.index none with
        ⟨indexS, resultS, leftS⟩
      rcases hnextT : tableIndexGetNextId s.dataDir schema t.index none with
        ⟨indexT, resultT, leftT⟩
      have hnextT' : tableIndexGetNextId t.dataDir schema t.index none =
          (indexT, resultT, leftT) := by
        rw [← h.dataDir]
        exact hnextT
      have hresult : resultS = resultT := by
        rw [(tableIndexGetNextId_unlimited hnextS).1,
          (tableIndexGetNextId_unlimited hnextT').1, h.views schema.storageName]
      have hsame : SameAnswers { s with index := indexS }
          { t with index := indexT } :=
        (sameAnswers_getNextId hnextS).trans
          (h.trans (sameAnswers_getNextId hnextT').symm)
      rw [h.dataDir.symm] at hsame
      subst hresult
      cases validateInsertColumns statement schema with
      | some text =>
          refine ⟨rfl, h, ?_⟩
          cases resultS <;> rfl
      | none =>
          cases resultS with
          | error text => exact ⟨rfl, hsame, rfl⟩
          | ok nextId =>
              simp only
              cases buildInsertRow statement schema with
              | error text => exact ⟨rfl, hsame, trivial⟩
              | ok rowValues =>
                  rcases (tableIndexGetNextId_view hnextS).2.2 nextId rfl with
                    ⟨slotS, entryS, hfoundS, hloadedS, _, _⟩
                  rcases (tableIndexGetNextId_view hnextT').2.2 nextId rfl with
                    ⟨slotT, entryT, hfoundT, hloadedT, _, _⟩
                  rw [(tableIndexGetNextId_unlimited hnextS).2 nextId rfl,
                    (tableIndexGetNextId_unlimited hnextT').2 nextId rfl]
                  have happend := appendAndRegister_sameAnswers hsame
                    (And.intro hfoundS hloadedS) (And.intro hfoundT hloadedT)
                    nextId rowValues append
                  rw [h.dataDir] at happend ⊢
                  exact ⟨happend.1, happend.2, trivial⟩

end Insert

/-!
## SELECT
-/

section Select

variable {s t : EngineState} {schemaDir : SchemaDir}

theorem selectTable_sameAnswers (schemaDir : SchemaDir)
    (statement : SelectStatement) (memory : Option Nat) (state : EngineState) :
    SameAnswers (selectTable schemaDir statement memory state).1 state := by
  unfold selectTable
  cases loadSchema schemaDir state.dataDir statement.tableName with
  | error text => exact sameAnswers_refl state
  | ok schema =>
      simp only
      cases buildSelectIndexes statement schema with
      | error text => exact sameAnswers_refl state
      | ok selected =>
          cases selected with
          | nil => exact sameAnswers_refl state
          | cons first more =>
              simp only
              cases resolveWhereIndex statement schema with
              | error text => exact sameAnswers_refl state
              | ok whereIndex =>
                  simp only
                  cases whereIdValue statement with
                  | none => exact sameAnswers_refl state
                  | some whereValue =>
                      simp only
                      unfold indexSelectRows
                      cases parseIntStrict whereValue with
                      | none => exact sameAnswers_refl state
                      | some whereId =>
                          simp only
                          rcases hfind : tableIndexFindRow state.dataDir schema
                              whereId state.index memory with
                            ⟨index, text | _ | rowOffset, left⟩
                          · exact sameAnswers_findRow hfind
                          · exact sameAnswers_findRow hfind
                          · exact sameAnswers_findRow hfind

/--
With unlimited memory a SELECT finds the same in two states with the same files
whose index answers the same for its table.
-/
theorem selectTable_of_view {statement : SelectStatement}
    (hdataDir : s.dataDir = t.dataDir)
    (hview : forall schema,
      loadSchema schemaDir s.dataDir statement.tableName = .ok schema ->
        tableView s.dataDir s.index.registry schema.storageName =
          tableView t.dataDir t.index.registry schema.storageName) :
    (selectTable schemaDir statement none s).2 =
      (selectTable schemaDir statement none t).2 := by
  unfold selectTable
  rw [← hdataDir]
  cases hschema : loadSchema schemaDir s.dataDir statement.tableName with
  | error text => rfl
  | ok schema =>
      simp only
      cases buildSelectIndexes statement schema with
      | error text => rfl
      | ok selected =>
          cases selected with
          | nil => rfl
          | cons first more =>
              simp only
              cases resolveWhereIndex statement schema with
              | error text => rfl
              | ok whereIndex =>
                  simp only
                  cases whereIdValue statement with
                  | none => rfl
                  | some whereValue =>
                      simp only
                      unfold indexSelectRows
                      rw [← hdataDir]
                      cases parseIntStrict whereValue with
                      | none => rfl
                      | some whereId =>
                          simp only
                          rcases hfindS : tableIndexFindRow s.dataDir schema
                              whereId s.index none with
                            ⟨indexS, resultS, leftS⟩
                          rcases hfindT : tableIndexFindRow s.dataDir schema
                              whereId t.index none with
                            ⟨indexT, resultT, leftT⟩
                          have hresult : resultS = resultT := by
                            rw [tableIndexFindRow_of_view hfindS,
                              tableIndexFindRow_of_view hfindT,
                              hview schema hschema, ← hdataDir]
                          subst hresult
                          rcases resultS with text | _ | rowOffset
                          · rfl
                          · rfl
                          · rfl

end Select

/-!
## Statements and runs of statements
-/

def statementId (schemaDir : SchemaDir) (faults : Faults)
    (state : EngineState) : Statement -> Option Int
  | .insertStatement statement => assignedId schemaDir statement faults state
  | .selectStatement _ => none

/-- A result, the output, and the id that was handed out. -/
structure Outcome where
  result : ExecResult
  output : Bytes
  id : Option Int

/-- Statements in a row, each with the write that fails in it if one does. -/
def runStatements (schemaDir : SchemaDir) :
    List (Statement × Option AppendFault) -> EngineState ->
      EngineState × List Outcome
  | [], state => (state, [])
  | (statement, append) :: statements, state =>
      let faults : Faults := { memory := none, append := append }
      let executed := executeStatement schemaDir statement faults state
      let rest := runStatements schemaDir statements executed.1
      (rest.1,
        { result := executed.2.1
          output := executed.2.2
          id := statementId schemaDir faults state statement } :: rest.2)

section Run

variable {s t : EngineState} (schemaDir : SchemaDir)

theorem executeStatement_sameAnswers (h : SameAnswers s t)
    (statement : Statement) (append : Option AppendFault) :
    (executeStatement schemaDir statement
          { memory := none, append := append } s).2 =
        (executeStatement schemaDir statement
          { memory := none, append := append } t).2 ∧
      SameAnswers
        (executeStatement schemaDir statement
          { memory := none, append := append } s).1
        (executeStatement schemaDir statement
          { memory := none, append := append } t).1 ∧
      statementId schemaDir { memory := none, append := append } s statement =
        statementId schemaDir { memory := none, append := append } t
          statement := by
  cases statement with
  | insertStatement statement =>
      rcases executeInsert_sameAnswers h schemaDir statement append with
        ⟨hresult, hafter, hid⟩
      exact ⟨by simp only [executeStatement, hresult], hafter, hid⟩
  | selectStatement statement =>
      refine ⟨?_, ?_, rfl⟩
      · simp only [executeStatement, executeSelect,
          selectTable_of_view h.dataDir fun schema _ => h.views
            schema.storageName]
      · exact (selectTable_sameAnswers schemaDir statement none s).trans
          (h.trans (selectTable_sameAnswers schemaDir statement none t).symm)

theorem runStatements_sameAnswers
    (statements : List (Statement × Option AppendFault)) :
    forall {s t : EngineState}, SameAnswers s t ->
      (runStatements schemaDir statements s).2 =
          (runStatements schemaDir statements t).2 ∧
        SameAnswers (runStatements schemaDir statements s).1
          (runStatements schemaDir statements t).1 := by
  induction statements with
  | nil => exact fun h => ⟨rfl, h⟩
  | cons statement statements ih =>
      intro s t h
      rcases statement with ⟨statement, append⟩
      rcases executeStatement_sameAnswers schemaDir h statement append with
        ⟨hresult, hafter, hid⟩
      rcases ih hafter with ⟨hrest, hfinal⟩
      exact ⟨by simp only [runStatements, hresult, hid, hrest], hfinal⟩

end Run

end Execution
end SqlCsvServer
